namespace Admissions

/-- Stands for `± significand * 2 ^ exponent`. The significand has 53 bits, or fewer at the least
    exponent, which is -1074. -/
structure Double where
  negative : Bool
  significand : Nat
  exponent : Int
deriving DecidableEq

namespace Double

def leastExponent : Int := -1074

def greatestExponent : Int := 971

def zero (negative : Bool) : Double := ⟨negative, 0, leastExponent⟩

def isZero (x : Double) : Bool := x.significand == 0

/-- Equality of values: the sign of zero does not count. -/
def sameValue (x y : Double) : Bool := x == y || x.isZero && y.isZero

def scaled (num den : Nat) (exponent : Int) : Nat × Nat :=
  if exponent ≥ 0 then (num, den <<< exponent.toNat) else (num <<< (-exponent).toNat, den)

def nearest (num den : Nat) : Nat :=
  let quotient := num / den
  let twice := 2 * (num % den)
  if twice < den then quotient
  else if twice > den then quotient + 1
  else if quotient % 2 = 0 then quotient else quotient + 1

def fittingExponent (num den : Nat) : Int :=
  let estimate : Int := (num.log2 : Int) - den.log2 - 52
  let (n, d) := scaled num den estimate
  max (if n < d <<< 52 then estimate - 1 else estimate) leastExponent

/-- The double nearest to a quotient; `none` past the greatest one. -/
def ofRatio (negative : Bool) (num den : Nat) : Option Double :=
  if num = 0 then some (zero negative)
  else
    let exponent := fittingExponent num den
    let (n, d) := scaled num den exponent
    let significand := nearest n d
    let (significand, exponent) :=
      if significand = 1 <<< 53 then (1 <<< 52, exponent + 1) else (significand, exponent)
    if exponent > greatestExponent then none else some ⟨negative, significand, exponent⟩

def ofNat (n : Nat) : Option Double := ofRatio false n 1

def ratio (x : Double) : Nat × Nat :=
  if x.exponent ≥ 0 then (x.significand <<< x.exponent.toNat, 1)
  else (x.significand, 1 <<< (-x.exponent).toNat)

def mul (x y : Double) : Option Double :=
  ofRatio (x.negative != y.negative) (x.ratio.1 * y.ratio.1) (x.ratio.2 * y.ratio.2)

def div (x y : Double) : Option Double :=
  ofRatio (x.negative != y.negative) (x.ratio.1 * y.ratio.2) (x.ratio.2 * y.ratio.1)

/-- A significand times a power of ten. The power is rounded before it is applied, and one past
    308 is applied in several steps. -/
def scaleByTen (x : Double) (exponent : Int) : Option Double :=
  if -308 ≤ exponent ∧ exponent ≤ 308 then do
    let power ← ofNat (Nat.pow 10 exponent.natAbs)
    if exponent ≥ 0 then x.mul power else x.div power
  else if x.isZero then some x
  else if exponent > 0 then none
  else do
    let smaller ← x.div (← ofNat (Nat.pow 10 308))
    scaleByTen smaller (exponent + 308)
termination_by exponent.natAbs
decreasing_by omega

structure Digits where
  value : Nat
  exponent : Int
deriving DecidableEq

/-- The numbers that round to `x`, between the halves towards its neighbours, all over one
    denominator: lower end, value, upper end and denominator. -/
def halfway (x : Double) : Nat × Nat × Nat × Nat :=
  let below := if x.significand = 1 <<< 52 ∧ x.exponent > leastExponent then 1 else 2
  let (n, d) := scaled 1 4 (-x.exponent)
  ((4 * x.significand - below) * n, 4 * x.significand * n, (4 * x.significand + 2) * n, d)

/-- The power of ten above the value: `10 ^ (p - 1) ≤ num / den < 10 ^ p`. -/
def decimalMagnitude (num den : Nat) : Int :=
  let estimate : Int := ((num.log2 : Int) - den.log2) * 30103 / 100000 - 1
  let atLeast (p : Int) : Bool :=
    if p ≥ 0 then num ≥ den * Nat.pow 10 p.toNat else num * Nat.pow 10 (-p).toNat ≥ den
  let above := (List.range 6).foldl (fun p _ => if atLeast p then p + 1 else p) estimate
  above

/-- A point of the grid with `count` digits that reads back as `x`: the nearer of the two around
    the value, the even one for a tie. -/
def onGrid (x : Double) (count : Nat) : Option Digits :=
  let (low, value, high, den) := halfway x
  let unit := decimalMagnitude value den - count
  let (up, down) : Nat × Nat :=
    if unit ≥ 0 then (Nat.pow 10 unit.toNat, 1) else (1, Nat.pow 10 (-unit).toNat)
  let left := value * down / (den * up)
  let closed := x.significand % 2 = 0
  let inside (n : Nat) : Bool :=
    let point := n * den * up
    if closed then low * down ≤ point ∧ point ≤ high * down
    else low * down < point ∧ point < high * down
  let gapLeft := value * down - left * den * up
  let gapRight := (left + 1) * den * up - value * down
  match inside left, inside (left + 1) with
  | true, true =>
    if gapLeft < gapRight ∨ gapLeft = gapRight ∧ left % 2 = 0 then some ⟨left, unit⟩
    else some ⟨left + 1, unit⟩
  | true, false => some ⟨left, unit⟩
  | false, true => some ⟨left + 1, unit⟩
  | false, false => none

/-- Seventeen digits always suffice. -/
def shortest (x : Double) : Digits :=
  ((List.range 17).findSome? fun n => onGrid x (n + 1)).getD ⟨0, 0⟩

structure Layout where
  leastPlain : Int
  greatestPlain : Int
  exponentWidth : Nat

def withoutEndZeros : List Char → List Char
  | '0' :: c :: rest => withoutEndZeros (c :: rest)
  | cs => cs

def exponentText (width : Nat) (exponent : Int) : List Char :=
  let digits := Nat.toDigits 10 exponent.natAbs
  ['e', if exponent < 0 then '-' else '+'] ++ List.replicate (width - digits.length) '0' ++ digits

def write (layout : Layout) (x : Double) : List Char :=
  let sign := if x.negative then ['-'] else []
  if x.isZero then sign ++ ['0', '.', '0']
  else
    let found := x.shortest
    let all := Nat.toDigits 10 found.value
    let lead : Int := all.length - 1 + found.exponent
    let digits := (withoutEndZeros all.reverse).reverse
    let text :=
      if layout.leastPlain ≤ lead ∧ lead ≤ layout.greatestPlain then
        if lead < 0 then
          ['0', '.'] ++ List.replicate (-lead - 1).toNat '0' ++ digits
        else
          let whole := lead.toNat + 1
          digits.take whole ++ List.replicate (whole - digits.length) '0' ++ ['.'] ++
            (if digits.length ≤ whole then ['0'] else digits.drop whole)
      else
        digits.take 1 ++ (if digits.length > 1 then '.' :: digits.drop 1 else []) ++
          exponentText layout.exponentWidth lead
    sign ++ text

end Double

end Admissions
