import Admissions.Json.Document
import Admissions.Text.Percent

namespace Admissions.Json

namespace Reader

def isSpace (c : Char) : Bool := c = ' ' ∨ c = '\n' ∨ c = '\t' ∨ c = '\r'

def skipSpace (cs : List Char) : List Char := cs.dropWhile isSpace

inductive Piece where
  | char (c : Char)
  | unit (n : Nat)

def hexUnit (a b c d : Char) : Option Nat := do
  let a ← Text.hexValue a
  let b ← Text.hexValue b
  let c ← Text.hexValue c
  let d ← Text.hexValue d
  return ((a * 16 + b) * 16 + c) * 16 + d

def pieces : List Char → Option (List Piece × List Char)
  | '"' :: rest => some ([], rest)
  | '\\' :: 'u' :: a :: b :: c :: d :: rest => do
    let unit ← hexUnit a b c d
    let (more, rest) ← pieces rest
    return (.unit unit :: more, rest)
  | '\\' :: c :: rest => do
    let meant ← (match c with
      | '"' => some '"'
      | '\\' => some '\\'
      | '/' => some '/'
      | 'b' => some '\x08'
      | 'f' => some '\x0c'
      | 'n' => some '\n'
      | 'r' => some '\r'
      | 't' => some '\t'
      | _ => none)
    let (more, rest) ← pieces rest
    return (.char meant :: more, rest)
  | c :: rest => do
    if c.toNat < 0x20 ∨ c = '\\' then none
    else
      let (more, rest) ← pieces rest
      return (.char c :: more, rest)
  | [] => none

def isHigh (n : Nat) : Bool := 0xD800 ≤ n && n < 0xDC00

def isLow (n : Nat) : Bool := 0xDC00 ≤ n && n < 0xE000

/-- The characters that the pieces spell; a unit of a surrogate pair needs its partner. -/
def spell : List Piece → Option (List Char)
  | [] => some []
  | .char c :: rest => (spell rest).map (c :: ·)
  | .unit high :: .unit low :: rest =>
    if isHigh high ∧ isLow low then
      (spell rest).map (Char.ofNat (0x10000 + (high - 0xD800) * 0x400 + (low - 0xDC00)) :: ·)
    else if isHigh high ∨ isLow high then none
    else (spell (.unit low :: rest)).map (Char.ofNat high :: ·)
  | .unit n :: rest =>
    if isHigh n ∨ isLow n then none else (spell rest).map (Char.ofNat n :: ·)

def stringBody (cs : List Char) : Option (Option String × List Char) := do
  let (found, rest) ← pieces cs
  return ((spell found).map String.ofList, rest)

def digitRun (cs : List Char) : List Char × List Char :=
  (cs.takeWhile Char.isDigit, cs.dropWhile Char.isDigit)

structure Numeral where
  negative : Bool
  whole : List Char
  fraction : Option (List Char)
  exponent : Option Int

/-- Adds digits to a significand while it stays below `2 ^ 64`; gives the significand and how many
    digits it took. -/
def takeDigits (significand : Nat) : List Char → Nat × Nat
  | [] => (significand, 0)
  | c :: rest =>
    let next := significand * 10 + (c.toNat - '0'.toNat)
    if next < UInt64.size then
      let (final, taken) := takeDigits next rest
      (final, taken + 1)
    else (significand, 0)

/-- A number without point and exponent is whole if it fits; any other is a double, read from a
    64-bit significand and a power of ten. -/
def Numeral.number (numeral : Numeral) : Option Number :=
  let (significand, taken) := takeDigits 0 numeral.whole
  let dropped := numeral.whole.length - taken
  let double (significand : Nat) (exponent : Int) : Option Number := do
    let x ← (← Double.ofNat significand).scaleByTen exponent
    return .float ⟨numeral.negative, x.significand, x.exponent⟩
  match numeral.fraction, numeral.exponent with
  | none, none =>
    if dropped > 0 then double significand dropped
    else if numeral.negative then
      if significand = 0 ∨ significand > 1 <<< 63 then double significand 0
      else some (.int (-significand))
    else some (.int significand)
  | fraction, exponent =>
    let (significand, places) := takeDigits significand (fraction.getD [])
    double significand (dropped - places + exponent.getD 0)

def fraction : List Char → Option (Option (List Char) × List Char)
  | '.' :: rest =>
    let (digits, rest) := digitRun rest
    if digits = [] then none else some (some digits, rest)
  | cs => some (none, cs)

def signedDigits (negative : Bool) (cs : List Char) : Option (Int × List Char) :=
  let (digits, rest) := digitRun cs
  if digits = [] then none
  else
    let n : Int := Nat.ofDigitChars 10 digits 0
    some (if negative then -n else n, rest)

def exponent (cs : List Char) : Option (Option Int × List Char) :=
  let after := match cs with
    | 'e' :: rest => some rest
    | 'E' :: rest => some rest
    | _ => none
  match after with
  | none => some (none, cs)
  | some ('-' :: rest) => (signedDigits true rest).map fun (n, rest) => (some n, rest)
  | some ('+' :: rest) => (signedDigits false rest).map fun (n, rest) => (some n, rest)
  | some rest => (signedDigits false rest).map fun (n, rest) => (some n, rest)

def wholeDigits : List Char → Option (List Char × List Char)
  | '0' :: rest => some (['0'], rest)
  | cs =>
    let (digits, rest) := digitRun cs
    if digits = [] then none else some (digits, rest)

def unsigned (negative : Bool) (cs : List Char) : Option (Option Number × List Char) := do
  let (whole, rest) ← wholeDigits cs
  let (fraction, rest) ← fraction rest
  let (exponent, rest) ← exponent rest
  return (Numeral.number ⟨negative, whole, fraction, exponent⟩, rest)

def number : List Char → Option (Option Number × List Char)
  | '-' :: rest => unsigned true rest
  | cs => unsigned false cs

mutual

/-- Reads a value. The fuel bounds the nesting; `parse` gives enough for any text. -/
def document : Nat → List Char → Option (Document × List Char)
  | 0, _ => none
  | fuel + 1, cs =>
    match skipSpace cs with
    | 'n' :: 'u' :: 'l' :: 'l' :: rest => some (.null, rest)
    | 't' :: 'r' :: 'u' :: 'e' :: rest => some (.bool true, rest)
    | 'f' :: 'a' :: 'l' :: 's' :: 'e' :: rest => some (.bool false, rest)
    | '"' :: rest => do
      let (s, rest) ← stringBody rest
      return (.string s, rest)
    | '[' :: rest =>
      match skipSpace rest with
      | ']' :: rest => some (.array [], rest)
      | rest => do
        let (items, rest) ← items fuel rest
        return (.array items, rest)
    | '\x7b' :: rest =>
      match skipSpace rest with
      | '\x7d' :: rest => some (.object [], rest)
      | rest => do
        let (members, rest) ← members fuel rest
        return (.object members, rest)
    | rest => do
      let (n, rest) ← number rest
      return (.number n, rest)

def items : Nat → List Char → Option (List Document × List Char)
  | 0, _ => none
  | fuel + 1, cs => do
    let (item, rest) ← document fuel cs
    match skipSpace rest with
    | ',' :: rest =>
      let (more, rest) ← items fuel rest
      return (item :: more, rest)
    | ']' :: rest => return ([item], rest)
    | _ => none

def members : Nat → List Char → Option (List (Option String × Document) × List Char)
  | 0, _ => none
  | fuel + 1, cs =>
    match skipSpace cs with
    | '"' :: rest => do
      let (name, rest) ← stringBody rest
      match skipSpace rest with
      | ':' :: rest =>
        let (item, rest) ← document fuel rest
        match skipSpace rest with
        | ',' :: rest =>
          let (more, rest) ← members fuel rest
          return ((name, item) :: more, rest)
        | '\x7d' :: rest => return ([(name, item)], rest)
        | _ => none
      | _ => none
    | _ => none

end

end Reader

def parse (text : String) : Option Document := do
  let cs := text.toList
  let (document, rest) ← Reader.document (2 * cs.length + 1) cs
  if Reader.skipSpace rest = [] then some document else none

def parseValue (text : String) : Option Value := do (← parse text).value?

end Admissions.Json
