import Admissions.Text.Percent

namespace Admissions.Network

structure Octets where
  a : UInt8
  b : UInt8
  c : UInt8
  d : UInt8
deriving DecidableEq

inductive Address where
  | v4 (octets : Octets)
  | v6 (groups : Vector UInt16 8)
deriving DecidableEq

namespace Address

abbrev Reader (α : Type) := List Char → Option (α × List Char)

/-- At most three digits, the first of several not being zero. -/
def octet : Reader UInt8 := fun cs =>
  let digits := cs.takeWhile Char.isDigit
  let n := Nat.ofDigitChars 10 digits 0
  let leadingZero := digits.length > 1 ∧ digits.head? = some '0'
  if digits = [] ∨ digits.length > 3 ∨ leadingZero ∨ n > 255 then none
  else some (UInt8.ofNat n, cs.drop digits.length)

def dotThen : Reader UInt8
  | '.' :: rest => octet rest
  | _ => none

def octets : Reader Octets := fun cs => do
  let (a, rest) ← octet cs
  let (b, rest) ← dotThen rest
  let (c, rest) ← dotThen rest
  let (d, rest) ← dotThen rest
  return (⟨a, b, c, d⟩, rest)

def isHexDigit (c : Char) : Bool := (Text.hexValue c).isSome

def group : Reader UInt16 := fun cs =>
  let digits := cs.takeWhile isHexDigit
  if digits = [] ∨ digits.length > 4 then none
  else
    let n := digits.foldl (fun n c => 16 * n + (Text.hexValue c).getD 0) 0
    some (UInt16.ofNat n, cs.drop digits.length)

def Octets.groups (octets : Octets) : List UInt16 :=
  [octets.a.toUInt16 * 256 + octets.b.toUInt16, octets.c.toUInt16 * 256 + octets.d.toUInt16]

structure Run where
  groups : List UInt16
  endsInOctets : Bool
  rest : List Char

def afterColon (due : Bool) (cs : List Char) : Option (List Char) :=
  match due, cs with
  | false, cs => some cs
  | true, ':' :: rest => some rest
  | true, _ => none

def run : Nat → Bool → List Char → Run
  | 0, _, cs => ⟨[], false, cs⟩
  | most + 1, colonDue, cs =>
    match afterColon colonDue cs with
    | none => ⟨[], false, cs⟩
    | some body =>
      match if most = 0 then none else octets body with
      | some (found, rest) => ⟨Octets.groups found, true, rest⟩
      | none =>
        match group body with
        | none => ⟨[], false, cs⟩
        | some (first, rest) =>
          let more := run most true rest
          { more with groups := first :: more.groups }

def ofGroups? (groups : List UInt16) : Option Address :=
  if h : groups.length = 8 then some (.v6 ⟨groups.toArray, by simpa using h⟩) else none

/-- Eight groups, or fewer with `::` for the rest of them. -/
def groups : Reader (List UInt16) := fun cs =>
  let head := run 8 false cs
  if head.groups.length = 8 then some (head.groups, head.rest)
  else if head.endsInOctets then none
  else
    match head.rest with
    | ':' :: ':' :: rest =>
      let tail := run (7 - head.groups.length) false rest
      let zeros := List.replicate (8 - head.groups.length - tail.groups.length) 0
      some (head.groups ++ zeros ++ tail.groups, tail.rest)
    | _ => none

def ofText? (text : String) : Option Address :=
  match octets text.toList with
  | some (found, rest) => if rest = [] then some (.v4 found) else none
  | none => do
    let (found, rest) ← groups text.toList
    if rest = [] then ofGroups? found else none

def octetsText (octets : Octets) : List Char :=
  let decimal (n : UInt8) : List Char := Nat.toDigits 10 n.toNat
  decimal octets.a ++ '.' :: decimal octets.b ++ '.' :: decimal octets.c ++ '.' ::
    decimal octets.d

def octetsOf (high low : UInt16) : Octets :=
  ⟨(high / 256).toUInt8, high.toUInt8, (low / 256).toUInt8, low.toUInt8⟩

def joined : List UInt16 → List Char
  | [] => []
  | [group] => Nat.toDigits 16 group.toNat
  | group :: rest => Nat.toDigits 16 group.toNat ++ ':' :: joined rest

def zerosAt (groups : List UInt16) (start : Nat) : Nat :=
  ((groups.drop start).takeWhile (· == 0)).length

/-- The place of the longest run of zero groups, the first of equal ones. -/
def longestZeros (groups : List UInt16) : Nat :=
  (List.range groups.length).foldl (fun best start =>
    if zerosAt groups start > zerosAt groups best then start else best) 0

def groupsText (groups : List UInt16) : List Char :=
  match groups with
  | [0, 0, 0, 0, 0, 0xffff, high, low] =>
    [':', ':', 'f', 'f', 'f', 'f', ':'] ++ octetsText (octetsOf high low)
  | groups =>
    let start := longestZeros groups
    let length := zerosAt groups start
    if length ≤ 1 then joined groups
    else joined (groups.take start) ++ [':', ':'] ++ joined (groups.drop (start + length))

def text : Address → String
  | .v4 octets => String.ofList (octetsText octets)
  | .v6 groups => String.ofList (groupsText groups.toList)

end Address

structure SocketAddress where
  address : Address
  port : UInt16
deriving DecidableEq

def SocketAddress.text (socket : SocketAddress) : String :=
  let address := socket.address.text
  let host := match socket.address with
    | .v4 _ => address
    | .v6 _ => "[" ++ address ++ "]"
  host ++ ":" ++ toString socket.port.toNat

end Admissions.Network
