import Admissions.Double
import Admissions.SortedMap

namespace Admissions.Json

/-- A whole number between `-2 ^ 63` and `2 ^ 64 - 1`, or a double. -/
inductive Number where
  | int (n : Int)
  | float (x : Double)
deriving DecidableEq

/-- Equality of numbers; a whole number never equals a double. -/
def Number.same : Number → Number → Bool
  | .int m, .int n => m == n
  | .float x, .float y => x.sameValue y
  | _, _ => false

inductive Value where
  | null
  | bool (b : Bool)
  | number (n : Number)
  | string (s : String)
  | array (items : List Value)
  | object (members : List (String × Value))

abbrev Object := List (String × Value)

instance : Inhabited Value := ⟨.null⟩

namespace Value

def int (n : Int) : Value := .number (.int n)

def nat (n : Nat) : Value := .int n

def uint64 (n : UInt64) : Value := .nat n.toNat

def uint32 (n : UInt32) : Value := .nat n.toNat

def int32 (n : Int32) : Value := .int n.toInt

def optional {α : Type} (encode : α → Value) : Option α → Value
  | none => .null
  | some x => encode x

def list {α : Type} (encode : α → Value) (items : List α) : Value := .array (items.map encode)

def record (members : List (String × Value)) : Value :=
  .object (SortedMap.ofList members).entries

mutual

def same : Value → Value → Bool
  | .null, .null => true
  | .bool a, .bool b => a == b
  | .number m, .number n => m.same n
  | .string s, .string t => s == t
  | .array xs, .array ys => sameItems xs ys
  | .object xs, .object ys => sameMembers xs ys
  | _, _ => false

def sameItems : List Value → List Value → Bool
  | [], [] => true
  | x :: xs, y :: ys => same x y && sameItems xs ys
  | _, _ => false

def sameMembers : List (String × Value) → List (String × Value) → Bool
  | [], [] => true
  | (j, x) :: xs, (k, y) :: ys => j == k && same x y && sameMembers xs ys
  | _, _ => false

end

mutual

def depth : Value → Nat
  | .array items => itemsDepth items + 1
  | .object members => membersDepth members + 1
  | _ => 0

def itemsDepth : List Value → Nat
  | [] => 0
  | item :: rest => max (depth item) (itemsDepth rest)

def membersDepth : List (String × Value) → Nat
  | [] => 0
  | (_, item) :: rest => max (depth item) (membersDepth rest)

end

mutual

/-- Every object lists its members in ascending order and every whole number is in range. -/
def Canonical : Value → Prop
  | .number (.int n) => Int64.minValue.toInt ≤ n ∧ n < UInt64.size
  | .array items => CanonicalItems items
  | .object members => Ascending members ∧ CanonicalMembers members
  | _ => True

def CanonicalItems : List Value → Prop
  | [] => True
  | item :: rest => Canonical item ∧ CanonicalItems rest

def CanonicalMembers : List (String × Value) → Prop
  | [] => True
  | (_, item) :: rest => Canonical item ∧ CanonicalMembers rest

end

end Value

namespace Object

def get? (members : Object) (name : String) : Option Value := lookupEntry name members

def insert (members : Object) (name : String) (value : Value) : Object :=
  insertEntry name value members

def erase (members : Object) (name : String) : Object := eraseEntry name members

end Object

end Admissions.Json
