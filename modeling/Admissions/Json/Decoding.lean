import Admissions.Json.Value

namespace Admissions.Json

namespace Value

def bool? : Value → Option Bool
  | .bool b => some b
  | _ => none

def string? : Value → Option String
  | .string s => some s
  | _ => none

def int? (least greatest : Int) : Value → Option Int
  | .number (.int n) => if least ≤ n ∧ n ≤ greatest then some n else none
  | _ => none

def uint64? (value : Value) : Option UInt64 :=
  (value.int? 0 (UInt64.size - 1)).map fun n => UInt64.ofNat n.toNat

def uint32? (value : Value) : Option UInt32 :=
  (value.int? 0 (UInt32.size - 1)).map fun n => UInt32.ofNat n.toNat

def int32? (value : Value) : Option Int32 :=
  (value.int? Int32.minValue.toInt Int32.maxValue.toInt).map Int32.ofInt

def optional? {α : Type} (decode : Value → Option α) : Value → Option (Option α)
  | .null => some none
  | value => (decode value).map some

def list? {α : Type} (decode : Value → Option α) : Value → Option (List α)
  | .array items => items.mapM decode
  | _ => none

def object? : Value → Option Object
  | .object members => some members
  | _ => none

/-- Entries of an object with their keys and values read; equal keys count once, the last one. -/
def map? {κ ν : Type} [Ord κ] [Std.TransOrd κ] [Std.LawfulEqOrd κ] (key : String → Option κ)
    (decode : Value → Option ν) : Value → Option (SortedMap κ ν)
  | .object members => do
    let pairs ← members.mapM fun (name, value) => do return (← key name, ← decode value)
    return SortedMap.ofList pairs
  | _ => none

def tag? : Value → Option String
  | .string s => some s
  | .object [(name, .null)] => some name
  | _ => none

def choice? {α : Type} (name : α → String) (choices : List α) (value : Value) : Option α := do
  let tag ← value.tag?
  choices.find? fun choice => name choice == tag

end Value

structure Record where
  positional : Bool
  field : String → Option Value

namespace Value

/-- Reads a record with the given fields; as an array it may not have more items than fields. -/
def record? (names : List String) : Value → Option Record
  | .object members => some ⟨false, fun name => Object.get? members name⟩
  | .array items =>
    if items.length ≤ names.length then some ⟨true, fun name => items[names.idxOf name]?⟩ else none
  | _ => none

end Value

namespace Record

variable {α : Type} (record : Record) (name : String) (decode : Value → Option α)

def required : Option α := do decode (← record.field name)

def withDefault (default : α) : Option α :=
  match record.field name with
  | none => some default
  | some value => decode value

/-- A missing field reads as nothing, but an array may not leave it out. -/
def optional : Option (Option α) :=
  match record.field name with
  | none => if record.positional then none else some none
  | some value => value.optional? decode

end Record

/-- A whole number as the key of a map: decimal digits without sign or leading zero. -/
def uint64Key? (name : String) : Option UInt64 :=
  let digits := name.toList
  let leadingZero := digits.head? = some '0' ∧ digits ≠ ['0']
  let canonical := digits ≠ [] ∧ digits.all Char.isDigit ∧ ¬leadingZero
  let n := Nat.ofDigitChars 10 digits 0
  if canonical ∧ n < UInt64.size then some (UInt64.ofNat n) else none

end Admissions.Json
