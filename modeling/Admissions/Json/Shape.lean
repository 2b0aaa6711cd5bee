import Admissions.Json.Document

namespace Admissions.Json

inductive Shape where
  /-- A value without named fields; an object has one member at most. -/
  | atom
  | list (item : Shape)
  | record (fields : List (String × Shape))

namespace Document

mutual

def shaped : Shape → Document → Option Value
  | .list item, .array items => (shapedItems item items).map .array
  | .record fields, .array items => (shapedInOrder fields items).map .array
  | .record fields, .object members => (shapedMembers fields [] members).map .object
  | _, .object [] => some (.object [])
  | _, .object [(some name, item)] => do return .object [(name, ← item.value?)]
  | _, .object _ => none
  | _, document => document.value?

def shapedItems (item : Shape) : List Document → Option (List Value)
  | [] => some []
  | first :: rest => do
    let value ← shaped item first
    let values ← shapedItems item rest
    return value :: values

def shapedInOrder : List (String × Shape) → List Document → Option (List Value)
  | _, [] => some []
  | [], _ :: _ => none
  | (_, field) :: fields, first :: rest => do
    let value ← shaped field first
    let values ← shapedInOrder fields rest
    return value :: values

def shapedMembers (fields : List (String × Shape)) (read : Object) :
    List (Option String × Document) → Option Object
  | [] => some read
  | (name, item) :: rest => do
    let name ← name
    match fields.lookup name with
    | none => shapedMembers fields read rest
    | some field =>
      if (read.get? name).isSome then none
      else
        let value ← shaped field item
        shapedMembers fields (read.insert name value) rest

end

end Document

end Admissions.Json
