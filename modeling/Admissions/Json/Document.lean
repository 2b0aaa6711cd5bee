import Admissions.Json.Value

namespace Admissions.Json

inductive Document where
  | null
  | bool (b : Bool)
  | number (n : Option Number)
  | string (s : Option String)
  | array (items : List Document)
  | object (members : List (Option String × Document))

def greatestDepth : Nat := 127

namespace Document

mutual

/-- The value of a document with at most `depth` arrays and objects in each other. Of members with
    one name the last counts. -/
def valueWithin (depth : Nat) : Document → Option Value
  | .null => some .null
  | .bool b => some (.bool b)
  | .number n => n.map .number
  | .string s => s.map .string
  | .array items =>
    if depth = 0 then none else (itemsWithin (depth - 1) items).map .array
  | .object members =>
    if depth = 0 then none else (membersWithin (depth - 1) [] members).map .object

def itemsWithin (depth : Nat) : List Document → Option (List Value)
  | [] => some []
  | item :: rest => do
    let value ← valueWithin depth item
    let values ← itemsWithin depth rest
    return value :: values

def membersWithin (depth : Nat) (read : Object) : List (Option String × Document) → Option Object
  | [] => some read
  | (name, item) :: rest => do
    let name ← name
    let value ← valueWithin depth item
    membersWithin depth (read.insert name value) rest

end

def value? (document : Document) : Option Value := document.valueWithin greatestDepth

end Document

end Admissions.Json
