import Admissions.Json.Value
import Admissions.Text.Blank

namespace Admissions.Wizard

open Json (Value)

structure ValidationErrors where
  messages : SortedMap String (List String)
deriving DecidableEq

namespace ValidationErrors

def empty : ValidationErrors := ⟨.empty⟩

instance : Inhabited ValidationErrors := ⟨empty⟩

def get (errors : ValidationErrors) (field : String) : List String :=
  (errors.messages.get? field).getD []

def contains (errors : ValidationErrors) (field : String) : Bool := errors.messages.contains field

def isEmpty (errors : ValidationErrors) : Bool := errors.messages.isEmpty

def fields (errors : ValidationErrors) : List String := errors.messages.keys

def size (errors : ValidationErrors) : Nat := errors.messages.values.flatten.length

def extend (errors : ValidationErrors) (field : String) (more : List String) : ValidationErrors :=
  ⟨errors.messages.insert field (errors.get field ++ more)⟩

def add (errors : ValidationErrors) (field message : String) : ValidationErrors :=
  errors.extend field [message]

def single (field message : String) : ValidationErrors := empty.add field message

def addIf (errors : ValidationErrors) (condition : Bool) (field message : String) :
    ValidationErrors :=
  if condition then errors.add field message else errors

def merge (errors other : ValidationErrors) : ValidationErrors :=
  other.messages.entries.foldl (fun errors entry => errors.extend entry.1 entry.2) errors

def toJson (errors : ValidationErrors) : Value :=
  .object (errors.messages.entries.map fun entry => (entry.1, .list .string entry.2))

end ValidationErrors

inductive Answer where
  | missing
  | number (n : UInt64)
  | text (s : String)
  | list (items : List Answer)

namespace Answer

mutual

/-- Given, and not blank; a list needs one such item. -/
def isPresent : Answer → Bool
  | .missing => false
  | .number _ => true
  | .text s => Text.isPresent s
  | .list items => anyPresent items

def anyPresent : List Answer → Bool
  | [] => false
  | item :: rest => isPresent item || anyPresent rest

end

end Answer

def ValidationErrors.require (errors : ValidationErrors) (field : String) (answer : Answer)
    (message : String) : ValidationErrors :=
  errors.addIf (!answer.isPresent) field message

end Admissions.Wizard
