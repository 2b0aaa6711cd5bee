import Admissions.Json.Decoding

namespace Admissions.Wizard

open Json (Value)

inductive Target (σ : Type) where
  | step (s : σ)
  | exit
deriving DecidableEq

namespace Target

variable {σ : Type}

def step? : Target σ → Option σ
  | .step s => some s
  | .exit => none

def toJson (encode : σ → Value) : Target σ → Value
  | .step s => .record [("kind", .string "step"), ("step", encode s)]
  | .exit => .record [("kind", .string "exit")]

def ofParts? (decode : Value → Option σ) (kind : String) (content : Option Value) :
    Option (Target σ) :=
  match kind, content with
  | "step", some content => (decode content).map .step
  | "exit", none => some .exit
  | "exit", some .null => some .exit
  | _, _ => none

/-- Reads the object, or an array of kind and content. In the array the kind is a plain string. -/
def ofJson? (decode : Value → Option σ) : Value → Option (Target σ)
  | .object members => do
    ofParts? decode (← (← Json.Object.get? members "kind").tag?) (Json.Object.get? members "step")
  | .array [kind, content] => do ofParts? decode (← kind.string?) (some content)
  | _ => none

end Target

end Admissions.Wizard
