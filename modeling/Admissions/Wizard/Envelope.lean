import Admissions.Json.Decoding
import Admissions.Wizard.Definition

namespace Admissions.Wizard

open Json (Value Object)

namespace Definition

variable (wizard : Definition)

def envelope (step : wizard.Step) (answers : wizard.Answers) : Object :=
  [("attributes", wizard.toJson answers), ("current_step", wizard.stepToJson step),
    ("version", .nat wizard.schemaVersion)]

/-- The version of a stored object; one that is missing or not a 32-bit number counts as 0. -/
def storedVersion (state : Object) : Nat :=
  match (state.get? "version").bind Value.uint32? with
  | some version => version.toNat
  | none => 0

def ofEnvelope? (state : Object) : Option (wizard.Step × wizard.Answers) := do
  let _ ← (← state.get? "version").uint32?
  let step ← wizard.stepOfJson? (← state.get? "current_step")
  let answers ← wizard.ofJson? (← state.get? "attributes")
  return (step, answers)

def restore? (state : Object) : Option (wizard.Step × wizard.Answers) :=
  let version := storedVersion state
  if version = wizard.schemaVersion then wizard.ofEnvelope? state
  else if version < wizard.schemaVersion then do
    let saved := match state.get? "attributes" with
      | some (.object saved) => saved
      | _ => []
    let upgraded ← wizard.upgrade version saved
    wizard.ofEnvelope? ((state.insert "version" (.nat wizard.schemaVersion)).insert "attributes"
      (.object upgraded))
  else none

end Definition

end Admissions.Wizard
