import Admissions.RecordError
import Admissions.Wizard.Store
import Admissions.Wizard.Target
import Admissions.Wizard.ValidationErrors

namespace Admissions.Wizard

open Json (Value Object)

/-- Why a wizard fails. What its own rules presuppose is of type `κ`. -/
inductive Failure (κ : Type) where
  | store (error : StoreError)
  | lookup (cause : String)
  | undeclaredStep (name : String)
  | endlessSteps (wizard : String)
  | notAnObject (wizard : String)
  | unreadableAnswers
  | unwritableState
  | violated (cause : κ)
deriving DecidableEq

namespace Failure

def precondition (text : String) : String := "wizard precondition violated: " ++ text

def message {κ : Type} (describe : κ → String) : Failure κ → String
  | .store error => error.message
  | .lookup cause => "lookup failed: " ++ cause
  | .undeclaredStep name => "step `" ++ name ++ "` is not declared by this wizard"
  | .endlessSteps wizard => precondition (wizard ++ " step graph does not terminate")
  | .notAnObject wizard => precondition (wizard ++ " attributes must serialize to an object")
  | .unreadableAnswers => "wizard attributes could not be serialized"
  | .unwritableState => "wizard attributes could not be serialized"
  | .violated cause => precondition (describe cause)

def kind {κ : Type} : Failure κ → String
  | .store error => error.kind
  | .lookup _ => "lookup"
  | .undeclaredStep _ => "unknown_step"
  | .endlessSteps _ => "precondition"
  | .notAnObject _ => "precondition"
  | .unreadableAnswers => "serialization"
  | .unwritableState => "serialization"
  | .violated _ => "precondition"

def toJson {κ : Type} (describe : κ → String) (failure : Failure κ) : Value :=
  errorJson failure.kind (failure.message describe)

def ofLookup {κ α : Type} (result : Except RecordError α) : Except (Failure κ) α :=
  result.mapError fun error => .lookup error.message

end Failure

structure Definition where
  Step : Type
  Answers : Type
  Context : Type
  Output : Type
  Violation : Type
  stepEq : DecidableEq Step
  name : String
  /-- Goes up whenever answers saved before can no longer be read. -/
  schemaVersion : Nat
  declared : List String
  describe : Violation → String
  stepName : Step → String
  stepToJson : Step → Value
  stepOfJson? : Value → Option Step
  stepWritable : Step → Bool := fun _ => true
  blank : Answers
  toJson : Answers → Value
  ofJson? : Value → Option Answers
  /-- Answers have a form as JSON; a map whose keys are no texts has none. -/
  writable : Answers → Bool := fun _ => true
  first : Context → Step
  permitted : Step → List String
  validate : Step → Answers → Context → Except (Failure Violation) ValidationErrors
  next : Step → Answers → Context → Except (Failure Violation) (Target Step)
  previous : Step → Answers → Context → Except (Failure Violation) (Target Step)
  nextAfterSubmit : Step → Answers → Context → Except (Failure Violation) (Target Step)
  completed : Step → Answers → Context → Except (Failure Violation) Bool
  assign : Step → Object → String → Value → Object
  materialize : Answers → Context → Except (Failure Violation) Output
  /-- Rewrites answers saved under an older version, or gives them up. -/
  upgrade : Nat → Object → Option Object

instance (wizard : Definition) : DecidableEq wizard.Step := wizard.stepEq

namespace Definition

variable (wizard : Definition)

abbrev Result (α : Type) : Type := Except (Failure wizard.Violation) α

def resolve (target : Target wizard.Step) : wizard.Result (Target wizard.Step) :=
  match target with
  | .exit => .ok .exit
  | .step s =>
    if wizard.declared.contains (wizard.stepName s) then .ok (.step s)
    else .error (.undeclaredStep (wizard.stepName s))

end Definition

end Admissions.Wizard
