import Admissions.Proofs.CourseSelection.Way
import Admissions.Proofs.Offer.Way
import Admissions.Proofs.Permissions.Way
import Admissions.Proofs.Rejections.Checks
import Admissions.Proofs.Resubmission
import Admissions.Proofs.Wizard.Mistyped

namespace Admissions

open Json (Value)
open Wizard
open Wizard.ValidationErrors (UnderstoodIn understoodIn_pure)

namespace Flow

def decodes : Flow → String → Value → Bool
  | courseSelection => CourseSelection.decodes
  | offer => Offer.decodes
  | rejections => Rejections.decodes
  | permissions => Permissions.decodes

/-- The page takes a parameter of this name, and not with this value. -/
def mistypes (flow : Flow) (step : flow.wizard.Step) (param : String × Value) : Bool :=
  (flow.wizard.permitted step).contains param.1 && !flow.decodes param.1 param.2

theorem refuses_eq_mistypes (flow : Flow) (step : flow.wizard.Step) :
    flow.editing.refuses step = flow.mistypes step := by
  funext ⟨name, value⟩
  suffices read : (flow.wizard.permitted step).contains name = true →
      (flow.editing.edit step name value).isSome = flow.decodes name value by
    simp only [mistypes, Definition.Editing.refuses, ← Option.not_isSome]
    cases permitted : (flow.wizard.permitted step).contains name with
    | false => rfl
    | true => rw [read permitted]
  intro permitted
  cases flow with
  | courseSelection => exact CourseSelection.isSome_edit name value
  | offer => exact Offer.isSome_edit name value
  | rejections => exact Rejections.isSome_edit name value
  | permissions => exact Permissions.isSome_edit permitted value

theorem writable (flow : Flow) (answers : flow.wizard.Answers) :
    flow.wizard.writable answers = true := by
  cases flow <;> rfl

theorem understoodIn_validate (flow : Flow) (step : flow.wizard.Step)
    (answers : flow.wizard.Answers) (context : flow.wizard.Context) :
    UnderstoodIn (flow.wizard.validate step answers context) := by
  cases flow with
  | courseSelection => exact CourseSelection.understoodIn_validate step answers context
  | offer => exact Offer.understoodIn_validate step answers context
  | rejections => exact understoodIn_pure (Rejections.understood_validateReasons answers _)
  | permissions => exact understoodIn_pure (Permissions.understood_validate step answers context)

end Flow

/-- A submission in which parameters of the page cannot be read is refused with one message for each
    of these, whatever else it holds and whatever has been answered. Any other submission is refused,
    if at all, for what the page has against the answers, which is never said in the words of that
    message. -/
theorem mistyped_parameters_reported (flow : Flow) (session : Session flow.wizard)
    (params : SortedMap String Value) :
    let mistyped := params.entries.filter (flow.mistypes session.handle.step)
    (mistyped ≠ [] → ∃ errors : ValidationErrors,
      session.advance params.entries = (.ok (.invalid errors), session) ∧
      errors.messages.entries = mistyped.map fun param => (param.1, ["is not a valid value"])) ∧
    (mistyped = [] → ∀ errors after,
      session.advance params.entries = (.ok (.invalid errors), after) → errors.Understood) := by
  rw [← flow.refuses_eq_mistypes]
  constructor
  · intro refused
    exact ⟨_, flow.editing.advance_of_refused (flow.writable _) refused,
      flow.editing.refusals_entries session.handle.step params⟩
  · intro fine errors after invalid
    obtain ⟨answers, validated⟩ := flow.editing.validated_of_invalid fine invalid
    exact flow.understoodIn_validate _ _ _ errors validated

def unticked : Session Flow.permissions.wizard :=
  ⟨.empty, ⟨⟨"k"⟩, setUpContext, Permissions.Step.permissions 12, ⟨[12, 7], .empty, false⟩⟩⟩

def mistypedTicks : SortedMap String Value :=
  .ofList [("view_diversity_information", .string "training_provider"),
    ("make_decisions", .list .string ["training_provider"]),
    ("provider_relationships", .bool true), ("checking_answers", .string "yes")]

theorem mistyped_parameters_reported_unticked :
    (∃ errors : ValidationErrors,
      unticked.advance mistypedTicks.entries = (.ok (.invalid errors), unticked) ∧
      errors.messages.entries = [("checking_answers", ["is not a valid value"]),
        ("view_diversity_information", ["is not a valid value"])]) ∧
    ∃ errors : ValidationErrors,
      unticked.advance [] = (.ok (.invalid errors), unticked) ∧ errors.isEmpty = false ∧
      errors.Understood := by
  have mistyped : mistypedTicks.entries.filter (Flow.permissions.mistypes unticked.handle.step) =
      [("checking_answers", .string "yes"),
        ("view_diversity_information", .string "training_provider")] := rfl
  constructor
  · have reported := (mistyped_parameters_reported .permissions unticked mistypedTicks).1
    rw [mistyped] at reported
    exact reported (by simp)
  · let errors := Permissions.permissionErrors .empty
    have missing : unticked.advance [] = (.ok (.invalid errors), unticked) := rfl
    exact ⟨errors, missing, rfl,
      (mistyped_parameters_reported .permissions unticked .empty).2 rfl errors _ missing⟩

end Admissions
