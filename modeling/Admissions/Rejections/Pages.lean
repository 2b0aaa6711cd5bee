import Admissions.Rejections.Answers
import Admissions.Text.Lowercase
import Admissions.Wizard.Handle

namespace Admissions.Rejections

open Json (Value Object)
open Wizard (Failure Target ValidationErrors)

def checkDetails (answers : Answers) (errors : ValidationErrors) (reason : Reason) :
    ValidationErrors :=
  match reason.details with
  | none => errors
  | some box =>
    let text := (answers.details.get? box.id).getD ""
    if !Text.isPresent text then errors.add box.id ("Enter " ++ Text.lowercase box.label)
    else errors.addIf (Text.wordCount text > greatestWordCount) box.id
      (box.label ++ " must be 200 words or fewer")

def unknownReason (id : String) : String := "Unknown rejection reason `" ++ id ++ "`"

/-- Checks one selected reason: its own details, or those of the reasons selected under it. -/
def checkReason (answers : Answers) (errors : ValidationErrors) (reason : Reason) :
    ValidationErrors :=
  if reason.subReasons.isEmpty then checkDetails answers errors reason
  else
    let field := reason.id ++ "_selected_reasons"
    let chosen := (answers.chosenUnder reason.id).filter Text.isPresent
    if chosen.isEmpty then
      errors.add field ("Select reasons related to " ++ Text.lowercase reason.label)
    else
      chosen.foldl (fun errors id =>
        match findReason reason.subReasons id with
        | some subReason => checkDetails answers errors subReason
        | none => errors.add field (unknownReason id)) errors

def validateReasons (answers : Answers) (reasons : List Reason) : ValidationErrors :=
  let selected := answers.selectedReasons.filter Text.isPresent
  if selected.isEmpty then .single "selected_reasons" "Select at least one reason"
  else
    selected.foldl (fun errors id =>
      match findReason reasons id with
      | some reason => checkReason answers errors reason
      | none => errors.add "selected_reasons" (unknownReason id)) .empty

mutual

def record (answers : Answers) : Reason → RecordedReason
  | .mk id label details subReasons =>
    .mk id label
      ((details.bind fun box => answers.details.get? box.id).map Text.trim)
      (recordSelected answers (answers.chosenUnder id) subReasons)

def recordSelected (answers : Answers) (chosen : List String) : List Reason → List RecordedReason
  | [] => []
  | reason :: rest =>
    if chosen.contains reason.id then
      record answers reason :: recordSelected answers chosen rest
    else recordSelected answers chosen rest

end

def materialize (answers : Answers) (context : Context) : Result Rejection :=
  let errors := validateReasons answers context.reasons
  if !errors.isEmpty then throw (.violated (.incomplete errors.fields))
  else return {
    kind := if context.awaitsFeedback then .rejectByDefaultFeedback else .rejectApplication
    selectedReasons := recordSelected answers answers.selectedReasons context.reasons }

namespace Step

def permitted : Step → List String
  | .new => ["selected_reasons", "selected_sub_reasons", "details"]
  | .check => []

def next : Step → Target Step
  | .new => .step .check
  | .check => .exit

def previous : Step → Target Step
  | .new => .exit
  | .check => .step .new

end Step

def wizard : Wizard.Definition where
  Step := Step
  Answers := Answers
  Context := Context
  Output := Rejection
  Violation := Violation
  stepEq := inferInstance
  name := "rejections_wizard"
  schemaVersion := 1
  declared := Step.all.map Step.name
  describe := Violation.describe
  stepName := Step.name
  stepToJson := Step.toJson
  stepOfJson? := Step.ofJson?
  blank := Answers.blank
  toJson := Answers.toJson
  ofJson? := Answers.ofJson?
  first _ := .new
  permitted := Step.permitted
  validate _ answers context := return validateReasons answers context.reasons
  next step _ _ := return step.next
  previous step _ _ := return step.previous
  nextAfterSubmit step _ _ := return step.next
  completed step _ _ := return step = .check
  assign _ answers name value := answers.insert name value
  materialize := materialize
  upgrade _ _ := none

/-- Opens the wizard, unless structured reasons are switched off. -/
def openBy (store : Wizard.Store) (key : Wizard.StoreKey) (context : Context)
    (entry : Wizard.Entry) : wizard.Result (Wizard.Handle wizard) × Wizard.Store :=
  if context.features.isActive .structuredRejectionReasons then
    Wizard.Handle.openBy store key context entry
  else (.error (.violated (.featureOff .structuredRejectionReasons)), store)

end Admissions.Rejections
