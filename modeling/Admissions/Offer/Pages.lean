import Admissions.Offer.Answers

namespace Admissions.Offer

open Json (Value Object)
open Wizard (Failure Target ValidationErrors)

def shape (answers : Answers) (context : Context) : Result CourseShape :=
  match answers.providerId, answers.courseId with
  | some providerId, some courseId => do
    match ← Failure.ofLookup (CourseShape.load context.catalog providerId courseId) with
    | some shape => return shape
    | none => throw (.violated (.courseNotOffered courseId providerId))
  | _, _ => throw (.violated .courseMissing)

def afterLocation (shape : CourseShape) (context : Context) : Step :=
  if context.skeApplies shape.course then .skeRequirements else .conditions

def lastCourseStep (shape : CourseShape) (answers : Answers) : Step :=
  if shape.multipleSites answers.studyMode then .selectLocation
  else if shape.multipleStudyModes then .selectStudyMode
  else .selectCourse

def validateConditions (errors : ValidationErrors) (index : Nat) :
    List String → ValidationErrors
  | [] => errors
  | condition :: rest =>
    let field := "further_conditions_" ++ toString index
    let number := toString (index + 1)
    let errors :=
      if !Text.isPresent condition then errors.add field ("Enter condition " ++ number)
      else errors.addIf ((Text.trim condition).length > greatestConditionLength) field
        ("Condition " ++ number ++ " must be 2000 characters or fewer")
    validateConditions errors (index + 1) rest

namespace Step

def permitted : Step → List String
  | .selectProvider => ["provider_id"]
  | .selectCourse => ["course_id"]
  | .selectStudyMode => ["study_mode"]
  | .selectLocation => ["course_option_id"]
  | .skeRequirements => ["ske_required"]
  | .skeReason => ["ske_reason"]
  | .skeLength => ["ske_length"]
  | .conditions => ["further_conditions"]
  | .check => []

def validateProvider (answers : Answers) (context : Context) : Result ValidationErrors :=
  match answers.providerId with
  | none => return .single "provider_id" "Select a training provider"
  | some providerId => do
    let unlisted := .single "provider_id" "Select a training provider from the list"
    if !context.providerIds.contains providerId then return unlisted
    match ← Failure.ofLookup (context.catalog.provider providerId) with
    | none => return unlisted
    | some _ => return .empty

def validateCourse (answers : Answers) (context : Context) : Result ValidationErrors :=
  match answers.providerId, answers.courseId with
  | some providerId, some courseId => do
    match ← Failure.ofLookup (CourseShape.load context.catalog providerId courseId) with
    | none => return .single "course_id" "Select a course from the list"
    | some shape =>
      if shape.available.isEmpty then
        return .single "course_id" "This course has no locations with vacancies"
      else return .empty
  | _, _ => return .single "course_id" "Select a course"

def validate (step : Step) (answers : Answers) (context : Context) : Result ValidationErrors :=
  match step with
  | .selectProvider => validateProvider answers context
  | .selectCourse => validateCourse answers context
  | .selectStudyMode =>
    match answers.studyMode with
    | none => return .single "study_mode" "Select full time or part time"
    | some mode => do
      let shape ← shape answers context
      return ValidationErrors.empty.addIf (!shape.offers mode) "study_mode"
        "This study mode is not available for this course"
  | .selectLocation =>
    match answers.courseOptionId with
    | none => return .single "course_option_id" "Select a location"
    | some optionId => do
      let shape ← shape answers context
      return ValidationErrors.empty.addIf (shape.pick answers.studyMode (some optionId)).isNone
        "course_option_id" "Select a location from the list"
  | .skeRequirements =>
    return ValidationErrors.empty.addIf answers.skeRequired.isNone "ske_required"
      "Select whether the candidate needs to take a subject knowledge enhancement course"
  | .skeReason =>
    return ValidationErrors.empty.addIf answers.skeReason.isNone "ske_reason"
      "Select why the candidate needs to take a course"
  | .skeLength =>
    return ValidationErrors.empty.addIf (!answers.skeLength.any skeLengths.contains) "ske_length"
      "Select how long the course must be"
  | .conditions =>
    return validateConditions
      (ValidationErrors.empty.addIf (answers.furtherConditions.length > greatestConditionCount)
        "further_conditions" "You cannot add more than 18 further conditions")
      0 answers.furtherConditions
  | .check => return .empty

def next (step : Step) (answers : Answers) (context : Context) : Result (Target Step) :=
  match step with
  | .selectProvider => return .step .selectCourse
  | .selectCourse => do
    let shape ← shape answers context
    if shape.multipleStudyModes then return .step .selectStudyMode
    else if shape.multipleSites none then return .step .selectLocation
    else return .step (afterLocation shape context)
  | .selectStudyMode => do
    let shape ← shape answers context
    if shape.multipleSites answers.studyMode then return .step .selectLocation
    else return .step (afterLocation shape context)
  | .selectLocation => do
    let shape ← shape answers context
    return .step (afterLocation shape context)
  | .skeRequirements =>
    if answers.skeRequired = some true then return .step .skeReason
    else return .step .conditions
  | .skeReason => return .step .skeLength
  | .skeLength => return .step .conditions
  | .conditions => return .step .check
  | .check => return .exit

def previous (step : Step) (answers : Answers) (context : Context) : Result (Target Step) :=
  match step with
  | .selectProvider => return .exit
  | .selectCourse => return .step .selectProvider
  | .selectStudyMode => return .step .selectCourse
  | .selectLocation => do
    let shape ← shape answers context
    if shape.multipleStudyModes then return .step .selectStudyMode
    else return .step .selectCourse
  | .skeRequirements => do
    let shape ← shape answers context
    return .step (lastCourseStep shape answers)
  | .skeReason => return .step .skeRequirements
  | .skeLength => return .step .skeReason
  | .conditions => do
    let shape ← shape answers context
    if !context.skeApplies shape.course then return .step (lastCourseStep shape answers)
    else if answers.skeRequired = some true then return .step .skeLength
    else return .step .skeRequirements
  | .check => return .step .conditions

def completed (step : Step) : Bool := step = .check

end Step

def courseDependent : List String :=
  ["study_mode", "course_option_id", "ske_required", "ske_reason", "ske_length"]

/-- Another provider or course drops every answer given for the old one. -/
def assign (answers : Object) (name : String) (value : Value) : Object :=
  let changed := (name == "provider_id" || name == "course_id") &&
    (answers.get? name).any fun current => !current.same value
  let dropped :=
    if !changed then []
    else if name = "provider_id" then "course_id" :: courseDependent
    else courseDependent
  (dropped.foldl Json.Object.erase answers).insert name value

def skeCondition (shape : CourseShape) (answers : Answers) (context : Context) :
    Result (Option SkeCondition) :=
  if context.skeApplies shape.course && answers.skeRequired = some true then
    match answers.skeReason, answers.skeLength with
    | some reason, some lengthWeeks => return some ⟨reason, lengthWeeks⟩
    | _, _ => throw (.violated .skeIncomplete)
  else return none

def materialize (answers : Answers) (context : Context) : Result Draft := do
  let shape ← shape answers context
  match shape.pick answers.studyMode answers.courseOptionId with
  | none => throw (.violated (.noOption shape.course.id))
  | some option =>
    let skeCondition ← skeCondition shape answers context
    return {
      applicationChoiceId := context.applicationChoiceId
      providerId := shape.course.providerId
      courseId := shape.course.id
      courseOptionId := option.id
      skeCondition
      furtherConditions := answers.furtherConditions.map Text.trim }

def wizard : Wizard.Definition where
  Step := Step
  Answers := Answers
  Context := Context
  Output := Draft
  Violation := Violation
  stepEq := inferInstance
  name := "offer_wizard"
  schemaVersion := 1
  declared := Step.all.map Step.name
  describe := Violation.describe
  stepName := Step.name
  stepToJson := Step.toJson
  stepOfJson? := Step.ofJson?
  blank := Answers.blank
  toJson := Answers.toJson
  ofJson? := Answers.ofJson?
  first _ := .selectProvider
  permitted := Step.permitted
  validate := Step.validate
  next := Step.next
  previous := Step.previous
  nextAfterSubmit := Step.next
  completed step _ _ := return step.completed
  assign _ := assign
  materialize := materialize
  upgrade _ _ := none

end Admissions.Offer
