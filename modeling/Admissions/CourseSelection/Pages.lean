import Admissions.Applications.Selection
import Admissions.CourseSelection.Answers

namespace Admissions.CourseSelection

open Json (Value Object)
open Wizard (Failure Target ValidationErrors)

def shape (answers : Answers) (context : Context) : Result CourseShape :=
  match answers.providerId, answers.courseId with
  | some providerId, some courseId => do
    match ← Failure.ofLookup (CourseShape.load context.catalog providerId courseId) with
    | some shape => return shape
    | none => throw (.violated (.courseNotOffered courseId providerId))
  | _, _ => throw (.violated .courseMissing)

def chosenOption (shape : CourseShape) (answers : Answers) : Option CourseOption :=
  shape.pick answers.studyMode answers.courseOptionId

namespace Step

def permitted : Step → List String
  | .doYouKnowTheCourse => ["answer"]
  | .providerSelection => ["provider_id"]
  | .whichCourse => ["provider_id", "course_id"]
  | .courseStudyMode => ["study_mode"]
  | .courseSite => ["course_option_id"]
  | .goToFindExplanation => []
  | .courseReview => []

def validateProvider (answers : Answers) (context : Context) : Result ValidationErrors :=
  match answers.providerId with
  | none => return .single "provider_id" "Select a training provider"
  | some providerId => do
    match ← Failure.ofLookup (context.catalog.provider providerId) with
    | none => return .single "provider_id" "Select a training provider from the list"
    | some _ => return .empty

def validateCourse (answers : Answers) (context : Context) : Result ValidationErrors :=
  match answers.providerId, answers.courseId with
  | some providerId, some courseId => do
    match ← Failure.ofLookup (CourseShape.load context.catalog providerId courseId) with
    | none => return .single "course_id" "Select a course from the list"
    | some shape =>
      if shape.available.isEmpty then
        return .single "course_id" "You cannot apply to this course as it is full"
      else return .empty
  | providerId, courseId =>
    return (ValidationErrors.empty.addIf providerId.isNone "provider_id"
      "Select a training provider").addIf courseId.isNone "course_id" "Select a course"

def validate (step : Step) (answers : Answers) (context : Context) : Result ValidationErrors :=
  match step with
  | .doYouKnowTheCourse =>
    return ValidationErrors.empty.addIf answers.answer.isNone "answer"
      "Select if you know which course you want to apply to"
  | .providerSelection => validateProvider answers context
  | .whichCourse => validateCourse answers context
  | .courseStudyMode =>
    match answers.studyMode with
    | none => return .single "study_mode" "Select full time or part time"
    | some mode => do
      let shape ← shape answers context
      return ValidationErrors.empty.addIf (!shape.offers mode) "study_mode"
        "This study mode is not available for this course"
  | .courseSite =>
    match answers.courseOptionId with
    | none => return .single "course_option_id" "Select a location"
    | some _ => do
      let shape ← shape answers context
      return ValidationErrors.empty.addIf (chosenOption shape answers).isNone "course_option_id"
        "Select a location from the list"
  | .goToFindExplanation => return .empty
  | .courseReview => return .empty

def next (step : Step) (answers : Answers) (context : Context) : Result (Target Step) :=
  match step with
  | .doYouKnowTheCourse =>
    match answers.answer with
    | some .yes => return .step .providerSelection
    | some .no => return .step .goToFindExplanation
    | none => throw (.violated .courseNotKnown)
  | .goToFindExplanation => return .exit
  | .providerSelection => return .step .whichCourse
  | .whichCourse => do
    let shape ← shape answers context
    if shape.multipleStudyModes then return .step .courseStudyMode
    else if shape.multipleSites none then return .step .courseSite
    else return .step .courseReview
  | .courseStudyMode => do
    let shape ← shape answers context
    if shape.multipleSites answers.studyMode then return .step .courseSite
    else return .step .courseReview
  | .courseSite => return .step .courseReview
  | .courseReview => return .exit

def previous (step : Step) (answers : Answers) (context : Context) : Result (Target Step) :=
  match step with
  | .doYouKnowTheCourse => return .exit
  | .goToFindExplanation => return .step .doYouKnowTheCourse
  | .providerSelection => return .step .doYouKnowTheCourse
  | .whichCourse => return .step .providerSelection
  | .courseStudyMode => return .step .whichCourse
  | .courseSite => do
    let shape ← shape answers context
    if shape.multipleStudyModes then return .step .courseStudyMode
    else return .step .whichCourse
  | .courseReview => do
    let shape ← shape answers context
    if shape.multipleSites answers.studyMode then return .step .courseSite
    else if shape.multipleStudyModes then return .step .courseStudyMode
    else return .step .whichCourse

/-- The last page that had something to ask completes the wizard, and so does the review. -/
def completed (step : Step) (answers : Answers) (context : Context) : Result Bool :=
  match step with
  | .whichCourse => do
    let shape ← shape answers context
    return !shape.multipleStudyModes && !shape.multipleSites none
  | .courseStudyMode =>
    match answers.studyMode with
    | none => return false
    | some mode => do
      let shape ← shape answers context
      return !shape.multipleSites (some mode)
  | .courseSite =>
    match answers.courseOptionId with
    | none => return false
    | some _ => do
      let shape ← shape answers context
      return (chosenOption shape answers).isSome
  | .courseReview => return true
  | .doYouKnowTheCourse => return false
  | .goToFindExplanation => return false
  | .providerSelection => return false

end Step

/-- Another provider or course drops the mode and the site picked for the old one. -/
def assign (answers : Object) (name : String) (value : Value) : Object :=
  let changed := (name == "provider_id" || name == "course_id") &&
    (answers.get? name).any fun current => !current.same value
  let kept := if changed then (answers.erase "study_mode").erase "course_option_id" else answers
  kept.insert name value

def materialize (answers : Answers) (context : Context) : Result NewApplicationChoice := do
  let shape ← shape answers context
  match chosenOption shape answers with
  | none => throw (.violated (.noOption shape.course.id))
  | some option =>
    return {
      applicationFormId := context.applicationFormId
      providerId := shape.course.providerId
      courseId := shape.course.id
      courseOptionId := option.id
      recruitmentCycleYear := shape.course.recruitmentCycleYear }

def wizard : Wizard.Definition where
  Step := Step
  Answers := Answers
  Context := Context
  Output := NewApplicationChoice
  Violation := Violation
  stepEq := inferInstance
  name := "course_selection"
  schemaVersion := 1
  declared := Step.all.map Step.name
  describe := Violation.describe
  stepName := Step.name
  stepToJson := Step.toJson
  stepOfJson? := Step.ofJson?
  blank := Answers.blank
  toJson := Answers.toJson
  ofJson? := Answers.ofJson?
  first _ := .doYouKnowTheCourse
  permitted := Step.permitted
  validate := Step.validate
  next := Step.next
  previous := Step.previous
  nextAfterSubmit := Step.next
  completed := Step.completed
  assign _ := assign
  materialize := materialize
  upgrade _ _ := none

end Admissions.CourseSelection
