import Admissions.Catalog
import Admissions.Wizard.Definition

namespace Admissions.CourseSelection

open Json (Value Object)

inductive CourseKnown where
  | yes
  | no
deriving DecidableEq

namespace CourseKnown

def all : List CourseKnown := [.yes, .no]

def name : CourseKnown → String
  | .yes => "yes"
  | .no => "no"

def toJson (known : CourseKnown) : Value := .string known.name

def ofJson? : Value → Option CourseKnown := Value.choice? name all

end CourseKnown

structure Answers where
  answer : Option CourseKnown
  providerId : Option UInt64
  courseId : Option UInt64
  studyMode : Option StudyMode
  courseOptionId : Option UInt64
deriving DecidableEq

namespace Answers

def blank : Answers := ⟨none, none, none, none, none⟩

def fields : List String :=
  ["answer", "provider_id", "course_id", "study_mode", "course_option_id"]

def toJson (answers : Answers) : Value :=
  .object [("answer", .optional CourseKnown.toJson answers.answer),
    ("course_id", .optional .uint64 answers.courseId),
    ("course_option_id", .optional .uint64 answers.courseOptionId),
    ("provider_id", .optional .uint64 answers.providerId),
    ("study_mode", .optional StudyMode.toJson answers.studyMode)]

def ofJson? (value : Value) : Option Answers := do
  let record ← value.record? fields
  return {
    answer := ← record.withDefault "answer" (Value.optional? CourseKnown.ofJson?) none
    providerId := ← record.withDefault "provider_id" (Value.optional? Value.uint64?) none
    courseId := ← record.withDefault "course_id" (Value.optional? Value.uint64?) none
    studyMode := ← record.withDefault "study_mode" (Value.optional? StudyMode.ofJson?) none
    courseOptionId :=
      ← record.withDefault "course_option_id" (Value.optional? Value.uint64?) none }

end Answers

inductive Step where
  | doYouKnowTheCourse
  | goToFindExplanation
  | providerSelection
  | whichCourse
  | courseStudyMode
  | courseSite
  | courseReview
deriving DecidableEq

namespace Step

def all : List Step :=
  [.doYouKnowTheCourse, .goToFindExplanation, .providerSelection, .whichCourse, .courseStudyMode,
    .courseSite, .courseReview]

def name : Step → String
  | .doYouKnowTheCourse => "do_you_know_the_course"
  | .goToFindExplanation => "go_to_find_explanation"
  | .providerSelection => "provider_selection"
  | .whichCourse => "which_course_are_you_applying_to"
  | .courseStudyMode => "course_study_mode"
  | .courseSite => "course_site"
  | .courseReview => "course_review"

def toJson (step : Step) : Value := .string step.name

def ofJson? : Value → Option Step := Value.choice? name all

end Step

structure Context where
  catalog : Catalog
  applicationFormId : UInt64

inductive Violation where
  | courseNotKnown
  | courseMissing
  | courseNotOffered (courseId providerId : UInt64)
  | noOption (courseId : UInt64)
deriving DecidableEq

def Violation.describe : Violation → String
  | .courseNotKnown => "do_you_know_the_course has no answer"
  | .courseMissing => "course selection is missing provider or course"
  | .courseNotOffered courseId providerId =>
    "course " ++ toString courseId.toNat ++ " is not offered by provider " ++
      toString providerId.toNat
  | .noOption courseId =>
    "course " ++ toString courseId.toNat ++ " has no available option for the selection"

abbrev Result (α : Type) : Type := Except (Wizard.Failure Violation) α

end Admissions.CourseSelection
