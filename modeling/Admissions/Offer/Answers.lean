import Admissions.Catalog
import Admissions.Features
import Admissions.Wizard.Definition

namespace Admissions.Offer

open Json (Value Object)

/-- Subjects whose offers may carry an SKE condition. -/
def skeSubjectCodes : List String := ["G1", "F3", "F1", "C1", "11", "DT", "Q3", "V6"]

def skeLengths : List UInt32 := [8, 12, 16, 20, 24, 28]

def greatestConditionCount : Nat := 18

def greatestConditionLength : Nat := 2000

inductive SkeReason where
  | differentDegree
  | outdatedDegree
deriving DecidableEq

namespace SkeReason

def all : List SkeReason := [.differentDegree, .outdatedDegree]

def name : SkeReason → String
  | .differentDegree => "different_degree"
  | .outdatedDegree => "outdated_degree"

def toJson (reason : SkeReason) : Value := .string reason.name

def ofJson? : Value → Option SkeReason := Value.choice? name all

end SkeReason

structure Answers where
  providerId : Option UInt64
  courseId : Option UInt64
  studyMode : Option StudyMode
  courseOptionId : Option UInt64
  skeRequired : Option Bool
  skeReason : Option SkeReason
  skeLength : Option UInt32
  furtherConditions : List String
deriving DecidableEq

namespace Answers

def blank : Answers := ⟨none, none, none, none, none, none, none, []⟩

def fields : List String :=
  ["provider_id", "course_id", "study_mode", "course_option_id", "ske_required", "ske_reason",
    "ske_length", "further_conditions"]

def toJson (answers : Answers) : Value :=
  .object [("course_id", .optional .uint64 answers.courseId),
    ("course_option_id", .optional .uint64 answers.courseOptionId),
    ("further_conditions", .list .string answers.furtherConditions),
    ("provider_id", .optional .uint64 answers.providerId),
    ("ske_length", .optional .uint32 answers.skeLength),
    ("ske_reason", .optional SkeReason.toJson answers.skeReason),
    ("ske_required", .optional .bool answers.skeRequired),
    ("study_mode", .optional StudyMode.toJson answers.studyMode)]

def ofJson? (value : Value) : Option Answers := do
  let record ← value.record? fields
  return {
    providerId := ← record.withDefault "provider_id" (Value.optional? Value.uint64?) none
    courseId := ← record.withDefault "course_id" (Value.optional? Value.uint64?) none
    studyMode := ← record.withDefault "study_mode" (Value.optional? StudyMode.ofJson?) none
    courseOptionId :=
      ← record.withDefault "course_option_id" (Value.optional? Value.uint64?) none
    skeRequired := ← record.withDefault "ske_required" (Value.optional? Value.bool?) none
    skeReason := ← record.withDefault "ske_reason" (Value.optional? SkeReason.ofJson?) none
    skeLength := ← record.withDefault "ske_length" (Value.optional? Value.uint32?) none
    furtherConditions :=
      ← record.withDefault "further_conditions" (Value.list? Value.string?) [] }

end Answers

inductive Step where
  | selectProvider
  | selectCourse
  | selectStudyMode
  | selectLocation
  | skeRequirements
  | skeReason
  | skeLength
  | conditions
  | check
deriving DecidableEq

namespace Step

def all : List Step :=
  [.selectProvider, .selectCourse, .selectStudyMode, .selectLocation, .skeRequirements,
    .skeReason, .skeLength, .conditions, .check]

def name : Step → String
  | .selectProvider => "select_provider"
  | .selectCourse => "select_course"
  | .selectStudyMode => "select_study_mode"
  | .selectLocation => "select_location"
  | .skeRequirements => "ske_requirements"
  | .skeReason => "ske_reason"
  | .skeLength => "ske_length"
  | .conditions => "conditions"
  | .check => "check"

def toJson (step : Step) : Value := .string step.name

def ofJson? : Value → Option Step := Value.choice? name all

end Step

structure Context where
  catalog : Catalog
  features : Features
  applicationChoiceId : UInt64
  providerIds : List UInt64

def skeApplies (features : Features) (subjectCodes : List String) : Bool :=
  features.isActive .skeOffers && subjectCodes.any skeSubjectCodes.contains

def Context.skeApplies (context : Context) (course : Course) : Bool :=
  Offer.skeApplies context.features course.subjectCodes

inductive Violation where
  | courseMissing
  | courseNotOffered (courseId providerId : UInt64)
  | noOption (courseId : UInt64)
  | skeIncomplete
deriving DecidableEq

def Violation.describe : Violation → String
  | .courseMissing => "offer is missing provider or course"
  | .courseNotOffered courseId providerId =>
    "course " ++ toString courseId.toNat ++ " is not offered by provider " ++
      toString providerId.toNat
  | .noOption courseId =>
    "course " ++ toString courseId.toNat ++ " has no available option for the offer"
  | .skeIncomplete => "SKE condition is missing a reason or length"

abbrev Result (α : Type) : Type := Except (Wizard.Failure Violation) α

structure SkeCondition where
  reason : SkeReason
  lengthWeeks : UInt32
deriving DecidableEq

namespace SkeCondition

def fields : List String := ["reason", "length_weeks"]

def toJson (condition : SkeCondition) : Value :=
  .record [("reason", condition.reason.toJson), ("length_weeks", .uint32 condition.lengthWeeks)]

def ofJson? (value : Value) : Option SkeCondition := do
  let record ← value.record? fields
  return {
    reason := ← record.required "reason" SkeReason.ofJson?
    lengthWeeks := ← record.required "length_weeks" Value.uint32? }

end SkeCondition

structure Draft where
  applicationChoiceId : UInt64
  providerId : UInt64
  courseId : UInt64
  courseOptionId : UInt64
  skeCondition : Option SkeCondition
  furtherConditions : List String
deriving DecidableEq

namespace Draft

def fields : List String :=
  ["application_choice_id", "provider_id", "course_id", "course_option_id", "ske_condition",
    "further_conditions"]

def toJson (draft : Draft) : Value :=
  .record [("application_choice_id", .uint64 draft.applicationChoiceId),
    ("provider_id", .uint64 draft.providerId), ("course_id", .uint64 draft.courseId),
    ("course_option_id", .uint64 draft.courseOptionId),
    ("ske_condition", .optional SkeCondition.toJson draft.skeCondition),
    ("further_conditions", .list .string draft.furtherConditions)]

def ofJson? (value : Value) : Option Draft := do
  let record ← value.record? fields
  return {
    applicationChoiceId := ← record.required "application_choice_id" Value.uint64?
    providerId := ← record.required "provider_id" Value.uint64?
    courseId := ← record.required "course_id" Value.uint64?
    courseOptionId := ← record.required "course_option_id" Value.uint64?
    skeCondition := ← record.optional "ske_condition" SkeCondition.ofJson?
    furtherConditions := ← record.required "further_conditions" (Value.list? Value.string?) }

end Draft

end Admissions.Offer
