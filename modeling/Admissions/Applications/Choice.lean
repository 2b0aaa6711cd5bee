import Admissions.Course

namespace Admissions

open Json (Value Shape)
open Calendar (Date Instant)

inductive ApplicationStatus where
  | unsubmitted
  | awaitingProviderDecision
  | inactive
  | interviewing
  | offer
  | pendingConditions
  | recruited
  | offerDeferred
  | conditionsNotMet
  | rejected
  | declined
  | withdrawn
  | offerWithdrawn
  | applicationNotSent
deriving DecidableEq

namespace ApplicationStatus

def all : List ApplicationStatus :=
  [.unsubmitted, .awaitingProviderDecision, .inactive, .interviewing, .offer, .pendingConditions,
    .recruited, .offerDeferred, .conditionsNotMet, .rejected, .declined, .withdrawn,
    .offerWithdrawn, .applicationNotSent]

def label : ApplicationStatus → String
  | .unsubmitted => "unsubmitted"
  | .awaitingProviderDecision => "awaiting_provider_decision"
  | .inactive => "inactive"
  | .interviewing => "interviewing"
  | .offer => "offer"
  | .pendingConditions => "pending_conditions"
  | .recruited => "recruited"
  | .offerDeferred => "offer_deferred"
  | .conditionsNotMet => "conditions_not_met"
  | .rejected => "rejected"
  | .declined => "declined"
  | .withdrawn => "withdrawn"
  | .offerWithdrawn => "offer_withdrawn"
  | .applicationNotSent => "application_not_sent"

def toJson (status : ApplicationStatus) : Value := .string status.label

def ofJson? : Value → Option ApplicationStatus := Value.choice? label all

end ApplicationStatus

inductive FormSection where
  | personalInformation
  | contactInformation
  | workHistory
  | volunteeringExperience
  | degrees
  | mathsGcse
  | englishGcse
  | scienceGcse
  | otherQualifications
  | personalStatement
  | interviewAvailability
  | references
  | safeguarding
deriving DecidableEq

namespace FormSection

def all : List FormSection :=
  [.personalInformation, .contactInformation, .workHistory, .volunteeringExperience, .degrees,
    .mathsGcse, .englishGcse, .scienceGcse, .otherQualifications, .personalStatement,
    .interviewAvailability, .references, .safeguarding]

def name : FormSection → String
  | .personalInformation => "personal_information"
  | .contactInformation => "contact_information"
  | .workHistory => "work_history"
  | .volunteeringExperience => "volunteering_experience"
  | .degrees => "degrees"
  | .mathsGcse => "maths_gcse"
  | .englishGcse => "english_gcse"
  | .scienceGcse => "science_gcse"
  | .otherQualifications => "other_qualifications"
  | .personalStatement => "personal_statement"
  | .interviewAvailability => "interview_availability"
  | .references => "references"
  | .safeguarding => "safeguarding"

def toJson (formSection : FormSection) : Value := .string formSection.name

def ofJson? : Value → Option FormSection := Value.choice? name all

/-- Science is asked for primary courses only, everything else always. -/
def isRequired (level : CourseLevel) (formSection : FormSection) : Bool :=
  formSection ≠ .scienceGcse || level = .primary

end FormSection

structure ApplicationForm where
  id : UInt64
  completed : List FormSection
deriving DecidableEq

namespace ApplicationForm

def fields : List String := ["id", "completed_sections"]

def shape : Shape := .record [("id", .atom), ("completed_sections", .list .atom)]

def toJson (form : ApplicationForm) : Value :=
  .record [("id", .uint64 form.id),
    ("completed_sections", .list FormSection.toJson form.completed)]

def ofJson? (value : Value) : Option ApplicationForm := do
  let record ← value.record? fields
  let completed ←
    record.withDefault "completed_sections" (Value.list? FormSection.ofJson?) []
  return {
    id := ← record.required "id" Value.uint64?
    completed := FormSection.all.filter completed.contains }

def incompleteSections (form : ApplicationForm) (level : CourseLevel) : List FormSection :=
  FormSection.all.filter fun formSection =>
    formSection.isRequired level && !form.completed.contains formSection

end ApplicationForm

structure ApplicationChoice where
  id : UInt64
  applicationFormId : UInt64
  providerId : UInt64
  courseId : UInt64
  courseOptionId : UInt64
  status : ApplicationStatus
  recruitmentCycleYear : Int32
  updatedAt : Instant
  sentToProviderAt : Option Instant
  rejectByDefaultAt : Option Instant
  rejectedByDefault : Bool
  rejectedAt : Option Instant
  rejectionFeedbackGiven : Bool
deriving DecidableEq

namespace ApplicationChoice

def fields : List String :=
  ["id", "application_form_id", "provider_id", "course_id", "course_option_id", "status",
    "current_recruitment_cycle_year", "updated_at", "sent_to_provider_at",
    "reject_by_default_at", "rejected_by_default", "rejected_at", "rejection_feedback_given"]

def shape : Shape := .record (fields.map (·, .atom))

def toJson (choice : ApplicationChoice) : Value :=
  .record [("id", .uint64 choice.id),
    ("application_form_id", .uint64 choice.applicationFormId),
    ("provider_id", .uint64 choice.providerId), ("course_id", .uint64 choice.courseId),
    ("course_option_id", .uint64 choice.courseOptionId), ("status", choice.status.toJson),
    ("current_recruitment_cycle_year", .int32 choice.recruitmentCycleYear),
    ("updated_at", choice.updatedAt.toJson),
    ("sent_to_provider_at", .optional Instant.toJson choice.sentToProviderAt),
    ("reject_by_default_at", .optional Instant.toJson choice.rejectByDefaultAt),
    ("rejected_by_default", .bool choice.rejectedByDefault),
    ("rejected_at", .optional Instant.toJson choice.rejectedAt),
    ("rejection_feedback_given", .bool choice.rejectionFeedbackGiven)]

def ofJson? (value : Value) : Option ApplicationChoice := do
  let record ← value.record? fields
  let instant := Value.optional? Instant.ofJson?
  return {
    id := ← record.required "id" Value.uint64?
    applicationFormId := ← record.required "application_form_id" Value.uint64?
    providerId := ← record.required "provider_id" Value.uint64?
    courseId := ← record.required "course_id" Value.uint64?
    courseOptionId := ← record.required "course_option_id" Value.uint64?
    status := ← record.required "status" ApplicationStatus.ofJson?
    recruitmentCycleYear := ← record.required "current_recruitment_cycle_year" Value.int32?
    updatedAt := ← record.required "updated_at" Instant.ofJson?
    sentToProviderAt := ← record.withDefault "sent_to_provider_at" instant none
    rejectByDefaultAt := ← record.withDefault "reject_by_default_at" instant none
    rejectedByDefault := ← record.withDefault "rejected_by_default" Value.bool? false
    rejectedAt := ← record.withDefault "rejected_at" instant none
    rejectionFeedbackGiven := ← record.withDefault "rejection_feedback_given" Value.bool? false }

end ApplicationChoice

structure ChoiceSnapshot where
  id : UInt64
  status : ApplicationStatus
  course : Course
  courseOption : CourseOption
  courseOptions : List CourseOption
  form : ApplicationForm
deriving DecidableEq

namespace ChoiceSnapshot

def fields : List String :=
  ["id", "status", "course", "course_option", "course_options", "application_form"]

def toJson (snapshot : ChoiceSnapshot) : Value :=
  .record [("id", .uint64 snapshot.id), ("status", snapshot.status.toJson),
    ("course", snapshot.course.toJson), ("course_option", snapshot.courseOption.toJson),
    ("course_options", .list CourseOption.toJson snapshot.courseOptions),
    ("application_form", snapshot.form.toJson)]

def ofJson? (value : Value) : Option ChoiceSnapshot := do
  let record ← value.record? fields
  return {
    id := ← record.required "id" Value.uint64?
    status := ← record.required "status" ApplicationStatus.ofJson?
    course := ← record.required "course" Course.ofJson?
    courseOption := ← record.required "course_option" CourseOption.ofJson?
    courseOptions := ← record.required "course_options" (Value.list? CourseOption.ofJson?)
    form := ← record.required "application_form" ApplicationForm.ofJson? }

def courseFull (snapshot : ChoiceSnapshot) : Bool :=
  !snapshot.courseOptions.any (·.hasVacancies)

end ChoiceSnapshot

end Admissions
