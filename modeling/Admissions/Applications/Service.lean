import Admissions.Applications.Repository
import Admissions.Applications.TaskView
import Admissions.Catalog

namespace Admissions

open Json (Value)
open Calendar (Instant)

structure ApplicationPolicy where
  timetable : CycleTimetable
  currentCycleYear : Int32
  warningDays : UInt32
  rules : SubmissionRules
  ladder : TaskViewLadder

def ApplicationPolicy.toJson (policy : ApplicationPolicy) : Value :=
  .record [("timetable", policy.timetable.toJson), ("year", .int32 policy.currentCycleYear),
    ("warning_days", .uint32 policy.warningDays),
    ("checks", .list SubmissionCheck.toJson policy.rules.checks),
    ("groups", .list TaskViewGroup.toJson policy.ladder.groups)]

inductive BrokenReference where
  | optionOfCourse (optionId courseId : UInt64)
  | optionGone (optionId : UInt64)
  | course (choice courseId : UInt64)
  | courseOption (choice optionId : UInt64)
  | form (choice formId : UInt64)
deriving DecidableEq

namespace BrokenReference

def missing (choice : UInt64) (kind : String) (id : UInt64) : String :=
  "application choice " ++ toString choice.toNat ++ " references missing " ++ kind ++ " " ++
    toString id.toNat

def describe : BrokenReference → String
  | .optionOfCourse optionId courseId =>
    "course option " ++ toString optionId.toNat ++ " does not belong to course " ++
      toString courseId.toNat
  | .optionGone optionId =>
    "course option " ++ toString optionId.toNat ++ " is no longer available"
  | .course choice courseId => missing choice "course" courseId
  | .courseOption choice optionId => missing choice "course option" optionId
  | .form choice formId => missing choice "application form" formId

end BrokenReference

/-- Why the service refuses. Broken references are of type `κ`. -/
inductive ServiceError (κ : Type) where
  | ineligible (error : EligibilityError)
  | repository (error : RecordError)
  | precondition (cause : κ)
deriving DecidableEq

def ServiceError.message {κ : Type} (describe : κ → String) : ServiceError κ → String
  | .ineligible error => error.text
  | .repository error => error.message
  | .precondition cause => "application precondition violated: " ++ describe cause

def ServiceError.kind {κ : Type} : ServiceError κ → String
  | .ineligible _ => "ineligible"
  | .repository error => error.kind
  | .precondition _ => "precondition"

def ServiceError.inWords : ServiceError BrokenReference → ServiceError String
  | .ineligible error => .ineligible error
  | .repository error => .repository error
  | .precondition cause => .precondition cause.describe

structure ApplicationService where
  repository : Repository
  catalog : Catalog
  policy : ApplicationPolicy

namespace ApplicationService

abbrev Result (α : Type) : Type := Except (ServiceError BrokenReference) α

/-- What a call gives back, which is nothing if an overflow cuts it short. -/
abbrev Reply (α : Type) : Type := Option (Result α)

variable (service : ApplicationService)

def ofRecords {α : Type} (result : Except RecordError α) : Result α :=
  result.mapError .repository

def present {α : Type} (found : Option α) (cause : BrokenReference) : Result α :=
  match found with
  | some record => .ok record
  | none => .error (.precondition cause)

def selectedOption (selection : NewApplicationChoice) : Result CourseOption := do
  let option ← present
    (← ofRecords (service.catalog.courseOption selection.courseId selection.courseOptionId))
    (.optionOfCourse selection.courseOptionId selection.courseId)
  if option.isAvailable then return option else throw (.precondition (.optionGone option.id))

def create (selection : NewApplicationChoice) (now : Instant) :
    Reply ApplicationChoice × ApplicationService :=
  match service.selectedOption selection with
  | .error error => (some (.error error), service)
  | .ok _ =>
    let (result, repository) := service.repository.insert selection now
    (result.map ofRecords, { service with repository })

def get (id : UInt64) : Result ApplicationChoice := do
  match ← ofRecords (service.repository.fetch id) with
  | some choice => return choice
  | none => throw (.repository .notFound)

def snapshot (choice : ApplicationChoice) : Result ChoiceSnapshot := do
  let course ← present (← ofRecords (service.catalog.course choice.courseId))
    (.course choice.id choice.courseId)
  let courseOptions ← ofRecords (service.catalog.courseOptions course.id)
  let courseOption ← present (courseOptions.find? (·.id == choice.courseOptionId))
    (.courseOption choice.id choice.courseOptionId)
  let form ← present (← ofRecords (service.repository.applicationForm choice.applicationFormId))
    (.form choice.id choice.applicationFormId)
  return { id := choice.id, status := choice.status, course, courseOption, courseOptions, form }

def blocking (snapshot : ChoiceSnapshot) (now : Instant) : Option EligibilityError :=
  service.policy.rules.evaluate snapshot ⟨now.date, service.policy.timetable⟩

def submissionErrors (id : UInt64) (now : Instant) : Result (Option EligibilityError) := do
  return service.blocking (← service.snapshot (← service.get id)) now

def submittable (id : UInt64) (now : Instant) : Result ApplicationChoice := do
  let choice ← service.get id
  match service.blocking (← service.snapshot choice) now with
  | some error => throw (.ineligible error)
  | none => return choice

def submitted (choice : ApplicationChoice) (now : Instant) : ApplicationChoice :=
  { choice with
    status := .awaitingProviderDecision
    sentToProviderAt := some now
    updatedAt := now }

def submit (id : UInt64) (now : Instant) : Result ApplicationChoice × ApplicationService :=
  match service.submittable id now with
  | .error error => (.error error, service)
  | .ok choice =>
    let sent := submitted choice now
    let (result, repository) := service.repository.update sent
    (ofRecords (result.map fun _ => sent), { service with repository })

def taskView (providerId : UInt64) (now : Instant) : Reply (List PrioritisedApplication) :=
  match service.repository.forProvider providerId with
  | .error error => some (.error (.repository error))
  | .ok choices =>
    let context := ⟨now, service.policy.currentCycleYear, service.policy.warningDays⟩
    (service.policy.ladder.prioritise choices context).map .ok

end ApplicationService

end Admissions
