import Admissions.Applications.Choice
import Admissions.Applications.Selection
import Admissions.RecordError

namespace Admissions

open Calendar (Instant)

namespace Repository

inductive Call where
  | insert
  | update
  | fetch
  | forProvider
  | applicationForm
deriving DecidableEq

namespace Call

def all : List Call := [.insert, .update, .fetch, .forProvider, .applicationForm]

def name : Call → String
  | .insert => "insert"
  | .update => "update"
  | .fetch => "fetch"
  | .forProvider => "for_provider"
  | .applicationForm => "application_form"

end Call

end Repository

structure Repository where
  choices : SortedMap UInt64 ApplicationChoice
  forms : SortedMap UInt64 ApplicationForm
  outage : Outage Repository.Call
  /-- A call was cut short while it held the choices, so no later one gets at them. -/
  poisoned : Bool

namespace Repository

/-- Of records with one id the last one stays. -/
def seed (choices : List ApplicationChoice) (forms : List ApplicationForm) : Repository where
  choices := .ofList (choices.map fun choice => (choice.id, choice))
  forms := .ofList (forms.map fun form => (form.id, form))
  outage := .none
  poisoned := false

def lastId : UInt64 := 18446744073709551615

/-- The id after the greatest one, starting from 1. After the last id the sum overflows. -/
def nextId? (repository : Repository) : Option UInt64 :=
  match repository.choices.keys.getLast? with
  | none => some 1
  | some greatest => if greatest = lastId then none else some (greatest + 1)

def newRecord (id : UInt64) (selection : NewApplicationChoice) (now : Instant) :
    ApplicationChoice where
  id := id
  applicationFormId := selection.applicationFormId
  providerId := selection.providerId
  courseId := selection.courseId
  courseOptionId := selection.courseOptionId
  status := .unsubmitted
  recruitmentCycleYear := selection.recruitmentCycleYear
  updatedAt := now
  sentToProviderAt := none
  rejectByDefaultAt := none
  rejectedByDefault := false
  rejectedAt := none
  rejectionFeedbackGiven := false

/-- A form applies for an option once, whatever becomes of the choice. -/
def isTaken (repository : Repository) (selection : NewApplicationChoice) : Bool :=
  repository.choices.values.any fun choice =>
    choice.applicationFormId = selection.applicationFormId ∧
      choice.courseOptionId = selection.courseOptionId

def put (repository : Repository) (choice : ApplicationChoice) : Repository :=
  { repository with choices := repository.choices.insert choice.id choice }

def reach (repository : Repository) (call : Call) : Except RecordError Unit := do
  repository.outage.check call
  if repository.poisoned then throw (.unavailable "in-memory store lock poisoned")

/-- An overflow cuts the call short: there is no answer. -/
def insert (repository : Repository) (selection : NewApplicationChoice) (now : Instant) :
    Option (Except RecordError ApplicationChoice) × Repository :=
  match repository.reach .insert with
  | .error error => (some (.error error), repository)
  | .ok () =>
    if repository.isTaken selection then (some (.error .conflict), repository)
    else
      match repository.nextId? with
      | none => (none, { repository with poisoned := true })
      | some id =>
        let record := newRecord id selection now
        (some (.ok record), repository.put record)

def update (repository : Repository) (choice : ApplicationChoice) :
    Except RecordError Unit × Repository :=
  match repository.reach .update with
  | .error error => (.error error, repository)
  | .ok () =>
    if repository.choices.contains choice.id then (.ok (), repository.put choice)
    else (.error .notFound, repository)

def fetch (repository : Repository) (id : UInt64) :
    Except RecordError (Option ApplicationChoice) := do
  repository.reach .fetch
  return repository.choices.get? id

def forProvider (repository : Repository) (providerId : UInt64) :
    Except RecordError (List ApplicationChoice) := do
  repository.reach .forProvider
  return repository.choices.values.filter (·.providerId == providerId)

def applicationForm (repository : Repository) (id : UInt64) :
    Except RecordError (Option ApplicationForm) := do
  repository.outage.check .applicationForm
  return repository.forms.get? id

end Repository

end Admissions
