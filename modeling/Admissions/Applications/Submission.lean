import Admissions.Applications.Choice

namespace Admissions

open Json (Value)
open Calendar (Date)

structure CycleTimetable where
  applyOpens : Date
  applyDeadline : Date
deriving DecidableEq

namespace CycleTimetable

def fields : List String := ["apply_opens", "apply_deadline"]

def toJson (timetable : CycleTimetable) : Value :=
  .record [("apply_opens", timetable.applyOpens.toJson),
    ("apply_deadline", timetable.applyDeadline.toJson)]

def ofJson? (value : Value) : Option CycleTimetable := do
  let record ← value.record? fields
  return {
    applyOpens := ← record.required "apply_opens" Date.ofJson?
    applyDeadline := ← record.required "apply_deadline" Date.ofJson? }

def canSubmit (timetable : CycleTimetable) (today : Date) : Bool :=
  timetable.applyOpens ≤ today && today ≤ timetable.applyDeadline

/-- When submissions open next: on this cycle's opening date, or a year after it once the deadline
    has passed, if that date exists. -/
def reopensOn (timetable : CycleTimetable) (today : Date) : Date :=
  if today ≤ timetable.applyDeadline then timetable.applyOpens
  else (timetable.applyOpens.withYear? (timetable.applyOpens.year + 1)).getD timetable.applyOpens

end CycleTimetable

structure SubmissionContext where
  today : Date
  timetable : CycleTimetable

inductive Remedy where
  | waitUntil (date : Date)
  | removeApplication (choice : UInt64)
  | completeDetails (sections : List FormSection)
  | addScienceGcse
deriving DecidableEq

namespace Remedy

def label : Remedy → String
  | .waitUntil _ => "Wait until applications open"
  | .removeApplication _ => "Remove this application"
  | .completeDetails _ => "Complete your details"
  | .addScienceGcse => "Add your science GCSE grade"

def action : Remedy → String
  | .waitUntil _ => "wait_until"
  | .removeApplication _ => "remove_application"
  | .completeDetails _ => "complete_details"
  | .addScienceGcse => "add_science_gcse"

def toJson (remedy : Remedy) : Value :=
  let detail := match remedy with
    | .waitUntil date => [("date", date.toJson)]
    | .removeApplication choice => [("application_choice_id", .uint64 choice)]
    | .completeDetails sections => [("sections", .list FormSection.toJson sections)]
    | .addScienceGcse => []
  .record (("action", .string remedy.action) :: detail)

/-- A section inside a remedy; `{}` may stand for `null` under its name. -/
def sectionOfJson? : Value → Option FormSection
  | .object [(name, .object [])] => FormSection.ofJson? (.string name)
  | value => FormSection.ofJson? value

def ofAction? (action : String) (detail : Value) : Option Remedy :=
  match action with
  | "wait_until" => do
    return .waitUntil (← (← detail.record? ["date"]).required "date" Date.ofJson?)
  | "remove_application" => do
    let record ← detail.record? ["application_choice_id"]
    return .removeApplication (← record.required "application_choice_id" Value.uint64?)
  | "complete_details" => do
    let record ← detail.record? ["sections"]
    return .completeDetails (← record.required "sections" (Value.list? sectionOfJson?))
  | "add_science_gcse" =>
    match detail with
    | .array (_ :: _) => none
    | _ => some .addScienceGcse
  | _ => none

def ofJson? : Value → Option Remedy
  | .object members => do
    ofAction? (← (← Json.Object.get? members "action").string?) (.object members)
  | .array (action :: detail) => do ofAction? (← action.string?) (.array detail)
  | _ => none

end Remedy

inductive SubmissionCheck where
  | applicationsClosed
  | courseUnavailable
  | incompleteDetails
  | alreadySubmitted
deriving DecidableEq

namespace SubmissionCheck

def all : List SubmissionCheck :=
  [.applicationsClosed, .courseUnavailable, .incompleteDetails, .alreadySubmitted]

def key : SubmissionCheck → String
  | .applicationsClosed => "applications_closed"
  | .courseUnavailable => "course_unavailable"
  | .incompleteDetails => "incomplete_details"
  | .alreadySubmitted => "already_submitted"

def ofKey? (key : String) : Option SubmissionCheck := all.find? (·.key == key)

def toJson (check : SubmissionCheck) : Value := .string check.key

def ofJson? : Value → Option SubmissionCheck := Value.choice? key all

end SubmissionCheck

structure EligibilityError where
  check : SubmissionCheck
  message : String
  remedy : Remedy
deriving DecidableEq

namespace EligibilityError

def fields : List String := ["key", "message", "remedy"]

def text (error : EligibilityError) : String := error.check.key ++ ": " ++ error.message

def toJson (error : EligibilityError) : Value :=
  .record [("key", error.check.toJson), ("message", .string error.message),
    ("remedy", error.remedy.toJson)]

def ofJson? (value : Value) : Option EligibilityError := do
  let record ← value.record? fields
  return {
    check := ← record.required "key" SubmissionCheck.ofJson?
    message := ← record.required "message" Value.string?
    remedy := ← record.required "remedy" Remedy.ofJson? }

end EligibilityError

namespace SubmissionCheck

/-- The later of the dates on which the course and the cycle open, of those still to come. -/
def opening? (snapshot : ChoiceSnapshot) (context : SubmissionContext) : Option Date :=
  let course := snapshot.course.applicationsOpenFrom
  let cycle := context.timetable.reopensOn context.today
  match context.timetable.canSubmit context.today, snapshot.course.opensBy context.today with
  | true, true => none
  | true, false => some course
  | false, true => some cycle
  | false, false => some (cycle.max course)

def applicationsClosedError (snapshot : ChoiceSnapshot) (context : SubmissionContext) :
    Option EligibilityError :=
  (opening? snapshot context).map fun date => {
    check := .applicationsClosed
    message := "This course is not yet open to applications. " ++
      "You'll be able to submit your application on " ++ date.govukText ++ "."
    remedy := .waitUntil date }

def courseUnavailableError (snapshot : ChoiceSnapshot) : Option EligibilityError :=
  if !snapshot.courseFull && snapshot.courseOption.siteStillValid &&
      snapshot.course.exposedInFind then none
  else some {
    check := .courseUnavailable
    message := "You cannot submit this application as the course is no longer available. " ++
      "Remove this application and search for other courses."
    remedy := .removeApplication snapshot.id }

def draftNotice : String :=
  "Your application will be saved as a draft while you finish adding your details."

def incompleteDetailsError (snapshot : ChoiceSnapshot) : Option EligibilityError :=
  match snapshot.form.incompleteSections snapshot.course.level with
  | [] => none
  | [.scienceGcse] => some {
      check := .incompleteDetails
      message := "To apply for a Primary course, you need a GCSE in science at grade 4 (C) " ++
        "or above, or equivalent. Add your science GCSE grade (or equivalent). " ++ draftNotice
      remedy := .addScienceGcse }
  | missing => some {
      check := .incompleteDetails
      message := "You cannot submit this application until you complete your details. " ++
        draftNotice
      remedy := .completeDetails missing }

def alreadySubmittedError (snapshot : ChoiceSnapshot) : Option EligibilityError :=
  if snapshot.status = .unsubmitted then none
  else some {
    check := .alreadySubmitted
    message := "You cannot submit this application because it has already been submitted " ++
      "(status: " ++ snapshot.status.label ++ ")."
    remedy := .removeApplication snapshot.id }

def evaluate (check : SubmissionCheck) (snapshot : ChoiceSnapshot)
    (context : SubmissionContext) : Option EligibilityError :=
  match check with
  | .applicationsClosed => applicationsClosedError snapshot context
  | .courseUnavailable => courseUnavailableError snapshot
  | .incompleteDetails => incompleteDetailsError snapshot
  | .alreadySubmitted => alreadySubmittedError snapshot

end SubmissionCheck

def keepFirst {α : Type} [BEq α] (kept : List α) : List α → List α
  | [] => kept
  | item :: rest =>
    if kept.contains item then keepFirst kept rest else keepFirst (kept ++ [item]) rest

structure SubmissionRules where
  checks : List SubmissionCheck
deriving DecidableEq

namespace SubmissionRules

def fields : List String := ["checks"]

def standard : SubmissionRules := ⟨SubmissionCheck.all⟩

/-- A repeated check keeps its first place. -/
def make (checks : List SubmissionCheck) : SubmissionRules := ⟨keepFirst [] checks⟩

def evaluate (rules : SubmissionRules) (snapshot : ChoiceSnapshot)
    (context : SubmissionContext) : Option EligibilityError :=
  rules.checks.findSome? fun check => check.evaluate snapshot context

def toJson (rules : SubmissionRules) : Value :=
  .record [("checks", .list SubmissionCheck.toJson rules.checks)]

def ofJson? (value : Value) : Option SubmissionRules := do
  let record ← value.record? fields
  return ⟨← record.required "checks" (Value.list? SubmissionCheck.ofJson?)⟩

end SubmissionRules

end Admissions
