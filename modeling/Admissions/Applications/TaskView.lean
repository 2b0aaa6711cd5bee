import Admissions.Applications.Submission
import Admissions.Calendar.WorkingDays

namespace Admissions

open Json (Value)
open Calendar (Date Instant)

def ungroupedBucket : Nat := 999

/-- Applications rejected by default before this date were never asked for feedback. -/
def feedbackLaunch : Date := ⟨18583, by decide⟩

structure TaskViewContext where
  now : Instant
  currentCycleYear : Int32
  warningDays : UInt32

/-- The first of all years has none before it. -/
def TaskViewContext.previousCycleYear? (context : TaskViewContext) : Option Int32 :=
  if context.currentCycleYear = Int32.minValue then none
  else some (context.currentCycleYear - 1)

inductive TaskViewGroup where
  | deferredOffersPendingReconfirmation
  | aboutToBeRejectedAutomatically
  | awaitingProviderDecision
  | inactive
  | giveFeedbackForRejectedByDefault
  | interviewing
  | pendingConditionsPreviousCycle
  | waitingOnCandidate
  | pendingConditionsCurrentCycle
  | successfulCandidates
  | deferredOffersCurrentCycle
deriving DecidableEq

namespace TaskViewGroup

def all : List TaskViewGroup :=
  [.deferredOffersPendingReconfirmation, .aboutToBeRejectedAutomatically,
    .awaitingProviderDecision, .inactive, .giveFeedbackForRejectedByDefault, .interviewing,
    .pendingConditionsPreviousCycle, .waitingOnCandidate, .pendingConditionsCurrentCycle,
    .successfulCandidates, .deferredOffersCurrentCycle]

def name : TaskViewGroup → String
  | .deferredOffersPendingReconfirmation => "deferred_offers_pending_reconfirmation"
  | .aboutToBeRejectedAutomatically => "about_to_be_rejected_automatically"
  | .awaitingProviderDecision => "awaiting_provider_decision"
  | .inactive => "inactive"
  | .giveFeedbackForRejectedByDefault => "give_feedback_for_rejected_by_default"
  | .interviewing => "interviewing"
  | .pendingConditionsPreviousCycle => "pending_conditions_previous_cycle"
  | .waitingOnCandidate => "waiting_on_candidate"
  | .pendingConditionsCurrentCycle => "pending_conditions_current_cycle"
  | .successfulCandidates => "successful_candidates"
  | .deferredOffersCurrentCycle => "deferred_offers_current_cycle"

def label : TaskViewGroup → String
  | .giveFeedbackForRejectedByDefault => "give_feedback_for_rbd"
  | group => group.name

def toJson (group : TaskViewGroup) : Value := .string group.name

def ofJson? : Value → Option TaskViewGroup := Value.choice? name all

def contains (group : TaskViewGroup) (choice : ApplicationChoice) (context : TaskViewContext)
    (previousYear : Int32) : Bool :=
  let current := choice.recruitmentCycleYear = context.currentCycleYear
  let previous := choice.recruitmentCycleYear = previousYear
  match group with
  | .deferredOffersPendingReconfirmation => choice.status = .offerDeferred ∧ previous
  | .aboutToBeRejectedAutomatically =>
    choice.status = .awaitingProviderDecision ∧
      choice.rejectByDefaultAt.any fun deadline =>
        deadline.date ≤ context.now.date.addWorkingDays context.warningDays
  | .awaitingProviderDecision => choice.status = .awaitingProviderDecision
  | .inactive => choice.status = .inactive
  | .giveFeedbackForRejectedByDefault =>
    choice.status = .rejected ∧ choice.rejectedByDefault ∧ ¬choice.rejectionFeedbackGiven ∧
      choice.rejectedAt.any fun rejectedAt => feedbackLaunch ≤ rejectedAt.date
  | .interviewing => choice.status = .interviewing
  | .pendingConditionsPreviousCycle => choice.status = .pendingConditions ∧ previous
  | .waitingOnCandidate => choice.status = .offer ∧ current
  | .pendingConditionsCurrentCycle => choice.status = .pendingConditions ∧ current
  | .successfulCandidates => choice.status = .recruited ∧ current
  | .deferredOffersCurrentCycle => choice.status = .offerDeferred ∧ current

/-- The year of the cycle before is computed for every group, also for those that do not look at
    it. Where that overflows there is no answer. -/
def contains? (group : TaskViewGroup) (choice : ApplicationChoice) (context : TaskViewContext) :
    Option Bool :=
  context.previousCycleYear?.map (group.contains choice context)

end TaskViewGroup

structure PrioritisedApplication where
  bucket : Nat
  group : Option TaskViewGroup
  application : ApplicationChoice
deriving DecidableEq

namespace PrioritisedApplication

def toJson (entry : PrioritisedApplication) : Value :=
  .record [("bucket", .nat entry.bucket),
    ("group", .optional TaskViewGroup.toJson entry.group),
    ("application", entry.application.toJson)]

def deadlineOrder : Option Instant → Option Instant → Ordering
  | some left, some right => left.order right
  | some _, none => .lt
  | none, some _ => .gt
  | none, none => .eq

def order (left right : PrioritisedApplication) : Ordering :=
  (compare left.bucket right.bucket).then
    ((deadlineOrder left.application.rejectByDefaultAt right.application.rejectByDefaultAt).then
      ((right.application.updatedAt.order left.application.updatedAt).then
        (compare left.application.id right.application.id)))

def inOrder (rows : List PrioritisedApplication) : List PrioritisedApplication :=
  rows.mergeSort fun left right => left.order right != .gt

end PrioritisedApplication

structure TaskViewLadder where
  groups : List TaskViewGroup
deriving DecidableEq

namespace TaskViewLadder

def fields : List String := ["groups"]

def standard : TaskViewLadder := ⟨TaskViewGroup.all⟩

def make (groups : List TaskViewGroup) : TaskViewLadder := ⟨keepFirst [] groups⟩

/-- The bucket and the group of an application, counting groups from the given bucket on. The next
    bucket is counted, in 16 bits, before a group is looked at. -/
def classifyFrom (bucket : Nat) (choice : ApplicationChoice) (context : TaskViewContext) :
    List TaskViewGroup → Option (Nat × Option TaskViewGroup)
  | [] => some (ungroupedBucket, none)
  | group :: rest =>
    if bucket + 1 < UInt16.size then
      match group.contains? choice context with
      | none => none
      | some true => some (bucket, some group)
      | some false => classifyFrom (bucket + 1) choice context rest
    else none

def classify (ladder : TaskViewLadder) (choice : ApplicationChoice) (context : TaskViewContext) :
    Option (Nat × Option TaskViewGroup) :=
  classifyFrom 1 choice context ladder.groups

def row? (ladder : TaskViewLadder) (context : TaskViewContext) (application : ApplicationChoice) :
    Option PrioritisedApplication :=
  (ladder.classify application context).map fun (bucket, group) => ⟨bucket, group, application⟩

def prioritise (ladder : TaskViewLadder) (choices : List ApplicationChoice)
    (context : TaskViewContext) : Option (List PrioritisedApplication) :=
  (choices.mapM (ladder.row? context)).map PrioritisedApplication.inOrder

def toJson (ladder : TaskViewLadder) : Value :=
  .record [("groups", .list TaskViewGroup.toJson ladder.groups)]

def ofJson? (value : Value) : Option TaskViewLadder := do
  let record ← value.record? fields
  return ⟨← record.required "groups" (Value.list? TaskViewGroup.ofJson?)⟩

end TaskViewLadder

structure TaskViewRow where
  choice : UInt64
  bucket : Nat
  group : Option String
  status : String
  courseId : UInt64
  updatedAt : Instant
  rejectByDefaultAt : Option Instant
deriving DecidableEq

namespace TaskViewRow

def ofEntry (entry : PrioritisedApplication) : TaskViewRow where
  choice := entry.application.id
  bucket := entry.bucket
  group := entry.group.map TaskViewGroup.label
  status := entry.application.status.label
  courseId := entry.application.courseId
  updatedAt := entry.application.updatedAt
  rejectByDefaultAt := entry.application.rejectByDefaultAt

def members (row : TaskViewRow) : List (String × Value) :=
  let deadline := match row.rejectByDefaultAt with
    | none => []
    | some deadline => [("reject_by_default_at", deadline.toJson)]
  [("application_choice_id", .uint64 row.choice), ("bucket", .nat row.bucket),
    ("group", .optional .string row.group), ("status", .string row.status),
    ("course_id", .uint64 row.courseId), ("updated_at", row.updatedAt.toJson)] ++ deadline

def toJson (row : TaskViewRow) : Value := .record row.members

end TaskViewRow

end Admissions
