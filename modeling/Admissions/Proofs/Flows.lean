import Admissions.Proofs.CourseSelection.Encoding
import Admissions.Proofs.Offer.Encoding
import Admissions.Proofs.Permissions.Encoding
import Admissions.Proofs.Rejections.Encoding
import Admissions.Proofs.Wizard.Trace

namespace Admissions

open Wizard

inductive Flow where
  | courseSelection
  | offer
  | rejections
  | permissions

namespace Flow

def wizard : Flow → Definition
  | courseSelection => CourseSelection.wizard
  | offer => Offer.wizard
  | rejections => Rejections.wizard
  | permissions => Permissions.wizard

theorem wizard_faithful (flow : Flow) : flow.wizard.Faithful := by
  cases flow with
  | courseSelection => exact CourseSelection.wizard_faithful
  | offer => exact Offer.wizard_faithful
  | rejections => exact Rejections.wizard_faithful
  | permissions => exact Permissions.wizard_faithful

theorem first_eq_first (flow : Flow) (before now : flow.wizard.Context) :
    flow.wizard.first before = flow.wizard.first now := by
  cases flow <;> rfl

end Flow

/-- Whatever stands in the store at first, a handle that has been opened on a key holds the answers
    that loading from that key gives, on the page marked last, after any events. -/
theorem load_after_events (flow : Flow) (store : Store) (key : StoreKey)
    (context : flow.wizard.Context) (entry : Entry) {handle : Handle flow.wizard} {opened : Store}
    (opens : Handle.openBy store key context entry = (.ok handle, opened))
    (events : List (Event flow.wizard))
    (readable : ((Tracked.opened opened handle).run events).session.store.fault .read = none) :
    let reached := (Tracked.opened opened handle).run events
    Handle.load reached.session.store key reached.session.handle.context =
      .ok ⟨key, reached.session.handle.context, reached.marked,
        reached.session.handle.answers⟩ := by
  have inStep := (inStep_opened opens).run flow.wizard_faithful flow.first_eq_first events
  exact inStep.load readable

section

open Json (Value)

def selectedStore : Store :=
  Store.empty.putRaw ⟨"k"⟩
    (Value.object (Permissions.wizard.envelope .info ⟨[12, 7], .empty, false⟩)).text

def setUpContext : Flow.permissions.wizard.Context :=
  Permissions.Context.mk
    [⟨7, "Coast SCITT", "Hill College"⟩, ⟨12, "Coast SCITT", "Vale College"⟩]

def setUpEvents : List (Event Flow.permissions.wizard) :=
  let ticks : Json.Object := ["make_decisions", "view_diversity_information",
    "view_safeguarding_information"].map (·, .array [.string "training_provider"])
  [.visit (Permissions.Step.permissions 12), .outage [.write] false, .advance ticks,
    .outage [] false, .advance ticks, .visit (Permissions.Step.permissions 7), .save]

def selectedHandle : Handle Flow.permissions.wizard :=
  Flow.permissions.wizard.resume selectedStore ⟨"k"⟩ setUpContext

theorem load_after_setUpEvents :
    Handle.openBy selectedStore ⟨"k"⟩ setUpContext .resume =
      (.ok selectedHandle, selectedStore) ∧
    ((Tracked.opened selectedStore selectedHandle).run setUpEvents).session.store.fault .read =
      none ∧
    let reached := (Tracked.opened selectedStore selectedHandle).run setUpEvents
    Handle.load reached.session.store ⟨"k"⟩ reached.session.handle.context =
      .ok ⟨⟨"k"⟩, reached.session.handle.context, reached.marked,
        reached.session.handle.answers⟩ := by
  have opens : Handle.openBy selectedStore ⟨"k"⟩ setUpContext .resume =
      (.ok selectedHandle, selectedStore) := by
    unfold Handle.openBy
    dsimp only
    rw [load_eq_resume rfl, selectedHandle]
  have readable : ((Tracked.opened selectedStore selectedHandle).run
      setUpEvents).session.store.fault .read = none := by decide +kernel
  exact ⟨opens, readable, load_after_events .permissions selectedStore ⟨"k"⟩ setUpContext .resume
    opens setUpEvents readable⟩

end

end Admissions
