import Admissions.Proofs.Rejections.Checks
import Admissions.Proofs.Wizard.Event

namespace Admissions.Rejections

open Wizard (Failure Handle Session)

variable {answers : Answers} {chosen : List String} {siblings : List Reason}
variable {template : Reason} {recorded : RecordedReason}

def RecordedReason.id : RecordedReason → String
  | mk id _ _ _ => id

theorem id_record (answers : Answers) (template : Reason) :
    (record answers template).id = template.id := by
  cases template
  rfl

theorem ids_recordSelected (answers : Answers) (chosen : List String) (siblings : List Reason) :
    (recordSelected answers chosen siblings).map RecordedReason.id =
      (siblings.map Reason.id).filter chosen.contains := by
  have named : RecordedReason.id ∘ record answers = Reason.id := funext (id_record answers)
  rw [recordSelected_eq_map, List.map_map, named, List.filter_map]
  rfl

/-- Siblings are recorded in their order and each once, and the ids of those recorded are the ids
    chosen. Blank ids do not count. -/
structure Records (chosen : List String) (siblings : List Reason)
    (recorded : List RecordedReason) : Prop where
  order : recorded.map RecordedReason.id = (siblings.map Reason.id).filter chosen.contains
  distinct : (recorded.map RecordedReason.id).Nodup
  same : ∀ id, id ∈ recorded.map RecordedReason.id ↔ id ∈ chosen ∧ Text.isPresent id = true

theorem records_of_picked {fine : Reason → Prop} (labelled : Labelled siblings)
    (picked : Picked chosen siblings fine) :
    Records chosen siblings (recordSelected answers chosen siblings) := by
  have order := ids_recordSelected answers chosen siblings
  refine ⟨order, ?_, fun id => ?_⟩
  · rw [order]
    exact labelled.distinct.filter _
  rw [order, List.mem_filter, List.contains_iff_mem]
  constructor
  · intro found
    obtain ⟨reason, listed, named⟩ := List.mem_map.mp found.1
    have present := labelled.named reason listed
    exact ⟨found.2, named ▸ present⟩
  · intro given
    obtain ⟨reason, found, -⟩ := picked.each id given.1 given.2
    have listed : reason ∈ siblings := List.mem_of_find?_eq_some found
    have named : reason.id = id := by simpa using List.find?_some found
    have member : reason.id ∈ siblings.map Reason.id := List.mem_map_of_mem listed
    exact ⟨named ▸ member, given.1⟩

theorem eq_record_of_id (labelled : Labelled siblings) (listed : template ∈ siblings)
    (member : recorded ∈ recordSelected answers chosen siblings)
    (named : recorded.id = template.id) :
    template.id ∈ chosen ∧ recorded = record answers template := by
  obtain ⟨other, also, selected, rfl⟩ := mem_recordSelected.mp member
  have first := (labelled.findable listed).first
  have first' := (labelled.findable also).first
  rw [id_record] at named
  rw [named, first] at first'
  obtain rfl := Option.some.inj first'
  exact ⟨selected, rfl⟩

/-- The details that a reason asks for are recorded as they are stored, without the white space
    around them. -/
def Worded (answers : Answers) (template : Reason) (recorded : RecordedReason) : Prop :=
  ∀ box, template.details = some box → ∃ text, answers.details.get? box.id = some text ∧
    recorded.details = some (Text.trim text) ∧ Text.trim text ≠ "" ∧
    Text.wordCount (Text.trim text) ≤ 200

theorem worded_of_supplied (supplied : Supplied answers template) :
    Worded answers template (record answers template) := by
  intro box asked
  obtain ⟨text, given, present, short⟩ := supplied box asked
  have recorded : (record answers template).details = some (Text.trim text) := by
    rw [details_record, asked, Option.bind_some, given, Option.map_some]
  have fewer : Text.wordCount (Text.trim text) ≤ 200 :=
    Nat.le_trans (Text.wordCount_trim_le text) short
  exact ⟨text, given, recorded, Text.trim_ne_empty present, fewer⟩

structure Entered (answers : Answers) (template : Reason) (recorded : RecordedReason) : Prop where
  details : template.subReasons = [] → Worded answers template recorded
  below : template.subReasons ≠ [] →
    Records (answers.chosenUnder template.id) template.subReasons recorded.selected
  detailsBelow : ∀ sub ∈ template.subReasons, ∀ under ∈ recorded.selected, under.id = sub.id →
    Worded answers sub under

theorem entered_of_answered (labelled : Labelled template.subReasons)
    (answered : Answered answers template) :
    Entered answers template (record answers template) := by
  refine ⟨fun leaf => worded_of_supplied (answered.leaf leaf), fun group => ?_, ?_⟩
  · rw [selected_record]
    exact records_of_picked labelled (answered.group group)
  · intro sub listed under member named
    rw [selected_record] at member
    obtain ⟨selected, rfl⟩ := eq_record_of_id labelled listed member named
    have picked := answered.group (List.ne_nil_of_mem listed)
    exact worded_of_supplied (picked.fine (labelled.findable listed) selected)

structure Reflects (answers : Answers) (reasons : List Reason)
    (recorded : List RecordedReason) : Prop where
  top : Records answers.selectedReasons reasons recorded
  each : ∀ template ∈ reasons, ∀ reason ∈ recorded, reason.id = template.id →
    Entered answers template reason

theorem reflects_of_materialize {context : Context} {rejection : Rejection}
    (labelled : Labelled context.reasons)
    (below : ∀ reason ∈ context.reasons, Labelled reason.subReasons)
    (made : materialize answers context = .ok rejection) :
    Reflects answers context.reasons rejection.selectedReasons := by
  obtain ⟨picked, rfl⟩ := materialize_eq_ok.mp made
  refine ⟨records_of_picked labelled picked, fun template listed reason member named => ?_⟩
  obtain ⟨selected, rfl⟩ := eq_record_of_id labelled listed member named
  have answered := picked.fine (labelled.findable listed) selected
  exact entered_of_answered (below template listed) answered

/-- The page checks by itself what is checked again when the record is made. -/
theorem finished_ne_error (handle : Handle wizard) (failure : Failure Violation) :
    Session.finished handle ≠ .error failure := by
  have checked : handle.errors =
      .ok (validateReasons handle.answers (Context.reasons handle.context)) := rfl
  obtain ⟨done, completed⟩ : ∃ done, handle.isComplete = .ok done := ⟨_, rfl⟩
  unfold Session.finished
  rw [checked, completed]
  simp only [bind, Except.bind]
  cases valid : (validateReasons handle.answers (Context.reasons handle.context)).isEmpty with
  | false => simp [pure, Except.pure]
  | true =>
    have picked := isEmpty_validateReasons.mp valid
    obtain ⟨rejection, made⟩ : ∃ rejection : Rejection,
        wizard.materialize handle.answers handle.context = .ok rejection :=
      ⟨_, materialize_eq_ok.mpr ⟨picked, rfl⟩⟩
    cases done with
    | false => simp [pure, Except.pure]
    | true => simp [made, pure, Except.pure]

/-- Whatever the answers, a save of the wizard fails only when the store does, and what it makes
    reflects what is selected. -/
theorem save_records_selection (session : Session wizard) :
    let context : Context := session.handle.context
    (∀ failure, session.save.1 = .error failure →
      ∃ error, session.store.fault .delete = some error ∧ failure = .store error) ∧
    (session.store.fault .delete = none → session.save.1 = .ok .skipped ∨
      ∃ rejection, session.save.1 = .ok (.created rejection)) ∧
    (Labelled context.reasons → (∀ reason ∈ context.reasons, Labelled reason.subReasons) →
      ∀ rejection : Rejection, session.save.1 = .ok (.created rejection) →
        Reflects session.handle.answers context.reasons rejection.selectedReasons) := by
  intro context
  have storeOnly : ∀ failure, session.save.1 = .error failure →
      ∃ error, session.store.fault .delete = some error ∧ failure = .store error := by
    intro failure failed
    cases session.finished_of_save_error failed with
    | inl refused =>
      -- The page has made the checks of the output already.
      exact absurd refused (finished_ne_error session.handle failure)
    | inr store =>
      obtain ⟨-, error, -, refusing, same⟩ := store
      exact ⟨error, refusing, same⟩
  refine ⟨storeOnly, ?_, ?_⟩
  · intro working
    cases saved : session.save.1 with
    | ok outcome =>
      cases outcome with
      | skipped => exact .inl rfl
      | created rejection => exact .inr ⟨rejection, rfl⟩
    | error failure =>
      obtain ⟨error, refusing, -⟩ := storeOnly failure saved
      rw [working] at refusing
      contradiction
  · intro labelled below rejection created
    have finished := session.finished_of_created created
    exact reflects_of_materialize labelled below (Session.finished_eq_some finished).2.2

def standardSession : Session wizard :=
  ⟨.empty, ⟨⟨"k"⟩, ⟨standardReasons, ⟨false, true⟩, false⟩, Step.check, standardAnswers⟩⟩

theorem save_records_selection_standard :
    ∃ rejection : Rejection, standardSession.save.1 = .ok (.created rejection) ∧
      rejection.selectedReasons.map RecordedReason.id = ["qualifications", "other"] ∧
      Reflects standardAnswers standardReasons rejection.selectedReasons := by
  have plain := plain_standardReasons
  have created : standardSession.save.1 = .ok (.created ⟨.rejectApplication,
      recordSelected standardAnswers standardAnswers.selectedReasons standardReasons⟩) := rfl
  obtain ⟨-, -, reflects⟩ := save_records_selection standardSession
  exact ⟨_, created, rfl, reflects plain.labelled plain.below _ created⟩

end Admissions.Rejections
