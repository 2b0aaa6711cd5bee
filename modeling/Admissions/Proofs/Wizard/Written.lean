import Admissions.Proofs.Wizard.Desk

namespace Admissions.Wizard

open Json (Value)

variable {wizard : Definition} {admitted : wizard.Context → Prop}
variable {sound : wizard.Step → wizard.Answers → Prop}

def Store.Written (wizard : Definition) (store : Store) : Prop :=
  ∀ key payload, store.raw key = some payload →
    ∃ step answers, payload = (Value.object (wizard.envelope step answers)).text

namespace Store.Written

variable {store : Store}

theorem empty : Store.empty.Written wizard := by
  intro key payload raw
  simp [Store.raw, Store.empty] at raw

theorem putRaw (written : store.Written wizard) (key : StoreKey) (step : wizard.Step)
    (answers : wizard.Answers) :
    (store.putRaw key (Value.object (wizard.envelope step answers)).text).Written wizard := by
  intro found payload raw
  by_cases same : found = key
  · subst same
    rw [raw_putRaw_self] at raw
    exact ⟨step, answers, (Option.some.inj raw).symm⟩
  · rw [raw_putRaw_of_ne same] at raw
    exact written found payload raw

theorem without (written : store.Written wizard) (key : StoreKey) :
    (store.without key).Written wizard := by
  intro found payload raw
  by_cases same : found = key
  · subst same
    rw [raw_without_self] at raw
    contradiction
  · rw [raw_without_of_ne same] at raw
    exact written found payload raw

theorem effect {page : Option wizard.Step} {before now : Session wizard}
    (effect : Effect admitted before page now) (written : before.store.Written wizard) :
    now.store.Written wizard := by
  cases effect with
  | unchanged | moved | resumed | revised | failing => exact written
  | persisted => exact written.putRaw _ _ _
  | cleared => exact written.without _

theorem after (written : store.Written wizard) (handle : Handle wizard) (event : Event wizard) :
    (Session.after ⟨store, handle⟩ event).store.Written wizard := by
  let session : Session wizard := ⟨store, handle⟩
  have fits : event.Admits fun _ => True := by cases event <;> trivial
  have changes : Effect (fun _ => True) session (session.marks event) (session.after event) :=
    effect_after trivial fits
  exact effect changes written

end Store.Written

theorem Desk.store_after (desk : Desk wizard) (move : Move wizard) :
    (desk.after move).store = desk.store ∨
      ∃ (handle : Handle wizard) (event : Event wizard),
        (desk.after move).store = (Session.after ⟨desk.store, handle⟩ event).store := by
  cases move with
  | openAnother key context entry =>
    right
    refine ⟨.fresh key context, .openBy context entry, ?_⟩
    unfold Desk.after Session.after
    simp only [Handle.fresh]
    cases (Handle.openBy desk.store key context entry : wizard.Result _ × Store) with
    | mk outcome store => cases outcome <;> rfl
  | act place event =>
    unfold Desk.after
    dsimp only
    cases found : desk.handles[place]? with
    | none => exact .inl rfl
    | some handle => exact .inr ⟨handle, event, rfl⟩

theorem written_of_moves {desk : Desk wizard} (written : desk.store.Written wizard)
    (moves : List (Move wizard)) : (moves.foldl Desk.after desk).store.Written wizard := by
  induction moves generalizing desk with
  | nil => exact written
  | cons move moves ih =>
    apply ih
    rcases desk.store_after move with same | ⟨handle, event, does⟩
    · rw [same]
      exact written
    · rw [does]
      exact written.after handle event

theorem recalled_of_raw (faithful : wizard.Faithful) {store : Store} {key : StoreKey}
    {step : wizard.Step} {answers : wizard.Answers}
    (raw : store.raw key = some (Value.object (wizard.envelope step answers)).text) :
    wizard.recalled store key = some (step, answers) := by
  have same := raw_putRaw_self store key (Value.object (wizard.envelope step answers)).text
  have recalled := recalled_putRaw_self faithful store key step answers
  unfold Definition.recalled at recalled ⊢
  rw [same] at recalled
  rw [raw]
  exact recalled

structure Desk.Throughout (fine : wizard.Answers → Prop) (desk : Desk wizard) : Prop where
  handles : ∀ handle ∈ desk.handles, fine handle.answers
  entries : ∀ key payload, desk.store.raw key = some payload →
    ∃ step answers, payload = (Value.object (wizard.envelope step answers)).text ∧ fine answers

/-- What follows from a property that openings, visits and advances keep holds of all answers, after
    any moves. -/
theorem throughout_of_run (kept : Kept wizard admitted sound) (faithful : wizard.Faithful)
    {fine : wizard.Answers → Prop} (gives : ∀ step answers, sound step answers → fine answers)
    {moves : List (Move wizard)} (fits : ∀ move ∈ moves, move.Admits admitted) :
    (Desk.run moves).Throughout fine := by
  have holds : (Desk.run moves).Holds admitted sound := Desk.Holds.empty.moves kept faithful fits
  refine ⟨fun handle member => gives _ _ (holds.held handle member).sound, ?_⟩
  intro key payload raw
  obtain ⟨step, answers, rfl⟩ := written_of_moves .empty moves key payload raw
  have recalled := recalled_of_raw faithful raw
  exact ⟨step, answers, rfl, gives step answers (holds.stored key step answers recalled)⟩

end Admissions.Wizard
