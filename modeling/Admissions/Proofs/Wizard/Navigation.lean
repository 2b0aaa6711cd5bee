import Admissions.Proofs.Wizard.Desk
import Admissions.Proofs.Wizard.Submission
import Admissions.Proofs.Wizard.Visit

namespace Admissions.Wizard

variable {wizard : Definition} {answers now : wizard.Answers} {context other : wizard.Context}
variable {rank : wizard.Step → Nat} {step : wizard.Step} {count : Nat}

/-- The pages rise in rank along the way, and a visit looks at more pages than there are ranks. -/
structure Definition.Climbs (wizard : Definition) (rank : wizard.Step → Nat)
    (answers : wizard.Answers) (context : wizard.Context) : Prop where
  bounded : ∀ step, rank step < Handle.longestWalk
  up : ∀ {step following}, wizard.Moves answers context step following →
    rank step < rank following

theorem WalkedIn.le_rank (climbs : wizard.Climbs rank answers context)
    (stands : WalkedIn wizard answers context count step) : count ≤ rank step := by
  induction stands with
  | first => exact Nat.zero_le _
  | next before moves ih => exact Nat.succ_le_of_lt (Nat.lt_of_le_of_lt ih (climbs.up moves))

namespace Walked

theorem walkedIn (walked : Walked wizard answers context step) :
    ∃ count, WalkedIn wizard answers context count step := by
  induction walked with
  | first => exact ⟨0, .first⟩
  | next before passes leads declared ih =>
    obtain ⟨count, stands⟩ := ih
    exact ⟨count + 1, stands.next ⟨passes, leads, declared⟩⟩

theorem moves {following : wizard.Step} (walked : Walked wizard answers context step)
    (moves : wizard.Moves answers context step following) :
    Walked wizard answers context following :=
  walked.next moves.passes moves.leads moves.declared

/-- Other answers, in other surroundings, open the same way to a page if no page before it tells
    them apart. -/
theorem transfer (climbs : wizard.Climbs rank answers context)
    (walked : Walked wizard answers context step)
    (start : wizard.first other = wizard.first context)
    (same : ∀ page, rank page < rank step →
      wizard.validate page now other = wizard.validate page answers context ∧
      wizard.next page now other = wizard.next page answers context) :
    Walked wizard now other step := by
  induction walked with
  | first => exact start ▸ .first
  | @next page following before passes leads declared ih =>
    have up : rank page < rank following := climbs.up ⟨passes, leads, declared⟩
    obtain ⟨validates, nexts⟩ := same page up
    have reached := ih fun earlier lower => same earlier (Nat.lt_trans lower up)
    obtain ⟨errors, validated, valid⟩ := passes
    exact reached.next ⟨errors, validates.trans validated, valid⟩ (nexts.trans leads) declared

theorem visit_show {session : Session wizard}
    (walked : Walked wizard session.handle.answers session.handle.context step)
    (climbs : wizard.Climbs rank session.handle.answers session.handle.context) :
    (session.visit step).1 = .ok (.show step) := by
  obtain ⟨count, stands⟩ := walked.walkedIn
  have near := Nat.lt_of_le_of_lt (stands.le_rank climbs) (climbs.bounded step)
  exact (session.visit_eq_show_iff step).mpr ⟨count, near, stands⟩

end Walked

theorem moves_of_submission {handle : Handle wizard} {params : Json.Object}
    {following : wizard.Step}
    (forward : wizard.nextAfterSubmit handle.step answers handle.context =
      wizard.next handle.step answers handle.context)
    (submitted : handle.submission params = .ok (.accepted answers (.step following))) :
    wizard.Moves answers handle.context handle.step following := by
  obtain ⟨-, -, -, passes, target, leads, resolves⟩ := submission_accepted submitted
  rw [forward] at leads
  cases target with
  | exit => simp [Definition.resolve] at resolves
  | step page =>
    unfold Definition.resolve at resolves
    dsimp only at resolves
    split at resolves
    · rename_i declared
      obtain rfl : page = following := by simpa using resolves
      exact ⟨passes, leads, declared⟩
    · contradiction

/-- Every handle, and whatever is stored, stands on a page that is shown when it is visited. So is
    the page to which a user is sent, by the handle itself and by one that is loaded afresh. -/
structure Desk.Navigable (admitted : wizard.Context → Prop) (desk : Desk wizard) : Prop where
  held : ∀ handle ∈ desk.handles,
    (Session.visit ⟨desk.store, handle⟩ handle.step).1 = .ok (.show handle.step)
  stored : ∀ key context step answers, admitted context →
    wizard.recalled desk.store key = some (step, answers) →
    (Session.visit ⟨desk.store, ⟨key, context, step, answers⟩⟩ step).1 = .ok (.show step)
  sent : ∀ handle ∈ desk.handles, ∀ params following after,
    Session.advance ⟨desk.store, handle⟩ params = (.ok (.next (.step following)), after) →
    (after.visit following).1 = .ok (.show following) ∧
    (after.store.fault .read = none →
      ∃ loaded, Handle.load after.store handle.key handle.context = .ok loaded ∧
        (Session.visit ⟨after.store, loaded⟩ following).1 = .ok (.show following))

variable {admitted : wizard.Context → Prop} {sound : wizard.Step → wizard.Answers → Prop}

theorem load_persisted (faithful : wizard.Faithful) {session : Session wizard}
    (readable : (session.persisted answers).store.fault .read = none) :
    Handle.load (session.persisted answers).store session.handle.key session.handle.context =
      .ok { session.handle with answers } := by
  have recalled := recalled_putRaw_self faithful session.store session.handle.key
    session.handle.step answers
  rw [load_eq_resume readable]
  simp only [Definition.resume, Definition.resumed, Session.persisted, recalled, Option.getD_some]

theorem navigable_of_kept (faithful : wizard.Faithful) (kept : Kept wizard admitted sound)
    (walks : ∀ step answers context, admitted context → sound step answers →
      Walked wizard answers context step)
    (climbs : ∀ answers context, wizard.Climbs rank answers context)
    (forward : ∀ step answers context,
      wizard.nextAfterSubmit step answers context = wizard.next step answers context)
    {moves : List (Move wizard)} (fits : ∀ move ∈ moves, move.Admits admitted) :
    (Desk.run moves).Navigable admitted := by
  have holds := Desk.Holds.empty.moves kept faithful fits
  constructor
  · intro handle member
    obtain ⟨present, fine⟩ := holds.held handle member
    exact (walks _ _ _ present fine).visit_show (climbs _ _)
  · intro key context step answers present recalled
    have fine := holds.stored key step answers recalled
    exact (walks _ _ context present fine).visit_show (climbs _ _)
  · intro handle member params following after advanced
    obtain ⟨present, fine⟩ := holds.held handle member
    obtain ⟨answers, accepted, rfl⟩ := Session.advance_of_next _ advanced
    have fine' := kept.advanced handle params answers _ present fine accepted
    have reached : Walked wizard answers handle.context following :=
      (walks _ _ _ present fine').moves (moves_of_submission (forward _ _ _) accepted)
    refine ⟨reached.visit_show (climbs _ _), fun readable => ?_⟩
    exact ⟨_, load_persisted faithful readable, reached.visit_show (climbs _ _)⟩

end Admissions.Wizard
