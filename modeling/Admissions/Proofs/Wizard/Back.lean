import Admissions.Proofs.Wizard.Visit

namespace Admissions.Wizard

variable {wizard : Definition} {answers : wizard.Answers} {context : wizard.Context}

/-- The back link of a page on the way undoes the move to it. -/
structure Definition.Retraces (wizard : Definition) (answers : wizard.Answers)
    (context : wizard.Context) : Prop where
  entrance : wizard.previous (wizard.first context) answers context = .ok .exit
  declared : wizard.declared.contains (wizard.stepName (wizard.first context)) = true
  back {count : Nat} {step following : wizard.Step}
    (stands : WalkedIn wizard answers context count step)
    (moves : wizard.Moves answers context step following) :
    wizard.previous following answers context = .ok (.step step)

theorem Walked.declared {step : wizard.Step} (walked : Walked wizard answers context step)
    (start : wizard.declared.contains (wizard.stepName (wizard.first context)) = true) :
    wizard.declared.contains (wizard.stepName step) = true := by
  cases walked with
  | first => exact start
  | next before passes leads declared => exact declared

namespace Definition.Retraces

variable {step following : wizard.Step} {count other : Nat}

theorem ne_first (retraces : wizard.Retraces answers context)
    (stands : WalkedIn wizard answers context count step)
    (moves : wizard.Moves answers context step following) : following ≠ wizard.first context := by
  rintro rfl
  have back := retraces.back stands moves
  rw [retraces.entrance] at back
  injection back with impossible
  contradiction

theorem count_unique (retraces : wizard.Retraces answers context)
    (stands : WalkedIn wizard answers context count step)
    (stands' : WalkedIn wizard answers context other step) : count = other := by
  induction stands generalizing other with
  | first =>
    cases stands' with
    | first => rfl
    | next before moves => exact absurd rfl (retraces.ne_first before moves)
  | next before moves ih =>
    cases stands' with
    | first => exact absurd rfl (retraces.ne_first before moves)
    | next before' moves' =>
      -- The back link is one, so both ways come from the same page.
      have back := retraces.back before moves
      have back' := retraces.back before' moves'
      rw [back] at back'
      injection back' with same
      injection same with same
      subst same
      exact congrArg Nat.succ (ih before')

end Definition.Retraces

/-- The way comes to a shown page from another one only, to which the back link leads. That page is
    shown, too, and leads on to the first one. -/
structure Session.ComesFrom (session : Session wizard) (shown page : wizard.Step) : Prop where
  way : ∃ count, count + 1 < Handle.longestWalk ∧
    WalkedIn wizard session.handle.answers session.handle.context count page ∧
    ∀ later, WalkedIn wizard session.handle.answers session.handle.context later shown ↔
      later = count + 1
  back : (session.visit shown).2.handle.previous = .ok (.step page)
  again : ((session.visit shown).2.visit page).1 = .ok (.show page)
  onward : ((session.visit shown).2.visit page).2.handle.next = .ok (.step shown)

namespace Session

variable {session : Session wizard} {requested : wizard.Step}

theorem previous_moved {page : wizard.Step}
    (back : wizard.previous requested session.handle.answers session.handle.context =
      .ok (.step page))
    (declared : wizard.declared.contains (wizard.stepName page) = true) :
    (session.moved requested).handle.previous = .ok (.step page) := by
  simp only [Handle.previous, moved, back, bind, Except.bind]
  exact Definition.resolve_step_of_declared declared

theorem next_moved {page : wizard.Step}
    (moves : wizard.Moves session.handle.answers session.handle.context page requested) :
    (session.moved page).handle.next = .ok (.step requested) := by
  simp only [Handle.next, moved, moves.leads, bind, Except.bind]
  exact Definition.resolve_step_of_declared moves.declared

theorem exit_of_retraces
    (retraces : wizard.Retraces session.handle.answers session.handle.context) :
    let opened := session.visit (wizard.first session.handle.context)
    opened.1 = .ok (.show (wizard.first session.handle.context)) ∧
      opened.2.handle.previous = .ok .exit := by
  have shows := (session.visit_eq_show_iff (wizard.first session.handle.context)).mpr
    ⟨0, by decide, .first⟩
  obtain ⟨-, shown⟩ := session.visit_of_show shows
  refine ⟨shows, ?_⟩
  rw [shown]
  simp only [Handle.previous, moved, retraces.entrance, bind, Except.bind]
  rfl

theorem comesFrom_of_retraces
    (retraces : wizard.Retraces session.handle.answers session.handle.context)
    (shows : (session.visit requested).1 = .ok (.show requested))
    (later : requested ≠ wizard.first session.handle.context) :
    ∃ page, session.ComesFrom requested page := by
  obtain ⟨count, near, stands⟩ := (session.visit_eq_show_iff requested).mp shows
  cases stands with
  | first => exact absurd rfl later
  | @next count page _ before moves =>
    obtain ⟨-, shown⟩ := session.visit_of_show shows
    have again : ((session.moved requested).visit page).1 = .ok (.show page) :=
      ((session.moved requested).visit_eq_show_iff page).mpr ⟨count, by omega, before⟩
    refine ⟨page, ⟨count, near, before, fun other => ⟨fun stands' => ?_, ?_⟩⟩, ?_, ?_, ?_⟩
    · exact retraces.count_unique stands' (before.next moves)
    · rintro rfl
      exact before.next moves
    · rw [shown]
      exact previous_moved (retraces.back before moves)
        (before.walked.declared retraces.declared)
    · rw [shown]
      exact again
    · obtain ⟨-, returned⟩ := (session.moved requested).visit_of_show again
      rw [shown, returned]
      exact next_moved moves

end Session

end Admissions.Wizard
