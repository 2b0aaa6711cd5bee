import Admissions.Proofs.Wizard.Path
import Admissions.Proofs.Wizard.Recall

namespace Admissions.Wizard

open Json (Value Object)

variable {wizard : Definition}

namespace Session

def moved (session : Session wizard) (step : wizard.Step) : Session wizard :=
  { session with handle := { session.handle with step } }

def persisted (session : Session wizard) (answers : wizard.Answers) : Session wizard :=
  ⟨session.store.putRaw session.handle.key
      (Value.object (wizard.envelope session.handle.step answers)).text,
    { session.handle with answers }⟩

def cleared (session : Session wizard) (context : wizard.Context) : Session wizard :=
  ⟨session.store.without session.handle.key, .fresh session.handle.key context⟩

def resumed (session : Session wizard) (context : wizard.Context) : Session wizard :=
  { session with handle := wizard.resume session.store session.handle.key context }

def revised (session : Session wizard) (context : wizard.Context) : Session wizard :=
  { session with handle := { session.handle with context } }

def failing (session : Session wizard) (refusing : List StoreCall) (poisoned : Bool) :
    Session wizard :=
  { session with store := { session.store with refusing, poisoned } }

variable (session : Session wizard)

theorem visit_cases (requested : wizard.Step) :
    (Walked wizard session.handle.answers session.handle.context requested ∧
      session.visit requested = (.ok (.show requested), session.moved requested)) ∨
    ∃ outcome, session.visit requested = (outcome, session) ∧ ∀ s, outcome ≠ .ok (.show s) := by
  unfold visit Handle.visit
  cases walked : session.handle.walk requested Handle.longestWalk
      (wizard.first session.handle.context) with
  | error failure => exact .inr ⟨_, rfl, by simp⟩
  | ok visit =>
    cases visit with
    | redirect step => exact .inr ⟨_, rfl, by simp⟩
    | «show» step =>
      obtain rfl := walk_eq_show walked
      exact .inl ⟨walked_of_walk .first walked, rfl⟩

theorem advance_cases (params : Object) :
    (∃ answers target, session.handle.submission params = .ok (.accepted answers target) ∧
      session.store.fault .write = none ∧
      session.advance params = (.ok (.next target), session.persisted answers)) ∨
    ∃ outcome, session.advance params = (outcome, session) ∧
      ∀ target, outcome ≠ .ok (.next target) := by
  unfold advance
  dsimp only
  cases submitted : session.handle.submission params with
  | error failure => exact .inr ⟨_, rfl, by simp⟩
  | ok submission =>
    cases submission with
    | invalid errors => exact .inr ⟨_, rfl, by simp⟩
    | accepted answers target =>
      cases failing : session.store.fault .write with
      | some error =>
        simp only [Store.write, failing]
        exact .inr ⟨_, rfl, by simp⟩
      | none =>
        simp only [Store.write, failing]
        exact .inl ⟨answers, target, rfl, trivial, rfl⟩

theorem advance_of_accepted {params : Object} {answers : wizard.Answers}
    {target : Target wizard.Step}
    (accepted : session.handle.submission params = .ok (.accepted answers target))
    (writable : session.store.fault .write = none) :
    session.advance params = (.ok (.next target), session.persisted answers) := by
  unfold advance
  simp only [accepted, Store.write, writable]
  rfl

theorem clear_cases :
    (session.store.fault .delete = none ∧
      session.clear = (.ok (), session.cleared session.handle.context)) ∨
    ∃ error, session.store.fault .delete = some error ∧
      session.clear = (.error (.store error), session) := by
  unfold clear
  cases failing : session.store.fault .delete with
  | some error =>
    simp only [Store.delete, failing]
    exact .inr ⟨error, rfl, rfl⟩
  | none =>
    simp only [Store.delete, failing]
    exact .inl ⟨trivial, rfl⟩

theorem save_cases :
    (∃ output, finished session.handle = .ok (some output) ∧
      session.store.fault .delete = none ∧
      session.save = (.ok (.created output), session.cleared session.handle.context)) ∨
    ∃ outcome, session.save = (outcome, session) ∧ ∀ output, outcome ≠ .ok (.created output) := by
  unfold save
  cases made : finished session.handle with
  | error failure => exact .inr ⟨_, rfl, by simp⟩
  | ok output =>
    cases output with
    | none => exact .inr ⟨_, rfl, by simp⟩
    | some output =>
      rcases session.clear_cases with ⟨working, cleared⟩ | ⟨error, failing, cleared⟩
      · simp only [cleared]
        exact .inl ⟨output, rfl, working, rfl⟩
      · simp only [cleared]
        exact .inr ⟨_, rfl, by simp⟩

theorem created_of_finished {output : wizard.Output}
    (finishes : finished session.handle = .ok (some output))
    (working : session.store.fault .delete = none) :
    session.save.1 = .ok (.created output) := by
  unfold save
  rw [finishes]
  rcases session.clear_cases with ⟨-, cleared⟩ | ⟨error, failing, -⟩
  · simp only [cleared]
  · rw [working] at failing
    contradiction

theorem save_of_complete (clean : session.handle.errors = .ok .empty)
    (complete : session.handle.isComplete = .ok true)
    (working : session.store.fault .delete = none) :
    session.save.1 =
      (wizard.materialize session.handle.answers session.handle.context).map .created := by
  have made : finished session.handle =
      (wizard.materialize session.handle.answers session.handle.context).map some := by
    unfold finished
    rw [clean, complete]
    cases wizard.materialize session.handle.answers session.handle.context <;> rfl
  cases makes : wizard.materialize session.handle.answers session.handle.context with
  | error failure =>
    rw [makes] at made
    unfold save
    rw [made]
    rfl
  | ok output =>
    rw [makes] at made
    exact session.created_of_finished made working

theorem visit_of_show {requested shown : wizard.Step}
    (shows : (session.visit requested).1 = .ok (.show shown)) :
    Walked wizard session.handle.answers session.handle.context requested ∧
      (session.visit requested).2 = session.moved requested := by
  rcases session.visit_cases requested with ⟨walked, visited⟩ | ⟨outcome, visited, hidden⟩
  · rw [visited]
    exact ⟨walked, rfl⟩
  · rw [visited] at shows
    exact absurd shows (hidden shown)

theorem advance_of_next {params : Object} {target : Target wizard.Step} {after : Session wizard}
    (advanced : session.advance params = (.ok (.next target), after)) :
    ∃ answers, session.handle.submission params = .ok (.accepted answers target) ∧
      after = session.persisted answers := by
  rcases session.advance_cases params with
    ⟨answers, reached, accepted, -, done⟩ | ⟨outcome, done, refused⟩
  · obtain ⟨same, rfl⟩ := Prod.mk.inj (done.symm.trans advanced)
    obtain rfl : reached = target := by simpa using same
    exact ⟨answers, accepted, rfl⟩
  · have same := congrArg Prod.fst (done.symm.trans advanced)
    exact absurd same (refused target)

theorem finished_of_created {output : wizard.Output}
    (saved : session.save.1 = .ok (.created output)) :
    finished session.handle = .ok (some output) := by
  rcases session.save_cases with ⟨made, finishes, -, created⟩ | ⟨outcome, refused, other⟩
  · rw [created] at saved
    simp only [Except.ok.injEq, Saved.created.injEq] at saved
    rw [finishes, saved]
  · rw [refused] at saved
    exact absurd saved (other output)

theorem finished_of_save_error {failure : Failure wizard.Violation}
    (failed : session.save.1 = .error failure) :
    finished session.handle = .error failure ∨
      ∃ output error, finished session.handle = .ok (some output) ∧
        session.store.fault .delete = some error ∧ failure = .store error := by
  unfold save at failed
  cases made : finished session.handle with
  | error cause =>
    simp only [made, Except.error.injEq] at failed
    exact .inl (congrArg Except.error failed)
  | ok output =>
    cases output with
    | none => simp [made] at failed
    | some output =>
      rcases session.clear_cases with ⟨-, cleared⟩ | ⟨error, refusing, cleared⟩
      · simp [made, cleared] at failed
      · simp only [made, cleared, Except.error.injEq] at failed
        exact .inr ⟨output, error, rfl, refusing, failed.symm⟩

theorem finished_eq_some {handle : Handle wizard} {output : wizard.Output}
    (finishes : finished handle = .ok (some output)) :
    wizard.Passes handle.step handle.answers handle.context ∧
      wizard.completed handle.step handle.answers handle.context = .ok true ∧
      wizard.materialize handle.answers handle.context = .ok output := by
  obtain ⟨errors, validated, finishes⟩ := exists_of_bind_eq_ok finishes
  split at finishes
  · simp [pure, Except.pure] at finishes
  · rename_i valid
    obtain ⟨done, complete, finishes⟩ := exists_of_bind_eq_ok finishes
    cases done with
    | false => simp [pure, Except.pure] at finishes
    | true =>
      obtain ⟨made, makes, finishes⟩ := exists_of_bind_eq_ok finishes
      obtain rfl := Option.some.inj (Except.ok.inj finishes)
      exact ⟨⟨errors, validated, by simpa using valid⟩, complete, makes⟩

theorem openBy_cases (context : wizard.Context) (entry : Entry) :
    Handle.openBy session.store session.handle.key context entry =
        (.ok (.fresh session.handle.key context), session.store.without session.handle.key) ∨
    Handle.openBy session.store session.handle.key context entry =
        (.ok (wizard.resume session.store session.handle.key context), session.store) ∨
    ∃ failure, Handle.openBy session.store session.handle.key context entry =
        (.error failure, session.store) := by
  cases entry with
  | start =>
    unfold Handle.openBy Handle.enter Store.delete
    cases session.store.fault .delete with
    | some error => exact .inr (.inr ⟨_, rfl⟩)
    | none => exact .inl rfl
  | resume =>
    unfold Handle.openBy
    dsimp only
    cases loaded : Handle.load session.store session.handle.key context with
    | error failure => exact .inr (.inr ⟨failure, rfl⟩)
    | ok handle =>
      obtain rfl := eq_resume_of_load loaded
      exact .inr (.inl rfl)

end Session

inductive Event (wizard : Definition) where
  | openBy (context : wizard.Context) (entry : Entry)
  | visit (requested : wizard.Step)
  | advance (params : Object)
  | errors
  | next
  | previous
  | isComplete
  | save
  | clear
  | revise (context : wizard.Context)
  | outage (refusing : List StoreCall) (poisoned : Bool)

def Event.Admits (admitted : wizard.Context → Prop) : Event wizard → Prop
  | .openBy context _ => admitted context
  | .revise context => admitted context
  | _ => True

namespace Session

/-- The session that an event leaves. An opening that fails leaves the old handle. -/
def after (session : Session wizard) : Event wizard → Session wizard
  | .openBy context entry =>
    match Handle.openBy session.store session.handle.key context entry with
    | (.ok handle, store) => ⟨store, handle⟩
    | (.error _, store) => { session with store }
  | .visit requested => (session.visit requested).2
  | .advance params => (session.advance params).2
  | .errors | .next | .previous | .isComplete => session
  | .save => session.save.2
  | .clear => session.clear.2
  | .revise context => session.revised context
  | .outage refusing poisoned => session.failing refusing poisoned

/-- The page that an event marks: the page submitted by an advance that succeeds, the page on which
    the handle is opened, or the first page when the session is cleared. -/
def marks (session : Session wizard) : Event wizard → Option wizard.Step
  | .openBy context entry =>
    match (Handle.openBy session.store session.handle.key context entry).1 with
    | .ok handle => some handle.step
    | .error _ => none
  | .advance params =>
    match (session.advance params).1 with
    | .ok (.next _) => some session.handle.step
    | _ => none
  | .save =>
    match session.save.1 with
    | .ok (.created _) => some (wizard.first session.handle.context)
    | _ => none
  | .clear =>
    match session.clear.1 with
    | .ok () => some (wizard.first session.handle.context)
    | .error _ => none
  | _ => none

end Session

inductive Effect (admitted : wizard.Context → Prop) (session : Session wizard) :
    Option wizard.Step → Session wizard → Prop where
  | unchanged : Effect admitted session none session
  | moved (step : wizard.Step)
      (walked : Walked wizard session.handle.answers session.handle.context step) :
      Effect admitted session none (session.moved step)
  | persisted (params : Object) (answers : wizard.Answers) (target : Target wizard.Step)
      (accepted : session.handle.submission params = .ok (.accepted answers target)) :
      Effect admitted session (some session.handle.step) (session.persisted answers)
  | cleared (context : wizard.Context) (fits : admitted context) :
      Effect admitted session (some (wizard.first context)) (session.cleared context)
  | resumed (context : wizard.Context) (fits : admitted context) :
      Effect admitted session (some (wizard.resumed session.store session.handle.key context).1)
        (session.resumed context)
  | revised (context : wizard.Context) (fits : admitted context) :
      Effect admitted session none (session.revised context)
  | failing (refusing : List StoreCall) (poisoned : Bool) :
      Effect admitted session none (session.failing refusing poisoned)

theorem effect_after {admitted : wizard.Context → Prop} {session : Session wizard}
    {event : Event wizard} (present : admitted session.handle.context)
    (fits : event.Admits admitted) :
    Effect admitted session (session.marks event) (session.after event) := by
  cases event with
  | openBy context entry =>
    unfold Session.marks Session.after
    rcases session.openBy_cases context entry with opened | opened | ⟨failure, opened⟩
    · simp only [opened]
      exact .cleared context fits
    · simp only [opened]
      exact .resumed context fits
    · simp only [opened]
      exact .unchanged
  | visit requested =>
    unfold Session.marks Session.after
    rcases session.visit_cases requested with ⟨walked, visited⟩ | ⟨outcome, visited, -⟩
    · simp only [visited]
      exact .moved requested walked
    · simp only [visited]
      exact .unchanged
  | advance params =>
    unfold Session.marks Session.after
    rcases session.advance_cases params with
      ⟨answers, target, accepted, -, advanced⟩ | ⟨outcome, advanced, refused⟩
    · simp only [advanced]
      exact .persisted params answers target accepted
    · simp only [advanced]
      exact .unchanged
  | errors | next | previous | isComplete => exact .unchanged
  | save =>
    unfold Session.marks Session.after
    rcases session.save_cases with ⟨output, -, -, saved⟩ | ⟨outcome, saved, refused⟩
    · simp only [saved]
      exact .cleared _ present
    · simp only [saved]
      exact .unchanged
  | clear =>
    unfold Session.marks Session.after
    rcases session.clear_cases with ⟨-, cleared⟩ | ⟨error, -, cleared⟩
    · simp only [cleared]
      exact .cleared _ present
    · simp only [cleared]
      exact .unchanged
  | revise context => exact .revised context fits
  | outage refusing poisoned => exact .failing refusing poisoned

end Admissions.Wizard
