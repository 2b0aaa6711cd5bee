import Admissions.Proofs.Wizard.Event

namespace Admissions.Wizard

variable {wizard : Definition}

def Storeless {κ α : Type} (result : Except (Failure κ) α) : Prop :=
  ∀ error, result ≠ .error (.store error)

section

variable {κ α β : Type}

theorem storeless_ok (value : α) : Storeless (.ok value : Except (Failure κ) α) := by
  intro error fails
  contradiction

theorem storeless_violated (cause : κ) :
    Storeless (.error (.violated cause) : Except (Failure κ) α) := by
  intro error fails
  have same := Except.error.inj fails
  contradiction

theorem storeless_ofLookup (result : Except RecordError α) :
    Storeless (Failure.ofLookup result : Except (Failure κ) α) := by
  intro error fails
  cases result with
  | ok value => contradiction
  | error cause =>
    have same := Except.error.inj fails
    contradiction

theorem Storeless.bind {result : Except (Failure κ) α} {following : α → Except (Failure κ) β}
    (first : Storeless result) (rest : ∀ value, Storeless (following value)) :
    Storeless (result >>= following) := by
  intro error fails
  cases result with
  | error failure =>
    obtain rfl := Except.error.inj fails
    exact first error rfl
  | ok value => exact rest value error fails

theorem storeless_mapM {f : β → Except (Failure κ) α} (each : ∀ item, Storeless (f item))
    (items : List β) : Storeless (items.mapM f) := by
  induction items with
  | nil => exact storeless_ok []
  | cons item items ih =>
    rw [List.mapM_cons]
    exact (each item).bind fun value => ih.bind fun values => storeless_ok (value :: values)

end

/-- The first page, wherever the pages are consulted, has something to ask, and no page consults the
    store. -/
structure Definition.Delivers (wizard : Definition) : Prop where
  steady : ∀ before now : wizard.Context, wizard.first before = wizard.first now
  asks : ∀ context, ∃ errors,
    wizard.validate (wizard.first context) wizard.blank context = .ok errors ∧
      errors.isEmpty = false
  validates : ∀ step answers context, Storeless (wizard.validate step answers context)
  completes : ∀ step answers context, Storeless (wizard.completed step answers context)
  makes : ∀ answers context, Storeless (wizard.materialize answers context)

namespace Session

variable {session : Session wizard}

def run (session : Session wizard) (events : List (Event wizard)) : Session wizard :=
  events.foldl after session

def Each (kind : Session wizard → Event wizard → Prop) :
    Session wizard → List (Event wizard) → Prop
  | _, [] => True
  | session, event :: events => kind session event ∧ Each kind (session.after event) events

theorem run_keeps {holds : Session wizard → Prop} {kind : Session wizard → Event wizard → Prop}
    (keeps : ∀ session event, holds session → kind session event → holds (session.after event))
    {events : List (Event wizard)} (start : holds session) (each : Each kind session events) :
    holds (session.run events) := by
  induction events generalizing session with
  | nil => exact start
  | cons event events ih => exact ih (keeps session event start each.1) each.2

def LeadsOn (session : Session wizard) : Event wizard → Prop
  | .advance params => ∃ target, (session.advance params).1 = .ok (.next target)
  | _ => False

def Retries (session : Session wizard) : Event wizard → Prop
  | .save => ∃ failure, session.save.1 = .error failure
  | .outage _ _ => True
  | _ => False

structure Blank (session : Session wizard) : Prop where
  step : session.handle.step = wizard.first session.handle.context
  answers : session.handle.answers = wizard.blank
  entry : session.store.raw session.handle.key = none

theorem blank_cleared (session : Session wizard) (context : wizard.Context) :
    (session.cleared context).Blank :=
  ⟨rfl, rfl, raw_without_self session.store session.handle.key⟩

theorem Blank.resumed (blank : session.Blank) (context : wizard.Context) :
    (session.resumed context).Blank := by
  have afresh : wizard.resumed session.store session.handle.key context =
      (wizard.first context, wizard.blank) := by
    simp only [Definition.resumed, Definition.recalled, blank.entry, Option.getD_none]
  refine ⟨?_, ?_, blank.entry⟩
  · exact congrArg Prod.fst afresh
  · exact congrArg Prod.snd afresh

theorem Blank.moved (blank : session.Blank) (delivers : wizard.Delivers) {step : wizard.Step}
    (walked : Walked wizard session.handle.answers session.handle.context step) :
    (session.moved step).Blank := by
  refine ⟨?_, blank.answers, blank.entry⟩
  by_cases first : step = wizard.first session.handle.context
  · exact first
  · -- The way to any other page would pass the first one, which still asks for something.
    obtain ⟨errors, validated, valid⟩ := walked.first_passes first
    obtain ⟨asked, asks, pending⟩ := delivers.asks session.handle.context
    rw [blank.answers, asks] at validated
    obtain rfl := Except.ok.inj validated
    rw [pending] at valid
    contradiction

theorem Blank.save_eq_skipped (blank : session.Blank) (delivers : wizard.Delivers) :
    session.save = (.ok .skipped, session) := by
  obtain ⟨errors, asks, pending⟩ := delivers.asks session.handle.context
  have finishes : finished session.handle = .ok none := by
    unfold finished Handle.errors
    rw [blank.step, blank.answers, asks]
    simp [bind, Except.bind, pending, pure, Except.pure]
  unfold save
  rw [finishes]

theorem Blank.after (blank : session.Blank) (delivers : wizard.Delivers) {event : Event wizard}
    (stays : ¬session.LeadsOn event) : (session.after event).Blank := by
  unfold Session.after
  cases event with
  | openBy context entry =>
    rcases session.openBy_cases context entry with opened | opened | ⟨failure, opened⟩
    · simp only [opened]
      exact session.blank_cleared context
    · simp only [opened]
      exact blank.resumed context
    · simp only [opened]
      exact blank
  | visit requested =>
    rcases session.visit_cases requested with ⟨walked, visited⟩ | ⟨outcome, visited, -⟩
    · simp only [visited]
      exact blank.moved delivers walked
    · simp only [visited]
      exact blank
  | advance params =>
    rcases session.advance_cases params with
      ⟨answers, target, -, -, advanced⟩ | ⟨outcome, advanced, -⟩
    · exact absurd ⟨target, congrArg Prod.fst advanced⟩ stays
    · simp only [advanced]
      exact blank
  | errors | next | previous | isComplete => exact blank
  | save =>
    simp only [blank.save_eq_skipped delivers]
    exact blank
  | clear =>
    rcases session.clear_cases with ⟨-, cleared⟩ | ⟨error, -, cleared⟩
    · simp only [cleared]
      exact session.blank_cleared session.handle.context
    · simp only [cleared]
      exact blank
  | revise context =>
    have first := delivers.steady session.handle.context context
    exact ⟨blank.step.trans first, blank.answers, blank.entry⟩
  | outage refusing poisoned => exact ⟨blank.step, blank.answers, blank.entry⟩

theorem blank_of_created {output : wizard.Output} (saved : session.save.1 = .ok (.created output)) :
    session.save.2.Blank := by
  rcases session.save_cases with ⟨made, -, -, created⟩ | ⟨outcome, refused, other⟩
  · rw [created]
    exact session.blank_cleared session.handle.context
  · rw [refused] at saved
    exact absurd saved (other output)

theorem storeless_finished (delivers : wizard.Delivers) (handle : Handle wizard) :
    Storeless (finished handle) := by
  unfold finished
  refine (delivers.validates _ _ _).bind fun errors => ?_
  split
  · exact storeless_ok none
  · refine (delivers.completes _ _ _).bind fun complete => ?_
    split
    · exact storeless_ok none
    · exact (delivers.makes _ _).bind fun output => storeless_ok (some output)

theorem save_eq_of_error {failure : Failure wizard.Violation}
    (failed : session.save.1 = .error failure) : session.save.2 = session := by
  rcases session.save_cases with ⟨output, -, -, created⟩ | ⟨outcome, refused, -⟩
  · rw [created] at failed
    contradiction
  · rw [refused]

theorem finished_of_save_store_error (delivers : wizard.Delivers) {error : StoreError}
    (failed : session.save.1 = .error (.store error)) :
    ∃ output, finished session.handle = .ok (some output) := by
  rcases session.finished_of_save_error failed with refused | ⟨output, -, finishes, -⟩
  · exact absurd refused (storeless_finished delivers session.handle error)
  · exact ⟨output, finishes⟩

/-- The handle and all entries are as they were; what the store refuses may differ. -/
structure Awaits (before now : Session wizard) : Prop where
  handle : now.handle = before.handle
  entries : now.store.entries = before.store.entries

theorem Awaits.after {before : Session wizard} (awaits : before.Awaits session)
    {event : Event wizard} (retries : session.Retries event) :
    before.Awaits (session.after event) := by
  cases event with
  | save =>
    obtain ⟨failure, failed⟩ := retries
    have same : session.after .save = session := save_eq_of_error failed
    rw [same]
    exact awaits
  | outage refusing poisoned => exact ⟨awaits.handle, awaits.entries⟩
  | openBy | visit | advance | errors | next | previous | isComplete | clear | revise =>
    contradiction

end Session

end Admissions.Wizard
