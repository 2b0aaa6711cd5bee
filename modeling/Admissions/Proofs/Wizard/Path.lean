import Admissions.Proofs.Except
import Admissions.Wizard.Handle

namespace Admissions.Wizard

variable {wizard : Definition} {answers : wizard.Answers} {context : wizard.Context}

def Definition.Passes (wizard : Definition) (step : wizard.Step) (answers : wizard.Answers)
    (context : wizard.Context) : Prop :=
  ∃ errors, wizard.validate step answers context = .ok errors ∧ errors.isEmpty = true

structure Definition.Moves (wizard : Definition) (answers : wizard.Answers)
    (context : wizard.Context) (step following : wizard.Step) : Prop where
  passes : wizard.Passes step answers context
  leads : wizard.next step answers context = .ok (.step following)
  declared : wizard.declared.contains (wizard.stepName following) = true

/-- The way ends on a page: the page has something against the answers, or it leads out. -/
inductive Definition.Ends (wizard : Definition) (answers : wizard.Answers)
    (context : wizard.Context) (step : wizard.Step) : Prop where
  | refused (errors : ValidationErrors)
      (validated : wizard.validate step answers context = .ok errors)
      (faulty : errors.isEmpty = false)
  | out (passes : wizard.Passes step answers context)
      (leads : wizard.next step answers context = .ok .exit)

/-- The way fails on a page: the page cannot be checked, or what follows it cannot be found or is
    not declared. -/
inductive Definition.Fails (wizard : Definition) (answers : wizard.Answers)
    (context : wizard.Context) (step : wizard.Step) : Failure wizard.Violation → Prop where
  | unchecked (failure : Failure wizard.Violation)
      (validated : wizard.validate step answers context = .error failure) :
      Fails wizard answers context step failure
  | unrouted (failure : Failure wizard.Violation) (passes : wizard.Passes step answers context)
      (leads : wizard.next step answers context = .error failure) :
      Fails wizard answers context step failure
  | undeclared (following : wizard.Step) (passes : wizard.Passes step answers context)
      (leads : wizard.next step answers context = .ok (.step following))
      (unknown : wizard.declared.contains (wizard.stepName following) = false) :
      Fails wizard answers context step (.undeclaredStep (wizard.stepName following))

namespace Definition

def onward (wizard : Definition) (answers : wizard.Answers) (context : wizard.Context)
    (step : wizard.Step) : wizard.Result (Option wizard.Step) := do
  let errors ← wizard.validate step answers context
  if !errors.isEmpty then return none
  let target ← wizard.resolve (← wizard.next step answers context)
  return target.step?

variable {step following : wizard.Step} {failure : Failure wizard.Violation}

theorem resolve_step_of_declared
    (declared : wizard.declared.contains (wizard.stepName following) = true) :
    wizard.resolve (.step following) = .ok (.step following) := if_pos declared

theorem resolve_step_of_unknown
    (unknown : wizard.declared.contains (wizard.stepName following) = false) :
    wizard.resolve (.step following) = .error (.undeclaredStep (wizard.stepName following)) := by
  simp only [resolve, unknown, Bool.false_eq_true, ↓reduceIte]

theorem onward_of_passes (passes : wizard.Passes step answers context) :
    wizard.onward answers context step = (do
      let target ← wizard.resolve (← wizard.next step answers context)
      return target.step?) := by
  obtain ⟨errors, validated, valid⟩ := passes
  simp only [onward, validated, bind, Except.bind, valid, Bool.not_true, Bool.false_eq_true,
    ↓reduceIte]

theorem Moves.onward (moves : wizard.Moves answers context step following) :
    wizard.onward answers context step = .ok (some following) := by
  rw [onward_of_passes moves.passes, moves.leads]
  simp only [bind, Except.bind, resolve_step_of_declared moves.declared]
  rfl

theorem Ends.onward (ends : wizard.Ends answers context step) :
    wizard.onward answers context step = .ok none := by
  cases ends with
  | refused errors validated faulty =>
    simp only [Definition.onward, validated, bind, Except.bind, faulty, Bool.not_false, ↓reduceIte]
    rfl
  | out passes leads =>
    rw [onward_of_passes passes, leads]
    rfl

theorem Fails.onward (fails : wizard.Fails answers context step failure) :
    wizard.onward answers context step = .error failure := by
  cases fails with
  | unchecked failure validated => simp only [Definition.onward, validated, bind, Except.bind]
  | unrouted failure passes leads =>
    rw [onward_of_passes passes, leads]
    rfl
  | undeclared following passes leads unknown =>
    rw [onward_of_passes passes, leads]
    simp only [bind, Except.bind, resolve_step_of_unknown unknown]

theorem Ends.stuck (ends : wizard.Ends answers context step) (following : wizard.Step) :
    ¬wizard.Moves answers context step following := by
  intro moves
  simpa [ends.onward] using moves.onward

theorem Fails.stuck (fails : wizard.Fails answers context step failure)
    (following : wizard.Step) : ¬wizard.Moves answers context step following := by
  intro moves
  simpa [fails.onward] using moves.onward

theorem Ends.not_fails (ends : wizard.Ends answers context step) :
    ¬wizard.Fails answers context step failure := by
  intro fails
  simpa [ends.onward] using fails.onward

theorem Fails.unique {failure' : Failure wizard.Violation}
    (fails : wizard.Fails answers context step failure)
    (fails' : wizard.Fails answers context step failure') : failure = failure' :=
  Except.error.inj (fails.onward.symm.trans fails'.onward)

theorem onward_cases (answers : wizard.Answers) (context : wizard.Context) (step : wizard.Step) :
    (∃ following, wizard.Moves answers context step following) ∨
    wizard.Ends answers context step ∨
    ∃ failure, wizard.Fails answers context step failure := by
  cases validated : wizard.validate step answers context with
  | error failure => exact .inr (.inr ⟨failure, .unchecked failure validated⟩)
  | ok errors =>
    cases valid : errors.isEmpty with
    | false => exact .inr (.inl (.refused errors validated valid))
    | true =>
      have passes : wizard.Passes step answers context := ⟨errors, validated, valid⟩
      cases leads : wizard.next step answers context with
      | error failure => exact .inr (.inr ⟨failure, .unrouted failure passes leads⟩)
      | ok target =>
        cases target with
        | exit => exact .inr (.inl (.out passes leads))
        | step following =>
          cases declared : wizard.declared.contains (wizard.stepName following) with
          | true => exact .inl ⟨following, passes, leads, declared⟩
          | false => exact .inr (.inr ⟨_, .undeclared following passes leads declared⟩)

theorem not_fails (checks : ∃ errors, wizard.validate step answers context = .ok errors)
    (leads : ∃ target, wizard.next step answers context = .ok target)
    (declared : ∀ following, wizard.declared.contains (wizard.stepName following) = true) :
    ¬wizard.Fails answers context step failure := by
  obtain ⟨errors, validated⟩ := checks
  obtain ⟨target, leads⟩ := leads
  intro fails
  cases fails with
  | unchecked _ unvalidated => simp [validated] at unvalidated
  | unrouted _ passes unrouted => simp [leads] at unrouted
  | undeclared following passes leads unknown =>
    rw [declared following] at unknown
    contradiction

end Definition

inductive Walked (wizard : Definition) (answers : wizard.Answers) (context : wizard.Context) :
    wizard.Step → Prop where
  | first : Walked wizard answers context (wizard.first context)
  | next {step following : wizard.Step} (before : Walked wizard answers context step)
      (passes : wizard.Passes step answers context)
      (leads : wizard.next step answers context = .ok (.step following))
      (declared : wizard.declared.contains (wizard.stepName following) = true) :
      Walked wizard answers context following

theorem Walked.cases {answers : wizard.Answers} {context : wizard.Context} {step : wizard.Step}
    (walked : Walked wizard answers context step) :
    step = wizard.first context ∨
      ∃ before, Walked wizard answers context before ∧ wizard.Passes before answers context ∧
        wizard.next before answers context = .ok (.step step) := by
  cases walked with
  | first => exact .inl rfl
  | next before passes leads declared => exact .inr ⟨_, before, passes, leads⟩

variable {step requested : wizard.Step}

theorem Walked.first_passes (walked : Walked wizard answers context step)
    (later : step ≠ wizard.first context) :
    wizard.Passes (wizard.first context) answers context := by
  induction walked with
  | first => exact absurd rfl later
  | @next step following before passes leads declared ih =>
    by_cases first : step = wizard.first context
    · subst first
      exact passes
    · exact ih first

theorem walk_of_onward {handle : Handle wizard} {fuel : Nat} (different : step ≠ requested) :
    handle.walk requested (fuel + 1) step =
      match wizard.onward handle.answers handle.context step with
      | .error failure => .error failure
      | .ok none => .ok (.redirect step)
      | .ok (some following) => handle.walk requested fuel following := by
  rw [Handle.walk, if_neg different, Definition.onward]
  cases wizard.validate step handle.answers handle.context with
  | error failure => rfl
  | ok errors =>
    simp only [bind, Except.bind]
    cases errors.isEmpty with
    | false => rfl
    | true =>
      cases wizard.next step handle.answers handle.context with
      | error failure => rfl
      | ok target =>
        simp only [Bool.not_true, Bool.false_eq_true, ↓reduceIte]
        cases wizard.resolve target with
        | error failure => rfl
        | ok target => cases target <;> rfl

theorem walk_show_cases {handle : Handle wizard} {requested step shown : wizard.Step} {fuel : Nat}
    (walked : handle.walk requested (fuel + 1) step = .ok (.show shown)) :
    (step = requested ∧ shown = requested) ∨
    ∃ following, wizard.Moves handle.answers handle.context step following ∧
      handle.walk requested fuel following = .ok (.show shown) := by
  by_cases same : step = requested
  · rw [same, Handle.walk, if_pos rfl] at walked
    exact .inl ⟨same, by simpa using walked.symm⟩
  · right
    rw [walk_of_onward same] at walked
    rcases wizard.onward_cases handle.answers handle.context step with
      ⟨following, moves⟩ | ends | ⟨failure, fails⟩
    · rw [moves.onward] at walked
      exact ⟨following, moves, walked⟩
    · simp [ends.onward] at walked
    · simp [fails.onward] at walked

theorem walk_eq_show {handle : Handle wizard} {requested step shown : wizard.Step} {fuel : Nat}
    (walked : handle.walk requested fuel step = .ok (.show shown)) : shown = requested := by
  induction fuel generalizing step with
  | zero => simp [Handle.walk] at walked
  | succ fuel ih =>
    rcases walk_show_cases walked with ⟨-, shows⟩ | ⟨following, -, later⟩
    · exact shows
    · exact ih later

theorem walked_of_walk {handle : Handle wizard} {requested step shown : wizard.Step} {fuel : Nat}
    (start : Walked wizard handle.answers handle.context step)
    (walked : handle.walk requested fuel step = .ok (.show shown)) :
    Walked wizard handle.answers handle.context shown := by
  induction fuel generalizing step with
  | zero => simp [Handle.walk] at walked
  | succ fuel ih =>
    rcases walk_show_cases walked with ⟨rfl, rfl⟩ | ⟨following, moves, later⟩
    · exact start
    · exact ih (start.next moves.passes moves.leads moves.declared) later

end Admissions.Wizard
