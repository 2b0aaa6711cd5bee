import Admissions.Proofs.Wizard.Editing

namespace Admissions.Wizard

open Json (Value Object)

variable {wizard : Definition} {session : Session wizard} {params : Object}

theorem Session.submission_of_invalid {errors : ValidationErrors} {after : Session wizard}
    (invalid : session.advance params = (.ok (.invalid errors), after)) :
    session.handle.submission params = .ok (.invalid errors) := by
  unfold Session.advance at invalid
  cases submitted : session.handle.submission params with
  | error failure => simp [submitted] at invalid
  | ok submission =>
    cases submission with
    | invalid found =>
      simp only [submitted, Prod.mk.injEq, Except.ok.injEq, Advance.invalid.injEq] at invalid
      rw [invalid.1]
    | accepted answers target =>
      simp only [submitted] at invalid
      split at invalid <;> simp at invalid

namespace Definition.Editing

theorem refusals_entries (editing : wizard.Editing) (step : wizard.Step)
    (params : SortedMap String Value) :
    (editing.refusals step .empty params.entries).messages.entries =
      (params.entries.filter (editing.refuses step)).map fun param =>
        (param.1, ["is not a valid value"]) := by
  have ascending : Ascending ((params.entries.filter (editing.refuses step)).map fun param =>
      (param.1, ["is not a valid value"])) :=
    List.pairwise_map.mpr (params.ascending.filter _)
  exact ValidationErrors.entries_foldl_add ascending

theorem advance_of_refused (editing : wizard.Editing)
    (writable : wizard.writable session.handle.answers = true)
    (refused : params.filter (editing.refuses session.handle.step) ≠ []) :
    session.advance params =
      (.ok (.invalid (editing.refusals session.handle.step .empty params)), session) := by
  have some : (editing.refusals session.handle.step .empty params).isEmpty = false := by
    rw [Bool.eq_false_iff, Ne, isEmpty_refusals]
    intro fine
    exact refused (List.filter_eq_nil_iff.mpr fun param member => by simp [fine param member])
  unfold Session.advance
  simp only [editing.submission_eq, writable, some, Bool.not_true, Bool.not_false,
    Bool.false_eq_true, ↓reduceIte]

/-- Where every parameter of the page can be read, it is the page that has something against the
    answers. -/
theorem validated_of_invalid (editing : wizard.Editing)
    (fine : params.filter (editing.refuses session.handle.step) = []) {errors : ValidationErrors}
    {after : Session wizard} (invalid : session.advance params = (.ok (.invalid errors), after)) :
    ∃ answers, wizard.validate session.handle.step answers session.handle.context = .ok errors := by
  have submitted := Session.submission_of_invalid invalid
  have empty : (editing.refusals session.handle.step .empty params).isEmpty = true := by
    rw [refusals, fine]
    rfl
  rw [editing.submission_eq] at submitted
  split at submitted
  · contradiction
  · simp only [empty, Bool.not_true, Bool.false_eq_true, ↓reduceIte] at submitted
    exact ⟨_, validated_of_judge submitted⟩

end Definition.Editing

end Admissions.Wizard
