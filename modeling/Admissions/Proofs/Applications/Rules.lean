import Admissions.Proofs.Applications.Opening
import Admissions.Proofs.Applications.Service
import Admissions.Proofs.KeepFirst

namespace Admissions

namespace SubmissionRules

variable {checks : List SubmissionCheck} {snapshot : ChoiceSnapshot} {context : SubmissionContext}
variable {error : EligibilityError}

/-- The error is what the first check that fails has against the submission. -/
structure FirstFailure (checks : List SubmissionCheck) (snapshot : ChoiceSnapshot)
    (context : SubmissionContext) (error : EligibilityError) : Prop where
  found : error.check.evaluate snapshot context = some error
  first : ∃ before after, checks = before ++ error.check :: after ∧
    ∀ check ∈ before, check.evaluate snapshot context = none

theorem evaluate_make (checks : List SubmissionCheck) (snapshot : ChoiceSnapshot)
    (context : SubmissionContext) :
    (make checks).evaluate snapshot context =
      (SubmissionRules.mk checks).evaluate snapshot context :=
  findSome?_keepFirst _ [] checks

theorem evaluate_eq_some_iff :
    (SubmissionRules.mk checks).evaluate snapshot context = some error ↔
      FirstFailure checks snapshot context error := by
  constructor
  · intro blocked
    obtain ⟨before, check, after, listed, fails, passed⟩ := List.findSome?_eq_some_iff.mp blocked
    obtain rfl := SubmissionCheck.check_of_evaluate fails
    exact ⟨fails, before, after, listed, passed⟩
  · rintro ⟨fails, before, after, listed, passed⟩
    exact List.findSome?_eq_some_iff.mpr ⟨before, error.check, after, listed, fails, passed⟩

theorem evaluate_eq_none_iff :
    (SubmissionRules.mk checks).evaluate snapshot context = none ↔
      ∀ check ∈ checks, check.evaluate snapshot context = none :=
  List.findSome?_eq_none_iff

theorem make_of_repeated {before after : List SubmissionCheck} {check : SubmissionCheck}
    (repeated : check ∈ before) : make (before ++ check :: after) = make (before ++ after) :=
  congrArg SubmissionRules.mk (keepFirst_of_repeated repeated after)

/-- The rules report the first of their checks that fails, if any. Repeats count for nothing, and
    rules with the same checks block the same submissions. -/
theorem order_decides_reason_only (checks : List SubmissionCheck) (snapshot : ChoiceSnapshot)
    (context : SubmissionContext) :
    (∀ error, (make checks).evaluate snapshot context = some error ↔
      FirstFailure checks snapshot context error) ∧
    ((make checks).evaluate snapshot context = none ↔
      ∀ check ∈ checks, check.evaluate snapshot context = none) ∧
    (make checks).evaluate snapshot context =
      (SubmissionRules.mk checks).evaluate snapshot context ∧
    (∀ before check after, checks = before ++ check :: after → check ∈ before →
      make checks = make (before ++ after)) ∧
    ∀ others : List SubmissionCheck, (∀ check, check ∈ checks ↔ check ∈ others) →
      ((make checks).evaluate snapshot context = none ↔
        (make others).evaluate snapshot context = none) := by
  refine ⟨fun error => ?_, ?_, evaluate_make checks snapshot context, ?_, fun others same => ?_⟩
  · rw [evaluate_make, evaluate_eq_some_iff]
  · rw [evaluate_make, evaluate_eq_none_iff]
  · rintro before check after rfl repeated
    exact make_of_repeated repeated
  · simp only [evaluate_make, evaluate_eq_none_iff, same]

theorem order_decides_reason_only_repeated :
    let checks : List SubmissionCheck :=
      [.courseUnavailable, .alreadySubmitted, .courseUnavailable, .incompleteDetails]
    let others : List SubmissionCheck :=
      [.incompleteDetails, .incompleteDetails, .courseUnavailable, .alreadySubmitted]
    let sent : ChoiceSnapshot := { SubmissionCheck.physicsDraft with status := .interviewing }
    let context : SubmissionContext := ⟨SubmissionCheck.afterDeadline, SubmissionCheck.autumnCycle⟩
    make checks = make [.courseUnavailable, .alreadySubmitted, .incompleteDetails] ∧
    (∀ check, check ∈ checks ↔ check ∈ others) ∧
    ((make checks).evaluate sent context = none ↔ (make others).evaluate sent context = none) ∧
    ((make checks).evaluate sent context).map (·.check) = some .alreadySubmitted ∧
    ((make others).evaluate sent context).map (·.check) = some .incompleteDetails := by
  intro checks others sent context
  obtain ⟨-, -, -, repeats, blocked⟩ := order_decides_reason_only checks sent context
  have same : ∀ check, check ∈ checks ↔ check ∈ others := by
    intro check
    cases check <;> decide
  exact ⟨repeats [.courseUnavailable, .alreadySubmitted] .courseUnavailable [.incompleteDetails] rfl
    (by decide), same, blocked others same, by decide +kernel, by decide +kernel⟩

end SubmissionRules

end Admissions
