import Admissions.Proofs.CourseSelection.Editing

namespace Admissions.CourseSelection

open Json (Value Object Codec)
open Wizard (Handle Target Governing)

def Step.Edits (step : Step) (before now : Answers) : Prop :=
  match step with
  | .doYouKnowTheCourse => ∃ answer, now = { before with answer }
  | .providerSelection =>
    now = before ∨
      ∃ providerId, now = { before with providerId, studyMode := none, courseOptionId := none }
  | .whichCourse =>
    now = before ∨
      ∃ providerId courseId,
        now = { before with providerId, courseId, studyMode := none, courseOptionId := none }
  | .courseStudyMode => ∃ studyMode, now = { before with studyMode }
  | .courseSite => ∃ courseOptionId, now = { before with courseOptionId }
  | .goToFindExplanation => now = before
  | .courseReview => now = before

theorem edits_refl (step : Step) (answers : Answers) : step.Edits answers answers := by
  cases step with
  | doYouKnowTheCourse => exact ⟨answers.answer, rfl⟩
  | providerSelection | whichCourse => exact .inl rfl
  | courseStudyMode => exact ⟨answers.studyMode, rfl⟩
  | courseSite => exact ⟨answers.courseOptionId, rfl⟩
  | goToFindExplanation | courseReview => rfl

theorem edits_provider {before now : Answers} (edits : Step.providerSelection.Edits before now)
    (providerId : Option UInt64) :
    Step.providerSelection.Edits before (Answers.provider.choose now providerId) := by
  unfold Governing.choose
  split
  · exact edits
  · right
    refine ⟨providerId, ?_⟩
    rcases edits with rfl | ⟨-, rfl⟩ <;> rfl

theorem edits_provider_of_whichCourse {before now : Answers}
    (edits : Step.whichCourse.Edits before now) (providerId : Option UInt64) :
    Step.whichCourse.Edits before (Answers.provider.choose now providerId) := by
  unfold Governing.choose
  split
  · exact edits
  · right
    refine ⟨providerId, now.courseId, ?_⟩
    rcases edits with rfl | ⟨-, -, rfl⟩ <;> rfl

theorem edits_course_of_whichCourse {before now : Answers}
    (edits : Step.whichCourse.Edits before now) (courseId : Option UInt64) :
    Step.whichCourse.Edits before (Answers.chosenCourse.choose now courseId) := by
  unfold Governing.choose
  split
  · exact edits
  · right
    refine ⟨now.providerId, courseId, ?_⟩
    rcases edits with rfl | ⟨-, -, rfl⟩ <;> rfl

theorem edits_edit {step : Step} {before now : Answers} {name : String} {value : Value}
    {change : Answers → Answers} (edits : step.Edits before now)
    (permitted : step.permitted.contains name = true) (reads : edit name value = some change) :
    step.Edits before (change now) := by
  cases step with
  | doYouKnowTheCourse =>
    obtain rfl : name = "answer" := by simpa [Step.permitted] using permitted
    obtain ⟨answer, -, rfl⟩ := Option.map_eq_some_iff.mp reads
    obtain ⟨-, rfl⟩ := edits
    exact ⟨answer, rfl⟩
  | providerSelection =>
    obtain rfl : name = "provider_id" := by simpa [Step.permitted] using permitted
    obtain ⟨providerId, -, rfl⟩ := Option.map_eq_some_iff.mp reads
    exact edits_provider edits providerId
  | whichCourse =>
    have named : name = "provider_id" ∨ name = "course_id" := by
      simpa [Step.permitted] using permitted
    rcases named with rfl | rfl
    · obtain ⟨providerId, -, rfl⟩ := Option.map_eq_some_iff.mp reads
      exact edits_provider_of_whichCourse edits providerId
    · obtain ⟨courseId, -, rfl⟩ := Option.map_eq_some_iff.mp reads
      exact edits_course_of_whichCourse edits courseId
  | courseStudyMode =>
    obtain rfl : name = "study_mode" := by simpa [Step.permitted] using permitted
    obtain ⟨studyMode, -, rfl⟩ := Option.map_eq_some_iff.mp reads
    obtain ⟨-, rfl⟩ := edits
    exact ⟨studyMode, rfl⟩
  | courseSite =>
    obtain rfl : name = "course_option_id" := by simpa [Step.permitted] using permitted
    obtain ⟨courseOptionId, -, rfl⟩ := Option.map_eq_some_iff.mp reads
    obtain ⟨-, rfl⟩ := edits
    exact ⟨courseOptionId, rfl⟩
  | goToFindExplanation | courseReview => simp [Step.permitted] at permitted

theorem within_edits : editing.Within Step.Edits := ⟨edits_refl, edits_edit⟩

section Resetting

variable {handle : Handle wizard} {params : SortedMap String Value} {now : Answers}
variable {target : Target Step}

theorem spares_courseId {step : Step} {param : String × Value} (apart : param.1 ≠ "course_id") :
    editing.Spares step Answers.courseId param := by
  intro change _ reads answers
  obtain ⟨name, value⟩ := param
  change edit name value = some change at reads
  unfold edit at reads
  split at reads
  · obtain ⟨answer, -, rfl⟩ := Option.map_eq_some_iff.mp reads
    rfl
  · obtain ⟨providerId, -, rfl⟩ := Option.map_eq_some_iff.mp reads
    exact Answers.courseId_choose_provider
  · exact absurd rfl apart
  · obtain ⟨studyMode, -, rfl⟩ := Option.map_eq_some_iff.mp reads
    rfl
  · obtain ⟨courseOptionId, -, rfl⟩ := Option.map_eq_some_iff.mp reads
    rfl
  · obtain rfl := Option.some.inj reads
    rfl

/-- The provider and the course are written by what changes nothing else. -/
theorem edit_of_same_course {step : Step}
    (page : step = .providerSelection ∨ step = .whichCourse) {before now : Answers}
    (provider : now.providerId = before.providerId) (course : now.courseId = before.courseId)
    {name : String} {value : Value} {change : Answers → Answers}
    (permitted : step.permitted.contains name = true) (reads : edit name value = some change)
    (made : change now = now) : change before = before := by
  have named : name = "provider_id" ∨ name = "course_id" := by
    rcases page with rfl | rfl <;> simp_all [Step.permitted]
  rcases named with rfl | rfl
  · obtain ⟨providerId, -, rfl⟩ := Option.map_eq_some_iff.mp reads
    rw [Governing.choose_eq_self_iff] at made ⊢
    exact provider.symm.trans made
  · obtain ⟨courseId, -, rfl⟩ := Option.map_eq_some_iff.mp reads
    rw [Governing.choose_eq_self_iff] at made ⊢
    exact course.symm.trans made

/-- What becomes of the answers that depend on the provider and the course, and of the others. -/
structure Step.Resets (step : Step) (params : SortedMap String Value) (before now : Answers) :
    Prop where
  dropped : now.providerId ≠ before.providerId ∨ now.courseId ≠ before.courseId →
    now.studyMode = none ∧ now.courseOptionId = none
  course : params.get? "course_id" = none → now.courseId = before.courseId
  kept : now.providerId = before.providerId → now.courseId = before.courseId →
    ("study_mode" ∉ step.permitted → now.studyMode = before.studyMode) ∧
      ("course_option_id" ∉ step.permitted → now.courseOptionId = before.courseOptionId)
  others : ("answer" ∉ step.permitted → now.answer = before.answer) ∧
    ("provider_id" ∉ step.permitted → now.providerId = before.providerId) ∧
      ("course_id" ∉ step.permitted → now.courseId = before.courseId)

theorem resets_of_same {step : Step} {before now : Answers}
    (provider : now.providerId = before.providerId) (course : now.courseId = before.courseId)
    (answer : "answer" ∉ step.permitted → now.answer = before.answer)
    (mode : "study_mode" ∉ step.permitted → now.studyMode = before.studyMode)
    (site : "course_option_id" ∉ step.permitted → now.courseOptionId = before.courseOptionId) :
    step.Resets params before now where
  dropped changed := absurd changed (by simp [provider, course])
  course _ := course
  kept _ _ := ⟨mode, site⟩
  others := ⟨answer, fun _ => provider, fun _ => course⟩

theorem resets_of_dropped {step : Step} {before now : Answers} (answer : now.answer = before.answer)
    (mode : now.studyMode = none) (site : now.courseOptionId = none)
    (provider : "provider_id" ∉ step.permitted → now.providerId = before.providerId)
    (course : "course_id" ∉ step.permitted → now.courseId = before.courseId)
    (submitted : params.get? "course_id" = none → now.courseId = before.courseId)
    (still : now.providerId = before.providerId → now.courseId = before.courseId → now = before) :
    step.Resets params before now where
  dropped _ := ⟨mode, site⟩
  course := submitted
  kept provider course := by
    have same := still provider course
    exact ⟨fun _ => congrArg Answers.studyMode same, fun _ => congrArg Answers.courseOptionId same⟩
  others := ⟨fun _ => answer, provider, course⟩

theorem resets_of_edits {step : Step} {before now : Answers} (edits : step.Edits before now)
    (submitted : params.get? "course_id" = none → now.courseId = before.courseId)
    (still : step = .providerSelection ∨ step = .whichCourse → now.providerId = before.providerId →
      now.courseId = before.courseId → now = before) : step.Resets params before now := by
  cases step with
  | doYouKnowTheCourse =>
    obtain ⟨answer, rfl⟩ := edits
    exact resets_of_same rfl rfl (fun outside => absurd (by decide) outside) (fun _ => rfl)
      (fun _ => rfl)
  | providerSelection =>
    rcases edits with rfl | ⟨providerId, rfl⟩
    · exact resets_of_same rfl rfl (fun _ => rfl) (fun _ => rfl) (fun _ => rfl)
    · exact resets_of_dropped rfl rfl rfl (fun outside => absurd (by decide) outside)
        (fun _ => rfl) submitted (still (.inl rfl))
  | whichCourse =>
    rcases edits with rfl | ⟨providerId, courseId, rfl⟩
    · exact resets_of_same rfl rfl (fun _ => rfl) (fun _ => rfl) (fun _ => rfl)
    · exact resets_of_dropped rfl rfl rfl (fun outside => absurd (by decide) outside)
        (fun outside => absurd (by decide) outside) submitted (still (.inr rfl))
  | courseStudyMode =>
    obtain ⟨studyMode, rfl⟩ := edits
    exact resets_of_same rfl rfl (fun _ => rfl) (fun outside => absurd (by decide) outside)
      (fun _ => rfl)
  | courseSite =>
    obtain ⟨courseOptionId, rfl⟩ := edits
    exact resets_of_same rfl rfl (fun _ => rfl) (fun _ => rfl)
      (fun outside => absurd (by decide) outside)
  | goToFindExplanation | courseReview =>
    obtain rfl := edits
    exact resets_of_same rfl rfl (fun _ => rfl) (fun _ => rfl) (fun _ => rfl)

theorem resets_of_submission
    (accepted : handle.submission params.entries = .ok (.accepted now target)) :
    Step.Resets handle.step params handle.answers now := by
  obtain ⟨edits, -⟩ := within_edits.of_submission accepted
  have submitted : params.get? "course_id" = none →
      now.courseId = Answers.courseId handle.answers :=
    editing.field_of_missing accepted fun _ apart => spares_courseId apart
  refine resets_of_edits edits submitted fun page provider course => ?_
  exact editing_settles.accepted_eq_of_made accepted
    fun _ _ _ permitted reads => edit_of_same_course page provider course permitted reads

end Resetting

end Admissions.CourseSelection
