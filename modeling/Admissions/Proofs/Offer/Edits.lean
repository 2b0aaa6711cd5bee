import Admissions.Proofs.Offer.Editing

namespace Admissions.Offer

open Json (Value Object Codec)
open Wizard (Handle Target Governing)

def Step.Edits (step : Step) (before now : Answers) : Prop :=
  match step with
  | .selectProvider =>
    now = before ∨
      ∃ providerId, now = { before.withoutCourse with providerId, courseId := none }
  | .selectCourse =>
    now = before ∨ ∃ courseId, now = { before.withoutCourse with courseId }
  | .selectStudyMode => ∃ studyMode, now = { before with studyMode }
  | .selectLocation => ∃ courseOptionId, now = { before with courseOptionId }
  | .skeRequirements => ∃ skeRequired, now = { before with skeRequired }
  | .skeReason => ∃ skeReason, now = { before with skeReason }
  | .skeLength => ∃ skeLength, now = { before with skeLength }
  | .conditions => ∃ furtherConditions, now = { before with furtherConditions }
  | .check => now = before

theorem edits_refl (step : Step) (answers : Answers) : step.Edits answers answers := by
  cases step with
  | selectProvider | selectCourse => exact .inl rfl
  | selectStudyMode => exact ⟨answers.studyMode, rfl⟩
  | selectLocation => exact ⟨answers.courseOptionId, rfl⟩
  | skeRequirements => exact ⟨answers.skeRequired, rfl⟩
  | skeReason => exact ⟨answers.skeReason, rfl⟩
  | skeLength => exact ⟨answers.skeLength, rfl⟩
  | conditions => exact ⟨answers.furtherConditions, rfl⟩
  | check => rfl

theorem edits_provider {before now : Answers} (edits : Step.selectProvider.Edits before now)
    (providerId : Option UInt64) :
    Step.selectProvider.Edits before (Answers.provider.choose now providerId) := by
  unfold Governing.choose
  split
  · exact edits
  · right
    refine ⟨providerId, ?_⟩
    rcases edits with rfl | ⟨-, rfl⟩ <;> rfl

theorem edits_course {before now : Answers} (edits : Step.selectCourse.Edits before now)
    (courseId : Option UInt64) :
    Step.selectCourse.Edits before (Answers.chosenCourse.choose now courseId) := by
  unfold Governing.choose
  split
  · exact edits
  · right
    refine ⟨courseId, ?_⟩
    rcases edits with rfl | ⟨-, rfl⟩ <;> rfl

theorem edits_edit {step : Step} {before now : Answers} {name : String} {value : Value}
    {change : Answers → Answers} (edits : step.Edits before now)
    (permitted : step.permitted.contains name = true) (reads : edit name value = some change) :
    step.Edits before (change now) := by
  cases step with
  | selectProvider =>
    obtain rfl : name = "provider_id" := by simpa [Step.permitted] using permitted
    obtain ⟨providerId, -, rfl⟩ := Option.map_eq_some_iff.mp reads
    exact edits_provider edits providerId
  | selectCourse =>
    obtain rfl : name = "course_id" := by simpa [Step.permitted] using permitted
    obtain ⟨courseId, -, rfl⟩ := Option.map_eq_some_iff.mp reads
    exact edits_course edits courseId
  | selectStudyMode =>
    obtain rfl : name = "study_mode" := by simpa [Step.permitted] using permitted
    obtain ⟨studyMode, -, rfl⟩ := Option.map_eq_some_iff.mp reads
    obtain ⟨-, rfl⟩ := edits
    exact ⟨studyMode, rfl⟩
  | selectLocation =>
    obtain rfl : name = "course_option_id" := by simpa [Step.permitted] using permitted
    obtain ⟨courseOptionId, -, rfl⟩ := Option.map_eq_some_iff.mp reads
    obtain ⟨-, rfl⟩ := edits
    exact ⟨courseOptionId, rfl⟩
  | skeRequirements =>
    obtain rfl : name = "ske_required" := by simpa [Step.permitted] using permitted
    obtain ⟨skeRequired, -, rfl⟩ := Option.map_eq_some_iff.mp reads
    obtain ⟨-, rfl⟩ := edits
    exact ⟨skeRequired, rfl⟩
  | skeReason =>
    obtain rfl : name = "ske_reason" := by simpa [Step.permitted] using permitted
    obtain ⟨skeReason, -, rfl⟩ := Option.map_eq_some_iff.mp reads
    obtain ⟨-, rfl⟩ := edits
    exact ⟨skeReason, rfl⟩
  | skeLength =>
    obtain rfl : name = "ske_length" := by simpa [Step.permitted] using permitted
    obtain ⟨skeLength, -, rfl⟩ := Option.map_eq_some_iff.mp reads
    obtain ⟨-, rfl⟩ := edits
    exact ⟨skeLength, rfl⟩
  | conditions =>
    obtain rfl : name = "further_conditions" := by simpa [Step.permitted] using permitted
    obtain ⟨furtherConditions, -, rfl⟩ := Option.map_eq_some_iff.mp reads
    obtain ⟨-, rfl⟩ := edits
    exact ⟨furtherConditions, rfl⟩
  | check => simp [Step.permitted] at permitted

theorem within_edits : editing.Within Step.Edits := ⟨edits_refl, edits_edit⟩

section Resetting

variable {step : Step} {before now : Answers}

section

variable {name : String} {value : Value} {change : Answers → Answers}

theorem edit_of_same_provider (provider : now.providerId = before.providerId)
    (permitted : Step.selectProvider.permitted.contains name = true)
    (reads : edit name value = some change) (made : change now = now) : change before = before := by
  obtain rfl : name = "provider_id" := by simpa [Step.permitted] using permitted
  obtain ⟨providerId, -, rfl⟩ := Option.map_eq_some_iff.mp reads
  rw [Governing.choose_eq_self_iff] at made ⊢
  exact provider.symm.trans made

theorem edit_of_same_course (course : now.courseId = before.courseId)
    (permitted : Step.selectCourse.permitted.contains name = true)
    (reads : edit name value = some change) (made : change now = now) : change before = before := by
  obtain rfl : name = "course_id" := by simpa [Step.permitted] using permitted
  obtain ⟨courseId, -, rfl⟩ := Option.map_eq_some_iff.mp reads
  rw [Governing.choose_eq_self_iff] at made ⊢
  exact course.symm.trans made

end

structure Step.Resets (step : Step) (before now : Answers) : Prop where
  dropped : now.providerId ≠ before.providerId ∨ now.courseId ≠ before.courseId →
    now.studyMode = none ∧ now.courseOptionId = none ∧ now.skeRequired = none ∧
      now.skeReason = none ∧ now.skeLength = none
  course : now.providerId ≠ before.providerId → now.courseId = none
  kept : now.providerId = before.providerId → now.courseId = before.courseId →
    ("study_mode" ∉ step.permitted → now.studyMode = before.studyMode) ∧
      ("course_option_id" ∉ step.permitted → now.courseOptionId = before.courseOptionId) ∧
      ("ske_required" ∉ step.permitted → now.skeRequired = before.skeRequired) ∧
      ("ske_reason" ∉ step.permitted → now.skeReason = before.skeReason) ∧
      ("ske_length" ∉ step.permitted → now.skeLength = before.skeLength)
  others : ("provider_id" ∉ step.permitted → now.providerId = before.providerId) ∧
    ("further_conditions" ∉ step.permitted → now.furtherConditions = before.furtherConditions) ∧
    (now.providerId = before.providerId → "course_id" ∉ step.permitted →
      now.courseId = before.courseId)

theorem resets_of_same (provider : now.providerId = before.providerId)
    (course : now.courseId = before.courseId)
    (kept : ("study_mode" ∉ step.permitted → now.studyMode = before.studyMode) ∧
      ("course_option_id" ∉ step.permitted → now.courseOptionId = before.courseOptionId) ∧
      ("ske_required" ∉ step.permitted → now.skeRequired = before.skeRequired) ∧
      ("ske_reason" ∉ step.permitted → now.skeReason = before.skeReason) ∧
      ("ske_length" ∉ step.permitted → now.skeLength = before.skeLength))
    (conditions : "further_conditions" ∉ step.permitted →
      now.furtherConditions = before.furtherConditions) : step.Resets before now where
  dropped changed := absurd changed (by simp [provider, course])
  course changed := absurd provider changed
  kept _ _ := kept
  others := ⟨fun _ => provider, conditions, fun _ _ => course⟩

theorem resets_refl (step : Step) (answers : Answers) : step.Resets answers answers :=
  resets_of_same rfl rfl (by simp) (by simp)

theorem resets_of_edits (edits : step.Edits before now)
    (sameProvider : step = .selectProvider → now.providerId = before.providerId → now = before)
    (sameCourse : step = .selectCourse → now.courseId = before.courseId → now = before) :
    step.Resets before now := by
  cases step with
  | selectProvider =>
    by_cases provider : now.providerId = before.providerId
    · obtain rfl := sameProvider rfl provider
      exact resets_refl _ _
    · rcases edits with rfl | ⟨providerId, rfl⟩
      · exact absurd rfl provider
      · constructor
        case dropped => exact fun _ => ⟨rfl, rfl, rfl, rfl, rfl⟩
        case course => exact fun _ => rfl
        case kept => exact fun same => absurd same provider
        case others =>
          exact ⟨fun outside => absurd (by decide) outside, fun _ => rfl,
            fun same => absurd same provider⟩
  | selectCourse =>
    by_cases course : now.courseId = before.courseId
    · obtain rfl := sameCourse rfl course
      exact resets_refl _ _
    · rcases edits with rfl | ⟨courseId, rfl⟩
      · exact absurd rfl course
      · constructor
        case dropped => exact fun _ => ⟨rfl, rfl, rfl, rfl, rfl⟩
        case course => exact fun changed => absurd rfl changed
        case kept => exact fun _ same => absurd same course
        case others =>
          exact ⟨fun _ => rfl, fun _ => rfl, fun _ outside => absurd (by decide) outside⟩
  | selectStudyMode | selectLocation | skeRequirements | skeReason | skeLength | conditions =>
    obtain ⟨_, rfl⟩ := edits
    exact resets_of_same rfl rfl (by simp [Step.permitted]) (by simp [Step.permitted])
  | check =>
    obtain rfl := edits
    exact resets_refl _ _

theorem resets_of_submission {handle : Handle wizard} {params : SortedMap String Value}
    {now : Answers} {target : Target Step}
    (accepted : handle.submission params.entries = .ok (.accepted now target)) :
    Step.Resets handle.step handle.answers now := by
  obtain ⟨edits, -⟩ := within_edits.of_submission accepted
  refine resets_of_edits edits (fun page provider => ?_) (fun page course => ?_)
  · refine editing_settles.accepted_eq_of_made accepted fun name value change permitted reads => ?_
    rw [page] at permitted
    exact edit_of_same_provider provider permitted reads
  · refine editing_settles.accepted_eq_of_made accepted fun name value change permitted reads => ?_
    rw [page] at permitted
    exact edit_of_same_course course permitted reads

end Resetting

end Admissions.Offer
