import Admissions.Proofs.Offer.Way
import Admissions.Proofs.Wizard.Back

namespace Admissions.Offer

variable {answers : Answers} {context : Context} {found : CourseShape}

theorem previous_selectLocation (looked : shape answers context = .ok found) :
    Step.previous .selectLocation answers context =
      .ok (.step (if found.multipleStudyModes then .selectStudyMode else .selectCourse)) := by
  simp only [Step.previous, looked, bind, Except.bind]
  cases found.multipleStudyModes <;> rfl

theorem previous_afterLocation (looked : shape answers context = .ok found) :
    (afterLocation found context).previous answers context =
      .ok (.step (lastCourseStep found answers)) := by
  rcases afterLocation_cases found context with ⟨-, lands⟩ | ⟨inapplicable, lands⟩
  · simp only [lands, Step.previous, looked, bind, Except.bind, pure, Except.pure]
  · simp only [lands, Step.previous, looked, inapplicable, bind, Except.bind, pure, Except.pure,
      Bool.not_false, ↓reduceIte]

theorem previous_conditions_of_applies (looked : shape answers context = .ok found)
    (applies : context.skeApplies found.course = true) :
    Step.previous .conditions answers context =
      .ok (.step (if answers.skeRequired = some true then .skeLength else .skeRequirements)) := by
  simp only [Step.previous, looked, applies, bind, Except.bind, pure, Except.pure, Bool.not_true,
    Bool.false_eq_true, ↓reduceIte]
  split <;> rfl

theorem retraces (available : context.catalog.Available) : wizard.Retraces answers context where
  entrance := rfl
  declared := rfl
  back stands moves := by
    have looked {found : CourseShape} (course : answers.course context.catalog = some found) :=
      shape_of_course available course
    cases leads_of_next moves.leads with
    | provided => rfl
    | toMode found course both => rfl
    | toLocation found course single several =>
      have back := previous_selectLocation (looked course)
      rw [single] at back
      exact back
    | past found course single one after =>
      subst after
      have back := previous_afterLocation (looked course)
      rw [lastCourseStep, CourseShape.multipleSites_of_one one, single] at back
      exact back
    | modeToLocation found course several =>
      obtain ⟨other, course', -, both⟩ := walked_selectStudyMode stands.walked
      obtain rfl : found = other := Option.some.inj (course.symm.trans course')
      have back := previous_selectLocation (looked course)
      rw [both] at back
      exact back
    | modePast found course one after =>
      obtain ⟨other, course', -, both⟩ := walked_selectStudyMode stands.walked
      obtain rfl : found = other := Option.some.inj (course.symm.trans course')
      subst after
      have back := previous_afterLocation (looked course)
      rw [lastCourseStep, one, both] at back
      exact back
    | locationPast found course after =>
      obtain ⟨other, id, option, course', -, picked⟩ := passes_selectLocation moves.passes
      obtain ⟨other', course'', -, -, several⟩ := walked_selectLocation stands.walked
      obtain rfl : found = other := Option.some.inj (course.symm.trans course')
      obtain rfl : found = other' := Option.some.inj (course.symm.trans course'')
      rw [CourseShape.multipleSites_of_pick picked] at several
      subst after
      have back := previous_afterLocation (looked course)
      rw [lastCourseStep, several] at back
      exact back
    | toReason required => rfl
    | withoutSke notRequired =>
      obtain ⟨found, asked⟩ := walked_skeRequirements stands.walked
      have back := previous_conditions_of_applies (looked asked.course) asked.applies
      rw [if_neg notRequired] at back
      exact back
    | toLength => rfl
    | toConditions =>
      obtain ⟨found, reason, asked, required, -⟩ := walked_skeLength stands.walked
      have back := previous_conditions_of_applies (looked asked.course) asked.applies
      rw [if_pos required] at back
      exact back
    | toCheck => rfl

end Admissions.Offer
