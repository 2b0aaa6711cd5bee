import Admissions.Proofs.CourseSelection.Way
import Admissions.Proofs.Wizard.Back

namespace Admissions.CourseSelection

variable {answers : Answers} {context : Context} {found : CourseShape}

theorem previous_courseSite (looked : shape answers context = .ok found) :
    Step.previous .courseSite answers context =
      .ok (.step (if found.multipleStudyModes then .courseStudyMode else .whichCourse)) := by
  simp only [Step.previous, looked, bind, Except.bind]
  cases found.multipleStudyModes <;> rfl

theorem previous_courseReview (looked : shape answers context = .ok found) :
    Step.previous .courseReview answers context =
      .ok (.step (if found.multipleSites answers.studyMode then .courseSite
        else if found.multipleStudyModes then .courseStudyMode else .whichCourse)) := by
  simp only [Step.previous, looked, bind, Except.bind]
  cases found.multipleSites answers.studyMode <;> cases found.multipleStudyModes <;> rfl

theorem retraces (available : context.catalog.Available) : wizard.Retraces answers context where
  entrance := rfl
  declared := rfl
  back stands moves := by
    have looked {found : CourseShape} (course : answers.course context.catalog = some found) :=
      shape_of_course available course
    cases leads_of_next moves.leads with
    | known yes => rfl
    | unknown no => rfl
    | provided => rfl
    | toMode found course both => rfl
    | toSite found course single several =>
      have back := previous_courseSite (looked course)
      rw [single] at back
      exact back
    | toReview found course single one =>
      -- The way asked about the sites of all modes; the link asks about those of the stored one.
      have back := previous_courseReview (looked course)
      rw [CourseShape.multipleSites_of_one one, single] at back
      exact back
    | modeToSite found course several =>
      obtain ⟨other, course', -, both⟩ := walked_courseStudyMode stands.walked
      obtain rfl : found = other := Option.some.inj (course.symm.trans course')
      have back := previous_courseSite (looked course)
      rw [both] at back
      exact back
    | modeToReview found course one =>
      obtain ⟨other, course', -, both⟩ := walked_courseStudyMode stands.walked
      obtain rfl : found = other := Option.some.inj (course.symm.trans course')
      have back := previous_courseReview (looked course)
      rw [one, both] at back
      exact back
    | siteToReview =>
      obtain ⟨found, id, option, course, -, chosen⟩ := passes_courseSite moves.passes
      obtain ⟨other, course', -, -, several⟩ := walked_courseSite stands.walked
      obtain rfl : found = other := Option.some.inj (course.symm.trans course')
      rw [CourseShape.multipleSites_of_pick chosen] at several
      have back := previous_courseReview (looked course)
      rw [several] at back
      exact back

end Admissions.CourseSelection
