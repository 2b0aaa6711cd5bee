import Admissions.Proofs.CourseSelection.Soundness
import Admissions.Proofs.Wizard.LastPage

namespace Admissions.CourseSelection

open Wizard (Finishes Session finishes_of_pick)

structure Works (catalog : Catalog) (context : Context) : Prop where
  fits : Fits catalog context
  available : context.catalog.Available

variable {catalog : Catalog} {answers : Answers} {context : Context} {found : CourseShape}

theorem materialize_of_pick {option : CourseOption} (available : context.catalog.Available)
    (course : answers.course context.catalog = some found)
    (picked : found.pick answers.studyMode answers.courseOptionId = some option) :
    materialize answers context =
      .ok ⟨context.applicationFormId, found.course.providerId, found.course.id, option.id,
        found.course.recruitmentCycleYear⟩ := by
  have looked := shape_of_course available course
  have chosen : chosenOption found answers = some option := picked
  simp only [materialize, looked, chosen, bind, Except.bind, pure, Except.pure]

theorem materialize_of_pick_none (available : context.catalog.Available)
    (course : answers.course context.catalog = some found)
    (unpicked : found.pick answers.studyMode answers.courseOptionId = none) :
    materialize answers context = .error (.violated (.noOption found.course.id)) := by
  have looked := shape_of_course available course
  have chosen : chosenOption found answers = none := unpicked
  simp only [materialize, looked, chosen, bind, Except.bind, throw, throwThe,
    MonadExceptOf.throw]

theorem finishes_after_review {session : Session wizard}
    (works : Works catalog session.handle.context)
    (sound : Sound catalog session.handle.step session.handle.answers)
    (working : session.store.fault .delete = none)
    (shows : (session.visit Step.courseReview).1 = .ok (.show Step.courseReview)) :
    Finishes catalog session.handle.answers.courseId session.handle.answers.studyMode
      session.handle.answers.courseOptionId Violation.noOption
      (session.visit Step.courseReview).2.save.1 := by
  obtain ⟨walked, moved⟩ := session.visit_of_show shows
  obtain ⟨found, looked, answered⟩ := walked_courseReview walked
  have course := (course_of_agrees works.fits).symm.trans looked
  have outcome : (session.visit Step.courseReview).2.save.1 =
      (materialize session.handle.answers session.handle.context).map .created := by
    rw [moved]
    exact (session.moved Step.courseReview).save_of_complete rfl rfl working
  exact finishes_of_pick outcome course answered
    (fun mode => sound.modeOffered found mode course)
    (fun id => sound.optionListed found id course)
    (fun option picked => ⟨_, materialize_of_pick works.available looked picked⟩)
    (materialize_of_pick_none works.available looked)

end Admissions.CourseSelection
