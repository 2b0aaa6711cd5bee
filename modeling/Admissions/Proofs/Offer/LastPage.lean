import Admissions.Proofs.Offer.Soundness
import Admissions.Proofs.Wizard.LastPage

namespace Admissions.Offer

open Wizard (Finishes Session finishes_of_pick)

structure Works (base context : Context) : Prop where
  fits : Fits base context
  available : context.catalog.Available

variable {base context : Context} {answers : Answers} {found : CourseShape}

theorem Settled.skeCondition (settled : Settled answers context found) :
    ∃ condition, skeCondition found answers context = .ok condition := by
  unfold Offer.skeCondition
  split
  · rename_i asked
    obtain ⟨applies, required⟩ : context.skeApplies found.course = true ∧
        answers.skeRequired = some true := by
      simpa using asked
    obtain ⟨reason, weeks, reasoned, timed, -⟩ := settled.ske applies required
    rw [reasoned, timed]
    exact ⟨_, rfl⟩
  · exact ⟨_, rfl⟩

theorem materialize_of_pick {option : CourseOption} (available : context.catalog.Available)
    (settled : Settled answers context found)
    (picked : found.pick answers.studyMode answers.courseOptionId = some option) :
    ∃ draft, materialize answers context = .ok draft := by
  have looked := shape_of_course available settled.course
  obtain ⟨condition, conditioned⟩ := settled.skeCondition
  simp only [materialize, looked, picked, conditioned, bind, Except.bind, pure, Except.pure]
  exact ⟨_, rfl⟩

theorem materialize_of_pick_none (available : context.catalog.Available)
    (course : answers.course context.catalog = some found)
    (unpicked : found.pick answers.studyMode answers.courseOptionId = none) :
    materialize answers context = .error (.violated (.noOption found.course.id)) := by
  have looked := shape_of_course available course
  simp only [materialize, looked, unpicked, bind, Except.bind, throw, throwThe,
    MonadExceptOf.throw]

theorem finishes_after_check {session : Session wizard}
    (works : Works base session.handle.context)
    (sound : Sound base session.handle.step session.handle.answers)
    (working : session.store.fault .delete = none)
    (shows : (session.visit Step.check).1 = .ok (.show Step.check)) :
    Finishes base.catalog session.handle.answers.courseId session.handle.answers.studyMode
      session.handle.answers.courseOptionId Violation.noOption
      (session.visit Step.check).2.save.1 := by
  obtain ⟨walked, moved⟩ := session.visit_of_show shows
  obtain ⟨found, settled⟩ := (walked_check walked).settled
  have course := (works.fits.course _).symm.trans settled.course
  have outcome : (session.visit Step.check).2.save.1 =
      (materialize session.handle.answers session.handle.context).map .created := by
    rw [moved]
    exact (session.moved Step.check).save_of_complete rfl rfl working
  exact finishes_of_pick outcome course settled.answered
    (fun mode => sound.modeOffered found mode course)
    (fun id => sound.optionListed found id course)
    (fun option => materialize_of_pick works.available settled)
    (materialize_of_pick_none works.available settled.course)

end Admissions.Offer
