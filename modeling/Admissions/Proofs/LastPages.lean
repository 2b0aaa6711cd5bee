import Admissions.Proofs.CourseSelection.LastPage
import Admissions.Proofs.Offer.LastPage

namespace Admissions

open Wizard

/-- With look-ups and a store that work, the save succeeds exactly when no option is left over. -/
theorem save_after_last_page (catalog : Catalog) (base : Offer.Context) :
    (∀ moves : List (Move CourseSelection.wizard),
      (∀ move ∈ moves, move.Admits (CourseSelection.Works catalog)) →
      ∀ handle ∈ (Desk.run moves).handles, (Desk.run moves).store.fault .delete = none →
      let reviewed := Session.visit ⟨(Desk.run moves).store, handle⟩
        CourseSelection.Step.courseReview
      reviewed.1 = .ok (.show CourseSelection.Step.courseReview) →
      Finishes catalog handle.answers.courseId handle.answers.studyMode
        handle.answers.courseOptionId CourseSelection.Violation.noOption reviewed.2.save.1) ∧
    (∀ moves : List (Move Offer.wizard),
      (∀ move ∈ moves, move.Admits (Offer.Works base)) →
      ∀ handle ∈ (Desk.run moves).handles, (Desk.run moves).store.fault .delete = none →
      let checked := Session.visit ⟨(Desk.run moves).store, handle⟩ Offer.Step.check
      checked.1 = .ok (.show Offer.Step.check) →
      Finishes base.catalog handle.answers.courseId handle.answers.studyMode
        handle.answers.courseOptionId Offer.Violation.noOption checked.2.save.1) := by
  constructor
  · intro moves fits handle member working reviewed shows
    have kept := (CourseSelection.sound_kept catalog).restrict
      fun _ (works : CourseSelection.Works catalog _) => works.fits
    obtain ⟨works, sound⟩ := held_of_run kept CourseSelection.wizard_faithful fits member
    exact CourseSelection.finishes_after_review works sound working shows
  · intro moves fits handle member working checked shows
    have kept := (Offer.sound_kept base).restrict
      fun _ (works : Offer.Works base _) => works.fits
    obtain ⟨works, sound⟩ := held_of_run kept Offer.wizard_faithful fits member
    exact Offer.finishes_after_check works sound working shows

def changedSelection : List (Move CourseSelection.wizard) :=
  let context : CourseSelection.Context := ⟨CourseSelection.twoModes, 77⟩
  [.openAnother ⟨"k"⟩ context .start, .act 0 (.advance [("answer", .string "yes")]),
    .act 0 (.visit CourseSelection.Step.providerSelection),
    .act 0 (.advance [("provider_id", .nat 1)]),
    .act 0 (.visit CourseSelection.Step.whichCourse), .act 0 (.advance [("course_id", .nat 6)]),
    .act 0 (.visit CourseSelection.Step.courseStudyMode),
    .act 0 (.advance [("study_mode", .string "full_time")]),
    .act 0 (.visit CourseSelection.Step.courseSite),
    .act 0 (.advance [("course_option_id", .nat 61)]),
    .act 0 (.visit CourseSelection.Step.courseStudyMode),
    .act 0 (.advance [("study_mode", .string "part_time")])]

theorem changedSelection_admitted : ∀ move ∈ changedSelection,
    move.Admits (CourseSelection.Works CourseSelection.twoModes) := by
  have works : CourseSelection.Works CourseSelection.twoModes ⟨CourseSelection.twoModes, 77⟩ :=
    ⟨⟨rfl, rfl, rfl⟩, rfl⟩
  simp [changedSelection, Move.Admits, Event.Admits, works]

def changedOffer : List (Move Offer.wizard) :=
  Offer.interleaved ++ [.act 0 (.visit Offer.Step.selectStudyMode),
    .act 0 (.advance [("study_mode", .string "part_time")])]

theorem changedOffer_admitted : ∀ move ∈ changedOffer,
    move.Admits (Offer.Works Offer.skeCourse) := by
  have works : Offer.Works Offer.skeCourse Offer.skeCourse := ⟨⟨⟨rfl, rfl, rfl⟩, rfl, rfl⟩, rfl⟩
  simp [changedOffer, Offer.interleaved, Move.Admits, Event.Admits, works]

theorem save_after_last_page_changed :
    ((∀ move ∈ changedSelection, move.Admits (CourseSelection.Works CourseSelection.twoModes)) ∧
      ∃ handle ∈ (Desk.run changedSelection).handles,
        (Desk.run changedSelection).store.fault .delete = none ∧
        let reviewed := Session.visit ⟨(Desk.run changedSelection).store, handle⟩
          CourseSelection.Step.courseReview
        reviewed.1 = .ok (.show CourseSelection.Step.courseReview) ∧
        Finishes CourseSelection.twoModes handle.answers.courseId handle.answers.studyMode
          handle.answers.courseOptionId CourseSelection.Violation.noOption
          reviewed.2.save.1) ∧
    ((∀ move ∈ changedOffer, move.Admits (Offer.Works Offer.skeCourse)) ∧
      ∃ handle ∈ (Desk.run changedOffer).handles,
        (Desk.run changedOffer).store.fault .delete = none ∧
        let checked := Session.visit ⟨(Desk.run changedOffer).store, handle⟩ Offer.Step.check
        checked.1 = .ok (.show Offer.Step.check) ∧
        Finishes Offer.skeCourse.catalog handle.answers.courseId handle.answers.studyMode
          handle.answers.courseOptionId Offer.Violation.noOption checked.2.save.1) := by
  constructor
  · have shows : ∃ handle ∈ (Desk.run changedSelection).handles,
        (Desk.run changedSelection).store.fault .delete = none ∧
        (Session.visit ⟨(Desk.run changedSelection).store, handle⟩
          CourseSelection.Step.courseReview).1 =
            .ok (.show CourseSelection.Step.courseReview) := by decide +kernel
    obtain ⟨handle, member, working, shown⟩ := shows
    exact ⟨changedSelection_admitted, handle, member, working, shown,
      (save_after_last_page CourseSelection.twoModes Offer.skeCourse).1 changedSelection
        changedSelection_admitted handle member working shown⟩
  · have shows : ∃ handle ∈ (Desk.run changedOffer).handles,
        (Desk.run changedOffer).store.fault .delete = none ∧
        (Session.visit ⟨(Desk.run changedOffer).store, handle⟩ Offer.Step.check).1 =
          .ok (.show Offer.Step.check) := by decide +kernel
    obtain ⟨handle, member, working, shown⟩ := shows
    exact ⟨changedOffer_admitted, handle, member, working, shown,
      (save_after_last_page CourseSelection.twoModes Offer.skeCourse).2 changedOffer
        changedOffer_admitted handle member working shown⟩

/-- The last page is shown, and yet the save is refused. -/
theorem save_refused_after_change :
    ((∀ move ∈ changedSelection, move.Admits (CourseSelection.Works CourseSelection.twoModes)) ∧
      ∃ handle ∈ (Desk.run changedSelection).handles,
        (Desk.run changedSelection).store.fault .delete = none ∧
        let reviewed := Session.visit ⟨(Desk.run changedSelection).store, handle⟩
          CourseSelection.Step.courseReview
        reviewed.1 = .ok (.show CourseSelection.Step.courseReview) ∧
        reviewed.2.save.1 = .error (.violated (CourseSelection.Violation.noOption 6))) ∧
    ((∀ move ∈ changedOffer, move.Admits (Offer.Works Offer.skeCourse)) ∧
      ∃ handle ∈ (Desk.run changedOffer).handles,
        (Desk.run changedOffer).store.fault .delete = none ∧
        let checked := Session.visit ⟨(Desk.run changedOffer).store, handle⟩ Offer.Step.check
        checked.1 = .ok (.show Offer.Step.check) ∧
        checked.2.save.1 = .error (.violated (Offer.Violation.noOption 6))) :=
  ⟨⟨changedSelection_admitted, by decide +kernel⟩, ⟨changedOffer_admitted, by decide +kernel⟩⟩

end Admissions
