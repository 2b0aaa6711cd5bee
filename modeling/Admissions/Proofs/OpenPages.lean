import Admissions.Proofs.CourseSelection.Navigation
import Admissions.Proofs.LastPages
import Admissions.Proofs.Offer.Navigation

namespace Admissions

open Wizard

/-- The pages of an offer stay open wherever nothing that they consult changes; those of a course
    selection, where also the provider of each course is listed. -/
theorem pages_sent_to_open (base : Offer.Context) (catalog : Catalog) :
    (∀ moves : List (Move Offer.wizard), (∀ move ∈ moves, move.Admits (· = base)) →
      (Desk.run moves).Navigable (· = base)) ∧
    (catalog.ListsProviders → ∀ moves : List (Move CourseSelection.wizard),
      (∀ move ∈ moves, move.Admits (CourseSelection.Consults catalog)) →
      (Desk.run moves).Navigable (CourseSelection.Consults catalog)) := by
  constructor
  · intro moves fits
    refine navigable_of_kept Offer.wizard_faithful (Offer.reached_kept base) ?_ Offer.climbs
      (fun _ _ _ => rfl) fits
    intro step answers context same reached
    obtain rfl := same
    exact reached
  · intro lists moves fits
    refine navigable_of_kept CourseSelection.wizard_faithful (CourseSelection.reached_kept lists) ?_
      CourseSelection.climbs (fun _ _ _ => rfl) fits
    intro step answers context same reached
    exact reached context same

theorem pages_sent_to_open_changed :
    ((∀ move ∈ changedOffer, move.Admits (· = Offer.skeCourse)) ∧
      (Desk.run changedOffer).Navigable (· = Offer.skeCourse) ∧
      ∃ handle ∈ (Desk.run changedOffer).handles,
        (Session.advance ⟨(Desk.run changedOffer).store, handle⟩
          [("study_mode", .string "full_time")]).1 =
            .ok (.next (.step Offer.Step.selectLocation))) ∧
    CourseSelection.twoModes.ListsProviders ∧
    ((∀ move ∈ changedSelection, move.Admits (CourseSelection.Consults CourseSelection.twoModes)) ∧
      (Desk.run changedSelection).Navigable (CourseSelection.Consults CourseSelection.twoModes) ∧
      ∃ handle ∈ (Desk.run changedSelection).handles,
        (Session.advance ⟨(Desk.run changedSelection).store, handle⟩
          [("study_mode", .string "full_time")]).1 =
            .ok (.next (.step CourseSelection.Step.courseSite))) := by
  have lists : CourseSelection.twoModes.ListsProviders := by
    simp [Catalog.ListsProviders, CourseSelection.twoModes]
  have offered : ∀ move ∈ changedOffer, move.Admits (· = Offer.skeCourse) := by
    simp [changedOffer, Offer.interleaved, Move.Admits, Event.Admits]
    rfl
  have selected : ∀ move ∈ changedSelection,
      move.Admits (CourseSelection.Consults CourseSelection.twoModes) := by
    simp [changedSelection, Move.Admits, Event.Admits, CourseSelection.Consults]
  obtain ⟨offers, selections⟩ := pages_sent_to_open Offer.skeCourse CourseSelection.twoModes
  refine ⟨⟨offered, offers changedOffer offered, ?_⟩, lists,
    selected, selections lists changedSelection selected, ?_⟩
  · decide +kernel
  · decide +kernel

end Admissions
