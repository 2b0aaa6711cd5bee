import Admissions.Proofs.CourseSelection.Belonging
import Admissions.Proofs.LastPages
import Admissions.Proofs.Offer.Belonging

namespace Admissions

open Wizard

theorem stored_answers_belong (catalog : Catalog) (base : Offer.Context) :
    (∀ moves : List (Move CourseSelection.wizard),
      (∀ move ∈ moves, move.Admits (CourseSelection.Fits catalog)) →
      (Desk.run moves).Throughout (CourseSelection.Belonging catalog)) ∧
    (∀ moves : List (Move Offer.wizard),
      (∀ move ∈ moves, move.Admits (Offer.Fits base)) →
      (Desk.run moves).Throughout (Offer.Belonging base)) := by
  constructor
  · intro moves fits
    have kept := (CourseSelection.sound_kept catalog).and (CourseSelection.placed_kept catalog)
    exact throughout_of_run kept CourseSelection.wizard_faithful
      (fun _ _ both => CourseSelection.belonging_of_placed both.1 both.2) fits
  · intro moves fits
    have kept := (Offer.sound_kept base).and (Offer.placed_kept base)
    exact throughout_of_run kept Offer.wizard_faithful
      (fun _ _ both => Offer.belonging_of_placed both.1 both.2) fits

theorem stored_answers_belong_changed :
    ((∀ move ∈ changedSelection,
        move.Admits (CourseSelection.Fits CourseSelection.twoModes)) ∧
      ((Desk.run changedSelection).store.raw ⟨"k"⟩).isSome = true ∧
      (Desk.run changedSelection).Throughout
        (CourseSelection.Belonging CourseSelection.twoModes)) ∧
    ((∀ move ∈ changedOffer, move.Admits (Offer.Fits Offer.skeCourse)) ∧
      ((Desk.run changedOffer).store.raw ⟨"k"⟩).isSome = true ∧
      (Desk.run changedOffer).Throughout (Offer.Belonging Offer.skeCourse)) := by
  have selecting : ∀ move ∈ changedSelection,
      move.Admits (CourseSelection.Fits CourseSelection.twoModes) := by
    have agrees : CourseSelection.Fits CourseSelection.twoModes
        ⟨CourseSelection.twoModes, 77⟩ := ⟨rfl, rfl, rfl⟩
    simp [changedSelection, Move.Admits, Event.Admits, agrees]
  have offering : ∀ move ∈ changedOffer, move.Admits (Offer.Fits Offer.skeCourse) := by
    have itself : Offer.Fits Offer.skeCourse Offer.skeCourse := ⟨⟨rfl, rfl, rfl⟩, rfl, rfl⟩
    simp [changedOffer, Offer.interleaved, Move.Admits, Event.Admits, itself]
  have belong := stored_answers_belong CourseSelection.twoModes Offer.skeCourse
  exact ⟨⟨selecting, by decide +kernel, belong.1 changedSelection selecting⟩,
    ⟨offering, by decide +kernel, belong.2 changedOffer offering⟩⟩

end Admissions
