import Admissions.Proofs.Offer.Edits
import Admissions.Proofs.Offer.Way
import Admissions.Proofs.Wizard.Navigation

namespace Admissions.Offer

open Wizard (Kept Walked)

variable {answers now : Answers} {context : Context} {step : Step}

def Step.rank : Step → Nat
  | .selectProvider => 0
  | .selectCourse => 1
  | .selectStudyMode => 2
  | .selectLocation => 3
  | .skeRequirements => 4
  | .skeReason => 5
  | .skeLength => 6
  | .conditions => 7
  | .check => 8

theorem rank_afterLocation (found : CourseShape) (context : Context) :
    Step.rank .selectLocation < (afterLocation found context).rank := by
  rcases afterLocation_cases found context with ⟨-, lands⟩ | ⟨-, lands⟩ <;> rw [lands] <;> decide

theorem climbs (answers : Answers) (context : Context) :
    wizard.Climbs Step.rank answers context where
  bounded step := by cases step <;> decide
  up moves := by
    have leads := leads_of_next moves.leads
    cases leads with
    | past found _ _ _ after | modePast found _ _ after | locationPast found _ after =>
      have beyond := rank_afterLocation found context
      rw [after]
      exact Nat.lt_of_le_of_lt (by decide) beyond
    | provided | toMode | toLocation | modeToLocation | toReason | withoutSke | toLength |
      toConditions | toCheck => decide

theorem page_of_edits (edits : step.Edits answers now) {page : Step}
    (before : page.rank < step.rank) :
    page.validate now context = page.validate answers context ∧
      page.next now context = page.next answers context := by
  cases step with
  | selectProvider => exact absurd before (Nat.not_lt_zero _)
  | selectCourse =>
    rcases edits with rfl | ⟨courseId, rfl⟩
    · exact ⟨rfl, rfl⟩
    · cases page <;> first | exact ⟨rfl, rfl⟩ | exact absurd before (by decide)
  | selectStudyMode =>
    obtain ⟨studyMode, rfl⟩ := edits
    cases page <;> first | exact ⟨rfl, rfl⟩ | exact absurd before (by decide)
  | selectLocation =>
    obtain ⟨courseOptionId, rfl⟩ := edits
    cases page <;> first | exact ⟨rfl, rfl⟩ | exact absurd before (by decide)
  | skeRequirements =>
    obtain ⟨skeRequired, rfl⟩ := edits
    cases page <;> first | exact ⟨rfl, rfl⟩ | exact absurd before (by decide)
  | skeReason =>
    obtain ⟨skeReason, rfl⟩ := edits
    cases page <;> first | exact ⟨rfl, rfl⟩ | exact absurd before (by decide)
  | skeLength =>
    obtain ⟨skeLength, rfl⟩ := edits
    cases page <;> first | exact ⟨rfl, rfl⟩ | exact absurd before (by decide)
  | conditions =>
    obtain ⟨furtherConditions, rfl⟩ := edits
    cases page <;> first | exact ⟨rfl, rfl⟩ | exact absurd before (by decide)
  | check =>
    obtain rfl := edits
    exact ⟨rfl, rfl⟩

def Reached (context : Context) (step : Step) (answers : Answers) : Prop :=
  Walked wizard answers context step

theorem reached_kept (base : Context) : Kept wizard (· = base) (Reached base) where
  fresh _ _ := .first
  visited step answers context requested same _ walked := by
    obtain rfl := same
    exact walked
  advanced handle params answers target same reached submitted := by
    obtain ⟨edits, -⟩ := within_edits.of_submission submitted
    exact reached.transfer (climbs _ _) rfl fun page before => page_of_edits edits before

end Admissions.Offer
