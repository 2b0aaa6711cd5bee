import Admissions.Proofs.CourseSelection.Back
import Admissions.Proofs.Flows
import Admissions.Proofs.Offer.Back
import Admissions.Proofs.Offer.Soundness
import Admissions.Proofs.Permissions.Way

namespace Admissions

open Wizard

theorem Rejections.retraces {answers : Rejections.Answers} {context : Rejections.Context} :
    Rejections.wizard.Retraces answers context where
  entrance := rfl
  declared := rfl
  back {count step following} stands moves := by
    have leads := Except.ok.inj moves.leads
    cases step with
    | new =>
      injection leads with leads
      subst leads
      rfl
    | check => contradiction

namespace Flow

def Forward : (flow : Flow) → Handle flow.wizard → Prop
  | courseSelection, handle => (CourseSelection.Context.catalog handle.context).Available
  | offer, handle => (Offer.Context.catalog handle.context).Available
  | rejections, _ => True
  | permissions, handle => Permissions.Answers.checkingAnswers handle.answers = false

theorem retraces (flow : Flow) {handle : Handle flow.wizard} (forward : flow.Forward handle) :
    flow.wizard.Retraces handle.answers handle.context := by
  cases flow with
  | courseSelection => exact CourseSelection.retraces forward
  | offer => exact Offer.retraces forward
  | rejections => exact Rejections.retraces
  | permissions => exact Permissions.retraces forward

end Flow

/-- Nothing comes before the first page; every other page that is shown comes from the one to which
    its back link leads. -/
theorem back_links_retrace_way (flow : Flow) (session : Session flow.wizard)
    (forward : flow.Forward session.handle) :
    let opened := session.visit (flow.wizard.first session.handle.context)
    (opened.1 = .ok (.show (flow.wizard.first session.handle.context)) ∧
      opened.2.handle.previous = .ok .exit) ∧
    ∀ requested, requested ≠ flow.wizard.first session.handle.context →
      (session.visit requested).1 = .ok (.show requested) →
      ∃ page, session.ComesFrom requested page := by
  have retraces := flow.retraces forward
  exact ⟨Session.exit_of_retraces retraces, fun requested later shows =>
    Session.comesFrom_of_retraces retraces shows later⟩

def annexeOffer : Session Offer.wizard :=
  ⟨.empty, ⟨⟨"k"⟩, Offer.skeCourse, Offer.Step.selectProvider,
    ⟨some 1, some 6, some .fullTime, some 61, some true, some .outdatedDegree, some 12, []⟩⟩⟩

theorem back_links_retrace_way_annexe :
    Flow.offer.Forward annexeOffer.handle ∧
    (annexeOffer.visit Offer.Step.conditions).1 = .ok (.show Offer.Step.conditions) ∧
    annexeOffer.ComesFrom Offer.Step.conditions Offer.Step.skeLength := by
  have forward : Flow.offer.Forward annexeOffer.handle := rfl
  have later : Offer.Step.conditions ≠ Offer.Step.selectProvider := by decide
  have shows : (annexeOffer.visit Offer.Step.conditions).1 =
      .ok (.show Offer.Step.conditions) := by decide +kernel
  have back : (annexeOffer.visit Offer.Step.conditions).2.handle.previous =
      .ok (.step Offer.Step.skeLength) := by decide +kernel
  obtain ⟨page, comes⟩ := (back_links_retrace_way .offer annexeOffer forward).2 _ later shows
  have same := back.symm.trans comes.back
  injection same with same
  injection same with same
  subst same
  exact ⟨forward, shows, comes⟩

end Admissions
