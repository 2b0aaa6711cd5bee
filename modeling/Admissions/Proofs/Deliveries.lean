import Admissions.Proofs.Flows
import Admissions.Proofs.CourseSelection.Soundness
import Admissions.Proofs.Offer.Soundness
import Admissions.Proofs.Permissions.Soundness
import Admissions.Proofs.Wizard.Delivery

namespace Admissions

open Wizard

namespace Catalog

variable {κ α : Type} (catalog : Catalog)

theorem storeless_look (missing : κ) (notOffered : UInt64 → UInt64 → κ)
    (provider course : Option UInt64) :
    Storeless (catalog.look missing notOffered provider course) := by
  unfold look
  split
  · refine (storeless_ofLookup _).bind fun found => ?_
    cases found with
    | none => exact storeless_violated _
    | some shape => exact storeless_ok shape
  · exact storeless_violated missing

theorem storeless_checkCourse (unlisted full : ValidationErrors)
    (unnamed : Option UInt64 → Option UInt64 → ValidationErrors)
    (provider course : Option UInt64) :
    Storeless (catalog.checkCourse (κ := κ) unlisted full unnamed provider course) := by
  unfold checkCourse
  split
  · refine (storeless_ofLookup _).bind fun found => ?_
    cases found with
    | none => exact storeless_ok unlisted
    | some shape =>
      dsimp only
      split
      · exact storeless_ok full
      · exact storeless_ok ValidationErrors.empty
  · exact storeless_ok _

theorem storeless_checkAnswer {looked : Except (Failure κ) CourseShape} (field : String)
    (unanswered unlisted : String) (fails : CourseShape → α → Bool) (answer : Option α)
    (looks : Storeless looked) :
    Storeless (checkAnswer looked field unanswered unlisted fails answer) := by
  cases answer with
  | none => exact storeless_ok _
  | some given => exact looks.bind fun shape => storeless_ok _

end Catalog

namespace CourseSelection

variable (answers : Answers) (context : Context)

theorem storeless_shape : Storeless (shape answers context) :=
  context.catalog.storeless_look _ _ answers.providerId answers.courseId

theorem storeless_validate (step : Step) :
    Storeless (wizard.validate step answers context) := by
  cases step with
  | doYouKnowTheCourse | goToFindExplanation | courseReview => exact storeless_ok _
  | providerSelection =>
    change Storeless (Step.validateProvider answers context)
    unfold Step.validateProvider
    split
    · exact storeless_ok _
    · refine (storeless_ofLookup _).bind fun found => ?_
      cases found <;> exact storeless_ok _
  | whichCourse =>
    rw [validate_whichCourse]
    exact context.catalog.storeless_checkCourse _ _ _ _ _
  | courseStudyMode =>
    rw [validate_courseStudyMode]
    exact Catalog.storeless_checkAnswer _ _ _ _ _ (storeless_shape answers context)
  | courseSite =>
    rw [validate_courseSite]
    exact Catalog.storeless_checkAnswer _ _ _ _ _ (storeless_shape answers context)

theorem storeless_completed (step : Step) : Storeless (step.completed answers context) := by
  have looks := storeless_shape answers context
  unfold Step.completed
  cases step with
  | whichCourse => exact looks.bind fun found => storeless_ok _
  | courseStudyMode | courseSite =>
    dsimp only
    split
    · exact storeless_ok false
    · exact looks.bind fun found => storeless_ok _
  | doYouKnowTheCourse | goToFindExplanation | providerSelection | courseReview =>
    exact storeless_ok _

theorem wizard_delivers : wizard.Delivers where
  steady _ _ := rfl
  asks _ := ⟨_, rfl, rfl⟩
  validates step answers context := storeless_validate answers context step
  completes step answers context := storeless_completed answers context step
  makes answers context := by
    refine (storeless_shape answers context).bind fun found => ?_
    split
    · exact storeless_violated _
    · exact storeless_ok _

end CourseSelection

namespace Offer

variable (answers : Answers) (context : Context)

theorem storeless_shape : Storeless (shape answers context) :=
  context.catalog.storeless_look _ _ answers.providerId answers.courseId

theorem storeless_validate (step : Step) :
    Storeless (wizard.validate step answers context) := by
  cases step with
  | skeRequirements | skeReason | skeLength | conditions | check => exact storeless_ok _
  | selectProvider =>
    change Storeless (Step.validateProvider answers context)
    unfold Step.validateProvider
    split
    · exact storeless_ok _
    · dsimp only
      split
      · exact storeless_ok _
      · refine (storeless_ofLookup _).bind fun found => ?_
        cases found <;> exact storeless_ok _
  | selectCourse =>
    rw [validate_selectCourse]
    exact context.catalog.storeless_checkCourse _ _ _ _ _
  | selectStudyMode =>
    rw [validate_selectStudyMode]
    exact Catalog.storeless_checkAnswer _ _ _ _ _ (storeless_shape answers context)
  | selectLocation =>
    rw [validate_selectLocation]
    exact Catalog.storeless_checkAnswer _ _ _ _ _ (storeless_shape answers context)

theorem storeless_skeCondition (found : CourseShape) :
    Storeless (skeCondition found answers context) := by
  unfold skeCondition
  split
  · split
    · exact storeless_ok _
    · exact storeless_violated Violation.skeIncomplete
  · exact storeless_ok none

theorem wizard_delivers : wizard.Delivers where
  steady _ _ := rfl
  asks _ := ⟨_, rfl, rfl⟩
  validates step answers context := storeless_validate answers context step
  completes _ _ _ := storeless_ok _
  makes answers context := by
    refine (storeless_shape answers context).bind fun found => ?_
    split
    · exact storeless_violated _
    · exact (storeless_skeCondition answers context found).bind fun condition => storeless_ok _

end Offer

theorem Rejections.wizard_delivers : Rejections.wizard.Delivers where
  steady _ _ := rfl
  asks _ := ⟨_, rfl, rfl⟩
  validates _ _ _ := storeless_ok _
  completes _ _ _ := storeless_ok _
  makes answers context := by
    change Storeless (Rejections.materialize answers context)
    unfold Rejections.materialize
    dsimp only
    split
    · exact storeless_violated _
    · exact storeless_ok _

theorem Permissions.wizard_delivers : Permissions.wizard.Delivers where
  steady _ _ := rfl
  asks _ := ⟨_, rfl, rfl⟩
  validates _ _ _ := storeless_ok _
  completes _ _ _ := storeless_ok _
  makes answers context := by
    refine storeless_mapM (fun id => ?_) answers.relationships
    split
    · exact storeless_violated _
    · split
      · exact storeless_violated _
      · exact storeless_ok _

theorem Flow.wizard_delivers (flow : Flow) : flow.wizard.Delivers := by
  cases flow with
  | courseSelection => exact CourseSelection.wizard_delivers
  | offer => exact Offer.wizard_delivers
  | rejections => exact Rejections.wizard_delivers
  | permissions => exact Permissions.wizard_delivers

/-- Once a save has created an output, every later one is skipped until an advance leads on. A save
    that fails for the store leaves handle and entries as they are, and what it would have created
    is created once deletes work again. -/
theorem output_delivered_once (flow : Flow) (session : Session flow.wizard) :
    (∀ output, session.save.1 = .ok (.created output) →
      ∀ events, session.save.2.Each (fun now event => ¬now.LeadsOn event) events →
        (session.save.2.run events).save.1 = .ok .skipped) ∧
    (∀ error, session.save.1 = .error (.store error) →
      session.save.2 = session ∧
      ∃ output, (session.failing [] false).save.1 = .ok (.created output) ∧
        ∀ events, session.Each Session.Retries events →
          session.Awaits (session.run events) ∧
          ((session.run events).store.fault .delete = none →
            (session.run events).save.1 = .ok (.created output))) := by
  have delivers := flow.wizard_delivers
  constructor
  · intro output saved events idle
    have keeps : ∀ (now : Session flow.wizard) event, now.Blank → ¬now.LeadsOn event →
        (now.after event).Blank := fun _ _ blank stays => blank.after delivers stays
    have blank := Session.run_keeps keeps (Session.blank_of_created saved) idle
    rw [blank.save_eq_skipped delivers]
  · intro error failed
    obtain ⟨output, finishes⟩ := Session.finished_of_save_store_error delivers failed
    refine ⟨Session.save_eq_of_error failed, output, Session.created_of_finished _ finishes rfl, ?_⟩
    intro events retries
    have keeps : ∀ (now : Session flow.wizard) event, session.Awaits now → now.Retries event →
        session.Awaits (now.after event) := fun _ _ awaits retries => awaits.after retries
    have awaits := Session.run_keeps keeps ⟨rfl, rfl⟩ retries
    refine ⟨awaits, fun working => Session.created_of_finished _ ?_ working⟩
    rw [awaits.handle]
    exact finishes

section

open Json (Value)
open Permissions (Step Setup)

def everyTick : Json.Object :=
  ["make_decisions", "view_diversity_information", "view_safeguarding_information"].map
    (·, .array [.string "training_provider"])

def checkedSetup : Session Permissions.wizard :=
  Session.run ⟨.empty, .fresh ⟨"k"⟩ Permissions.partners⟩
    [.advance [("provider_relationships", .array [.nat 7])], .visit (Step.permissions 7),
      .advance everyTick, .visit Step.check]

def stuckSetup : Session Permissions.wizard := checkedSetup.failing [.delete] false

def agreedSetups : List Setup :=
  [⟨7, [(.makeDecisions, [.trainingProvider]),
    (.viewSafeguardingInformation, [.trainingProvider]),
    (.viewDiversityInformation, [.trainingProvider])]⟩]

def afterwards : List (Event Permissions.wizard) :=
  [.visit Step.check, .outage [.write] false,
    .advance [("provider_relationships", .array [.nat 7])], .save, .visit Step.check]

def untilDeleted : List (Event Permissions.wizard) :=
  [.save, .outage [] true, .save, .outage [.read] false]

theorem output_delivered_once_setup :
    (checkedSetup.save.1 = .ok (.created agreedSetups) ∧
      checkedSetup.save.2.Each (fun now event => ¬now.LeadsOn event) afterwards ∧
      (checkedSetup.save.2.run afterwards).save.1 = .ok .skipped) ∧
    (stuckSetup.save.1 = .error (.store (.unavailable "connection refused")) ∧
      stuckSetup.Each Session.Retries untilDeleted ∧
      (stuckSetup.run untilDeleted).store.fault .delete = none ∧
      (stuckSetup.run untilDeleted).save.1 = .ok (.created agreedSetups)) := by
  have saved : checkedSetup.save.1 = .ok (.created agreedSetups) := by decide +kernel
  have idle : checkedSetup.save.2.Each (fun now event => ¬now.LeadsOn event) afterwards := by
    have refused : ((checkedSetup.save.2.run [.visit Step.check, .outage [.write] false]).advance
        [("provider_relationships", .array [.nat 7])]).1 =
          .error (.store (.unavailable "connection refused")) := by decide +kernel
    refine ⟨id, id, ?_, id, id, trivial⟩
    rintro ⟨target, leads⟩
    exact absurd (refused.symm.trans leads) (by simp)
  have failed : stuckSetup.save.1 = .error (.store (.unavailable "connection refused")) := by
    decide +kernel
  have again : (stuckSetup.run [.save, .outage [] true]).save.1 =
      .error (.store (.unavailable "wizard store mutex poisoned")) := by decide +kernel
  have retries : stuckSetup.Each Session.Retries untilDeleted :=
    ⟨⟨_, failed⟩, trivial, ⟨_, again⟩, trivial, trivial⟩
  have working : (stuckSetup.run untilDeleted).store.fault .delete = none := by decide +kernel
  obtain ⟨-, output, would, later⟩ := (output_delivered_once .permissions stuckSetup).2 _ failed
  have meant : (stuckSetup.failing [] false).save.1 = .ok (.created agreedSetups) := by
    decide +kernel
  obtain rfl : output = agreedSetups :=
    Saved.created.inj (Except.ok.inj (would.symm.trans meant))
  exact ⟨⟨saved, idle, (output_delivered_once .permissions checkedSetup).1 _ saved afterwards idle⟩,
    failed, retries, working, (later untilDeleted retries).2 working⟩

end

end Admissions
