import Admissions.Proofs.CourseSelection.Soundness
import Admissions.Proofs.Offer.Soundness

namespace Admissions

open Json (Value)
open Wizard

/-- On whichever page and with whatever answers: another provider or course leaves nothing answered
    that depends on it, and otherwise only the page that asks for an answer changes it. -/
theorem changed_course_resets_answers :
    (∀ (session : Session CourseSelection.wizard) (params : SortedMap String Value)
      (target : Target CourseSelection.Step) (after : Session CourseSelection.wizard),
      session.advance params.entries = (.ok (.next target), after) →
      CourseSelection.Step.Resets session.handle.step params session.handle.answers
        after.handle.answers) ∧
    (∀ (session : Session Offer.wizard) (params : SortedMap String Value)
      (target : Target Offer.Step) (after : Session Offer.wizard),
      session.advance params.entries = (.ok (.next target), after) →
      Offer.Step.Resets session.handle.step session.handle.answers after.handle.answers) := by
  constructor
  · intro session params target after advanced
    obtain ⟨now, accepted, rfl⟩ := session.advance_of_next advanced
    exact CourseSelection.resets_of_submission accepted
  · intro session params target after advanced
    obtain ⟨now, accepted, rfl⟩ := session.advance_of_next advanced
    exact Offer.resets_of_submission accepted

def heldPlace : Session CourseSelection.wizard :=
  ⟨.empty, ⟨⟨"k"⟩, ⟨CourseSelection.twoModes, 77⟩, CourseSelection.Step.whichCourse,
    ⟨some .yes, some 2, some 9, some .partTime, some 94⟩⟩⟩

def heldOffer : Session Offer.wizard :=
  ⟨.empty, ⟨⟨"k"⟩, Offer.skeCourse, Offer.Step.selectProvider,
    ⟨some 2, some 9, some .partTime, some 94, some true, some .outdatedDegree, some 8, ["DBS"]⟩⟩⟩

def otherCourse : SortedMap String Value :=
  .ofList [("course_id", .nat 6), ("provider_id", .nat 1), ("study_mode", .string "full_time")]

theorem changed_course_resets_answers_held :
    (heldPlace.advance otherCourse.entries).1 =
        .ok (.next (.step CourseSelection.Step.courseStudyMode)) ∧
      CourseSelection.Step.Resets .whichCourse otherCourse
        ⟨some .yes, some 2, some 9, some .partTime, some 94⟩ ⟨some .yes, some 1, some 6, none, none⟩ ∧
    (heldOffer.advance otherCourse.entries).1 = .ok (.next (.step Offer.Step.selectCourse)) ∧
      Offer.Step.Resets .selectProvider
        ⟨some 2, some 9, some .partTime, some 94, some true, some .outdatedDegree, some 8, ["DBS"]⟩
        ⟨some 1, none, none, none, none, none, none, ["DBS"]⟩ := by
  have place : heldPlace.advance otherCourse.entries =
      (.ok (.next (.step CourseSelection.Step.courseStudyMode)),
        heldPlace.persisted ⟨some .yes, some 1, some 6, none, none⟩) := rfl
  have offer : heldOffer.advance otherCourse.entries =
      (.ok (.next (.step Offer.Step.selectCourse)),
        heldOffer.persisted ⟨some 1, none, none, none, none, none, none, ["DBS"]⟩) := rfl
  obtain ⟨places, offers⟩ := changed_course_resets_answers
  exact ⟨congrArg Prod.fst place, places _ _ _ _ place, congrArg Prod.fst offer,
    offers _ _ _ _ offer⟩

end Admissions
