import Admissions.Proofs.CourseSelection.Guided
import Admissions.Proofs.Offer.Guided

namespace Admissions

open Json (Object)
open Wizard

variable {catalog : Catalog} {providerId courseId : UInt64} {course : Course}
variable {option : CourseOption}

/-- A user who answers each page with what leads to an available option comes to the last page, and
    what is saved there has the mode and the site of the option. It is the option itself where the
    site was asked for. -/
theorem available_options_can_be_chosen {store : Store} (working : store.Working) (key : StoreKey)
    (choosable : catalog.Choosable providerId courseId course option) :
    (∀ (applicationFormId : UInt64) (respond : CourseSelection.Step → Object),
      CourseSelection.wizard.Replies (CourseSelection.wanted providerId courseId option) respond →
      ∃ (earlier : List CourseSelection.wizard.Step) (picked : CourseOption),
        CourseSelection.wizard.Completes respond store key
          (⟨catalog, applicationFormId⟩ : CourseSelection.Context) (earlier ++ [.courseReview])
          (⟨applicationFormId, providerId, courseId, picked.id, course.recruitmentCycleYear⟩ :
            NewApplicationChoice) ∧
        catalog.Alike courseId option picked ∧
        (CourseSelection.Step.courseSite ∈ earlier → picked = option)) ∧
    (∀ (context : Offer.Context) (ske : Option Offer.SkeCondition) (conditions : List String)
      (respond : Offer.Step → Object), context.catalog = catalog →
      providerId ∈ context.providerIds → Offer.Grantable ske conditions →
      Offer.wizard.Replies (Offer.wanted providerId courseId option ske conditions) respond →
      ∃ (earlier : List Offer.wizard.Step) (picked : CourseOption),
        Offer.wizard.Completes respond store key context (earlier ++ [.check])
          (⟨context.applicationChoiceId, providerId, courseId, picked.id,
            if context.skeApplies course then ske else none, conditions.map Text.trim⟩ :
            Offer.Draft) ∧
        catalog.Alike courseId option picked ∧
        (Offer.Step.selectLocation ∈ earlier → picked = option)) := by
  constructor
  · intro applicationFormId respond replies
    exact CourseSelection.completes_with_option working key replies choosable
  · intro context ske conditions respond same allowed grantable replies
    subst same
    exact Offer.completes_with_option working key replies choosable allowed grantable

def annexe : CourseOption := ⟨61, 6, 101, "Annexe", .fullTime, .vacancies, true⟩

def selectAnnexe : CourseSelection.Step → Object
  | .doYouKnowTheCourse => [("answer", CourseSelection.CourseKnown.yes.toJson)]
  | .providerSelection => [("provider_id", .uint64 1)]
  | .whichCourse => [("course_id", .uint64 6)]
  | .courseStudyMode => [("study_mode", StudyMode.fullTime.toJson)]
  | .courseSite => [("course_option_id", .uint64 61)]
  | .goToFindExplanation | .courseReview => []

def offerAnnexe (_ : Offer.Step) : Object :=
  Offer.wanted 1 6 annexe (some ⟨.outdatedDegree, 12⟩) [" Pass an interview "]

theorem available_options_can_be_chosen_annexe :
    Store.empty.Working ∧
    (∃ course, Offer.skeCourse.catalog.Choosable 1 6 course annexe) ∧
    CourseSelection.wizard.Replies (CourseSelection.wanted 1 6 annexe) selectAnnexe ∧
    Offer.Grantable (some ⟨.outdatedDegree, 12⟩) [" Pass an interview "] ∧
    Offer.wizard.Replies
      (Offer.wanted 1 6 annexe (some ⟨.outdatedDegree, 12⟩) [" Pass an interview "]) offerAnnexe ∧
    (∃ (earlier : List CourseSelection.wizard.Step) (picked : CourseOption),
      CourseSelection.wizard.Completes selectAnnexe Store.empty ⟨"k"⟩
        (⟨Offer.skeCourse.catalog, 77⟩ : CourseSelection.Context) (earlier ++ [.courseReview])
        (⟨77, 1, 6, picked.id, 2024⟩ : NewApplicationChoice) ∧
      Offer.skeCourse.catalog.Alike 6 annexe picked ∧
      (CourseSelection.Step.courseSite ∈ earlier → picked = annexe)) ∧
    (∃ (earlier : List Offer.wizard.Step) (picked : CourseOption),
      Offer.wizard.Completes offerAnnexe Store.empty ⟨"k"⟩ Offer.skeCourse (earlier ++ [.check])
        (⟨5, 1, 6, picked.id, some ⟨.outdatedDegree, 12⟩, ["Pass an interview"]⟩ : Offer.Draft) ∧
      Offer.skeCourse.catalog.Alike 6 annexe picked ∧
      (Offer.Step.selectLocation ∈ earlier → picked = annexe)) := by
  have working : Store.empty.Working := by
    intro call
    cases call <;> rfl
  let course : Course :=
    ⟨6, 1, "X100", "Mathematics", .secondary, ["G1"], 2024, Calendar.Date.first, true⟩
  have choosable : Offer.skeCourse.catalog.Choosable 1 6 course annexe :=
    ⟨⟨_, rfl⟩, rfl, rfl, ⟨_, rfl, by decide⟩, by decide⟩
  have selects : CourseSelection.wizard.Replies (CourseSelection.wanted 1 6 annexe)
      selectAnnexe := by
    constructor
    · intro step param among _
      cases step <;> simp_all [selectAnnexe, CourseSelection.wanted, annexe]
    · intro step param asked own
      simp only [CourseSelection.wanted, List.mem_cons, List.not_mem_nil, or_false] at asked
      rcases asked with rfl | rfl | rfl | rfl | rfl <;> cases step <;>
        first | contradiction | exact List.mem_cons_self
  have grantable : Offer.Grantable (some ⟨.outdatedDegree, 12⟩) [" Pass an interview "] :=
    ⟨by simp [Offer.skeLengths], by decide, by decide⟩
  have offers : Offer.wizard.Replies
      (Offer.wanted 1 6 annexe (some ⟨.outdatedDegree, 12⟩) [" Pass an interview "])
      offerAnnexe :=
    ⟨fun _ _ among _ => among, fun _ _ asked _ => asked⟩
  obtain ⟨selecting, offering⟩ := available_options_can_be_chosen working ⟨"k"⟩ choosable
  exact ⟨working, ⟨course, choosable⟩, selects, grantable, offers,
    selecting 77 selectAnnexe selects,
    offering Offer.skeCourse _ _ offerAnnexe rfl (by decide) grantable offers⟩

end Admissions
