import Admissions.Proofs.Offer.Soundness
import Admissions.Proofs.Wizard.Written

namespace Admissions.Offer

open Wizard (Kept Walked)

variable {base context : Context} {step : Step} {answers : Answers}

def Answers.AboutCourse (answers : Answers) : Prop :=
  answers.studyMode.isSome = true ∨ answers.courseOptionId.isSome = true

def Answers.AboutSke (answers : Answers) : Prop :=
  answers.skeRequired.isSome = true ∨ answers.skeReason.isSome = true ∨
    answers.skeLength.isSome = true

def Step.AsksAboutSke (step : Step) : Prop :=
  step = .skeRequirements ∨ step = .skeReason ∨ step = .skeLength

def SkeDue (base : Context) (answers : Answers) : Prop :=
  ∃ found, answers.course base.catalog = some found ∧ base.skeApplies found.course = true

structure Placed (base : Context) (step : Step) (answers : Answers) : Prop where
  course : answers.AboutCourse → ∃ found, answers.course base.catalog = some found
  ske : answers.AboutSke → SkeDue base answers
  asking : step.AsksAboutSke → SkeDue base answers
  weeks : ∀ weeks, answers.skeLength = some weeks → weeks ∈ skeLengths

theorem SkeAsked.due {found : CourseShape} (asked : SkeAsked answers context found)
    (fits : Fits base context) : SkeDue base answers := by
  refine ⟨found, ?_, ?_⟩
  · rw [← fits.course]
    exact asked.course
  · rw [← fits.skeApplies]
    exact asked.applies

theorem Placed.visited {requested : Step} (placed : Placed base step answers)
    (fits : Fits base context) (walked : Walked wizard answers context requested) :
    Placed base requested answers where
  course := placed.course
  ske := placed.ske
  asking := by
    rintro (rfl | rfl | rfl)
    · obtain ⟨found, asked⟩ := walked_skeRequirements walked
      exact asked.due fits
    · obtain ⟨found, asked, -⟩ := walked_skeReason walked
      exact asked.due fits
    · obtain ⟨found, reason, asked, -⟩ := walked_skeLength walked
      exact asked.due fits
  weeks := placed.weeks

theorem placed_withoutCourse (answers : Answers) (providerId courseId : Option UInt64)
    (early : ¬step.AsksAboutSke) :
    Placed base step { answers.withoutCourse with providerId, courseId } where
  course about := by simp [Answers.AboutCourse, Answers.withoutCourse, Answers.blank] at about
  ske about := by simp [Answers.AboutSke, Answers.withoutCourse, Answers.blank] at about
  asking asks := absurd asks early
  weeks := by simp [Answers.withoutCourse, Answers.blank]

theorem Placed.edited {now : Answers} (placed : Placed base step answers)
    (fits : Fits base context) (edits : step.Edits answers now)
    (passes : wizard.Passes step now context) : Placed base step now := by
  cases step with
  | selectProvider =>
    rcases edits with rfl | ⟨providerId, rfl⟩
    · exact placed
    · exact placed_withoutCourse answers providerId none (by simp [Step.AsksAboutSke])
  | selectCourse =>
    rcases edits with rfl | ⟨courseId, rfl⟩
    · exact placed
    · exact placed_withoutCourse answers answers.providerId courseId (by simp [Step.AsksAboutSke])
  | selectStudyMode =>
    obtain ⟨found, mode, course, -, -⟩ := passes_selectStudyMode passes
    rw [fits.course] at course
    obtain ⟨studyMode, rfl⟩ := edits
    exact ⟨fun _ => ⟨found, course⟩, placed.ske, placed.asking, placed.weeks⟩
  | selectLocation =>
    obtain ⟨found, id, option, course, -, -⟩ := passes_selectLocation passes
    rw [fits.course] at course
    obtain ⟨courseOptionId, rfl⟩ := edits
    exact ⟨fun _ => ⟨found, course⟩, placed.ske, placed.asking, placed.weeks⟩
  | skeRequirements =>
    -- The course was found on the way to the page, and what the page writes does not change it.
    have due : SkeDue base answers := placed.asking (.inl rfl)
    obtain ⟨skeRequired, rfl⟩ := edits
    exact ⟨placed.course, fun _ => due, fun _ => due, placed.weeks⟩
  | skeReason =>
    have due : SkeDue base answers := placed.asking (.inr (.inl rfl))
    obtain ⟨skeReason, rfl⟩ := edits
    exact ⟨placed.course, fun _ => due, fun _ => due, placed.weeks⟩
  | skeLength =>
    have due : SkeDue base answers := placed.asking (.inr (.inr rfl))
    obtain ⟨weeks, timed, accepted⟩ := passes_skeLength_iff.mp passes
    obtain ⟨skeLength, rfl⟩ := edits
    refine ⟨placed.course, fun _ => due, fun _ => due, fun given same => ?_⟩
    obtain rfl : weeks = given := Option.some.inj (timed.symm.trans same)
    exact accepted
  | conditions =>
    obtain ⟨furtherConditions, rfl⟩ := edits
    exact ⟨placed.course, placed.ske, placed.asking, placed.weeks⟩
  | check =>
    obtain rfl := edits
    exact placed

theorem placed_kept (base : Context) : Kept wizard (Fits base) (Placed base) where
  fresh context fits := by
    have early : ¬Step.AsksAboutSke .selectProvider := by simp [Step.AsksAboutSke]
    exact placed_withoutCourse .blank none none early
  visited step answers context requested fits placed walked := placed.visited fits walked
  advanced handle params answers target fits placed submitted := by
    obtain ⟨edits, passes⟩ := within_edits.of_submission submitted
    exact placed.edited fits edits passes

/-- Wherever a mode, a location or anything about SKE is answered, the answers belong to a course
    in the records, and SKE applies to it where it is asked about. -/
structure Belonging (base : Context) (answers : Answers) : Prop where
  course : answers.AboutCourse ∨ answers.AboutSke → ∃ course,
    base.catalog.Belongs answers.providerId answers.courseId answers.studyMode
      answers.courseOptionId course ∧
    (answers.AboutSke → base.skeApplies course = true)
  skeLength : ∀ weeks, answers.skeLength = some weeks → weeks ∈ skeLengths

theorem belonging_of_placed (sound : Sound base step answers) (placed : Placed base step answers) :
    Belonging base answers := by
  refine ⟨fun about => ?_, placed.weeks⟩
  have named : ∃ found, answers.course base.catalog = some found := by
    rcases about with about | about
    · exact placed.course about
    · obtain ⟨found, course, -⟩ := placed.ske about
      exact ⟨found, course⟩
  obtain ⟨found, course⟩ := named
  refine ⟨found.course, Catalog.belongs_of_named course (fun mode given => ?_)
    (fun id given => ?_), fun asked => ?_⟩
  · exact CourseShape.offers_iff.mp (sound.modeOffered found mode course given)
  · exact sound.optionListed found id course given
  · obtain ⟨same, course', applies⟩ := placed.ske asked
    obtain rfl : found = same := Option.some.inj (course.symm.trans course')
    exact applies

end Admissions.Offer
