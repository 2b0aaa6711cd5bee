import Admissions.Proofs.CourseSelection.Soundness
import Admissions.Proofs.Wizard.Written

namespace Admissions.CourseSelection

open Wizard (Kept)

variable {catalog : Catalog} {step : Step} {answers : Answers}

def Answers.AboutCourse (answers : Answers) : Prop :=
  answers.studyMode.isSome = true ∨ answers.courseOptionId.isSome = true

def Placed (catalog : Catalog) (answers : Answers) : Prop :=
  answers.AboutCourse → ∃ found, answers.course catalog = some found

theorem placed_of_course {found : CourseShape} (course : answers.course catalog = some found) :
    Placed catalog answers := fun _ => ⟨found, course⟩

theorem placed_of_dropped (mode : answers.studyMode = none)
    (site : answers.courseOptionId = none) : Placed catalog answers := by
  intro about
  simp [Answers.AboutCourse, mode, site] at about

theorem Placed.edited {context : Context} {now : Answers} (placed : Placed catalog answers)
    (agrees : catalog.Agrees context.catalog) (edits : step.Edits answers now)
    (passes : wizard.Passes step now context) : Placed catalog now := by
  cases step with
  | doYouKnowTheCourse =>
    obtain ⟨answer, rfl⟩ := edits
    exact placed
  | providerSelection =>
    rcases edits with rfl | ⟨providerId, rfl⟩
    · exact placed
    · exact placed_of_dropped rfl rfl
  | whichCourse =>
    rcases edits with rfl | ⟨providerId, courseId, rfl⟩
    · exact placed
    · exact placed_of_dropped rfl rfl
  | courseStudyMode =>
    obtain ⟨found, mode, course, -, -⟩ := passes_courseStudyMode passes
    rw [course_of_agrees agrees] at course
    exact placed_of_course course
  | courseSite =>
    obtain ⟨found, id, option, course, -, -⟩ := passes_courseSite passes
    rw [course_of_agrees agrees] at course
    exact placed_of_course course
  | goToFindExplanation | courseReview =>
    obtain rfl := edits
    exact placed

theorem placed_kept (catalog : Catalog) :
    Kept wizard (Fits catalog) fun _ answers => Placed catalog answers where
  fresh _ _ := placed_of_dropped rfl rfl
  visited _ _ _ _ _ placed _ := placed
  advanced handle params answers target fits placed submitted := by
    obtain ⟨edits, passes⟩ := within_edits.of_submission submitted
    exact placed.edited fits edits passes

/-- Wherever a mode or a site is answered, the answers belong to a course in the records. -/
def Belonging (catalog : Catalog) (answers : Answers) : Prop :=
  answers.AboutCourse → ∃ course, catalog.Belongs answers.providerId answers.courseId
    answers.studyMode answers.courseOptionId course

theorem belonging_of_placed (sound : Sound catalog step answers)
    (placed : Placed catalog answers) : Belonging catalog answers := by
  intro about
  obtain ⟨found, course⟩ := placed about
  refine ⟨found.course, Catalog.belongs_of_named course (fun mode given => ?_) fun id given => ?_⟩
  · exact CourseShape.offers_iff.mp (sound.modeOffered found mode course given)
  · exact sound.optionListed found id course given

end Admissions.CourseSelection
