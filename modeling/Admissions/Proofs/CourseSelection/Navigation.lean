import Admissions.Proofs.CourseSelection.Edits
import Admissions.Proofs.CourseSelection.Way
import Admissions.Proofs.Wizard.Navigation

namespace Admissions

def Catalog.ListsProviders (catalog : Catalog) : Prop :=
  ∀ course ∈ catalog.courses, ∃ provider ∈ catalog.providers, provider.id = course.providerId

theorem Catalog.ListsProviders.provider {catalog : Catalog} (lists : catalog.ListsProviders)
    {other : UInt64} {found : Option Provider} (looked : catalog.provider other = .ok found)
    {course : Course} (member : course ∈ catalog.courses) :
    ∃ provider, catalog.provider course.providerId = .ok (some provider) := by
  obtain ⟨up, checked, -⟩ := exists_of_bind_eq_ok looked
  obtain ⟨listed, among, number⟩ := lists course member
  have finds : (catalog.providers.find? (·.id == course.providerId)).isSome = true := by
    rw [List.find?_isSome]
    exact ⟨listed, among, by simpa using number⟩
  obtain ⟨provider, finds⟩ := Option.isSome_iff_exists.mp finds
  refine ⟨provider, ?_⟩
  simp only [Catalog.provider, checked, finds, bind, Except.bind, pure, Except.pure]

namespace CourseSelection

open Wizard (Kept Walked)

variable {answers now : Answers} {context other : Context} {step : Step}

def Step.rank : Step → Nat
  | .doYouKnowTheCourse => 0
  | .goToFindExplanation => 1
  | .providerSelection => 1
  | .whichCourse => 2
  | .courseStudyMode => 3
  | .courseSite => 4
  | .courseReview => 5

theorem climbs (answers : Answers) (context : Context) :
    wizard.Climbs Step.rank answers context where
  bounded step := by cases step <;> decide
  up moves := by
    have leads := leads_of_next moves.leads
    cases leads <;> decide

theorem walked_whichCourse (walked : Walked wizard answers context .whichCourse) :
    answers.answer = some .yes ∧ wizard.Passes .providerSelection answers context := by
  rcases walked.cases with first | ⟨before, earlier, passes, leads⟩
  · contradiction
  · cases leads_of_next leads with
    | provided =>
      rcases earlier.cases with first | ⟨start, -, -, leads⟩
      · contradiction
      · cases leads_of_next leads with
        | known yes => exact ⟨yes, passes⟩

theorem passes_doYouKnowTheCourse (yes : answers.answer = some .yes) :
    wizard.Passes .doYouKnowTheCourse answers context := by
  refine ⟨.empty, ?_, rfl⟩
  change Step.validate .doYouKnowTheCourse answers context = .ok .empty
  simp only [Step.validate, yes]
  rfl

theorem next_doYouKnowTheCourse (context : Context) (yes : answers.answer = some .yes) :
    Step.next .doYouKnowTheCourse answers context = .ok (.step .providerSelection) := by
  simp only [Step.next, yes]
  rfl

theorem walked_whichCourse_of (yes : answers.answer = some .yes)
    (passes : wizard.Passes .providerSelection answers context) :
    Walked wizard answers context .whichCourse := by
  have begun : Walked wizard answers context .doYouKnowTheCourse := .first
  have known := begun.next (passes_doYouKnowTheCourse yes) (next_doYouKnowTheCourse context yes) rfl
  exact known.next passes rfl rfl

/-- The pages before the one that is submitted do not consult what it writes, unless it is the page
    of the course. -/
theorem page_of_edits (edits : step.Edits answers now) (elsewhere : step ≠ .whichCourse)
    {page : Step} (before : page.rank < step.rank) :
    page.validate now context = page.validate answers context ∧
      page.next now context = page.next answers context := by
  cases step with
  | doYouKnowTheCourse => exact absurd before (Nat.not_lt_zero _)
  | goToFindExplanation | courseReview =>
    obtain rfl := edits
    exact ⟨rfl, rfl⟩
  | providerSelection =>
    rcases edits with rfl | ⟨providerId, rfl⟩
    · exact ⟨rfl, rfl⟩
    · cases page <;> first | exact ⟨rfl, rfl⟩ | exact absurd before (by decide)
  | whichCourse => contradiction
  | courseStudyMode =>
    obtain ⟨studyMode, rfl⟩ := edits
    cases page <;> first | exact ⟨rfl, rfl⟩ | exact absurd before (by decide)
  | courseSite =>
    obtain ⟨courseOptionId, rfl⟩ := edits
    cases page <;> first | exact ⟨rfl, rfl⟩ | exact absurd before (by decide)

theorem walked_of_edits (walked : Walked wizard answers context step)
    (edits : step.Edits answers now)
    (provided : step = .whichCourse → wizard.Passes .providerSelection now context) :
    Walked wizard now context step := by
  by_cases course : step = .whichCourse
  · subst course
    obtain ⟨yes, -⟩ := walked_whichCourse walked
    have same : now.answer = answers.answer := by
      rcases edits with rfl | ⟨providerId, courseId, rfl⟩ <;> rfl
    exact walked_whichCourse_of (same.trans yes) (provided rfl)
  · exact walked.transfer (climbs answers context) rfl fun page before =>
      page_of_edits edits course before

/-- A course that can be picked names a listed provider, whether or not it is the one asked for
    before. -/
theorem provided_of_course (lists : context.catalog.ListsProviders)
    (walked : Walked wizard answers context .whichCourse)
    (passes : wizard.Passes .whichCourse now context) :
    wizard.Passes .providerSelection now context := by
  obtain ⟨-, provided⟩ := walked_whichCourse walked
  obtain ⟨asked, former, -, looked⟩ := passes_providerSelection_iff.mp provided
  obtain ⟨found, course, -⟩ := passes_whichCourse passes
  obtain ⟨providerId, courseId, given, -, records⟩ := Catalog.named_eq_some course
  obtain ⟨known, -, rfl, -⟩ := Catalog.shapeOf_eq_some records
  obtain ⟨provider, housed⟩ := lists.provider looked (List.mem_of_find?_eq_some known)
  exact passes_providerSelection_iff.mpr ⟨_, provider, given, housed⟩

theorem page_of_catalog (same : other.catalog = context.catalog) (page : Step) :
    page.validate answers other = page.validate answers context ∧
      page.next answers other = page.next answers context := by
  obtain ⟨catalog, form⟩ := context
  obtain ⟨_, form'⟩ := other
  subst same
  cases page <;> exact ⟨rfl, rfl⟩

theorem walked_of_catalog (same : other.catalog = context.catalog)
    (walked : Walked wizard answers context step) : Walked wizard answers other step :=
  walked.transfer (climbs answers context) rfl fun page _ => page_of_catalog same page

def Consults (catalog : Catalog) (context : Context) : Prop := context.catalog = catalog

def Reached (catalog : Catalog) (step : Step) (answers : Answers) : Prop :=
  ∀ context : Context, Consults catalog context → Walked wizard answers context step

theorem reached_kept {catalog : Catalog} (lists : catalog.ListsProviders) :
    Kept wizard (Consults catalog) (Reached catalog) where
  fresh context same := fun _ _ => .first
  visited step answers context requested same reached walked := fun other same' =>
    walked_of_catalog (same'.trans same.symm) walked
  advanced handle params answers target same reached submitted := by
    obtain ⟨edits, passes⟩ := within_edits.of_submission submitted
    have consulted : handle.context.catalog = catalog := same
    have walked := reached handle.context same
    have walked := walked_of_edits walked edits fun course =>
      provided_of_course (consulted ▸ lists) (course ▸ walked) (course ▸ passes)
    exact fun other same' => walked_of_catalog (same'.trans same.symm) walked

end CourseSelection

end Admissions
