import Admissions.CourseSelection.Pages
import Admissions.Proofs.CoursePages
import Admissions.Proofs.Wizard.Path

namespace Admissions.CourseSelection

open Wizard (Failure ValidationErrors Walked)

variable {answers : Answers} {context : Context}

def Answers.course (answers : Answers) (catalog : Catalog) : Option CourseShape :=
  catalog.named answers.providerId answers.courseId

theorem course_of_shape {found : CourseShape} (looked : shape answers context = .ok found) :
    answers.course context.catalog = some found :=
  Catalog.named_of_look looked

theorem shape_of_course {found : CourseShape} (available : context.catalog.Available)
    (course : answers.course context.catalog = some found) :
    shape answers context = .ok found :=
  Catalog.look_of_named available course

inductive Leads (answers : Answers) (catalog : Catalog) : Step → Step → Prop where
  | known (yes : answers.answer = some .yes) :
      Leads answers catalog .doYouKnowTheCourse .providerSelection
  | unknown (no : answers.answer = some .no) :
      Leads answers catalog .doYouKnowTheCourse .goToFindExplanation
  | provided : Leads answers catalog .providerSelection .whichCourse
  | toMode (found : CourseShape) (course : answers.course catalog = some found)
      (both : found.multipleStudyModes = true) :
      Leads answers catalog .whichCourse .courseStudyMode
  | toSite (found : CourseShape) (course : answers.course catalog = some found)
      (single : found.multipleStudyModes = false) (several : found.multipleSites none = true) :
      Leads answers catalog .whichCourse .courseSite
  | toReview (found : CourseShape) (course : answers.course catalog = some found)
      (single : found.multipleStudyModes = false) (one : found.multipleSites none = false) :
      Leads answers catalog .whichCourse .courseReview
  | modeToSite (found : CourseShape) (course : answers.course catalog = some found)
      (several : found.multipleSites answers.studyMode = true) :
      Leads answers catalog .courseStudyMode .courseSite
  | modeToReview (found : CourseShape) (course : answers.course catalog = some found)
      (one : found.multipleSites answers.studyMode = false) :
      Leads answers catalog .courseStudyMode .courseReview
  | siteToReview : Leads answers catalog .courseSite .courseReview

theorem leads_of_next {step following : Step}
    (leads : step.next answers context = .ok (.step following)) :
    Leads answers context.catalog step following := by
  unfold Step.next at leads
  cases step with
  | doYouKnowTheCourse =>
    dsimp only at leads
    cases known : answers.answer with
    | none => simp [known, throw, throwThe, MonadExceptOf.throw] at leads
    | some answer =>
      cases answer with
      | yes =>
        obtain rfl : .providerSelection = following := by
          simpa [known, pure, Except.pure] using leads
        exact .known known
      | no =>
        obtain rfl : .goToFindExplanation = following := by
          simpa [known, pure, Except.pure] using leads
        exact .unknown known
  | goToFindExplanation => simp [pure, Except.pure] at leads
  | providerSelection =>
    obtain rfl : .whichCourse = following := by simpa [pure, Except.pure] using leads
    exact .provided
  | whichCourse =>
    obtain ⟨found, looked, leads⟩ := exists_of_bind_eq_ok leads
    have course := course_of_shape looked
    simp only [pure, Except.pure] at leads
    cases both : found.multipleStudyModes with
    | true =>
      obtain rfl : .courseStudyMode = following := by simpa [both] using leads
      exact .toMode found course both
    | false =>
      cases several : found.multipleSites none with
      | true =>
        obtain rfl : .courseSite = following := by simpa [both, several] using leads
        exact .toSite found course both several
      | false =>
        obtain rfl : .courseReview = following := by simpa [both, several] using leads
        exact .toReview found course both several
  | courseStudyMode =>
    obtain ⟨found, looked, leads⟩ := exists_of_bind_eq_ok leads
    have course := course_of_shape looked
    simp only [pure, Except.pure] at leads
    cases several : found.multipleSites answers.studyMode with
    | true =>
      obtain rfl : .courseSite = following := by simpa [several] using leads
      exact .modeToSite found course several
    | false =>
      obtain rfl : .courseReview = following := by simpa [several] using leads
      exact .modeToReview found course several
  | courseSite =>
    obtain rfl : .courseReview = following := by simpa [pure, Except.pure] using leads
    exact .siteToReview
  | courseReview => simp [pure, Except.pure] at leads

theorem passes_providerSelection_iff :
    wizard.Passes .providerSelection answers context ↔
      ∃ providerId provider, answers.providerId = some providerId ∧
        context.catalog.provider providerId = .ok (some provider) := by
  constructor
  · rintro ⟨errors, validated, valid⟩
    change Step.validateProvider answers context = .ok errors at validated
    unfold Step.validateProvider at validated
    cases given : answers.providerId with
    | none =>
      simp only [given] at validated
      obtain rfl := Except.ok.inj validated
      simp at valid
    | some providerId =>
      simp only [given] at validated
      obtain ⟨found, looked, validated⟩ := exists_of_bind_eq_ok validated
      cases found with
      | none =>
        obtain rfl := Except.ok.inj validated
        simp at valid
      | some provider => exact ⟨providerId, provider, rfl, Failure.eq_ok_of_ofLookup looked⟩
  · rintro ⟨providerId, provider, given, looked⟩
    have validated : Step.validateProvider answers context = .ok .empty := by
      simp only [Step.validateProvider, given, looked, Failure.ofLookup_ok, bind, Except.bind,
        pure, Except.pure]
    exact ⟨.empty, validated, rfl⟩

theorem validate_whichCourse (answers : Answers) (context : Context) :
    wizard.validate .whichCourse answers context = context.catalog.checkCourse
      (.single "course_id" "Select a course from the list")
      (.single "course_id" "You cannot apply to this course as it is full")
      (fun provider course => (ValidationErrors.empty.addIf provider.isNone "provider_id"
        "Select a training provider").addIf course.isNone "course_id" "Select a course")
      answers.providerId answers.courseId := rfl

theorem validate_courseStudyMode (answers : Answers) (context : Context) :
    wizard.validate .courseStudyMode answers context = Catalog.checkAnswer
      (shape answers context) "study_mode" "Select full time or part time"
      "This study mode is not available for this course"
      (fun shape mode => !shape.offers mode) answers.studyMode := by
  obtain ⟨answer, providerId, courseId, studyMode, courseOptionId⟩ := answers
  cases studyMode <;> rfl

theorem validate_courseSite (answers : Answers) (context : Context) :
    wizard.validate .courseSite answers context = Catalog.checkAnswer
      (shape answers context) "course_option_id" "Select a location"
      "Select a location from the list"
      (fun shape _ => (chosenOption shape answers).isNone) answers.courseOptionId := by
  obtain ⟨answer, providerId, courseId, studyMode, courseOptionId⟩ := answers
  cases courseOptionId <;> rfl

theorem passes_whichCourse (passes : wizard.Passes .whichCourse answers context) :
    ∃ found, answers.course context.catalog = some found ∧ found.available ≠ [] := by
  obtain ⟨errors, validated, valid⟩ := passes
  rw [validate_whichCourse] at validated
  refine Catalog.named_of_checkCourse (by simp) (by simp) ?_ validated valid
  rintro provider course (rfl | rfl) <;> simp

theorem passes_courseStudyMode (passes : wizard.Passes .courseStudyMode answers context) :
    ∃ found mode, answers.course context.catalog = some found ∧
      answers.studyMode = some mode ∧ found.offers mode = true := by
  obtain ⟨errors, validated, valid⟩ := passes
  rw [validate_courseStudyMode] at validated
  obtain ⟨found, mode, looked, answered, offered⟩ := Catalog.fits_of_checkAnswer validated valid
  exact ⟨found, mode, course_of_shape looked, answered, by simpa using offered⟩

theorem passes_courseSite (passes : wizard.Passes .courseSite answers context) :
    ∃ found id option, answers.course context.catalog = some found ∧
      answers.courseOptionId = some id ∧ chosenOption found answers = some option := by
  obtain ⟨errors, validated, valid⟩ := passes
  rw [validate_courseSite] at validated
  obtain ⟨found, id, looked, answered, chosen⟩ := Catalog.fits_of_checkAnswer validated valid
  obtain ⟨option, chosen⟩ := Option.isSome_iff_exists.mp (Option.isNone_eq_false_iff.mp chosen)
  exact ⟨found, id, option, course_of_shape looked, answered, chosen⟩

theorem walked_courseStudyMode
    (walked : Walked wizard answers context .courseStudyMode) :
    ∃ found, answers.course context.catalog = some found ∧ found.available ≠ [] ∧
      found.multipleStudyModes = true := by
  rcases walked.cases with first | ⟨before, -, passes, leads⟩
  · contradiction
  · cases leads_of_next leads with
    | toMode found course both =>
      obtain ⟨same, course', available⟩ := passes_whichCourse passes
      obtain rfl : found = same := Option.some.inj (course.symm.trans course')
      exact ⟨found, course, available, both⟩

theorem walked_courseSite (walked : Walked wizard answers context .courseSite) :
    ∃ found, answers.course context.catalog = some found ∧ found.available ≠ [] ∧
      (found.multipleStudyModes = true → answers.studyMode.isSome = true) ∧
      found.multipleSites (found.askedMode answers.studyMode) = true := by
  rcases walked.cases with first | ⟨before, earlier, passes, leads⟩
  · contradiction
  · cases leads_of_next leads with
    | toSite found course single several =>
      obtain ⟨same, course', available⟩ := passes_whichCourse passes
      obtain rfl : found = same := Option.some.inj (course.symm.trans course')
      exact ⟨found, course, available, by simp [single],
        by simpa [CourseShape.askedMode, single] using several⟩
    | modeToSite found course several =>
      obtain ⟨same, mode, course', answered, offered⟩ := passes_courseStudyMode passes
      obtain ⟨other, course'', available, both⟩ := walked_courseStudyMode earlier
      obtain rfl : found = same := Option.some.inj (course.symm.trans course')
      obtain rfl : found = other := Option.some.inj (course.symm.trans course'')
      exact ⟨found, course, available, by simp [answered],
        by simpa [CourseShape.askedMode, both] using several⟩

theorem walked_courseReview (walked : Walked wizard answers context .courseReview) :
    ∃ found, answers.course context.catalog = some found ∧
      found.Answered answers.studyMode answers.courseOptionId := by
  rcases walked.cases with first | ⟨before, earlier, passes, leads⟩
  · contradiction
  · cases leads_of_next leads with
    | toReview found course single one =>
      obtain ⟨same, course', available⟩ := passes_whichCourse passes
      obtain rfl : found = same := Option.some.inj (course.symm.trans course')
      refine ⟨found, course, ⟨?_, ?_⟩, available, ?_⟩
      · simp [single]
      · simp [CourseShape.askedMode, single, one]
      · simp [CourseShape.askedMode, single, one]
    | modeToReview found course one =>
      obtain ⟨same, mode, course', answered, offered⟩ := passes_courseStudyMode passes
      obtain ⟨other, course'', available, both⟩ := walked_courseStudyMode earlier
      obtain rfl : found = same := Option.some.inj (course.symm.trans course')
      obtain rfl : found = other := Option.some.inj (course.symm.trans course'')
      refine ⟨found, course, ⟨?_, ?_⟩, available, ?_⟩
      · simp [answered]
      · simp [CourseShape.askedMode, both, one]
      · simp [CourseShape.askedMode, both, one]
    | siteToReview =>
      obtain ⟨found, id, option, course, answered, chosen⟩ := passes_courseSite passes
      obtain ⟨other, course', available, moded, -⟩ := walked_courseSite earlier
      obtain rfl : found = other := Option.some.inj (course.symm.trans course')
      have picked : found.pick answers.studyMode answers.courseOptionId = some option := chosen
      refine ⟨found, course, ⟨moded, ?_⟩, available, ?_⟩
      · simp [answered]
      · simp [picked]

section Messages

open Wizard.ValidationErrors (understood_empty understood_single UnderstoodIn understoodIn_pure
  understoodIn_bind)

theorem understoodIn_validate (step : Step) (answers : Answers) (context : Context) :
    UnderstoodIn (step.validate answers context) := by
  cases step with
  | doYouKnowTheCourse =>
    exact understoodIn_pure (understood_empty.addIf _ (by simp) _)
  | goToFindExplanation | courseReview => exact understoodIn_pure understood_empty
  | providerSelection =>
    dsimp only [Step.validate, Step.validateProvider]
    split
    · exact understoodIn_pure (understood_single (by simp) _)
    · refine understoodIn_bind fun found => ?_
      split
      · exact understoodIn_pure (understood_single (by simp) _)
      · exact understoodIn_pure understood_empty
  | whichCourse =>
    dsimp only [Step.validate, Step.validateCourse]
    split
    · refine understoodIn_bind fun found => ?_
      split
      · exact understoodIn_pure (understood_single (by simp) _)
      · split
        · exact understoodIn_pure (understood_single (by simp) _)
        · exact understoodIn_pure understood_empty
    · exact understoodIn_pure ((understood_empty.addIf _ (by simp) _).addIf _ (by simp) _)
  | courseStudyMode =>
    dsimp only [Step.validate]
    split
    · exact understoodIn_pure (understood_single (by simp) _)
    · exact understoodIn_bind fun found =>
        understoodIn_pure (understood_empty.addIf _ (by simp) _)
  | courseSite =>
    dsimp only [Step.validate]
    split
    · exact understoodIn_pure (understood_single (by simp) _)
    · exact understoodIn_bind fun found =>
        understoodIn_pure (understood_empty.addIf _ (by simp) _)

end Messages

end Admissions.CourseSelection
