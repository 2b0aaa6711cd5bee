import Admissions.Proofs.CourseSelection.Edits
import Admissions.Proofs.CourseSelection.Way
import Admissions.Proofs.Wizard.Desk
import Mathlib.Control.Monad.Basic

namespace Admissions.CourseSelection

open Wizard (Desk Handle Kept Move Session Target Walked held_of_run)

variable {catalog : Catalog} {step : Step} {answers : Answers}

/-- Mode and site are those of the course, and they are answered where later pages rely on them. -/
structure Sound (catalog : Catalog) (step : Step) (answers : Answers) : Prop where
  modeOffered : ∀ found mode, answers.course catalog = some found →
    answers.studyMode = some mode → found.offers mode = true
  optionListed : ∀ found id, answers.course catalog = some found →
    answers.courseOptionId = some id → ∃ option ∈ found.available, option.id = id
  modeAsked : step = .courseSite → ∀ found, answers.course catalog = some found →
    found.multipleStudyModes = true → answers.studyMode.isSome = true
  reviewed : step = .courseReview → ∀ found, answers.course catalog = some found →
    found.Asked answers.studyMode answers.courseOptionId

theorem course_of_agrees {context : Context} (agrees : catalog.Agrees context.catalog) :
    answers.course context.catalog = answers.course catalog :=
  agrees.named answers.providerId answers.courseId

theorem Sound.visited {context : Context} {requested : Step}
    (sound : Sound catalog step answers) (agrees : catalog.Agrees context.catalog)
    (walked : Walked wizard answers context requested) : Sound catalog requested answers where
  modeOffered := sound.modeOffered
  optionListed := sound.optionListed
  modeAsked := by
    rintro rfl found course
    obtain ⟨same, course', -, asked, -⟩ := walked_courseSite walked
    rw [course_of_agrees agrees, course] at course'
    obtain rfl := Option.some.inj course'
    exact asked
  reviewed := by
    rintro rfl found course
    obtain ⟨same, course', answered⟩ := walked_courseReview walked
    rw [course_of_agrees agrees, course] at course'
    obtain rfl := Option.some.inj course'
    exact answered.toAsked

theorem sound_of_dropped (mode : answers.studyMode = none) (site : answers.courseOptionId = none)
    (early : step ≠ .courseSite ∧ step ≠ .courseReview) : Sound catalog step answers where
  modeOffered := by simp [mode]
  optionListed := by simp [site]
  modeAsked := fun late => absurd late early.1
  reviewed := fun late => absurd late early.2

theorem Sound.edited {context : Context} {now : Answers} (sound : Sound catalog step answers)
    (agrees : catalog.Agrees context.catalog) (edits : step.Edits answers now)
    (passes : wizard.Passes step now context) : Sound catalog step now := by
  cases step with
  | doYouKnowTheCourse =>
    obtain ⟨answer, rfl⟩ := edits
    exact ⟨sound.modeOffered, sound.optionListed, by simp, by simp⟩
  | providerSelection =>
    rcases edits with rfl | ⟨providerId, rfl⟩
    · exact sound
    · exact sound_of_dropped rfl rfl (by decide)
  | whichCourse =>
    rcases edits with rfl | ⟨providerId, courseId, rfl⟩
    · exact sound
    · exact sound_of_dropped rfl rfl (by decide)
  | courseStudyMode =>
    obtain ⟨found, mode, course, answered, offered⟩ := passes_courseStudyMode passes
    rw [course_of_agrees agrees] at course
    obtain ⟨studyMode, rfl⟩ := edits
    refine ⟨fun same given course' answered' => ?_, sound.optionListed, by simp, by simp⟩
    obtain rfl : found = same := Option.some.inj (course.symm.trans course')
    obtain rfl : mode = given := Option.some.inj (answered.symm.trans answered')
    exact offered
  | courseSite =>
    obtain ⟨found, id, option, course, answered, chosen⟩ := passes_courseSite passes
    rw [course_of_agrees agrees] at course
    obtain ⟨courseOptionId, rfl⟩ := edits
    refine ⟨sound.modeOffered, fun same given course' answered' => ?_, sound.modeAsked, by simp⟩
    obtain rfl : found = same := Option.some.inj (course.symm.trans course')
    obtain ⟨member, numbered⟩ := CourseShape.pick_eq_some chosen
    exact ⟨option, (CourseShape.mem_optionsFor.mp member).1, numbered given answered'⟩
  | goToFindExplanation =>
    obtain rfl := edits
    exact sound
  | courseReview =>
    obtain rfl := edits
    exact sound

/-- The records are those of one catalog; look-ups may fail at any time. -/
def Fits (catalog : Catalog) (context : Context) : Prop := catalog.Agrees context.catalog

theorem sound_kept (catalog : Catalog) : Kept wizard (Fits catalog) (Sound catalog) where
  fresh context fits := by
    have early : Step.doYouKnowTheCourse ≠ .courseSite ∧
        Step.doYouKnowTheCourse ≠ .courseReview := by decide
    exact sound_of_dropped rfl rfl early
  visited step answers context requested fits sound walked := sound.visited fits walked
  advanced handle params answers target fits sound submitted := by
    obtain ⟨edits, passes⟩ := within_edits.of_submission submitted
    exact sound.edited fits edits passes

theorem Sound.asked {context : Context} {found : CourseShape} (sound : Sound catalog step answers)
    (agrees : catalog.Agrees context.catalog) (passes : wizard.Passes step answers context)
    (completes : step.completed answers context = .ok true)
    (course : answers.course catalog = some found) :
    found.Asked answers.studyMode answers.courseOptionId := by
  rw [← course_of_agrees agrees] at course
  unfold Step.completed at completes
  cases step with
  | doYouKnowTheCourse | goToFindExplanation | providerSelection =>
    simp [pure, Except.pure] at completes
  | whichCourse =>
    obtain ⟨same, looked, completes⟩ := exists_of_bind_eq_ok completes
    obtain rfl : same = found := Option.some.inj ((course_of_shape looked).symm.trans course)
    obtain ⟨single, one⟩ : same.multipleStudyModes = false ∧ same.multipleSites none = false := by
      simpa [pure, Except.pure] using completes
    constructor
    · simp [single]
    · simp [CourseShape.askedMode, single, one]
  | courseStudyMode =>
    obtain ⟨other, mode, course', answered, offered⟩ := passes_courseStudyMode passes
    obtain rfl : other = found := Option.some.inj (course'.symm.trans course)
    simp only [answered] at completes
    obtain ⟨same, looked, completes⟩ := exists_of_bind_eq_ok completes
    obtain rfl : same = other := Option.some.inj ((course_of_shape looked).symm.trans course)
    have one : same.multipleSites (some mode) = false := by
      simpa [pure, Except.pure] using completes
    constructor
    · simp [answered]
    · rw [answered, CourseShape.multipleSites_askedMode offered, one]
      simp
  | courseSite =>
    obtain ⟨other, id, option, course', answered, -⟩ := passes_courseSite passes
    rw [course_of_agrees agrees] at course
    constructor
    · exact sound.modeAsked rfl found course
    · simp [answered]
  | courseReview =>
    -- The review asks for nothing; what came before it did.
    rw [course_of_agrees agrees] at course
    exact sound.reviewed rfl found course

theorem materialize_eq_ok {context : Context} {choice : NewApplicationChoice}
    (made : materialize answers context = .ok choice) :
    ∃ found option, answers.course context.catalog = some found ∧
      found.pick answers.studyMode answers.courseOptionId = some option ∧
      choice = ⟨context.applicationFormId, found.course.providerId, found.course.id, option.id,
        found.course.recruitmentCycleYear⟩ := by
  unfold materialize at made
  obtain ⟨found, looked, made⟩ := exists_of_bind_eq_ok made
  cases chosen : chosenOption found answers with
  | none => simp [chosen, throw, throwThe, MonadExceptOf.throw] at made
  | some option =>
    simp only [chosen] at made
    exact ⟨found, option, course_of_shape looked, chosen, (Except.ok.inj made).symm⟩

/-- The choice is of a course of the provider in the records, as answered, and of an option that was
    asked for wherever the course leaves a choice. -/
structure Backed (catalog : Catalog) (answers : Answers) (choice : NewApplicationChoice) :
    Prop where
  provider : answers.providerId = some choice.providerId
  course : answers.courseId = some choice.courseId
  settled : ∃ course option, catalog.courses.find? (·.id == choice.courseId) = some course ∧
    course.providerId = choice.providerId ∧
    course.recruitmentCycleYear = choice.recruitmentCycleYear ∧
    option.id = choice.courseOptionId ∧
    catalog.Settles answers.studyMode answers.courseOptionId course option

/-- Whatever the handles on a store do in whatever order, a choice that a save creates is backed by
    the records and by the answers of the handle. -/
theorem created_choice_backed (catalog : Catalog) {moves : List (Move wizard)}
    (fits : ∀ move ∈ moves, move.Admits (Fits catalog)) {handle : Handle wizard}
    (member : handle ∈ (Desk.run moves).handles) {choice : NewApplicationChoice}
    (saved : (Session.save ⟨(Desk.run moves).store, handle⟩).1 = .ok (.created choice)) :
    Backed catalog handle.answers choice := by
  obtain ⟨agrees, sound⟩ := held_of_run (sound_kept catalog) wizard_faithful fits member
  have finishes : Session.finished handle = .ok (some choice) :=
    Session.finished_of_created _ saved
  obtain ⟨passes, completes, made⟩ := Session.finished_eq_some finishes
  obtain ⟨found, option, looked, picked, rfl⟩ := materialize_eq_ok made
  have course := (course_of_agrees agrees).symm.trans looked
  have asked := sound.asked agrees passes completes course
  obtain ⟨providerId, courseId, provider, number, records⟩ := Catalog.named_eq_some course
  have settles := Catalog.settles_of_pick records picked asked
  obtain ⟨listed, rfl, rfl, -⟩ := Catalog.shapeOf_eq_some records
  exact ⟨provider, number, found.course, option, listed, rfl, rfl, rfl, settles⟩

instance : DecidableEq wizard.Output := inferInstanceAs (DecidableEq NewApplicationChoice)

instance : DecidableEq wizard.Violation := inferInstanceAs (DecidableEq Violation)

def twoModes : Catalog where
  providers := [⟨1, "1N1", "Hill College"⟩]
  courses := [⟨6, 1, "X100", "Mathematics", .secondary, [], 2024, Calendar.Date.first, true⟩]
  options := [⟨60, 6, 100, "Main Site", .fullTime, .vacancies, true⟩,
    ⟨61, 6, 101, "Annexe", .fullTime, .vacancies, true⟩,
    ⟨62, 6, 100, "Main Site", .partTime, .vacancies, true⟩]
  outage := .none

def relay : List (Move wizard) :=
  let context : Context := ⟨twoModes, 77⟩
  [.openAnother ⟨"k"⟩ context .start, .act 0 (.advance [("answer", .string "yes")]),
    .act 0 (.visit Step.providerSelection), .act 0 (.advance [("provider_id", .nat 1)]),
    .act 0 (.visit Step.whichCourse), .act 0 (.advance [("course_id", .nat 6)]),
    .act 0 (.visit Step.courseStudyMode),
    .act 0 (.advance [("study_mode", .string "full_time")]),
    .openAnother ⟨"k"⟩ context .resume, .act 1 (.visit Step.courseSite),
    .act 1 (.advance [("course_option_id", .nat 61)]), .act 1 (.visit Step.courseReview)]

theorem created_choice_backed_relay :
    (∀ move ∈ relay, move.Admits (Fits twoModes)) ∧
    ∃ handle ∈ (Desk.run relay).handles,
      (Session.save ⟨(Desk.run relay).store, handle⟩).1 = .ok (.created ⟨77, 1, 6, 61, 2024⟩) ∧
      Backed twoModes handle.answers ⟨77, 1, 6, 61, 2024⟩ := by
  have fits : ∀ move ∈ relay, move.Admits (Fits twoModes) := by
    have agrees : Fits twoModes ⟨twoModes, 77⟩ := ⟨rfl, rfl, rfl⟩
    simp [relay, Move.Admits, Wizard.Event.Admits, agrees]
  have created : ∃ handle ∈ (Desk.run relay).handles,
      (Session.save ⟨(Desk.run relay).store, handle⟩).1 =
        .ok (.created ⟨77, 1, 6, 61, 2024⟩) := by decide +kernel
  obtain ⟨handle, member, saved⟩ := created
  exact ⟨fits, handle, member, saved, created_choice_backed twoModes fits member saved⟩

end Admissions.CourseSelection
