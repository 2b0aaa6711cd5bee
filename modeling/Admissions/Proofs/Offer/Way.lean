import Admissions.Offer.Pages
import Admissions.Proofs.CoursePages
import Admissions.Proofs.Wizard.Path

namespace Admissions.Offer

open Wizard (Failure ValidationErrors Walked)

variable {answers : Answers} {context : Context}

def Answers.course (answers : Answers) (catalog : Catalog) : Option CourseShape :=
  catalog.named answers.providerId answers.courseId

theorem course_of_shape {found : CourseShape} (looked : shape answers context = .ok found) :
    answers.course context.catalog = some found :=
  Catalog.named_of_look looked

theorem shape_of_course {found : CourseShape} (available : context.catalog.Available)
    (course : answers.course context.catalog = some found) :
    shape answers context = .ok found :=
  Catalog.look_of_named available course

inductive Leads (answers : Answers) (context : Context) : Step → Step → Prop where
  | provided : Leads answers context .selectProvider .selectCourse
  | toMode (found : CourseShape) (course : answers.course context.catalog = some found)
      (both : found.multipleStudyModes = true) :
      Leads answers context .selectCourse .selectStudyMode
  | toLocation (found : CourseShape) (course : answers.course context.catalog = some found)
      (single : found.multipleStudyModes = false) (several : found.multipleSites none = true) :
      Leads answers context .selectCourse .selectLocation
  | past {following : Step} (found : CourseShape)
      (course : answers.course context.catalog = some found)
      (single : found.multipleStudyModes = false) (one : found.multipleSites none = false)
      (after : following = afterLocation found context) :
      Leads answers context .selectCourse following
  | modeToLocation (found : CourseShape) (course : answers.course context.catalog = some found)
      (several : found.multipleSites answers.studyMode = true) :
      Leads answers context .selectStudyMode .selectLocation
  | modePast {following : Step} (found : CourseShape)
      (course : answers.course context.catalog = some found)
      (one : found.multipleSites answers.studyMode = false)
      (after : following = afterLocation found context) :
      Leads answers context .selectStudyMode following
  | locationPast {following : Step} (found : CourseShape)
      (course : answers.course context.catalog = some found)
      (after : following = afterLocation found context) :
      Leads answers context .selectLocation following
  | toReason (required : answers.skeRequired = some true) :
      Leads answers context .skeRequirements .skeReason
  | withoutSke (notRequired : answers.skeRequired ≠ some true) :
      Leads answers context .skeRequirements .conditions
  | toLength : Leads answers context .skeReason .skeLength
  | toConditions : Leads answers context .skeLength .conditions
  | toCheck : Leads answers context .conditions .check

theorem leads_of_next {step following : Step}
    (leads : step.next answers context = .ok (.step following)) :
    Leads answers context step following := by
  unfold Step.next at leads
  cases step with
  | selectProvider =>
    obtain rfl : .selectCourse = following := by simpa [pure, Except.pure] using leads
    exact .provided
  | selectCourse =>
    obtain ⟨found, looked, leads⟩ := exists_of_bind_eq_ok leads
    have course := course_of_shape looked
    simp only [pure, Except.pure] at leads
    cases both : found.multipleStudyModes with
    | true =>
      obtain rfl : .selectStudyMode = following := by simpa [both] using leads
      exact .toMode found course both
    | false =>
      cases several : found.multipleSites none with
      | true =>
        obtain rfl : .selectLocation = following := by simpa [both, several] using leads
        exact .toLocation found course both several
      | false =>
        obtain rfl : afterLocation found context = following := by
          simpa [both, several] using leads
        exact .past found course both several rfl
  | selectStudyMode =>
    obtain ⟨found, looked, leads⟩ := exists_of_bind_eq_ok leads
    have course := course_of_shape looked
    simp only [pure, Except.pure] at leads
    cases several : found.multipleSites answers.studyMode with
    | true =>
      obtain rfl : .selectLocation = following := by simpa [several] using leads
      exact .modeToLocation found course several
    | false =>
      obtain rfl : afterLocation found context = following := by simpa [several] using leads
      exact .modePast found course several rfl
  | selectLocation =>
    obtain ⟨found, looked, leads⟩ := exists_of_bind_eq_ok leads
    have course := course_of_shape looked
    obtain rfl : afterLocation found context = following := by
      simpa [pure, Except.pure] using leads
    exact .locationPast found course rfl
  | skeRequirements =>
    by_cases required : answers.skeRequired = some true
    · obtain rfl : .skeReason = following := by
        simpa [required, pure, Except.pure] using leads
      exact .toReason required
    · obtain rfl : .conditions = following := by
        simpa [required, pure, Except.pure] using leads
      exact .withoutSke required
  | skeReason =>
    obtain rfl : .skeLength = following := by simpa [pure, Except.pure] using leads
    exact .toLength
  | skeLength =>
    obtain rfl : .conditions = following := by simpa [pure, Except.pure] using leads
    exact .toConditions
  | conditions =>
    obtain rfl : .check = following := by simpa [pure, Except.pure] using leads
    exact .toCheck
  | check => simp [pure, Except.pure] at leads

theorem passes_selectProvider (passes : wizard.Passes .selectProvider answers context) :
    ∃ providerId provider, answers.providerId = some providerId ∧
      providerId ∈ context.providerIds ∧ provider ∈ context.catalog.providers ∧
      provider.id = providerId := by
  obtain ⟨errors, validated, valid⟩ := passes
  change Step.validateProvider answers context = .ok errors at validated
  unfold Step.validateProvider at validated
  cases given : answers.providerId with
  | none =>
    simp only [given] at validated
    obtain rfl := Except.ok.inj validated
    simp at valid
  | some providerId =>
    simp only [given] at validated
    by_cases allowed : providerId ∈ context.providerIds
    · have listed : context.providerIds.contains providerId = true := by simpa using allowed
      simp only [listed, Bool.not_true, Bool.false_eq_true, ↓reduceIte] at validated
      obtain ⟨found, looked, validated⟩ := exists_of_bind_eq_ok validated
      cases found with
      | none =>
        obtain rfl := Except.ok.inj validated
        simp at valid
      | some provider =>
        have known := Catalog.provider_eq_find? (Failure.eq_ok_of_ofLookup looked)
        have number := List.find?_some known.symm
        exact ⟨providerId, provider, rfl, allowed, List.mem_of_find?_eq_some known.symm,
          by simpa using number⟩
    · have unlisted : context.providerIds.contains providerId = false := by simpa using allowed
      simp only [unlisted, Bool.not_false, ↓reduceIte] at validated
      obtain rfl := Except.ok.inj validated
      simp at valid

theorem validate_selectCourse (answers : Answers) (context : Context) :
    wizard.validate .selectCourse answers context = context.catalog.checkCourse
      (.single "course_id" "Select a course from the list")
      (.single "course_id" "This course has no locations with vacancies")
      (fun _ _ => .single "course_id" "Select a course")
      answers.providerId answers.courseId := rfl

theorem validate_selectStudyMode (answers : Answers) (context : Context) :
    wizard.validate .selectStudyMode answers context = Catalog.checkAnswer
      (shape answers context) "study_mode" "Select full time or part time"
      "This study mode is not available for this course"
      (fun shape mode => !shape.offers mode) answers.studyMode := by
  obtain ⟨providerId, courseId, studyMode, courseOptionId, required, reason, weeks, conditions⟩ :=
    answers
  cases studyMode <;> rfl

theorem validate_selectLocation (answers : Answers) (context : Context) :
    wizard.validate .selectLocation answers context = Catalog.checkAnswer
      (shape answers context) "course_option_id" "Select a location"
      "Select a location from the list"
      (fun shape id => (shape.pick answers.studyMode (some id)).isNone)
      answers.courseOptionId := by
  obtain ⟨providerId, courseId, studyMode, courseOptionId, required, reason, weeks, conditions⟩ :=
    answers
  cases courseOptionId <;> rfl

theorem passes_selectCourse (passes : wizard.Passes .selectCourse answers context) :
    ∃ found, answers.course context.catalog = some found ∧ found.available ≠ [] := by
  obtain ⟨errors, validated, valid⟩ := passes
  rw [validate_selectCourse] at validated
  exact Catalog.named_of_checkCourse (by simp) (by simp) (by simp) validated valid

theorem passes_selectStudyMode (passes : wizard.Passes .selectStudyMode answers context) :
    ∃ found mode, answers.course context.catalog = some found ∧
      answers.studyMode = some mode ∧ found.offers mode = true := by
  obtain ⟨errors, validated, valid⟩ := passes
  rw [validate_selectStudyMode] at validated
  obtain ⟨found, mode, looked, answered, offered⟩ := Catalog.fits_of_checkAnswer validated valid
  exact ⟨found, mode, course_of_shape looked, answered, by simpa using offered⟩

theorem passes_selectLocation (passes : wizard.Passes .selectLocation answers context) :
    ∃ found id option, answers.course context.catalog = some found ∧
      answers.courseOptionId = some id ∧
      found.pick answers.studyMode answers.courseOptionId = some option := by
  obtain ⟨errors, validated, valid⟩ := passes
  rw [validate_selectLocation] at validated
  obtain ⟨found, id, looked, answered, picked⟩ := Catalog.fits_of_checkAnswer validated valid
  obtain ⟨option, picked⟩ := Option.isSome_iff_exists.mp (Option.isNone_eq_false_iff.mp picked)
  exact ⟨found, id, option, course_of_shape looked, answered, answered ▸ picked⟩

theorem passes_skeReason (passes : wizard.Passes .skeReason answers context) :
    ∃ reason, answers.skeReason = some reason := by
  obtain ⟨errors, validated, valid⟩ := passes
  obtain rfl := Except.ok.inj validated
  cases answered : answers.skeReason with
  | none => simp [answered] at valid
  | some reason => exact ⟨reason, rfl⟩

theorem passes_skeLength_iff : wizard.Passes .skeLength answers context ↔
    ∃ weeks, answers.skeLength = some weeks ∧ weeks ∈ skeLengths := by
  constructor
  · rintro ⟨errors, validated, valid⟩
    obtain rfl := Except.ok.inj validated
    cases answered : answers.skeLength with
    | none => simp [answered] at valid
    | some weeks => exact ⟨weeks, rfl, by simpa [answered] using valid⟩
  · rintro ⟨weeks, answered, accepted⟩
    exact ⟨_, rfl, by simpa [answered] using accepted⟩

theorem isEmpty_validateConditions {errors : ValidationErrors} {index : Nat}
    {conditions : List String} :
    (validateConditions errors index conditions).isEmpty = true ↔
      errors.isEmpty = true ∧ ∀ condition ∈ conditions, Text.isPresent condition = true ∧
        (Text.trim condition).length ≤ greatestConditionLength := by
  induction conditions generalizing errors index with
  | nil => simp [validateConditions]
  | cons condition conditions ih =>
    rw [validateConditions, ih, List.forall_mem_cons, ← and_assoc]
    refine and_congr_left' ?_
    cases present : Text.isPresent condition with
    | false => simp
    | true => simp [and_comm]

theorem passes_conditions_iff : wizard.Passes .conditions answers context ↔
    answers.furtherConditions.length ≤ greatestConditionCount ∧
      ∀ condition ∈ answers.furtherConditions, Text.isPresent condition = true ∧
        (Text.trim condition).length ≤ greatestConditionLength := by
  have counted : (ValidationErrors.empty.addIf
      (answers.furtherConditions.length > greatestConditionCount) "further_conditions"
      "You cannot add more than 18 further conditions").isEmpty = true ↔
      answers.furtherConditions.length ≤ greatestConditionCount := by simp
  rw [← counted, ← isEmpty_validateConditions]
  constructor
  · rintro ⟨errors, validated, valid⟩
    obtain rfl := Except.ok.inj validated
    exact valid
  · intro valid
    exact ⟨_, rfl, valid⟩

theorem afterLocation_cases (found : CourseShape) (context : Context) :
    (context.skeApplies found.course = true ∧ afterLocation found context = .skeRequirements) ∨
    (context.skeApplies found.course = false ∧ afterLocation found context = .conditions) := by
  unfold afterLocation
  cases context.skeApplies found.course <;> simp

theorem ne_afterLocation {step : Step} (about : step = .selectStudyMode ∨ step = .selectLocation)
    (found : CourseShape) : step ≠ afterLocation found context := by
  rcases afterLocation_cases found context with ⟨-, lands⟩ | ⟨-, lands⟩ <;>
    rcases about with rfl | rfl <;> simp [lands]

/-- How the way comes to the pages that ask only where the course leaves a choice. -/
theorem Leads.to_choice {before step : Step} (leads : Leads answers context before step)
    (about : step = .selectStudyMode ∨ step = .selectLocation) :
    ∃ found, answers.course context.catalog = some found ∧
      ((before = .selectCourse ∧ step = .selectStudyMode ∧ found.multipleStudyModes = true) ∨
        (before = .selectCourse ∧ step = .selectLocation ∧
          found.multipleStudyModes = false ∧ found.multipleSites none = true) ∨
        (before = .selectStudyMode ∧ step = .selectLocation ∧
          found.multipleSites answers.studyMode = true)) := by
  cases leads with
  | toMode found course both => exact ⟨found, course, .inl ⟨rfl, rfl, both⟩⟩
  | toLocation found course single several =>
    exact ⟨found, course, .inr (.inl ⟨rfl, rfl, single, several⟩)⟩
  | modeToLocation found course several => exact ⟨found, course, .inr (.inr ⟨rfl, rfl, several⟩)⟩
  | past found course single one after => exact absurd after (ne_afterLocation about found)
  | modePast found course one after => exact absurd after (ne_afterLocation about found)
  | locationPast found course after => exact absurd after (ne_afterLocation about found)
  | provided | toReason | withoutSke | toLength | toConditions | toCheck => simp at about

theorem walked_selectStudyMode (walked : Walked wizard answers context .selectStudyMode) :
    ∃ found, answers.course context.catalog = some found ∧ found.available ≠ [] ∧
      found.multipleStudyModes = true := by
  rcases walked.cases with first | ⟨before, -, passes, leads⟩
  · contradiction
  · obtain ⟨found, course, ⟨rfl, -, both⟩ | ⟨-, other, -⟩ | ⟨-, other, -⟩⟩ :=
      (leads_of_next leads).to_choice (.inl rfl)
    · obtain ⟨same, course', available⟩ := passes_selectCourse passes
      obtain rfl : found = same := Option.some.inj (course.symm.trans course')
      exact ⟨found, course, available, both⟩
    · contradiction
    · contradiction

theorem walked_selectLocation (walked : Walked wizard answers context .selectLocation) :
    ∃ found, answers.course context.catalog = some found ∧ found.available ≠ [] ∧
      (found.multipleStudyModes = true → answers.studyMode.isSome = true) ∧
      found.multipleSites (found.askedMode answers.studyMode) = true := by
  rcases walked.cases with first | ⟨before, earlier, passes, leads⟩
  · contradiction
  · obtain ⟨found, course, ⟨-, other, -⟩ | ⟨rfl, -, single, several⟩ | ⟨rfl, -, several⟩⟩ :=
      (leads_of_next leads).to_choice (.inr rfl)
    · contradiction
    · obtain ⟨same, course', available⟩ := passes_selectCourse passes
      obtain rfl : found = same := Option.some.inj (course.symm.trans course')
      exact ⟨found, course, available, by simp [single],
        by simpa [CourseShape.askedMode, single] using several⟩
    · obtain ⟨same, mode, course', answered, offered⟩ := passes_selectStudyMode passes
      obtain ⟨other, course'', available, both⟩ := walked_selectStudyMode earlier
      obtain rfl : found = same := Option.some.inj (course.symm.trans course')
      obtain rfl : found = other := Option.some.inj (course.symm.trans course'')
      exact ⟨found, course, available, by simp [answered],
        by simpa [CourseShape.askedMode, both] using several⟩

/-- Past the pages about the course, all their questions are answered. -/
inductive Past (answers : Answers) (context : Context) (following : Step) : Prop where
  | mk (found : CourseShape) (course : answers.course context.catalog = some found)
      (answered : found.Answered answers.studyMode answers.courseOptionId)
      (after : following = afterLocation found context)

theorem past_of_selectCourse {following : Step} {found : CourseShape}
    (passes : wizard.Passes .selectCourse answers context)
    (course : answers.course context.catalog = some found)
    (single : found.multipleStudyModes = false) (one : found.multipleSites none = false)
    (after : following = afterLocation found context) : Past answers context following := by
  obtain ⟨same, course', available⟩ := passes_selectCourse passes
  obtain rfl : found = same := Option.some.inj (course.symm.trans course')
  refine ⟨found, course, ⟨⟨?_, ?_⟩, available, ?_⟩, after⟩
  · simp [single]
  · simp [CourseShape.askedMode, single, one]
  · simp [CourseShape.askedMode, single, one]

theorem past_of_selectStudyMode {following : Step} {found : CourseShape}
    (walked : Walked wizard answers context .selectStudyMode)
    (passes : wizard.Passes .selectStudyMode answers context)
    (course : answers.course context.catalog = some found)
    (one : found.multipleSites answers.studyMode = false)
    (after : following = afterLocation found context) : Past answers context following := by
  obtain ⟨same, mode, course', answered, offered⟩ := passes_selectStudyMode passes
  obtain ⟨other, course'', available, both⟩ := walked_selectStudyMode walked
  obtain rfl : found = same := Option.some.inj (course.symm.trans course')
  obtain rfl : found = other := Option.some.inj (course.symm.trans course'')
  refine ⟨found, course, ⟨⟨?_, ?_⟩, available, ?_⟩, after⟩
  · simp [answered]
  · simp [CourseShape.askedMode, both, one]
  · simp [CourseShape.askedMode, both, one]

theorem past_of_selectLocation {following : Step} {found : CourseShape}
    (walked : Walked wizard answers context .selectLocation)
    (passes : wizard.Passes .selectLocation answers context)
    (course : answers.course context.catalog = some found)
    (after : following = afterLocation found context) : Past answers context following := by
  obtain ⟨same, id, option, course', answered, picked⟩ := passes_selectLocation passes
  obtain ⟨other, course'', available, moded, -⟩ := walked_selectLocation walked
  obtain rfl : found = same := Option.some.inj (course.symm.trans course')
  obtain rfl : found = other := Option.some.inj (course.symm.trans course'')
  refine ⟨found, course, ⟨⟨moded, ?_⟩, available, ?_⟩, after⟩
  · simp [answered]
  · simp [picked]

structure SkeAsked (answers : Answers) (context : Context) (found : CourseShape) : Prop where
  course : answers.course context.catalog = some found
  answered : found.Answered answers.studyMode answers.courseOptionId
  applies : context.skeApplies found.course = true

theorem Past.skeAsked (past : Past answers context .skeRequirements) :
    ∃ found, SkeAsked answers context found := by
  obtain ⟨found, course, answered, after⟩ := past
  rcases afterLocation_cases found context with ⟨applies, -⟩ | ⟨-, lands⟩
  · exact ⟨found, course, answered, applies⟩
  · rw [lands] at after
    contradiction

theorem walked_skeRequirements (walked : Walked wizard answers context .skeRequirements) :
    ∃ found, SkeAsked answers context found := by
  rcases walked.cases with first | ⟨before, earlier, passes, leads⟩
  · contradiction
  · cases leads_of_next leads with
    | past found course single one after =>
      exact (past_of_selectCourse passes course single one after).skeAsked
    | modePast found course one after =>
      exact (past_of_selectStudyMode earlier passes course one after).skeAsked
    | locationPast found course after =>
      exact (past_of_selectLocation earlier passes course after).skeAsked

theorem ne_afterLocation_of_late {step : Step}
    (late : step = .skeReason ∨ step = .skeLength ∨ step = .check) (found : CourseShape) :
    step ≠ afterLocation found context := by
  rcases afterLocation_cases found context with ⟨-, lands⟩ | ⟨-, lands⟩ <;>
    rcases late with rfl | rfl | rfl <;> simp [lands]

theorem Leads.to_late {before step : Step} (leads : Leads answers context before step)
    (late : step = .skeReason ∨ step = .skeLength ∨ step = .check) :
    (before = .skeRequirements ∧ step = .skeReason ∧ answers.skeRequired = some true) ∨
      (before = .skeReason ∧ step = .skeLength) ∨ (before = .conditions ∧ step = .check) := by
  cases leads with
  | toReason required => exact .inl ⟨rfl, rfl, required⟩
  | toLength => exact .inr (.inl ⟨rfl, rfl⟩)
  | toCheck => exact .inr (.inr ⟨rfl, rfl⟩)
  | past found course single one after => exact absurd after (ne_afterLocation_of_late late found)
  | modePast found course one after => exact absurd after (ne_afterLocation_of_late late found)
  | locationPast found course after => exact absurd after (ne_afterLocation_of_late late found)
  | provided | toMode | toLocation | modeToLocation | withoutSke | toConditions => simp at late

theorem walked_skeReason (walked : Walked wizard answers context .skeReason) :
    ∃ found, SkeAsked answers context found ∧ answers.skeRequired = some true := by
  rcases walked.cases with first | ⟨before, earlier, passes, leads⟩
  · contradiction
  · rcases (leads_of_next leads).to_late (.inl rfl) with
      ⟨rfl, -, required⟩ | ⟨-, other⟩ | ⟨-, other⟩
    · obtain ⟨found, asked⟩ := walked_skeRequirements earlier
      exact ⟨found, asked, required⟩
    · contradiction
    · contradiction

theorem walked_skeLength (walked : Walked wizard answers context .skeLength) :
    ∃ found reason, SkeAsked answers context found ∧ answers.skeRequired = some true ∧
      answers.skeReason = some reason := by
  rcases walked.cases with first | ⟨before, earlier, passes, leads⟩
  · contradiction
  · rcases (leads_of_next leads).to_late (.inr (.inl rfl)) with
      ⟨-, other, -⟩ | ⟨rfl, -⟩ | ⟨-, other⟩
    · contradiction
    · obtain ⟨found, asked, required⟩ := walked_skeReason earlier
      obtain ⟨reason, given⟩ := passes_skeReason passes
      exact ⟨found, reason, asked, required, given⟩
    · contradiction

structure Settled (answers : Answers) (context : Context) (found : CourseShape) : Prop where
  course : answers.course context.catalog = some found
  answered : found.Answered answers.studyMode answers.courseOptionId
  ske : context.skeApplies found.course = true → answers.skeRequired = some true →
    ∃ reason weeks, answers.skeReason = some reason ∧ answers.skeLength = some weeks ∧
      weeks ∈ skeLengths

theorem Past.settled (past : Past answers context .conditions) :
    ∃ found, Settled answers context found := by
  obtain ⟨found, course, answered, after⟩ := past
  rcases afterLocation_cases found context with ⟨-, lands⟩ | ⟨inapplicable, -⟩
  · rw [lands] at after
    contradiction
  · exact ⟨found, course, answered, by simp [inapplicable]⟩

theorem walked_conditions (walked : Walked wizard answers context .conditions) :
    ∃ found, Settled answers context found := by
  rcases walked.cases with first | ⟨before, earlier, passes, leads⟩
  · contradiction
  · cases leads_of_next leads with
    | past found course single one after =>
      exact (past_of_selectCourse passes course single one after).settled
    | modePast found course one after =>
      exact (past_of_selectStudyMode earlier passes course one after).settled
    | locationPast found course after =>
      exact (past_of_selectLocation earlier passes course after).settled
    | withoutSke notRequired =>
      obtain ⟨found, asked⟩ := walked_skeRequirements earlier
      exact ⟨found, asked.course, asked.answered, fun _ required => absurd required notRequired⟩
    | toConditions =>
      obtain ⟨found, reason, asked, -, given⟩ := walked_skeLength earlier
      obtain ⟨weeks, timed, accepted⟩ := passes_skeLength_iff.mp passes
      exact ⟨found, asked.course, asked.answered,
        fun _ _ => ⟨reason, weeks, given, timed, accepted⟩⟩

/-- What holds of the answers wherever the check page can be visited. -/
structure Checked (answers : Answers) (context : Context) : Prop where
  provider : ∃ providerId provider, answers.providerId = some providerId ∧
    providerId ∈ context.providerIds ∧ provider ∈ context.catalog.providers ∧
    provider.id = providerId
  settled : ∃ found, Settled answers context found
  count : answers.furtherConditions.length ≤ greatestConditionCount
  conditions : ∀ condition ∈ answers.furtherConditions, Text.isPresent condition = true ∧
    (Text.trim condition).length ≤ greatestConditionLength

theorem walked_check (walked : Walked wizard answers context .check) : Checked answers context := by
  have late : Step.check ≠ Step.selectProvider := by decide
  have provider := passes_selectProvider (walked.first_passes late)
  rcases walked.cases with first | ⟨before, earlier, passes, leads⟩
  · contradiction
  · rcases (leads_of_next leads).to_late (.inr (.inr rfl)) with
      ⟨-, other, -⟩ | ⟨-, other⟩ | ⟨rfl, -⟩
    · contradiction
    · contradiction
    · obtain ⟨count, conditions⟩ := passes_conditions_iff.mp passes
      exact ⟨provider, walked_conditions earlier, count, conditions⟩

section Messages

open Wizard.ValidationErrors (opening_append_ne append_closing_ne understood_empty understood_single
  UnderstoodIn understoodIn_pure understoodIn_bind)

theorem understood_validateConditions {errors : ValidationErrors} (understood : errors.Understood)
    (index : Nat) (conditions : List String) :
    (validateConditions errors index conditions).Understood := by
  induction conditions generalizing errors index with
  | nil => exact understood
  | cons condition conditions ih =>
    unfold validateConditions
    apply ih
    split
    · exact understood.add (opening_append_ne 'E' rfl (by decide) _) _
    · exact understood.addIf _ (append_closing_ne 'r' rfl (by decide) _) _

theorem understoodIn_validate (step : Step) (answers : Answers) (context : Context) :
    UnderstoodIn (step.validate answers context) := by
  cases step with
  | selectProvider =>
    dsimp only [Step.validate, Step.validateProvider]
    split
    · exact understoodIn_pure (understood_single (by simp) _)
    · split
      · exact understoodIn_pure (understood_single (by simp) _)
      · refine understoodIn_bind fun found => ?_
        split
        · exact understoodIn_pure (understood_single (by simp) _)
        · exact understoodIn_pure understood_empty
  | selectCourse =>
    dsimp only [Step.validate, Step.validateCourse]
    split
    · refine understoodIn_bind fun found => ?_
      split
      · exact understoodIn_pure (understood_single (by simp) _)
      · split
        · exact understoodIn_pure (understood_single (by simp) _)
        · exact understoodIn_pure understood_empty
    · exact understoodIn_pure (understood_single (by simp) _)
  | selectStudyMode =>
    dsimp only [Step.validate]
    split
    · exact understoodIn_pure (understood_single (by simp) _)
    · exact understoodIn_bind fun found =>
        understoodIn_pure (understood_empty.addIf _ (by simp) _)
  | selectLocation =>
    dsimp only [Step.validate]
    split
    · exact understoodIn_pure (understood_single (by simp) _)
    · exact understoodIn_bind fun found =>
        understoodIn_pure (understood_empty.addIf _ (by simp) _)
  | skeRequirements | skeReason | skeLength =>
    exact understoodIn_pure (understood_empty.addIf _ (by simp) _)
  | conditions =>
    exact understoodIn_pure
      (understood_validateConditions (understood_empty.addIf _ (by simp) _) 0 _)
  | check => exact understoodIn_pure understood_empty

end Messages

end Admissions.Offer
