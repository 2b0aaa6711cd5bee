import Admissions.Proofs.Offer.Edits
import Admissions.Proofs.Offer.Way
import Admissions.Proofs.Text.Trim
import Admissions.Proofs.Wizard.Desk
import Mathlib.Control.Monad.Basic

namespace Admissions.Offer

open Wizard (Desk Handle Kept Move Session Walked held_of_run)

variable {base context : Context} {step : Step} {answers : Answers}

/-- The records, the features and the providers are those of one context; look-ups may fail at any
    time. -/
structure Fits (base context : Context) : Prop where
  catalog : base.catalog.Agrees context.catalog
  features : context.features = base.features
  providerIds : context.providerIds = base.providerIds

structure Sound (base : Context) (step : Step) (answers : Answers) : Prop where
  modeOffered : ∀ found mode, answers.course base.catalog = some found →
    answers.studyMode = some mode → found.offers mode = true
  optionListed : ∀ found id, answers.course base.catalog = some found →
    answers.courseOptionId = some id → ∃ option ∈ found.available, option.id = id
  checked : step = .check → Checked answers base

theorem Fits.course (fits : Fits base context) (answers : Answers) :
    answers.course context.catalog = answers.course base.catalog :=
  fits.catalog.named answers.providerId answers.courseId

theorem Fits.skeApplies (fits : Fits base context) (course : Course) :
    context.skeApplies course = base.skeApplies course := by
  unfold Context.skeApplies
  rw [fits.features]

theorem Fits.checked (fits : Fits base context) (checked : Checked answers context) :
    Checked answers base := by
  obtain ⟨⟨providerId, provider, given, allowed, listed, number⟩, ⟨found, settled⟩, count, texts⟩ :=
    checked
  refine ⟨⟨providerId, provider, given, fits.providerIds ▸ allowed, ?_, number⟩,
    ⟨found, ?_, settled.answered, ?_⟩, count, texts⟩
  · rw [← fits.catalog.providers]
    exact listed
  · rw [← fits.course]
    exact settled.course
  · rw [← fits.skeApplies]
    exact settled.ske

theorem Sound.visited {requested : Step} (sound : Sound base step answers)
    (fits : Fits base context) (walked : Walked wizard answers context requested) :
    Sound base requested answers where
  modeOffered := sound.modeOffered
  optionListed := sound.optionListed
  checked := by
    rintro rfl
    exact fits.checked (walked_check walked)

theorem sound_of_dropped (mode : answers.studyMode = none) (site : answers.courseOptionId = none)
    (early : step ≠ .check) : Sound base step answers where
  modeOffered := by simp [mode]
  optionListed := by simp [site]
  checked := fun late => absurd late early

theorem Sound.edited {now : Answers} (sound : Sound base step answers)
    (fits : Fits base context) (edits : step.Edits answers now)
    (passes : wizard.Passes step now context) : Sound base step now := by
  cases step with
  | selectProvider =>
    rcases edits with rfl | ⟨providerId, rfl⟩
    · exact sound
    · exact sound_of_dropped rfl rfl (by decide)
  | selectCourse =>
    rcases edits with rfl | ⟨courseId, rfl⟩
    · exact sound
    · exact sound_of_dropped rfl rfl (by decide)
  | selectStudyMode =>
    obtain ⟨found, mode, course, answered, offered⟩ := passes_selectStudyMode passes
    rw [fits.course] at course
    obtain ⟨studyMode, rfl⟩ := edits
    refine ⟨fun same given course' answered' => ?_, sound.optionListed, by simp⟩
    obtain rfl : found = same := Option.some.inj (course.symm.trans course')
    obtain rfl : mode = given := Option.some.inj (answered.symm.trans answered')
    exact offered
  | selectLocation =>
    obtain ⟨found, id, option, course, answered, picked⟩ := passes_selectLocation passes
    rw [fits.course] at course
    obtain ⟨courseOptionId, rfl⟩ := edits
    refine ⟨sound.modeOffered, fun same given course' answered' => ?_, by simp⟩
    obtain rfl : found = same := Option.some.inj (course.symm.trans course')
    obtain ⟨member, numbered⟩ := CourseShape.pick_eq_some picked
    exact ⟨option, (CourseShape.mem_optionsFor.mp member).1, numbered given answered'⟩
  | skeRequirements =>
    obtain ⟨skeRequired, rfl⟩ := edits
    exact ⟨sound.modeOffered, sound.optionListed, by simp⟩
  | skeReason =>
    obtain ⟨skeReason, rfl⟩ := edits
    exact ⟨sound.modeOffered, sound.optionListed, by simp⟩
  | skeLength =>
    obtain ⟨skeLength, rfl⟩ := edits
    exact ⟨sound.modeOffered, sound.optionListed, by simp⟩
  | conditions =>
    obtain ⟨furtherConditions, rfl⟩ := edits
    exact ⟨sound.modeOffered, sound.optionListed, by simp⟩
  | check =>
    obtain rfl := edits
    exact sound

theorem sound_kept (base : Context) : Kept wizard (Fits base) (Sound base) where
  fresh context fits := by
    have early : Step.selectProvider ≠ .check := by decide
    exact sound_of_dropped rfl rfl early
  visited step answers context requested fits sound walked := sound.visited fits walked
  advanced handle params answers target fits sound submitted := by
    obtain ⟨edits, passes⟩ := within_edits.of_submission submitted
    exact sound.edited fits edits passes

theorem eq_check_of_completed (completed : step.completed = true) : step = .check :=
  of_decide_eq_true completed

theorem skeCondition_eq_ok {found : CourseShape} {condition : Option SkeCondition}
    (made : skeCondition found answers context = .ok condition) :
    (condition.isSome = true ↔
      context.skeApplies found.course = true ∧ answers.skeRequired = some true) ∧
    ∀ given, condition = some given → answers.skeLength = some given.lengthWeeks := by
  unfold skeCondition at made
  split at made
  · rename_i asked
    have both : context.skeApplies found.course = true ∧ answers.skeRequired = some true := by
      simpa using asked
    split at made
    · rename_i reason weeks reasoned timed
      obtain rfl := Except.ok.inj made
      refine ⟨by simp [both], fun given same => ?_⟩
      obtain rfl := Option.some.inj same
      exact timed
    · simp [throw, throwThe, MonadExceptOf.throw] at made
  · rename_i unasked
    obtain rfl := Except.ok.inj made
    refine ⟨?_, by simp⟩
    have neither : ¬(context.skeApplies found.course = true ∧
        answers.skeRequired = some true) := by
      simpa using unasked
    simp only [Option.isSome_none, Bool.false_eq_true, false_iff]
    exact neither

theorem materialize_eq_ok {draft : Draft} (made : materialize answers context = .ok draft) :
    ∃ found option condition, answers.course context.catalog = some found ∧
      found.pick answers.studyMode answers.courseOptionId = some option ∧
      skeCondition found answers context = .ok condition ∧
      draft = ⟨context.applicationChoiceId, found.course.providerId, found.course.id, option.id,
        condition, answers.furtherConditions.map Text.trim⟩ := by
  unfold materialize at made
  obtain ⟨found, looked, made⟩ := exists_of_bind_eq_ok made
  cases picked : found.pick answers.studyMode answers.courseOptionId with
  | none => simp [picked, throw, throwThe, MonadExceptOf.throw] at made
  | some option =>
    simp only [picked] at made
    obtain ⟨condition, conditioned, made⟩ := exists_of_bind_eq_ok made
    exact ⟨found, option, condition, course_of_shape looked, picked, conditioned,
      (Except.ok.inj made).symm⟩

/-- The draft is for a course of an allowed provider in the records and for an option that was asked
    for wherever the course leaves a choice, with an SKE condition where one is due and with the
    further conditions as answered, trimmed. -/
structure Legal (base : Context) (answers : Answers) (draft : Draft) : Prop where
  allowed : draft.providerId ∈ base.providerIds
  listed : ∃ provider ∈ base.catalog.providers, provider.id = draft.providerId
  course : ∃ course option, base.catalog.courses.find? (·.id == draft.courseId) = some course ∧
    course.providerId = draft.providerId ∧ option.id = draft.courseOptionId ∧
    base.catalog.Settles answers.studyMode answers.courseOptionId course option ∧
    (draft.skeCondition.isSome = true ↔
      base.skeApplies course = true ∧ answers.skeRequired = some true)
  skeLength : ∀ condition, draft.skeCondition = some condition →
    condition.lengthWeeks ∈ skeLengths
  trimmed : draft.furtherConditions = answers.furtherConditions.map Text.trim
  count : draft.furtherConditions.length ≤ 18
  conditions : ∀ condition ∈ draft.furtherConditions,
    Text.Trimmed condition ∧ condition ≠ "" ∧ condition.length ≤ 2000

/-- Whatever the handles on a store do in whatever order, a draft that a save creates is a legal
    offer. -/
theorem created_draft_legal (base : Context) {moves : List (Move wizard)}
    (fits : ∀ move ∈ moves, move.Admits (Fits base)) {handle : Handle wizard}
    (member : handle ∈ (Desk.run moves).handles) {draft : Draft}
    (saved : (Session.save ⟨(Desk.run moves).store, handle⟩).1 = .ok (.created draft)) :
    Legal base handle.answers draft := by
  obtain ⟨surroundings, sound⟩ := held_of_run (sound_kept base) wizard_faithful fits member
  have finishes : Session.finished handle = .ok (some draft) :=
    Session.finished_of_created _ saved
  obtain ⟨-, completes, made⟩ := Session.finished_eq_some finishes
  have onCheck := eq_check_of_completed (Except.ok.inj completes)
  obtain ⟨⟨providerId, provider, given, allowed, listed, number⟩, ⟨found, settled⟩, count, texts⟩ :=
    sound.checked onCheck
  obtain ⟨same, option, condition, looked, picked, conditioned, rfl⟩ := materialize_eq_ok made
  have course := settled.course
  obtain rfl : same = found := by
    exact Option.some.inj (looked.symm.trans ((surroundings.course _).trans course))
  obtain ⟨otherId, courseId, given', -, records⟩ := Catalog.named_eq_some course
  have settles := Catalog.settles_of_pick records picked settled.answered.toAsked
  obtain ⟨known, rfl, rfl, -⟩ := Catalog.shapeOf_eq_some records
  obtain rfl : providerId = same.course.providerId := Option.some.inj (given.symm.trans given')
  obtain ⟨due, weeks⟩ := skeCondition_eq_ok conditioned
  rw [surroundings.skeApplies] at due
  refine ⟨allowed, ⟨provider, listed, number⟩, ⟨same.course, option, known, rfl, rfl, settles, due⟩,
    fun given same => ?_, rfl, ?_, fun text member => ?_⟩
  · obtain ⟨applies, required⟩ := due.mp (by rw [show condition = some given from same]; rfl)
    obtain ⟨reason, length, -, timed, accepted⟩ := settled.ske applies required
    have taken := weeks given same
    rw [timed] at taken
    rw [← Option.some.inj taken]
    exact accepted
  · rw [List.length_map]
    exact count
  · obtain ⟨original, answered, rfl⟩ := List.mem_map.mp member
    obtain ⟨present, short⟩ := texts original answered
    exact ⟨Text.trimmed_trim original, Text.trim_ne_empty present, short⟩

instance : DecidableEq wizard.Output := inferInstanceAs (DecidableEq Draft)

instance : DecidableEq wizard.Violation := inferInstanceAs (DecidableEq Violation)

def skeCourse : Context where
  catalog := {
    providers := [⟨1, "1N1", "Hill College"⟩]
    courses := [⟨6, 1, "X100", "Mathematics", .secondary, ["G1"], 2024, Calendar.Date.first, true⟩]
    options := [⟨60, 6, 100, "Main Site", .fullTime, .vacancies, true⟩,
      ⟨61, 6, 101, "Annexe", .fullTime, .vacancies, true⟩,
      ⟨62, 6, 100, "Main Site", .partTime, .vacancies, true⟩]
    outage := .none }
  features := ⟨true, false⟩
  applicationChoiceId := 5
  providerIds := [1]

def interleaved : List (Move wizard) :=
  [.openAnother ⟨"k"⟩ skeCourse .start, .act 0 (.advance [("provider_id", .nat 1)]),
    .act 0 (.visit Step.selectCourse), .act 0 (.advance [("course_id", .nat 6)]),
    .openAnother ⟨"other"⟩ skeCourse .start, .act 0 (.visit Step.selectStudyMode),
    .act 0 (.advance [("study_mode", .string "full_time")]),
    .act 1 (.advance [("provider_id", .nat 1)]), .act 0 (.visit Step.selectLocation),
    .act 0 (.advance [("course_option_id", .nat 61)]), .act 0 (.visit Step.skeRequirements),
    .act 0 (.advance [("ske_required", .bool true)]), .act 0 (.visit Step.skeReason),
    .act 0 (.advance [("ske_reason", .string "outdated_degree")]),
    .act 0 (.visit Step.skeLength), .act 0 (.advance [("ske_length", .nat 12)]),
    .act 0 (.visit Step.conditions),
    .act 0 (.advance [("further_conditions", .array [.string " Pass an interview "])]),
    .act 0 (.visit Step.check)]

def interviewDraft : Draft := ⟨5, 1, 6, 61, some ⟨.outdatedDegree, 12⟩, ["Pass an interview"]⟩

theorem created_draft_legal_interleaved :
    (∀ move ∈ interleaved, move.Admits (Fits skeCourse)) ∧
    ∃ handle ∈ (Desk.run interleaved).handles,
      (Session.save ⟨(Desk.run interleaved).store, handle⟩).1 = .ok (.created interviewDraft) ∧
      Legal skeCourse handle.answers interviewDraft := by
  have fits : ∀ move ∈ interleaved, move.Admits (Fits skeCourse) := by
    have itself : Fits skeCourse skeCourse := ⟨⟨rfl, rfl, rfl⟩, rfl, rfl⟩
    simp [interleaved, Move.Admits, Wizard.Event.Admits, itself]
  have created : ∃ handle ∈ (Desk.run interleaved).handles,
      (Session.save ⟨(Desk.run interleaved).store, handle⟩).1 =
        .ok (.created interviewDraft) := by decide +kernel
  obtain ⟨handle, member, saved⟩ := created
  exact ⟨fits, handle, member, saved, created_draft_legal skeCourse fits member saved⟩

end Admissions.Offer
