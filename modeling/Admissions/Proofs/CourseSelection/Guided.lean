import Admissions.Proofs.Choosing
import Admissions.Proofs.CourseSelection.LastPage
import Admissions.Proofs.CourseSelection.Navigation
import Admissions.Proofs.Wizard.Guided

namespace Admissions.CourseSelection

open Json (Value Object Codec)

section

variable {members : Object} {name : String} {value : Value} {now later : Answers} {step : Step}

theorem assigns_of_edit (plain : name ∈ ["answer", "study_mode", "course_option_id"])
    (edits : (edit name value).map (· now) = some later) :
    wizard.Assigns step now (name, value) later :=
  fun _ reads => (insert_reads plain reads value).trans edits

theorem assigns_answer (known : CourseKnown) :
    wizard.Assigns step now ("answer", known.toJson)
      ({ now with answer := some known } : Answers) :=
  assigns_of_edit (by decide) (by cases known <;> rfl)

theorem assigns_mode (mode : StudyMode) :
    wizard.Assigns step now ("study_mode", mode.toJson)
      ({ now with studyMode := some mode } : Answers) :=
  assigns_of_edit (by decide) (by cases mode <;> rfl)

theorem assigns_site (id : UInt64) :
    wizard.Assigns step now ("course_option_id", .uint64 id)
      ({ now with courseOptionId := some id } : Answers) :=
  assigns_of_edit (by decide) (by simp [edit, Codec.optional?_uint64])

theorem reads_dropped (mode : now.studyMode = none) (site : now.courseOptionId = none)
    (reads : Answers.ofJson? (.object members) = some now) (changed : Bool) :
    Answers.ofJson? (.object (if changed then
      (members.erase "study_mode").erase "course_option_id" else members)) = some now := by
  cases changed with
  | false => exact reads
  | true =>
    have same : { now with studyMode := none, courseOptionId := none } = now := by
      rw [← mode, ← site]
    exact (erase_reads reads).trans (congrArg some same)

theorem assigns_provider (mode : now.studyMode = none) (site : now.courseOptionId = none)
    (id : UInt64) :
    wizard.Assigns step now ("provider_id", .uint64 id)
      ({ now with providerId := some id } : Answers) := by
  intro members reads
  refine (ofJson?_insert_eq (reads_dropped mode site reads _) _ _).trans ?_
  rw [Codec.optional?_uint64]
  rfl

theorem assigns_course (mode : now.studyMode = none) (site : now.courseOptionId = none)
    (id : UInt64) :
    wizard.Assigns step now ("course_id", .uint64 id)
      ({ now with courseId := some id } : Answers) := by
  intro members reads
  refine (ofJson?_insert_eq (reads_dropped mode site reads _) _ _).trans ?_
  rw [Codec.optional?_uint64]
  rfl

end

variable {context : Context} {answers now : Answers} {step following : Step}
variable {respond : Step → Object}

theorem regular : wizard.Regular where
  reads answers := by
    have codec : Codec 1 Answers.toJson Answers.ofJson? := answers_codec
    exact ⟨_, rfl, codec.reads answers⟩
  declared step := by cases step <;> rfl
  stepWritable _ := rfl
  writable _ := rfl
  forward _ _ _ := rfl

theorem turn (takes : wizard.Takes step answers (respond step) now)
    (passes : wizard.Passes step now context)
    (leads : step.next now context = .ok (.step following))
    (provided : step = .whichCourse → wizard.Passes .providerSelection now context) :
    wizard.Brings respond context step answers [following] following now := by
  refine .of_takes regular takes passes leads (fun key accepted walked => ?_) (climbs now context)
  obtain ⟨edits, -⟩ := within_edits.of_submission accepted
  exact walked_of_edits walked edits provided

section

variable {found : CourseShape}

theorem passes_whichCourse_of {providerId courseId : UInt64}
    (available : context.catalog.Available)
    (records : context.catalog.shapeOf providerId courseId = some found)
    (vacant : found.available ≠ []) (provider : answers.providerId = some providerId)
    (course : answers.courseId = some courseId) :
    wizard.Passes .whichCourse answers context := by
  refine ⟨.empty, ?_, rfl⟩
  rw [validate_whichCourse, provider, course]
  exact Catalog.checkCourse_of_named available records vacant

theorem passes_courseStudyMode_of {mode : StudyMode} (looked : shape answers context = .ok found)
    (answered : answers.studyMode = some mode) (offered : found.offers mode = true) :
    wizard.Passes .courseStudyMode answers context := by
  refine ⟨.empty, ?_, rfl⟩
  rw [validate_courseStudyMode, answered]
  exact Catalog.checkAnswer_of_fits looked (by simpa using offered)

theorem passes_courseSite_of {id : UInt64} {option : CourseOption}
    (looked : shape answers context = .ok found) (answered : answers.courseOptionId = some id)
    (picked : found.pick answers.studyMode answers.courseOptionId = some option) :
    wizard.Passes .courseSite answers context := by
  refine ⟨.empty, ?_, rfl⟩
  rw [validate_courseSite, answered]
  exact Catalog.checkAnswer_of_fits looked (by simp [chosenOption, picked])

theorem next_whichCourse (looked : shape answers context = .ok found) :
    Step.next .whichCourse answers context =
      .ok (.step (found.afterCourse .courseStudyMode .courseSite .courseReview)) := by
  simp only [Step.next, looked, bind, Except.bind, CourseShape.afterCourse]
  cases found.multipleStudyModes <;> cases found.multipleSites none <;> rfl

theorem next_courseStudyMode (looked : shape answers context = .ok found) :
    Step.next .courseStudyMode answers context =
      .ok (.step (found.afterMode answers.studyMode .courseSite .courseReview)) := by
  simp only [Step.next, looked, bind, Except.bind, CourseShape.afterMode]
  cases found.multipleSites answers.studyMode <;> rfl

end

def wanted (providerId courseId : UInt64) (option : CourseOption) : Object :=
  [("answer", CourseKnown.yes.toJson), ("provider_id", .uint64 providerId),
    ("course_id", .uint64 courseId), ("study_mode", option.studyMode.toJson),
    ("course_option_id", .uint64 option.id)]

theorem wanted_distinct (providerId courseId : UInt64) (option : CourseOption) :
    ((wanted providerId courseId option).map Prod.fst).Nodup := by
  simp [wanted]

def Answers.naming (providerId courseId : UInt64) (mode : Option StudyMode)
    (site : Option UInt64) : Answers :=
  ⟨some .yes, some providerId, some courseId, mode, site⟩

section

variable {providerId courseId : UInt64} {course : Course} {option : CourseOption}
variable {found : CourseShape}

/-- With the course the provider may be named again. -/
theorem takes_course
    (replies : wizard.Replies (wanted providerId courseId option) respond) :
    wizard.Takes .whichCourse (⟨some .yes, some providerId, none, none, none⟩ : Answers)
      (respond .whichCourse) (.naming providerId courseId none none : Answers) := by
  refine replies.takes ("course_id", .uint64 courseId) (by simp [wanted]) rfl
    (assigns_course rfl rfl courseId) fun other among allowed => ?_
  have named : other = ("provider_id", .uint64 providerId) ∨
      other = ("course_id", .uint64 courseId) := by
    simp only [wanted, List.mem_cons, List.not_mem_nil, or_false] at among
    rcases among with rfl | rfl | rfl | rfl | rfl
    · contradiction
    · exact .inl rfl
    · exact .inr rfl
    · contradiction
    · contradiction
  rcases named with rfl | rfl
  · exact ⟨.inr (assigns_provider rfl rfl providerId), assigns_provider rfl rfl providerId⟩
  · exact ⟨.inl rfl, assigns_course rfl rfl courseId⟩

theorem brings_to_course (replies : wizard.Replies (wanted providerId courseId option) respond)
    (choosable : context.catalog.Choosable providerId courseId course option) :
    wizard.Brings respond context .doYouKnowTheCourse Answers.blank
      [.providerSelection, .whichCourse] .whichCourse
      (⟨some .yes, some providerId, none, none, none⟩ : Answers) := by
  obtain ⟨provider, housed⟩ := choosable.housed
  have distinct := wanted_distinct providerId courseId option
  have known : wizard.Brings respond context .doYouKnowTheCourse Answers.blank
      [.providerSelection] .providerSelection (⟨some .yes, none, none, none, none⟩ : Answers) :=
    turn (replies.takes_alone distinct ("answer", CourseKnown.yes.toJson) (by simp [wanted]) rfl
      (assigns_answer .yes) (assigns_answer .yes))
      (passes_doYouKnowTheCourse rfl) (next_doYouKnowTheCourse context rfl) (by simp)
  have named : wizard.Brings respond context .providerSelection
      (⟨some .yes, none, none, none, none⟩ : Answers) [.whichCourse] .whichCourse
      (⟨some .yes, some providerId, none, none, none⟩ : Answers) :=
    turn (replies.takes_alone distinct ("provider_id", .uint64 providerId) (by simp [wanted]) rfl
      (assigns_provider rfl rfl providerId) (assigns_provider rfl rfl providerId))
      (passes_providerSelection_iff.mpr ⟨providerId, provider, rfl, housed⟩) rfl (by simp)
  exact known.trans named

theorem brings_to_review (replies : wizard.Replies (wanted providerId courseId option) respond)
    (choosable : context.catalog.Choosable providerId courseId course option)
    (records : context.catalog.shapeOf providerId courseId = some found)
    (member : option ∈ found.available) (distinct : (found.available.map (·.id)).Nodup) :
    ∃ earlier, wizard.Brings respond context .whichCourse
        (⟨some .yes, some providerId, none, none, none⟩ : Answers)
        (earlier ++ [.courseReview]) .courseReview
        (.naming providerId courseId (found.modeOf option) (found.siteOf option) : Answers) ∧
      (Step.courseSite ∈ earlier → found.multipleSites (found.modeOf option) = true) := by
  have looked (mode : Option StudyMode) (site : Option UInt64) :
      shape (.naming providerId courseId mode site) context = .ok found :=
    shape_of_course choosable.available records
  have named := wanted_distinct providerId courseId option
  obtain ⟨provider, housed⟩ := choosable.housed
  have apart : Step.courseSite ≠ Step.courseStudyMode := by decide
  refine CourseShape.brings_past_course apart ?_ (fun _ => ?_) ?_
  · exact turn (takes_course replies)
      (passes_whichCourse_of choosable.available records (List.ne_nil_of_mem member) rfl rfl)
      (next_whichCourse (looked none none)) fun _ =>
        passes_providerSelection_iff.mpr ⟨providerId, provider, rfl, housed⟩
  · have offered : found.offers option.studyMode = true :=
      CourseShape.offers_iff.mpr ⟨option, member, rfl⟩
    have looked := looked (some option.studyMode) none
    exact turn (replies.takes_alone named ("study_mode", option.studyMode.toJson)
      (by simp [wanted]) rfl (assigns_mode option.studyMode) (assigns_mode option.studyMode))
      (passes_courseStudyMode_of looked rfl offered) (next_courseStudyMode looked) (by simp)
  · have picked := CourseShape.pick_of_id member distinct
    have looked := looked (found.modeOf option) (some option.id)
    exact turn (replies.takes_alone named ("course_option_id", .uint64 option.id)
      (by simp [wanted]) rfl (assigns_site option.id) (assigns_site option.id))
      (passes_courseSite_of looked rfl picked) rfl (by simp)

/-- The choice is of the option, or of one like it where the site is not asked for. -/
theorem completes_with_option {store : Wizard.Store} (working : store.Working)
    (key : Wizard.StoreKey)
    (replies : wizard.Replies (wanted providerId courseId option) respond)
    (choosable : context.catalog.Choosable providerId courseId course option) :
    ∃ (earlier : List wizard.Step) (picked : CourseOption),
      wizard.Completes respond store key context (earlier ++ [.courseReview])
        (⟨context.applicationFormId, providerId, courseId, picked.id,
          course.recruitmentCycleYear⟩ : NewApplicationChoice) ∧
      context.catalog.Alike courseId option picked ∧
      (Step.courseSite ∈ earlier → picked = option) := by
  obtain ⟨found, records, rfl, member, distinct⟩ := choosable.records
  obtain ⟨picked, listed, picks, sameMode, sameSite, own⟩ :=
    CourseShape.pick_of_asked member distinct
  obtain ⟨earlier, toReview, asked⟩ :=
    brings_to_review replies choosable records member distinct
  obtain ⟨-, ofProvider, number, -⟩ := Catalog.shapeOf_eq_some records
  have named : (Answers.naming providerId courseId (found.modeOf option)
      (found.siteOf option)).course context.catalog = some found := records
  have made := materialize_of_pick choosable.available named picks
  rw [ofProvider, number] at made
  have brings := (brings_to_course replies choosable).trans toReview
  have before : Step.courseSite ∉ [Step.doYouKnowTheCourse, .providerSelection, .whichCourse] := by
    decide
  exact ⟨([.doYouKnowTheCourse, .providerSelection, .whichCourse] : List wizard.Step) ++ earlier,
    picked, brings.completes working key rfl rfl made,
    Catalog.alike_of_pick records listed sameMode sameSite,
    fun among => own (asked ((List.mem_append.mp among).resolve_left before))⟩

end

end Admissions.CourseSelection
