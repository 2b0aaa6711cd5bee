import Admissions.Proofs.Choosing
import Admissions.Proofs.Offer.LastPage
import Admissions.Proofs.Offer.Navigation

namespace Admissions.Offer

open Json (Value Object Codec)

section

variable {members : Object} {name : String} {value : Value} {now later : Answers} {step : Step}

theorem assigns_of_edit (plain : name ∈ ["study_mode", "course_option_id", "ske_required",
      "ske_reason", "ske_length", "further_conditions"])
    (edits : (edit name value).map (· now) = some later) :
    wizard.Assigns step now (name, value) later :=
  fun _ reads => (insert_reads plain reads value).trans edits

theorem assigns_mode (mode : StudyMode) :
    wizard.Assigns step now ("study_mode", mode.toJson)
      ({ now with studyMode := some mode } : Answers) :=
  assigns_of_edit (by decide) (by cases mode <;> rfl)

theorem assigns_site (id : UInt64) :
    wizard.Assigns step now ("course_option_id", .uint64 id)
      ({ now with courseOptionId := some id } : Answers) :=
  assigns_of_edit (by decide) (by simp [edit, Codec.optional?_uint64])

theorem assigns_required (required : Bool) :
    wizard.Assigns step now ("ske_required", .bool required)
      ({ now with skeRequired := some required } : Answers) :=
  assigns_of_edit (by decide) rfl

theorem assigns_reason (reason : SkeReason) :
    wizard.Assigns step now ("ske_reason", reason.toJson)
      ({ now with skeReason := some reason } : Answers) :=
  assigns_of_edit (by decide) (by cases reason <;> rfl)

theorem assigns_length (weeks : UInt32) :
    wizard.Assigns step now ("ske_length", .uint32 weeks)
      ({ now with skeLength := some weeks } : Answers) :=
  assigns_of_edit (by decide) (by simp [edit, Codec.optional?_uint32])

theorem assigns_conditions (conditions : List String) :
    wizard.Assigns step now ("further_conditions", .list .string conditions)
      ({ now with furtherConditions := conditions } : Answers) := by
  have codec : Codec 1 (Value.list .string) (Value.list? Value.string?) := Codec.string.list
  exact assigns_of_edit (by decide) (by simp [edit, codec.reads])

theorem reads_dropped (unanswered : now.withoutCourse = now)
    (provided : name = "provider_id" → now.courseId = none)
    (reads : Answers.ofJson? (.object members) = some now) (changed : Bool) :
    Answers.ofJson? (.object ((if !changed then []
      else if name = "provider_id" then "course_id" :: courseDependent
      else courseDependent).foldl Object.erase members)) = some now := by
  cases changed with
  | false => exact reads
  | true =>
    by_cases provider : name = "provider_id"
    · have same : { now with courseId := none } = now := by rw [← provided provider]
      have dropped := reads_courseDependent (erase_course_reads reads)
      rw [same, unanswered] at dropped
      simpa [provider] using dropped
    · have dropped := reads_courseDependent reads
      rw [unanswered] at dropped
      simpa [provider] using dropped

theorem assigns_provider (unanswered : now.withoutCourse = now) (course : now.courseId = none)
    (id : UInt64) :
    wizard.Assigns step now ("provider_id", .uint64 id)
      ({ now with providerId := some id } : Answers) := by
  intro members reads
  refine (ofJson?_insert_eq (reads_dropped unanswered (fun _ => course) reads _) _ _).trans ?_
  rw [Codec.optional?_uint64]
  rfl

theorem assigns_course (unanswered : now.withoutCourse = now) (id : UInt64) :
    wizard.Assigns step now ("course_id", .uint64 id)
      ({ now with courseId := some id } : Answers) := by
  intro members reads
  refine (ofJson?_insert_eq (reads_dropped unanswered (by simp) reads _) _ _).trans ?_
  rw [Codec.optional?_uint64]
  rfl

end

variable {context : Context} {answers now : Answers} {step following : Step}
variable {respond : Step → Object}

theorem regular : wizard.Regular where
  reads answers := by
    have codec : Codec 2 Answers.toJson Answers.ofJson? := answers_codec
    exact ⟨_, rfl, codec.reads answers⟩
  declared step := by cases step <;> rfl
  stepWritable _ := rfl
  writable _ := rfl
  forward _ _ _ := rfl

def SkeCondition.params (condition : SkeCondition) : Object :=
  [("ske_reason", condition.reason.toJson), ("ske_length", .uint32 condition.lengthWeeks)]

def wanted (providerId courseId : UInt64) (option : CourseOption) (ske : Option SkeCondition)
    (conditions : List String) : Object :=
  [("provider_id", .uint64 providerId), ("course_id", .uint64 courseId),
    ("study_mode", option.studyMode.toJson), ("course_option_id", .uint64 option.id),
    ("further_conditions", .list .string conditions), ("ske_required", .bool ske.isSome)] ++
    (ske.elim [] SkeCondition.params)

theorem wanted_distinct (providerId courseId : UInt64) (option : CourseOption)
    (ske : Option SkeCondition) (conditions : List String) :
    ((wanted providerId courseId option ske conditions).map Prod.fst).Nodup := by
  cases ske <;> simp [wanted, SkeCondition.params]

section

variable {providerId courseId : UInt64} {option : CourseOption} {ske : Option SkeCondition}
variable {conditions : List String}

theorem turn (replies : wizard.Replies (wanted providerId courseId option ske conditions) respond)
    (param : String × Value) (asked : param ∈ wanted providerId courseId option ske conditions)
    (alone : step.permitted = [param.1]) (assigns : wizard.Assigns step answers param now)
    (again : wizard.Assigns step now param now) (passes : wizard.Passes step now context)
    (leads : step.next now context = .ok (.step following)) :
    wizard.Brings respond context step answers [following] following now := by
  have takes := replies.takes_alone (wanted_distinct providerId courseId option ske conditions)
    param asked alone assigns again
  refine .of_takes regular takes passes leads (fun key accepted walked => ?_) (climbs now context)
  obtain ⟨edits, -⟩ := within_edits.of_submission accepted
  exact walked.transfer (climbs answers context) rfl fun page before => page_of_edits edits before

end

section

variable {found : CourseShape}

theorem passes_selectProvider_of {providerId : UInt64} {provider : Provider}
    (answered : answers.providerId = some providerId) (allowed : providerId ∈ context.providerIds)
    (housed : context.catalog.provider providerId = .ok (some provider)) :
    wizard.Passes .selectProvider answers context := by
  refine ⟨.empty, ?_, rfl⟩
  change Step.validateProvider answers context = .ok .empty
  have listed : context.providerIds.contains providerId = true := by simpa using allowed
  simp only [Step.validateProvider, answered, listed, housed, Wizard.Failure.ofLookup_ok, bind,
    Except.bind]
  rfl

theorem passes_selectCourse_of {providerId courseId : UInt64}
    (available : context.catalog.Available)
    (records : context.catalog.shapeOf providerId courseId = some found)
    (vacant : found.available ≠ []) (provider : answers.providerId = some providerId)
    (course : answers.courseId = some courseId) :
    wizard.Passes .selectCourse answers context := by
  refine ⟨.empty, ?_, rfl⟩
  rw [validate_selectCourse, provider, course]
  exact Catalog.checkCourse_of_named available records vacant

theorem passes_selectStudyMode_of {mode : StudyMode} (looked : shape answers context = .ok found)
    (answered : answers.studyMode = some mode) (offered : found.offers mode = true) :
    wizard.Passes .selectStudyMode answers context := by
  refine ⟨.empty, ?_, rfl⟩
  rw [validate_selectStudyMode, answered]
  exact Catalog.checkAnswer_of_fits looked (by simpa using offered)

theorem passes_selectLocation_of {id : UInt64} {option : CourseOption}
    (looked : shape answers context = .ok found) (answered : answers.courseOptionId = some id)
    (picked : found.pick answers.studyMode (some id) = some option) :
    wizard.Passes .selectLocation answers context := by
  refine ⟨.empty, ?_, rfl⟩
  rw [validate_selectLocation, answered]
  exact Catalog.checkAnswer_of_fits looked (by simp [picked])

theorem next_selectCourse (looked : shape answers context = .ok found) :
    Step.next .selectCourse answers context =
      .ok (.step (found.afterCourse .selectStudyMode .selectLocation
        (afterLocation found context))) := by
  simp only [Step.next, looked, bind, Except.bind, CourseShape.afterCourse]
  cases found.multipleStudyModes <;> cases found.multipleSites none <;> rfl

theorem next_selectStudyMode (looked : shape answers context = .ok found) :
    Step.next .selectStudyMode answers context =
      .ok (.step (found.afterMode answers.studyMode .selectLocation
        (afterLocation found context))) := by
  simp only [Step.next, looked, bind, Except.bind, CourseShape.afterMode]
  cases found.multipleSites answers.studyMode <;> rfl

theorem next_selectLocation (looked : shape answers context = .ok found) :
    Step.next .selectLocation answers context =
      .ok (.step (afterLocation found context)) := by
  simp only [Step.next, looked, bind, Except.bind]
  rfl

end

/-- An SKE course and further conditions that an offer can have. -/
structure Grantable (ske : Option SkeCondition) (conditions : List String) : Prop where
  weeks : ∀ condition ∈ ske, condition.lengthWeeks ∈ skeLengths
  few : conditions.length ≤ greatestConditionCount
  fits : ∀ condition ∈ conditions, Text.isPresent condition = true ∧
    (Text.trim condition).length ≤ greatestConditionLength

namespace Answers

def naming (providerId courseId : UInt64) (mode : Option StudyMode) (site : Option UInt64) :
    Answers :=
  ⟨some providerId, some courseId, mode, site, none, none, none, []⟩

def withSke (answers : Answers) (ske : Option SkeCondition) : Answers :=
  { answers with
    skeRequired := some ske.isSome
    skeReason := ske.map (·.reason)
    skeLength := ske.map (·.lengthWeeks) }

def settlingSke (answers : Answers) (applies : Bool) (ske : Option SkeCondition) : Answers :=
  if applies then answers.withSke ske else answers

def granting (answers : Answers) (applies : Bool) (ske : Option SkeCondition)
    (conditions : List String) : Answers :=
  { answers.settlingSke applies ske with furtherConditions := conditions }

end Answers

section

variable {providerId courseId : UInt64} {course : Course} {option : CourseOption}
variable {ske : Option SkeCondition} {conditions : List String} {found : CourseShape}

theorem brings_to_course
    (replies : wizard.Replies (wanted providerId courseId option ske conditions) respond)
    (choosable : context.catalog.Choosable providerId courseId course option)
    (allowed : providerId ∈ context.providerIds) :
    wizard.Brings respond context .selectProvider Answers.blank [.selectCourse] .selectCourse
      ({ Answers.blank with providerId := some providerId } : Answers) := by
  obtain ⟨provider, housed⟩ := choosable.housed
  exact turn replies ("provider_id", .uint64 providerId) (by simp [wanted]) rfl
    (assigns_provider rfl rfl providerId) (assigns_provider rfl rfl providerId)
    (passes_selectProvider_of rfl allowed housed) rfl

theorem brings_past_location
    (replies : wizard.Replies (wanted providerId courseId option ske conditions) respond)
    (choosable : context.catalog.Choosable providerId courseId course option)
    (records : context.catalog.shapeOf providerId courseId = some found)
    (member : option ∈ found.available) (distinct : (found.available.map (·.id)).Nodup) :
    ∃ earlier, wizard.Brings respond context .selectCourse
        ({ Answers.blank with providerId := some providerId } : Answers)
        (earlier ++ ([afterLocation found context] : List wizard.Step))
        (afterLocation found context)
        (.naming providerId courseId (found.modeOf option) (found.siteOf option) : Answers) ∧
      (Step.selectLocation ∈ earlier → found.multipleSites (found.modeOf option) = true) := by
  have looked (mode : Option StudyMode) (site : Option UInt64) :
      shape (.naming providerId courseId mode site) context = .ok found :=
    shape_of_course choosable.available records
  have apart : Step.selectLocation ≠ Step.selectStudyMode := by decide
  refine CourseShape.brings_past_course apart ?_ (fun _ => ?_) ?_
  · exact turn replies ("course_id", .uint64 courseId) (by simp [wanted]) rfl
      (assigns_course rfl courseId) (assigns_course rfl courseId)
      (passes_selectCourse_of choosable.available records (List.ne_nil_of_mem member) rfl rfl)
      (next_selectCourse (looked none none))
  · have offered : found.offers option.studyMode = true :=
      CourseShape.offers_iff.mpr ⟨option, member, rfl⟩
    have looked := looked (some option.studyMode) none
    exact turn replies ("study_mode", option.studyMode.toJson) (by simp [wanted]) rfl
      (assigns_mode option.studyMode) (assigns_mode option.studyMode)
      (passes_selectStudyMode_of looked rfl offered) (next_selectStudyMode looked)
  · have picked := CourseShape.pick_of_id member distinct
    have looked := looked (found.modeOf option) (some option.id)
    exact turn replies ("course_option_id", .uint64 option.id) (by simp [wanted]) rfl
      (assigns_site option.id) (assigns_site option.id)
      (passes_selectLocation_of looked rfl picked) (next_selectLocation looked)

theorem brings_past_ske {given : Answers}
    (replies : wizard.Replies (wanted providerId courseId option ske conditions) respond)
    (weeks : ∀ condition ∈ ske, condition.lengthWeeks ∈ skeLengths)
    (reason : given.skeReason = none) (length : given.skeLength = none) :
    ∃ shown : List wizard.Step, wizard.Brings respond context .skeRequirements given shown
      .conditions (given.withSke ske) ∧ Step.selectLocation ∉ shown := by
  have asked (following : Step)
      (leads : Step.next .skeRequirements { given with skeRequired := some ske.isSome } context =
        .ok (.step following)) :
      wizard.Brings respond context .skeRequirements given [following] following
        ({ given with skeRequired := some ske.isSome } : Answers) :=
    turn replies ("ske_required", .bool ske.isSome) (by simp [wanted]) rfl
      (assigns_required ske.isSome) (assigns_required ske.isSome) ⟨.empty, rfl, rfl⟩ leads
  cases ske with
  | none =>
    have same : given.withSke none = { given with skeRequired := some false } := by
      simp [Answers.withSke, reason, length]
    rw [same]
    have elsewhere : Step.selectLocation ∉ [Step.conditions] := by decide
    exact ⟨[.conditions], asked .conditions rfl, elsewhere⟩
  | some condition =>
    have reasoned : wizard.Brings respond context .skeReason
        ({ given with skeRequired := some true } : Answers) [.skeLength] .skeLength
        ({ given with skeRequired := some true, skeReason := some condition.reason } : Answers) :=
      turn replies ("ske_reason", condition.reason.toJson)
        (by simp [wanted, SkeCondition.params]) rfl (assigns_reason condition.reason)
        (assigns_reason condition.reason) ⟨.empty, rfl, rfl⟩ rfl
    have timed : wizard.Brings respond context .skeLength
        ({ given with skeRequired := some true, skeReason := some condition.reason } : Answers)
        [.conditions] .conditions (given.withSke (some condition)) :=
      turn replies ("ske_length", .uint32 condition.lengthWeeks)
        (by simp [wanted, SkeCondition.params]) rfl (assigns_length condition.lengthWeeks)
        (assigns_length condition.lengthWeeks)
        (passes_skeLength_iff.mpr ⟨_, rfl, weeks condition rfl⟩) rfl
    have elsewhere : Step.selectLocation ∉ [Step.skeReason, .skeLength, .conditions] := by decide
    exact ⟨[.skeReason, .skeLength, .conditions],
      ((asked .skeReason rfl).trans reasoned).trans timed, elsewhere⟩

theorem brings_to_conditions (found : CourseShape) (given : Answers)
    (replies : wizard.Replies (wanted providerId courseId option ske conditions) respond)
    (weeks : ∀ condition ∈ ske, condition.lengthWeeks ∈ skeLengths)
    (reason : given.skeReason = none) (length : given.skeLength = none) :
    ∃ shown : List wizard.Step, wizard.Brings respond context (afterLocation found context) given
      shown .conditions (given.settlingSke (context.skeApplies found.course) ske) ∧
      Step.selectLocation ∉ shown := by
  rcases afterLocation_cases found context with ⟨applies, lands⟩ | ⟨applies, lands⟩ <;>
    rw [lands, applies]
  · exact brings_past_ske replies weeks reason length
  · exact ⟨[], .refl, List.not_mem_nil⟩

theorem brings_to_check {given : Answers}
    (replies : wizard.Replies (wanted providerId courseId option ske conditions) respond)
    (grantable : Grantable ske conditions) :
    wizard.Brings respond context .conditions given [.check] .check
      ({ given with furtherConditions := conditions } : Answers) :=
  turn replies ("further_conditions", .list .string conditions) (by simp [wanted]) rfl
    (assigns_conditions conditions) (assigns_conditions conditions)
    (passes_conditions_iff.mpr ⟨grantable.few, grantable.fits⟩) rfl

theorem shape_granting (given : Answers) (applies : Bool) (ske : Option SkeCondition)
    (conditions : List String) (context : Context) :
    shape (given.granting applies ske conditions) context = shape given context := by
  cases applies <;> rfl

theorem skeCondition_granting (given : Answers) :
    skeCondition found (given.granting (context.skeApplies found.course) ske conditions) context =
      .ok (if context.skeApplies found.course then ske else none) := by
  unfold skeCondition
  cases context.skeApplies found.course with
  | false => rfl
  | true => cases ske <;> rfl

theorem pick_granting (given : Answers) (applies : Bool) (ske : Option SkeCondition)
    (conditions : List String) (found : CourseShape) :
    found.pick (given.granting applies ske conditions).studyMode
      (given.granting applies ske conditions).courseOptionId =
      found.pick given.studyMode given.courseOptionId := by
  cases applies <;> rfl

theorem materialize_granting {given : Answers} {picked : CourseOption} (ske : Option SkeCondition)
    (conditions : List String) (looked : shape given context = .ok found)
    (picks : found.pick given.studyMode given.courseOptionId = some picked) :
    materialize (given.granting (context.skeApplies found.course) ske conditions) context =
      .ok ⟨context.applicationChoiceId, found.course.providerId, found.course.id, picked.id,
        if context.skeApplies found.course then ske else none, conditions.map Text.trim⟩ := by
  simp only [materialize, shape_granting, looked, pick_granting, picks, skeCondition_granting,
    bind, Except.bind]
  rfl

/-- The offer is of the option, or of one like it where the location is not asked for. -/
theorem completes_with_option {store : Wizard.Store} (working : store.Working)
    (key : Wizard.StoreKey)
    (replies : wizard.Replies (wanted providerId courseId option ske conditions) respond)
    (choosable : context.catalog.Choosable providerId courseId course option)
    (allowed : providerId ∈ context.providerIds) (grantable : Grantable ske conditions) :
    ∃ (earlier : List wizard.Step) (picked : CourseOption),
      wizard.Completes respond store key context (earlier ++ [.check])
        (⟨context.applicationChoiceId, providerId, courseId, picked.id,
          if context.skeApplies course then ske else none, conditions.map Text.trim⟩ : Draft) ∧
      context.catalog.Alike courseId option picked ∧
      (Step.selectLocation ∈ earlier → picked = option) := by
  obtain ⟨found, records, rfl, member, distinct⟩ := choosable.records
  obtain ⟨picked, listed, picks, sameMode, sameSite, own⟩ :=
    CourseShape.pick_of_asked member distinct
  obtain ⟨earlier, toSke, asked⟩ :=
    brings_past_location replies choosable records member distinct
  obtain ⟨shown, toConditions, elsewhere⟩ := brings_to_conditions found
    (.naming providerId courseId (found.modeOf option) (found.siteOf option)) replies
    grantable.weeks rfl rfl
  obtain ⟨-, ofProvider, number, -⟩ := Catalog.shapeOf_eq_some records
  have looked : shape (.naming providerId courseId (found.modeOf option)
      (found.siteOf option)) context = .ok found :=
    shape_of_course choosable.available records
  have made := materialize_granting ske conditions looked picks
  rw [ofProvider, number] at made
  have brings := (((brings_to_course replies choosable allowed).trans toSke).trans
    toConditions).trans (brings_to_check replies grantable)
  refine ⟨([.selectProvider, .selectCourse] : List wizard.Step) ++
    (earlier ++ ([afterLocation found context] : List wizard.Step)) ++ shown, picked,
    brings.completes working key rfl rfl made,
    Catalog.alike_of_pick records listed sameMode sameSite, fun among => own (asked ?_)⟩
  have first : Step.selectLocation ∉ [Step.selectProvider, .selectCourse] := by decide
  have beyond : Step.selectLocation ≠ afterLocation found context :=
    ne_afterLocation (.inr rfl) found
  rcases List.mem_append.mp among with among | among
  · rcases List.mem_append.mp ((List.mem_append.mp among).resolve_left first) with among | among
    · exact among
    · exact absurd (List.mem_singleton.mp among) beyond
  · exact absurd among elsewhere

end

end Admissions.Offer
