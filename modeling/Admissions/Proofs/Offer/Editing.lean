import Admissions.Proofs.Offer.Encoding
import Admissions.Proofs.Wizard.Editing

namespace Admissions.Offer

open Json (Value Object Codec)
open Wizard (Governing)

variable {members : Object} {name : String} {value : Value} {now : Answers}

namespace Answers

def withoutCourse (answers : Answers) : Answers :=
  { Answers.blank with
    providerId := answers.providerId
    courseId := answers.courseId
    furtherConditions := answers.furtherConditions }

def provider : Governing Answers (Option UInt64) where
  value := Answers.providerId
  replace answers providerId := { answers.withoutCourse with providerId, courseId := none }
  value_replace _ _ := rfl

def chosenCourse : Governing Answers (Option UInt64) where
  value := Answers.courseId
  replace answers courseId := { answers.withoutCourse with courseId }
  value_replace _ _ := rfl

end Answers

def edit (name : String) (value : Value) : Option (Answers → Answers) :=
  match name with
  | "provider_id" =>
    (Value.optional? Value.uint64? value).map fun providerId answers =>
      Answers.provider.choose answers providerId
  | "course_id" =>
    (Value.optional? Value.uint64? value).map fun courseId answers =>
      Answers.chosenCourse.choose answers courseId
  | "study_mode" =>
    (Value.optional? StudyMode.ofJson? value).map fun studyMode answers => { answers with studyMode }
  | "course_option_id" =>
    (Value.optional? Value.uint64? value).map fun courseOptionId answers =>
      { answers with courseOptionId }
  | "ske_required" =>
    (Value.optional? Value.bool? value).map fun skeRequired answers => { answers with skeRequired }
  | "ske_reason" =>
    (Value.optional? SkeReason.ofJson? value).map fun skeReason answers => { answers with skeReason }
  | "ske_length" =>
    (Value.optional? Value.uint32? value).map fun skeLength answers => { answers with skeLength }
  | "further_conditions" =>
    (Value.list? Value.string? value).map fun furtherConditions answers =>
      { answers with furtherConditions }
  | _ => some id

def decodes (name : String) (value : Value) : Bool :=
  match name with
  | "provider_id" => (Value.optional? Value.uint64? value).isSome
  | "course_id" => (Value.optional? Value.uint64? value).isSome
  | "study_mode" => (Value.optional? StudyMode.ofJson? value).isSome
  | "course_option_id" => (Value.optional? Value.uint64? value).isSome
  | "ske_required" => (Value.optional? Value.bool? value).isSome
  | "ske_reason" => (Value.optional? SkeReason.ofJson? value).isSome
  | "ske_length" => (Value.optional? Value.uint32? value).isSome
  | "further_conditions" => (Value.list? Value.string? value).isSome
  | _ => true

theorem isSome_edit (name : String) (value : Value) :
    (edit name value).isSome = decodes name value := by
  unfold edit decodes
  split <;> simp

theorem reads_courseDependent (reads : Answers.ofJson? (.object members) = some now) :
    Answers.ofJson? (.object (courseDependent.foldl Object.erase members)) =
      some now.withoutCourse := by
  obtain ⟨provider, course, mode, site, required, reason, weeks, conditions⟩ :=
    ofJson?_object.mp reads
  refine ofJson?_object.mpr ⟨?_, ?_, ?_, ?_, ?_, ?_, ?_, ?_⟩
  · rw [Object.read_foldl_erase_of_notMem (by decide), provider]
    rfl
  · rw [Object.read_foldl_erase_of_notMem (by decide), course]
    rfl
  · exact Object.read_foldl_erase_of_mem (by decide) members
  · exact Object.read_foldl_erase_of_mem (by decide) members
  · exact Object.read_foldl_erase_of_mem (by decide) members
  · exact Object.read_foldl_erase_of_mem (by decide) members
  · exact Object.read_foldl_erase_of_mem (by decide) members
  · rw [Object.read_foldl_erase_of_notMem (by decide), conditions]
    rfl

theorem erase_course_reads (reads : Answers.ofJson? (.object members) = some now) :
    Answers.ofJson? (.object (members.erase "course_id")) = some { now with courseId := none } := by
  obtain ⟨provider, course, mode, site, required, reason, weeks, conditions⟩ :=
    ofJson?_object.mp reads
  refine ofJson?_object.mpr ⟨?_, ?_, ?_, ?_, ?_, ?_, ?_, ?_⟩
  · rw [Object.read_erase_of_ne members (by decide), provider]
  · exact Object.read_erase_self members "course_id"
  · rw [Object.read_erase_of_ne members (by decide), mode]
  · rw [Object.read_erase_of_ne members (by decide), site]
  · rw [Object.read_erase_of_ne members (by decide), required]
  · rw [Object.read_erase_of_ne members (by decide), reason]
  · rw [Object.read_erase_of_ne members (by decide), weeks]
  · rw [Object.read_erase_of_ne members (by decide), conditions]

theorem assign_eq_insert (provider : name ≠ "provider_id") (course : name ≠ "course_id") :
    assign members name value = members.insert name value := by
  simp [assign, provider, course]

theorem ofJson?_insert_eq (reads : Answers.ofJson? (.object members) = some now) (name : String)
    (value : Value) :
    Answers.ofJson? (.object (members.insert name value)) = do
      return {
        providerId := ← (if "provider_id" = name then Value.optional? Value.uint64? value
          else some now.providerId)
        courseId := ← (if "course_id" = name then Value.optional? Value.uint64? value
          else some now.courseId)
        studyMode := ← (if "study_mode" = name then Value.optional? StudyMode.ofJson? value
          else some now.studyMode)
        courseOptionId := ← (if "course_option_id" = name then Value.optional? Value.uint64? value
          else some now.courseOptionId)
        skeRequired := ← (if "ske_required" = name then Value.optional? Value.bool? value
          else some now.skeRequired)
        skeReason := ← (if "ske_reason" = name then Value.optional? SkeReason.ofJson? value
          else some now.skeReason)
        skeLength := ← (if "ske_length" = name then Value.optional? Value.uint32? value
          else some now.skeLength)
        furtherConditions := ← (if "further_conditions" = name
          then Value.list? Value.string? value else some now.furtherConditions) } := by
  obtain ⟨provider, course, mode, site, required, reason, weeks, conditions⟩ :=
    ofJson?_object.mp reads
  rw [← provider, ← course, ← mode, ← site, ← required, ← reason, ← weeks, ← conditions]
  simp only [← Object.read_insert]
  rfl

theorem insert_reads (plain : name ∈ ["study_mode", "course_option_id", "ske_required",
      "ske_reason", "ske_length", "further_conditions"])
    (reads : Answers.ofJson? (.object members) = some now) (value : Value) :
    Answers.ofJson? (.object (assign members name value)) = (edit name value).map (· now) := by
  have kept : name ≠ "provider_id" ∧ name ≠ "course_id" := by
    constructor <;> rintro rfl <;> simp at plain
  rw [assign_eq_insert kept.1 kept.2, ofJson?_insert_eq reads]
  simp only [List.mem_cons, List.not_mem_nil, or_false] at plain
  rcases plain with rfl | rfl | rfl | rfl | rfl | rfl
  · simp only [edit, String.reduceEq, ↓reduceIte]
    cases Value.optional? StudyMode.ofJson? value <;> rfl
  · simp only [edit, String.reduceEq, ↓reduceIte]
    cases Value.optional? Value.uint64? value <;> rfl
  · simp only [edit, String.reduceEq, ↓reduceIte]
    cases Value.optional? Value.bool? value <;> rfl
  · simp only [edit, String.reduceEq, ↓reduceIte]
    cases Value.optional? SkeReason.ofJson? value <;> rfl
  · simp only [edit, String.reduceEq, ↓reduceIte]
    cases Value.optional? Value.uint32? value <;> rfl
  · simp only [edit, String.reduceEq, ↓reduceIte]
    cases Value.list? Value.string? value <;> rfl

theorem assign_eq_ite {current : Value} {id : Option UInt64}
    (named : name = "provider_id" ∨ name = "course_id")
    (present : members.get? name = some current)
    (held : Value.optional? Value.uint64? current = some id) (value : Value) :
    assign members name value =
      (if Value.optional? Value.uint64? value = some id then members
        else if name = "provider_id" then
          courseDependent.foldl Object.erase (members.erase "course_id")
        else courseDependent.foldl Object.erase members).insert name value := by
  have changed := Object.any_not_same present held value
  by_cases same : Value.optional? Value.uint64? value = some id <;>
    rcases named with rfl | rfl <;> simp [assign, changed, same]

theorem assign_provider_reads {current : Value}
    (present : members.get? "provider_id" = some current)
    (reads : Answers.ofJson? (.object members) = some now) (value : Value) :
    Answers.ofJson? (.object (assign members "provider_id" value)) =
      (edit "provider_id" value).map (· now) := by
  have held := (ofJson?_object.mp reads).1
  rw [Object.read_of_get? present] at held
  rw [assign_eq_ite (.inl rfl) present held]
  by_cases same : Value.optional? Value.uint64? value = some now.providerId
  · rw [if_pos same, ofJson?_insert_eq reads]
    simp [edit, same, Governing.choose, Answers.provider]
  · have erased := reads_courseDependent (erase_course_reads reads)
    rw [if_neg same, if_pos rfl, ofJson?_insert_eq erased]
    cases decoded : Value.optional? Value.uint64? value with
    | none => simp [edit, decoded]
    | some providerId =>
      have differs : now.providerId ≠ providerId := fun equal => same (equal ▸ decoded)
      simp [edit, decoded, Governing.choose, Answers.provider, differs, Answers.withoutCourse]

theorem assign_course_reads {current : Value} (present : members.get? "course_id" = some current)
    (reads : Answers.ofJson? (.object members) = some now) (value : Value) :
    Answers.ofJson? (.object (assign members "course_id" value)) =
      (edit "course_id" value).map (· now) := by
  have held := (ofJson?_object.mp reads).2.1
  rw [Object.read_of_get? present] at held
  rw [assign_eq_ite (.inr rfl) present held]
  by_cases same : Value.optional? Value.uint64? value = some now.courseId
  · rw [if_pos same, ofJson?_insert_eq reads]
    simp [edit, same, Governing.choose, Answers.chosenCourse]
  · rw [if_neg same, if_neg (by decide), ofJson?_insert_eq (reads_courseDependent reads)]
    cases decoded : Value.optional? Value.uint64? value with
    | none => simp [edit, decoded]
    | some courseId =>
      have differs : now.courseId ≠ courseId := fun equal => same (equal ▸ decoded)
      simp [edit, decoded, Governing.choose, Answers.chosenCourse, differs, Answers.withoutCourse]

theorem permitted_unique {step : Step} {other : String}
    (first : step.permitted.contains name = true) (second : step.permitted.contains other = true) :
    other = name := by
  cases step <;> simp_all [Step.permitted]

def Full (step : Step) (members : Object) : Prop :=
  ∀ name, step.permitted.contains name = true → ∃ value, members.get? name = some value

theorem assign_reads {step : Step} (full : Full step members)
    (reads : Answers.ofJson? (.object members) = some now)
    (permitted : step.permitted.contains name = true) (value : Value) :
    Answers.ofJson? (.object (assign members name value)) = (edit name value).map (· now) := by
  obtain ⟨current, present⟩ := full name permitted
  cases step with
  | selectProvider =>
    obtain rfl : name = "provider_id" := by simpa [Step.permitted] using permitted
    exact assign_provider_reads present reads value
  | selectCourse =>
    obtain rfl : name = "course_id" := by simpa [Step.permitted] using permitted
    exact assign_course_reads present reads value
  | selectStudyMode | selectLocation | skeRequirements | skeReason | skeLength | conditions =>
    refine insert_reads ?_ reads value
    simp_all [Step.permitted]
  | check => simp [Step.permitted] at permitted

def editing : wizard.Editing where
  edit _ := edit
  good := Full
  start step answers := by
    have codec : Codec 2 Answers.toJson Answers.ofJson? := answers_codec
    refine ⟨_, rfl, codec.reads answers, fun name permitted => ?_⟩
    cases step <;> simp [Step.permitted] at permitted <;> subst permitted <;>
      simp [Object.get?, lookupEntry]
  reads full reads permitted value := assign_reads full reads permitted value
  keeps := by
    intro step members name value full permitted read other also
    obtain rfl := permitted_unique permitted also
    exact ⟨value, Object.get?_insert_self _ other value⟩

theorem edit_twice {change : Answers → Answers} (reads : edit name value = some change)
    (answers : Answers) : change (change answers) = change answers := by
  unfold edit at reads
  split at reads
  · obtain ⟨providerId, -, rfl⟩ := Option.map_eq_some_iff.mp reads
    exact Governing.choose_choose
  · obtain ⟨courseId, -, rfl⟩ := Option.map_eq_some_iff.mp reads
    exact Governing.choose_choose
  · obtain ⟨studyMode, -, rfl⟩ := Option.map_eq_some_iff.mp reads
    rfl
  · obtain ⟨courseOptionId, -, rfl⟩ := Option.map_eq_some_iff.mp reads
    rfl
  · obtain ⟨skeRequired, -, rfl⟩ := Option.map_eq_some_iff.mp reads
    rfl
  · obtain ⟨skeReason, -, rfl⟩ := Option.map_eq_some_iff.mp reads
    rfl
  · obtain ⟨skeLength, -, rfl⟩ := Option.map_eq_some_iff.mp reads
    rfl
  · obtain ⟨furtherConditions, -, rfl⟩ := Option.map_eq_some_iff.mp reads
    rfl
  · obtain rfl := Option.some.inj reads
    rfl

theorem editing_settles : editing.Settles where
  twice _ reads answers := edit_twice reads answers
  apart permitted _ also _ different _ := absurd (permitted_unique permitted also) different

end Admissions.Offer
