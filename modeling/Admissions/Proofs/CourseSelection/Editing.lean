import Admissions.Proofs.CourseSelection.Encoding
import Admissions.Proofs.Wizard.Editing

namespace Admissions.CourseSelection

open Json (Value Object Codec)
open Wizard (Governing)

variable {members : Object} {name : String} {value : Value} {now : Answers}

namespace Answers

def provider : Governing Answers (Option UInt64) where
  value := Answers.providerId
  replace answers providerId :=
    { answers with providerId, studyMode := none, courseOptionId := none }
  value_replace _ _ := rfl

def chosenCourse : Governing Answers (Option UInt64) where
  value := Answers.courseId
  replace answers courseId := { answers with courseId, studyMode := none, courseOptionId := none }
  value_replace _ _ := rfl

variable {answers : Answers} {providerId courseId : Option UInt64}

theorem courseId_choose_provider :
    (provider.choose answers providerId).courseId = answers.courseId := by
  unfold Governing.choose
  split <;> rfl

theorem provider_choose_course :
    provider.choose (chosenCourse.choose answers courseId) providerId =
      chosenCourse.choose (provider.choose answers providerId) courseId := by
  by_cases sameProvider : answers.providerId = providerId <;>
    by_cases sameCourse : answers.courseId = courseId <;>
    simp [Governing.choose, provider, chosenCourse, sameProvider, sameCourse]

end Answers

def edit (name : String) (value : Value) : Option (Answers → Answers) :=
  match name with
  | "answer" =>
    (Value.optional? CourseKnown.ofJson? value).map fun answer answers => { answers with answer }
  | "provider_id" =>
    (Value.optional? Value.uint64? value).map fun providerId answers =>
      Answers.provider.choose answers providerId
  | "course_id" =>
    (Value.optional? Value.uint64? value).map fun courseId answers =>
      Answers.chosenCourse.choose answers courseId
  | "study_mode" =>
    (Value.optional? StudyMode.ofJson? value).map fun studyMode answers => { answers with studyMode }
  | "course_option_id" =>
    (Value.optional? Value.uint64? value).map fun courseOptionId answers =>
      { answers with courseOptionId }
  | _ => some id

def decodes (name : String) (value : Value) : Bool :=
  match name with
  | "answer" => (Value.optional? CourseKnown.ofJson? value).isSome
  | "provider_id" => (Value.optional? Value.uint64? value).isSome
  | "course_id" => (Value.optional? Value.uint64? value).isSome
  | "study_mode" => (Value.optional? StudyMode.ofJson? value).isSome
  | "course_option_id" => (Value.optional? Value.uint64? value).isSome
  | _ => true

theorem isSome_edit (name : String) (value : Value) :
    (edit name value).isSome = decodes name value := by
  unfold edit decodes
  split <;> simp

theorem erase_reads (reads : Answers.ofJson? (.object members) = some now) :
    Answers.ofJson? (.object ((members.erase "study_mode").erase "course_option_id")) =
      some { now with studyMode := none, courseOptionId := none } := by
  obtain ⟨known, provider, course, mode, site⟩ := ofJson?_object.mp reads
  refine ofJson?_object.mpr ⟨?_, ?_, ?_, ?_, ?_⟩
  · rw [Object.read_erase_of_ne _ (by decide), Object.read_erase_of_ne _ (by decide), known]
  · rw [Object.read_erase_of_ne _ (by decide), Object.read_erase_of_ne _ (by decide), provider]
  · rw [Object.read_erase_of_ne _ (by decide), Object.read_erase_of_ne _ (by decide), course]
  · rw [Object.read_erase_of_ne _ (by decide), Object.read_erase_self]
  · rw [Object.read_erase_self]

theorem assign_eq_insert (provider : name ≠ "provider_id") (course : name ≠ "course_id") :
    assign members name value = members.insert name value := by
  simp [assign, provider, course]

theorem ofJson?_insert_eq (reads : Answers.ofJson? (.object members) = some now) (name : String)
    (value : Value) :
    Answers.ofJson? (.object (members.insert name value)) = do
      return {
        answer := ← (if "answer" = name then Value.optional? CourseKnown.ofJson? value
          else some now.answer)
        providerId := ← (if "provider_id" = name then Value.optional? Value.uint64? value
          else some now.providerId)
        courseId := ← (if "course_id" = name then Value.optional? Value.uint64? value
          else some now.courseId)
        studyMode := ← (if "study_mode" = name then Value.optional? StudyMode.ofJson? value
          else some now.studyMode)
        courseOptionId := ← (if "course_option_id" = name then Value.optional? Value.uint64? value
          else some now.courseOptionId) } := by
  obtain ⟨answer, provider, course, mode, site⟩ := ofJson?_object.mp reads
  rw [← answer, ← provider, ← course, ← mode, ← site]
  simp only [← Object.read_insert]
  rfl

theorem insert_reads (plain : name ∈ ["answer", "study_mode", "course_option_id"])
    (reads : Answers.ofJson? (.object members) = some now) (value : Value) :
    Answers.ofJson? (.object (assign members name value)) = (edit name value).map (· now) := by
  have kept : name ≠ "provider_id" ∧ name ≠ "course_id" := by
    constructor <;> rintro rfl <;> simp at plain
  rw [assign_eq_insert kept.1 kept.2, ofJson?_insert_eq reads]
  simp only [List.mem_cons, List.not_mem_nil, or_false] at plain
  rcases plain with rfl | rfl | rfl
  · simp only [edit, String.reduceEq, ↓reduceIte]
    cases Value.optional? CourseKnown.ofJson? value <;> rfl
  · simp only [edit, String.reduceEq, ↓reduceIte]
    cases Value.optional? StudyMode.ofJson? value <;> rfl
  · simp only [edit, String.reduceEq, ↓reduceIte]
    cases Value.optional? Value.uint64? value <;> rfl

/-- The comparison of JSON values tells providers and courses apart as their ids do. -/
theorem assign_eq_ite {current : Value} {id : Option UInt64}
    (named : name = "provider_id" ∨ name = "course_id")
    (present : members.get? name = some current)
    (held : Value.optional? Value.uint64? current = some id) (value : Value) :
    assign members name value =
      (if Value.optional? Value.uint64? value = some id then members
        else (members.erase "study_mode").erase "course_option_id").insert name value := by
  have changed := Object.any_not_same present held value
  have isNamed : (name == "provider_id" || name == "course_id") = true := by simpa using named
  by_cases same : Value.optional? Value.uint64? value = some id <;>
    simp [assign, isNamed, changed, same]

theorem assign_provider_reads {current : Value}
    (present : members.get? "provider_id" = some current)
    (reads : Answers.ofJson? (.object members) = some now) (value : Value) :
    Answers.ofJson? (.object (assign members "provider_id" value)) =
      (edit "provider_id" value).map (· now) := by
  have held := (ofJson?_object.mp reads).2.1
  rw [Object.read_of_get? present] at held
  rw [assign_eq_ite (.inl rfl) present held]
  by_cases same : Value.optional? Value.uint64? value = some now.providerId
  · rw [if_pos same, ofJson?_insert_eq reads]
    simp [edit, same, Governing.choose, Answers.provider]
  · rw [if_neg same, ofJson?_insert_eq (erase_reads reads)]
    cases decoded : Value.optional? Value.uint64? value with
    | none => simp [edit, decoded]
    | some providerId =>
      have differs : now.providerId ≠ providerId := fun equal => same (equal ▸ decoded)
      simp [edit, decoded, Governing.choose, Answers.provider, differs]

theorem assign_course_reads {current : Value} (present : members.get? "course_id" = some current)
    (reads : Answers.ofJson? (.object members) = some now) (value : Value) :
    Answers.ofJson? (.object (assign members "course_id" value)) =
      (edit "course_id" value).map (· now) := by
  have held := (ofJson?_object.mp reads).2.2.1
  rw [Object.read_of_get? present] at held
  rw [assign_eq_ite (.inr rfl) present held]
  by_cases same : Value.optional? Value.uint64? value = some now.courseId
  · rw [if_pos same, ofJson?_insert_eq reads]
    simp [edit, same, Governing.choose, Answers.chosenCourse]
  · rw [if_neg same, ofJson?_insert_eq (erase_reads reads)]
    cases decoded : Value.optional? Value.uint64? value with
    | none => simp [edit, decoded]
    | some courseId =>
      have differs : now.courseId ≠ courseId := fun equal => same (equal ▸ decoded)
      simp [edit, decoded, Governing.choose, Answers.chosenCourse, differs]

theorem assign_present {field : String} (named : field = "provider_id" ∨ field = "course_id")
    (present : ∃ current, members.get? field = some current) :
    ∃ current, (assign members name value).get? field = some current := by
  have notMode : field ≠ "study_mode" := by rcases named with rfl | rfl <;> decide
  have notSite : field ≠ "course_option_id" := by rcases named with rfl | rfl <;> decide
  by_cases own : field = name
  · subst own
    exact ⟨value, Object.get?_insert_self _ field value⟩
  · unfold assign
    dsimp only
    rw [Object.get?_insert_of_ne _ own]
    split
    · rw [Object.get?_erase_of_ne _ notSite, Object.get?_erase_of_ne _ notMode]
      exact present
    · exact present

structure Full (members : Object) : Prop where
  provider : ∃ value, members.get? "provider_id" = some value
  course : ∃ value, members.get? "course_id" = some value

theorem assign_reads {step : Step} (full : Full members)
    (reads : Answers.ofJson? (.object members) = some now)
    (permitted : step.permitted.contains name = true) (value : Value) :
    Answers.ofJson? (.object (assign members name value)) = (edit name value).map (· now) := by
  obtain ⟨_, provider⟩ := full.provider
  obtain ⟨_, course⟩ := full.course
  cases step with
  | doYouKnowTheCourse =>
    obtain rfl : name = "answer" := by simpa [Step.permitted] using permitted
    exact insert_reads (by decide) reads value
  | providerSelection =>
    obtain rfl : name = "provider_id" := by simpa [Step.permitted] using permitted
    exact assign_provider_reads provider reads value
  | whichCourse =>
    have named : name = "provider_id" ∨ name = "course_id" := by
      simpa [Step.permitted] using permitted
    rcases named with rfl | rfl
    · exact assign_provider_reads provider reads value
    · exact assign_course_reads course reads value
  | courseStudyMode =>
    obtain rfl : name = "study_mode" := by simpa [Step.permitted] using permitted
    exact insert_reads (by decide) reads value
  | courseSite =>
    obtain rfl : name = "course_option_id" := by simpa [Step.permitted] using permitted
    exact insert_reads (by decide) reads value
  | goToFindExplanation | courseReview => simp [Step.permitted] at permitted

def editing : wizard.Editing where
  edit _ := edit
  good _ := Full
  start _ answers := by
    have codec : Codec 1 Answers.toJson Answers.ofJson? := answers_codec
    refine ⟨_, rfl, codec.reads answers, ?_, ?_⟩
    · simp [Object.get?, lookupEntry]
    · simp [Object.get?, lookupEntry]
  reads full reads permitted value := assign_reads full reads permitted value
  keeps full _ _ := ⟨assign_present (.inl rfl) full.provider, assign_present (.inr rfl) full.course⟩

theorem edit_twice {change : Answers → Answers} (reads : edit name value = some change)
    (answers : Answers) : change (change answers) = change answers := by
  unfold edit at reads
  split at reads
  · obtain ⟨answer, -, rfl⟩ := Option.map_eq_some_iff.mp reads
    rfl
  · obtain ⟨providerId, -, rfl⟩ := Option.map_eq_some_iff.mp reads
    exact Governing.choose_choose
  · obtain ⟨courseId, -, rfl⟩ := Option.map_eq_some_iff.mp reads
    exact Governing.choose_choose
  · obtain ⟨studyMode, -, rfl⟩ := Option.map_eq_some_iff.mp reads
    rfl
  · obtain ⟨courseOptionId, -, rfl⟩ := Option.map_eq_some_iff.mp reads
    rfl
  · obtain rfl := Option.some.inj reads
    rfl

theorem edit_apart {step : Step} {other : String} {otherValue : Value}
    {change otherChange : Answers → Answers} (permitted : step.permitted.contains name = true)
    (reads : edit name value = some change) (also : step.permitted.contains other = true)
    (otherReads : edit other otherValue = some otherChange) (different : other ≠ name)
    (answers : Answers) : change (otherChange answers) = otherChange (change answers) := by
  cases step with
  | whichCourse =>
    have named : name = "provider_id" ∨ name = "course_id" := by
      simpa [Step.permitted] using permitted
    have otherNamed : other = "provider_id" ∨ other = "course_id" := by
      simpa [Step.permitted] using also
    rcases named with rfl | rfl <;> rcases otherNamed with rfl | rfl
    · contradiction
    · obtain ⟨providerId, -, rfl⟩ := Option.map_eq_some_iff.mp reads
      obtain ⟨courseId, -, rfl⟩ := Option.map_eq_some_iff.mp otherReads
      exact Answers.provider_choose_course
    · obtain ⟨courseId, -, rfl⟩ := Option.map_eq_some_iff.mp reads
      obtain ⟨providerId, -, rfl⟩ := Option.map_eq_some_iff.mp otherReads
      exact Answers.provider_choose_course.symm
    · contradiction
  | doYouKnowTheCourse | goToFindExplanation | providerSelection | courseStudyMode | courseSite
    | courseReview =>
    simp_all [Step.permitted]

theorem editing_settles : editing.Settles where
  twice _ reads answers := edit_twice reads answers
  apart permitted reads also otherReads different answers :=
    edit_apart permitted reads also otherReads different answers

end Admissions.CourseSelection
