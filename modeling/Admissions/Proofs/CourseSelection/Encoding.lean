import Admissions.CourseSelection.Pages
import Admissions.Proofs.Catalog
import Admissions.Proofs.Json.Fields
import Admissions.Proofs.Wizard.Recall

namespace Admissions.CourseSelection

open Json (Value Object Codec)

theorem courseKnown_codec {depth : Nat} : Codec depth CourseKnown.toJson CourseKnown.ofJson? :=
  Codec.choice fun known => by cases known <;> rfl

theorem step_codec {depth : Nat} : Codec depth Step.toJson Step.ofJson? :=
  Codec.choice fun step => by cases step <;> rfl

theorem ofJson?_object {members : Object} {answers : Answers} :
    Answers.ofJson? (.object members) = some answers ↔
      members.read "answer" (Value.optional? CourseKnown.ofJson?) none = some answers.answer ∧
      members.read "provider_id" (Value.optional? Value.uint64?) none = some answers.providerId ∧
      members.read "course_id" (Value.optional? Value.uint64?) none = some answers.courseId ∧
      members.read "study_mode" (Value.optional? StudyMode.ofJson?) none =
        some answers.studyMode ∧
      members.read "course_option_id" (Value.optional? Value.uint64?) none =
        some answers.courseOptionId := by
  obtain ⟨answer, providerId, courseId, studyMode, courseOptionId⟩ := answers
  simp only [Answers.ofJson?, Value.record?, Object.read, Option.bind_eq_bind, Option.bind_some,
    Option.bind_eq_some_iff, Option.pure_def, Option.some.injEq, Answers.mk.injEq]
  constructor
  · rintro ⟨a, ha, b, hb, c, hc, d, hd, e, he, rfl, rfl, rfl, rfl, rfl⟩
    exact ⟨ha, hb, hc, hd, he⟩
  · rintro ⟨ha, hb, hc, hd, he⟩
    exact ⟨_, ha, _, hb, _, hc, _, hd, _, he, rfl, rfl, rfl, rfl, rfl⟩

theorem answers_codec {depth : Nat} : Codec (depth + 1) Answers.toJson Answers.ofJson? := by
  have known : Codec depth (Value.optional CourseKnown.toJson)
      (Value.optional? CourseKnown.ofJson?) :=
    courseKnown_codec.optional fun _ => by simp [CourseKnown.toJson]
  have mode : Codec depth (Value.optional StudyMode.toJson)
      (Value.optional? StudyMode.ofJson?) :=
    studyMode_codec.optional fun _ => by simp [StudyMode.toJson]
  have number : Codec depth (Value.optional Value.uint64) (Value.optional? Value.uint64?) :=
    Codec.uint64.optional fun _ => by simp [Value.uint64, Value.nat, Value.int]
  constructor
  · intro answers
    refine ofJson?_object.mpr ?_
    simp (disch := decide) only [Object.read_cons_self, Object.read_cons_of_ne, known.reads,
      mode.reads, number.reads, and_self]
  · intro answers
    refine Value.storable_object (ascending_of_keys (by simp only [List.map]; decide)) ?_
    intro member found
    simp only [List.mem_cons, List.not_mem_nil, or_false] at found
    rcases found with rfl | rfl | rfl | rfl | rfl
    · exact known.storable answers.answer
    · exact number.storable answers.courseId
    · exact number.storable answers.courseOptionId
    · exact number.storable answers.providerId
    · exact mode.storable answers.studyMode

theorem wizard_faithful : wizard.Faithful where
  version := by decide
  steps := step_codec
  answers := answers_codec

end Admissions.CourseSelection
