import Admissions.Offer.Pages
import Admissions.Proofs.Catalog
import Admissions.Proofs.Json.Fields
import Admissions.Proofs.Wizard.Recall

namespace Admissions.Offer

open Json (Value Object Codec)

theorem skeReason_codec {depth : Nat} : Codec depth SkeReason.toJson SkeReason.ofJson? :=
  Codec.choice fun reason => by cases reason <;> rfl

theorem step_codec {depth : Nat} : Codec depth Step.toJson Step.ofJson? :=
  Codec.choice fun step => by cases step <;> rfl

theorem ofJson?_object {members : Object} {answers : Answers} :
    Answers.ofJson? (.object members) = some answers ↔
      members.read "provider_id" (Value.optional? Value.uint64?) none = some answers.providerId ∧
      members.read "course_id" (Value.optional? Value.uint64?) none = some answers.courseId ∧
      members.read "study_mode" (Value.optional? StudyMode.ofJson?) none =
        some answers.studyMode ∧
      members.read "course_option_id" (Value.optional? Value.uint64?) none =
        some answers.courseOptionId ∧
      members.read "ske_required" (Value.optional? Value.bool?) none = some answers.skeRequired ∧
      members.read "ske_reason" (Value.optional? SkeReason.ofJson?) none =
        some answers.skeReason ∧
      members.read "ske_length" (Value.optional? Value.uint32?) none = some answers.skeLength ∧
      members.read "further_conditions" (Value.list? Value.string?) [] =
        some answers.furtherConditions := by
  obtain ⟨providerId, courseId, studyMode, courseOptionId, required, reason, weeks, conditions⟩ :=
    answers
  simp only [Answers.ofJson?, Value.record?, Object.read, Option.bind_eq_bind, Option.bind_some,
    Option.bind_eq_some_iff, Option.pure_def, Option.some.injEq, Answers.mk.injEq]
  constructor
  · rintro ⟨a, ha, b, hb, c, hc, d, hd, e, he, f, hf, g, hg, h, hh, rfl, rfl, rfl, rfl, rfl, rfl,
      rfl, rfl⟩
    exact ⟨ha, hb, hc, hd, he, hf, hg, hh⟩
  · rintro ⟨ha, hb, hc, hd, he, hf, hg, hh⟩
    exact ⟨_, ha, _, hb, _, hc, _, hd, _, he, _, hf, _, hg, _, hh, rfl, rfl, rfl, rfl, rfl, rfl,
      rfl, rfl⟩

theorem answers_codec {depth : Nat} : Codec (depth + 2) Answers.toJson Answers.ofJson? := by
  have mode : Codec (depth + 1) (Value.optional StudyMode.toJson)
      (Value.optional? StudyMode.ofJson?) :=
    studyMode_codec.optional fun _ => by simp [StudyMode.toJson]
  have number : Codec (depth + 1) (Value.optional Value.uint64) (Value.optional? Value.uint64?) :=
    Codec.uint64.optional fun _ => by simp [Value.uint64, Value.nat, Value.int]
  have required : Codec (depth + 1) (Value.optional Value.bool) (Value.optional? Value.bool?) :=
    Codec.bool.optional fun _ => by simp
  have reason : Codec (depth + 1) (Value.optional SkeReason.toJson)
      (Value.optional? SkeReason.ofJson?) :=
    skeReason_codec.optional fun _ => by simp [SkeReason.toJson]
  have weeks : Codec (depth + 1) (Value.optional Value.uint32) (Value.optional? Value.uint32?) :=
    Codec.uint32.optional fun _ => by simp [Value.uint32, Value.nat, Value.int]
  have conditions : Codec (depth + 1) (Value.list Value.string) (Value.list? Value.string?) :=
    Codec.string.list
  constructor
  · intro answers
    refine ofJson?_object.mpr ?_
    simp (disch := decide) only [Object.read_cons_self, Object.read_cons_of_ne, mode.reads,
      number.reads, required.reads, reason.reads, weeks.reads, conditions.reads, and_self]
  · intro answers
    refine Value.storable_object (ascending_of_keys (by simp only [List.map]; decide)) ?_
    intro member found
    simp only [List.mem_cons, List.not_mem_nil, or_false] at found
    rcases found with rfl | rfl | rfl | rfl | rfl | rfl | rfl | rfl
    · exact number.storable answers.courseId
    · exact number.storable answers.courseOptionId
    · exact conditions.storable answers.furtherConditions
    · exact number.storable answers.providerId
    · exact weeks.storable answers.skeLength
    · exact reason.storable answers.skeReason
    · exact required.storable answers.skeRequired
    · exact mode.storable answers.studyMode

theorem wizard_faithful : wizard.Faithful where
  version := by decide
  steps := step_codec
  answers := answers_codec

end Admissions.Offer
