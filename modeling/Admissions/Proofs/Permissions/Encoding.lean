import Admissions.Permissions.Pages
import Admissions.Proofs.Json.Fields
import Admissions.Proofs.Wizard.Recall

namespace Admissions.Permissions

open Json (Value Object Codec)

theorem step_codec {depth : Nat} : Codec (depth + 1) Step.toJson Step.ofJson? where
  reads step := by
    cases step with
    | permissions relationship =>
      have number : Codec depth Value.uint64 Value.uint64? := Codec.uint64
      simp [Step.toJson, Step.ofJson?, number.reads]
    | providerRelationships | info | check => rfl
  storable step := by
    cases step with
    | permissions relationship =>
      refine Value.storable_object (ascending_of_keys (by simp)) ?_
      intro member found
      obtain rfl := List.mem_singleton.mp found
      exact Codec.uint64.storable relationship
    | providerRelationships | info | check => exact Value.storable_string _

theorem ticks_codec {depth : Nat} :
    Codec (depth + 2) Answers.ticksToJson Answers.ticksOfJson? :=
  Codec.textMap Codec.string.list

theorem ofJson?_object {members : Object} {answers : Answers} :
    Answers.ofJson? (.object members) = some answers ↔
      members.read "provider_relationships" (Value.list? Value.uint64?) [] =
        some answers.relationships ∧
      members.read "provider_relationship_permissions"
        (Value.map? Json.uint64Key? Answers.ticksOfJson?) .empty = some answers.permissions ∧
      members.read "checking_answers" Value.bool? false = some answers.checkingAnswers := by
  obtain ⟨relationships, permissions, checking⟩ := answers
  simp only [Answers.ofJson?, Value.record?, Object.read, Option.bind_eq_bind, Option.bind_some,
    Option.bind_eq_some_iff, Option.pure_def, Option.some.injEq, Answers.mk.injEq]
  constructor
  · rintro ⟨a, ha, b, hb, c, hc, rfl, rfl, rfl⟩
    exact ⟨ha, hb, hc⟩
  · rintro ⟨ha, hb, hc⟩
    exact ⟨_, ha, _, hb, _, hc, rfl, rfl, rfl⟩

theorem answers_codec {depth : Nat} : Codec (depth + 4) Answers.toJson Answers.ofJson? := by
  have selected : Codec (depth + 3) (Value.list Value.uint64) (Value.list? Value.uint64?) :=
    Codec.uint64.list
  have ticks : Codec (depth + 2) Answers.ticksToJson Answers.ticksOfJson? := ticks_codec
  have ticked := Codec.keyedMap (fun id : UInt64 => toString id.toNat) Json.uint64Key?_toString
    ticks
  constructor
  · intro answers
    have readsTicked : Value.map? Json.uint64Key? Answers.ticksOfJson?
        (.record (answers.permissions.entries.map fun entry =>
          (toString entry.1.toNat, Answers.ticksToJson entry.2))) = some answers.permissions :=
      ticked.reads answers.permissions
    refine ofJson?_object.mpr ?_
    simp (disch := decide) only [Object.read_cons_self, Object.read_cons_of_ne, selected.reads,
      readsTicked, Value.bool?, and_self]
  · intro answers
    refine Value.storable_object (ascending_of_keys (by simp only [List.map]; decide)) ?_
    intro member found
    simp only [List.mem_cons, List.not_mem_nil, or_false] at found
    rcases found with rfl | rfl | rfl
    · exact Value.storable_bool answers.checkingAnswers
    · exact ticked.storable answers.permissions
    · exact selected.storable answers.relationships

theorem wizard_faithful : wizard.Faithful where
  version := by decide
  steps := step_codec
  answers := answers_codec

end Admissions.Permissions
