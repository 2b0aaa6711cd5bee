import Admissions.Proofs.Json.Fields
import Admissions.Proofs.Wizard.Recall
import Admissions.Rejections.Pages

namespace Admissions.Rejections

open Json (Value Object Codec)

theorem step_codec {depth : Nat} : Codec depth Step.toJson Step.ofJson? :=
  Codec.choice fun step => by cases step <;> rfl

theorem ofJson?_object {members : Object} {answers : Answers} :
    Answers.ofJson? (.object members) = some answers ↔
      members.read "selected_reasons" (Value.list? Value.string?) [] =
        some answers.selectedReasons ∧
      members.read "selected_sub_reasons" (Value.map? some (Value.list? Value.string?)) .empty =
        some answers.selectedSubReasons ∧
      members.read "details" (Value.map? some Value.string?) .empty = some answers.details := by
  obtain ⟨reasons, subReasons, details⟩ := answers
  simp only [Answers.ofJson?, Value.record?, Object.read, Option.bind_eq_bind, Option.bind_some,
    Option.bind_eq_some_iff, Option.pure_def, Option.some.injEq, Answers.mk.injEq]
  constructor
  · rintro ⟨a, ha, b, hb, c, hc, rfl, rfl, rfl⟩
    exact ⟨ha, hb, hc⟩
  · rintro ⟨ha, hb, hc⟩
    exact ⟨_, ha, _, hb, _, hc, rfl, rfl, rfl⟩

theorem answers_codec {depth : Nat} : Codec (depth + 3) Answers.toJson Answers.ofJson? := by
  have chosen : Codec (depth + 1) (Value.list Value.string) (Value.list? Value.string?) :=
    Codec.string.list
  have selected : Codec (depth + 2) (Value.list Value.string) (Value.list? Value.string?) :=
    Codec.string.list
  have text : Codec (depth + 1) Value.string Value.string? := Codec.string
  have under := Codec.textMap chosen
  have details := Codec.textMap text
  constructor
  · intro answers
    have readsUnder : Value.map? some (Value.list? Value.string?)
        (.object (answers.selectedSubReasons.entries.map fun entry =>
          (entry.1, .list .string entry.2))) = some answers.selectedSubReasons :=
      under.reads answers.selectedSubReasons
    have readsDetails : Value.map? some Value.string?
        (.object (answers.details.entries.map fun entry => (entry.1, .string entry.2))) =
          some answers.details :=
      details.reads answers.details
    refine ofJson?_object.mpr ?_
    simp (disch := decide) only [Object.read_cons_self, Object.read_cons_of_ne, selected.reads,
      readsUnder, readsDetails, and_self]
  · intro answers
    refine Value.storable_object (ascending_of_keys (by simp only [List.map]; decide)) ?_
    intro member found
    simp only [List.mem_cons, List.not_mem_nil, or_false] at found
    rcases found with rfl | rfl | rfl
    · exact details.storable answers.details
    · exact selected.storable answers.selectedReasons
    · exact under.storable answers.selectedSubReasons

theorem wizard_faithful : wizard.Faithful where
  version := by decide
  steps := step_codec
  answers := answers_codec

end Admissions.Rejections
