import Admissions.Proofs.Rejections.Encoding
import Admissions.Proofs.Wizard.Editing

namespace Admissions.Rejections

open Json (Value Object Codec)

variable {members : Object} {name : String} {value : Value} {now : Answers}

def edit (name : String) (value : Value) : Option (Answers → Answers) :=
  match name with
  | "selected_reasons" =>
    (Value.list? Value.string? value).map fun selectedReasons answers =>
      { answers with selectedReasons }
  | "selected_sub_reasons" =>
    (Value.map? some (Value.list? Value.string?) value).map fun selectedSubReasons answers =>
      { answers with selectedSubReasons }
  | "details" =>
    (Value.map? some Value.string? value).map fun details answers => { answers with details }
  | _ => some id

def decodes (name : String) (value : Value) : Bool :=
  match name with
  | "selected_reasons" => (Value.list? Value.string? value).isSome
  | "selected_sub_reasons" => (Value.map? some (Value.list? Value.string?) value).isSome
  | "details" => (Value.map? some Value.string? value).isSome
  | _ => true

theorem isSome_edit (name : String) (value : Value) :
    (edit name value).isSome = decodes name value := by
  unfold edit decodes
  split <;> simp

theorem ofJson?_insert_eq (reads : Answers.ofJson? (.object members) = some now) (name : String)
    (value : Value) :
    Answers.ofJson? (.object (members.insert name value)) = do
      return {
        selectedReasons := ← (if "selected_reasons" = name then Value.list? Value.string? value
          else some now.selectedReasons)
        selectedSubReasons := ← (if "selected_sub_reasons" = name
          then Value.map? some (Value.list? Value.string?) value
          else some now.selectedSubReasons)
        details := ← (if "details" = name then Value.map? some Value.string? value
          else some now.details) } := by
  obtain ⟨reasons, subReasons, details⟩ := ofJson?_object.mp reads
  rw [← reasons, ← subReasons, ← details]
  simp only [← Object.read_insert]
  rfl

theorem insert_reads {step : Step} (reads : Answers.ofJson? (.object members) = some now)
    (permitted : step.permitted.contains name = true) (value : Value) :
    Answers.ofJson? (.object (members.insert name value)) = (edit name value).map (· now) := by
  rw [ofJson?_insert_eq reads]
  cases step with
  | new =>
    have named : name = "selected_reasons" ∨ name = "selected_sub_reasons" ∨ name = "details" := by
      simpa [Step.permitted] using permitted
    rcases named with rfl | rfl | rfl
    · simp only [edit, String.reduceEq, ↓reduceIte]
      cases Value.list? Value.string? value <;> rfl
    · simp only [edit, String.reduceEq, ↓reduceIte]
      cases Value.map? some (Value.list? Value.string?) value <;> rfl
    · simp only [edit, String.reduceEq, ↓reduceIte]
      cases Value.map? some Value.string? value <;> rfl
  | check => simp [Step.permitted] at permitted

def editing : wizard.Editing where
  edit _ := edit
  good _ _ := True
  start _ answers := by
    have codec : Codec 3 Answers.toJson Answers.ofJson? := answers_codec
    exact ⟨_, rfl, codec.reads answers, trivial⟩
  reads _ reads permitted value := insert_reads reads permitted value
  keeps _ _ _ := trivial

theorem edit_cases {change : Answers → Answers} (reads : edit name value = some change) :
    (name = "selected_reasons" ∧
      ∃ selectedReasons, change = fun answers => { answers with selectedReasons }) ∨
    (name = "selected_sub_reasons" ∧
      ∃ selectedSubReasons, change = fun answers => { answers with selectedSubReasons }) ∨
    (name = "details" ∧ ∃ details, change = fun answers => { answers with details }) ∨
    change = id := by
  unfold edit at reads
  split at reads
  · obtain ⟨selectedReasons, -, rfl⟩ := Option.map_eq_some_iff.mp reads
    exact .inl ⟨rfl, selectedReasons, rfl⟩
  · obtain ⟨selectedSubReasons, -, rfl⟩ := Option.map_eq_some_iff.mp reads
    exact .inr (.inl ⟨rfl, selectedSubReasons, rfl⟩)
  · obtain ⟨details, -, rfl⟩ := Option.map_eq_some_iff.mp reads
    exact .inr (.inr (.inl ⟨rfl, details, rfl⟩))
  · exact .inr (.inr (.inr (Option.some.inj reads).symm))

theorem editing_settles : editing.Settles where
  twice := by
    intro step name value change permitted reads answers
    rcases edit_cases reads with ⟨-, reasons, rfl⟩ | ⟨-, subReasons, rfl⟩ | ⟨-, details, rfl⟩ | rfl <;>
      rfl
  apart := by
    intro step name value change other otherValue otherChange permitted reads also otherReads
      different answers
    rcases edit_cases reads with ⟨rfl, reasons, rfl⟩ | ⟨rfl, subReasons, rfl⟩ |
        ⟨rfl, details, rfl⟩ | rfl <;>
      rcases edit_cases otherReads with ⟨rfl, otherReasons, rfl⟩ | ⟨rfl, otherSubReasons, rfl⟩ |
        ⟨rfl, otherDetails, rfl⟩ | rfl <;>
      first | contradiction | rfl

end Admissions.Rejections
