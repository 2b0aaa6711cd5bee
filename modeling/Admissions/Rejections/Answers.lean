import Admissions.Features
import Admissions.Rejections.Reason
import Admissions.Wizard.Definition
import Admissions.Json.Decoding

namespace Admissions.Rejections

open Json (Value Object)

def greatestWordCount : Nat := 200

structure Answers where
  selectedReasons : List String
  /-- By the id of the reason above. -/
  selectedSubReasons : SortedMap String (List String)
  /-- By the id of the details box. -/
  details : SortedMap String String
deriving DecidableEq

namespace Answers

def blank : Answers := ⟨[], .empty, .empty⟩

def fields : List String := ["selected_reasons", "selected_sub_reasons", "details"]

def toJson (answers : Answers) : Value :=
  .object [
    ("details", .object (answers.details.entries.map fun entry => (entry.1, .string entry.2))),
    ("selected_reasons", .list .string answers.selectedReasons),
    ("selected_sub_reasons", .object (answers.selectedSubReasons.entries.map fun entry =>
      (entry.1, .list .string entry.2)))]

def ofJson? (value : Value) : Option Answers := do
  let record ← value.record? fields
  return {
    selectedReasons := ← record.withDefault "selected_reasons" (Value.list? Value.string?) []
    selectedSubReasons := ← record.withDefault "selected_sub_reasons"
      (Value.map? some (Value.list? Value.string?)) .empty
    details := ← record.withDefault "details" (Value.map? some Value.string?) .empty }

def chosenUnder (answers : Answers) (id : String) : List String :=
  (answers.selectedSubReasons.get? id).getD []

end Answers

inductive Step where
  | new
  | check
deriving DecidableEq

namespace Step

def all : List Step := [.new, .check]

def name : Step → String
  | .new => "new"
  | .check => "check"

def toJson (step : Step) : Value := .string step.name

def ofJson? : Value → Option Step := Value.choice? name all

end Step

structure Context where
  reasons : List Reason
  features : Features
  /-- Rejected by default and still waiting for feedback. -/
  awaitsFeedback : Bool

inductive Violation where
  | incomplete (fields : List String)
  | featureOff (feature : Feature)
deriving DecidableEq

def Violation.describe : Violation → String
  | .incomplete fields => "rejection reasons incomplete: " ++ ", ".intercalate fields
  | .featureOff feature => "feature `" ++ feature.key ++ "` is not active"

abbrev Result (α : Type) : Type := Except (Wizard.Failure Violation) α

inductive RecordedReason where
  | mk (id label : String) (details : Option String) (selected : List RecordedReason)

namespace RecordedReason

def fields : List String := ["id", "label", "details", "selected_reasons"]

mutual

def toJson : RecordedReason → Value
  | .mk id label details selected =>
    let more := match details, selected with
      | none, [] => []
      | none, selected => [("selected_reasons", .array (listToJson selected))]
      | some text, [] => [("details", .string text)]
      | some text, selected =>
        [("details", .string text), ("selected_reasons", .array (listToJson selected))]
    .record ([("id", .string id), ("label", .string label)] ++ more)

def listToJson : List RecordedReason → List Value
  | [] => []
  | reason :: rest => reason.toJson :: listToJson rest

end

def ofJsonWithin? : Nat → Value → Option RecordedReason
  | 0, _ => none
  | depth + 1, value => do
    let record ← value.record? fields
    let id ← record.required "id" Value.string?
    let label ← record.required "label" Value.string?
    let details ← record.optional "details" Value.string?
    let selected ← record.withDefault "selected_reasons" (Value.list? (ofJsonWithin? depth)) []
    return .mk id label details selected

def ofJson? (value : Value) : Option RecordedReason := ofJsonWithin? (value.depth + 1) value

end RecordedReason

inductive Kind where
  | rejectApplication
  | rejectByDefaultFeedback
deriving DecidableEq

namespace Kind

def all : List Kind := [.rejectApplication, .rejectByDefaultFeedback]

def name : Kind → String
  | .rejectApplication => "reject_application"
  | .rejectByDefaultFeedback => "reject_by_default_feedback"

def toJson (kind : Kind) : Value := .string kind.name

def ofJson? : Value → Option Kind := Value.choice? name all

end Kind

structure Rejection where
  kind : Kind
  selectedReasons : List RecordedReason

namespace Rejection

def fields : List String := ["kind", "selected_reasons"]

def successMessage (rejection : Rejection) : String :=
  match rejection.kind with
  | .rejectApplication => "Application rejected"
  | .rejectByDefaultFeedback => "Feedback sent"

def toJson (rejection : Rejection) : Value :=
  .record [("kind", rejection.kind.toJson),
    ("selected_reasons", .array (RecordedReason.listToJson rejection.selectedReasons))]

def ofJson? (value : Value) : Option Rejection := do
  let record ← value.record? fields
  return {
    kind := ← record.required "kind" Kind.ofJson?
    selectedReasons :=
      ← record.required "selected_reasons" (Value.list? RecordedReason.ofJson?) }

end Rejection

end Admissions.Rejections
