import Admissions.Wizard.Definition

namespace Admissions.Sample

open Json (Value Object)
open Wizard (Failure Target ValidationErrors)

namespace Referee

structure Answers where
  kind : Option String
  name : Option String
  email : Option String
  relationshipYears : Option UInt64
deriving DecidableEq

namespace Answers

def blank : Answers := ⟨none, none, none, none⟩

def fields : List String := ["kind", "name", "email", "relationship_years"]

def toJson (answers : Answers) : Value :=
  .object [("email", .optional .string answers.email), ("kind", .optional .string answers.kind),
    ("name", .optional .string answers.name),
    ("relationship_years", .optional .uint64 answers.relationshipYears)]

def ofJson? (value : Value) : Option Answers := do
  let record ← value.record? fields
  let text := Value.optional? Value.string?
  return {
    kind := ← record.withDefault "kind" text none
    name := ← record.withDefault "name" text none
    email := ← record.withDefault "email" text none
    relationshipYears :=
      ← record.withDefault "relationship_years" (Value.optional? Value.uint64?) none }

def needsEmail (answers : Answers) : Bool := answers.kind = some "professional"

end Answers

inductive Step where
  | kind
  | name
  | email
  | review
deriving DecidableEq

namespace Step

def all : List Step := [.kind, .name, .email, .review]

def text : Step → String
  | .kind => "kind"
  | .name => "name"
  | .email => "email"
  | .review => "review"

def toJson (step : Step) : Value := .string step.text

def ofJson? : Value → Option Step := Value.choice? text all

def permitted : Step → List String
  | .kind => ["kind"]
  | .name => ["name", "relationship_years"]
  | .email => ["email"]
  | .review => []

def required (answer : Option String) : Wizard.Answer :=
  match answer with
  | none => .missing
  | some text => .text text

def validate (step : Step) (answers : Answers) : ValidationErrors :=
  match step with
  | .kind =>
    ValidationErrors.empty.require "kind" (required answers.kind) "Choose a type of referee"
  | .name => ValidationErrors.empty.require "name" (required answers.name) "Enter a name"
  | .email =>
    ValidationErrors.empty.addIf (!answers.email.any fun email => email.toList.contains '@') "email"
      "Enter an email address"
  | .review => .empty

def next (step : Step) (answers : Answers) : Target Step :=
  match step with
  | .kind => .step .name
  | .name => .step (if answers.needsEmail then .email else .review)
  | .email => .step .review
  | .review => .exit

def previous (step : Step) (answers : Answers) : Target Step :=
  match step with
  | .kind => .exit
  | .name => .step .kind
  | .email => .step .name
  | .review => .step (if answers.needsEmail then .email else .name)

end Step

inductive Violation where
  | nameMissing
deriving DecidableEq

def Violation.describe : Violation → String
  | .nameMissing => "referee name missing"

def materialize (answers : Answers) : Except (Failure Violation) String :=
  match answers.name with
  | some name => .ok name
  | none => .error (.violated .nameMissing)

def wizard : Wizard.Definition where
  Step := Step
  Answers := Answers
  Context := Unit
  Output := String
  Violation := Violation
  stepEq := inferInstance
  name := "referee"
  schemaVersion := 1
  declared := Step.all.map Step.text
  describe := Violation.describe
  stepName := Step.text
  stepToJson := Step.toJson
  stepOfJson? := Step.ofJson?
  blank := Answers.blank
  toJson := Answers.toJson
  ofJson? := Answers.ofJson?
  first _ := .kind
  permitted := Step.permitted
  validate step answers _ := return step.validate answers
  next step answers _ := return step.next answers
  previous step answers _ := return step.previous answers
  nextAfterSubmit step answers _ := return step.next answers
  completed step _ _ := return step = .review
  assign _ answers name value := answers.insert name value
  materialize answers _ := materialize answers
  upgrade _ _ := none

end Referee

namespace RenamedReferee

structure Answers where
  kind : Option String
  fullName : Option String
deriving DecidableEq

namespace Answers

def blank : Answers := ⟨none, none⟩

def fields : List String := ["kind", "full_name"]

def toJson (answers : Answers) : Value :=
  .object [("full_name", .optional .string answers.fullName),
    ("kind", .optional .string answers.kind)]

def ofJson? (value : Value) : Option Answers := do
  let record ← value.record? fields
  let text := Value.optional? Value.string?
  return {
    kind := ← record.withDefault "kind" text none
    fullName := ← record.withDefault "full_name" text none }

end Answers

inductive Step where
  | kind
  | name
deriving DecidableEq

namespace Step

def all : List Step := [.kind, .name]

def text : Step → String
  | .kind => "kind"
  | .name => "name"

def toJson (step : Step) : Value := .string step.text

def ofJson? : Value → Option Step := Value.choice? text all

end Step

/-- Answers of version 1 hold the name under `name`. -/
def upgrade (version : Nat) (answers : Object) : Option Object :=
  if version ≠ 1 then none
  else
    match answers.get? "name" with
    | some name => some ((answers.erase "name").insert "full_name" name)
    | none => some answers

def wizard : Wizard.Definition where
  Step := Step
  Answers := Answers
  Context := Unit
  Output := Unit
  Violation := Empty
  stepEq := inferInstance
  name := "referee"
  schemaVersion := 2
  declared := Step.all.map Step.text
  describe := nofun
  stepName := Step.text
  stepToJson := Step.toJson
  stepOfJson? := Step.ofJson?
  blank := Answers.blank
  toJson := Answers.toJson
  ofJson? := Answers.ofJson?
  first _ := .kind
  permitted _ := ["kind", "full_name"]
  validate _ _ _ := return .empty
  next _ _ _ := return .exit
  previous _ _ _ := return .exit
  nextAfterSubmit _ _ _ := return .exit
  completed _ _ _ := return false
  assign _ answers name value := answers.insert name value
  materialize _ _ := return ()
  upgrade := upgrade

end RenamedReferee

end Admissions.Sample
