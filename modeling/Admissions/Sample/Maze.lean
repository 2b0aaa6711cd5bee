import Admissions.Wizard.Definition

namespace Admissions.Sample.Maze

open Json (Value Object)
open Wizard (Failure Target ValidationErrors)

structure Answers where
  routes : SortedMap String Value
  tags : List String
  extra : Value

namespace Answers

def blank : Answers := ⟨.empty, [], .null⟩

def fields : List String := ["routes", "tags", "extra"]

def toJson (answers : Answers) : Value :=
  .object [("extra", answers.extra), ("routes", .object answers.routes.entries),
    ("tags", .list .string answers.tags)]

def ofJson? (value : Value) : Option Answers := do
  let record ← value.record? fields
  return {
    routes := ← record.withDefault "routes" (Value.map? some some) .empty
    tags := ← record.withDefault "tags" (Value.list? Value.string?) []
    extra := ← record.withDefault "extra" some .null }

end Answers

inductive Step where
  | a
  | b
  | c
  | hidden
deriving DecidableEq

namespace Step

def all : List Step := [.a, .b, .c, .hidden]

def name : Step → String
  | .a => "a"
  | .b => "b"
  | .c => "c"
  | .hidden => "hidden"

def toJson (step : Step) : Value := .string step.name

def ofJson? : Value → Option Step := Value.choice? name all

end Step

inductive Violation where
  | noRoute (sign : String)
deriving DecidableEq

def Violation.describe : Violation → String
  | .noRoute sign => "no route from " ++ sign

def route (answers : Answers) (sign : String) : Except (Failure Violation) (Target Step) :=
  match answers.routes.get? sign with
  | none => .ok .exit
  | some value =>
    match Step.ofJson? value with
    | some step => .ok (.step step)
    | none => .error (.violated (.noRoute sign))

def validate (step : Step) (answers : Answers) : ValidationErrors :=
  ValidationErrors.empty.addIf (step = .b && !answers.tags.any Text.isPresent) "tags" "Enter a tag"

def wizard : Wizard.Definition where
  Step := Step
  Answers := Answers
  Context := Unit
  Output := Unit
  Violation := Violation
  stepEq := inferInstance
  name := "maze"
  schemaVersion := 3
  declared := [Step.a, .b, .c].map Step.name
  describe := Violation.describe
  stepName := Step.name
  stepToJson := Step.toJson
  stepOfJson? := Step.ofJson?
  blank := Answers.blank
  toJson := Answers.toJson
  ofJson? := Answers.ofJson?
  first _ := .a
  permitted _ := ["routes", "tags", "extra"]
  validate step answers _ := return validate step answers
  next step answers _ := route answers step.name
  previous step answers _ := route answers ("back_" ++ step.name)
  nextAfterSubmit step answers _ := route answers step.name
  completed _ _ _ := return false
  assign _ answers name value := answers.insert name value
  materialize _ _ := return ()
  upgrade version answers := some (answers.insert "extra" (.nat version))

end Admissions.Sample.Maze
