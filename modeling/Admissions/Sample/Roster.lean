import Admissions.Wizard.Definition

namespace Admissions.Sample.Roster

open Json (Value)

inductive Step where
  | only
deriving DecidableEq

namespace Step

def name : Step → String
  | .only => "only"

def toJson (step : Step) : Value := .string step.name

def ofJson? : Value → Option Step := Value.choice? name [.only]

end Step

def wizard : Wizard.Definition where
  Step := Step
  Answers := List String
  Context := Unit
  Output := Unit
  Violation := Empty
  stepEq := inferInstance
  name := "list"
  schemaVersion := 1
  declared := [Step.only.name]
  describe := nofun
  stepName := Step.name
  stepToJson := Step.toJson
  stepOfJson? := Step.ofJson?
  blank := []
  toJson := .list .string
  ofJson? := Value.list? Value.string?
  first _ := .only
  permitted _ := ["item"]
  validate _ _ _ := return .empty
  next _ _ _ := return .exit
  previous _ _ _ := return .exit
  nextAfterSubmit _ _ _ := return .exit
  completed _ _ _ := return false
  assign _ answers name value := answers.insert name value
  materialize _ _ := return ()
  upgrade _ _ := none

end Admissions.Sample.Roster
