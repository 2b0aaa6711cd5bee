import Admissions.Permissions.Answers

namespace Admissions.Permissions

open Json (Value Object)
open Wizard (Failure Target ValidationErrors)

def permissionErrors (ticks : Ticks) : ValidationErrors :=
  Permission.all.foldl (fun errors permission =>
    let chosen := ((ticks.get? permission.key).getD []).filter Text.isPresent
    errors.addIf (chosen.isEmpty || chosen.any fun tick => (OrganisationType.ofTick? tick).isNone)
      permission.key ("Select which organisations can " ++ permission.phrase)) .empty

namespace Answers

def following? (answers : Answers) (relationship : UInt64) : Option UInt64 :=
  ((answers.relationships.dropWhile (· != relationship)).drop 1).head?

def preceding? (answers : Answers) (relationship : UInt64) : Option UInt64 :=
  if answers.relationships.contains relationship then
    (answers.relationships.takeWhile (· != relationship)).getLast?
  else none

def needsSetup (answers : Answers) (relationship : UInt64) : Bool :=
  match answers.ticks? relationship with
  | none => true
  | some ticks => !(permissionErrors ticks).isEmpty

def nextNeedingSetup (answers : Answers) : Option UInt64 :=
  answers.relationships.find? answers.needsSetup

end Answers

/-- Checks the selection from some place on, `seen` being the known relationships before it. -/
def validateSelection (context : Context) (errors : ValidationErrors) (seen : List UInt64) :
    List UInt64 → ValidationErrors
  | [] => errors
  | id :: rest =>
    if !context.offers id then
      validateSelection context (errors.add "provider_relationships"
        ("Unknown provider relationship " ++ toString id.toNat)) seen rest
    else if seen.contains id then
      validateSelection context (errors.add "provider_relationships"
        ("Provider relationship " ++ toString id.toNat ++ " is selected more than once")) seen rest
    else validateSelection context errors (id :: seen) rest

namespace Step

def permitted : Step → List String
  | .providerRelationships => ["provider_relationships", "checking_answers"]
  | .info => []
  | .permissions _ =>
    ["make_decisions", "view_safeguarding_information", "view_diversity_information",
      "checking_answers"]
  | .check => []

def validate (step : Step) (answers : Answers) (context : Context) : ValidationErrors :=
  match step with
  | .providerRelationships =>
    validateSelection context
      (ValidationErrors.empty.addIf answers.relationships.isEmpty "provider_relationships"
        "Select the organisations you want to set up permissions for")
      [] answers.relationships
  | .permissions relationship => permissionErrors ((answers.ticks? relationship).getD .empty)
  | .info => .empty
  | .check => .empty

def pageOf : Option UInt64 → Step
  | some relationship => .permissions relationship
  | none => .check

def next (step : Step) (answers : Answers) : Target Step :=
  match step with
  | .providerRelationships => .step .info
  | .info => .step (pageOf answers.relationships.head?)
  | .permissions relationship => .step (pageOf (answers.following? relationship))
  | .check => .exit

/-- While answers are checked, a submitted page leads to the first relationship that still needs
    setup, or back to the check page. -/
def nextAfterSubmit (step : Step) (answers : Answers) : Target Step :=
  if answers.checkingAnswers && step ≠ .check then .step (pageOf answers.nextNeedingSetup)
  else step.next answers

def previous (step : Step) (answers : Answers) : Target Step :=
  if answers.checkingAnswers && step ≠ .check then .step .check
  else
    match step with
    | .providerRelationships => .exit
    | .info => .step .providerRelationships
    | .permissions relationship =>
      .step (((answers.preceding? relationship).map .permissions).getD .info)
    | .check => .step ((answers.relationships.getLast?.map .permissions).getD .info)

def completed (step : Step) (answers : Answers) : Bool :=
  step = .check && answers.nextNeedingSetup.isNone

end Step

def withoutRepeats (kept : List Value) : List Value → List Value
  | [] => kept
  | item :: rest =>
    if kept.any item.same then withoutRepeats kept rest else withoutRepeats (kept ++ [item]) rest

/-- The object under a name; an empty one where there is anything else. -/
def objectUnder (members : Object) (name : String) : Object :=
  match members.get? name with
  | some (.object inner) => inner
  | _ => []

/-- The page of a relationship files ticks under it. Elsewhere a relationship selected twice is
    kept once, in its first place. -/
def assign (step : Step) (answers : Object) (name : String) (value : Value) : Object :=
  match step with
  | .permissions relationship =>
    if (Permission.ofKey? name).isNone then answers.insert name value
    else
      let all := objectUnder answers "provider_relationship_permissions"
      let id := toString relationship.toNat
      let ticks := (objectUnder all id).insert name value
      answers.insert "provider_relationship_permissions" (.object (all.insert id (.object ticks)))
  | _ =>
    match name, value with
    | "provider_relationships", .array items =>
      answers.insert name (.array (withoutRepeats [] items))
    | _, value => answers.insert name value

def agreed (ticks : Ticks) : List (Permission × List OrganisationType) :=
  Permission.all.map fun permission =>
    (permission, Setup.inOrder
      (((ticks.get? permission.key).getD []).filterMap OrganisationType.ofTick?))

def materialize (answers : Answers) (context : Context) : Result (List Setup) :=
  answers.relationships.mapM fun id =>
    if !context.offers id then throw (.violated (.notOffered id))
    else
      match answers.ticks? id with
      | none => throw (.violated (.withoutPermissions id))
      | some ticks => return ⟨id, agreed ticks⟩

def wizard : Wizard.Definition where
  Step := Step
  Answers := Answers
  Context := Context
  Output := List Setup
  Violation := Violation
  stepEq := inferInstance
  name := "provider_relationship_permissions_setup_wizard"
  schemaVersion := 1
  declared := Step.names
  describe := Violation.describe
  stepName := Step.name
  stepToJson := Step.toJson
  stepOfJson? := Step.ofJson?
  blank := Answers.blank
  toJson := Answers.toJson
  ofJson? := Answers.ofJson?
  first _ := .providerRelationships
  permitted := Step.permitted
  validate step answers context := return step.validate answers context
  next step answers _ := return step.next answers
  previous step answers _ := return step.previous answers
  nextAfterSubmit step answers _ := return step.nextAfterSubmit answers
  completed step answers _ := return step.completed answers
  assign := assign
  materialize := materialize
  upgrade _ _ := none

end Admissions.Permissions
