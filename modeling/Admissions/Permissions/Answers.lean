import Admissions.Json.Decoding
import Admissions.Text.Blank
import Admissions.Wizard.Definition

namespace Admissions.Permissions

open Json (Value Object)

inductive Permission where
  | makeDecisions
  | viewSafeguardingInformation
  | viewDiversityInformation
deriving DecidableEq

namespace Permission

def all : List Permission :=
  [.makeDecisions, .viewSafeguardingInformation, .viewDiversityInformation]

def key : Permission → String
  | .makeDecisions => "make_decisions"
  | .viewSafeguardingInformation => "view_safeguarding_information"
  | .viewDiversityInformation => "view_diversity_information"

def ofKey? (key : String) : Option Permission := all.find? (·.key == key)

def phrase : Permission → String
  | .makeDecisions => "make decisions"
  | .viewSafeguardingInformation => "view safeguarding information"
  | .viewDiversityInformation => "view diversity information"

def toJson (permission : Permission) : Value := .string permission.key

def ofJson? : Value → Option Permission := Value.choice? key all

end Permission

inductive OrganisationType where
  | trainingProvider
  | ratifyingProvider
deriving DecidableEq

namespace OrganisationType

def all : List OrganisationType := [.trainingProvider, .ratifyingProvider]

def name : OrganisationType → String
  | .trainingProvider => "training_provider"
  | .ratifyingProvider => "ratifying_provider"

/-- The organisation that a ticked value names; white space around it does not count. -/
def ofTick? (tick : String) : Option OrganisationType := all.find? (·.name == Text.trim tick)

def toJson (organisation : OrganisationType) : Value := .string organisation.name

def ofJson? : Value → Option OrganisationType := Value.choice? name all

end OrganisationType

structure Relationship where
  id : UInt64
  trainingProviderName : String
  ratifyingProviderName : String
deriving DecidableEq

namespace Relationship

def fields : List String := ["id", "training_provider_name", "ratifying_provider_name"]

def toJson (relationship : Relationship) : Value :=
  .record [("id", .uint64 relationship.id),
    ("training_provider_name", .string relationship.trainingProviderName),
    ("ratifying_provider_name", .string relationship.ratifyingProviderName)]

def ofJson? (value : Value) : Option Relationship := do
  let record ← value.record? fields
  return {
    id := ← record.required "id" Value.uint64?
    trainingProviderName := ← record.required "training_provider_name" Value.string?
    ratifyingProviderName := ← record.required "ratifying_provider_name" Value.string? }

end Relationship

abbrev Ticks := SortedMap String (List String)

structure Answers where
  relationships : List UInt64
  permissions : SortedMap UInt64 Ticks
  /-- The user came back from the check page to change an answer. -/
  checkingAnswers : Bool
deriving DecidableEq

namespace Answers

def blank : Answers := ⟨[], .empty, false⟩

def fields : List String :=
  ["provider_relationships", "provider_relationship_permissions", "checking_answers"]

def ticksToJson (ticks : Ticks) : Value :=
  .object (ticks.entries.map fun entry => (entry.1, .list .string entry.2))

def ticksOfJson? : Value → Option Ticks := Value.map? some (Value.list? Value.string?)

def toJson (answers : Answers) : Value :=
  .object [("checking_answers", .bool answers.checkingAnswers),
    ("provider_relationship_permissions", .record (answers.permissions.entries.map fun entry =>
      (toString entry.1.toNat, ticksToJson entry.2))),
    ("provider_relationships", .list .uint64 answers.relationships)]

def ofJson? (value : Value) : Option Answers := do
  let record ← value.record? fields
  return {
    relationships :=
      ← record.withDefault "provider_relationships" (Value.list? Value.uint64?) []
    permissions := ← record.withDefault "provider_relationship_permissions"
      (Value.map? Json.uint64Key? ticksOfJson?) .empty
    checkingAnswers := ← record.withDefault "checking_answers" Value.bool? false }

def ticks? (answers : Answers) (relationship : UInt64) : Option Ticks :=
  answers.permissions.get? relationship

end Answers

inductive Step where
  | providerRelationships
  | info
  | permissions (relationship : UInt64)
  | check
deriving DecidableEq

namespace Step

def names : List String := ["provider_relationships", "info", "permissions", "check"]

def name : Step → String
  | .providerRelationships => "provider_relationships"
  | .info => "info"
  | .permissions _ => "permissions"
  | .check => "check"

/-- The page of a relationship is an object with the relationship under the page's name. -/
def toJson : Step → Value
  | .permissions relationship => .object [("permissions", .uint64 relationship)]
  | step => .string step.name

def ofJson? : Value → Option Step
  | .object [("permissions", value)] => value.uint64?.map .permissions
  | value => value.choice? name [.providerRelationships, .info, .check]

end Step

structure Context where
  relationships : List Relationship

def Context.offers (context : Context) (id : UInt64) : Bool :=
  context.relationships.any (·.id == id)

inductive Violation where
  | notOffered (relationship : UInt64)
  | withoutPermissions (relationship : UInt64)
deriving DecidableEq

def Violation.describe : Violation → String
  | .notOffered relationship =>
    "provider relationship " ++ toString relationship.toNat ++ " is not available for setup"
  | .withoutPermissions relationship =>
    "provider relationship " ++ toString relationship.toNat ++ " has no permissions"

abbrev Result (α : Type) : Type := Except (Wizard.Failure Violation) α

/-- What is agreed for a relationship: the organisations that have each permission. A permission
    that is not listed has not been agreed on. -/
structure Setup where
  relationship : UInt64
  permissions : List (Permission × List OrganisationType)
deriving DecidableEq

namespace Setup

def fields : List String := ["relationship_id", "permissions"]

def allows (setup : Setup) (permission : Permission) (organisation : OrganisationType) : Bool :=
  (setup.permissions.lookup permission).any (·.contains organisation)

def inOrder (organisations : List OrganisationType) : List OrganisationType :=
  OrganisationType.all.filter organisations.contains

def toJson (setup : Setup) : Value :=
  .record [("relationship_id", .uint64 setup.relationship),
    ("permissions", .record (setup.permissions.map fun entry =>
      (entry.1.key, .list OrganisationType.toJson entry.2)))]

def permissionsOfJson? : Value → Option (List (Permission × List OrganisationType))
  | .object members => do
    let entries ← members.mapM fun (name, value) => do
      let permission ← Permission.ofKey? name
      return (permission, inOrder (← value.list? OrganisationType.ofJson?))
    return Permission.all.filterMap fun permission =>
      (entries.lookup permission).map (permission, ·)
  | _ => none

def ofJson? (value : Value) : Option Setup := do
  let record ← value.record? fields
  return {
    relationship := ← record.required "relationship_id" Value.uint64?
    permissions := ← record.required "permissions" permissionsOfJson? }

end Setup

end Admissions.Permissions
