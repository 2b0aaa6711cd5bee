import Admissions.Json.Value

namespace Admissions

open Json (Value)

def errorJson (kind message : String) : Value :=
  .record [("error", .string kind), ("message", .string message)]

inductive RecordError where
  | conflict
  | notFound
  | unavailable (cause : String)
deriving DecidableEq

namespace RecordError

def message : RecordError → String
  | .conflict => "record already exists"
  | .notFound => "record not found"
  | .unavailable cause => "repository unavailable: " ++ cause

def kind : RecordError → String
  | .conflict => "conflict"
  | .notFound => "not_found"
  | .unavailable _ => "unavailable"

def toJson (error : RecordError) : Value := errorJson error.kind error.message

end RecordError

/-- The calls that fail at present, and the cause that they give. -/
structure Outage (α : Type) where
  calls : List α
  cause : String

namespace Outage

variable {α : Type}

def none : Outage α := ⟨[], ""⟩

def check [BEq α] (outage : Outage α) (call : α) : Except RecordError Unit :=
  if outage.calls.contains call then .error (.unavailable outage.cause) else .ok ()

end Outage

end Admissions
