import Admissions.Telemetry.FieldValue
import Admissions.Text.Alphanumeric
import Admissions.Text.Blank
import Admissions.Text.Numeral

namespace Admissions.Telemetry

/-- Takes precedence over the configured level when it holds a filter. -/
def filterVariable : String := "RUST_LOG"

def levelNames : List String := ["error", "warn", "info", "debug", "trace", "off"]

def isLevel (text : String) : Bool :=
  text.isEmpty || levelNames.contains (text.map Char.toLower) ||
    (Text.readUnsigned 6 text).isSome

def startsTarget (c : Char) : Bool := ['-', ':', '_'].contains c || Text.isAlphanumeric c

inductive Place where
  | target
  | span
  | field (empty : Bool)
  | afterFields
  | afterSpan
  | level
deriving DecidableEq

def Place.after? (place : Place) (c : Char) : Option Place :=
  match place, c with
  | .target, '=' => some .level
  | .target, '[' => some .span
  | .target, _ => some .target
  | .span, ']' => some .afterSpan
  | .span, '\x7b' => some (.field true)
  | .span, _ => some .span
  | .field true, '\x7d' => none
  | .field false, '\x7d' => some .afterFields
  | .field _, _ => some (.field false)
  | .afterFields, ']' => some .afterSpan
  | .afterFields, _ => none
  | .afterSpan, '=' => some .level
  | .afterSpan, _ => none
  | .level, _ => some .level

structure Layout where
  fields : Option (Nat × Nat) := none
  level : Option Nat := none
deriving DecidableEq

/-- Follows a directive from a place on, `bytes` from its start and `opened` from there to the last
    opening brace. -/
def follow (place : Place) (bytes opened : Nat) (layout : Layout) :
    List Char → Option (Place × Layout)
  | [] => some (place, layout)
  | c :: rest => do
    let after := bytes + c.utf8Size
    match ← place.after? c with
    | .field true => follow (.field true) after after layout rest
    | .afterFields =>
      follow .afterFields after opened { layout with fields := some (opened, bytes) } rest
    | .level => return (.level, { layout with level := some after })
    | place => follow place after opened layout rest

def dropBytes : Nat → List Char → List Char
  | 0, cs => cs
  | _, [] => []
  | n + 1, c :: rest => dropBytes (n + 1 - c.utf8Size) rest

def takeBytes : Nat → List Char → List Char
  | 0, _ => []
  | _, [] => []
  | n + 1, c :: rest => c :: takeBytes (n + 1 - c.utf8Size) rest

def firstPlace? (c : Char) : Option Place :=
  if c = '[' then some .span else if startsTarget c then some .target else none

def isField (cs : List Char) : Bool :=
  match cs.dropWhile (· ≠ '=') with
  | [] => true
  | _ :: rest => FieldValue.isFieldValue (rest.takeWhile (· ≠ '='))

def Layout.suits (layout : Layout) (text : List Char) : Bool :=
  (layout.fields.all fun (first, last) =>
      isField (takeBytes (last - first) (dropBytes first text))) &&
    layout.level.all fun bytes => isLevel (String.ofList (dropBytes bytes text))

/-- A directive. White space around it does not count, but its fields and its level are looked up
    at their distance from the first character that does. -/
def isDirective (text : List Char) : Bool :=
  match Text.trimChars text with
  | [] => false
  | c :: rest =>
    match (firstPlace? c).bind fun place => follow place c.utf8Size 0 {} rest with
    | some (place, layout) =>
      [Place.target, .afterSpan, .level].contains place && layout.suits text
    | none => false

def directives (cs : List Char) : List (List Char) :=
  (cs.splitOn ',').filter (!·.isEmpty)

def isFilter (text : String) : Bool := (directives text.toList).all isDirective

inductive TelemetryError where
  | invalidFilter (filter : String)
  | subscriber (cause : String)
deriving DecidableEq

def TelemetryError.message : TelemetryError → String
  | .invalidFilter filter =>
    "invalid log level/filter '" ++ filter ++ "': unable to build EnvFilter"
  | .subscriber cause => "telemetry error: " ++ cause

def chooseFilter (preferred : Option String) (configured : String) :
    Except TelemetryError String :=
  match preferred.filter isFilter with
  | some filter => .ok filter
  | none => if isFilter configured then .ok configured else .error (.invalidFilter configured)

end Admissions.Telemetry
