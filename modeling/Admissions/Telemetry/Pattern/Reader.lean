import Admissions.Telemetry.Pattern.SetReader
import Admissions.Text.Alphanumeric

namespace Admissions.Telemetry.Pattern

def modeNames : List Char := ['i', 'm', 's', 'U', 'u', 'R', 'x']

/-- Modes to turn on and, after a hyphen, modes to turn off, each named once. -/
def readModes? (names : List Char) : Option ModeChange :=
  let on := names.takeWhile (· ≠ '-')
  let off := names.drop (on.length + 1)
  let change (name : Char) : Option Bool :=
    if on.contains name then some true else if off.contains name then some false else none
  if names.getLast? ≠ some '-' ∧ (on ++ off).all modeNames.contains ∧ (on ++ off).Nodup then
    some ⟨change 'i', change 'u', change 'x'⟩
  else none

def isGroupName : List Char → Bool
  | [] => false
  | c :: rest =>
    (c = '_' || Text.isAlphabetic c) &&
      rest.all fun c => ['_', '.', '[', ']'].contains c || Text.isAlphanumeric c

inductive Opening where
  | directive (change : ModeChange)
  | plain (change : ModeChange)
  | capture (name : List Char)

namespace Opening

def named? (cs : List Char) : Option (Opening × List Char) :=
  let name := cs.takeWhile (· ≠ '>')
  match cs.drop name.length with
  | _ :: rest => if isGroupName name then some (.capture name, rest) else none
  | [] => none

def moded? (cs : List Char) : Option (Opening × List Char) := do
  let names := cs.takeWhile fun c => c ≠ ':' ∧ c ≠ ')'
  let change ← readModes? names
  match cs.drop names.length with
  | ':' :: rest => return (.plain change, rest)
  | _ :: rest => if names = [] then none else return (.directive change, rest)
  | [] => none

def read? : List Char → Option (Opening × List Char)
  | '?' :: 'P' :: '<' :: rest => named? rest
  | '?' :: '<' :: rest => named? rest
  | '?' :: rest => moded? rest
  | rest => some (.plain {}, rest)

end Opening

structure OpenGroup where
  change : ModeChange := {}
  spaced : Bool := false
  /-- The branches that are over, the last one first. -/
  branches : List Pattern := []
  parts : List Pattern := []

namespace OpenGroup

def add (group : OpenGroup) (part : Pattern) : OpenGroup :=
  { group with parts := part :: group.parts }

def branch (group : OpenGroup) : OpenGroup :=
  { group with branches := ofParts group.parts.reverse :: group.branches, parts := [] }

def content (group : OpenGroup) : Pattern := ofBranches group.branch.branches.reverse

def repeated? (group : OpenGroup) : Option OpenGroup :=
  match group.parts with
  | [] => none
  | .directive _ :: _ => none
  | part :: parts => some { group with parts := .repeated part :: parts }

end OpenGroup

structure Reading where
  group : OpenGroup := {}
  outer : List OpenGroup := []
  names : List (List Char) := []

namespace Reading

def add (reading : Reading) (part : Pattern) : Reading :=
  { reading with group := reading.group.add part }

def open? (reading : Reading) (opening : Opening) : Option Reading :=
  let group := reading.group
  let enter (change : ModeChange) : Reading :=
    { reading with
      group := { change, spaced := change.spaced.getD group.spaced }
      outer := group :: reading.outer }
  match opening with
  | .directive change =>
    let spaced := change.spaced.getD group.spaced
    some { reading with group := { group.add (.directive change) with spaced } }
  | .plain change => some (enter change)
  | .capture name =>
    if reading.names.contains name then none
    else some { enter {} with names := name :: reading.names }

def close? (reading : Reading) : Option Reading :=
  match reading.outer with
  | [] => none
  | parent :: outer =>
    let group := reading.group
    some { reading with group := parent.add (.group group.change group.content), outer }

def next? (reading : Reading) (c : Char) (rest : List Char) : Option (Reading × List Char) := do
  let group := reading.group
  match c with
  | '(' =>
    let (opening, rest) ← Opening.read? (afterGap group.spaced rest)
    return (← reading.open? opening, rest)
  | ')' => return (← reading.close?, rest)
  | '|' => return ({ reading with group := group.branch }, rest)
  | '[' =>
    let (set, rest) ← CharSet.read? group.spaced rest
    return (reading.add (.charSet set), rest)
  | '?' | '*' | '+' =>
    let lazy := rest.head? = some '?'
    return ({ reading with group := ← group.repeated? }, if lazy then rest.drop 1 else rest)
  | '\x7b' => none
  | '\\' =>
    let (escape, rest) ← Escape.read? group.spaced rest
    return (reading.add escape.toPattern, rest)
  | '.' => return (reading.add .anyChar, rest)
  | '^' | '$' => return (reading.add .edge, rest)
  | c => return (reading.add (.char ⟨c, false⟩), rest)

/-- Each round takes one character or more. -/
def finish? : Nat → Reading → List Char → Option Pattern
  | 0, _, _ => none
  | fuel + 1, reading, cs =>
    match afterGap reading.group.spaced cs with
    | [] => if reading.outer.isEmpty then some reading.group.content else none
    | c :: rest => do
      let (reading, rest) ← reading.next? c rest
      finish? fuel reading rest

end Reading

def read? (cs : List Char) : Option Pattern := Reading.finish? (cs.length + 1) {} cs

def isPattern (cs : List Char) : Bool := (read? cs).any isUsable

end Admissions.Telemetry.Pattern
