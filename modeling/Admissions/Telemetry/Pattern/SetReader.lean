import Admissions.Telemetry.Pattern.Escape

namespace Admissions.Telemetry.Pattern

def classNames : List String :=
  ["alnum", "alpha", "ascii", "blank", "cntrl", "digit", "graph", "lower", "print", "punct",
    "space", "upper", "word", "xdigit"]

/-- The class in `[:alpha:]` or `[:^alpha:]`, read from its first colon on: whether it is
    negated. -/
def readClass? : List Char → Option (Bool × List Char)
  | ':' :: rest =>
    let negated := rest.head? = some '^'
    let rest := if negated then rest.drop 1 else rest
    let name := rest.takeWhile (· ≠ ':')
    match rest.drop name.length with
    | ':' :: ']' :: after =>
      if classNames.contains (String.ofList name) then some (negated, after) else none
    | _ => none
  | _ => none

def readItem? (spaced : Bool) : List Char → Option (Escape × List Char)
  | [] => none
  | '\\' :: rest => Escape.read? spaced rest
  | c :: rest => some (.char ⟨c, false⟩, rest)

/-- The character that shows whether a hyphen makes a range: the next one, or in spaced text the
    next after white space and the sign of a comment. -/
def glimpse (spaced : Bool) (cs : List Char) : Option Char :=
  if spaced then
    match Text.trimStart cs with
    | '#' :: rest => (Text.trimStart rest).head?
    | cs => cs.head?
  else cs.head?

def CharSet.range? : Escape → Escape → Option CharSet
  | .char first, .char last => if first.char ≤ last.char then some (.range first last) else none
  | _, _ => none

def readPart? (spaced : Bool) (cs : List Char) : Option (CharSet × List Char) := do
  let (first, rest) ← readItem? spaced cs
  let rest := afterGap spaced rest
  match rest with
  | '-' :: afterHyphen =>
    if glimpse spaced afterHyphen = some ']' ∨ glimpse spaced afterHyphen = some '-' then
      return (← first.toSet?, rest)
    else
      let (last, rest) ← readItem? spaced (afterGap spaced afterHyphen)
      return (← CharSet.range? first last, rest)
  | _ => return (← first.toSet?, rest)

structure OpenSet where
  negated : Bool
  starting : Bool := true
  left : Option CharSet := none
  parts : List CharSet := []

namespace OpenSet

def add (set : OpenSet) (part : CharSet) : OpenSet :=
  { set with starting := false, parts := part :: set.parts }

def addChar (set : OpenSet) (c : Char) : OpenSet :=
  { set.add (.char ⟨c, false⟩) with starting := c = '-' }

/-- A character that stands for itself only because of its place. -/
def startsWith (set : OpenSet) (c : Char) : Bool :=
  set.starting && (c = '-' || c = ']' && set.parts.isEmpty)

def content (set : OpenSet) : CharSet :=
  let right := CharSet.ofParts set.parts.reverse
  match set.left with
  | none => right
  | some left => .operation left right

def operate (set : OpenSet) : OpenSet :=
  { set with starting := false, left := some set.content, parts := [] }

def close (set : OpenSet) : CharSet := .bracketed set.negated set.content

def ofStart (spaced : Bool) (cs : List Char) : OpenSet × List Char :=
  match afterGap spaced cs with
  | '^' :: rest => ({ negated := true }, rest)
  | rest => ({ negated := false }, rest)

end OpenSet

/-- Reads up to the end of the outermost set. Each round takes one character or more. -/
def readSet? (spaced : Bool) : Nat → OpenSet → List OpenSet → List Char →
    Option (CharSet × List Char)
  | 0, _, _, _ => none
  | fuel + 1, set, outer, cs =>
    match afterGap spaced cs with
    | [] => none
    | c :: rest =>
      if set.startsWith c then readSet? spaced fuel (set.addChar c) outer rest
      else if c = '[' then
        match readClass? rest with
        | some (negated, rest) => readSet? spaced fuel (set.add (.named negated)) outer rest
        | none =>
          let (inner, rest) := OpenSet.ofStart spaced rest
          readSet? spaced fuel inner (set :: outer) rest
      else if c = ']' then
        match outer with
        | [] => some (set.close, rest)
        | parent :: outer => readSet? spaced fuel (parent.add set.close) outer rest
      else if (c = '&' ∨ c = '-' ∨ c = '~') ∧ rest.head? = some c then
        readSet? spaced fuel set.operate outer (rest.drop 1)
      else do
        let (part, rest) ← readPart? spaced (c :: rest)
        readSet? spaced fuel (set.add part) outer rest

def CharSet.read? (spaced : Bool) (cs : List Char) : Option (CharSet × List Char) :=
  let (set, rest) := OpenSet.ofStart spaced cs
  readSet? spaced (rest.length + 1) set [] rest

end Admissions.Telemetry.Pattern
