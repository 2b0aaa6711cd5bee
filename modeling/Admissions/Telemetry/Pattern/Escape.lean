import Admissions.Telemetry.Pattern.Basic
import Admissions.Text.Blank
import Admissions.Text.Percent

namespace Admissions.Telemetry.Pattern

/-- Skips white space and comments, which run from `#` to the end of the line. -/
def skipGap (inComment : Bool) : List Char → List Char
  | [] => []
  | c :: rest =>
    if inComment then skipGap (c ≠ '\n') rest
    else if c = '#' then skipGap true rest
    else if Text.isBlank c then skipGap false rest
    else c :: rest

def afterGap (spaced : Bool) (cs : List Char) : List Char :=
  if spaced then skipGap false cs else cs

inductive Escape where
  | char (letter : Letter)
  | shorthand (negated : Bool)
  | edge
  | wordEdge
deriving DecidableEq

namespace Escape

def hexWidth? (c : Char) : Option Nat :=
  match c with
  | 'x' => some 2
  | 'u' => some 4
  | 'U' => some 8
  | _ => none

def hexDigits (spaced : Bool) : Nat → Nat → List Char → Option (Nat × List Char)
  | 0, value, cs => some (value, cs)
  | width + 1, value, cs => do
    let c :: rest := afterGap spaced cs | none
    hexDigits spaced width (16 * value + (← Text.hexValue c)) rest

def ofChar? (c : Char) : Option Escape :=
  match c with
  | 'd' | 's' | 'w' => some (.shorthand false)
  | 'D' | 'S' | 'W' => some (.shorthand true)
  | 'A' | 'z' => some .edge
  | 'b' | 'B' | '<' | '>' => some .wordEdge
  | 'a' => some (.char ⟨'\x07', false⟩)
  | 'f' => some (.char ⟨'\x0C', false⟩)
  | 't' => some (.char ⟨'\t', false⟩)
  | 'n' => some (.char ⟨'\n', false⟩)
  | 'r' => some (.char ⟨'\r', false⟩)
  | 'v' => some (.char ⟨'\x0B', false⟩)
  | c => if c.toNat < 0x80 ∧ !c.isAlphanum then some (.char ⟨c, false⟩) else none

def read? (spaced : Bool) : List Char → Option (Escape × List Char)
  | [] => none
  | c :: rest =>
    match hexWidth? c with
    | none => (ofChar? c).map (·, rest)
    | some width => do
      let (value, rest) ← hexDigits spaced width 0 rest
      if value.isValidChar then return (.char ⟨Char.ofNat value, c = 'x'⟩, rest) else none

def toSet? : Escape → Option CharSet
  | .char letter => some (.char letter)
  | .shorthand negated => some (.shorthand negated)
  | _ => none

def toPattern : Escape → Pattern
  | .char letter => .char letter
  | .shorthand negated => .shorthand negated
  | .edge => .edge
  | .wordEdge => .wordEdge

end Escape

end Admissions.Telemetry.Pattern
