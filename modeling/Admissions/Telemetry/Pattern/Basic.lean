namespace Admissions.Telemetry

structure ModeChange where
  ignoreCase : Option Bool := none
  unicode : Option Bool := none
  /-- White space and comments between the parts of a pattern. -/
  spaced : Option Bool := none
deriving DecidableEq

structure Modes where
  ignoreCase : Bool := false
  unicode : Bool := true
deriving DecidableEq

def Modes.apply (modes : Modes) (change : ModeChange) : Modes :=
  ⟨change.ignoreCase.getD modes.ignoreCase, change.unicode.getD modes.unicode⟩

structure Letter where
  char : Char
  asByte : Bool := false
deriving DecidableEq

def Letter.isAscii (letter : Letter) : Bool := letter.char.toNat < 0x80

inductive CharSet where
  | char (letter : Letter)
  | range (first last : Letter)
  | named (negated : Bool)
  | shorthand (negated : Bool)
  | union (parts : List CharSet)
  | operation (left right : CharSet)
  | bracketed (negated : Bool) (content : CharSet)

inductive Pattern where
  | empty
  | char (letter : Letter)
  | anyChar
  | edge
  | wordEdge
  | shorthand (negated : Bool)
  | charSet (content : CharSet)
  | directive (change : ModeChange)
  | repeated (part : Pattern)
  | group (change : ModeChange) (content : Pattern)
  | branches (options : List Pattern)
  | sequence (parts : List Pattern)

namespace CharSet

def ofParts : List CharSet → CharSet
  | [part] => part
  | parts => .union parts

mutual

def depth : CharSet → Nat
  | .bracketed _ content => content.depth + 1
  | .operation left right => max left.depth right.depth + 1
  | .union [] => 0
  | .union (part :: rest) => max part.depth (greatestDepth rest) + 1
  | _ => 0

def greatestDepth : List CharSet → Nat
  | [] => 0
  | part :: rest => max part.depth (greatestDepth rest)

end

/-- A set of bytes holds ASCII only. -/
def admitsLetter (modes : Modes) (letter : Letter) : Bool :=
  if modes.unicode then !modes.ignoreCase else letter.isAscii

mutual

def isUsable (modes : Modes) : CharSet → Bool
  | .char letter => admitsLetter modes letter
  | .range first last => admitsLetter modes first && admitsLetter modes last
  | .named negated => if modes.unicode then !modes.ignoreCase else !negated
  | .shorthand negated => !modes.unicode && !negated
  | .union parts => areUsable modes parts
  | .operation left right => left.isUsable modes && right.isUsable modes
  | .bracketed negated content => (modes.unicode || !negated) && content.isUsable modes

def areUsable (modes : Modes) : List CharSet → Bool
  | [] => true
  | part :: rest => part.isUsable modes && areUsable modes rest

end

end CharSet

namespace Pattern

def ofParts : List Pattern → Pattern
  | [] => .empty
  | [part] => part
  | parts => .sequence parts

def ofBranches : List Pattern → Pattern
  | [branch] => branch
  | options => .branches options

mutual

def depth : Pattern → Nat
  | .charSet content => content.depth
  | .repeated part => part.depth + 1
  | .group _ content => content.depth + 1
  | .branches options => greatestDepth options + 1
  | .sequence parts => greatestDepth parts + 1
  | _ => 0

def greatestDepth : List Pattern → Nat
  | [] => 0
  | part :: rest => max part.depth (greatestDepth rest)

end

mutual

/-- The modes after a pattern, if it can be matched under those before. A directive holds up to the
    end of its group, across branches. -/
def modesAfter? (modes : Modes) : Pattern → Option Modes
  | .empty => some modes
  | .edge => some modes
  | .char letter =>
    let usable := if modes.unicode then !modes.ignoreCase else letter.isAscii || !letter.asByte
    if usable then some modes else none
  | .anyChar => if modes.unicode then some modes else none
  | .wordEdge => if modes.unicode then none else some modes
  | .shorthand negated => if modes.unicode || negated then none else some modes
  | .charSet content => if content.isUsable modes then some modes else none
  | .directive change => some (modes.apply change)
  | .repeated part => part.modesAfter? modes
  | .group change content => (content.modesAfter? (modes.apply change)).map fun _ => modes
  | .branches options => modesAfterAll? modes options
  | .sequence parts => modesAfterAll? modes parts

def modesAfterAll? (modes : Modes) : List Pattern → Option Modes
  | [] => some modes
  | part :: rest => do modesAfterAll? (← part.modesAfter? modes) rest

end

def greatestDepthAllowed : Nat := 250

def isUsable (pattern : Pattern) : Bool :=
  pattern.depth ≤ greatestDepthAllowed && (pattern.modesAfter? {}).isSome

end Pattern

end Admissions.Telemetry
