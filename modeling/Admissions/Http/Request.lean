import Admissions.Text.Numeral

namespace Admissions.Http

structure Request where
  method : String
  path : String
deriving DecidableEq

def tokenSymbols : List Char :=
  ['!', '#', '$', '%', '&', '\'', '*', '+', '-', '.', '^', '_', '\x60', '|', '~']

def isToken (s : String) : Bool :=
  !s.isEmpty && s.toList.all fun c => c.isAlphanum || tokenSymbols.contains c

namespace Target

def greatestLength : Nat := 65534

def inPath (c : Char) : Bool :=
  0x21 ≤ c.toNat && c ≠ '#' && c ≠ '<' && c ≠ '>' && c ≠ '?' && c ≠ '\x60' && c ≠ '\x7F'

def inQuery (c : Char) : Bool :=
  0x21 ≤ c.toNat && c ≠ '"' && c ≠ '#' && c ≠ '<' && c ≠ '>' && c ≠ '\x7F'

def path? (cs : List Char) : Option (List Char) :=
  let path := cs.takeWhile inPath
  match cs.drop path.length with
  | [] => some path
  | '#' :: _ => some path
  | '?' :: query =>
    match query.dropWhile inQuery with
    | [] => some path
    | '#' :: _ => some path
    | _ => none
  | _ => none

def inScheme (c : Char) : Bool := c.isAlphanum || ['+', '-', '.', '~'].contains c

def afterScheme? (cs : List Char) : Option (List Char) :=
  match cs.dropWhile inScheme with
  | ':' :: '/' :: '/' :: rest => if (cs.takeWhile inScheme).length ≤ 64 then some rest else none
  | _ => none

/-- What an authority has shown so far. A user's name and an address in brackets may hold colons,
    and percent signs, that do not count once the name or the address is over. -/
structure Authority where
  colons : Nat := 0
  percent : Bool := false
  opened : Bool := false
  closed : Bool := false
  named : Bool := false
deriving DecidableEq

namespace Authority

def symbols : List Char :=
  ['!', '$', '&', '\'', '(', ')', '*', '+', ',', '-', '.', ';', '=', '_', '~']

def after? (seen : Authority) (c : Char) : Option Authority :=
  let next := { seen with named := false }
  match c with
  | '@' => some { seen with colons := 0, percent := false, named := true }
  | ':' => if seen.colons < 8 then some { next with colons := seen.colons + 1 } else none
  | '%' => some { next with percent := true }
  | '[' => if seen.opened || seen.percent then none else some { next with opened := true }
  | ']' =>
    if seen.opened && !seen.closed then
      some { next with colons := 0, percent := false, closed := true }
    else none
  | c => if c.isAlphanum || symbols.contains c then some next else none

/-- Brackets come in a pair, at most one colon is left, for a port, and a host follows a name. -/
def isWhole (seen : Authority) : Bool :=
  seen.opened == seen.closed && seen.colons ≤ 1 && !seen.percent && !seen.named

end Authority

def isAuthority (cs : List Char) : Bool :=
  cs ≠ [] && (cs.foldlM Authority.after? {}).any (·.isWhole)

def absolutePath? (cs : List Char) : Option (List Char) :=
  match afterScheme? cs with
  | none => if isAuthority cs then some [] else none
  | some rest =>
    let authority := rest.takeWhile fun c => c ≠ '/' && c ≠ '?' && c ≠ '#'
    if isAuthority authority then
      (path? (rest.drop authority.length)).map fun path => if path = [] then ['/'] else path
    else none

end Target

def targetPath? (target : String) : Option String :=
  if target.utf8ByteSize > Target.greatestLength then none
  else
    match target.toList with
    | [] => none
    | ['*'] => some "*"
    | '/' :: rest => (Target.path? ('/' :: rest)).map String.ofList
    | cs => (Target.absolutePath? cs).map String.ofList

def Request.make? (method target : String) : Option Request :=
  if isToken method then (targetPath? target).map (⟨method, ·⟩) else none

end Admissions.Http
