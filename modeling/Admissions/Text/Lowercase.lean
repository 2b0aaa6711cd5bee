import Admissions.Text.CaseProperties
import Admissions.Text.Ranges

namespace Admissions.Text

def lowerChar (c : Char) : Char :=
  match capitalRuns.find? fun run =>
      run.first ≤ c.toNat && c.toNat ≤ run.last && (c.toNat - run.first) % run.stride == 0 with
  | some run => Char.ofNat (c.toNat + run.shift).toNat
  | none => c

def isCaseIgnorable (c : Char) : Bool := inRanges caseIgnorableRanges c.toNat

def isCased (c : Char) : Bool := inRanges casedRanges c.toNat

def leadsToCased (cs : List Char) : Bool :=
  match cs.dropWhile isCaseIgnorable with
  | c :: _ => isCased c
  | [] => false

/-- `before` holds the characters already read, the last one first. -/
def lowerFrom (before : List Char) : List Char → List Char
  | [] => []
  | c :: rest =>
    (if c = 'Σ' then
      if leadsToCased before && !leadsToCased rest then ['ς'] else ['σ']
    else if c = 'İ' then ['i', '\u0307']
    else [lowerChar c]) ++ lowerFrom (c :: before) rest

def lowercase (s : String) : String := String.ofList (lowerFrom [] s.toList)

end Admissions.Text
