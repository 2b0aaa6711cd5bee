import Admissions.Calendar.Date
import Admissions.Text.Blank

namespace Admissions.Calendar

inductive ReadingError where
  | invalid
  | tooShort
  | trailing
  | outOfRange
deriving DecidableEq

def ReadingError.message : ReadingError → String
  | .invalid => "input contains invalid characters"
  | .tooShort => "premature end of input"
  | .trailing => "trailing input"
  | .outOfRange => "input is out of range"

abbrev Reader (α : Type) := List Char → Except ReadingError (α × List Char)

namespace Reader

/-- One digit or more, at most `width` of them, of a number below `2 ^ 63`. -/
def digits (width : Nat) : Reader Nat := fun cs =>
  let found := (cs.take width).takeWhile Char.isDigit
  if cs = [] then .error .tooShort
  else if found = [] then .error .invalid
  else
    let n := Nat.ofDigitChars 10 found 0
    if n < 1 <<< 63 then .ok (n, cs.drop found.length) else .error .outOfRange

def field (width least greatest : Nat) : Reader Nat := fun cs => do
  let (n, rest) ← digits width (Text.trimStart cs)
  if least ≤ n ∧ n ≤ greatest then return (n, rest) else throw .outOfRange

/-- A year after white space: four digits at most, or as many as there are after a sign. -/
def year : Reader Int := fun cs => do
  let cs := Text.trimStart cs
  let (n, rest) ← (match cs with
    | '-' :: rest => do
      let (n, rest) ← digits rest.length rest
      return (-(n : Int), rest)
    | '+' :: rest => do
      let (n, rest) ← digits rest.length rest
      return ((n : Int), rest)
    | cs => do
      let (n, rest) ← digits 4 cs
      return ((n : Int), rest))
  if Int32.minValue.toInt ≤ n ∧ n ≤ Int32.maxValue.toInt then return (n, rest)
  else throw .outOfRange

def literal (c : Char) : Reader Unit := fun cs =>
  match cs with
  | [] => .error .tooShort
  | d :: rest => if c = d then .ok ((), rest) else .error .invalid

def month : Reader Nat := field 2 1 12

def dayOfMonth : Reader Nat := field 2 1 31

/-- Year, month and day with hyphens between them; `gap` is applied before each hyphen. -/
def yearMonthDay (gap : List Char → List Char) : Reader YearMonthDay := fun cs => do
  let (year, rest) ← year cs
  let (_, rest) ← literal '-' (gap rest)
  let (month, rest) ← month rest
  let (_, rest) ← literal '-' (gap rest)
  let (day, rest) ← dayOfMonth rest
  return ({ year, month, day }, rest)

end Reader

namespace Date

def ofReading (parts : YearMonthDay) (rest : List Char) : Except ReadingError Date :=
  if rest ≠ [] then .error .trailing
  else match ofYearMonthDay? parts with
    | some date => .ok date
    | none => .error .outOfRange

def read (text : String) : Except ReadingError Date := do
  let (parts, rest) ← Reader.yearMonthDay Text.trimStart text.toList
  ofReading parts (Text.trimStart rest)

def readPlain (text : String) : Except ReadingError Date := do
  let (parts, rest) ← Reader.yearMonthDay id (Text.trimChars text.toList)
  ofReading parts rest

def rejection (text : String) (error : ReadingError) : String :=
  "failed to parse '" ++ text ++ "' as YYYY-MM-DD (" ++ error.message ++ ")"

end Date

end Admissions.Calendar
