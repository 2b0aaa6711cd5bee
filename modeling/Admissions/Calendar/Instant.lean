import Admissions.Calendar.Reading

namespace Admissions.Calendar

structure Instant where
  date : Date
  second : Nat
  nano : Nat
deriving DecidableEq

namespace Instant

instance : Inhabited Instant := ⟨⟨default, 0, 0⟩⟩

def startOfDay (date : Date) : Instant := ⟨date, 0, 0⟩

def order (left right : Instant) : Ordering :=
  (compare left.date.day right.date.day).then
    ((compare left.second right.second).then (compare left.nano right.nano))

/-- The least of 0, 3, 6 and 9 digits that show a fraction of a second. -/
def fractionText (nano : Nat) : List Char :=
  if nano = 0 then []
  else if nano % 1000000 = 0 then '.' :: Text.padded 3 (nano / 1000000)
  else if nano % 1000 = 0 then '.' :: Text.padded 6 (nano / 1000)
  else '.' :: Text.padded 9 nano

def text (instant : Instant) : String :=
  let leap := instant.nano / 1000000000
  String.ofList (instant.date.text.toList ++ 'T' :: Text.padded 2 (instant.second / 3600) ++
    ':' :: Text.padded 2 (instant.second / 60 % 60) ++
    ':' :: Text.padded 2 (instant.second % 60 + leap) ++
    fractionText (instant.nano % 1000000000) ++ ['Z'])

/-- The instant whose clock shows this time at `offset` seconds east of UTC. -/
def atOffset? (date : Date) (second nano : Nat) (offset : Int) : Option Instant := do
  let total : Int := second - offset
  let date ← Date.ofDay? (date.day + total / 86400)
  return ⟨date, (total % 86400).toNat, nano⟩

end Instant

namespace Reader

/-- Nine digits of a fraction count; further ones are passed over. -/
def nanoseconds : Reader Nat := fun cs => do
  let (n, rest) ← digits 9 cs
  let read := cs.length - rest.length
  return (n * Nat.pow 10 (9 - read), rest.dropWhile Char.isDigit)

/-- Hours, minutes and seconds with colons between them, and a fraction after a point: the second
    of the day and its nanoseconds. Second 60 is a leap second. -/
def timeOfDay : Reader (Nat × Nat) := fun cs => do
  let (hour, rest) ← field 2 0 23 cs
  let (_, rest) ← literal ':' (Text.trimStart rest)
  let (minute, rest) ← field 2 0 59 rest
  let (_, rest) ← literal ':' (Text.trimStart rest)
  let (second, rest) ← field 2 0 60 rest
  let (nano, rest) ← (match rest with
    | '.' :: rest => nanoseconds rest
    | rest => return (0, rest))
  let (second, nano) := if second = 60 then (59, nano + 1000000000) else (second, nano)
  return ((hour * 3600 + minute * 60 + second, nano), rest)

def twoDigits : Reader Nat := fun cs =>
  match cs with
  | a :: b :: rest =>
    if a.isDigit ∧ b.isDigit then .ok (Nat.ofDigitChars 10 [a, b] 0, rest) else .error .invalid
  | _ => .error .tooShort

def signedOffset (negative : Bool) : Reader Int := fun cs => do
  let (hours, rest) ← twoDigits cs
  let (minutes, rest) ← twoDigits (rest.dropWhile fun c => c == ':' || Text.isBlank c)
  if minutes > 59 then throw .outOfRange
  let seconds : Int := hours * 3600 + minutes * 60
  return (if negative then -seconds else seconds, rest)

def offset : Reader Int := fun cs =>
  match cs with
  | [] => .error .tooShort
  | c :: rest =>
    if (cs.take 3).map Char.toUpper = ['U', 'T', 'C'] then .ok (0, cs.drop 3)
    else if c = 'Z' ∨ c = 'z' then .ok (0, rest)
    else if c = '+' then signedOffset false rest
    else if c = '-' ∨ c = '−' then signedOffset true rest
    else .error .invalid

end Reader

namespace Instant

def read (text : String) : Except ReadingError Instant := do
  let (parts, rest) ← Reader.yearMonthDay Text.trimStart text.toList
  let rest ← (match rest with
    | c :: rest => if c = 'T' ∨ c = 't' ∨ c = ' ' then .ok rest else .error .invalid
    | [] => .error .tooShort)
  let ((second, nano), rest) ← Reader.timeOfDay rest
  let (offset, rest) ← Reader.offset (Text.trimStart rest)
  if Text.trimStart rest ≠ [] then throw .trailing
  let date ← Date.ofReading parts []
  if offset.natAbs ≥ 86400 then throw .outOfRange
  match atOffset? date second nano offset with
  | some instant => return instant
  | none => throw .outOfRange

end Instant

end Admissions.Calendar
