import Admissions.Text.Numeral

namespace Admissions.Calendar

def firstDay : Int := -96465292

def lastDay : Int := 95026236

structure Date where
  day : Int
  inCalendar : firstDay ≤ day ∧ day ≤ lastDay
deriving DecidableEq

namespace Date

@[ext] theorem ext {left right : Date} (same : left.day = right.day) : left = right := by
  cases left; cases right; cases same; rfl

instance : Inhabited Date := ⟨⟨0, by decide⟩⟩

instance : LE Date := ⟨fun left right => left.day ≤ right.day⟩

instance : LT Date := ⟨fun left right => left.day < right.day⟩

instance (left right : Date) : Decidable (left ≤ right) :=
  inferInstanceAs (Decidable (left.day ≤ right.day))

instance (left right : Date) : Decidable (left < right) :=
  inferInstanceAs (Decidable (left.day < right.day))

def max (left right : Date) : Date := if left ≤ right then right else left

def ofDay? (day : Int) : Option Date :=
  if h : firstDay ≤ day ∧ day ≤ lastDay then some ⟨day, h⟩ else none

def first : Date := ⟨firstDay, by decide⟩

def last : Date := ⟨lastDay, by decide⟩

def clamp (day : Int) : Date :=
  if low : day < firstDay then first
  else if high : lastDay < day then last
  else ⟨day, by omega⟩

def weekday (date : Date) : Int := (date.day + 3) % 7

def isWeekend (date : Date) : Bool := date.weekday ≥ 5

end Date

structure YearMonthDay where
  year : Int
  month : Int
  day : Int
deriving DecidableEq

def isLeap (year : Int) : Bool := year % 4 = 0 ∧ (year % 100 ≠ 0 ∨ year % 400 = 0)

def daysInMonth (year month : Int) : Int :=
  if month = 2 then (if isLeap year then 29 else 28)
  else if month = 4 ∨ month = 6 ∨ month = 9 ∨ month = 11 then 30
  else 31

/-- Counts years from March, so that a leap day ends its year. -/
def YearMonthDay.dayNumber (date : YearMonthDay) : Int :=
  let year := if date.month ≤ 2 then date.year - 1 else date.year
  let yearOfEra := year % 400
  let dayOfYear := (153 * ((date.month + 9) % 12) + 2) / 5 + date.day - 1
  let dayOfEra := yearOfEra * 365 + yearOfEra / 4 - yearOfEra / 100 + dayOfYear
  year / 400 * 146097 + dayOfEra - 719468

namespace Date

def yearMonthDay (date : Date) : YearMonthDay :=
  let shifted := date.day + 719468
  let dayOfEra := shifted % 146097
  let yearOfEra :=
    (dayOfEra - dayOfEra / 1460 + dayOfEra / 36524 - dayOfEra / 146096) / 365
  let dayOfYear := dayOfEra - (365 * yearOfEra + yearOfEra / 4 - yearOfEra / 100)
  let fromMarch := (5 * dayOfYear + 2) / 153
  let month := if fromMarch < 10 then fromMarch + 3 else fromMarch - 9
  let year := yearOfEra + shifted / 146097 * 400
  { year := if month ≤ 2 then year + 1 else year
    month
    day := dayOfYear - (153 * fromMarch + 2) / 5 + 1 }

def year (date : Date) : Int := date.yearMonthDay.year

def ofYearMonthDay? (parts : YearMonthDay) : Option Date :=
  if 1 ≤ parts.month ∧ parts.month ≤ 12 ∧ 1 ≤ parts.day ∧
      parts.day ≤ daysInMonth parts.year parts.month then ofDay? parts.dayNumber
  else none

def withYear? (date : Date) (year : Int) : Option Date :=
  ofYearMonthDay? { date.yearMonthDay with year }

/-- Four digits, or a sign and at least four outside the years 0 to 9999. -/
def yearText (year : Int) : List Char :=
  if 0 ≤ year ∧ year ≤ 9999 then Text.padded 4 year.toNat
  else (if year < 0 then '-' else '+') :: Text.padded 4 year.natAbs

def text (date : Date) : String :=
  let parts := date.yearMonthDay
  String.ofList
    (yearText parts.year ++ '-' :: Text.padded 2 parts.month.toNat ++
      '-' :: Text.padded 2 parts.day.toNat)

def monthNames : List String :=
  ["January", "February", "March", "April", "May", "June", "July", "August", "September",
    "October", "November", "December"]

def govukText (date : Date) : String :=
  let parts := date.yearMonthDay
  let month := (monthNames[(parts.month - 1).toNat]?).getD ""
  let day := Nat.toDigits 10 parts.day.toNat
  String.ofList (day ++ ' ' :: month.toList ++ ' ' :: yearText parts.year)

end Date

end Admissions.Calendar
