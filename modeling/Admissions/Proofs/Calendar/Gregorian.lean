import Admissions.Calendar.Date

namespace Admissions.Calendar

structure YearMonthDay.Exists (parts : YearMonthDay) : Prop where
  month : 1 ≤ parts.month ∧ parts.month ≤ 12
  day : 1 ≤ parts.day ∧ parts.day ≤ daysInMonth parts.year parts.month

def yearStart (year : Int) : Int := 365 * year + year / 4 - year / 100

def yearOfDay (day : Int) : Int := (day - day / 1460 + day / 36524 - day / 146096) / 365

def monthStart (month : Int) : Int := (153 * month + 2) / 5

def monthOfDay (day : Int) : Int := (5 * day + 2) / 153

/-- The year, counted from March, has the day. Its last day is the leap day of the next year, as
    years are usually counted. -/
def IsDayOf (year day : Int) : Prop := 0 ≤ day ∧ (day ≤ 364 ∨ day = 365 ∧ isLeap (year + 1) = true)

theorem isLeap_iff {year : Int} :
    isLeap year = true ↔ year % 4 = 0 ∧ (year % 100 ≠ 0 ∨ year % 400 = 0) := by
  simp [isLeap]

theorem isLeap_add_eras (year eras : Int) : isLeap (year + eras * 400) = isLeap year := by
  have fours : (year + eras * 400) % 4 = year % 4 := by omega
  have centuries : (year + eras * 400) % 100 = year % 100 := by omega
  have whole : (year + eras * 400) % 400 = year % 400 := by omega
  unfold isLeap
  rw [fours, centuries, whole]

section

variable {day year : Int}

theorem century_cases (low : 0 ≤ year) (high : year ≤ 399) :
    year / 100 = 0 ∨ year / 100 = 1 ∨ year / 100 = 2 ∨ year / 100 = 3 := by
  omega

theorem correction_cases (low : 0 ≤ day) (high : day < 146097) :
    (day / 36524 = 0 ∨ day / 36524 = 1 ∨ day / 36524 = 2 ∨ day / 36524 = 3 ∨
      day / 36524 = 4) ∧
    (day / 146096 = 0 ∨ day / 146096 = 1) := by
  omega

theorem yearOfDay_bounds (low : 0 ≤ day) (high : day < 146097) :
    0 ≤ yearOfDay day ∧ yearOfDay day ≤ 399 := by
  unfold yearOfDay
  omega

theorem yearOfDay_yearStart (low : 0 ≤ year) (high : year ≤ 399) (within : IsDayOf year day) :
    yearOfDay (yearStart year + day) = year := by
  obtain ⟨first, last⟩ := within
  rw [isLeap_iff] at last
  -- All four divisions at once are too much for `omega`; three of them have few values each.
  have century := century_cases low high
  generalize reached : yearStart year + day = total
  unfold yearStart at reached
  have bounds : 0 ≤ total ∧ total < 146097 := by
    rcases century with century | century | century | century <;> omega
  obtain ⟨centuries, whole⟩ := correction_cases bounds.1 bounds.2
  unfold yearOfDay
  rcases century with century | century | century | century <;>
    rcases whole with whole | whole <;>
    rcases centuries with centuries | centuries | centuries | centuries | centuries <;> omega

theorem yearStart_yearOfDay (low : 0 ≤ day) (high : day < 146097) :
    yearStart (yearOfDay day) ≤ day ∧ day ≤ yearStart (yearOfDay day) + 365 := by
  have bounds := yearOfDay_bounds low high
  have century := century_cases bounds.1 bounds.2
  obtain ⟨centuries, whole⟩ := correction_cases low high
  generalize reached : yearOfDay day = year at *
  unfold yearOfDay at reached
  unfold yearStart
  rcases century with century | century | century | century <;>
    rcases whole with whole | whole <;>
    rcases centuries with centuries | centuries | centuries | centuries | centuries <;> omega

theorem yearStart_next (common : isLeap (year + 1) = false) :
    yearStart (year + 1) = yearStart year + 365 := by
  have notLeap : ¬((year + 1) % 4 = 0 ∧ ((year + 1) % 100 ≠ 0 ∨ (year + 1) % 400 = 0)) := by
    rw [← isLeap_iff, common]
    simp
  unfold yearStart
  omega

theorem isDayOf_yearOfDay (low : 0 ≤ day) (high : day < 146097) :
    IsDayOf (yearOfDay day) (day - yearStart (yearOfDay day)) := by
  have bounds := yearOfDay_bounds low high
  obtain ⟨start, rest⟩ := yearStart_yearOfDay low high
  refine ⟨by omega, ?_⟩
  by_cases early : day - yearStart (yearOfDay day) ≤ 364
  · exact .inl early
  · have last : day = yearStart (yearOfDay day) + 365 := by omega
    refine .inr ⟨by omega, ?_⟩
    cases leap : isLeap (yearOfDay day + 1) with
    | true => rfl
    | false =>
      -- Then the day is the first one of the next year, and that year is found for it.
      have inside : yearOfDay day + 1 ≤ 399 := by
        by_cases final : yearOfDay day = 399
        · rw [final] at leap
          contradiction
        · omega
      have next : yearOfDay (yearStart (yearOfDay day + 1) + 0) = yearOfDay day + 1 :=
        yearOfDay_yearStart (by omega) inside ⟨by omega, .inl (by omega)⟩
      rw [yearStart_next leap, Int.add_zero, ← last] at next
      omega

end

def countDays (year day : Int) : Int :=
  year / 400 * 146097 + (yearStart (year % 400) + day) - 719468

theorem IsDayOf.inEra {year day : Int} (within : IsDayOf year day) : IsDayOf (year % 400) day := by
  have same : isLeap (year % 400 + 1) = isLeap (year + 1) := by
    rw [← isLeap_add_eras (year % 400 + 1) (year / 400)]
    congr 1
    omega
  unfold IsDayOf
  rw [same]
  exact within

theorem IsDayOf.lt_era {year day : Int} (within : IsDayOf year day) :
    0 ≤ yearStart (year % 400) + day ∧ yearStart (year % 400) + day < 146097 := by
  obtain ⟨first, last⟩ := within
  unfold yearStart
  omega

theorem countDays_injective {year other day late : Int} (within : IsDayOf year day)
    (also : IsDayOf other late) (same : countDays year day = countDays other late) :
    year = other ∧ day = late := by
  have first := within.lt_era
  have second := also.lt_era
  unfold countDays at same
  have era : year / 400 = other / 400 := by omega
  have rest : yearStart (year % 400) + day = yearStart (other % 400) + late := by omega
  have found : yearOfDay (yearStart (year % 400) + day) = year % 400 :=
    yearOfDay_yearStart (by omega) (by omega) within.inEra
  have foundAlso : yearOfDay (yearStart (other % 400) + late) = other % 400 :=
    yearOfDay_yearStart (by omega) (by omega) also.inEra
  rw [rest, foundAlso] at found
  rw [found] at rest
  omega

def ofMarch (year month day : Int) : YearMonthDay :=
  let fromJanuary := if month < 10 then month + 3 else month - 9
  { year := if fromJanuary ≤ 2 then year + 1 else year
    month := fromJanuary
    day }

section

variable {year month day : Int}

theorem dayNumber_ofMarch (low : 0 ≤ month) (high : month ≤ 11) :
    (ofMarch year month day).dayNumber = countDays year (monthStart month + day - 1) := by
  unfold ofMarch YearMonthDay.dayNumber countDays yearStart monthStart
  by_cases early : month < 10
  · have late : ¬month + 3 ≤ 2 := by omega
    have back : (month + 3 + 9) % 12 = month := by omega
    simp only [early, late, back, ↓reduceIte]
    omega
  · have january : month - 9 ≤ 2 := by omega
    have back : (month - 9 + 9) % 12 = month := by omega
    simp only [early, january, back, ↓reduceIte, Int.add_sub_cancel]
    omega

theorem eq_ofMarch {parts : YearMonthDay} (there : parts.Exists) :
    parts = ofMarch (if parts.month ≤ 2 then parts.year - 1 else parts.year)
      ((parts.month + 9) % 12) parts.day := by
  obtain ⟨year, month, day⟩ := parts
  obtain ⟨low, high⟩ : 1 ≤ month ∧ month ≤ 12 := there.month
  unfold ofMarch
  by_cases early : month ≤ 2
  · have back : (month + 9) % 12 = month + 9 := by omega
    have late : ¬month + 9 < 10 := by omega
    simp [early, back, late]
  · have back : (month + 9) % 12 = month - 3 := by omega
    have late : month - 3 < 10 := by omega
    simp [early, back, late]

theorem month_cases (low : 0 ≤ month) (high : month ≤ 11) :
    month = 0 ∨ month = 1 ∨ month = 2 ∨ month = 3 ∨ month = 4 ∨ month = 5 ∨ month = 6 ∨
      month = 7 ∨ month = 8 ∨ month = 9 ∨ month = 10 ∨ month = 11 := by
  omega

theorem daysInMonth_ofMarch (low : 0 ≤ month) (high : month ≤ 11) :
    daysInMonth (ofMarch year month day).year (ofMarch year month day).month =
      if month = 11 then (if isLeap (year + 1) then 29 else 28)
      else monthStart (month + 1) - monthStart month := by
  rcases month_cases low high with
    rfl | rfl | rfl | rfl | rfl | rfl | rfl | rfl | rfl | rfl | rfl | rfl <;> rfl

theorem monthOfDay_monthStart (low : 0 ≤ month) (high : month ≤ 11) (first : 1 ≤ day)
    (last : day ≤ daysInMonth (ofMarch year month day).year (ofMarch year month day).month) :
    IsDayOf year (monthStart month + day - 1) ∧
      monthOfDay (monthStart month + day - 1) = month := by
  rw [daysInMonth_ofMarch low high] at last
  unfold IsDayOf
  unfold monthOfDay monthStart at *
  by_cases february : month = 11
  · subst february
    simp only [↓reduceIte] at last
    cases leap : isLeap (year + 1) <;> simp only [leap, Bool.false_eq_true, ↓reduceIte] at last <;>
      simp <;> omega
  · rw [if_neg february] at last
    refine ⟨⟨by omega, .inl (by omega)⟩, by omega⟩

theorem exists_ofMarch (within : IsDayOf year day) :
    0 ≤ monthOfDay day ∧ monthOfDay day ≤ 11 ∧
      (ofMarch year (monthOfDay day) (day - monthStart (monthOfDay day) + 1)).Exists := by
  obtain ⟨first, last⟩ := within
  have bound : day ≤ 365 := by omega
  have low : 0 ≤ monthOfDay day := by
    unfold monthOfDay
    omega
  have high : monthOfDay day ≤ 11 := by
    unfold monthOfDay
    omega
  refine ⟨low, high, ⟨?_, ?_, ?_⟩⟩
  · unfold ofMarch
    dsimp only
    split <;> omega
  · change 1 ≤ day - monthStart (monthOfDay day) + 1
    unfold monthOfDay monthStart
    omega
  · rw [daysInMonth_ofMarch low high]
    change day - monthStart (monthOfDay day) + 1 ≤ _
    unfold monthOfDay monthStart at *
    by_cases february : (5 * day + 2) / 153 = 11
    · simp only [february, ↓reduceIte]
      split
      · omega
      · rename_i common
        simp [common] at last
        omega
    · rw [if_neg february]
      omega

end

namespace Date

variable {date : Date} {parts : YearMonthDay}

theorem yearMonthDay_eq_ofMarch (date : Date) :
    ∃ year day, IsDayOf year day ∧
      date.yearMonthDay = ofMarch year (monthOfDay day) (day - monthStart (monthOfDay day) + 1) ∧
      date.day = countDays year day := by
  let shifted := date.day + 719468
  have low : 0 ≤ shifted % 146097 := by omega
  have high : shifted % 146097 < 146097 := by omega
  have bounds := yearOfDay_bounds low high
  let year := yearOfDay (shifted % 146097)
  refine ⟨year + shifted / 146097 * 400, shifted % 146097 - yearStart year, ?_, rfl, ?_⟩
  · obtain ⟨first, last⟩ := isDayOf_yearOfDay low high
    refine ⟨first, ?_⟩
    have same : isLeap (year + shifted / 146097 * 400 + 1) = isLeap (year + 1) := by
      rw [← isLeap_add_eras (year + 1) (shifted / 146097)]
      congr 1
      omega
    rw [same]
    exact last
  · have era : (year + shifted / 146097 * 400) / 400 = shifted / 146097 := by omega
    have rest : (year + shifted / 146097 * 400) % 400 = year := by omega
    unfold countDays
    rw [era, rest]
    omega

theorem exists_yearMonthDay (date : Date) : date.yearMonthDay.Exists := by
  obtain ⟨year, day, within, parts, -⟩ := date.yearMonthDay_eq_ofMarch
  rw [parts]
  exact (exists_ofMarch within).2.2

theorem dayNumber_yearMonthDay (date : Date) : date.yearMonthDay.dayNumber = date.day := by
  obtain ⟨year, day, within, parts, counted⟩ := date.yearMonthDay_eq_ofMarch
  obtain ⟨low, high, -⟩ := exists_ofMarch within
  rw [parts, dayNumber_ofMarch low high, counted]
  congr 1
  omega

theorem yearMonthDay_of_dayNumber (there : parts.Exists) (same : parts.dayNumber = date.day) :
    date.yearMonthDay = parts := by
  obtain ⟨year, day, within, found, counted⟩ := date.yearMonthDay_eq_ofMarch
  have shape := eq_ofMarch there
  -- Two days of years that start in March and have one number are the same day.
  generalize (if parts.month ≤ 2 then parts.year - 1 else parts.year) = other at shape
  generalize months : (parts.month + 9) % 12 = month at shape
  have low : 0 ≤ month := by omega
  have high : month ≤ 11 := by omega
  obtain ⟨first, last⟩ := there.day
  rw [shape] at last
  obtain ⟨also, inMonth⟩ := monthOfDay_monthStart low high first last
  rw [shape, dayNumber_ofMarch low high, counted] at same
  obtain ⟨rfl, rfl⟩ := countDays_injective also within same
  rw [found, inMonth, shape]
  congr 1
  change monthStart month + parts.day - 1 - monthStart month + 1 = parts.day
  omega

theorem ofYearMonthDay?_eq_some_iff :
    ofYearMonthDay? parts = some date ↔ date.yearMonthDay = parts := by
  unfold ofYearMonthDay?
  constructor
  · intro made
    split at made
    · rename_i there
      obtain ⟨lowMonth, highMonth, first, last⟩ := there
      unfold ofDay? at made
      split at made
      · obtain rfl := Option.some.inj made
        exact yearMonthDay_of_dayNumber ⟨⟨lowMonth, highMonth⟩, first, last⟩ rfl
      · contradiction
    · contradiction
  · rintro rfl
    obtain ⟨⟨lowMonth, highMonth⟩, first, last⟩ := date.exists_yearMonthDay
    rw [if_pos ⟨lowMonth, highMonth, first, last⟩, date.dayNumber_yearMonthDay]
    exact dif_pos date.inCalendar

theorem withYear?_eq_some_iff {year : Int} {other : Date} :
    date.withYear? year = some other ↔ other.yearMonthDay = { date.yearMonthDay with year } :=
  ofYearMonthDay?_eq_some_iff

end Date

end Admissions.Calendar
