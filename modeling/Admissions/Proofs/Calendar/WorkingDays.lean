import Admissions.Calendar.WorkingDays
import Mathlib.Order.MinMax

namespace Admissions.Calendar

def IsWorkingDay (day : Int) : Prop := (day + 3) % 7 < 5

instance (day : Int) : Decidable (IsWorkingDay day) := inferInstanceAs (Decidable (_ < _))

/-- The working days up to a day, counted from a fixed Monday. -/
def workingDaysBy (day : Int) : Int := 5 * ((day + 3) / 7) + min ((day + 3) % 7 + 1) 5

section

variable {day other : Int}

theorem workingDaysBy_next (day : Int) :
    workingDaysBy (day + 1) = workingDaysBy day + if IsWorkingDay (day + 1) then 1 else 0 := by
  by_cases working : IsWorkingDay (day + 1)
  · rw [if_pos working]
    unfold workingDaysBy IsWorkingDay at *
    omega
  · rw [if_neg working]
    unfold workingDaysBy IsWorkingDay at *
    omega

theorem workingDaysBy_mono (early : day ≤ other) : workingDaysBy day ≤ workingDaysBy other := by
  unfold workingDaysBy
  omega

theorem workingDaysBy_lt_iff (working : IsWorkingDay other) :
    workingDaysBy day < workingDaysBy other ↔ day < other := by
  unfold workingDaysBy IsWorkingDay at *
  omega

theorem isWorkingDay_workingDaysOn (day days : Int) :
    IsWorkingDay (workingDaysOn day ((day + 3) % 7) days) := by
  unfold IsWorkingDay workingDaysOn
  dsimp only
  omega

theorem workingDaysBy_workingDaysOn (day days : Int) :
    workingDaysBy (workingDaysOn day ((day + 3) % 7) days) = workingDaysBy day + days := by
  unfold workingDaysBy workingDaysOn
  dsimp only
  omega

def workingDaysAmong (day : Int) (following : Nat) : Nat :=
  (List.range following).countP fun (offset : Nat) => IsWorkingDay (day + offset + 1)

theorem workingDaysAmong_eq (day : Int) (following : Nat) :
    (workingDaysAmong day following : Int) =
      workingDaysBy (day + following) - workingDaysBy day := by
  induction following with
  | zero => simp [workingDaysAmong]
  | succ following ih =>
    have next := workingDaysBy_next (day + following)
    have counted : workingDaysAmong day (following + 1) =
        workingDaysAmong day following +
          if IsWorkingDay (day + following + 1) then 1 else 0 := by
      simp [workingDaysAmong, List.range_succ]
    have place : day + ((following + 1 : Nat) : Int) = day + following + 1 := by omega
    rw [place]
    by_cases working : IsWorkingDay (day + following + 1)
    · rw [if_pos working] at next counted
      omega
    · rw [if_neg working] at next counted
      omega

theorem workingDaysBy_injective (working : IsWorkingDay day) (also : IsWorkingDay other)
    (same : workingDaysBy day = workingDaysBy other) : day = other := by
  have notBefore := mt (workingDaysBy_lt_iff also).mpr (not_lt_of_ge same.ge)
  have notAfter := mt (workingDaysBy_lt_iff working).mpr (not_lt_of_ge same.le)
  omega

end

theorem toNat_pos {days : UInt32} (some : days ≠ 0) : 0 < days.toNat :=
  Nat.pos_of_ne_zero fun none => some (UInt32.toNat_inj.mp none)

theorem toNat_sub_one {days : UInt32} (some : days ≠ 0) : (days - 1).toNat = days.toNat - 1 :=
  UInt32.toNat_sub_of_le days 1 (UInt32.le_iff_toNat_le.mpr (toNat_pos some))

namespace Date

variable {date other : Date} {days : UInt32}

theorem isWeekend_eq_false_iff : date.isWeekend = false ↔ IsWorkingDay date.day := by
  simp [isWeekend, weekday, IsWorkingDay]

theorem isWorkingDay_last : IsWorkingDay last.day := by decide

theorem day_clamp (day : Int) : (clamp day).day = Max.max firstDay (Min.min day lastDay) := by
  have ordered : firstDay ≤ lastDay := by decide
  unfold clamp
  split
  · change firstDay = _
    omega
  · split
    · change lastDay = _
      omega
    · change day = _
      omega

def next (date : Date) : Date := (ofDay? (date.day + 1)).getD date

theorem next_last : last.next = last := rfl

theorem day_next (inner : date ≠ last) : date.next.day = date.day + 1 := by
  have inside := date.inCalendar
  have before : date.day + 1 ≤ lastDay := by
    have apart : date.day ≠ lastDay := fun same => inner (Date.ext same)
    omega
  have there : ofDay? (date.day + 1) = some ⟨date.day + 1, by omega⟩ := dif_pos ⟨by omega, before⟩
  rw [next, there]
  rfl

def workingDaysUntil (date later : Date) : Nat :=
  workingDaysAmong date.day (later.day - date.day).toNat

theorem workingDaysUntil_eq (early : date ≤ other) :
    (date.workingDaysUntil other : Int) = workingDaysBy other.day - workingDaysBy date.day := by
  have between : date.day + (other.day - date.day).toNat = other.day := by
    have days : date.day ≤ other.day := early
    omega
  rw [workingDaysUntil, workingDaysAmong_eq, between]

/-- The working day that is reached where the calendar goes on for ever. -/
def target (date : Date) (days : UInt32) : Int := workingDaysOn date.day date.weekday days.toNat

theorem isWorkingDay_target (date : Date) (days : UInt32) : IsWorkingDay (date.target days) :=
  isWorkingDay_workingDaysOn date.day days.toNat

theorem workingDaysBy_target (date : Date) (days : UInt32) :
    workingDaysBy (date.target days) = workingDaysBy date.day + days.toNat :=
  workingDaysBy_workingDaysOn date.day days.toNat

theorem lt_target (date : Date) (some : days ≠ 0) : date.day < date.target days := by
  have positive := toNat_pos some
  rw [← workingDaysBy_lt_iff (date.isWorkingDay_target days), workingDaysBy_target]
  omega

theorem addWorkingDays_zero (date : Date) : date.addWorkingDays 0 = date := rfl

theorem day_addWorkingDays (date : Date) (some : days ≠ 0) :
    (date.addWorkingDays days).day = Min.min (date.target days) lastDay := by
  have ahead := lt_target date some
  have inside := date.inCalendar
  rw [addWorkingDays, if_neg some, day_clamp]
  change Max.max firstDay (Min.min (date.target days) lastDay) = _
  omega

theorem addWorkingDays_last (days : UInt32) : last.addWorkingDays days = last := by
  by_cases none : days = 0
  · rw [none, addWorkingDays_zero]
  · have ahead := lt_target last none
    refine Date.ext ?_
    rw [day_addWorkingDays _ none]
    change lastDay < _ at ahead
    change _ = lastDay
    omega

theorem target_eq (working : IsWorkingDay other.day)
    (counted : workingDaysBy other.day = workingDaysBy date.day + days.toNat) :
    date.target days = other.day := by
  apply workingDaysBy_injective (date.isWorkingDay_target days) working
  rw [workingDaysBy_target, counted]

theorem target_congr {more : UInt32}
    (same : workingDaysBy date.day + days.toNat = workingDaysBy other.day + more.toNat) :
    date.target days = other.target more := by
  apply workingDaysBy_injective (date.isWorkingDay_target days) (other.isWorkingDay_target more)
  rw [workingDaysBy_target, workingDaysBy_target, same]

theorem target_mono {more : UInt32} (dates : date ≤ other) (counts : days ≤ more) :
    date.target days ≤ other.target more := by
  have fewer : days.toNat ≤ more.toNat := UInt32.le_iff_toNat_le.mp counts
  have earlier := workingDaysBy_mono dates
  rw [← not_lt, ← workingDaysBy_lt_iff (date.isWorkingDay_target days), workingDaysBy_target,
    workingDaysBy_target]
  omega

theorem le_addWorkingDays (date : Date) (days : UInt32) : date ≤ date.addWorkingDays days := by
  by_cases none : days = 0
  · rw [none, addWorkingDays_zero]
    exact le_refl date.day
  · change date.day ≤ _
    rw [day_addWorkingDays _ none]
    exact le_min (lt_target date none).le date.inCalendar.2

/-- Later dates and more days lead no less far, whatever week-ends lie between. -/
theorem addWorkingDays_mono {more : UInt32} (dates : date ≤ other) (counts : days ≤ more) :
    date.addWorkingDays days ≤ other.addWorkingDays more := by
  by_cases none : days = 0
  · rw [none, addWorkingDays_zero]
    exact Int.le_trans dates (other.le_addWorkingDays more)
  · have some : more ≠ 0 := by
      rintro rfl
      exact none (UInt32.le_antisymm counts (UInt32.zero_le))
    change (date.addWorkingDays days).day ≤ (other.addWorkingDays more).day
    rw [day_addWorkingDays _ none, day_addWorkingDays _ some]
    exact min_le_min_right lastDay (target_mono dates counts)

theorem addWorkingDays_next_of_weekend (some : days ≠ 0) (weekend : ¬IsWorkingDay date.next.day) :
    date.next.addWorkingDays days = date.addWorkingDays days := by
  have inner : date ≠ last := by
    rintro rfl
    exact weekend isWorkingDay_last
  have passed := workingDaysBy_next date.day
  rw [← day_next inner, if_neg weekend] at passed
  refine ext ?_
  rw [day_addWorkingDays _ some, day_addWorkingDays _ some, target_congr]
  omega

theorem addWorkingDays_next_of_working (some : days ≠ 0) (working : IsWorkingDay date.next.day) :
    date.next.addWorkingDays (days - 1) = date.addWorkingDays days := by
  by_cases final : date = last
  · rw [final, next_last, addWorkingDays_last, addWorkingDays_last]
  have passed := workingDaysBy_next date.day
  rw [← day_next final, if_pos working] at passed
  have positive := toNat_pos some
  have fewer := toNat_sub_one some
  refine ext ?_
  rw [day_addWorkingDays _ some]
  by_cases one : days - 1 = 0
  · rw [one] at fewer
    have single : days.toNat = 1 := by
      have none : (0 : UInt32).toNat = 0 := rfl
      omega
    have reached : date.target days = date.next.day := target_eq working (by rw [single]; exact passed)
    rw [one, addWorkingDays_zero, reached, min_eq_left date.next.inCalendar.2]
  · rw [day_addWorkingDays _ one, target_congr]
    omega

end Date

/-- A count under way: the date that it has reached and the working days still to come. -/
structure Count where
  date : Date
  remaining : UInt32

namespace Count

variable {count : Count}

def turn (count : Count) : Count :=
  let date := count.date.next
  ⟨date, if date.isWeekend then count.remaining else count.remaining - 1⟩

inductive Ends : Count → Date → Prop where
  | done (date : Date) : Ends ⟨date, 0⟩ date
  | turn {count : Count} {reached : Date} (more : count.remaining ≠ 0)
      (rest : Ends count.turn reached) : Ends count reached

def goal (count : Count) : Date := count.date.addWorkingDays count.remaining

theorem turn_of_working (working : IsWorkingDay count.date.next.day) :
    count.turn = ⟨count.date.next, count.remaining - 1⟩ := by
  have weekday := Date.isWeekend_eq_false_iff.mpr working
  simp [turn, weekday]

theorem turn_of_weekend (weekend : ¬IsWorkingDay count.date.next.day) :
    count.turn = ⟨count.date.next, count.remaining⟩ := by
  have passed : count.date.next.isWeekend = true := by
    rw [← Bool.not_eq_false, Date.isWeekend_eq_false_iff]
    exact weekend
  simp [turn, passed]

theorem goal_turn (more : count.remaining ≠ 0) : count.turn.goal = count.goal := by
  by_cases working : IsWorkingDay count.date.next.day
  · rw [turn_of_working working]
    exact Date.addWorkingDays_next_of_working more working
  · rw [turn_of_weekend working]
    exact Date.addWorkingDays_next_of_weekend more working

/-- Goes down with every turn: one that counts nothing goes on in the week. -/
def left (count : Count) : Nat :=
  7 * count.remaining.toNat + (6 - count.date.weekday).toNat

theorem left_turn_lt (more : count.remaining ≠ 0) : count.turn.left < count.left := by
  have positive := toNat_pos more
  have fewer := toNat_sub_one more
  by_cases working : IsWorkingDay count.date.next.day
  · rw [turn_of_working working]
    unfold left Date.weekday
    dsimp only
    omega
  · -- The last date is a Monday, so that the week goes on.
    have inner : count.date ≠ Date.last := by
      intro final
      rw [final] at working
      exact working Date.isWorkingDay_last
    rw [turn_of_weekend working]
    unfold IsWorkingDay at working
    unfold left Date.weekday
    rw [Date.day_next inner] at working ⊢
    dsimp only
    omega

theorem ends_goal (count : Count) : Ends count count.goal := by
  by_cases none : count.remaining = 0
  · obtain ⟨date, remaining⟩ := count
    obtain rfl : remaining = 0 := none
    exact .done date
  · -- The days left bound the turns, also those over a week-end.
    have shorter := left_turn_lt none
    have rest := ends_goal count.turn
    rw [goal_turn none] at rest
    exact .turn none rest
termination_by count.left

theorem Ends.eq_goal {reached : Date} (ends : Ends count reached) : reached = count.goal := by
  induction ends with
  | done date => rfl
  | turn more rest ih => rw [ih, goal_turn more]

theorem ends_iff {reached : Date} : Ends count reached ↔ reached = count.goal := by
  constructor
  · exact Ends.eq_goal
  · rintro rfl
    exact count.ends_goal

end Count

inductive Counted (date : Date) (days : UInt32) : Date → Prop where
  | none (nothing : days = 0) : Counted date days date
  | within {reached : Date} (some : days ≠ 0) (weekday : reached.isWeekend = false)
      (later : date < reached) (passed : date.workingDaysUntil reached = days.toNat) :
      Counted date days reached
  | cut (few : date.workingDaysUntil .last < days.toNat) : Counted date days .last

theorem counted_addWorkingDays (date : Date) (days : UInt32) :
    Counted date days (date.addWorkingDays days) := by
  by_cases none : days = 0
  · rw [none]
    exact .none rfl
  have inside := date.inCalendar
  have ahead := date.lt_target none
  have counted := date.workingDaysBy_target days
  have reached := date.day_addWorkingDays none
  -- The calendar reaches the target, or ends before it.
  by_cases within : date.target days ≤ lastDay
  · rw [min_eq_left within] at reached
    have later : date < date.addWorkingDays days := by
      change date.day < _
      rwa [reached]
    refine .within none ?_ later ?_
    · rw [Date.isWeekend_eq_false_iff, reached]
      exact date.isWorkingDay_target days
    · have early : date ≤ date.addWorkingDays days := Int.le_of_lt later
      have passed := Date.workingDaysUntil_eq early
      rw [reached, counted] at passed
      omega
  · have past : lastDay < date.target days := not_le.mp within
    have final : date.addWorkingDays days = Date.last :=
      Date.ext (reached.trans (min_eq_right past.le))
    have early : date ≤ Date.last := inside.2
    have passed := Date.workingDaysUntil_eq early
    have fewer : workingDaysBy lastDay < workingDaysBy (date.target days) :=
      (workingDaysBy_lt_iff (date.isWorkingDay_target days)).mpr past
    rw [final]
    refine .cut ?_
    change _ = workingDaysBy lastDay - _ at passed
    omega

/-- From any date and for any number of working days the count ends, on one date only; and that is
    as many working days on, or the end of the calendar where it has fewer left. -/
theorem working_days_counted (date : Date) (days : UInt32) :
    (∀ reached, Count.Ends ⟨date, days⟩ reached ↔ reached = date.addWorkingDays days) ∧
      Counted date days (date.addWorkingDays days) :=
  ⟨fun _ => Count.ends_iff, counted_addWorkingDays date days⟩

end Admissions.Calendar
