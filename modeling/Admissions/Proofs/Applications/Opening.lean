import Admissions.Proofs.Applications.Requests
import Admissions.Proofs.Calendar.Gregorian

namespace Admissions

open Calendar (Date YearMonthDay)

namespace CycleTimetable

variable {timetable : CycleTimetable} {today : Date}

def anniversary (timetable : CycleTimetable) : YearMonthDay :=
  { timetable.applyOpens.yearMonthDay with year := timetable.applyOpens.year + 1 }

/-- The deadline has passed, and no day to come is the anniversary. -/
def Overdue (timetable : CycleTimetable) (today : Date) : Prop :=
  timetable.applyDeadline < today ∧
    ∀ next : Date, next.yearMonthDay = timetable.anniversary → next ≤ today

theorem reopensOn_of_le (before : today ≤ timetable.applyDeadline) :
    timetable.reopensOn today = timetable.applyOpens := if_pos before

theorem reopensOn_of_anniversary {next : Date} (passed : ¬today ≤ timetable.applyDeadline)
    (falls : next.yearMonthDay = timetable.anniversary) : timetable.reopensOn today = next := by
  have found : timetable.applyOpens.withYear? (timetable.applyOpens.year + 1) = some next :=
    Date.withYear?_eq_some_iff.mpr falls
  unfold reopensOn
  rw [if_neg passed, found, Option.getD_some]

theorem reopensOn_of_no_anniversary
    (never : ∀ next : Date, next.yearMonthDay ≠ timetable.anniversary) :
    timetable.reopensOn today = timetable.applyOpens := by
  have missing : timetable.applyOpens.withYear? (timetable.applyOpens.year + 1) = none := by
    cases found : timetable.applyOpens.withYear? (timetable.applyOpens.year + 1) with
    | none => rfl
    | some next => exact absurd (Date.withYear?_eq_some_iff.mp found) (never next)
  unfold reopensOn
  rw [missing, Option.getD_none, ite_self]

theorem lt_reopensOn_iff (ordered : timetable.applyOpens ≤ timetable.applyDeadline)
    (closed : timetable.canSubmit today = false) :
    today < timetable.reopensOn today ↔ ¬timetable.Overdue today := by
  by_cases before : today ≤ timetable.applyDeadline
  · rw [reopensOn_of_le before]
    have early : ¬timetable.applyOpens ≤ today := by
      intro opened
      simp [canSubmit, opened, before] at closed
    have coming : today < timetable.applyOpens := Int.not_le.mp early
    have running : ¬timetable.Overdue today := fun overdue => Int.not_le.mpr overdue.1 before
    exact iff_of_true coming running
  · have passed : timetable.applyDeadline < today := Int.not_le.mp before
    by_cases falls : ∃ next : Date, next.yearMonthDay = timetable.anniversary
    · obtain ⟨next, falls⟩ := falls
      rw [reopensOn_of_anniversary before falls]
      constructor
      · intro coming overdue
        exact Int.not_le.mpr coming (overdue.2 next falls)
      · intro running
        refine Int.not_le.mp fun past => running ⟨passed, fun other also => ?_⟩
        have same : other = next := by
          rw [← reopensOn_of_anniversary before also, reopensOn_of_anniversary before falls]
        rw [same]
        exact past
    · have never : ∀ next : Date, next.yearMonthDay ≠ timetable.anniversary :=
        fun next is => falls ⟨next, is⟩
      rw [reopensOn_of_no_anniversary never]
      have past : ¬today < timetable.applyOpens :=
        Int.not_lt.mpr (Int.le_of_lt (Int.lt_of_le_of_lt ordered passed))
      have overdue : timetable.Overdue today := ⟨passed, fun next is => absurd is (never next)⟩
      exact iff_of_false past (not_not_intro overdue)

end CycleTimetable

namespace SubmissionCheck

variable {snapshot : ChoiceSnapshot} {timetable : CycleTimetable} {today date : Date}

structure Ahead (snapshot : ChoiceSnapshot) (today date : Date) : Prop where
  coming : today < date
  courseOpen : snapshot.course.applicationsOpenFrom ≤ date

theorem ahead_max {cycle : Date} (closed : snapshot.course.opensBy today = false) :
    Ahead snapshot today (cycle.max snapshot.course.applicationsOpenFrom) := by
  have later : today < snapshot.course.applicationsOpenFrom :=
    Int.not_le.mp (of_decide_eq_false closed)
  unfold Date.max
  split
  · exact ⟨later, Int.le_refl _⟩
  · rename_i after
    have order : snapshot.course.applicationsOpenFrom < cycle := Int.not_le.mp after
    exact ⟨Int.lt_trans later order, Int.le_of_lt order⟩

theorem ahead_opening_iff (ordered : timetable.applyOpens ≤ timetable.applyDeadline)
    (opening : opening? snapshot ⟨today, timetable⟩ = some date) :
    Ahead snapshot today date ↔
      ¬(timetable.Overdue today ∧ snapshot.course.applicationsOpenFrom ≤ today) := by
  unfold opening? at opening
  dsimp only at opening
  cases courseOpen : snapshot.course.opensBy today with
  | true =>
    have opened : snapshot.course.applicationsOpenFrom ≤ today := of_decide_eq_true courseOpen
    cases cycleOpen : timetable.canSubmit today with
    | true => simp [courseOpen, cycleOpen] at opening
    | false =>
      obtain rfl : timetable.reopensOn today = date := by
        simpa [courseOpen, cycleOpen] using opening
      have coming := CycleTimetable.lt_reopensOn_iff ordered cycleOpen
      constructor
      · rintro ⟨later, -⟩ ⟨overdue, -⟩
        exact coming.mp later overdue
      · intro running
        have later := coming.mpr fun overdue => running ⟨overdue, opened⟩
        exact ⟨later, Int.le_trans opened (Int.le_of_lt later)⟩
  | false =>
    have unopened : ¬snapshot.course.applicationsOpenFrom ≤ today := of_decide_eq_false courseOpen
    -- A course that is still to open puts the date in the future by itself.
    refine iff_of_true ?_ fun both => unopened both.2
    cases cycleOpen : timetable.canSubmit today with
    | true =>
      obtain rfl : snapshot.course.applicationsOpenFrom = date := by
        simpa [courseOpen, cycleOpen] using opening
      exact ⟨Int.not_le.mp unopened, Int.le_refl _⟩
    | false =>
      obtain rfl : (timetable.reopensOn today).max snapshot.course.applicationsOpenFrom = date := by
        simpa [courseOpen, cycleOpen] using opening
      exact ahead_max courseOpen

/-- A candidate who is blocked because applications are closed is told to wait until a date, and the
    message names the same one. It lies ahead exactly unless the course is open and the cycle
    overdue. -/
theorem told_opening_ahead_iff (ordered : timetable.applyOpens ≤ timetable.applyDeadline)
    {error : EligibilityError}
    (blocked : applicationsClosed.evaluate snapshot ⟨today, timetable⟩ = some error) :
    ∃ date, error.remedy = .waitUntil date ∧
      error.message = "This course is not yet open to applications. " ++
        "You'll be able to submit your application on " ++ date.govukText ++ "." ∧
      (Ahead snapshot today date ↔
        ¬(timetable.Overdue today ∧ snapshot.course.applicationsOpenFrom ≤ today)) := by
  obtain ⟨date, opening, rfl⟩ := Option.map_eq_some_iff.mp blocked
  exact ⟨date, rfl, rfl, ahead_opening_iff ordered opening⟩

def autumnCycle : CycleTimetable := ApplicationService.midCycle.timetable

def leapDayCycle : CycleTimetable where
  applyOpens := ⟨19782, by decide⟩
  applyDeadline := autumnCycle.applyDeadline

def physicsDraft : ChoiceSnapshot where
  id := 3
  status := .unsubmitted
  course := ⟨5, 1, "C005", "Physics", .secondary, [], 2024, autumnCycle.applyOpens, true⟩
  courseOption := ⟨50, 5, 100, "Main Site", .fullTime, .vacancies, true⟩
  courseOptions := [⟨50, 5, 100, "Main Site", .fullTime, .vacancies, true⟩]
  form := ⟨77, []⟩

def afterDeadline : Date := ⟨19996, by decide⟩

def afterAnniversary : Date := ⟨20007, by decide⟩

def waitForOctober : EligibilityError where
  check := .applicationsClosed
  message := "This course is not yet open to applications. " ++
    "You'll be able to submit your application on 10 October 2024."
  remedy := .waitUntil ⟨20006, by decide⟩

theorem told_opening_ahead_iff_after_deadline :
    autumnCycle.applyOpens ≤ autumnCycle.applyDeadline ∧
    applicationsClosed.evaluate physicsDraft ⟨afterDeadline, autumnCycle⟩ =
      some waitForOctober ∧
    ∃ date, waitForOctober.remedy = .waitUntil date ∧
      waitForOctober.message = "This course is not yet open to applications. " ++
        "You'll be able to submit your application on " ++ date.govukText ++ "." ∧
      (Ahead physicsDraft afterDeadline date ↔
        ¬(autumnCycle.Overdue afterDeadline ∧
          physicsDraft.course.applicationsOpenFrom ≤ afterDeadline)) := by
  have ordered : autumnCycle.applyOpens ≤ autumnCycle.applyDeadline := by decide
  have blocked : applicationsClosed.evaluate physicsDraft ⟨afterDeadline, autumnCycle⟩ =
      some waitForOctober := by decide +kernel
  exact ⟨ordered, blocked, told_opening_ahead_iff ordered blocked⟩

/-- A candidate is told to wait for a leap day that is past, or for a day that was yesterday. -/
theorem told_past_opening :
    (leapDayCycle.applyOpens ≤ leapDayCycle.applyDeadline ∧
      ∃ error, applicationsClosed.evaluate physicsDraft ⟨afterDeadline, leapDayCycle⟩ =
          some error ∧
        error.remedy = .waitUntil leapDayCycle.applyOpens ∧
        ¬afterDeadline < leapDayCycle.applyOpens) ∧
    (autumnCycle.applyOpens ≤ autumnCycle.applyDeadline ∧
      applicationsClosed.evaluate physicsDraft ⟨afterAnniversary, autumnCycle⟩ =
          some waitForOctober ∧
        ∀ date, waitForOctober.remedy = .waitUntil date → ¬afterAnniversary < date) := by
  refine ⟨⟨by decide, ⟨.applicationsClosed, _, .waitUntil leapDayCycle.applyOpens⟩, rfl, rfl,
    by decide⟩, by decide, by decide +kernel, ?_⟩
  intro date waits
  obtain rfl := Remedy.waitUntil.inj waits
  decide

end SubmissionCheck

end Admissions
