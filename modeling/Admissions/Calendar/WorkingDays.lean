import Admissions.Calendar.Date

namespace Admissions.Calendar

/-- The day `days` working days on, from a day's number and its weekday. Saturday and Sunday count
    like the Friday before them. -/
def workingDaysOn (day weekday days : Int) : Int :=
  let monday := day - weekday
  let reached := min weekday 4 + days
  monday + 7 * (reached / 5) + reached % 5

/-- The date `days` working days after `date`; past the end of the calendar, its last date. -/
def Date.addWorkingDays (date : Date) (days : UInt32) : Date :=
  if days = 0 then date
  else clamp (workingDaysOn date.day date.weekday days.toNat)

end Admissions.Calendar
