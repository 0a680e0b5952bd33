/-!
# The Gregorian calendar

A date is a day number, counted from 1970-01-01 and bounded by the years
-262143 and 262142. `dayNumber` numbers the days named by year, month and day
in the proleptic Gregorian calendar, and `Date.year`, `Date.month` and
`Date.day` name them again. Years are counted from March here, so that a leap
day is the last day of its year.
-/

set_option autoImplicit false

namespace CronSchedule

/-! ## Numbering the days -/

/-- Days from 1970-01-01 to the given day. The months from March on have the lengths 31, 30,
31, 30, 31 over and over, so a month starts after `(153 * m + 2) / 5` days when March is
month zero. -/
def dayNumber (year : Int) (month day : Nat) : Int :=
  let marchYear := if month ≤ 2 then year - 1 else year
  let marchMonth : Int := (month + 9) % 12
  365 * marchYear + marchYear / 4 - marchYear / 100 + marchYear / 400
    + (153 * marchMonth + 2) / 5 + day - 1 - 719468

/-- Day number of the first date, -262143-01-01. -/
def firstDayNumber : Int := -96465292

/-- Day number of the last date, 262142-12-31. -/
def lastDayNumber : Int := 95026236

/-- The year and the month that follow a month. -/
def followingMonth (year : Int) (month : Nat) : Int × Nat :=
  if month = 12 then (year + 1, 1) else (year, month + 1)

/-- Number of days from the first of a month to the first of the following one. -/
def monthSpan (year : Int) (month : Nat) : Int :=
  dayNumber (followingMonth year month).1 (followingMonth year month).2 1 - dayNumber year month 1

/-! ## Dates -/

/-- A date of the calendar. -/
structure Date where
  /-- Days since 1970-01-01. -/
  number : Int
  /-- No date lies before the first one. -/
  first_le : firstDayNumber ≤ number
  /-- No date lies after the last one. -/
  le_last : number ≤ lastDayNumber
  deriving DecidableEq

/-- Year and day of a date in years that start in March: days are divided into cycles of 400
years, then into centuries, then into four years, then into single years. The last century of
a cycle and the last of four years are the longer ones. -/
structure MarchYear where
  year : Int
  dayOfYear : Int

/-- The year from March that holds a day. -/
def MarchYear.ofDayNumber (number : Int) : MarchYear :=
  let fromStart := number + 719468
  let inCycle := fromStart % 146097
  let century := min 3 (inCycle / 36524)
  let inCentury := inCycle - 36524 * century
  let inFour := inCentury % 1461
  let single := min 3 (inFour / 365)
  { year := 400 * (fromStart / 146097) + 100 * century + 4 * (inCentury / 1461) + single
    dayOfYear := inFour - 365 * single }

/-- Month counted from zero in March. -/
def MarchYear.month (m : MarchYear) : Int := (5 * m.dayOfYear + 2) / 153

namespace Date

/-- The date with the given day number. -/
def ofNumber? (number : Int) : Option Date :=
  if h : firstDayNumber ≤ number ∧ number ≤ lastDayNumber then some ⟨number, h.1, h.2⟩ else none

/-- The date with the given name, if there is such a day. -/
def ofName? (year : Int) (month day : Nat) : Option Date :=
  if 1 ≤ month ∧ month ≤ 12 ∧ 1 ≤ day ∧ (day : Int) ≤ monthSpan year month then
    ofNumber? (dayNumber year month day)
  else none

/-- Month of a date, January being 1. -/
def month (date : Date) : Nat :=
  let m := (MarchYear.ofDayNumber date.number).month
  (if m < 10 then m + 3 else m - 9).toNat

/-- Year of a date. -/
def year (date : Date) : Int :=
  (MarchYear.ofDayNumber date.number).year + if date.month ≤ 2 then 1 else 0

/-- Day of the month of a date. -/
def day (date : Date) : Nat :=
  let m := MarchYear.ofDayNumber date.number
  (m.dayOfYear - (153 * m.month + 2) / 5 + 1).toNat

/-- Weekday of a date, 1 for Monday to 7 for Sunday; 1970-01-01 is a Thursday. -/
def weekday (date : Date) : Nat := ((date.number + 3) % 7 + 1).toNat

/-- The day before. -/
def previous? (date : Date) : Option Date := ofNumber? (date.number - 1)

end Date

/-- Number of days of a month: the day of the month on which the day before the following
month falls. Where the following month does not begin with a date of the calendar the number
is 31, which also holds of the very last December. -/
def daysInMonth (year : Int) (month : Nat) : Nat :=
  let following := followingMonth year month
  match (Date.ofName? following.1 following.2 1).bind Date.previous? with
  | some last => last.day
  | none => 31

namespace Date

/-- Number of days of the month of a date. -/
def monthLength (date : Date) : Nat := daysInMonth date.year date.month

/-- The given day of the same month, if the month has it. -/
def sameMonth? (date : Date) (day : Nat) : Option Date := ofName? date.year date.month day

end Date

end CronSchedule
