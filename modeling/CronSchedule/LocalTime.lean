import CronSchedule.Calendar
import CronSchedule.Field
import CronSchedule.Numeral

/-!
# Wall-clock times

A wall-clock time counts the seconds that a clock and a calendar on the wall
have shown since 1970-01-01T00:00:00, without regard to any zone. Instants are
counted in the same way on the clock of UTC.
-/

set_option autoImplicit false

namespace CronSchedule

/-- Seconds of a day. -/
def secondsPerDay : Int := 86400

/-- A time shown by a wall clock, to the second, on a date of the calendar. -/
structure LocalTime where
  /-- Seconds since 1970-01-01T00:00:00 on the wall clock. -/
  seconds : Int
  /-- No time lies before the first date. -/
  first_le : firstDayNumber * secondsPerDay ≤ seconds
  /-- No time lies after the last date. -/
  lt_end : seconds < (lastDayNumber + 1) * secondsPerDay
  deriving DecidableEq

namespace LocalTime

instance : LE LocalTime := ⟨fun a b => a.seconds ≤ b.seconds⟩

instance (a b : LocalTime) : Decidable (a ≤ b) := inferInstanceAs (Decidable (a.seconds ≤ b.seconds))

/-- The wall-clock time after so many seconds. -/
def ofSeconds? (seconds : Int) : Option LocalTime :=
  if h : firstDayNumber * secondsPerDay ≤ seconds ∧ seconds < (lastDayNumber + 1) * secondsPerDay then
    some ⟨seconds, h.1, h.2⟩
  else none

/-- The time so many seconds later, or earlier if the number is negative. -/
def add? (time : LocalTime) (seconds : Int) : Option LocalTime := ofSeconds? (time.seconds + seconds)

/-- The time of day, in seconds, on a date. -/
def onDate? (date : Date) (secondOfDay : Int) : Option LocalTime :=
  ofSeconds? (date.number * secondsPerDay + secondOfDay)

/-- The time with the given date and clock reading, if there is such a time. -/
def ofParts? (year : Int) (month day hour minute second : Nat) : Option LocalTime :=
  if hour < 24 ∧ minute < 60 ∧ second < 60 then
    (Date.ofName? year month day).bind fun date =>
      onDate? date (3600 * hour + 60 * minute + second)
  else none

/-- Midnight of 1970-01-01, the first time of any schedule. -/
def epoch : LocalTime := ⟨0, by decide, by decide⟩

/-- The last second of 2099, the last time of any schedule. -/
def lastScheduled : LocalTime := ⟨4102444799, by decide, by decide⟩

/-- The earlier of two times. -/
def earlier (a b : LocalTime) : LocalTime := if a ≤ b then a else b

/-- The later of two times. -/
def later (a b : LocalTime) : LocalTime := if a ≤ b then b else a

/-! ## Components -/

/-- Date of a time. -/
def date (time : LocalTime) : Date where
  number := time.seconds / secondsPerDay
  first_le := by
    have h := time.first_le
    simp only [firstDayNumber, secondsPerDay] at *
    omega
  le_last := by
    have h := time.lt_end
    simp only [lastDayNumber, secondsPerDay] at *
    omega

/-- Seconds since the start of the day. -/
def secondOfDay (time : LocalTime) : Int := time.seconds % secondsPerDay

/-- Second of the minute. -/
def second (time : LocalTime) : Nat := (time.secondOfDay % 60).toNat

/-- Minute of the hour. -/
def minute (time : LocalTime) : Nat := (time.secondOfDay / 60 % 60).toNat

/-- Hour of the day. -/
def hour (time : LocalTime) : Nat := (time.secondOfDay / 3600).toNat

/-- Value of a time in a field. A year before the year 0 counts as 0. -/
def component (time : LocalTime) : Field → Nat
  | .second => time.second
  | .minute => time.minute
  | .hour => time.hour
  | .dayOfMonth => time.date.day
  | .month => time.date.month
  | .dayOfWeek => time.date.weekday
  | .year => time.date.year.toNat

/-- The time with its second, minute or hour replaced, if the clock has such a value; the
coarser fields are left as they are. -/
def withComponent? (time : LocalTime) (field : Field) (value : Nat) : Option LocalTime :=
  match field with
  | .second => if value < 60 then time.add? (value - time.second) else none
  | .minute => if value < 60 then time.add? (60 * (value - time.minute)) else none
  | .hour => if value < 24 then time.add? (3600 * (value - time.hour)) else none
  | _ => some time

/-- The same time of day on another date. -/
def withDate? (time : LocalTime) (year : Int) (month day : Nat) : Option LocalTime :=
  (Date.ofName? year month day).bind fun date => onDate? date time.secondOfDay

/-- Length of one unit of a field in seconds; the fields from the day on move by days. -/
def unitSeconds : Field → Int
  | .second => 1
  | .minute => 60
  | .hour => 3600
  | _ => secondsPerDay

/-- The time one unit of the field later. -/
def next? (time : LocalTime) (field : Field) : Option LocalTime := time.add? (unitSeconds field)

/-- The time one unit of the field earlier. -/
def previous? (time : LocalTime) (field : Field) : Option LocalTime :=
  time.add? (-unitSeconds field)

/-! ## Text -/

/-- Four digits for the years 0 to 9999; other years have a sign and at least four digits. -/
def yearText (year : Int) : String :=
  if year < 0 then "-" ++ Numeral.padded 4 year.natAbs
  else if year ≤ 9999 then Numeral.padded 4 year.natAbs
  else "+" ++ Numeral.padded 4 year.natAbs

/-- Text of a date such as 2024-02-29. -/
def dateText (date : Date) : String :=
  s!"{yearText date.year}-{Numeral.padded 2 date.month}-{Numeral.padded 2 date.day}"

/-- Text of a time such as 2024-02-29T12:00:00. -/
def text (time : LocalTime) : String :=
  s!"{dateText time.date}T{Numeral.padded 2 time.hour}:{Numeral.padded 2 time.minute}" ++
    s!":{Numeral.padded 2 time.second}"

end LocalTime

end CronSchedule
