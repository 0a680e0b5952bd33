import CronSchedule.LocalTime
import CronSchedule.Pattern.Basic

/-!
# The values that a pattern accepts

`Pattern.accepts` decides whether a pattern accepts a value of its field at a
wall-clock time; the time matters only to the forms that count days from the
start or the end of a month. `lowest?` and `highest?` are the smallest and the
largest accepted value within the bounds of the field.
-/

set_option autoImplicit false

namespace CronSchedule

namespace Pattern

/-! ## Forms that depend on the month -/

/-- The last day of a month from Monday to Friday. -/
def lastWeekdayOf? (date : Date) : Option Nat :=
  (List.range' 1 date.monthLength).reverse.find? fun day =>
    (date.sameMonth? day).any fun candidate => candidate.weekday ≤ 5

/-- The day from Monday to Friday nearest to the given day: a Saturday gives way to the Friday
before, a Sunday to the Monday after, and neither leaves the month. -/
def nearestWeekdayTo? (date : Date) (day : Nat) : Option Nat :=
  (date.sameMonth? day).bind fun target =>
    if target.weekday ≤ 5 then some day
    else if target.weekday = 6 then (if 2 ≤ day then some (day - 1) else none)
    else if day + 1 ≤ date.monthLength then some (day + 1) else none

/-- Is the date the last one in its month that falls on the weekday? -/
def isLastOf (date : Date) (weekday : Nat) : Bool :=
  (date.sameMonth? date.monthLength).any fun last =>
    date.day + (last.weekday + 7 - weekday) % 7 == date.monthLength

/-! ## Acceptance -/

mutual

/-- Does the pattern accept the value at the given time? -/
def accepts (value : Nat) (time : LocalTime) : Pattern → Bool
  | wildcard | unspecified => true
  | single v => value == v
  | range low high wrapped =>
    if wrapped then low ≤ value || value ≤ high else low ≤ value && value ≤ high
  | step base interval =>
    0 < interval &&
      match base with
      | wildcard => value % interval == 0
      | single start => start ≤ value && (value - start) % interval == 0
      | range low high _ => low ≤ value && value ≤ high && (value - low) % interval == 0
      | _ => false
  | list children => acceptsAny value time children
  | last offset none => offset + time.date.day == time.date.monthLength
  | last _ (some weekday) => isLastOf time.date weekday
  | lastWeekday => lastWeekdayOf? time.date == some time.date.day
  | nearestWeekday day => nearestWeekdayTo? time.date day == some time.date.day
  | nth weekday count =>
    time.date.weekday == weekday && (time.date.day - 1) / 7 + 1 == count

/-- Does one of the patterns accept the value at the given time? -/
def acceptsAny (value : Nat) (time : LocalTime) : List Pattern → Bool
  | [] => false
  | child :: others => accepts value time child || acceptsAny value time others

end

/-! ## The smallest and the largest value -/

/-- Largest value of a field at a time: the days of a month end with its length. -/
def upperBound (field : Field) (time : LocalTime) : Nat :=
  match field with
  | .dayOfMonth => time.date.monthLength
  | _ => field.max

/-- The values of a field at a time, in ascending order. -/
def domain (field : Field) (time : LocalTime) : List Nat :=
  List.range' field.min (upperBound field time + 1 - field.min)

/-- The smallest value of the field that the pattern accepts at the time. -/
def lowest? (pattern : Pattern) (field : Field) (time : LocalTime) : Option Nat :=
  (domain field time).find? fun value => pattern.accepts value time

/-- The largest value of the field that the pattern accepts at the time. -/
def highest? (pattern : Pattern) (field : Field) (time : LocalTime) : Option Nat :=
  (domain field time).reverse.find? fun value => pattern.accepts value time

end Pattern

end CronSchedule
