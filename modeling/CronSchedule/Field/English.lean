import CronSchedule.Numeral

/-!
# Numbers and times in English

Ordinal numbers and the time of day on a twelve hour clock.
-/

set_option autoImplicit false

namespace CronSchedule.English

/-- Ending of an ordinal: the numbers that end in 11, 12 or 13 take "th", all others go by
their last digit. -/
def ordinalEnding (n : Nat) : String :=
  if 11 ≤ n % 100 ∧ n % 100 ≤ 13 then "th"
  else
    match n % 10 with
    | 1 => "st"
    | 2 => "nd"
    | 3 => "rd"
    | _ => "th"

/-- English ordinal such as 1st, 12th and 23rd. -/
def ordinal (n : Nat) : String := toString n ++ ordinalEnding n

/-- Time of day such as "2:30 PM"; seconds and minutes are left out when they are zero, and
the start of the day is "midnight". -/
def timeOfDay (second minute hour : Nat) : String :=
  if hour = 0 ∧ minute = 0 ∧ second = 0 then "midnight"
  else
    let half := if 12 ≤ hour then "PM" else "AM"
    let shown := if hour % 12 = 0 then 12 else hour % 12
    if second ≠ 0 then
      s!"{shown}:{Numeral.padded 2 minute}:{Numeral.padded 2 second} {half}"
    else if minute ≠ 0 then s!"{shown}:{Numeral.padded 2 minute} {half}"
    else s!"{shown} {half}"

end CronSchedule.English
