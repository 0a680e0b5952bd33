import CronSchedule.Calendar
import CronSchedule.Numeral
import CronSchedule.Text.Separated

/-!
# Dates and times in a TOML document

A date, a time of day, or both with an optional offset from UTC. A moment is
checked and kept as its text in a uniform spelling: a capital T between date and
time, and a fraction of a second, if there is one, with the fewest places, at
least one and at most nine.
-/

set_option autoImplicit false

namespace CronSchedule.Toml

/-- The number that exactly so many ASCII digits write. -/
def fixedWidth? (width : Nat) (text : List Char) : Option Nat :=
  if text.length = width then Numeral.natural? text else none

/-- A date such as 1979-05-27. -/
def dateText? (text : List Char) : Option (List Char) :=
  match Text.splitAt '-' text with
  | [year, month, day] => do
    let year ← fixedWidth? 4 year
    let month ← fixedWidth? 2 month
    let day ← fixedWidth? 2 day
    if (Date.ofName? year month day).isSome then some text else none
  | _ => none

/-- A fraction of a second without needless zeros at its end, with the point in front. -/
def fractionText? (digits : List Char) : Option (List Char) :=
  if digits.isEmpty || !digits.all Char.isDigit then none
  else
    let significant := ((digits.take 9).reverse.dropWhile (· = '0')).reverse
    some ('.' :: if significant.isEmpty then ['0'] else significant)

/-- A time of day such as 07:32, 07:32:00 or 07:32:00.5; a minute may have a leap second. -/
def clockText? (text : List Char) : Option (List Char) :=
  let (whole, fraction) := match Text.splitFirst? '.' text with
    | some (whole, fraction) => (whole, some fraction)
    | none => (text, none)
  match Text.splitAt ':' whole with
  | [hour, minute] => do
    let hour ← fixedWidth? 2 hour
    let minute ← fixedWidth? 2 minute
    if hour ≤ 23 ∧ minute ≤ 59 ∧ fraction.isNone then some whole else none
  | [hour, minute, second] => do
    let hour ← fixedWidth? 2 hour
    let minute ← fixedWidth? 2 minute
    let second ← fixedWidth? 2 second
    if hour ≤ 23 ∧ minute ≤ 59 ∧ second ≤ 60 then
      match fraction with
      | some digits => (fractionText? digits).map (whole ++ ·)
      | none => some whole
    else none
  | _ => none

/-- An offset from UTC such as -07:00; an offset of zero has the plus sign. -/
def offsetText? (sign : Char) (text : List Char) : Option (List Char) :=
  match Text.splitAt ':' text with
  | [hours, minutes] => do
    let hour ← fixedWidth? 2 hours
    let minute ← fixedWidth? 2 minutes
    if hour ≤ 23 ∧ minute ≤ 59 then
      some ((if hour = 0 ∧ minute = 0 then '+' else sign) :: text)
    else none
  | _ => none

/-- A time of day with an optional offset from UTC. -/
def clockWithOffsetText? (text : List Char) : Option (List Char) :=
  if text.getLast? = some 'Z' ∨ text.getLast? = some 'z' then
    (clockText? text.dropLast).map (· ++ ['Z'])
  else
    match Text.splitFirst? '+' text, Text.splitFirst? '-' text with
    | some (clock, offset), _ => do return (← clockText? clock) ++ (← offsetText? '+' offset)
    | none, some (clock, offset) => do return (← clockText? clock) ++ (← offsetText? '-' offset)
    | none, none => clockText? text

/-- A date, a time of day, or a date and a time with an offset that may be left out. -/
def momentText? (text : List Char) : Option (List Char) :=
  match dateText? text, clockText? text with
  | some date, _ => some date
  | none, some clock => some clock
  | none, none => do
    let date ← dateText? (text.take 10)
    match text.drop 10 with
    | separator :: clock =>
      if separator = 'T' ∨ separator = 't' ∨ separator = ' ' then
        return date ++ 'T' :: (← clockWithOffsetText? clock)
      else none
    | [] => none

end CronSchedule.Toml
