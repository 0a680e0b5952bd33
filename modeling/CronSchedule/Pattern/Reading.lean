import CronSchedule.Error
import CronSchedule.Numeral
import CronSchedule.Pattern.Basic
import CronSchedule.Text.DecimalDigit
import CronSchedule.Text.Separated

/-!
# Reading the token of a field

A token is one item or a list of items with commas between them. An item is an
atom, or an atom and a step with a slash between them. An atom is a star, a
question mark, a number, a range or one of the forms that count days in a month.
Each layer is read by a function of its own, so no function calls itself.
-/

set_option autoImplicit false

namespace CronSchedule

namespace Pattern

/-- The error for a text that has none of the forms of the field. -/
def invalid (field : Field) (text : List Char) : ScheduleError :=
  .invalidToken field (String.ofList text)

/-! ## Numbers -/

/-- The number that the digits write, if it lies between the bounds. -/
def readBounded (field : Field) (min max : Nat) (digits : List Char) : Except ScheduleError Nat :=
  match Numeral.natural? digits with
  | some n => if min ≤ n ∧ n ≤ max then .ok n else .error (.outOfRange field (String.ofList digits) min max)
  | none => .error (.outOfRange field (String.ofList digits) min max)

/-- Day 0 of the week is the Sunday at its end; other values stand for themselves. -/
def sundayAtEnd (field : Field) (n : Nat) : Nat :=
  if field = .dayOfWeek ∧ n = 0 then 7 else n

/-- The value of the field that the digits write. -/
def readValue (field : Field) (digits : List Char) : Except ScheduleError Nat :=
  match (Numeral.natural? digits).map (sundayAtEnd field) with
  | some n =>
    if field.contains n then .ok n
    else .error (.outOfRange field (String.ofList digits) field.min field.max)
  | none => .error (.outOfRange field (String.ofList digits) field.min field.max)

/-! ## Atoms -/

/-- The forms of the day of month besides those of all fields: `L`, `LW`, `L-k` and `nW`. -/
def readMonthDay (text : List Char) : Except ScheduleError Pattern :=
  match text with
  | ['L'] => .ok (last 0 none)
  | ['L', 'W'] => .ok lastWeekday
  | 'L' :: '-' :: digits =>
    if Text.isNumber digits then
      (readBounded .dayOfMonth 0 30 digits).map fun offset => last offset none
    else .error (invalid .dayOfMonth text)
  | _ =>
    if text.getLast? = some 'W' ∧ Text.isNumber text.dropLast then
      (readValue .dayOfMonth text.dropLast).map nearestWeekday
    else .error (invalid .dayOfMonth text)

/-- The forms of the day of week besides those of all fields: `L`, `dL` and `d#n`. -/
def readWeekDay (text : List Char) : Except ScheduleError Pattern :=
  if text = ['L'] then .ok (last 0 (some 7))
  else if text.getLast? = some 'L' ∧ Text.isNumber text.dropLast then
    (readBounded .dayOfWeek 1 7 text.dropLast).map fun weekday => last 0 (some weekday)
  else
    match Text.splitFirst? '#' text with
    | some (day, count) =>
      if Text.isNumber day ∧ Text.isNumber count then do
        let weekday ← readBounded .dayOfWeek 1 7 day
        let count ← readBounded .dayOfWeek 1 5 count
        return nth weekday count
      else .error (invalid .dayOfWeek text)
    | none => .error (invalid .dayOfWeek text)

/-- The forms that only one of the two day fields has. -/
def readCalendarForm (field : Field) (text : List Char) : Except ScheduleError Pattern :=
  match field with
  | .dayOfMonth => readMonthDay text
  | .dayOfWeek => readWeekDay text
  | _ => .error (invalid field text)

/-- The two ends of a range as they are written: two numbers, or a star and a number, with a
hyphen between them. -/
def rangeEnds? (text : List Char) : Option (List Char × List Char) :=
  (Text.splitFirst? '-' text).filter fun (low, high) =>
    (low = ['*'] || Text.isNumber low) && Text.isNumber high

/-- The range with the given ends. A star at its start is the smallest value of the field, and
a range of weekdays is wrapped when it ends before it starts. -/
def readRange (field : Field) (low high : List Char) : Except ScheduleError Pattern := do
  let low ← if low = ['*'] then .ok field.min else readValue field low
  let high ← readValue field high
  return range low high (field = .dayOfWeek && high < low)

/-- A star, a question mark, a number, a range or a form of one of the day fields. -/
def readAtom (field : Field) (text : List Char) : Except ScheduleError Pattern :=
  if text = ['*'] then .ok wildcard
  else if text = ['?'] then
    if field.isDay then .ok unspecified else .error (invalid field text)
  else if Text.isNumber text then (readValue field text).map single
  else
    match rangeEnds? text with
    | some (low, high) => readRange field low high
    | none => readCalendarForm field text

/-! ## Items and lists -/

/-- Largest interval of a step. -/
def maxInterval : Nat := 4294967295

/-- The interval after a slash: a positive number of at most 32 bits. -/
def readInterval (field : Field) (text : List Char) : Except ScheduleError Nat :=
  match Numeral.natural? text with
  | some n =>
    if 0 < n ∧ n ≤ maxInterval then .ok n
    else .error (.invalidStep field (String.ofList text))
  | none => .error (.invalidStep field (String.ofList text))

/-- Can the values of the pattern be stepped through? -/
def admitsSteps : Pattern → Bool
  | wildcard | single _ | range _ _ false => true
  | _ => false

/-- An atom, or an atom and an interval with a slash between them. The interval is read before
the atom. -/
def readItem (field : Field) (text : List Char) : Except ScheduleError Pattern :=
  match Text.splitFirst? '/' text with
  | none => readAtom field text
  | some (base, interval) => do
    let interval ← readInterval field interval
    let base ← readAtom field base
    if base.admitsSteps then return step base interval
    else throw (.unsupportedStep field (String.ofList text))

/-- One part of a list; an empty part makes the whole token invalid. -/
def readPart (field : Field) (token part : List Char) : Except ScheduleError Pattern :=
  if part.isEmpty then .error (invalid field token) else readItem field part

/-- One item, or the list of the items between commas. -/
def read (field : Field) (token : List Char) : Except ScheduleError Pattern :=
  match Text.splitAt ',' token with
  | [_] => readItem field token
  | parts => (parts.mapM (readPart field token)).map list

end Pattern

end CronSchedule
