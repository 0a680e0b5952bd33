import CronSchedule.Error
import CronSchedule.Field.Names
import CronSchedule.Numeral
import CronSchedule.Text.Blank
import CronSchedule.Text.Uppercase
import CronSchedule.Text.WordCharacter

/-!
# The seven field texts of an expression

An expression is written as five, six or seven words or as a preset. This file
finds the token of each field: letters become capitals, a preset gives way to
its fields, missing fields are supplied, names become numbers, and the two day
fields are made to agree on which of them selects the day.
-/

set_option autoImplicit false

namespace CronSchedule

/-- The token of each field, in characters. -/
abbrev FieldTexts : Type := PerField (List Char)

namespace FieldTexts

/-! ## Words -/

/-- The words of an expression in capitals, with a preset replaced by its fields. -/
def expandedWords (expression : List Char) : List (List Char) :=
  match (Text.words expression).map Text.capitals with
  | [word] =>
    match presetFields? (String.ofList word) with
    | some fields => fields.map String.toList
    | none => [word]
  | words => words

/-- The words as fields: the year may be left out, and the second with it. An expression
without any word counts as one field. -/
def ofWords : List (List Char) → Except ScheduleError FieldTexts
  | [minute, hour, dayOfMonth, month, dayOfWeek] =>
    .ok ⟨['0'], minute, hour, dayOfMonth, month, dayOfWeek, ['*']⟩
  | [second, minute, hour, dayOfMonth, month, dayOfWeek] =>
    .ok ⟨second, minute, hour, dayOfMonth, month, dayOfWeek, ['*']⟩
  | [second, minute, hour, dayOfMonth, month, dayOfWeek, year] =>
    .ok ⟨second, minute, hour, dayOfMonth, month, dayOfWeek, year⟩
  | words => .error (.fieldCount (max 1 words.length))

/-! ## Names -/

/-- The number of the month that a run of letters names; other runs stay as they are. -/
def monthRun (run : List Char) : List Char :=
  match monthNumber? (String.ofList run) with
  | some n => Numeral.digits n
  | none => run

/-- The number of the weekday that a run of letters names. An `L` right after the name stays
and keeps its meaning of the last such day in a month; other runs stay as they are. -/
def weekdayRun (run : List Char) : List Char :=
  match weekdayNumber? (String.ofList run) with
  | some n => Numeral.digits n
  | none =>
    if run.getLast? = some 'L' then
      match weekdayNumber? (String.ofList run.dropLast) with
      | some n => Numeral.digits n ++ ['L']
      | none => run
    else run

/-- Replaces the names of months in the month and of weekdays in the day of week. -/
def withNumbers (texts : FieldTexts) : FieldTexts :=
  { texts with
    month := Text.mapRuns monthRun texts.month
    dayOfWeek := Text.mapRuns weekdayRun texts.dayOfWeek }

/-! ## Days -/

/-- A star in one day field gives way to a constraint in the other: the day of week first,
unless the day of month is left unspecified, then the day of month. -/
def reconciled (texts : FieldTexts) : FieldTexts :=
  let dayOfWeek :=
    if texts.dayOfMonth ≠ ['?'] ∧ texts.dayOfWeek = ['*'] then ['?'] else texts.dayOfWeek
  let dayOfMonth :=
    if texts.dayOfMonth = ['*'] ∧ dayOfWeek ≠ ['?'] then ['?'] else texts.dayOfMonth
  { texts with dayOfMonth, dayOfWeek }

/-- The field texts of an expression. -/
def ofExpression (expression : List Char) : Except ScheduleError FieldTexts := do
  let texts ← ofWords (expandedWords expression)
  let texts := texts.withNumbers.reconciled
  if texts.dayOfMonth = ['?'] ∧ texts.dayOfWeek = ['?'] then throw .bothUnspecified
  return texts

end FieldTexts

end CronSchedule
