import CronSchedule.Pattern.English
import CronSchedule.Pattern.Printing
import CronSchedule.Schedule.Basic

/-!
# Descriptions of a schedule

A schedule can be told as an English sentence, written as seven tokens in either
numbering of the weekdays, and drawn as a tree of its patterns.
-/

set_option autoImplicit false

namespace CronSchedule

namespace Schedule

/-! ## In words -/

/-- The field written before a field. -/
def fieldBefore? : Field → Option Field
  | .second => none
  | .minute => some .second
  | .hour => some .minute
  | .dayOfMonth => some .hour
  | .month => some .dayOfMonth
  | .dayOfWeek => some .month
  | .year => some .dayOfWeek

/-- Is the field told? A wildcard right after another wildcard adds nothing. -/
def isTold (schedule : Schedule) (field : Field) : Bool :=
  !((schedule.pattern field).isWildcard &&
    (fieldBefore? field).any fun before => (schedule.pattern before).isWildcard)

/-- The phrase for the time of day: a clock time if every field within the day is one number,
the finest field alone if nothing constrains the time, and otherwise the phrase of each field
that is not zero. -/
def timePhrase (schedule : Schedule) : String :=
  let told := [Field.second, .minute, .hour].filter schedule.isTold
  if told.all fun field => (schedule.pattern field).isWildcard then
    (schedule.pattern .second).english .second
  else
    match told.map fun field => (schedule.pattern field).single? with
    | [some second, some minute, some hour] => English.timeOfDay second minute hour
    | _ =>
      String.intercalate " of " <|
        (told.filter fun field => (schedule.pattern field).single? ≠ some 0).map fun field =>
          (schedule.pattern field).english field

/-- Does the field, one of the two day fields, have a part in the description? -/
def tellsDay (schedule : Schedule) (field : Field) : Bool :=
  schedule.isTold field && !(schedule.pattern field).isUnspecified

/-- The phrase for one of the two day fields, with the month it refers to; `lead` comes before
a day that is one number. -/
def dayPhrase (schedule : Schedule) (lead : String) (field : Field) : String :=
  let pattern := schedule.pattern field
  (if pattern.single?.isSome then lead else "") ++ pattern.english field ++ " of " ++
    (schedule.pattern .month).english .month

/-- The phrase for the date: the day of month, the day of week, and the year. -/
def datePhrase (schedule : Schedule) : String :=
  let monthDay :=
    if schedule.tellsDay .dayOfMonth then schedule.dayPhrase "on " .dayOfMonth else ""
  let weekDay :=
    if schedule.tellsDay .dayOfWeek then
      (if monthDay.isEmpty then "" else " and ") ++ schedule.dayPhrase "every " .dayOfWeek
    else ""
  let year :=
    if (schedule.pattern .year).isWildcard then ""
    else " " ++ (schedule.pattern .year).english .year
  monthDay ++ weekDay ++ year

/-- An English sentence for the schedule. -/
def describe (schedule : Schedule) : String :=
  if schedule.datePhrase.isEmpty then schedule.timePhrase
  else schedule.timePhrase ++ " " ++ schedule.datePhrase

/-! ## As tokens -/

/-- The seven tokens of the schedule with spaces between them, in characters. -/
def canonicalChars (schedule : Schedule) : List Char :=
  Text.joinWith ' ' (schedule.patterns.toList.map Pattern.tokenChars)

/-- The seven tokens of the schedule; weeks are numbered from Monday as 1 to Sunday as 7. -/
def canonicalText (schedule : Schedule) : String := String.ofList schedule.canonicalChars

/-- The seven tokens of the schedule; weeks are numbered from Sunday as 1 to Saturday as 7. -/
def sundayFirstText (schedule : Schedule) : String :=
  String.ofList <|
    Text.joinWith ' ' (Field.all.map fun field => (schedule.pattern field).alternateChars field)

/-! ## As a tree -/

mutual

/-- The lines for the patterns inside a pattern; `indent` stands before each of them. -/
def linesInside (indent : String) : Pattern → List String
  | .step base _ => (indent ++ "└─ " ++ base.label) :: linesInside (indent ++ "   ") base
  | .list children => linesOfAll indent children
  | _ => []

/-- The lines for sibling patterns; the last of them closes the branch. -/
def linesOfAll (indent : String) : List Pattern → List String
  | [] => []
  | child :: others =>
    let branch := if others.isEmpty then "└─ " else "├─ "
    let rail := if others.isEmpty then "   " else "│  "
    (indent ++ branch ++ child.label) :: linesInside (indent ++ rail) child ++
      linesOfAll indent others

end

/-- The mark before the line of a field. -/
def fieldBranch : Field → String
  | .second => "┌─ "
  | .year => "└─ "
  | _ => "├─ "

/-- The indent of the lines below the line of a field. -/
def fieldIndent : Field → String
  | .year => "   "
  | _ => "│  "

/-- The lines of the tree of one field. -/
def fieldLines (schedule : Schedule) (field : Field) : List String :=
  (fieldBranch field ++ field.name ++ ": " ++ (schedule.pattern field).label) ::
    linesInside (fieldIndent field) (schedule.pattern field)

/-- The lines of the tree of all patterns. -/
def treeLines (schedule : Schedule) : List String := Field.all.flatMap schedule.fieldLines

/-- The tree of all patterns. -/
def tree (schedule : Schedule) : String := String.intercalate "\n" schedule.treeLines

end Schedule

end CronSchedule
