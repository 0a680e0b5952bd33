import CronSchedule.Field
import CronSchedule.Field.English
import CronSchedule.Field.Names
import CronSchedule.Pattern.Basic

/-!
# Patterns in words

`Pattern.english` is the phrase for a pattern as a constraint on a field, and
`Pattern.label` the short label of a pattern in the tree view.
-/

set_option autoImplicit false

namespace CronSchedule

namespace Pattern

/-- A value of a field in words: months and weekdays by name, days of the month by their
ordinal. -/
def valuePhrase (field : Field) (value : Nat) : String :=
  match field with
  | .dayOfMonth => "the " ++ English.ordinal value
  | .month => (monthName? value).getD (toString value)
  | .dayOfWeek => (dayName? value).getD (toString value)
  | _ => toString value

/-- Name of a weekday; numbers beyond the week are Sundays. -/
def weekdayPhrase (weekday : Nat) : String := (dayName? weekday).getD "Sunday"

mutual

/-- The phrase for a pattern as a constraint on a field. -/
def english (field : Field) : Pattern → String
  | wildcard => "every " ++ field.unit
  | unspecified => ""
  | single value =>
    if field.isSubDay then field.unit ++ " " ++ valuePhrase field value else valuePhrase field value
  | range low high _ =>
    s!"every {field.unit} from {valuePhrase field low} to {valuePhrase field high}"
  | step base interval =>
    s!"every {interval} {field.unit}" ++ (if interval = 1 then "" else "s") ++
      match base with
      | wildcard => ""
      | range low high _ => s!" from {valuePhrase field low} to {valuePhrase field high}"
      | other => " starting " ++ english field other
  | list children => String.intercalate ", " (englishAll field children)
  | last offset none =>
    if offset = 0 then "on the last day" else s!"on the {English.ordinal (offset + 1)} to last day"
  | last _ (some weekday) => "on the last " ++ weekdayPhrase weekday
  | lastWeekday => "on the last weekday"
  | nearestWeekday day => "on the nearest weekday to the " ++ English.ordinal day
  | nth weekday count => s!"on the {English.ordinal count} {weekdayPhrase weekday}"

/-- The phrases for the patterns of a list. -/
def englishAll (field : Field) : List Pattern → List String
  | [] => []
  | child :: others => english field child :: englishAll field others

end

/-- Label of a pattern in the tree view, without the patterns inside it. -/
def label : Pattern → String
  | wildcard => "Wildcard"
  | unspecified => "Unspecified"
  | single value => s!"Single({value})"
  | range low high wrapped =>
    if wrapped then s!"Range({low}-{high}, wrapped)" else s!"Range({low}-{high})"
  | step _ interval => s!"Step(/{interval})"
  | list children => s!"List({children.length})"
  | last offset none => s!"Last(offset {offset})"
  | last _ (some weekday) => s!"Last(weekday {weekday})"
  | lastWeekday => "LastWeekday"
  | nearestWeekday day => s!"NearestWeekday({day})"
  | nth weekday count => s!"Nth(weekday {weekday}, #{count})"

end Pattern

end CronSchedule
