import CronSchedule.Pattern.Canonical
import CronSchedule.Text.Separated

/-!
# Writing a pattern as a token

`Pattern.token` writes a pattern in the form in which it is read.
`Pattern.alternateToken` writes the weekdays of a pattern in the numbering that
starts with Sunday as 1 and ends with Saturday as 7.
-/

set_option autoImplicit false

namespace CronSchedule

namespace Pattern

mutual

/-- The token of a pattern, with `number` applied to the values that may be weekdays; an
interval, a day before the last, a day near a weekday and a count are no such values. -/
def spell (number : Nat → Nat) : Pattern → List Char
  | wildcard => ['*']
  | unspecified => ['?']
  | single value => Numeral.digits (number value)
  | range low high _ => Numeral.digits (number low) ++ '-' :: Numeral.digits (number high)
  | step base interval => spell number base ++ '/' :: Numeral.digits interval
  | list children => Text.joinWith ',' (spellAll number children)
  | last offset none => if offset = 0 then ['L'] else 'L' :: '-' :: Numeral.digits offset
  | last _ (some weekday) => Numeral.digits (number weekday) ++ ['L']
  | lastWeekday => ['L', 'W']
  | nearestWeekday day => Numeral.digits day ++ ['W']
  | nth weekday count => Numeral.digits (number weekday) ++ '#' :: Numeral.digits count

/-- The tokens of the patterns of a list. -/
def spellAll (number : Nat → Nat) : List Pattern → List (List Char)
  | [] => []
  | child :: others => spell number child :: spellAll number others

end

/-- The token of a pattern, in characters. -/
def tokenChars (pattern : Pattern) : List Char := pattern.spell id

/-- The token of a pattern. -/
def token (pattern : Pattern) : String := String.ofList pattern.tokenChars

/-! ## Weeks that start with Sunday -/

/-- Number of a weekday in the week from Sunday to Saturday. -/
def fromSunday (weekday : Nat) : Nat := if weekday = 7 then 1 else weekday + 1

/-- The days from Monday to Sunday that a pattern accepts, as patterns. -/
def acceptedDays (pattern : Pattern) : List Pattern :=
  ((List.range' 1 7).filter fun day => pattern.accepts day LocalTime.epoch).map single

mutual

/-- Writes out a step as the days that it selects, since a step changes its meaning with the
numbering of the days. -/
def stepsAsDays : Pattern → Pattern
  | step base interval =>
    match acceptedDays (step base interval) with
    | [] => step base interval
    | [day] => day
    | days => list days
  | list children => list (stepsAsDaysAll children)
  | pattern => pattern

/-- Writes out the steps in every pattern of a list. -/
def stepsAsDaysAll : List Pattern → List Pattern
  | [] => []
  | child :: others => stepsAsDays child :: stepsAsDaysAll others

end

/-- The token of the pattern of a field in the numbering that starts with Sunday, in
characters. -/
def alternateChars (field : Field) (pattern : Pattern) : List Char :=
  if field = .dayOfWeek then pattern.stepsAsDays.spell fromSunday else pattern.tokenChars

/-- The token of the pattern of a field in the numbering that starts with Sunday. -/
def alternateToken (field : Field) (pattern : Pattern) : String :=
  String.ofList (pattern.alternateChars field)

end Pattern

end CronSchedule
