/-!
# Patterns

A pattern is the constraint that a schedule places on one field. Only steps and
lists have patterns inside them.
-/

set_option autoImplicit false

namespace CronSchedule

/-- The constraint on one field of a schedule. -/
inductive Pattern where
  /-- Any value, written as a star. -/
  | wildcard
  /-- No constraint of its own, written as a question mark; only for the two day fields. -/
  | unspecified
  /-- One value. -/
  | single (value : Nat)
  /-- The values from `low` to `high`; a wrapped range runs past the end of the week. -/
  | range (low high : Nat) (wrapped : Bool)
  /-- Every so many of the values of a base, counted from its start. -/
  | step (base : Pattern) (interval : Nat)
  /-- The values of any of the children. -/
  | list (children : List Pattern)
  /-- The day `offset` days before the last day of the month; with a weekday, the last day of
  the month that falls on it, whatever the offset. -/
  | last (offset : Nat) (weekday : Option Nat)
  /-- The last day of the month from Monday to Friday. -/
  | lastWeekday
  /-- The day from Monday to Friday nearest to the given one, within the month. -/
  | nearestWeekday (day : Nat)
  /-- The `count`-th day of the month that falls on the weekday. -/
  | nth (weekday count : Nat)

namespace Pattern

/-- Is the pattern the wildcard? -/
def isWildcard : Pattern → Bool
  | wildcard => true
  | _ => false

/-- Is the pattern left unspecified? -/
def isUnspecified : Pattern → Bool
  | unspecified => true
  | _ => false

/-- The value of a pattern that names just one. -/
def single? : Pattern → Option Nat
  | single value => some value
  | _ => none

/-- The patterns directly inside a pattern. -/
def children : Pattern → List Pattern
  | step base _ => [base]
  | list children => children
  | _ => []

end Pattern

end CronSchedule
