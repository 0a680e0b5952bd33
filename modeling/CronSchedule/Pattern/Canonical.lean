import CronSchedule.Pattern.Matching

/-!
# The canonical form of a pattern

Different tokens can select the same values. The canonical form of a list of
adjacent numbers is a range, that of a list of one number is the number, and a
step that selects at most one value is no step. A step that selects nothing
becomes the wildcard.
-/

set_option autoImplicit false

namespace CronSchedule

namespace Pattern

/-! ## Lists of numbers -/

/-- Inserts a number into an ascending list of distinct numbers. -/
def insertDistinct (n : Nat) : List Nat → List Nat
  | [] => [n]
  | m :: rest =>
    if n < m then n :: m :: rest
    else if n = m then m :: rest
    else m :: insertDistinct n rest

/-- The numbers of a list in ascending order, each once. -/
def distinct (numbers : List Nat) : List Nat := numbers.foldr insertDistinct []

/-- The canonical form of a list whose children are in canonical form: at least two numbers
become one number or a range if they are adjacent. -/
def mergeNumbers (children : List Pattern) : Pattern :=
  match children.mapM single? with
  | none => list children
  | some numbers =>
    if numbers.length < 2 then list children
    else
      match distinct numbers with
      | [] => list children
      | low :: rest =>
        let high := rest.getLastD low
        if high = low then single low
        else if high - low = rest.length then range low high false
        else list children

/-! ## Steps -/

/-- The bounds within which a step over the base selects its values. -/
def stepBounds (field : Field) : Pattern → Nat × Nat
  | range low high _ => (low, high)
  | _ => (field.min, field.max)

/-- The values that a step selects, in ascending order. Steps accept the same values at all
times, so any time serves to list them. -/
def stepValues (field : Field) (base : Pattern) (interval : Nat) : List Nat :=
  let bounds := stepBounds field base
  (List.range' bounds.1 (bounds.2 + 1 - bounds.1)).filter fun value =>
    (step base interval).accepts value LocalTime.epoch

mutual

/-- Merges adjacent numbers in lists and replaces steps that select at most one value. -/
def simplify (field : Field) : Pattern → Pattern
  | list children => mergeNumbers (simplifyAll field children)
  | step base interval =>
    match stepValues field base interval with
    | [] => wildcard
    | [value] => single value
    | _ => step (simplify field base) interval
  | pattern => pattern

/-- Simplifies every pattern of a list. -/
def simplifyAll (field : Field) : List Pattern → List Pattern
  | [] => []
  | child :: others => simplify field child :: simplifyAll field others

end

/-! ## Sunday -/

mutual

/-- Writes Sunday as day 7 of the week wherever a pattern names it as day 0. -/
def sundayAsSeven : Pattern → Pattern
  | single value => single (if value = 0 then 7 else value)
  | list children => list (sundayAsSevenAll children)
  | step base interval => step (sundayAsSeven base) interval
  | pattern => pattern

/-- Writes Sunday as day 7 in every pattern of a list. -/
def sundayAsSevenAll : List Pattern → List Pattern
  | [] => []
  | child :: others => sundayAsSeven child :: sundayAsSevenAll others

end

/-- The canonical form of the pattern of a field. -/
def canonical (field : Field) (pattern : Pattern) : Pattern :=
  let simple := simplify field pattern
  if field = .dayOfWeek then sundayAsSeven simple else simple

end Pattern

end CronSchedule
