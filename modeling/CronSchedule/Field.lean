/-!
# The seven fields of a schedule

A schedule constrains a wall-clock time in seven fields. This file fixes the
fields, their order in a written schedule, the inclusive bounds of their values
and the words used for them, and the record `PerField` that holds one item for
each field.
-/

set_option autoImplicit false

namespace CronSchedule

/-- The fields of a schedule, in the order in which they are written. -/
inductive Field where
  | second
  | minute
  | hour
  | dayOfMonth
  | month
  | dayOfWeek
  | year
  deriving DecidableEq, Repr

namespace Field

/-- All fields in the order in which they are written. -/
def all : List Field := [second, minute, hour, dayOfMonth, month, dayOfWeek, year]

/-- Position of a field in a written schedule, counted from zero. -/
def index : Field → Nat
  | second => 0
  | minute => 1
  | hour => 2
  | dayOfMonth => 3
  | month => 4
  | dayOfWeek => 5
  | year => 6

/-- Smallest value of a field; a week starts with Monday as 1. -/
def min : Field → Nat
  | second | minute | hour => 0
  | dayOfMonth | month | dayOfWeek => 1
  | year => 1970

/-- Largest value of a field. -/
def max : Field → Nat
  | second | minute => 59
  | hour => 23
  | dayOfMonth => 31
  | month => 12
  | dayOfWeek => 7
  | year => 2099

/-- Does the value lie within the bounds of the field? -/
def contains (field : Field) (value : Nat) : Bool :=
  field.min ≤ value && value ≤ field.max

theorem contains_iff {field : Field} {value : Nat} :
    field.contains value = true ↔ field.min ≤ value ∧ value ≤ field.max := by
  rw [contains, Bool.and_eq_true, decide_eq_true_eq, decide_eq_true_eq]

/-- The fields finer than a day. -/
def isSubDay : Field → Bool
  | second | minute | hour => true
  | _ => false

/-- The two fields that select days; only these may be left unspecified. -/
def isDay : Field → Bool
  | dayOfMonth | dayOfWeek => true
  | _ => false

/-- Word for one unit of the field, as in "every day". -/
def unit : Field → String
  | second => "second"
  | minute => "minute"
  | hour => "hour"
  | dayOfMonth | dayOfWeek => "day"
  | month => "month"
  | year => "year"

/-- Short name of the field, used in messages and in the tree view. -/
def name : Field → String
  | second => "second"
  | minute => "minute"
  | hour => "hour"
  | dayOfMonth => "dom"
  | month => "month"
  | dayOfWeek => "dow"
  | year => "year"

/-- Name of the field with its words written out. -/
def longName : Field → String
  | dayOfMonth => "day_of_month"
  | dayOfWeek => "day_of_week"
  | field => field.name

end Field

/-! ## One item for each field -/

/-- One item for each of the seven fields. -/
structure PerField (α : Type) where
  second : α
  minute : α
  hour : α
  dayOfMonth : α
  month : α
  dayOfWeek : α
  year : α
  deriving DecidableEq, Repr

namespace PerField

variable {α β ε : Type}

/-- The item of a field. -/
def get (items : PerField α) : Field → α
  | .second => items.second
  | .minute => items.minute
  | .hour => items.hour
  | .dayOfMonth => items.dayOfMonth
  | .month => items.month
  | .dayOfWeek => items.dayOfWeek
  | .year => items.year

/-- The items in the order of the fields. -/
def toList (items : PerField α) : List α := Field.all.map items.get

/-- Applies `f` to every item, field by field; the first failure in the order of
the fields is the failure of the whole. -/
def traverse (f : Field → α → Except ε β) (items : PerField α) : Except ε (PerField β) := do
  let second ← f .second items.second
  let minute ← f .minute items.minute
  let hour ← f .hour items.hour
  let dayOfMonth ← f .dayOfMonth items.dayOfMonth
  let month ← f .month items.month
  let dayOfWeek ← f .dayOfWeek items.dayOfWeek
  let year ← f .year items.year
  return { second, minute, hour, dayOfMonth, month, dayOfWeek, year }

end PerField

end CronSchedule
