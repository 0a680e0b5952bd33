import CronSchedule.Zone.Basic

/-!
# Changes of the clock by a yearly rule

Where clocks change on the same Sunday of a month every year, the changes follow
from the rule of the year.
-/

set_option autoImplicit false

namespace CronSchedule

/-- A yearly change of the clock: on the first Sunday of the month on or after `earliest`, when
clocks show `clock` seconds since midnight, the offset changes from `before` to `after`. -/
structure SundayRule where
  month : Nat
  earliest : Nat
  clock : Int
  before : Int
  after : Int

/-- The change that a rule makes in a year. -/
def SundayRule.change (rule : SundayRule) (year : Nat) : OffsetChange :=
  let earliest := dayNumber year rule.month rule.earliest
  let sunday := earliest + (6 - (earliest + 3) % 7)
  { epoch := sunday * secondsPerDay + rule.clock - rule.before
    offset := rule.after }

/-- The last year in which clocks change. -/
def lastYearlyChange : Nat := 2099

/-- The changes that the rules of a year, in the order of the year, make from a year on. -/
def yearlyChanges (firstYear : Nat) (rules : List SundayRule) : List OffsetChange :=
  (List.range' firstYear (lastYearlyChange + 1 - firstYear)).flatMap fun year =>
    rules.map fun rule => rule.change year

/-- A table of recorded changes, as pairs of an instant and the offset from then on, followed by
changes by rule. -/
def ZoneTable.ofRecord (name : String) (initial : Int) (recorded : List (Int × Int))
    (yearly : List OffsetChange) : ZoneTable where
  name := name
  initial := initial
  changes := recorded.map (fun change => ⟨change.1, change.2⟩) ++ yearly

end CronSchedule
