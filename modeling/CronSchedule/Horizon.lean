import CronSchedule.LocalTime

/-!
# Horizons

A search ends at its horizon. Where nothing else is said, the horizon lies ten
years before and ten years after the present.
-/

set_option autoImplicit false

namespace CronSchedule

/-- The bounds of a search: the instant at which a search backward ends, and the one at which a
search forward ends, if there is one. -/
structure Horizon where
  beginEpoch : Int
  endEpoch : Option Int
  deriving DecidableEq

/-- The time on the same day of the year so many years later, or on the last day of that month if
the month is too short. -/
def LocalTime.addYears? (time : LocalTime) (years : Int) : Option LocalTime :=
  let year := time.date.year + years
  time.withDate? year time.date.month (min time.date.day (daysInMonth year time.date.month))

/-- The horizon ten years around an instant; it does not begin before the epoch. -/
def Horizon.around (present : Int) : Horizon where
  beginEpoch :=
    match (LocalTime.ofSeconds? present).bind (·.addYears? (-10)) with
    | some time => max 0 time.seconds
    | none => 0
  endEpoch := ((LocalTime.ofSeconds? present).bind (·.addYears? 10)).map (·.seconds)

end CronSchedule
