/-!
# Options of a schedule

The options say where wall clocks are read, as a named zone or as a fixed offset
from UTC, and how far a search reaches. Each of them may be left unset.
-/

set_option autoImplicit false

namespace CronSchedule

/-- The options with which a schedule is set up. -/
structure ScheduleOptions where
  /-- Name of a zone; excludes an offset. -/
  timeZone : Option String
  /-- Offset from UTC in minutes; excludes a named zone. -/
  utcOffset : Option Int
  /-- The instant at which a search backward ends. -/
  beginEpoch : Option Int
  /-- The instant at which a search forward ends. -/
  endEpoch : Option Int
  deriving DecidableEq

namespace ScheduleOptions

/-- No option is set. -/
def unset : ScheduleOptions := ⟨none, none, none, none⟩

/-- Fills the unset options from a fallback. Zone and offset exclude each other, so they are
taken together from the options in which either is set. -/
def orElse (options fallback : ScheduleOptions) : ScheduleOptions :=
  let placed := if options.timeZone.isSome || options.utcOffset.isSome then options else fallback
  { timeZone := placed.timeZone
    utcOffset := placed.utcOffset
    beginEpoch := options.beginEpoch.or fallback.beginEpoch
    endEpoch := options.endEpoch.or fallback.endEpoch }

end ScheduleOptions

end CronSchedule
