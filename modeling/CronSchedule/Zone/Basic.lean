import CronSchedule.LocalTime

/-!
# Time zones

A zone relates instants to wall-clock times. It is either a fixed offset from
UTC, or a named table of the offsets in force and the instants at which they
change. `Zone.toLocal?` gives the wall-clock time of an instant and
`Zone.toEpochs` the instants of a wall-clock time: exactly one at a fixed offset,
none where a change of the table skips the time, two where it repeats it.
-/

set_option autoImplicit false

namespace CronSchedule

/-! ## Tables of offsets -/

/-- From the instant `epoch` on, wall clocks are `offset` seconds ahead of UTC. -/
structure OffsetChange where
  epoch : Int
  offset : Int
  deriving DecidableEq

/-- The offsets of a named zone in seconds: the one in force at the start, and the changes in
ascending order. -/
structure ZoneTable where
  name : String
  initial : Int
  changes : List OffsetChange
  deriving DecidableEq

/-- The offset in force at an instant, if `offset` is in force before the changes. -/
def offsetAfter (epoch offset : Int) : List OffsetChange → Int
  | [] => offset
  | change :: later => if epoch < change.epoch then offset else offsetAfter epoch change.offset later

/-- The instants at which wall clocks show `seconds`, if `offset` is in force from the instant
`start`, or since ever, until the changes: in each stretch between two changes the clocks show
the time at most once. -/
def epochsShowing (seconds : Int) (start : Option Int) (offset : Int) : List OffsetChange → List Int
  | [] => if start.all (· ≤ seconds - offset) then [seconds - offset] else []
  | change :: later =>
    let others := epochsShowing seconds (some change.epoch) change.offset later
    if start.all (· ≤ seconds - offset) && seconds - offset < change.epoch then
      (seconds - offset) :: others
    else others

namespace ZoneTable

/-- The offset from UTC in seconds at an instant. -/
def offsetAt (table : ZoneTable) (epoch : Int) : Int :=
  offsetAfter epoch table.initial table.changes

/-- The instants at which wall clocks in the zone show the time, in ascending order. -/
def epochsOf (table : ZoneTable) (time : LocalTime) : List Int :=
  (epochsShowing time.seconds none table.initial table.changes).filter fun epoch =>
    (LocalTime.ofSeconds? epoch).isSome

end ZoneTable

/-! ## Zones -/

/-- How wall-clock time relates to instants. -/
inductive Zone where
  /-- An offset from UTC in minutes that never changes. -/
  | fixed (minutes : Int)
  /-- The offsets of a named zone. -/
  | named (table : ZoneTable)
  deriving DecidableEq

namespace Zone

/-- Name of the zone; every fixed offset goes by the name of UTC. -/
def name : Zone → String
  | fixed _ => "UTC"
  | named table => table.name

/-- The offset from UTC in seconds at an instant. -/
def offsetAt (epoch : Int) : Zone → Int
  | fixed minutes => 60 * minutes
  | named table => table.offsetAt epoch

/-- The offset from UTC in whole minutes at an instant, without the seconds beyond them; a named
zone has the offset zero where the calendar does not reach. -/
def offsetMinutesAt (epoch : Int) : Zone → Int
  | fixed minutes => minutes
  | named table =>
    if (LocalTime.ofSeconds? epoch).isSome then (table.offsetAt epoch).tdiv 60 else 0

/-- The wall-clock time of an instant, where the calendar reaches. -/
def toLocal? (zone : Zone) (epoch : Int) : Option LocalTime :=
  (LocalTime.ofSeconds? epoch).bind fun utc => utc.add? (zone.offsetAt epoch)

/-- The instants that a wall-clock time denotes, in ascending order. -/
def toEpochs (zone : Zone) (time : LocalTime) : List Int :=
  match zone with
  | fixed minutes => [time.seconds - 60 * minutes]
  | named table => table.epochsOf time

/-- The other wall-clock reading of an instant whose local time occurs twice: the instant under
the offset of the other occurrence. -/
def otherReading? (zone : Zone) (epoch : Int) : Option LocalTime := do
  let time ← zone.toLocal? epoch
  let utc ← LocalTime.ofSeconds? epoch
  match zone.toEpochs time with
  | [first, second] =>
    if first = epoch then utc.add? (60 * zone.offsetMinutesAt second)
    else if second = epoch then utc.add? (60 * zone.offsetMinutesAt first)
    else none
  | _ => none

end Zone

end CronSchedule
