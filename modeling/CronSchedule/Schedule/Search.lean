import CronSchedule.Schedule.Basic

/-!
# The next and the previous occurrence

A search runs on wall-clock time. It first tries the seconds left in the minute,
then the minutes left in the hour, then the hours left in the day; a field that
is exhausted is set back to its first value and carries into the next coarser
one. From there on the search goes on day by day at one time of day, which is
the first time of day that the schedule accepts, up to the horizon. A search
backward is the same with all directions reversed.

Where the reference instant lies in an hour that the clocks show twice, the
search starts from both readings of it and the nearer result counts.
-/

set_option autoImplicit false

namespace CronSchedule

/-- Where a search stands: it has found an instant, it has reached a wall-clock time, or there
is nothing left to search. -/
inductive SearchState where
  | found (epoch : Int)
  | reached (time : LocalTime)
  | exhausted

namespace SearchState

/-- Goes on with a search that has neither found an instant nor come to its end. -/
def andThen (state : SearchState) (continuation : LocalTime → SearchState) : SearchState :=
  match state with
  | .reached time => continuation time
  | other => other

/-- The state at a wall-clock time, if the calendar has it. -/
def ofTime? : Option LocalTime → SearchState
  | some time => .reached time
  | none => .exhausted

end SearchState

namespace Schedule

/-! ## Acceptance of a wall-clock time -/

/-- The first instant after the reference that the wall-clock time denotes, if the schedule
accepts the time. -/
def acceptAfter (schedule : Schedule) (reference : Int) (time : LocalTime) : Option Int :=
  if schedule.matchesLocal time then
    (schedule.zone.toEpochs time).find? fun epoch => reference < epoch
  else none

/-- The last instant before the reference that the wall-clock time denotes, if the schedule
accepts the time. -/
def acceptBefore (schedule : Schedule) (reference : Int) (time : LocalTime) : Option Int :=
  if schedule.matchesLocal time then
    (schedule.zone.toEpochs time).reverse.find? fun epoch => epoch < reference
  else none

/-! ## Within the day -/

/-- The fields within a day, the finest first. -/
def subDayFields : List Field := [.second, .minute, .hour]

/-- The field into which a field within the day carries. -/
def coarser : Field → Field
  | .second => .minute
  | .minute => .hour
  | _ => .dayOfMonth

/-- The first instant accepted when the field of a time takes the given values in turn. -/
def tryValues (accept : LocalTime → Option Int) (field : Field) (time : LocalTime)
    (values : List Nat) : Option Int :=
  values.findSome? fun value => (time.withComponent? field value).bind accept

/-- Tries the values of a field from the current one up; then sets the field to its lowest value
and carries forward. -/
def fieldForward (schedule : Schedule) (accept : LocalTime → Option Int) (field : Field)
    (time : LocalTime) : SearchState :=
  match (schedule.pattern field).lowest? field time, (schedule.pattern field).highest? field time with
  | some low, some high =>
    let current := time.component field
    match tryValues accept field time (List.range' current (high + 1 - current)) with
    | some epoch => .found epoch
    | none => .ofTime? ((time.withComponent? field low).bind fun first => first.next? (coarser field))
  | _, _ => .exhausted

/-- Tries the values of a field from the current one down; then sets the field to its highest
value and carries backward. -/
def fieldBackward (schedule : Schedule) (accept : LocalTime → Option Int) (field : Field)
    (time : LocalTime) : SearchState :=
  match (schedule.pattern field).lowest? field time, (schedule.pattern field).highest? field time with
  | some low, some high =>
    let current := time.component field
    match tryValues accept field time (List.range' low (current + 1 - low)).reverse with
    | some epoch => .found epoch
    | none =>
      .ofTime? ((time.withComponent? field high).bind fun last => last.previous? (coarser field))
  | _, _ => .exhausted

/-- Takes a search through the fields within a day, the finest first. -/
def throughFields (search : Field → LocalTime → SearchState) (start : SearchState) : SearchState :=
  subDayFields.foldl (fun state field => state.andThen (search field)) start

/-! ## Day by day -/

/-- The first instant accepted among `count` times that are `pace` seconds apart. -/
def tryTimes (accept : LocalTime → Option Int) (pace : Int) : Nat → LocalTime → Option Int
  | 0, _ => none
  | count + 1, time =>
    match accept time with
    | some epoch => some epoch
    | none => (time.add? pace).bind (tryTimes accept pace count)

/-- Number of times of the same time of day from a first to a last wall-clock time. -/
def dayCount (first last : LocalTime) : Nat :=
  ((last.seconds - first.seconds) / secondsPerDay + 1).toNat

/-- The wall-clock time at which a search forward ends. -/
def lastTime (schedule : Schedule) : LocalTime :=
  match schedule.horizon.endEpoch.bind schedule.zone.toLocal? with
  | some time => LocalTime.lastScheduled.earlier time
  | none => LocalTime.lastScheduled

/-- The wall-clock time at which a search backward ends. -/
def firstTime (schedule : Schedule) : LocalTime :=
  match schedule.zone.toLocal? schedule.horizon.beginEpoch with
  | some time => LocalTime.epoch.later time
  | none => LocalTime.epoch

/-- Searches day by day from a time on. A year before the first one of the schedule is skipped,
and there is nothing to search after the last one. -/
def daysForward (schedule : Schedule) (accept : LocalTime → Option Int) (time : LocalTime) :
    Option Int := do
  let low ← (schedule.pattern .year).lowest? .year time
  let high ← (schedule.pattern .year).highest? .year time
  if high < time.component .year then none
  else
    let first ← if time.component .year < low then time.withDate? low 1 1 else some time
    tryTimes accept secondsPerDay (dayCount first schedule.lastTime) first

/-- Searches day by day from a time back. A year after the last one of the schedule is skipped,
and there is nothing to search before the first one. -/
def daysBackward (schedule : Schedule) (accept : LocalTime → Option Int) (time : LocalTime) :
    Option Int := do
  let low ← (schedule.pattern .year).lowest? .year time
  let high ← (schedule.pattern .year).highest? .year time
  if time.component .year < low then none
  else
    let first ← if high < time.component .year then time.withDate? high 12 31 else some time
    tryTimes accept (-secondsPerDay) (dayCount schedule.firstTime first) first

/-! ## The search -/

/-- The first instant that is found from a wall-clock time on. -/
def scanForward (schedule : Schedule) (accept : LocalTime → Option Int) (start : LocalTime) :
    Option Int :=
  match throughFields (schedule.fieldForward accept) (.ofTime? (start.next? .second)) with
  | .found epoch => some epoch
  | .reached time => schedule.daysForward accept time
  | .exhausted => none

/-- The first instant that is found from a wall-clock time back. -/
def scanBackward (schedule : Schedule) (accept : LocalTime → Option Int) (start : LocalTime) :
    Option Int :=
  match throughFields (schedule.fieldBackward accept) (.ofTime? (start.previous? .second)) with
  | .found epoch => some epoch
  | .reached time => schedule.daysBackward accept time
  | .exhausted => none

/-- The first instant after the reference that the schedule accepts. -/
def next? (schedule : Schedule) (reference : Int) : Option Int := do
  let scan := schedule.scanForward (schedule.acceptAfter reference)
  let time ← schedule.zone.toLocal? reference
  match scan time, (schedule.zone.otherReading? reference).bind scan with
  | some epoch, some other => some (min epoch other)
  | some epoch, none => some epoch
  | none, other => other

/-- The last instant before the reference that the schedule accepts. -/
def previous? (schedule : Schedule) (reference : Int) : Option Int := do
  let scan := schedule.scanBackward (schedule.acceptBefore reference)
  let time ← schedule.zone.toLocal? reference
  match scan time, (schedule.zone.otherReading? reference).bind scan with
  | some epoch, some other => some (max epoch other)
  | some epoch, none => some epoch
  | none, other => other

/-! ## Listings -/

/-- At most `count` instants after the reference, in ascending order. -/
def following (schedule : Schedule) (reference : Int) : Nat → List Int
  | 0 => []
  | count + 1 =>
    match schedule.next? reference with
    | some epoch => epoch :: schedule.following epoch count
    | none => []

/-- At most `count` instants before the reference, in descending order. -/
def preceding (schedule : Schedule) (reference : Int) : Nat → List Int
  | 0 => []
  | count + 1 =>
    match schedule.previous? reference with
    | some epoch => epoch :: schedule.preceding epoch count
    | none => []

end Schedule

/-- A walk through the occurrences of a schedule. It stands at the instant found last, or has
come to its end. -/
structure Occurrences where
  schedule : Schedule
  cursor : Option Int

namespace Occurrences

/-- The walk through the occurrences after the reference. -/
def after (schedule : Schedule) (reference : Int) : Occurrences := ⟨schedule, some reference⟩

/-- The next occurrence and the walk from there; at its end the walk stays there. -/
def step (walk : Occurrences) : Option Int × Occurrences :=
  let found := walk.cursor.bind walk.schedule.next?
  (found, { walk with cursor := found })

/-- The results of the next `count` steps. -/
def results : Nat → Occurrences → List (Option Int)
  | 0, _ => []
  | count + 1, walk => walk.step.1 :: results count walk.step.2

end Occurrences

end CronSchedule
