import CronSchedule.FieldTexts
import CronSchedule.Horizon
import CronSchedule.Options.Basic
import CronSchedule.Pattern.Canonical
import CronSchedule.Pattern.Reading
import CronSchedule.Zone.Registry

/-!
# Schedules

A schedule is an expression compiled into one pattern for each field, together
with the zone in which wall clocks are read and the horizon of a search. The
patterns never change; zone and horizon can be replaced.
-/

set_option autoImplicit false

namespace CronSchedule

/-- A compiled schedule. -/
structure Schedule where
  /-- The expression as it was given. -/
  expression : String
  patterns : PerField Pattern
  zone : Zone
  horizon : Horizon

namespace Schedule

/-! ## Settings -/

/-- Largest offset from UTC in minutes, in either direction. -/
def maxUtcOffset : Int := 1080

/-- The zone of the given name, if the registry has it. -/
def namedZone (name : String) : Except ScheduleError Zone :=
  match ZoneTable.find? name with
  | some table => .ok (.named table)
  | none => .error (.invalidTimeZone name)

/-- The zone at a fixed offset, which is at most eighteen hours. -/
def fixedZone (minutes : Int) : Except ScheduleError Zone :=
  if -maxUtcOffset ≤ minutes ∧ minutes ≤ maxUtcOffset then .ok (.fixed minutes)
  else .error (.invalidOffset minutes)

/-- The instant at which a search backward ends, which is no earlier than the epoch. -/
def checkedBegin (epoch : Int) : Except ScheduleError Int :=
  if epoch < 0 then .error (.negativeBegin epoch) else .ok epoch

/-- The zone that the options ask for; UTC if they ask for none. -/
def zoneOf (options : ScheduleOptions) : Except ScheduleError Zone :=
  match options.timeZone, options.utcOffset with
  | some _, some _ => .error .conflictingZone
  | some name, none => namedZone name
  | none, some minutes => fixedZone minutes
  | none, none => .ok (.fixed 0)

/-! ## Compilation -/

/-- The canonical pattern that a token denotes as a constraint on a field. -/
def compileToken (field : Field) (token : List Char) : Except ScheduleError Pattern :=
  (Pattern.read field token).map (Pattern.canonical field)

/-- The patterns of the fields of an expression. -/
def compilePatterns (expression : String) : Except ScheduleError (PerField Pattern) := do
  let texts ← FieldTexts.ofExpression expression.toList
  texts.traverse compileToken

/-- The schedule of an expression under the given options; `fallback` is the horizon where the
options leave it open. The options are checked before the expression. -/
def compile (fallback : Horizon) (expression : String) (options : ScheduleOptions) :
    Except ScheduleError Schedule := do
  let zone ← zoneOf options
  let beginEpoch ← checkedBegin (options.beginEpoch.getD fallback.beginEpoch)
  let patterns ← compilePatterns expression
  return { expression, patterns, zone,
           horizon := ⟨beginEpoch, options.endEpoch.or fallback.endEpoch⟩ }

/-- The pattern of a field. -/
def pattern (schedule : Schedule) (field : Field) : Pattern := schedule.patterns.get field

/-! ## Replacing settings -/

/-- Reads wall clocks in a named zone. -/
def setTimeZone (schedule : Schedule) (name : String) : Except ScheduleError Schedule :=
  (namedZone name).map fun zone => { schedule with zone }

/-- Reads wall clocks at a fixed offset from UTC. -/
def setUtcOffset (schedule : Schedule) (minutes : Int) : Except ScheduleError Schedule :=
  (fixedZone minutes).map fun zone => { schedule with zone }

/-- Ends searches backward at an instant. -/
def setBeginEpoch (schedule : Schedule) (epoch : Int) : Except ScheduleError Schedule :=
  (checkedBegin epoch).map fun beginEpoch =>
    { schedule with horizon := { schedule.horizon with beginEpoch } }

/-- Ends searches forward at an instant, or only with the last year. -/
def setEndEpoch (schedule : Schedule) (endEpoch : Option Int) : Schedule :=
  { schedule with horizon := { schedule.horizon with endEpoch } }

/-! ## Matching -/

/-- Do all fields accept the wall-clock time? -/
def matchesLocal (schedule : Schedule) (time : LocalTime) : Bool :=
  Field.year.contains (time.component .year) &&
    Field.all.all fun field => (schedule.pattern field).accepts (time.component field) time

/-- Does the schedule accept the instant? -/
def matchesEpoch (schedule : Schedule) (epoch : Int) : Bool :=
  (schedule.zone.toLocal? epoch).any schedule.matchesLocal

end Schedule

end CronSchedule
