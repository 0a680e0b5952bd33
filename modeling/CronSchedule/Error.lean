import CronSchedule.Field

/-!
# What can be wrong with a schedule

Every rejection of a schedule or of its options is a value of `ScheduleError`,
and every failure to take options from their sources one of `ConfigError`. The
wording of each cause is in its `message` and nowhere else.
-/

set_option autoImplicit false

namespace CronSchedule

/-- The causes for which a schedule, or a setting of a schedule, is rejected. -/
inductive ScheduleError where
  /-- The text has `found` fields, which is not 5, 6 or 7. -/
  | fieldCount (found : Nat)
  /-- The digits `value` denote no number between `min` and `max`. -/
  | outOfRange (field : Field) (value : String) (min max : Nat)
  /-- The token has no form that the field admits. -/
  | invalidToken (field : Field) (token : String)
  /-- The text after a slash is no positive number of 32 bits. -/
  | invalidStep (field : Field) (step : String)
  /-- The part before a slash is neither a wildcard, nor a number, nor an ascending range. -/
  | unsupportedStep (field : Field) (token : String)
  /-- Neither day field constrains the day. -/
  | bothUnspecified
  /-- There is no time zone of this name. -/
  | invalidTimeZone (name : String)
  /-- The offset from UTC is beyond eighteen hours either way. -/
  | invalidOffset (minutes : Int)
  /-- The search may not begin before the epoch. -/
  | negativeBegin (epoch : Int)
  /-- Both a named zone and a fixed offset are set. -/
  | conflictingZone
  deriving DecidableEq, Repr

/-- The sentence shown for an error. -/
def ScheduleError.message : ScheduleError → String
  | .fieldCount found => s!"Expected 5 to 7 fields, found {found}"
  | .outOfRange field value min max => s!"{field.name} value {value} out of range [{min}-{max}]"
  | .invalidToken field token => s!"Invalid {field.name}: {token}"
  | .invalidStep field step => s!"Invalid step in {field.name}: {step}"
  | .unsupportedStep field token => s!"Unsupported step base in {field.name}: {token}"
  | .bothUnspecified => "Day of week and day of month cannot both be unspecified"
  | .invalidTimeZone name => s!"Invalid time zone: {name}"
  | .invalidOffset minutes =>
      s!"UTC offset must be integer minutes between -1080 and +1080, got {minutes}"
  | .negativeBegin epoch => s!"Invalid horizon: begin_epoch must be >= 0, got {epoch}"
  | .conflictingZone => "A time zone and a UTC offset cannot both be given"

/-- The reasons for which options cannot be taken from their sources. -/
inductive ConfigError where
  /-- There is no options file at the path asked for. -/
  | missingFile (path : String)
  /-- The name of the options file has no ending of a known format. -/
  | unknownFormat (path : String)
  /-- The options file is not written in its format. -/
  | malformed
  /-- The setting under a key is of an unsuitable type or size. -/
  | unsuitable (key : String)
  deriving DecidableEq, Repr

/-- The sentence shown for an error. -/
def ConfigError.message : ConfigError → String
  | .missingFile path => s!"configuration file \"{path}\" not found"
  | .unknownFormat path => s!"configuration file \"{path}\" is not of a registered file format"
  | .malformed => "the configuration file is not well formed"
  | .unsuitable key => s!"the value of {key} has an unsuitable type or size"

end CronSchedule
