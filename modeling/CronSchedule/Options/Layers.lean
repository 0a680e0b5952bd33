import CronSchedule.Options.Basic
import CronSchedule.Options.File
import CronSchedule.Options.KeyPath

/-!
# Options from files and from the environment

Options are layered: a variable of the environment overrides the entry of the
same key in the options file. A setting is converted only after the layers have
been put together, so one that is overridden may be unsuitable.
-/

set_option autoImplicit false

namespace CronSchedule

/-- Settings under their keys; of several under one key the first counts. -/
abbrev Settings : Type := List (String × Setting)

namespace Settings

/-- What the names of the environment variables with settings start with. -/
def variableStart : List Char := "cronkit_".toList

/-- A setting under the name to which its key leads. -/
def entry (key : String) (setting : Setting) : String × Setting :=
  match KeyPath.container? key.toList with
  | some name => (String.ofList name, .compound)
  | none => (key, setting)

/-- The settings in a text of the given format. -/
def ofText (format : FileFormat) (text : List Char) : Except ConfigError Settings :=
  match format.settings? text with
  | some settings => .ok (settings.map fun (key, setting) => entry key setting)
  | none => .error .malformed

/-- The settings of an options file. -/
def ofFile (file : OptionsFile) : Except ConfigError Settings := ofText file.format file.content

/-- The key of the setting that a variable of the environment gives; letter case makes no
difference. -/
def variableKey? (name : String) : Option String :=
  let small := smallLetters name
  if variableStart.isPrefixOf small then some (String.ofList (small.drop variableStart.length))
  else none

/-- The settings of the environment; of several variables for one key the last counts. -/
def ofEnvironment (environment : List (String × String)) : Settings :=
  environment.reverse.filterMap fun (name, value) =>
    (variableKey? name).map fun key => entry key (Setting.ofEnvironment value)

/-- The keys that set an option. -/
def keys : List String := ["time_zone", "utc_offset", "begin_epoch", "end_epoch"]

/-- The usual names of the environment variables that set an option, in small letters and in
capitals. -/
def variableNames : List String :=
  keys.flatMap fun key =>
    let name := String.ofList variableStart ++ key
    [name, name.map Char.toUpper]

/-- The settings of one layer over those of another. -/
def layeredOn (upper lower : Settings) : Settings := upper ++ lower

/-- The option that a key sets, if it is set and not set to nothing. -/
def option? {α : Type} (settings : Settings) (convert : Setting → Option α) (key : String) :
    Except ConfigError (Option α) :=
  match settings.lookup key with
  | none | some .null => .ok none
  | some setting =>
    match convert setting with
    | some value => .ok (some value)
    | none => .error (.unsuitable key)

/-- The options that settings give. Other keys have no effect. -/
def options (settings : Settings) : Except ConfigError ScheduleOptions := do
  let timeZone ← settings.option? Setting.toText? "time_zone"
  let utcOffset ← settings.option? (Setting.toInteger? 32) "utc_offset"
  let beginEpoch ← settings.option? (Setting.toInteger? 64) "begin_epoch"
  let endEpoch ← settings.option? (Setting.toInteger? 64) "end_epoch"
  return { timeZone, utcOffset, beginEpoch, endEpoch }

end Settings

namespace ScheduleOptions

/-- The options in the text of a TOML document. -/
def ofToml (text : String) : Except ConfigError ScheduleOptions := do
  (← Settings.ofText .toml text.toList).options

/-- The options of an options file with those of the environment over them. -/
def load (files : String → Option String) (path : Option String)
    (environment : List (String × String)) : Except ConfigError ScheduleOptions := do
  let stored ← match ← OptionsFile.find files path with
    | some file => Settings.ofFile file
    | none => pure []
  ((Settings.ofEnvironment environment).layeredOn stored).options

end ScheduleOptions

end CronSchedule
