import CronSchedule.CommandLine.Arguments
import CronSchedule.Options.Layers
import CronSchedule.Report

/-!
# Outcome of a command

A command reads its arguments, puts its options together, compiles the
expression and reports on it. What it does is a function of its arguments, of
the files and the environment it finds, and of the present instant.
-/

set_option autoImplicit false

namespace CronSchedule.CommandLine

/-- What a command comes to. -/
inductive Outcome where
  /-- Text to print. -/
  | printed (text : String)
  /-- The schedule or one of its settings is rejected. -/
  | rejected (error : ScheduleError)
  /-- The options cannot be read. -/
  | misconfigured (error : ConfigError)
  /-- The arguments are misused. -/
  | misused (misuse : Misuse)

namespace Outcome

/-- Exit status of the command. -/
def exitStatus : Outcome → Nat
  | printed _ => 0
  | misconfigured _ => 1
  | rejected _ | misused _ => 2

/-- Text on standard output. -/
def output : Outcome → String
  | printed text => text
  | _ => ""

/-- Text on standard error. -/
def errorOutput : Outcome → String
  | printed _ => ""
  | rejected error => "error: " ++ error.message ++ "\n"
  | misconfigured error => "error: Config error: " ++ error.message ++ "\n"
  | misused misuse =>
    "error: " ++ misuse.message ++ "\n\nUsage: cronkit [OPTIONS] <EXPRESSION>\n\n" ++
      "For more information, try '--help'.\n"

end Outcome

/-- Lines as a text, each with a line end. -/
def textOfLines (lines : List String) : String := String.join (lines.map (· ++ "\n"))

/-- Text that tells the version. -/
def versionText : String := "cronkit 0.1.0\n"

/-- Text that explains the arguments. -/
def helpText : String :=
  textOfLines
    ["Extended cron expressions: parsing, next/previous occurrence search and English descriptions",
     "",
     "Usage: cronkit [OPTIONS] <EXPRESSION>",
     "",
     "Arguments:",
     "  <EXPRESSION>  Cron expression (5 to 7 fields) or a preset such as @daily",
     "",
     "Options:",
     "      --from <FROM>              Reference instant in epoch seconds (default: now)",
     "      --count <COUNT>            Number of occurrences to list [default: 5]",
     "      --previous                 List occurrences before the reference instant instead of after it",
     "      --time-zone <TIME_ZONE>    IANA time zone, e.g. Europe/Stockholm",
     "      --utc-offset <UTC_OFFSET>  Fixed offset from UTC in minutes",
     "      --config <CONFIG>          Options file (default: cronkit.toml when present)",
     "      --json                     Print a JSON report instead of text",
     "      --tree                     Include the compiled pattern tree",
     "  -h, --help                     Print help",
     "  -V, --version                  Print version"]

/-- What a command finds when it runs. -/
structure Surroundings where
  /-- Text of the file at a path, if there is one. -/
  files : String → Option String
  /-- Names and values of the environment. -/
  environment : List (String × String)
  /-- The present instant. -/
  present : Int
  /-- The horizon of a search where no option sets it. -/
  horizon : Horizon

namespace Request

/-- The options that the arguments set. -/
def flags (request : Request) : ScheduleOptions where
  timeZone := request.timeZone
  utcOffset := request.utcOffset
  beginEpoch := none
  endEpoch := none

/-- The options of a request: those of the arguments first, then those of the environment and of
the options file. -/
def options (request : Request) (surroundings : Surroundings) :
    Except ConfigError ScheduleOptions := do
  return request.flags.orElse
    (← ScheduleOptions.load surroundings.files request.config surroundings.environment)

/-- The occurrences that a request lists. -/
def occurrences (request : Request) (present : Int) (schedule : Schedule) : List Int :=
  let reference := request.reference.getD present
  if request.previous then schedule.preceding reference request.count
  else schedule.following reference request.count

/-- The report that a request asks for. -/
def report (request : Request) (present : Int) (schedule : Schedule) : Report :=
  .ofSchedule schedule request.tree (request.occurrences present schedule)

/-- The outcome of a request. -/
def outcome (request : Request) (surroundings : Surroundings) : Outcome :=
  match request.options surroundings with
  | .error error => .misconfigured error
  | .ok options =>
    match Schedule.compile surroundings.horizon request.expression options with
    | .error error => .rejected error
    | .ok schedule =>
      let report := request.report surroundings.present schedule
      .printed (textOfLines (if request.json then report.jsonLines else report.lines))

end Request

/-- The paths at which a command with the given arguments looks for files. -/
def pathsRead (arguments : List String) : List String :=
  match Request.ofArguments arguments with
  | .ok request => OptionsFile.paths request.config
  | .error _ => []

/-- The outcome of a command with the given arguments. -/
def run (surroundings : Surroundings) (arguments : List String) : Outcome :=
  match Request.ofArguments arguments with
  | .ok request => request.outcome surroundings
  | .error .version => .printed versionText
  | .error .help => .printed helpText
  | .error (.misused misuse) => .misused misuse

end CronSchedule.CommandLine
