import CronSchedule.CommandLine.Outcome
import Std.Time.DateTime.Timestamp

/-!
# The command

Gathers what the command can see of its surroundings, and prints its outcome.
-/

set_option autoImplicit false

open CronSchedule

/-- The texts of those files at the given paths that can be read. -/
def readTexts (paths : List String) : IO (List (String × String)) :=
  paths.filterMapM fun (path : String) => do
    try
      let text ← IO.FS.readFile path
      return some ((path : String), text)
    catch _ => return none

/-- The environment variables of the given names that are set. -/
def readVariables (names : List String) : IO (List (String × String)) :=
  names.filterMapM fun name => do
    return (← IO.getEnv name).map fun value => (name, value)

/-- Runs the command. -/
def main (arguments : List String) : IO UInt32 := do
  let now ← Std.Time.Timestamp.now
  let present := now.toSecondsSinceUnixEpoch.val
  let texts ← readTexts (CommandLine.pathsRead arguments)
  let environment ← readVariables Settings.variableNames
  let surroundings : CommandLine.Surroundings :=
    { files := fun path => texts.lookup path, environment, present, horizon := .around present }
  let outcome := CommandLine.run surroundings arguments
  IO.print outcome.output
  IO.eprint outcome.errorOutput
  return outcome.exitStatus.toUInt32
