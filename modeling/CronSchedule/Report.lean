import CronSchedule.Schedule.Description
import CronSchedule.Schedule.Search
import CronSchedule.Text.Quoted

/-!
# Reports on a schedule

A report shows a schedule in words and in both canonical forms, together with
occurrences of it. It is written as plain text or as a JSON object.
-/

set_option autoImplicit false

namespace CronSchedule

/-- What is shown about a schedule. -/
structure Report where
  expression : String
  description : String
  canonical : String
  sundayFirst : String
  timeZone : String
  /-- The lines of the tree of patterns, if it is asked for. -/
  tree : Option (List String)
  /-- Instants at which the schedule occurs, in the order in which they are listed. -/
  occurrences : List Int

namespace Report

/-- The report on a schedule with the given occurrences. -/
def ofSchedule (schedule : Schedule) (withTree : Bool) (occurrences : List Int) : Report where
  expression := schedule.expression
  description := schedule.describe
  canonical := schedule.canonicalText
  sundayFirst := schedule.sundayFirstText
  timeZone := schedule.zone.name
  tree := if withTree then some schedule.treeLines else none
  occurrences := occurrences

/-- An instant as a time of UTC such as 2024-02-29T12:00:00+00:00. -/
def utcText (epoch : Int) : String :=
  match LocalTime.ofSeconds? epoch with
  | some time => time.text ++ "+00:00"
  | none => ""

/-! ## Plain text -/

/-- The lines of a report in plain text. -/
def lines (report : Report) : List String :=
  [report.description,
   "canonical: " ++ report.canonical,
   "quartz:    " ++ report.sundayFirst,
   "zone:      " ++ report.timeZone] ++
  report.tree.getD [] ++
  (if report.occurrences.isEmpty then ["no occurrences within the search horizon"] else []) ++
  report.occurrences.map fun epoch => toString epoch ++ "  " ++ utcText epoch

/-! ## JSON -/

/-- A line for a member of an object; all but the last member end with a comma. -/
def memberLine (indent key value : String) : String :=
  indent ++ Text.quoted key ++ ": " ++ value

/-- The lines of the object for an occurrence. -/
def occurrenceLines (epoch : Int) : List String :=
  ["    \x7b",
   memberLine "      " "epoch" (toString epoch) ++ ",",
   memberLine "      " "utc" (Text.quoted (utcText epoch)),
   "    \x7d"]

/-- The lines of an array of objects, each given by its lines, with commas between them. -/
def objectLines : List (List String) → List String
  | [] => []
  | [object] => object
  | object :: others => object.dropLast ++ [object.getLastD "" ++ ","] ++ objectLines others

/-- The lines of the last member, the array of the occurrences. -/
def occurrencesLines (occurrences : List Int) : List String :=
  if occurrences.isEmpty then [memberLine "  " "occurrences" "[]"]
  else
    memberLine "  " "occurrences" "[" :: objectLines (occurrences.map occurrenceLines) ++ ["  ]"]

/-- The lines of a report as a JSON object. -/
def jsonLines (report : Report) : List String :=
  ["\x7b",
   memberLine "  " "expression" (Text.quoted report.expression) ++ ",",
   memberLine "  " "description" (Text.quoted report.description) ++ ",",
   memberLine "  " "canonical" (Text.quoted report.canonical) ++ ",",
   memberLine "  " "quartz" (Text.quoted report.sundayFirst) ++ ",",
   memberLine "  " "time_zone" (Text.quoted report.timeZone) ++ ","] ++
  (match report.tree with
    | some lines => [memberLine "  " "tree" (Text.quoted (String.intercalate "\n" lines)) ++ ","]
    | none => []) ++
  occurrencesLines report.occurrences ++ ["\x7d"]

end Report

end CronSchedule
