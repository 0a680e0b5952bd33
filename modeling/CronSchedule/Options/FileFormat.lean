import CronSchedule.Ini.Document
import CronSchedule.Json.Document
import CronSchedule.Json5.Document
import CronSchedule.Ron.Document
import CronSchedule.Toml.Document
import CronSchedule.Yaml.Document

/-!
# Formats of options files

An options file is written in one of several formats, which the ending of its
name tells. Whatever the format, a file is a table of settings.
-/

set_option autoImplicit false

namespace CronSchedule

/-- The setting that a node of a TOML document is. -/
def Setting.ofToml : Toml.Node → Setting
  | .text content => text content
  | .integer value => integer value
  | .float value => float value
  | .boolean value => boolean value
  | .array _ | .inlineTable _ | .table _ _ | .tables _ => compound

/-- The formats of options files. -/
inductive FileFormat where
  | toml
  | json
  | yaml
  | ini
  | ron
  | json5
  deriving DecidableEq

namespace FileFormat

/-- The formats in the order in which files are looked for. -/
def all : List FileFormat := [toml, json, yaml, ini, ron, json5]

/-- The endings of the names of files in a format. -/
def endings : FileFormat → List String
  | toml => ["toml"]
  | json => ["json"]
  | yaml => ["yaml", "yml"]
  | ini => ["ini"]
  | ron => ["ron"]
  | json5 => ["json5"]

/-- The format with the given ending. -/
def ofEnding? (ending : String) : Option FileFormat :=
  all.find? fun format => format.endings.contains ending

/-- The settings of a file; of several under one key the first counts. Where a format lets a key
stand twice, that is the latest in the file. -/
def settings? (format : FileFormat) (text : List Char) : Option (List (String × Setting)) :=
  match format with
  | toml => (Toml.read? text).map fun entries =>
    entries.map fun (key, node) => (key, Setting.ofToml node)
  | json => (Json.read? text).map List.reverse
  | yaml => (Yaml.read? text).map List.reverse
  | ini => Ini.read? text
  | ron => (Ron.read? text).map List.reverse
  | json5 => (Json5.read? text).map List.reverse

end FileFormat

end CronSchedule
