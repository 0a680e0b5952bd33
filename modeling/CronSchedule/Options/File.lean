import CronSchedule.Error
import CronSchedule.Options.FileFormat
import CronSchedule.Text.Separated

/-!
# The options file

Where the options file is looked for. A file at the very path asked for comes
first; if there is none, the endings of the known formats are added to the path.
-/

set_option autoImplicit false

namespace CronSchedule

/-- A file with options. -/
structure OptionsFile where
  format : FileFormat
  text : String

namespace OptionsFile

/-- The options file that is read where none is named. -/
def defaultPath : String := "cronkit.toml"

/-- The ending of the name of a file. What follows a point at the start of the name is no
ending. -/
def ending? (path : String) : Option String :=
  let name := (path.toList.reverse.takeWhile (· ≠ '/')).reverse
  match Text.splitFirst? '.' name.reverse with
  | some (ending, _ :: _) => some (String.ofList ending.reverse)
  | _ => none

/-- The path of a file to whose name an ending can be added: that of the last directory or file on
the way that has a name of its own. -/
def stem? (path : String) : Option (List Char) :=
  let parts := ((Text.splitAt '/' path.toList).reverse.dropWhile fun part =>
    part.isEmpty || part = ['.']).reverse
  match parts.getLast? with
  | none | some ['.', '.'] => none
  | some _ => some (Text.joinWith '/' parts)

/-- The paths that result from adding an ending of one of the formats to a path, in the order in
which they are tried. -/
def extendedPaths (formats : List FileFormat) (path : String) : List (String × FileFormat) :=
  match stem? path with
  | none => []
  | some stem =>
    formats.flatMap fun format =>
      format.endings.map fun ending => (String.ofList stem ++ "." ++ ending, format)

/-- The first file at one of the paths. -/
def first? (files : String → Option String) (paths : List (String × FileFormat)) :
    Option OptionsFile :=
  paths.findSome? fun (path, format) => (files path).map fun text => ⟨format, text⟩

/-- The options file, if there is one. A path that was asked for has to lead to a file, and a file
at that very path has to have the ending of a format; the default file is in TOML. -/
def find (files : String → Option String) (path : Option String) :
    Except ConfigError (Option OptionsFile) :=
  match path with
  | none =>
    .ok (first? files ((defaultPath, .toml) :: extendedPaths [.toml] defaultPath))
  | some path =>
    match files path with
    | some text =>
      match (ending? path).bind FileFormat.ofEnding? with
      | some format => .ok (some ⟨format, text⟩)
      | none => .error (.unknownFormat path)
    | none =>
      match first? files (extendedPaths FileFormat.all path) with
      | some file => .ok (some file)
      | none => .error (.missingFile path)

/-- The paths at which files are looked for. -/
def paths : Option String → List String
  | none => defaultPath :: (extendedPaths [.toml] defaultPath).map (·.1)
  | some path => path :: (extendedPaths FileFormat.all path).map (·.1)

/-- The text of a file without the byte order mark that may stand at its start. -/
def content (file : OptionsFile) : List Char :=
  match file.text.toList with
  | '\uFEFF' :: rest => rest
  | text => text

end OptionsFile

end CronSchedule
