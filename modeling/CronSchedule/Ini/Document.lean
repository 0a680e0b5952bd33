import CronSchedule.Setting
import CronSchedule.Text.Blank
import CronSchedule.Text.Hexadecimal

/-!
# Reading an INI document

A document is a sequence of assignments, section headers and comments. A key
reaches up to the first equals sign or colon, even beyond the end of its line,
and a value to the end of its line; parts of a value may stand in quotes. All
values are texts. The assignments before the first header are settings, and a
section is a table.
-/

set_option autoImplicit false

namespace CronSchedule.Ini

/-! ## Texts with escapes -/

/-- The character that a letter after a backslash stands for; any other character stands for
itself. -/
def escaped : Char → Char
  | '0' => '\x00'
  | 'a' => '\x07'
  | 'b' => '\x08'
  | 't' => '\t'
  | 'r' => '\r'
  | 'n' => '\n'
  | c => c

/-- The text up to the first character of a kind, with its escapes resolved, and what stands
there. `mayEnd` says whether the text may end with the document. A line end after a backslash is
left out. -/
def textUntil? (isEnd : Char → Bool) (mayEnd : Bool) : List Char → Option (List Char × List Char)
  | [] => if mayEnd then some ([], []) else none
  | '\\' :: 'x' :: a :: b :: c :: d :: rest => do
    let point ← Text.codePoint? [a, b, c, d]
    let (text, rest) ← textUntil? isEnd mayEnd rest
    return (point :: text, rest)
  | '\\' :: c :: rest =>
    if c = 'x' then none
    else do
      let (text, rest) ← textUntil? isEnd mayEnd rest
      return (if c = '\n' then text else escaped c :: text, rest)
  | c :: rest =>
    if isEnd c then some ([], c :: rest)
    else if c = '\\' then none
    else do
      let (text, rest) ← textUntil? isEnd mayEnd rest
      return (c :: text, rest)

/-- A text without the blanks at its end. -/
def withoutFinalBlanks (text : List Char) : List Char :=
  (text.reverse.dropWhile Text.isBlank).reverse

/-- A text without the blanks at both ends. -/
def withoutOuterBlanks (text : List Char) : List Char :=
  withoutFinalBlanks (text.dropWhile Text.isBlank)

/-! ## Values -/

/-- Does the character end a line? -/
def isLineEnd (c : Char) : Bool := c = '\n' || c = '\r'

/-- The rest of a value after its parts in quotes, and what follows it. Each part in quotes takes
one of the `fuel`, so the length of the text is enough. -/
def afterQuotes? (fuel : Nat) (parts : List Char) (text : List Char) :
    Option (List Char × List Char) :=
  match fuel, text with
  | 0, _ => none
  | _, [] => some (parts, [])
  | fuel + 1, c :: rest =>
    if c = '"' || c = '\'' then do
      let (part, rest) ← textUntil? (· == c) false rest
      afterQuotes? fuel (parts ++ part) rest.tail
    else do
      let (part, rest) ← textUntil? isLineEnd true (c :: rest)
      return (parts ++ withoutFinalBlanks part, rest)

/-- The value after an equals sign or a colon, and what follows it. The blanks around it do not
belong to it, unless they stand in quotes or right after them. -/
def value? (text : List Char) : Option (String × List Char) := do
  let text := text.dropWhile fun c => Text.isBlank c && !isLineEnd c
  let (value, rest) ←
    if text.head? = some '"' || text.head? = some '\'' then afterQuotes? (text.length + 1) [] text
    else (textUntil? isLineEnd true text).map fun (value, rest) => (withoutOuterBlanks value, rest)
  return (String.ofList value, rest)

/-! ## The document -/

/-- What stands after blanks and line ends, and whether that is at the start of a line if the
place before the blanks is. -/
def skipBlanks (startsLine : Bool) : List Char → List Char × Bool
  | [] => ([], startsLine)
  | c :: rest => if Text.isBlank c then skipBlanks (c = '\n') rest else (c :: rest, startsLine)

/-- A document that has been read up to some place. -/
structure Progress where
  /-- There has been no section header. -/
  isGeneral : Bool
  /-- The key that waits for its value. -/
  key : List Char
  /-- The settings so far, the latest first. -/
  settings : List (String × Setting)

/-- Reads the header of a section after its opening bracket. -/
def header? (progress : Progress) (text : List Char) : Option (Progress × List Char) := do
  let (name, rest) ← textUntil? (· == ']') false text
  let name := String.ofList (withoutOuterBlanks name)
  return ({ progress with isGeneral := false, settings := (name, .compound) :: progress.settings },
    rest.tail)

/-- Reads the value of the key after an equals sign or a colon. -/
def assignment? (progress : Progress) (text : List Char) : Option (Progress × List Char) :=
  if progress.key.isEmpty then none
  else do
    let (value, rest) ← value? text
    let settings :=
      if progress.isGeneral then (String.ofList progress.key, .text value) :: progress.settings
      else progress.settings
    return ({ progress with key := [], settings }, rest)

/-- Reads a key, which reaches up to an equals sign or a colon. -/
def key? (progress : Progress) (text : List Char) : Option (Progress × List Char) := do
  let (key, rest) ← textUntil? (fun c => c = '=' || c = ':') false text
  return ({ progress with key := withoutOuterBlanks key }, rest)

/-- Reads the parts of a document, of which there are no more than `count`. A comment has to be
at the start of a line. -/
def parts? (count : Nat) (startsLine : Bool) (progress : Progress) (text : List Char) :
    Option Progress :=
  match count, skipBlanks startsLine text with
  | _, ([], _) => some progress
  | 0, _ => none
  | count + 1, (c :: rest, startsLine) =>
    if c = ';' || c = '#' then
      if startsLine then parts? count true progress (rest.dropWhile (· ≠ '\n')).tail else none
    else do
      let (progress, rest) ←
        if c = '[' then header? progress rest
        else if c = '=' || c = ':' then assignment? progress rest
        else key? progress (c :: rest)
      parts? count false progress rest

/-- The settings of a document, the latest first. -/
def read? (text : List Char) : Option (List (String × Setting)) :=
  (parts? (text.length + 1) true ⟨true, [], []⟩ text).map (·.settings)

end CronSchedule.Ini
