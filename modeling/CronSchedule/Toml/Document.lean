import CronSchedule.Toml.Scalar

/-!
# Reading a TOML document

A document is a sequence of lines: assignments of a value to a key, headers of
tables, and blank lines; any of them may end with a comment. Arrays and inline
tables hold values in turn.
-/

set_option autoImplicit false

namespace CronSchedule.Toml

/-! ## Between the values -/

/-- Is the character a blank within a line? -/
def isLineBlank (c : Char) : Bool := c = ' ' || c = '\t'

/-- What stands after the blanks at a place. -/
def skipBlanks (text : List Char) : List Char := text.dropWhile isLineBlank

/-- What stands after blanks, line ends and comments; `inComment` says whether the place lies in
a comment. A comment holds printable characters only. -/
def skipFiller (inComment : Bool) : List Char → Option (List Char)
  | [] => some []
  | '\n' :: rest => skipFiller false rest
  | '\r' :: '\n' :: rest => skipFiller false rest
  | c :: rest =>
    if inComment then (if isPrintable c then skipFiller true rest else none)
    else if isLineBlank c then skipFiller false rest
    else if c = '#' then skipFiller true rest
    else some (c :: rest)

/-- What stands after the end of a line, which may have a comment before it. -/
def lineEnd? (inComment : Bool) : List Char → Option (List Char)
  | [] => some []
  | '\n' :: rest => some rest
  | '\r' :: '\n' :: rest => some rest
  | c :: rest =>
    if inComment then (if isPrintable c then lineEnd? true rest else none)
    else if isLineBlank c then lineEnd? false rest
    else if c = '#' then lineEnd? true rest
    else none

/-- What stands after a mark, which has to be there. -/
def expect? (mark : Char) : List Char → Option (List Char)
  | c :: rest => if c = mark then some rest else none
  | [] => none

/-! ## Keys -/

/-- May the character stand in a key without quotes? -/
def isKeyCharacter (c : Char) : Bool := c.isAlphanum || c = '_' || c = '-'

/-- One part of a key, and what follows it. -/
def keyPart? : List Char → Option (String × List Char)
  | '"' :: rest => (basicString? rest).map fun (part, rest) => (String.ofList part, rest)
  | '\'' :: rest => (literalString? rest).map fun (part, rest) => (String.ofList part, rest)
  | text =>
    let part := text.takeWhile isKeyCharacter
    if part.isEmpty then none else some (String.ofList part, text.dropWhile isKeyCharacter)

/-- Largest number of parts of a key, and of arrays and inline tables inside one another. -/
def maxDepth : Nat := 80

/-- A key with at most so many parts, as the parts before the last one and the last one, and what
follows it and its blanks. -/
def keyOfParts? : Nat → List Char → Option ((List String × String) × List Char)
  | 0, _ => none
  | parts + 1, text => do
    let (part, rest) ← keyPart? text
    match skipBlanks rest with
    | '.' :: rest => do
      let ((parents, last), rest) ← keyOfParts? parts (skipBlanks rest)
      return ((part :: parents, last), rest)
    | rest => return (([], part), rest)

/-- A key, as the parts before the last one and the last one, and what follows it and its
blanks. -/
def key? (text : List Char) : Option ((List String × String) × List Char) :=
  keyOfParts? maxDepth text

/-! ## Values -/

mutual

/-- The value at the start of a text, and what follows it. Arrays and inline tables are at most
`depth` deep. Each bracket and each part of a value takes one of the `fuel`, so the length of
the text is enough. -/
def value? : Nat → Nat → List Char → Option (Node × List Char)
  | 0, _, _ => none
  | fuel + 1, depth, text =>
    match text, depth with
    | '[' :: _, 0 | '\x7b' :: _, 0 => none
    | '[' :: rest, depth + 1 => do
      let (items, rest) ← items? fuel depth (← skipFiller false rest)
      return (.array items, rest)
    | '\x7b' :: rest, depth + 1 => do
      let (entries, rest) ← inlineEntries? fuel depth [] (← skipFiller false rest)
      return (.inlineTable entries, rest)
    | '"' :: _, _ | '\'' :: _, _ =>
      (string? text).map fun (chars, rest) => (.text (String.ofList chars), rest)
    | _, _ =>
      let (word, rest) := scalarWord text
      (scalar? word).map fun node => (node, rest)

/-- The items of an array up to its closing bracket, and what follows it. A comma may stand
after the last item. -/
def items? : Nat → Nat → List Char → Option (List Node × List Char)
  | 0, _, _ => none
  | fuel + 1, depth, text =>
    match text with
    | ']' :: rest => some ([], rest)
    | _ => do
      let (item, rest) ← value? fuel depth text
      match ← skipFiller false rest with
      | ',' :: rest => do
        let (items, rest) ← items? fuel depth (← skipFiller false rest)
        return (item :: items, rest)
      | ']' :: rest => return ([item], rest)
      | _ => none

/-- The assignments of an inline table up to its closing brace, added to the given entries, and
what follows it. A comma may stand after the last assignment, and line ends and comments
between all parts but those of a key. -/
def inlineEntries? : Nat → Nat → Entries → List Char → Option (Entries × List Char)
  | 0, _, _, _ => none
  | fuel + 1, depth, entries, text =>
    match text with
    | '\x7d' :: rest => some (entries, rest)
    | _ => do
      let ((parents, key), rest) ← key? text
      let rest ← expect? '=' (← skipFiller false rest)
      let (node, rest) ← value? fuel depth (← skipFiller false rest)
      let entries ← entries.assign node parents key
      match ← skipFiller false rest with
      | ',' :: rest => inlineEntries? fuel depth entries (← skipFiller false rest)
      | '\x7d' :: rest => return (entries, rest)
      | _ => none

end

/-! ## Lines -/

/-- A document that has been read up to some line: its table, and the header to which the next
assignments belong. -/
structure Progress where
  entries : Entries
  header : List String

/-- Reads a header in single brackets, after the first of them. -/
def header? (progress : Progress) (text : List Char) : Option (Progress × List Char) := do
  let ((parents, key), rest) ← key? (skipBlanks text)
  let rest ← lineEnd? false (← expect? ']' rest)
  let entries ← progress.entries.within parents (Entries.openTable key)
  return (⟨entries, parents ++ [key]⟩, rest)

/-- Reads a header in double brackets, after the first two of them. -/
def doubleHeader? (progress : Progress) (text : List Char) : Option (Progress × List Char) := do
  let ((parents, key), rest) ← key? (skipBlanks text)
  let rest ← lineEnd? false (← expect? ']' (← expect? ']' rest))
  let entries ← progress.entries.within parents (Entries.addTable key)
  return (⟨entries, parents ++ [key]⟩, rest)

/-- Reads an assignment. -/
def assignment? (progress : Progress) (text : List Char) : Option (Progress × List Char) := do
  let ((parents, key), rest) ← key? text
  let rest := skipBlanks (← expect? '=' rest)
  let (node, rest) ← value? (rest.length + 1) maxDepth rest
  let rest ← lineEnd? false rest
  let entries ← progress.entries.within progress.header fun table => table.assign node parents key
  return (⟨entries, progress.header⟩, rest)

/-- Reads the lines of a document, of which there are no more than `count`. -/
def lines? : Nat → Progress → List Char → Option Entries
  | 0, _, _ => none
  | count + 1, progress, text => do
    match ← skipFiller false text with
    | [] => return progress.entries
    | '[' :: '[' :: rest => do
      let (progress, rest) ← doubleHeader? progress rest
      lines? count progress rest
    | '[' :: rest => do
      let (progress, rest) ← header? progress rest
      lines? count progress rest
    | rest => do
      let (progress, rest) ← assignment? progress rest
      lines? count progress rest

/-- The table of a document. A byte order mark may stand at its start. -/
def read? (text : List Char) : Option Entries :=
  let text := if text.head? = some '\uFEFF' then text.tail else text
  lines? (text.length + 1) ⟨[], []⟩ text

end CronSchedule.Toml
