import CronSchedule.Ron.Scalar

/-!
# Reading a RON document

A document is one value, which may follow names of extensions. Structures with
named fields and maps are tables; tuples and lists are lists; an option stands
for what is in it.
-/

set_option autoImplicit false

namespace CronSchedule.Ron

/-! ## Between the values -/

/-- Is the character a blank or the end of a line? -/
def isBlank (c : Char) : Bool :=
  c = ' ' || 0x09 ≤ c.toNat && c.toNat ≤ 0x0D || c = '\x85' || c = '\u200E' || c = '\u200F' ||
    c = '\u2028' || c = '\u2029'

/-- Where a place between two values lies. -/
inductive Place where
  | outside
  | lineComment
  /-- In a comment in which so many others are open. -/
  | blockComment (depth : Nat)

/-- What stands after blanks and comments. Comments between slashes and stars may hold others. -/
def skipFiller (place : Place) : List Char → Option (List Char)
  | [] =>
    match place with
    | .blockComment _ => none
    | _ => some []
  | '/' :: '/' :: rest =>
    match place with
    | .outside => skipFiller .lineComment rest
    | place => skipFiller place ('/' :: rest)
  | '/' :: '*' :: rest =>
    match place with
    | .outside => skipFiller (.blockComment 0) rest
    | .lineComment => skipFiller .lineComment ('*' :: rest)
    | .blockComment depth => skipFiller (.blockComment (depth + 1)) rest
  | '*' :: '/' :: rest =>
    match place with
    | .outside => some ('*' :: '/' :: rest)
    | .lineComment => skipFiller .lineComment ('/' :: rest)
    | .blockComment 0 => skipFiller .outside rest
    | .blockComment (depth + 1) => skipFiller (.blockComment depth) rest
  | c :: rest =>
    match place with
    | .outside => if isBlank c then skipFiller .outside rest else some (c :: rest)
    | .lineComment => skipFiller (if c = '\n' then .outside else .lineComment) rest
    | .blockComment depth => skipFiller (.blockComment depth) rest

/-- What stands at the next value or mark. -/
def next? (text : List Char) : Option (List Char) := skipFiller .outside text

/-- What stands after a mark, which has to be there. -/
def expect? (mark : Char) : List Char → Option (List Char)
  | c :: rest => if c = mark then some rest else none
  | [] => none

/-! ## Values -/

/-- A value of a document. -/
inductive Value where
  | scalar (setting : Setting)
  | list
  /-- The entries of a table, in the order in which they stand. -/
  | table (entries : List (String × Setting))

/-- The setting that a value is. -/
def Value.setting : Value → Setting
  | scalar setting => setting
  | list | table _ => .compound

/-- The key of a table that a value is. -/
def Value.key? : Value → Option String
  | scalar (.text text) => some text
  | _ => none

/-- Does a structure with named fields follow an opening parenthesis? -/
def hasNamedFields (text : List Char) : Option Bool := do
  match identifier? (← next? text) with
  | some (_, rest) => return (← next? rest).head? = some ':'
  | none => return false

mutual

/-- The value at the start of a text, and what follows it. Values are at most `depth` deep. Each
bracket and each part of a value takes one of the `fuel`, so twice the length of the text is
enough. -/
def value? : Nat → Nat → List Char → Option (Value × List Char)
  | 0, _, _ => none
  | fuel + 1, depth, text =>
    match text with
    | '(' :: ')' :: rest => some (.scalar .null, rest)
    | '-' :: 'i' :: 'n' :: 'f' :: rest => some (.scalar (.float (.infinite true)), rest)
    | '"' :: rest => (string? (text.length + 1) rest).map fun (content, rest) =>
      (.scalar (.text (String.ofList content)), rest)
    | 'r' :: '"' :: _ | 'r' :: '#' :: '"' :: _ | 'r' :: '#' :: '#' :: _ =>
      (markedString? text.tail).map fun (content, rest) =>
        (.scalar (.text (String.ofList content)), rest)
    | 'b' :: '"' :: rest => (string? (text.length + 1) rest).map fun (_, rest) => (.list, rest)
    | '\'' :: rest => (character? rest).map fun (c, rest) =>
      (.scalar (.text (String.singleton c)), rest)
    | '(' :: rest => structure? fuel depth rest
    | '[' :: rest =>
      match depth with
      | 0 => none
      | depth + 1 => (items? fuel depth ']' rest).map fun rest => (.list, rest)
    | '\x7b' :: rest =>
      match depth with
      | 0 => none
      | depth + 1 => (entries? fuel depth rest).map fun (entries, rest) => (.table entries, rest)
    | _ =>
      match identifier? text with
      | none => (number? text).map fun (setting, rest) => (.scalar setting, rest)
      | some (name, rest) =>
        if name = "true".toList then some (.scalar (.boolean true), rest)
        else if name = "false".toList then some (.scalar (.boolean false), rest)
        else if name = "None".toList then some (.scalar .null, rest)
        else if name = "inf".toList then some (.scalar (.float (.infinite false)), rest)
        else if name = "NaN".toList then some (.scalar (.float .nan), rest)
        else do
          match ← next? rest with
          | '(' :: inner =>
            if name = "Some".toList then option? fuel depth inner else structure? fuel depth inner
          | _ => if name = "Some".toList then none else return (.scalar .null, rest)

/-- The value in an option after its opening parenthesis, and what follows the closing one. -/
def option? : Nat → Nat → List Char → Option (Value × List Char)
  | 0, _, _ | _, 0, _ => none
  | fuel + 1, depth + 1, text => do
    let (value, rest) ← value? fuel depth (← next? text)
    match ← next? rest with
    | ',' :: rest => return (value, ← expect? ')' (← next? rest))
    | rest => return (value, ← expect? ')' rest)

/-- The structure or tuple after its opening parenthesis, and what follows it. -/
def structure? : Nat → Nat → List Char → Option (Value × List Char)
  | 0, _, _ | _, 0, _ => none
  | fuel + 1, depth + 1, text => do
    if ← hasNamedFields text then
      let (entries, rest) ← fields? fuel depth text
      return (.table entries, rest)
    else return (.list, ← items? fuel depth ')' text)

/-- What follows the items up to a closing bracket. -/
def items? : Nat → Nat → Char → List Char → Option (List Char)
  | 0, _, _, _ => none
  | fuel + 1, depth, closing, text => do
    match ← next? text with
    | [] => none
    | c :: rest =>
      if c = closing then return rest
      else
        let (_, rest) ← value? fuel depth (c :: rest)
        match ← next? rest with
        | ',' :: rest => items? fuel depth closing rest
        | rest => expect? closing rest

/-- The named fields of a structure up to its closing parenthesis, and what follows it. -/
def fields? : Nat → Nat → List Char → Option (List (String × Setting) × List Char)
  | 0, _, _ => none
  | fuel + 1, depth, text => do
    match ← next? text with
    | ')' :: rest => return ([], rest)
    | text => do
      let (name, rest) ← identifier? text
      let rest ← expect? ':' (← next? rest)
      let (value, rest) ← value? fuel depth (← next? rest)
      match ← next? rest with
      | ',' :: rest => do
        let (fields, rest) ← fields? fuel depth rest
        return ((String.ofList name, value.setting) :: fields, rest)
      | rest => return ([(String.ofList name, value.setting)], ← expect? ')' rest)

/-- The entries of a map up to its closing brace, and what follows it. Keys are texts. -/
def entries? : Nat → Nat → List Char → Option (List (String × Setting) × List Char)
  | 0, _, _ => none
  | fuel + 1, depth, text => do
    match ← next? text with
    | '\x7d' :: rest => return ([], rest)
    | text => do
      let (key, rest) ← value? fuel depth text
      let key ← key.key?
      let rest ← expect? ':' (← next? rest)
      let (value, rest) ← value? fuel depth (← next? rest)
      match ← next? rest with
      | ',' :: rest => do
        let (entries, rest) ← entries? fuel depth rest
        return ((key, value.setting) :: entries, rest)
      | rest => return ([(key, value.setting)], ← expect? '\x7d' rest)

end

/-! ## The document -/

/-- The extensions of the notation. -/
def extensions : List String :=
  ["unwrap_newtypes", "implicit_some", "unwrap_variant_newtypes", "explicit_struct_names"]

/-- What stands after the names of extensions and the closing parenthesis. -/
def extensionNames? : Nat → List Char → Option (List Char)
  | 0, _ => none
  | fuel + 1, text => do
    let (name, rest) ← identifier? (← next? text)
    if extensions.contains (String.ofList name) then
      match ← next? rest with
      | ',' :: rest =>
        match ← next? rest with
        | ')' :: rest => return rest
        | rest => extensionNames? fuel rest
      | rest => expect? ')' rest
    else none

/-- What stands after the attributes in front of the value of a document. -/
def attributes? : Nat → List Char → Option (List Char)
  | 0, _ => none
  | fuel + 1, text => do
    match ← next? text with
    | '#' :: rest => do
      let rest ← next? (← expect? '!' (← next? rest))
      let (name, rest) ← identifier? (← next? (← expect? '[' rest))
      let rest ← expect? '(' (← next? rest)
      if name = "enable".toList then
        let rest ← extensionNames? text.length rest
        attributes? fuel (← expect? ']' (← next? rest))
      else none
    | rest => return rest

/-- Largest depth of values inside one another. -/
def maxDepth : Nat := 128

/-- The entries of the table that is the document, in the order in which they stand. -/
def read? (text : List Char) : Option (List (String × Setting)) := do
  let body ← attributes? (text.length + 1) text
  let (value, rest) ← value? (2 * body.length + 1) maxDepth body
  match value, ← next? rest with
  | .table entries, [] => return entries
  | _, _ => none

end CronSchedule.Ron
