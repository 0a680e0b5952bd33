import CronSchedule.Json5.Scalar
import CronSchedule.Text.Blank

/-!
# Reading a JSON5 document

A document is one object, as in JSON but with comments, names without quotes and
commas after the last member or item.
-/

set_option autoImplicit false

namespace CronSchedule.Json5

/-! ## Between the values -/

/-- Is the character a blank or the end of a line? -/
def isBlank (c : Char) : Bool := Text.isBlank c && c ≠ '\x85' || c = '\uFEFF'

/-- Where a place between two values lies. -/
inductive Place where
  | outside
  | lineComment
  | blockComment

/-- What stands after blanks, line ends and comments. -/
def skipFiller (place : Place) : List Char → Option (List Char)
  | [] =>
    match place with
    | .blockComment => none
    | _ => some []
  | '/' :: '/' :: rest =>
    match place with
    | .outside => skipFiller .lineComment rest
    | place => skipFiller place ('/' :: rest)
  | '/' :: '*' :: rest =>
    match place with
    | .outside => skipFiller .blockComment rest
    | place => skipFiller place ('*' :: rest)
  | '*' :: '/' :: rest =>
    match place with
    | .outside => some ('*' :: '/' :: rest)
    | .lineComment => skipFiller .lineComment ('/' :: rest)
    | .blockComment => skipFiller .outside rest
  | c :: rest =>
    match place with
    | .outside => if isBlank c then skipFiller .outside rest else some (c :: rest)
    | .lineComment => skipFiller (if isLineEnd c then .outside else .lineComment) rest
    | .blockComment => skipFiller .blockComment rest

/-- What stands at the next value or mark. -/
def next? (text : List Char) : Option (List Char) := skipFiller .outside text

/-! ## Values -/

/-- The key of a member, and what follows it. -/
def key? : List Char → Option (String × List Char)
  | '"' :: rest => string? '"' rest
  | '\'' :: rest => string? '\'' rest
  | text => name? text

/-- What stands after a word, if the text starts with it. -/
def word? (word : String) (text : List Char) : Option (List Char) :=
  if word.toList.isPrefixOf text then some (text.drop word.length) else none

mutual

/-- The value at the start of a text, and what follows it. Each bracket and each part of a value
takes one of the `fuel`, so twice the length of the text is enough. -/
def value? : Nat → List Char → Option (Setting × List Char)
  | 0, _ => none
  | fuel + 1, text =>
    match text with
    | '[' :: rest => do return (.compound, ← items? fuel (← next? rest))
    | '\x7b' :: rest => do
      let (_, rest) ← members? fuel (← next? rest)
      return (.compound, rest)
    | '"' :: rest => (string? '"' rest).map fun (content, rest) => (.text content, rest)
    | '\'' :: rest => (string? '\'' rest).map fun (content, rest) => (.text content, rest)
    | 't' :: _ => (word? "true" text).map fun rest => (.boolean true, rest)
    | 'f' :: _ => (word? "false" text).map fun rest => (.boolean false, rest)
    | 'n' :: _ => (word? "null" text).map fun rest => (.null, rest)
    | _ => number? text

/-- What follows the items of an array and its closing bracket. -/
def items? : Nat → List Char → Option (List Char)
  | 0, _ => none
  | fuel + 1, text =>
    match text with
    | ']' :: rest => some rest
    | _ => do
      let (_, rest) ← value? fuel text
      match ← next? rest with
      | ',' :: rest => items? fuel (← next? rest)
      | ']' :: rest => return rest
      | _ => none

/-- The members of an object up to its closing brace, and what follows it. -/
def members? : Nat → List Char → Option (List (String × Setting) × List Char)
  | 0, _ => none
  | fuel + 1, text =>
    match text with
    | '\x7d' :: rest => some ([], rest)
    | _ => do
      let (key, rest) ← key? text
      match ← next? rest with
      | ':' :: rest => do
        let (value, rest) ← value? fuel (← next? rest)
        match ← next? rest with
        | ',' :: rest => do
          let (members, rest) ← members? fuel (← next? rest)
          return ((key, value) :: members, rest)
        | '\x7d' :: rest => return ([(key, value)], rest)
        | _ => none
      | _ => none

end

/-- The members of the object that is the document, in the order in which they stand. -/
def read? (text : List Char) : Option (List (String × Setting)) := do
  match ← next? text with
  | '\x7b' :: rest => do
    let (members, rest) ← members? (2 * text.length + 1) (← next? rest)
    if (← next? rest).isEmpty then return members else none
  | _ => none

end CronSchedule.Json5
