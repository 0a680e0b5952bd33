import CronSchedule.Json.Number
import CronSchedule.Text.CodeUnits

/-!
# Reading a JSON document

A document is one object. The values of its members are settings; what is inside
the objects and arrays among them is read, but only its form counts.
-/

set_option autoImplicit false

namespace CronSchedule.Json

/-- What stands after the blanks at a place. -/
def skipBlanks (text : List Char) : List Char :=
  text.dropWhile fun c => c = ' ' || c = '\t' || c = '\n' || c = '\r'

/-! ## Strings -/

/-- The character that a letter after a backslash stands for. -/
def escaped? : Char → Option Char
  | '"' => some '"'
  | '\\' => some '\\'
  | '/' => some '/'
  | 'b' => some '\x08'
  | 'f' => some '\x0c'
  | 'n' => some '\n'
  | 'r' => some '\r'
  | 't' => some '\t'
  | _ => none

/-- The code units of the string that ends with a double quote, and what follows it. -/
def codeUnits? : List Char → Option (List Nat × List Char)
  | '"' :: rest => some ([], rest)
  | '\\' :: 'u' :: a :: b :: c :: d :: rest => do
    let unit ← Text.hexadecimal? [a, b, c, d]
    let (units, rest) ← codeUnits? rest
    return (unit :: units, rest)
  | '\\' :: letter :: rest => do
    let c ← escaped? letter
    let (units, rest) ← codeUnits? rest
    return (c.toNat :: units, rest)
  | c :: rest =>
    if c.toNat < 0x20 then none
    else (codeUnits? rest).map fun (units, rest) => (c.toNat :: units, rest)
  | [] => none

/-- The string after an opening double quote, and what follows it. -/
def string? (text : List Char) : Option (String × List Char) := do
  let (units, rest) ← codeUnits? text
  return (String.ofList (← Text.ofCodeUnits? units), rest)

/-! ## Values -/

/-- What stands after a word, if the text starts with it. -/
def word? (word : String) (text : List Char) : Option (List Char) :=
  if word.toList.isPrefixOf text then some (text.drop word.length) else none

mutual

/-- The value at the start of a text, and what follows it. Objects and arrays are at most
`depth` deep. Each bracket and each part of a value takes one of the `fuel`, so the length of
the text is enough. -/
def value? : Nat → Nat → List Char → Option (Setting × List Char)
  | 0, _, _ => none
  | fuel + 1, depth, text =>
    match text, depth with
    | '[' :: _, 0 | '\x7b' :: _, 0 => none
    | '[' :: rest, depth + 1 =>
      match skipBlanks rest with
      | ']' :: rest => some (.compound, rest)
      | rest => (items? fuel depth rest).map fun rest => (.compound, rest)
    | '\x7b' :: rest, depth + 1 => (object? fuel depth rest).map fun (_, rest) => (.compound, rest)
    | '"' :: rest, _ => (string? rest).map fun (content, rest) => (.text content, rest)
    | 't' :: _, _ => (word? "true" text).map fun rest => (.boolean true, rest)
    | 'f' :: _, _ => (word? "false" text).map fun rest => (.boolean false, rest)
    | 'n' :: _, _ => (word? "null" text).map fun rest => (.null, rest)
    | _, _ => number? text

/-- What follows the items of an array and its closing bracket. -/
def items? : Nat → Nat → List Char → Option (List Char)
  | 0, _, _ => none
  | fuel + 1, depth, text => do
    let (_, rest) ← value? fuel depth text
    match skipBlanks rest with
    | ',' :: rest => items? fuel depth (skipBlanks rest)
    | ']' :: rest => return rest
    | _ => none

/-- The members of an object after its opening brace, and what follows it. -/
def object? : Nat → Nat → List Char → Option (List (String × Setting) × List Char)
  | 0, _, _ => none
  | fuel + 1, depth, text =>
    match skipBlanks text with
    | '\x7d' :: rest => some ([], rest)
    | text => members? fuel depth text

/-- The members of an object up to its closing brace, of which there is at least one, and what
follows it. -/
def members? : Nat → Nat → List Char → Option (List (String × Setting) × List Char)
  | 0, _, _ => none
  | fuel + 1, depth, text =>
    match text with
    | '"' :: rest => do
      let (key, rest) ← string? rest
      match skipBlanks rest with
      | ':' :: rest => do
        let (value, rest) ← value? fuel depth (skipBlanks rest)
        match skipBlanks rest with
        | ',' :: rest => do
          let (members, rest) ← members? fuel depth (skipBlanks rest)
          return ((key, value) :: members, rest)
        | '\x7d' :: rest => return ([(key, value)], rest)
        | _ => none
      | _ => none
    | _ => none

end

/-- Largest depth of objects and arrays inside one another, the whole document included. -/
def maxDepth : Nat := 127

/-- The members of the object that is the document, in the order in which they stand. -/
def read? (text : List Char) : Option (List (String × Setting)) :=
  match skipBlanks text with
  | '\x7b' :: rest => do
    let (members, rest) ← object? (text.length + 1) (maxDepth - 1) rest
    if (skipBlanks rest).isEmpty then return members else none
  | _ => none

end CronSchedule.Json
