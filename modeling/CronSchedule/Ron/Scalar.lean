import CronSchedule.Binary64.Reading
import CronSchedule.Setting
import CronSchedule.Text.DecimalDigit
import CronSchedule.Text.Hexadecimal
import CronSchedule.Text.WordCharacter

/-!
# Scalars of a RON document

Identifiers, strings, characters and numbers.
-/

set_option autoImplicit false

namespace CronSchedule.Ron

/-! ## Identifiers -/

/-- May the character stand at the start of an identifier? -/
def startsIdentifier (c : Char) : Bool := Text.isWordCharacter c && !Text.isDecimalDigit c

/-- May the character stand in an identifier with a mark in front? -/
def isRawCharacter (c : Char) : Bool :=
  Text.isWordCharacter c || c = '.' || c = '+' || c = '-'

/-- The identifier at the start of a text, and what follows it. -/
def identifier? : List Char → Option (List Char × List Char)
  | 'r' :: '#' :: c :: rest =>
    if isRawCharacter c then
      some ((c :: rest).takeWhile isRawCharacter, (c :: rest).dropWhile isRawCharacter)
    else none
  | c :: rest =>
    if startsIdentifier c then
      some (c :: rest.takeWhile Text.isWordCharacter, rest.dropWhile Text.isWordCharacter)
    else none
  | [] => none

/-! ## Strings -/

/-- The character that a letter after a backslash stands for. -/
def escaped? : Char → Option Char
  | '\'' => some '\''
  | '"' => some '"'
  | '\\' => some '\\'
  | 'n' => some '\n'
  | 'r' => some '\r'
  | 't' => some '\t'
  | '0' => some '\x00'
  | _ => none

/-- The character that an escape after its backslash stands for, and what follows it. -/
def escape? : List Char → Option (Char × List Char)
  | 'x' :: a :: b :: rest => (Text.codePoint? [a, b]).map fun c => (c, rest)
  | 'u' :: '\x7b' :: rest =>
    let digits := rest.takeWhile (· ≠ '\x7d')
    if 6 < digits.length ∨ rest.length ≤ digits.length then none
    else (Text.codePoint? digits).map fun c => (c, rest.drop (digits.length + 1))
  | c :: rest => (escaped? c).map fun c => (c, rest)
  | [] => none

/-- The string that ends with a double quote, and what follows it. Each character takes one of the
`fuel`, so the length of the text is enough. -/
def string? : Nat → List Char → Option (List Char × List Char)
  | 0, _ => none
  | fuel + 1, text =>
    match text with
    | '"' :: rest => some ([], rest)
    | '\\' :: rest => do
      let (c, rest) ← escape? rest
      let (text, rest) ← string? fuel rest
      return (c :: text, rest)
    | c :: rest => (string? fuel rest).map fun (text, rest) => (c :: text, rest)
    | [] => none

/-- The string without escapes that ends with the given mark, and what follows it. -/
def rawString? (mark : List Char) : List Char → Option (List Char × List Char)
  | [] => none
  | c :: rest =>
    if mark.isPrefixOf (c :: rest) then some ([], (c :: rest).drop mark.length)
    else (rawString? mark rest).map fun (text, rest) => (c :: text, rest)

/-- The string without escapes after the letter in front of it, and what follows it. The number of
marks before the opening quote is that after the closing one. -/
def markedString? (text : List Char) : Option (List Char × List Char) :=
  match text.dropWhile (· = '#') with
  | '"' :: rest => rawString? ('"' :: text.takeWhile (· = '#')) rest
  | _ => none

/-- The character after an opening single quote, and what follows its closing quote. -/
def character? (text : List Char) : Option (Char × List Char) := do
  let (c, rest) ← match text with
    | '\\' :: rest => escape? rest
    | c :: rest => some (c, rest)
    | [] => none
  match rest with
  | '\'' :: rest => return (c, rest)
  | _ => none

/-! ## Numbers -/

/-- May the character stand in an integer of some base? -/
def isIntegerCharacter (c : Char) : Bool := (Text.hexadecimalDigit? c).isSome || c = '_'

/-- May the character stand in a floating point number? -/
def isFloatCharacter (c : Char) : Bool :=
  c.isDigit || c = 'e' || c = 'E' || c = '.' || c = '+' || c = '-' || c = '_'

/-- The sign at the start of a number, and what follows it. -/
def splitSign : List Char → List Char × List Char
  | '+' :: rest => (['+'], rest)
  | '-' :: rest => (['-'], rest)
  | text => ([], text)

/-- The base of an integer by the mark in front of its digits, and what follows the mark. -/
def splitBase : List Char → Nat × List Char
  | '0' :: 'x' :: rest => (16, rest)
  | '0' :: 'o' :: rest => (8, rest)
  | '0' :: 'b' :: rest => (2, rest)
  | text => (10, text)

/-- The number that digits of a base write, low lines among them left out. -/
def digitsValue? (base : Nat) (text : List Char) : Option Nat :=
  let digits := text.filter (· ≠ '_')
  if digits.isEmpty || text.head? = some '_' then none
  else
    digits.foldl
      (fun number c => number.bind fun n =>
        (Text.hexadecimalDigit? c).bind fun digit =>
          if digit < base then some (base * n + digit) else none)
      (some 0)

/-- The names of the types of integers, with the smallest and the largest integer of each. -/
def integerTypes : List (String × Int × Int) :=
  [("i8", -128, 127), ("i16", -32768, 32767), ("i32", -2147483648, 2147483647),
   ("i64", -9223372036854775808, 9223372036854775807), ("u8", 0, 255), ("u16", 0, 65535),
   ("u32", 0, 4294967295), ("u64", 0, 18446744073709551615)]

/-- The bounds of the type named after an integer, or those of all integers if there is no name,
and what follows. -/
def integerBounds (text : List Char) : (Int × Int) × List Char :=
  match integerTypes.find? fun (name, _) => name.toList.isPrefixOf text with
  | some (name, low, high) => ((low, high), text.drop name.length)
  | none => ((-9223372036854775808, 18446744073709551615), text)

/-- The integer at the start of a text, and what follows it. -/
def integer? (text : List Char) : Option (Setting × List Char) := do
  let (sign, unsigned) := splitSign text
  let (base, body) := splitBase unsigned
  let magnitude ← digitsValue? base (body.takeWhile isIntegerCharacter)
  let value : Int := if sign = ['-'] then -magnitude else magnitude
  let ((low, high), rest) := integerBounds (body.dropWhile isIntegerCharacter)
  if low ≤ value ∧ value ≤ high then return (.integer value, rest) else none

/-- The number at the start of a text, and what follows it: a floating point number if that has
more characters than an integer would have. -/
def number? (text : List Char) : Option (Setting × List Char) :=
  let (sign, unsigned) := splitSign text
  let float := unsigned.takeWhile isFloatCharacter
  if (unsigned.takeWhile isIntegerCharacter).length < float.length then
    if float.head? = some '_' then none
    else
      (Binary64.read? (sign ++ float.filter (· ≠ '_'))).map fun x =>
        (.float x, unsigned.drop float.length)
  else integer? text

end CronSchedule.Ron
