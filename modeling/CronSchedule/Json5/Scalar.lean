import CronSchedule.Binary64.Reading
import CronSchedule.Setting
import CronSchedule.Text.CodeUnits
import CronSchedule.Text.DecimalDigit
import CronSchedule.Text.WordCharacter

/-!
# Scalars of a JSON5 document

Strings in either kind of quotes, names without quotes, and numbers.
-/

set_option autoImplicit false

namespace CronSchedule.Json5

/-- Does the character end a line? -/
def isLineEnd (c : Char) : Bool := c = '\n' || c = '\r' || c = '\u2028' || c = '\u2029'

/-! ## Strings -/

/-- The character that a character after a backslash stands for: a control character, or else
itself. Digits are no escapes, but for zero. -/
def escaped? : Char → Option Char
  | 'b' => some '\x08'
  | 'f' => some '\x0c'
  | 'n' => some '\n'
  | 'r' => some '\r'
  | 't' => some '\t'
  | 'v' => some '\x0b'
  | '0' => some '\x00'
  | c => if c.isDigit || c = 'x' || c = 'u' || isLineEnd c then none else some c

/-- The code units of the string that ends with the given quote, and what follows it. A line may
end within a string only after a backslash, and that line end is left out. -/
def codeUnits? (quote : Char) : List Char → Option (List Nat × List Char)
  | '\\' :: 'x' :: a :: b :: rest => do
    let unit ← Text.hexadecimal? [a, b]
    let (units, rest) ← codeUnits? quote rest
    return (unit :: units, rest)
  | '\\' :: 'u' :: a :: b :: c :: d :: rest => do
    let unit ← Text.hexadecimal? [a, b, c, d]
    let (units, rest) ← codeUnits? quote rest
    return (unit :: units, rest)
  | '\\' :: '\r' :: '\n' :: rest => codeUnits? quote rest
  | '\\' :: c :: rest =>
    if isLineEnd c then codeUnits? quote rest
    else do
      let c ← escaped? c
      let (units, rest) ← codeUnits? quote rest
      return (c.toNat :: units, rest)
  | c :: rest =>
    if c = quote then some ([], rest)
    else if c = '\\' || isLineEnd c then none
    else (codeUnits? quote rest).map fun (units, rest) => (c.toNat :: units, rest)
  | [] => none

/-- The string after an opening quote of the given kind, and what follows it. -/
def string? (quote : Char) (text : List Char) : Option (String × List Char) := do
  let (units, rest) ← codeUnits? quote text
  return (String.ofList (← Text.ofCodeUnits? units), rest)

/-! ## Names -/

/-- May the character stand at the start of a name? -/
def startsName (c : Char) : Bool :=
  c = '$' || c = '_' || Text.isWordCharacter c && !Text.isDecimalDigit c

/-- May the character stand within a name? -/
def continuesName (c : Char) : Bool := c = '$' || Text.isWordCharacter c

/-- The code units of the name at the start of a text, in which code units may be escaped, and
what follows it. -/
def nameUnits (isFirst : Bool) : List Char → List Nat × List Char
  | '\\' :: 'u' :: a :: b :: c :: d :: rest =>
    match Text.hexadecimal? [a, b, c, d] with
    | some unit =>
      let (units, rest) := nameUnits false rest
      (unit :: units, rest)
    | none => ([], '\\' :: 'u' :: a :: b :: c :: d :: rest)
  | c :: rest =>
    if if isFirst then startsName c else continuesName c then
      let (units, rest) := nameUnits false rest
      (c.toNat :: units, rest)
    else ([], c :: rest)
  | [] => ([], [])

/-- The name at the start of a text, and what follows it. -/
def name? (text : List Char) : Option (String × List Char) :=
  match nameUnits true text with
  | ([], _) => none
  | (units, rest) => (Text.ofCodeUnits? units).map fun name => (String.ofList name, rest)

/-! ## Numbers -/

/-- Largest number in base sixteen. -/
def maxHexadecimal : Nat := 4294967295

/-- The number in base sixteen after its mark, and what follows it; it has no sign. -/
def hexadecimalNumber? (signed : Bool) (text : List Char) : Option (Setting × List Char) := do
  let n ← Text.hexadecimal? (text.takeWhile fun c => (Text.hexadecimalDigit? c).isSome)
  if signed || maxHexadecimal < n then none
  else return (.integer n, text.dropWhile fun c => (Text.hexadecimalDigit? c).isSome)

/-- The exponent at the start of a text as it is written, empty if there is none, and what
follows it. -/
def exponent (text : List Char) : List Char × List Char :=
  let (mark, rest) := match text with
    | e :: '+' :: rest => ([e, '+'], rest)
    | e :: '-' :: rest => ([e, '-'], rest)
    | e :: rest => ([e], rest)
    | [] => ([], [])
  if (mark.head? = some 'e' || mark.head? = some 'E') && (rest.head?.any Char.isDigit) then
    (mark ++ rest.takeWhile Char.isDigit, rest.dropWhile Char.isDigit)
  else ([], text)

/-- The decimal number at the start of a text as it is written, without a sign, and what follows
it. There is a digit before the point or after it, and a zero is not followed by digits. -/
def decimal? (text : List Char) : Option (List Char × List Char) :=
  let whole := if text.head? = some '0' then ['0'] else text.takeWhile Char.isDigit
  let (places, rest) := match text.drop whole.length with
    | '.' :: rest => ('.' :: rest.takeWhile Char.isDigit, rest.dropWhile Char.isDigit)
    | rest => ([], rest)
  if whole.isEmpty && places.length ≤ 1 then none
  else
    let (power, rest) := exponent rest
    some (whole ++ places ++ power, rest)

/-- The value of a decimal number: an integer of 64 bits if it has neither point nor exponent, and
else a finite floating point number. -/
def decimalValue? (number : List Char) : Option Setting :=
  if number.any fun c => c = '.' || c = 'e' || c = 'E' then
    ((Binary64.read? number).filter Binary64.isFinite).map .float
  else (Numeral.signed? 64 number).map .integer

/-- The number at the start of a text, and what follows it. The infinite and what is no number
may have a minus sign, and a number in base sixteen has no sign. -/
def number? (text : List Char) : Option (Setting × List Char) :=
  let (sign, magnitude) := match text with
    | '+' :: rest => (['+'], rest)
    | '-' :: rest => (['-'], rest)
    | _ => ([], text)
  match magnitude with
  | '0' :: 'x' :: rest | '0' :: 'X' :: rest => hexadecimalNumber? (!sign.isEmpty) rest
  | 'I' :: 'n' :: 'f' :: 'i' :: 'n' :: 'i' :: 't' :: 'y' :: rest =>
    if sign = ['+'] then none else some (.float (.infinite (sign = ['-'])), rest)
  | 'N' :: 'a' :: 'N' :: rest => if sign = ['+'] then none else some (.float .nan, rest)
  | _ => do
    let (number, rest) ← decimal? magnitude
    return (← decimalValue? (sign ++ number), rest)

end CronSchedule.Json5
