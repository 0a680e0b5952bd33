import CronSchedule.Binary64.Reading
import CronSchedule.Text.Hexadecimal
import CronSchedule.Toml.Moment
import CronSchedule.Toml.Node

/-!
# Scalars of a TOML document

Strings in their four spellings, and the words for numbers, truth values, dates
and times.
-/

set_option autoImplicit false

namespace CronSchedule.Toml

/-! ## Strings -/

/-- May the character stand in a comment or, unescaped, in a string on one line? -/
def isPrintable (c : Char) : Bool := c = '\t' || (0x20 ≤ c.toNat && c.toNat ≠ 0x7F)

/-- The character that a letter after a backslash stands for. -/
def escaped? : Char → Option Char
  | 'b' => some '\x08'
  | 't' => some '\t'
  | 'n' => some '\n'
  | 'f' => some '\x0c'
  | 'r' => some '\r'
  | 'e' => some '\x1b'
  | '"' => some '"'
  | '\\' => some '\\'
  | _ => none

/-- Joins a character to what is read after it. -/
def cons? (c : Option Char) (read : Option (List Char × List Char)) :
    Option (List Char × List Char) :=
  c.bind fun c => read.map fun (text, rest) => (c :: text, rest)

/-- The string on one line that ends with a double quote, and what follows it. -/
def basicString? : List Char → Option (List Char × List Char)
  | '"' :: rest => some ([], rest)
  | '\\' :: 'x' :: a :: b :: rest => cons? (Text.codePoint? [a, b]) (basicString? rest)
  | '\\' :: 'u' :: a :: b :: c :: d :: rest =>
    cons? (Text.codePoint? [a, b, c, d]) (basicString? rest)
  | '\\' :: 'U' :: a :: b :: c :: d :: e :: f :: g :: h :: rest =>
    cons? (Text.codePoint? [a, b, c, d, e, f, g, h]) (basicString? rest)
  | '\\' :: c :: rest => cons? (escaped? c) (basicString? rest)
  | c :: rest => if isPrintable c then cons? (some c) (basicString? rest) else none
  | [] => none

/-- The string on one line that ends with a single quote, and what follows it. -/
def literalString? : List Char → Option (List Char × List Char)
  | '\'' :: rest => some ([], rest)
  | c :: rest => if isPrintable c then cons? (some c) (literalString? rest) else none
  | [] => none

/-- Does a line end follow after blanks only? -/
def endsLine : List Char → Bool
  | ' ' :: rest | '\t' :: rest => endsLine rest
  | '\n' :: _ | '\r' :: '\n' :: _ => true
  | _ => false

/-- The string over several lines that ends with three double quotes, and what follows it. Up
to two quotes before the closing ones belong to the string. After a backslash at the end of a
line, `skipping` leaves out the blanks and line ends up to the next other character. -/
def basicLines? (skipping : Bool) : List Char → Option (List Char × List Char)
  | '"' :: '"' :: '"' :: '"' :: '"' :: rest => some (['"', '"'], rest)
  | '"' :: '"' :: '"' :: '"' :: rest => some (['"'], rest)
  | '"' :: '"' :: '"' :: rest => some ([], rest)
  | '\r' :: '\n' :: rest =>
    if skipping then basicLines? true rest
    else cons? (some '\r') (cons? (some '\n') (basicLines? false rest))
  | '\n' :: rest =>
    if skipping then basicLines? true rest else cons? (some '\n') (basicLines? false rest)
  | '\\' :: 'x' :: a :: b :: rest => cons? (Text.codePoint? [a, b]) (basicLines? false rest)
  | '\\' :: 'u' :: a :: b :: c :: d :: rest =>
    cons? (Text.codePoint? [a, b, c, d]) (basicLines? false rest)
  | '\\' :: 'U' :: a :: b :: c :: d :: e :: f :: g :: h :: rest =>
    cons? (Text.codePoint? [a, b, c, d, e, f, g, h]) (basicLines? false rest)
  | '\\' :: c :: rest =>
    if endsLine (c :: rest) then basicLines? true rest
    else cons? (escaped? c) (basicLines? false rest)
  | c :: rest =>
    if skipping ∧ (c = ' ' ∨ c = '\t') then basicLines? true rest
    else if isPrintable c then cons? (some c) (basicLines? false rest)
    else none
  | [] => none

/-- The string over several lines that ends with three single quotes, and what follows it. -/
def literalLines? : List Char → Option (List Char × List Char)
  | '\'' :: '\'' :: '\'' :: '\'' :: '\'' :: rest => some (['\'', '\''], rest)
  | '\'' :: '\'' :: '\'' :: '\'' :: rest => some (['\''], rest)
  | '\'' :: '\'' :: '\'' :: rest => some ([], rest)
  | '\r' :: '\n' :: rest => cons? (some '\r') (cons? (some '\n') (literalLines? rest))
  | c :: rest =>
    if c = '\n' ∨ isPrintable c then cons? (some c) (literalLines? rest) else none
  | [] => none

/-- What follows a line end right at the start. -/
def withoutFirstLineEnd : List Char → List Char
  | '\n' :: rest => rest
  | '\r' :: '\n' :: rest => rest
  | text => text

/-- The string in any spelling at the start of a text, and what follows it. -/
def string? : List Char → Option (List Char × List Char)
  | '"' :: '"' :: '"' :: rest => basicLines? false (withoutFirstLineEnd rest)
  | '"' :: rest => basicString? rest
  | '\'' :: '\'' :: '\'' :: rest => literalLines? (withoutFirstLineEnd rest)
  | '\'' :: rest => literalString? rest
  | _ => none

/-! ## Numbers -/

/-- Digits of a kind, of which any two may have a low line between them. -/
def groupedDigits? (isDigit : Char → Bool) (text : List Char) : Option (List Char) :=
  let groups := Text.splitAt '_' text
  if groups.all fun group => !group.isEmpty && group.all isDigit then some groups.flatten else none

/-- Decimal digits without a zero in front of others. -/
def wholeDigits? (text : List Char) : Option (List Char) :=
  (groupedDigits? Char.isDigit text).filter fun digits => digits = ['0'] || digits.head? ≠ some '0'

/-- Value of a digit in any base up to sixteen. -/
def digitValue (c : Char) : Nat :=
  if c.isDigit then c.toNat - '0'.toNat else c.toLower.toNat - 'a'.toNat + 10

/-- The digits of a base. -/
def isDigitOf (base : Nat) (c : Char) : Bool :=
  (c.isDigit || 'a' ≤ c.toLower && c.toLower ≤ 'f') && digitValue c < base

/-- The number that digits of a base write. -/
def basedNumber? (base : Nat) (text : List Char) : Option Int :=
  (groupedDigits? (isDigitOf base) text).map fun digits =>
    (digits.foldl (fun n c => base * n + digitValue c) 0 : Nat)

/-- The sign in front of a number and the rest. -/
def splitSign : List Char → List Char × List Char
  | '+' :: rest => (['+'], rest)
  | '-' :: rest => (['-'], rest)
  | text => ([], text)

/-- The integer that a word writes, in base ten, sixteen, eight or two. -/
def integer? : List Char → Option Int
  | '0' :: 'x' :: digits => basedNumber? 16 digits
  | '0' :: 'o' :: digits => basedNumber? 8 digits
  | '0' :: 'b' :: digits => basedNumber? 2 digits
  | word =>
    let (sign, digits) := splitSign word
    (wholeDigits? digits).bind fun digits => Numeral.integer? (sign ++ digits)

/-- The digits of an exponent after its sign. -/
def exponentDigits? (text : List Char) : Option (List Char) :=
  let (sign, digits) := splitSign text
  (groupedDigits? Char.isDigit digits).map (sign ++ ·)

/-- The digits of a number before its exponent: a whole number and, after a point, a
fraction. -/
def pointedDigits? (text : List Char) : Option (List Char) :=
  (Text.splitFirst? '.' text).bind fun (whole, fraction) => do
    return (← wholeDigits? whole) ++ '.' :: (← groupedDigits? Char.isDigit fraction)

/-- The digits of a number with a fraction, an exponent or both. -/
def floatDigits? (text : List Char) : Option (List Char) :=
  match Text.splitFirst? 'e' (text.map fun c => if c = 'E' then 'e' else c) with
  | some (significand, exponent) => do
    let digits ← (pointedDigits? significand).or (wholeDigits? significand)
    return digits ++ 'e' :: (← exponentDigits? exponent)
  | none => pointedDigits? text

/-- The floating point number that a word writes, or the infinite, or what is no number. Numbers
too large are refused. -/
def float? (word : List Char) : Option Binary64 :=
  let (sign, magnitude) := splitSign word
  if magnitude = "inf".toList ∨ magnitude = "nan".toList then Binary64.read? word
  else
    match (floatDigits? magnitude).bind fun digits => Binary64.read? (sign ++ digits) with
    | some (.infinite _) => none
    | other => other

/-! ## Words -/

/-- May the character stand in a word for a scalar? -/
def isScalarCharacter (c : Char) : Bool :=
  c.isAlphanum || c = '_' || c = '+' || c = '-' || c = '.' || c = ':'

/-- The word for a scalar at the start of a text, and what follows it. A blank between a date
and a time belongs to the word. -/
def scalarWord (text : List Char) : List Char × List Char :=
  let word := text.takeWhile isScalarCharacter
  let rest := text.dropWhile isScalarCharacter
  match rest with
  | ' ' :: next :: _ =>
    if (dateText? word).isSome ∧ next.isDigit then
      (word ++ ' ' :: rest.tail.takeWhile isScalarCharacter, rest.tail.dropWhile isScalarCharacter)
    else (word, rest)
  | _ => (word, rest)

/-- The scalar that a word writes. Integers have to fit into 64 bits. -/
def scalar? (word : List Char) : Option Node :=
  if word = "true".toList then some (.boolean true)
  else if word = "false".toList then some (.boolean false)
  else
    match integer? word with
    | some n => if Numeral.fits 64 n then some (.integer n) else none
    | none =>
      match float? word with
      | some x => some (.float x)
      | none => (momentText? word).map fun text => .text (String.ofList text)

end CronSchedule.Toml
