import CronSchedule.Binary64.Arithmetic
import CronSchedule.Setting

/-!
# Numbers of a JSON document

A number without fraction and exponent is an integer if it fits into 64 bits.
Any other number is a floating point number, computed in floating point: as many
of its digits as fit into 64 bits are taken as a whole number, which is then
multiplied with or divided by powers of ten. So the last digit can differ from
that of the nearest number. What becomes infinite in this way is refused.
-/

set_option autoImplicit false

namespace CronSchedule.Json

/-- Largest number that the digits of a number are gathered in. -/
def maxSignificand : Nat := 18446744073709551615

/-- Appends digits to a significand as long as it does not grow too large, and tells how many of
them were appended. -/
def appendDigits (significand : Nat) : List Char → Nat × Nat
  | [] => (significand, 0)
  | c :: digits =>
    let longer := 10 * significand + (c.toNat - '0'.toNat)
    if longer ≤ maxSignificand then
      let (result, count) := appendDigits longer digits
      (result, count + 1)
    else (significand, 0)

/-- Largest power of ten that is a floating point number, as its exponent. -/
def maxPower : Nat := 308

/-- Multiplies a number with a power of ten, or divides it if the exponent is negative. Every
step rounds, and as many steps as `steps` bring any number down to zero. -/
def scale? (steps : Nat) (x : Binary64) (exponent : Int) : Option Binary64 :=
  match steps with
  | 0 => some x
  | steps + 1 =>
    if exponent.natAbs ≤ maxPower then
      let power := Binary64.ofDecimal false 1 exponent.natAbs
      if 0 ≤ exponent then some (x.product power) else some (x.quotient power)
    else if x.isZero then some x
    else if 0 ≤ exponent then none
    else scale? steps (x.quotient (.ofDecimal false 1 maxPower)) (exponent + maxPower)

/-- The floating point number with the given significand and decimal exponent. -/
def scaled? (negative : Bool) (significand : Nat) (exponent : Int) : Option Binary64 :=
  ((scale? 5 (.nearest false significand 1) exponent).filter Binary64.isFinite).map fun x =>
    if negative then x.negated else x

/-- The integer with the given digits; the negative of zero and of integers that do not fit into
64 bits are floating point numbers. -/
def wholeNumber? (negative : Bool) (digits : List Char) : Option Setting :=
  let (significand, count) := appendDigits 0 digits
  if count < digits.length then
    (scaled? negative significand (digits.length - count : Nat)).map .float
  else if !negative then some (.integer significand)
  else if 0 < significand ∧ significand ≤ 9223372036854775808 then some (.integer (-significand))
  else some (.float (Binary64.nearest true significand 1))

/-- The number with the given digits before and after the point, and the given exponent. -/
def pointedNumber? (negative : Bool) (whole fraction : List Char) (exponent : Int) :
    Option Setting :=
  let (significand, count) := appendDigits 0 whole
  let (significand, places) := appendDigits significand fraction
  (scaled? negative significand (exponent + (whole.length - count : Nat) - places)).map .float

/-- The digits at the start of a text, and what follows them. -/
def digits (text : List Char) : List Char × List Char :=
  (text.takeWhile Char.isDigit, text.dropWhile Char.isDigit)

/-- The digits of a fraction, if there is a point, and what follows. A point has digits after
it. -/
def fraction? : List Char → Option (Option (List Char) × List Char)
  | '.' :: text =>
    let (places, rest) := digits text
    if places.isEmpty then none else some (some places, rest)
  | text => some (none, text)

/-- The exponent, if there is one, and what follows. -/
def exponent? : List Char → Option (Option Int × List Char)
  | 'e' :: text | 'E' :: text =>
    let (sign, text) := match text with
      | '+' :: text => (['+'], text)
      | '-' :: text => (['-'], text)
      | text => ([], text)
    let (places, rest) := digits text
    (Numeral.integer? (sign ++ places)).map fun exponent => (some exponent, rest)
  | text => some (none, text)

/-- The number at the start of a text, and what follows it. -/
def number? (text : List Char) : Option (Setting × List Char) := do
  let (negative, text) := match text with
    | '-' :: text => (true, text)
    | text => (false, text)
  let (whole, rest) := digits text
  if whole.isEmpty || whole.head? = some '0' && whole ≠ ['0'] then none
  else
    let (fraction, rest) ← fraction? rest
    let (exponent, rest) ← exponent? rest
    let number ←
      if fraction.isNone && exponent.isNone then wholeNumber? negative whole
      else pointedNumber? negative whole (fraction.getD []) (exponent.getD 0)
    return (number, rest)

end CronSchedule.Json
