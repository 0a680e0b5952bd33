import CronSchedule.Binary64.Basic
import CronSchedule.Numeral
import CronSchedule.Text.Separated

/-!
# Reading a floating point number

A number is written with decimal digits, of which some may follow a point, and
an exponent after the letter e. There has to be a digit before or after the
point. The words for the infinite and for what is no number are read in any
letter case.
-/

set_option autoImplicit false

namespace CronSchedule.Binary64

/-- The number before the exponent: digits with an optional point among them, as the digits
without the point and the number of digits after it. -/
def significand? (text : List Char) : Option (List Char × Nat) :=
  let (whole, fraction) := (Text.splitFirst? '.' text).getD (text, [])
  if (whole ++ fraction).isEmpty || !(whole ++ fraction).all Char.isDigit then none
  else some (whole ++ fraction, fraction.length)

/-- The number that a text without a sign writes. -/
def unsigned? (negative : Bool) (text : List Char) : Option Binary64 :=
  let lower := text.map Char.toLower
  if lower = "inf".toList ∨ lower = "infinity".toList then some (infinite negative)
  else if lower = "nan".toList then some nan
  else do
    let (significand, exponent) ←
      match Text.splitFirst? 'e' lower with
      | some (before, after) => (Numeral.integer? after).map fun exponent => (before, exponent)
      | none => some (lower, 0)
    let (digits, places) ← significand? significand
    return ofDecimal negative (Nat.ofDigitChars 10 digits 0) (exponent - places)

/-- The number that a text writes, with an optional sign. -/
def read? : List Char → Option Binary64
  | '+' :: text => unsigned? false text
  | '-' :: text => unsigned? true text
  | text => unsigned? false text

end CronSchedule.Binary64
