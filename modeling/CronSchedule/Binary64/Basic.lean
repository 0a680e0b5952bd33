/-!
# Binary floating point numbers of 64 bits

A finite number is an integer times a power of two, with at most 53 binary
digits and an exponent from -1074 to 971. `Binary64.nearest` rounds a fraction
to the nearest number, in exact arithmetic, with ties to the even neighbour.
-/

set_option autoImplicit false

namespace CronSchedule

/-- A binary floating point number of 64 bits. -/
inductive Binary64 where
  /-- The number `mantissa * 2 ^ exponent` with a sign; zero has a sign as well. -/
  | finite (negative : Bool) (mantissa : Nat) (exponent : Int)
  | infinite (negative : Bool)
  | nan
  deriving DecidableEq

namespace Binary64

/-- Smallest exponent of a number. -/
def minExponent : Int := -1074

/-- Largest exponent of a number. -/
def maxExponent : Int := 971

/-- The first of the 53 binary digits of a number. -/
def leadingBit : Nat := 4503599627370496

/-- The integer nearest to a fraction; a half goes to the even neighbour. -/
def roundHalfEven (numerator denominator : Nat) : Nat :=
  let quotient := numerator / denominator
  let twiceRest := 2 * (numerator % denominator)
  if denominator < twiceRest ∨ twiceRest = denominator ∧ quotient % 2 = 1 then quotient + 1
  else quotient

/-- The largest exponent of a power of two that does not exceed a positive fraction. -/
def floorLog2 (numerator denominator : Nat) : Int :=
  let estimate : Int := (Nat.log2 numerator : Int) - Nat.log2 denominator
  if denominator * Nat.pow 2 estimate.toNat ≤ numerator * Nat.pow 2 (-estimate).toNat then estimate
  else estimate - 1

/-- The number nearest to a fraction; what is beyond the largest number is infinite. -/
def nearest (negative : Bool) (numerator denominator : Nat) : Binary64 :=
  if numerator = 0 then finite negative 0 minExponent
  else
    let exponent := max (floorLog2 numerator denominator - 52) minExponent
    let mantissa :=
      roundHalfEven (numerator * Nat.pow 2 (-exponent).toNat) (denominator * Nat.pow 2 exponent.toNat)
    let carried := mantissa = 2 * leadingBit
    let exponent := if carried then exponent + 1 else exponent
    if maxExponent < exponent then infinite negative
    else finite negative (if carried then leadingBit else mantissa) exponent

/-- The number nearest to `digits * 10 ^ exponent`. Beyond 400 decimal places either way the
result is known without any arithmetic. -/
def ofDecimal (negative : Bool) (digits : Nat) (exponent : Int) : Binary64 :=
  let size : Int := (Nat.toDigits 10 digits).length + exponent
  if digits = 0 ∨ size < -400 then finite negative 0 minExponent
  else if 400 < size then infinite negative
  else nearest negative (digits * Nat.pow 10 exponent.toNat) (Nat.pow 10 (-exponent).toNat)

/-! ## Kinds of numbers and signs -/

/-- Is the number zero, with either sign? -/
def isZero : Binary64 → Bool
  | finite _ mantissa _ => mantissa = 0
  | _ => false

/-- Is the number finite? -/
def isFinite : Binary64 → Bool
  | finite _ _ _ => true
  | _ => false

/-- The number with the opposite sign. -/
def negated : Binary64 → Binary64
  | finite negative mantissa exponent => finite (!negative) mantissa exponent
  | infinite negative => infinite (!negative)
  | nan => nan

/-! ## Whole numbers -/

/-- Largest integer of 64 bits with a sign. -/
def maxInteger : Int := 9223372036854775807

/-- Smallest integer of 64 bits with a sign. -/
def minInteger : Int := -9223372036854775808

/-- The integer nearest to a number, a half going away from zero, within the integers of 64 bits;
what is no number counts as zero. -/
def toInteger : Binary64 → Int
  | finite negative mantissa exponent =>
    let magnitude : Nat :=
      if 0 ≤ exponent then mantissa * Nat.pow 2 exponent.toNat
      else (2 * mantissa + Nat.pow 2 (-exponent).toNat) / Nat.pow 2 ((-exponent).toNat + 1)
    if negative then max minInteger (-magnitude) else min maxInteger magnitude
  | infinite negative => if negative then minInteger else maxInteger
  | nan => 0

end Binary64

end CronSchedule
