import CronSchedule.Binary64.Basic
import CronSchedule.Numeral

/-!
# The shortest decimal text of a number

The text of a number has the fewest decimal digits that read back as the number,
and of those the nearest ones, without an exponent. The reals that round to a
number form an interval around it; the text is a point of that interval on the
coarsest decimal grid that has one.
-/

set_option autoImplicit false

namespace CronSchedule.Binary64

/-- The interval of reals that round to a positive number, in units of a quarter of its last
binary place: the lower end, the number and the upper end. Below a power of two the numbers lie
twice as close. -/
def roundingInterval (mantissa : Nat) (exponent : Int) : Nat × Nat × Nat :=
  let lower :=
    if mantissa = leadingBit ∧ minExponent < exponent then 4 * mantissa - 1 else 4 * mantissa - 2
  (lower, 4 * mantissa, 4 * mantissa + 2)

/-- The multiple of `10 ^ power` nearest to a positive number among those that round to it, as
its factor; of two at the same distance it is the larger one. The ends of the interval belong
to it if the mantissa is even. -/
def gridPoint? (mantissa : Nat) (exponent power : Int) : Option Nat :=
  let (lower, value, upper) := roundingInterval mantissa exponent
  let grid := Nat.pow 10 power.toNat * Nat.pow 2 (2 - exponent).toNat
  let unit := Nat.pow 10 (-power).toNat * Nat.pow 2 (exponent - 2).toNat
  let inside (factor : Nat) : Bool :=
    if mantissa % 2 = 0 then lower * unit ≤ factor * grid && factor * grid ≤ upper * unit
    else lower * unit < factor * grid && factor * grid < upper * unit
  let below := value * unit / grid
  let nearer := if value * unit - below * grid < (below + 1) * grid - value * unit then below else below + 1
  if inside below && inside (below + 1) then some nearer
  else if inside below then some below
  else if inside (below + 1) then some (below + 1)
  else none

/-- Decimal grids from the coarsest to the finest that a number can need. -/
def gridPowers : List Int := (List.range 700).map fun k : Nat => 320 - (k : Int)

/-- The shortest decimal `factor * 10 ^ power` that reads back as a positive number. -/
def shortestDecimal? (mantissa : Nat) (exponent : Int) : Option (Nat × Int) :=
  gridPowers.findSome? fun power => (gridPoint? mantissa exponent power).map fun factor => (factor, power)

/-- A decimal `factor * 10 ^ power` written out without an exponent. -/
def positional (factor : Nat) (power : Int) : List Char :=
  let digits := Numeral.digits factor
  if 0 ≤ power then digits ++ List.replicate power.toNat '0'
  else
    let places := (-power).toNat
    let padded := List.replicate (places + 1 - digits.length) '0' ++ digits
    padded.take (padded.length - places) ++ '.' :: padded.drop (padded.length - places)

/-- The shortest text of a number. -/
def text : Binary64 → String
  | finite negative mantissa exponent =>
    let magnitude :=
      if mantissa = 0 then ['0']
      else
        match shortestDecimal? mantissa exponent with
        | some (factor, power) => positional factor power
        | none => ['0']
    String.ofList (if negative then '-' :: magnitude else magnitude)
  | infinite negative => if negative then "-inf" else "inf"
  | nan => "NaN"

end CronSchedule.Binary64
