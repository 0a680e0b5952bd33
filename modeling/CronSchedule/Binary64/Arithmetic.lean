import CronSchedule.Binary64.Basic

/-!
# Products and quotients

The product and the quotient of two finite numbers, rounded to the nearest
number.
-/

set_option autoImplicit false

namespace CronSchedule.Binary64

/-- The magnitude of a finite number as a fraction. -/
def fraction (mantissa : Nat) (exponent : Int) : Nat × Nat :=
  (mantissa * Nat.pow 2 exponent.toNat, Nat.pow 2 (-exponent).toNat)

/-- The product of two finite numbers; what is not finite has no product here. -/
def product : Binary64 → Binary64 → Binary64
  | finite negative m e, finite negative' m' e' =>
    let (a, b) := fraction m e
    let (c, d) := fraction m' e'
    nearest (negative != negative') (a * c) (b * d)
  | _, _ => nan

/-- The quotient of two finite numbers; there is none by zero. -/
def quotient : Binary64 → Binary64 → Binary64
  | finite negative m e, finite negative' m' e' =>
    let (a, b) := fraction m e
    let (c, d) := fraction m' e'
    if m' = 0 then nan else nearest (negative != negative') (a * d) (b * c)
  | _, _ => nan

end CronSchedule.Binary64
