/-!
# Sets of code points

Properties of characters are tables of inclusive ranges of code points in
ascending order; a character has the property when a range holds its code point.
-/

set_option autoImplicit false

namespace CronSchedule.Text

/-- Inclusive ranges of code points. -/
abbrev CodePoints : Type := List (Nat × Nat)

/-- Does a range of the table hold the character? -/
def CodePoints.has (ranges : CodePoints) (c : Char) : Bool :=
  ranges.any fun range => range.1 ≤ c.toNat && c.toNat ≤ range.2

end CronSchedule.Text
