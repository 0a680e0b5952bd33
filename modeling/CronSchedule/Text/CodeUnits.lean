import CronSchedule.Text.Hexadecimal

/-!
# Texts in code units

Some notations escape a character beyond the first 65536 as two code units, a
pair of surrogates. `ofCodeUnits?` puts such pairs together; a code point beyond
the surrogates stands for its character.
-/

set_option autoImplicit false

namespace CronSchedule.Text

/-- Is the number a surrogate? -/
def isSurrogate (unit : Nat) : Bool := 0xD800 ≤ unit && unit < 0xE000

/-- The text of which the numbers are the code units or the code points; `lead` is a surrogate
that waits for its partner. -/
def joinCodeUnits? (lead : Option Nat) : List Nat → Option (List Char)
  | [] => if lead.isNone then some [] else none
  | unit :: rest =>
    match lead with
    | some first => do
      let c ← surrogatePair? first unit
      return c :: (← joinCodeUnits? none rest)
    | none =>
      if isSurrogate unit then joinCodeUnits? (some unit) rest
      else do
        let c ← character? unit
        return c :: (← joinCodeUnits? none rest)

/-- The text of which the numbers are the code units or the code points. -/
def ofCodeUnits? (units : List Nat) : Option (List Char) := joinCodeUnits? none units

end CronSchedule.Text
