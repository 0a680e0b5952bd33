/-!
# Hexadecimal digits

The numbers that hexadecimal digits write, and the characters with those numbers
as code points.
-/

set_option autoImplicit false

namespace CronSchedule.Text

/-- Value of a hexadecimal digit in either letter case. -/
def hexadecimalDigit? (c : Char) : Option Nat :=
  if c.isDigit then some (c.toNat - '0'.toNat)
  else if 'a' ≤ c.toLower ∧ c.toLower ≤ 'f' then some (c.toLower.toNat - 'a'.toNat + 10)
  else none

/-- The number that a nonempty run of hexadecimal digits writes. -/
def hexadecimal? (digits : List Char) : Option Nat :=
  if digits.isEmpty then none
  else
    digits.foldl
      (fun number c => number.bind fun n => (hexadecimalDigit? c).map fun digit => 16 * n + digit)
      (some 0)

/-- The character with the given code point; surrogates are no characters. -/
def character? (point : Nat) : Option Char :=
  if point < 0xD800 ∨ 0xDFFF < point ∧ point < 0x110000 then some (Char.ofNat point) else none

/-- The character whose code point hexadecimal digits write. -/
def codePoint? (digits : List Char) : Option Char := (hexadecimal? digits).bind character?

/-- The character that a pair of surrogates stands for. -/
def surrogatePair? (lead trail : Nat) : Option Char :=
  if 0xD800 ≤ lead ∧ lead < 0xDC00 ∧ 0xDC00 ≤ trail ∧ trail < 0xE000 then
    character? (0x10000 + 0x400 * (lead - 0xD800) + (trail - 0xDC00))
  else none

end CronSchedule.Text
