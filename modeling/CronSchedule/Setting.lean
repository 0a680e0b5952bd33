import CronSchedule.Binary64.Reading
import CronSchedule.Binary64.Shortest
import CronSchedule.Numeral

/-!
# Settings

A setting is a value under a key, as a file or the environment gives it. An
option that is a number or a text takes settings of several kinds, which are
converted to what the option is. What is inside a list or a table is not kept,
since no option takes it.
-/

set_option autoImplicit false

namespace CronSchedule

/-- A value under a key of a file or of the environment. -/
inductive Setting where
  | text (text : String)
  | integer (value : Int)
  | float (value : Binary64)
  | boolean (value : Bool)
  /-- The statement that there is no value. -/
  | null
  /-- A list or a table, which no option takes. -/
  | compound
  deriving DecidableEq

/-! ## Letter case -/

/-- The small form of a letter if that is an ASCII letter; besides the capitals this is so of the
Kelvin sign. -/
def smallLetter (c : Char) : Char := if c = '\u212a' then 'k' else c.toLower

/-- A text with the letters in their small form, as far as that is ASCII. -/
def smallLetters (text : String) : List Char := text.toList.map smallLetter

namespace Setting

/-! ## The environment -/

/-- The setting that a value of the environment is: a truth value in any letter case, an integer
of 64 bits or a floating point number where it reads as one, and a text otherwise. -/
def ofEnvironment (value : String) : Setting :=
  if smallLetters value = "true".toList then boolean true
  else if smallLetters value = "false".toList then boolean false
  else
    match Numeral.signed? 64 value.toList, Binary64.read? value.toList with
    | some n, _ => integer n
    | none, some x => float x
    | none, none => text value

/-! ## Conversions -/

/-- The words that are read as one or as zero where a number is asked for, in any letter case. -/
def switchWord? (word : String) : Option Int :=
  let small := smallLetters word
  if small = "true".toList ∨ small = "on".toList ∨ small = "yes".toList then some 1
  else if small = "false".toList ∨ small = "off".toList ∨ small = "no".toList then some 0
  else none

/-- The integer of so many bits that a setting gives. A fraction is rounded, and a truth value is
one or zero. -/
def toInteger? (bits : Nat) (setting : Setting) : Option Int :=
  let value := match setting with
    | integer value => some value
    | float value => some value.toInteger
    | boolean value => some (if value then 1 else 0)
    | text word => (switchWord? word).or (Numeral.signed? 64 word.toList)
    | null | compound => none
  value.filter (Numeral.fits bits)

/-- The text that a setting gives. -/
def toText? : Setting → Option String
  | text content => some content
  | integer value => some (toString value)
  | float value => some value.text
  | boolean value => some (if value then "true" else "false")
  | null | compound => none

end Setting

end CronSchedule
