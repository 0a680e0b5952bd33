import CronSchedule.Numeral
import CronSchedule.Text.Separated

/-!
# Paths in the keys of settings

The key of a setting is a name as a rule. A key such as `clock.zone` or
`zones[0]` is a path: it makes a table or a list of what stands under its first
name. A key that is neither stands for itself.
-/

set_option autoImplicit false

namespace CronSchedule.KeyPath

/-- Can the character stand in a name? -/
def isNameCharacter (c : Char) : Bool := c.isAlphanum || c = '_' || c = '-'

/-- Is the text a name? -/
def isName (text : List Char) : Bool := !text.isEmpty && text.all isNameCharacter

/-- Is the character a space or a tab? -/
def isSpace (c : Char) : Bool := c = ' ' || c = '\t'

/-- The text without the spaces and tabs at both ends. -/
def trimmed (text : List Char) : List Char :=
  ((text.dropWhile isSpace).reverse.dropWhile isSpace).reverse

/-- Is the text what stands after the opening bracket of a place in a list: an integer of 64 bits
without a plus sign, and the closing bracket? -/
def isPlace (text : List Char) : Bool :=
  let position := trimmed text.dropLast
  text.getLast? = some ']' && position.head? ≠ some '+' && (Numeral.signed? 64 position).isSome

/-- Is the text one part of a path, a name and the places in lists after it? -/
def isPart (text : List Char) : Bool :=
  match Text.splitAt '[' text with
  | name :: places => isName name && places.all isPlace
  | [] => false

/-- The first name of a key that is a path and not just that name. -/
def container? (key : List Char) : Option (List Char) :=
  let name := key.takeWhile isNameCharacter
  if (Text.splitAt '.' key).all isPart && name.length < key.length then some name else none

end CronSchedule.KeyPath
