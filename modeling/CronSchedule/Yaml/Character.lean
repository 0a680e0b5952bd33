/-!
# Characters of a YAML document

The kinds of characters that tell the parts of a document apart, and the places
in a text where a word ends.
-/

set_option autoImplicit false

namespace CronSchedule.Yaml

/-- Does the character end a line? -/
def isBreak (c : Char) : Bool := c = '\n' || c = '\r'

/-- Is the character a blank within a line? -/
def isBlank (c : Char) : Bool := c = ' ' || c = '\t'

/-- Is the character a mark of collections in brackets? -/
def isFlowMark (c : Char) : Bool :=
  c = ',' || c = '[' || c = ']' || c = '\x7b' || c = '\x7d'

/-- Is the character one of a name: an ASCII letter, a digit, an underscore or a hyphen? -/
def isNameCharacter (c : Char) : Bool := c.isAlphanum || c = '_' || c = '-'

/-- Does a line end where the text starts? -/
def atLineEnd : List Char → Bool
  | [] => true
  | c :: _ => isBreak c

/-- Does a word end where the text starts? -/
def atWordEnd : List Char → Bool
  | [] => true
  | c :: _ => isBlank c || isBreak c

/-- Does the text start with three times the given character as a word? -/
def startsWithThree (mark : Char) : List Char → Bool
  | a :: b :: c :: rest => a = mark && b = mark && c = mark && atWordEnd rest
  | _ => false

/-- Does the text start, at the given column, with a mark between documents? -/
def atDocumentMark (column : Nat) (text : List Char) : Bool :=
  column = 0 && (startsWithThree '-' text || startsWithThree '.' text)

/-- What stands after the blanks and the comment that may follow a token on its line. A comment is
set off by a blank. -/
def afterBlanks? (text : List Char) : Option (List Char) :=
  match text.dropWhile isBlank with
  | '#' :: rest =>
    if text.head?.any isBlank then some (rest.dropWhile fun c => !isBreak c) else none
  | rest => some rest

end CronSchedule.Yaml
