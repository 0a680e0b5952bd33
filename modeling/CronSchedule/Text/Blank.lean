import CronSchedule.Text.CodePoints

/-!
# Blank characters and the words between them

A blank is a character with the Unicode property White_Space. A text is read as
its words, the longest runs of other characters; how many blanks stand between
two words, and which, makes no difference.
-/

set_option autoImplicit false

namespace CronSchedule.Text

/-- The code points with the property White_Space. -/
def blankPoints : CodePoints :=
  [(0x0009, 0x000D), (0x0020, 0x0020), (0x0085, 0x0085), (0x00A0, 0x00A0), (0x1680, 0x1680),
   (0x2000, 0x200A), (0x2028, 0x2029), (0x202F, 0x202F), (0x205F, 0x205F), (0x3000, 0x3000)]

/-- Is the character a blank? -/
def isBlank (c : Char) : Bool := blankPoints.has c

/-- The words of a text when `word` is the part read so far of the word at its start. -/
def wordsFrom (word : List Char) : List Char → List (List Char)
  | [] => if word.isEmpty then [] else [word]
  | c :: rest =>
    if isBlank c then
      if word.isEmpty then wordsFrom [] rest else word :: wordsFrom [] rest
    else wordsFrom (word ++ [c]) rest

/-- The words of a text: its longest runs of characters that are no blanks, in order. -/
def words (text : List Char) : List (List Char) := wordsFrom [] text

end CronSchedule.Text
