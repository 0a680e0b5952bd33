import CronSchedule.Yaml.Character

/-!
# Places in a YAML document

The indentation of a line, and whether a text may be a key, hang on the line and
the column of a place. A cursor holds these beside the text that is still ahead.
-/

set_option autoImplicit false

namespace CronSchedule.Yaml

/-- A place in a document. -/
structure Cursor where
  /-- The text from this place on. -/
  rest : List Char
  /-- Number of characters before this place. -/
  index : Nat
  /-- Number of lines before the one of this place. -/
  line : Nat
  /-- Number of characters before this place on its line. -/
  column : Nat
  /-- Do only blanks stand before this place on its line? -/
  indenting : Bool

namespace Cursor

/-- The start of a document. -/
def start (text : List Char) : Cursor := ⟨text, 0, 0, 0, true⟩

/-- The place one character on. A carriage return with a line feed is one line end. -/
def next (cursor : Cursor) : Cursor :=
  match cursor.rest with
  | [] => cursor
  | c :: rest =>
    if c = '\n' || c = '\r' && rest.head? ≠ some '\n' then
      ⟨rest, cursor.index + 1, cursor.line + 1, 0, true⟩
    else
      ⟨rest, cursor.index + 1, cursor.line, cursor.column + 1,
        cursor.indenting && isBlank c⟩

/-- The place so many characters on. -/
def skip : Nat → Cursor → Cursor
  | 0, cursor => cursor
  | n + 1, cursor => skip n cursor.next

/-- The place where only the given end of the text is ahead. -/
def skipTo (cursor : Cursor) (rest : List Char) : Cursor :=
  cursor.skip (cursor.rest.length - rest.length)

end Cursor

/-! ## Between the tokens -/

/-- Where a place between two tokens lies. -/
inductive Margin where
  /-- Before the first token of a line; is there a tab that cannot be indentation? -/
  | indentation (tabbed : Bool)
  /-- After a token of the same line. -/
  | line
  | comment

/-- What stands after blanks, line ends and comments, and whether there was a line end. A line
with a token on it is indented with spaces as far as the blocks around it are. -/
def afterFiller? (indent : Nat) (margin : Margin) (column : Nat) (broken : Bool) :
    List Char → Option (List Char × Bool)
  | [] => some ([], broken)
  | c :: rest =>
    if isBreak c then afterFiller? indent (.indentation false) 0 true rest
    else
      match margin with
      | .comment => afterFiller? indent .comment (column + 1) broken rest
      | .line =>
        if c = '#' then afterFiller? indent .comment (column + 1) broken rest
        else if isBlank c then afterFiller? indent .line (column + 1) broken rest
        else some (c :: rest, broken)
      | .indentation tabbed =>
        if c = '#' then afterFiller? indent .comment (column + 1) broken rest
        else if isBlank c then
          let tabbed := tabbed || c = '\t' && column < indent
          afterFiller? indent (.indentation tabbed) (column + 1) broken rest
        else if tabbed then none
        else some (c :: rest, broken)

end CronSchedule.Yaml
