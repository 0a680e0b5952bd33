import CronSchedule.Text.Hexadecimal
import CronSchedule.Yaml.Character
import CronSchedule.Yaml.Gap

/-!
# Quoted scalars of a YAML document

Between single quotes a quote is written twice and nothing else is special.
Between double quotes a backslash starts an escape, and the end of a line after
one is left out.
-/

set_option autoImplicit false

namespace CronSchedule.Yaml

/-- The kinds of quotes. -/
inductive Quote where
  | single
  | double
  deriving DecidableEq

/-- The character of a quote. -/
def Quote.character : Quote → Char
  | .single => '\''
  | .double => '"'

/-- The smallest parts of a quoted scalar. -/
inductive QuotedPart where
  | character (c : Char)
  | blank (c : Char)
  | lineEnd
  | escapedLineEnd
  | closing

/-- The character that a single character after a backslash stands for. -/
def escaped? : Char → Option Char
  | '0' => some '\x00'
  | 'a' => some '\x07'
  | 'b' => some '\x08'
  | 't' | '\t' => some '\t'
  | 'n' => some '\n'
  | 'v' => some '\x0b'
  | 'f' => some '\x0c'
  | 'r' => some '\r'
  | 'e' => some '\x1b'
  | 'N' => some '\x85'
  | '_' => some '\xa0'
  | 'L' => some '\u2028'
  | 'P' => some '\u2029'
  | c => if c = ' ' || c = '"' || c = '/' || c = '\\' then some c else none

/-- The character whose code point is written, with what follows it. -/
def codePointPart? (digits rest : List Char) : Option (QuotedPart × List Char) :=
  (Text.codePoint? digits).map fun c => (.character c, rest)

/-- The part that starts with a backslash, and what follows it. -/
def escapedPart? : List Char → Option (QuotedPart × List Char)
  | 'x' :: a :: b :: rest => codePointPart? [a, b] rest
  | 'u' :: a :: b :: c :: d :: rest => codePointPart? [a, b, c, d] rest
  | 'U' :: a :: b :: c :: d :: e :: f :: g :: h :: rest =>
    codePointPart? [a, b, c, d, e, f, g, h] rest
  | '\r' :: '\n' :: rest => some (.escapedLineEnd, rest)
  | c :: rest =>
    if isBreak c then some (.escapedLineEnd, rest)
    else (escaped? c).map fun c => (.character c, rest)
  | [] => none

/-- The first part of the text of a quoted scalar, and what follows it. -/
def quotedPart? (quote : Quote) : List Char → Option (QuotedPart × List Char)
  | [] => none
  | '\r' :: '\n' :: rest => some (.lineEnd, rest)
  | '\'' :: '\'' :: rest =>
    match quote with
    | .single => some (.character '\'', rest)
    | .double => some (.character '\'', '\'' :: rest)
  | '\\' :: rest =>
    match quote with
    | .single => some (.character '\\', rest)
    | .double => escapedPart? rest
  | c :: rest =>
    if isBreak c then some (.lineEnd, rest)
    else if isBlank c then some (.blank c, rest)
    else if c = quote.character then some (.closing, rest)
    else some (.character c, rest)

/-- The content of a quoted scalar from a place at the given column and after the given gap, and
what follows its closing quote. Its lines are indented as far as the blocks around it are. Each
part takes one of the `fuel`, so the length of the text and one more is enough. -/
def quotedContent? (quote : Quote) (indent : Nat) :
    Nat → Nat → Gap → List Char → Option (List Char × List Char)
  | 0, _, _, _ => none
  | fuel + 1, column, gap, text => do
    let (part, rest) ← quotedPart? quote text
    match part with
    | .blank c =>
      if gap.isBroken && c = '\t' && column < indent then none
      else quotedContent? quote indent fuel (column + 1) (gap.blank c) rest
    | .lineEnd => quotedContent? quote indent fuel 0 gap.lineEnd rest
    | .closing =>
      if column < indent || atDocumentMark column text then none else some (gap.text, rest)
    | .escapedLineEnd =>
      if column < indent || atDocumentMark column text then none
      else do
        let (content, rest) ← quotedContent? quote indent fuel 0 .afterEscape rest
        return (gap.text ++ content, rest)
    | .character c =>
      if column < indent || atDocumentMark column text then none
      else do
        let (content, rest) ← quotedContent? quote indent fuel (column + 1) .empty rest
        return (gap.text ++ c :: content, rest)

/-- The content of the quoted scalar after an opening quote at the given column, and what follows
it. -/
def quoted? (quote : Quote) (indent column : Nat) (text : List Char) :
    Option (String × List Char) :=
  (quotedContent? quote indent (text.length + 1) (column + 1) .empty text).map
    fun (content, rest) => (String.ofList content, rest)

end CronSchedule.Yaml
