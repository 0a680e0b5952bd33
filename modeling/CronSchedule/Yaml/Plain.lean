import CronSchedule.Yaml.Character
import CronSchedule.Yaml.Gap

/-!
# Plain scalars of a YAML document

A scalar without quotes goes on up to a comment, a colon that ends a key, a mark
of the collection in brackets around it or a line that is not indented.
-/

set_option autoImplicit false

namespace CronSchedule.Yaml

/-- Can the text go on a plain scalar within brackets or outside? -/
def continuesPlain (inFlow : Bool) : List Char → Bool
  | [] => false
  | ':' :: rest => !(atWordEnd rest || inFlow && rest.head?.any isFlowMark)
  | c :: _ => !(inFlow && isFlowMark c)

/-- Does a hyphen stand before a mark of a collection? -/
def atHyphenBeforeMark : List Char → Bool
  | '-' :: c :: _ => isFlowMark c
  | _ => false

/-- Where a place in a plain scalar lies. -/
inductive PlainPlace where
  | word
  /-- Between two words; was there a tab where the line has to be indented? -/
  | gap (gap : Gap) (tabbed : Bool)

/-- The content of a plain scalar from a place at the given column on, and what follows the blanks
and line ends after it. Outside of brackets its lines start at the column `indent` or further
right, and blanks before that column are spaces. -/
def plainContent? (inFlow : Bool) (indent : Nat) (column : Nat) (place : PlainPlace) :
    List Char → Option (List Char × List Char)
  | [] => some ([], [])
  | '\r' :: '\n' :: rest =>
    match place with
    | .word => plainContent? inFlow indent 0 (.gap (Gap.empty.lineEnd) false) rest
    | .gap gap _ => plainContent? inFlow indent 0 (.gap gap.lineEnd false) rest
  | c :: rest =>
    if isBreak c then
      match place with
      | .word => plainContent? inFlow indent 0 (.gap (Gap.empty.lineEnd) false) rest
      | .gap gap _ => plainContent? inFlow indent 0 (.gap gap.lineEnd false) rest
    else if isBlank c then
      match place with
      | .word => plainContent? inFlow indent (column + 1) (.gap (Gap.empty.blank c) false) rest
      | .gap gap tabbed =>
        let tabbed := tabbed || gap.isBroken && c = '\t' && column < indent
        plainContent? inFlow indent (column + 1) (.gap (gap.blank c) tabbed) rest
    else
      match place with
      | .word =>
        if continuesPlain inFlow (c :: rest) then do
          let (content, rest) ← plainContent? inFlow indent (column + 1) .word rest
          return (c :: content, rest)
        else some ([], c :: rest)
      | .gap gap tabbed =>
        if c = '#' then some ([], c :: rest)
        else if tabbed then none
        else if !inFlow && column < indent || atDocumentMark column (c :: rest) then
          some ([], c :: rest)
        else if inFlow && atHyphenBeforeMark (c :: rest) then none
        else if continuesPlain inFlow (c :: rest) then do
          let (content, rest) ← plainContent? inFlow indent (column + 1) .word rest
          return (gap.text ++ c :: content, rest)
        else some ([], c :: rest)

/-- The plain scalar at the start of a text, at the given column, and what follows it. -/
def plain? (inFlow : Bool) (indent column : Nat) (text : List Char) :
    Option (String × List Char) :=
  if inFlow && (column < indent || atHyphenBeforeMark text) then none
  else
    (plainContent? inFlow indent column .word text).map fun (content, rest) =>
      (String.ofList content, rest)

end CronSchedule.Yaml
