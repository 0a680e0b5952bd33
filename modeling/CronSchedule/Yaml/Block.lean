import CronSchedule.Yaml.Character

/-!
# Block scalars of a YAML document

A block scalar is the indented lines after a mark: as they stand after a bar,
and with single line ends as spaces after an angle bracket. The mark may tell
the indentation, and what becomes of the line ends after the last line.
-/

set_option autoImplicit false

namespace CronSchedule.Yaml

/-! ## The mark -/

/-- What becomes of the line ends at the end of a block scalar. -/
inductive Chomping where
  | strip
  /-- One is kept. -/
  | clip
  | keep
  deriving DecidableEq

/-- What the mark of a block scalar tells. -/
structure BlockStyle where
  folded : Bool
  chomping : Chomping
  /-- Indentation beyond that of the block around, if it is told. -/
  increment : Option Nat

/-- The chomping with the given sign. -/
def chomping? : Char → Option Chomping
  | '+' => some .keep
  | '-' => some .strip
  | _ => none

/-- The indentation with the given digit; zero is no indentation. -/
def increment? (c : Char) : Option Nat :=
  if c.isDigit && c ≠ '0' then some (c.toNat - '0'.toNat) else none

/-- The style that stands after the mark of a block scalar, and what follows it: a sign and a digit
in either order, or one of them, or neither. -/
def blockStyle (folded : Bool) : List Char → BlockStyle × List Char
  | [] => (⟨folded, .clip, none⟩, [])
  | c :: rest =>
    match chomping? c, increment? c with
    | some chomping, _ =>
      match rest.head?.bind increment? with
      | some n => (⟨folded, chomping, some n⟩, rest.tail)
      | none => (⟨folded, chomping, none⟩, rest)
    | none, some n =>
      match rest.head?.bind chomping? with
      | some chomping => (⟨folded, chomping, some n⟩, rest.tail)
      | none => (⟨folded, .clip, some n⟩, rest)
    | none, none => (⟨folded, .clip, none⟩, c :: rest)

/-! ## Lines -/

/-- The lines of a text. What stands after the last line end is a line too, if it is empty. -/
def lines : List Char → List (List Char)
  | [] => [[]]
  | '\r' :: '\n' :: rest => [] :: lines rest
  | c :: rest =>
    if isBreak c then [] :: lines rest
    else
      match lines rest with
      | [] => [[c]]
      | line :: lines => (c :: line) :: lines

/-- The text without so many of its first lines. -/
def dropLines : Nat → List Char → List Char
  | 0, text => text
  | _ + 1, [] => []
  | n + 1, '\r' :: '\n' :: rest => dropLines n rest
  | n + 1, c :: rest => if isBreak c then dropLines n rest else dropLines (n + 1) rest

/-- Number of spaces at the start of a line. -/
def indentation (line : List Char) : Nat := (line.takeWhile (· = ' ')).length

/-- Does a line hold nothing but spaces? -/
def isSpaces (line : List Char) : Bool := line.all (· = ' ')

/-- Does a line with the given indentation of the scalar add no more to it than a line end? -/
def isEmptyLine (indent : Nat) (line : List Char) : Bool :=
  isSpaces line && line.length ≤ indent

/-- The indentation of a scalar with the given lines, which is `least` at the least. If it is not
told, that is the widest up to the first line with more than spaces. -/
def BlockStyle.indent (style : BlockStyle) (least : Nat) (lines : List (List Char)) : Nat :=
  match style.increment with
  | some n => least - 1 + n
  | none =>
    let first := lines.takeWhile isSpaces ++ (lines.dropWhile isSpaces).take 1
    first.foldl (fun widest line => max widest (indentation line)) least

/-! ## Content -/

/-- So many line ends. -/
def lineEnds (n : Nat) : List Char := List.replicate n '\n'

/-- The content of a block scalar from one of its lines on. Before these lines stand so many empty
ones, and before those a line that starts with a blank or not, if they are not the first. -/
def blockContent (style : BlockStyle) (indent : Nat) (afterBlankStart : Option Bool)
    (empties : Nat) : List (List Char) → List Char
  | [] =>
    match style.chomping, afterBlankStart with
    | .strip, _ => []
    | .clip, none => []
    | .clip, some _ => lineEnds 1
    | .keep, none => lineEnds empties
    | .keep, some _ => lineEnds (empties + 1)
  | line :: lines =>
    if isEmptyLine indent line then
      blockContent style indent afterBlankStart (empties + 1) lines
    else
      let content := line.drop indent
      let startsBlank := content.head?.any isBlank
      let gap := match afterBlankStart with
        | none => lineEnds empties
        | some afterBlank =>
          if !style.folded || afterBlank || startsBlank then lineEnds (empties + 1)
          else if empties = 0 then [' ']
          else lineEnds empties
      gap ++ content ++ blockContent style indent (some startsBlank) 0 lines

/-- The content of a block scalar that has nothing but so many empty lines, at the end of the
text. -/
def emptyContent (chomping : Chomping) (empties : Nat) : List Char :=
  match chomping with
  | .strip => []
  | .clip => lineEnds 1
  | .keep => lineEnds (max 1 empties)

/-- The content of a block scalar up to the end of the text. Spaces after the last line end are no
line, but count as a line end if they are as many as the indentation. -/
def lastContent (style : BlockStyle) (indent : Nat) (lines : List (List Char)) : List Char :=
  let last := lines.getLastD []
  if isEmptyLine indent last then
    let counts := style.chomping ≠ .strip && 0 < indent && last.length = indent
    blockContent style indent none 0 lines.dropLast ++ if counts then lineEnds 1 else []
  else blockContent style indent none 0 lines

/-- The block scalar after its mark, and what follows its last line. Within other blocks it is
indented by `least` at the least. -/
def block? (folded : Bool) (least : Nat) (text : List Char) : Option (String × List Char) := do
  let (style, rest) := blockStyle folded text
  match ← afterBlanks? rest with
  | [] => return ("", [])
  | c :: rest =>
    let rest := dropLines 1 (c :: rest)
    if !isBreak c || rest.head? = some '\t' then none
    else
      let all := lines rest
      let indent := style.indent least all
      match all.dropWhile (isEmptyLine indent) with
      | [] => return (String.ofList (emptyContent style.chomping (all.length - 1)), [])
      | first :: _ =>
        let body := all.takeWhile fun line => isEmptyLine indent line || indent ≤ indentation line
        if least ≤ indentation first && indentation first < indent then none
        else if body.length = all.length then
          return (String.ofList (lastContent style indent body), [])
        else
          return (String.ofList (blockContent style indent none 0 body),
            dropLines body.length rest)

end CronSchedule.Yaml
