import CronSchedule.Yaml.Character
import CronSchedule.Text.Hexadecimal

/-!
# Tokens of a YAML document

A document is a sequence of marks, names and scalars. The blocks that
indentation forms have marks of their own, which no character stands for.
-/

set_option autoImplicit false

namespace CronSchedule.Yaml

/-- The kind of a value, as it is written before one. -/
structure Tag where
  /-- The name of the kinds among which this one is, with marks around it. -/
  handle : String
  suffix : String
  deriving DecidableEq

/-- What a line in front of a document says. -/
inductive Directive where
  /-- The version of the format. -/
  | version
  /-- What the handle of a tag stands for. -/
  | handle (handle meaning : String)
  /-- Something that has no meaning here. -/
  | other

/-- The tokens. -/
inductive Token where
  | directive (directive : Directive)
  | documentStart
  | documentEnd
  | blockSequenceStart
  | blockMappingStart
  /-- The end of a block sequence or a block mapping. -/
  | blockEnd
  | flowSequenceStart
  | flowSequenceEnd
  | flowMappingStart
  | flowMappingEnd
  /-- The hyphen before an item of a block sequence. -/
  | blockEntry
  /-- The comma between two entries of a collection in brackets. -/
  | flowEntry
  | key
  | value
  /-- A name for the next value. -/
  | anchor (name : String)
  /-- The value with a name. -/
  | reference (name : String)
  | tag (tag : Tag)
  | scalar (plain : Bool) (content : String)

/-! ## Names -/

/-- Can the character stand in the name of a value? -/
def isAnchorCharacter (c : Char) : Bool :=
  !isBreak c && !isBlank c && !isFlowMark c && c ≠ '\uFEFF'

/-- The name of a value at the start of a text, and what follows it. -/
def anchorName? (text : List Char) : Option (String × List Char) :=
  let name := text.takeWhile isAnchorCharacter
  if name.isEmpty then none else some (String.ofList name, text.drop name.length)

/-! ## Tags -/

/-- Can the character stand in a tag? -/
def isTagCharacter (c : Char) : Bool :=
  c.isAlphanum || "-#;/?:@&=+$,_.!~*'()[]%".toList.contains c

/-- Can the character stand in the suffix of a tag? -/
def isSuffixCharacter (c : Char) : Bool := isTagCharacter c && !isFlowMark c && c ≠ '!'

/-- The characters of a tag with the escaped ones in place. -/
def unescaped? : List Char → Option (List Char)
  | '%' :: a :: b :: rest => do
    let c ← (Text.codePoint? [a, b]).filter (·.toNat < 0x80)
    return c :: (← unescaped? rest)
  | c :: rest => if c = '%' then none else (unescaped? rest).map (c :: ·)
  | [] => some []

/-- The longest part of a text of the given characters, with the escaped ones in place, and what
follows it. -/
def tagText? (allowed : Char → Bool) (text : List Char) : Option (String × List Char) :=
  let written := text.takeWhile allowed
  (unescaped? written).map fun content => (String.ofList content, text.drop written.length)

/-- The tag after an exclamation mark, and what follows it. A tag is written whole between angle
brackets, or after a handle between exclamation marks, or after the single mark. -/
def tagParts? : List Char → Option (Tag × List Char)
  | '<' :: rest => do
    match ← tagText? isTagCharacter rest with
    | (suffix, '>' :: rest) => return (⟨"", suffix⟩, rest)
    | _ => none
  | text => do
    let name := text.takeWhile isNameCharacter
    match text.drop name.length with
    | '!' :: rest => do
      let (suffix, rest) ← tagText? isSuffixCharacter rest
      if suffix.isEmpty then none
      else return (⟨String.ofList ('!' :: name ++ ['!']), suffix⟩, rest)
    | _ => do
      let (suffix, rest) ← tagText? isSuffixCharacter text
      return (if suffix.isEmpty then ⟨"", "!"⟩ else ⟨"!", suffix⟩, rest)

/-- The tag after an exclamation mark, and what follows it as a word of its own. -/
def tag? (inFlow : Bool) (text : List Char) : Option (Tag × List Char) := do
  let (tag, rest) ← tagParts? text
  if atWordEnd rest || inFlow && rest.head? = some ',' then return (tag, rest) else none

/-! ## Directives -/

/-- The number of a version at the start of a text is left out; it has one to nine digits. -/
def afterVersionNumber? (text : List Char) : Option (List Char) :=
  let digits := text.takeWhile Char.isDigit
  if digits.isEmpty || 9 < digits.length then none else some (text.drop digits.length)

/-- What follows the two numbers of a version. -/
def afterVersion? (text : List Char) : Option (List Char) := do
  match ← afterVersionNumber? text with
  | '.' :: rest => afterVersionNumber? rest
  | _ => none

/-- The handle of tags at the start of a text, and what follows it. -/
def tagHandle? : List Char → Option (String × List Char)
  | '!' :: text =>
    let name := text.takeWhile isNameCharacter
    match text.drop name.length with
    | '!' :: rest => some (String.ofList ('!' :: name ++ ['!']), rest)
    | rest => if name.isEmpty then some ("!", rest) else none
  | _ => none

/-- What a handle of tags stands for, and what follows that as a word of its own. -/
def tagMeaning? (text : List Char) : Option (String × List Char) := do
  let starts := text.head?.any fun c => c = '!' || isSuffixCharacter c
  let (meaning, rest) ← tagText? isTagCharacter text
  if starts && atWordEnd rest then return (meaning, rest) else none

/-- The directive after a percent sign, and what follows it. -/
def directiveBody? (text : List Char) : Option (Directive × List Char) := do
  let name := text.takeWhile isNameCharacter
  let rest := text.drop name.length
  let body := rest.dropWhile isBlank
  if name.isEmpty || !atWordEnd rest then none
  else if name = "YAML".toList then return (.version, ← afterVersion? body)
  else if name = "TAG".toList then do
    let (handle, rest) ← tagHandle? body
    let (meaning, rest) ← tagMeaning? (rest.dropWhile isBlank)
    return (.handle handle meaning, rest)
  else return (.other, rest.dropWhile fun c => !isBreak c)

/-- The directive after a percent sign, and what follows it, which is the end of its line. -/
def directive? (text : List Char) : Option (Directive × List Char) := do
  let (directive, rest) ← directiveBody? text
  let rest ← afterBlanks? rest
  if atLineEnd rest then return (directive, rest) else none

end CronSchedule.Yaml
