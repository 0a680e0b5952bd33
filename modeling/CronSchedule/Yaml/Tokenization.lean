import CronSchedule.Yaml.Block
import CronSchedule.Yaml.Cursor
import CronSchedule.Yaml.Plain
import CronSchedule.Yaml.Quoted
import CronSchedule.Yaml.Token

/-!
# Tokens from the text of a YAML document

The text is read token by token. That a token is a key shows only at the colon
after it, so the place of the latest possible key is kept, and the mark of a key
is put there later; so is the start of a mapping. The columns of the blocks
around a place are kept as well, innermost first: a token to the left of a block
ends that.
-/

set_option autoImplicit false

namespace CronSchedule.Yaml

/-- A token that is a key if a colon follows it. -/
structure PossibleKey where
  /-- Number of tokens before it. -/
  number : Nat
  index : Nat
  line : Nat
  column : Nat
  /-- Is it the first token of an entry of a block, so that it can be nothing else? -/
  required : Bool

/-- The indentation of a block, or of what stands in an entry of a block. -/
structure Indentation where
  column : Nat
  /-- Is it that of a block, with tokens where it starts and ends? -/
  isBlock : Bool

/-- A collection in brackets around a place. -/
structure Flow where
  isSequence : Bool
  /-- The possible key that the collection starts. -/
  outerKey : Option PossibleKey

/-- How far a text has been read. -/
structure Tokenization where
  cursor : Cursor
  /-- The tokens so far, the latest first. -/
  tokens : List Token
  possibleKey : Option PossibleKey
  /-- Can a key or an entry of a block start here? -/
  keyAllowed : Bool
  /-- The indentations around, innermost first. -/
  indentations : List Indentation
  /-- The collections in brackets around, innermost first. -/
  flows : List Flow
  /-- Where a colon after a key needs no blank after it. -/
  adjacentIndex : Nat

namespace Tokenization

/-- The start of a text. -/
def start (text : List Char) : Tokenization := ⟨.start text, [], none, true, [], [], 0⟩

/-! ## Tokens -/

/-- Is the place within brackets? -/
def inFlow (state : Tokenization) : Bool := !state.flows.isEmpty

/-- A token is added. -/
def push (state : Tokenization) (token : Token) : Tokenization :=
  { state with tokens := token :: state.tokens }

/-- A token is put after so many tokens. -/
def insert (state : Tokenization) (number : Nat) (token : Token) : Tokenization :=
  let later := state.tokens.take (state.tokens.length - number)
  { state with tokens := later ++ token :: state.tokens.drop later.length }

/-- The place moves so many characters on. -/
def skip (state : Tokenization) (n : Nat) : Tokenization :=
  { state with cursor := state.cursor.skip n }

/-- The place moves on to where only the given end of the text is ahead. -/
def skipTo (state : Tokenization) (rest : List Char) : Tokenization :=
  { state with cursor := state.cursor.skipTo rest }

/-- The place moves on to where a token or the end of the line is. -/
def skipBlanks? (state : Tokenization) : Option Tokenization :=
  (afterBlanks? state.cursor.rest).map state.skipTo

/-! ## Indentation -/

/-- The column of the innermost block, or zero outside of blocks. -/
def indent (state : Tokenization) : Nat := (state.indentations.head?.map (·.column)).getD 0

/-- The leftmost column within the innermost block. -/
def innerIndent (state : Tokenization) : Nat :=
  (state.indentations.head?.map (·.column + 1)).getD 0

/-- Indentations end if they satisfy a condition, from the innermost on. -/
def unindentWhile (state : Tokenization) (ends : Indentation → Bool) : Tokenization :=
  if state.inFlow then state
  else
    let blocks := (state.indentations.takeWhile ends).countP (·.isBlock)
    { state with
      tokens := List.replicate blocks .blockEnd ++ state.tokens
      indentations := state.indentations.dropWhile ends }

/-- The indentations to the right of a column end. -/
def unindentTo (state : Tokenization) (column : Nat) : Tokenization :=
  state.unindentWhile fun indentation => column < indentation.column

/-- All indentations end. -/
def unindent (state : Tokenization) : Tokenization := state.unindentWhile fun _ => true

/-- The innermost indentation ends unless it is one of a block. -/
def unindentEntry (state : Tokenization) : Tokenization :=
  { state with indentations := state.indentations.dropWhile (!·.isBlock) }

/-- A block starts at a column, with the given token after so many others, if none is there. -/
def indentBlock (state : Tokenization) (column number : Nat) (token : Token) : Tokenization :=
  if state.inFlow then state
  else
    let outer := match state.indentations with
      | ⟨inner, false⟩ :: outer => if inner ≤ column then outer else ⟨inner, false⟩ :: outer
      | outer => outer
    if (outer.head?.map (·.column)).all (· < column) then
      { state with indentations := ⟨column, true⟩ :: outer }.insert number token
    else { state with indentations := outer }

/-- What follows in an entry of the innermost block is to the right of that. -/
def indentEntry (state : Tokenization) : Tokenization :=
  match state.indentations with
  | ⟨column, true⟩ :: outer =>
    if state.inFlow then state
    else { state with indentations := ⟨column + 1, false⟩ :: ⟨column, true⟩ :: outer }
  | _ => state

/-! ## Keys -/

/-- The next token is a possible key, if keys are allowed here. -/
def markKey (state : Tokenization) : Tokenization :=
  if state.keyAllowed then
    let required := !state.inFlow && state.indentations.head?.any fun indentation =>
      indentation.isBlock && indentation.column = state.cursor.column
    let cursor := state.cursor
    { state with
      possibleKey :=
        some ⟨state.tokens.length, cursor.index, cursor.line, cursor.column, required⟩ }
  else state

/-- The latest possible key is none. -/
def dropKey? (state : Tokenization) : Option Tokenization :=
  if state.possibleKey.any (·.required) then none else some { state with possibleKey := none }

/-- Largest number of characters from the start of a key outside of brackets to its colon. -/
def maxKeyLength : Nat := 1024

/-- The latest possible key is none if it is on another line or too far away. -/
def dropStaleKey? (state : Tokenization) : Option Tokenization :=
  match state.possibleKey with
  | some key =>
    if !state.inFlow &&
        (key.line < state.cursor.line || key.index + maxKeyLength < state.cursor.index) then
      state.dropKey?
    else some state
  | none => some state

/-- Are keys allowed from now on? -/
def allowKey (state : Tokenization) (allowed : Bool) : Tokenization :=
  { state with keyAllowed := allowed }

/-! ## Between tokens -/

/-- The place moves on to the next token. -/
def skipFiller? (state : Tokenization) : Option Tokenization := do
  let cursor := state.cursor
  let margin := if cursor.indenting then .indentation false else .line
  let (rest, broken) ← afterFiller? state.indent margin cursor.column false cursor.rest
  return (state.skipTo rest).allowKey (state.keyAllowed || broken && !state.inFlow)

/-! ## Documents -/

/-- A directive is read. -/
def directive? (state : Tokenization) : Option Tokenization := do
  let state ← state.unindent.dropKey?
  let (directive, rest) ← Yaml.directive? (state.cursor.rest.drop 1)
  return ((state.allowKey false).skipTo rest).push (.directive directive)

/-- A mark between documents is read. -/
def documentMark? (state : Tokenization) (mark : Token) : Option Tokenization := do
  let state ← state.unindent.dropKey?
  return ((state.allowKey false).skip 3).push mark

/-- The mark at the end of a document is read; nothing else stands on its line. -/
def documentEnd? (state : Tokenization) : Option Tokenization := do
  let state ← (← state.documentMark? .documentEnd).skipBlanks?
  if atLineEnd state.cursor.rest then return state else none

/-! ## Collections in brackets -/

/-- Largest number of brackets around a place. -/
def maxFlows : Nat := 255

/-- An opening bracket is read. -/
def flowStart? (state : Tokenization) (isSequence : Bool) : Option Tokenization := do
  let state := state.markKey.indentEntry
  if maxFlows ≤ state.flows.length then none
  else
    let state := { state with
      flows := ⟨isSequence, state.possibleKey⟩ :: state.flows
      possibleKey := none }
    let state ← ((state.allowKey true).skip 1).skipBlanks?
    return state.push (if isSequence then .flowSequenceStart else .flowMappingStart)

/-- A closing bracket is read. -/
def flowEnd? (state : Tokenization) (token : Token) : Option Tokenization := do
  let state ← state.dropKey?
  let state := match state.flows with
    | flow :: flows => { state with flows := flows, possibleKey := flow.outerKey }
    | [] => state
  let state ← ((state.allowKey false).skip 1).skipBlanks?
  let state := if state.inFlow then { state with adjacentIndex := state.cursor.index } else state
  return state.push token

/-- A comma within brackets is read. -/
def flowEntry? (state : Tokenization) : Option Tokenization := do
  let state ← ((← state.dropKey?).allowKey true |>.skip 1).skipBlanks?
  return state.push .flowEntry

/-! ## Blocks -/

/-- The hyphen before an item of a block sequence is read. -/
def blockEntry? (state : Tokenization) : Option Tokenization := do
  if state.inFlow || !state.keyAllowed then none
  else
    let column := state.cursor.column
    let after := state.cursor.rest.drop 1
    let state := (state.skip 1).indentBlock column state.tokens.length .blockSequenceStart
    let state ← state.skipBlanks?
    let rest := state.cursor.rest
    if (after.takeWhile isBlank).contains '\t' && rest.head? = some '-' && atWordEnd rest.tail then
      none
    else
      let state := if rest.head?.any fun c => isBreak c || isFlowMark c then state.indentEntry
        else state
      return ((← state.dropKey?).allowKey true).push .blockEntry

/-- The question mark before a key is read. -/
def key? (state : Tokenization) : Option Tokenization := do
  if !state.inFlow && !state.keyAllowed then none
  else
    let state := state.indentBlock state.cursor.column state.tokens.length .blockMappingStart
    let state := ((← state.dropKey?).allowKey !state.inFlow).skip 1
    let rest := state.cursor.rest
    if rest.isEmpty || (rest.dropWhile (· = ' ')).head? = some '\t' then none
    else return state.push .key

/-- Does a colon have only tabs between it and a word? -/
def atTabbedWord (text : List Char) : Bool :=
  text.head? = some '\t' && !(text.takeWhile isBlank).contains ' ' &&
    (text.dropWhile isBlank).head?.any isNameCharacter

/-- The colon before a value is read. A key in a sequence in brackets stands on its line. -/
def value? (state : Tokenization) : Option Tokenization := do
  let line := state.cursor.line
  let column := state.cursor.column
  let state := state.skip 1
  if atTabbedWord state.cursor.rest then none
  else
    match state.possibleKey with
    | some key =>
      if state.flows.head?.any (·.isSequence) && key.line < line then none
      else
        let state := state.insert key.number .key
        let state := state.indentBlock key.column key.number .blockMappingStart
        let state := { state.indentEntry with possibleKey := none }
        return (state.allowKey false).push .value
    | none =>
      if !state.inFlow && !state.keyAllowed then none
      else
        let state := state.indentBlock column state.tokens.length .blockMappingStart
        return (state.indentEntry.allowKey !state.inFlow).push .value

/-! ## Names, tags and scalars -/

/-- A name for a value or the name of one is read. -/
def anchor? (state : Tokenization) (token : String → Token) : Option Tokenization := do
  let (name, rest) ← anchorName? (state.cursor.rest.drop 1)
  return ((state.markKey.allowKey false).skipTo rest).push (token name)

/-- A tag is read. -/
def tag? (state : Tokenization) : Option Tokenization := do
  let (tag, rest) ← Yaml.tag? state.inFlow (state.cursor.rest.drop 1)
  return ((state.markKey.allowKey false).skipTo rest).push (.tag tag)

/-- A block scalar is read. -/
def block? (state : Tokenization) (folded : Bool) : Option Tokenization := do
  let state := (state.markKey.allowKey true).unindentEntry
  let (content, rest) ← Yaml.block? folded state.innerIndent (state.cursor.rest.drop 1)
  return (state.skipTo rest).push (.scalar false content)

/-- Can the text stand after a quoted scalar on the same line? After one that reaches over several
lines a colon can stand only within brackets. -/
def canFollowQuoted (inFlow sameLine : Bool) : List Char → Bool
  | [] => true
  | c :: _ =>
    isBreak c || inFlow && (c = ',' || c = ']' || c = '\x7d') || c = ':' && (inFlow || sameLine)

/-- A quoted scalar is read. -/
def quoted? (state : Tokenization) (quote : Quote) : Option Tokenization := do
  let line := state.cursor.line
  let (content, rest) ←
    Yaml.quoted? quote state.indent state.cursor.column (state.cursor.rest.drop 1)
  let state ← ((state.markKey.allowKey false).skipTo rest).skipBlanks?
  if canFollowQuoted state.inFlow (state.cursor.line = line) state.cursor.rest then do
    let state ← state.skipFiller?
    return { state with adjacentIndex := state.cursor.index }.push (.scalar false content)
  else none

/-- A plain scalar is read. -/
def plain? (state : Tokenization) : Option Tokenization := do
  let state := (state.markKey.allowKey false).unindentEntry
  let cursor := state.cursor
  let (content, rest) ← Yaml.plain? state.inFlow state.innerIndent cursor.column cursor.rest
  let state := state.skipTo rest
  return (state.allowKey (state.keyAllowed || state.cursor.indenting)).push (.scalar true content)

/-! ## All tokens -/

/-- Is a colon at this place one before a value? -/
def atValue (state : Tokenization) (rest : List Char) : Bool :=
  atWordEnd rest || state.inFlow &&
    (rest.head?.any isFlowMark || state.cursor.index = state.adjacentIndex)

/-- The token is read that starts with the given character. -/
def token? (state : Tokenization) (c : Char) (rest : List Char) : Option Tokenization :=
  match c with
  | '[' => state.flowStart? true
  | '\x7b' => state.flowStart? false
  | ']' => state.flowEnd? .flowSequenceEnd
  | '\x7d' => state.flowEnd? .flowMappingEnd
  | ',' => state.flowEntry?
  | '-' => if atWordEnd rest then state.blockEntry? else state.plain?
  | '?' => if atWordEnd rest then state.key? else state.plain?
  | ':' => if state.atValue rest then state.value? else state.plain?
  | '*' => state.anchor? .reference
  | '&' => state.anchor? .anchor
  | '!' => state.tag?
  | '|' => if state.inFlow then state.plain? else state.block? false
  | '>' => if state.inFlow then state.plain? else state.block? true
  | '\'' => state.quoted? .single
  | '"' => state.quoted? .double
  | '%' | '@' | '\x60' => none
  | _ => state.plain?

/-- The token is read that starts at this place with the given character, at the start of a line
also a directive or a mark between documents. -/
def lineToken? (state : Tokenization) (c : Char) (rest : List Char) : Option Tokenization :=
  if state.cursor.column = 0 && c = '%' then state.directive?
  else if state.cursor.column = 0 && startsWithThree '-' (c :: rest) then
    state.documentMark? .documentStart
  else if state.cursor.column = 0 && startsWithThree '.' (c :: rest) then state.documentEnd?
  else if state.cursor.column < state.indent then none
  else state.token? c rest

/-- All tokens, in the order in which they stand. Each takes one of the `fuel`, so the length of
the text and one more is enough. -/
def tokens? : Nat → Tokenization → Option (List Token)
  | 0, _ => none
  | fuel + 1, state => do
    let state ← (← state.skipFiller?).dropStaleKey?
    match state.cursor.rest with
    | [] => return (← state.dropKey?).unindent.tokens.reverse
    | c :: rest => tokens? fuel (← (state.unindentTo state.cursor.column).lineToken? c rest)

end Tokenization

/-- The tokens of a text. -/
def tokens? (text : List Char) : Option (List Token) :=
  Tokenization.tokens? (text.length + 1) (.start text)

end CronSchedule.Yaml
