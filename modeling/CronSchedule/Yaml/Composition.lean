import CronSchedule.Yaml.Node
import CronSchedule.Yaml.Token

/-!
# Nodes from tokens

A node is composed from the tokens at its start. What is left of the tokens, and
the named nodes so far, make up how far the composition has come.
-/

set_option autoImplicit false

namespace CronSchedule.Yaml

/-- How far a document has been composed. -/
structure Composition where
  /-- The tokens that are still ahead. -/
  tokens : List Token
  /-- The named nodes, the latest first. A node has no value in itself. -/
  anchors : List (String × Node)
  /-- What the handles of tags stand for. -/
  handles : List (String × String)

/-- What may stand in front of a node. -/
structure Properties where
  /-- Number of the named nodes before this one, if it has a name. -/
  anchor : Option Nat
  tag : Option Tag

namespace Composition

/-- The composition goes on with the given tokens. -/
def goTo (state : Composition) (tokens : List Token) : Composition :=
  { state with tokens }

/-- The token that is next. -/
def next? (state : Composition) : Option Token := state.tokens.head?

/-! ## Names and tags -/

/-- The tag with what its handle stands for. Two marks stand for the tags of this format, unless a
directive tells otherwise, and handles between marks have to be known. -/
def tag? (state : Composition) (tag : Tag) : Option Tag :=
  match state.handles.lookup tag.handle with
  | some meaning => some ⟨meaning, tag.suffix⟩
  | none =>
    if tag.handle = "!!" then some ⟨Node.coreHandle, tag.suffix⟩
    else if tag.handle.isEmpty || tag.handle = "!" then some tag
    else none

/-- A name for the next node. -/
def name (state : Composition) (name : String) : Composition :=
  { state with anchors := (name, .unsuitable) :: state.anchors }

/-- What stands in front of a node: a name, a tag, or both in either order. -/
def properties? (state : Composition) : Option (Properties × Composition) := do
  let number := state.anchors.length
  match state.tokens with
  | .anchor name :: .tag tag :: rest | .tag tag :: .anchor name :: rest =>
    return (⟨some number, some (← state.tag? tag)⟩, (state.goTo rest).name name)
  | .anchor name :: rest => return (⟨some number, none⟩, (state.goTo rest).name name)
  | .tag tag :: rest => return (⟨none, some (← state.tag? tag)⟩, state.goTo rest)
  | _ => return (⟨none, none⟩, state)

/-- The node with the given properties is composed. -/
def complete (state : Composition) (properties : Properties) (node : Node) : Node × Composition :=
  match properties.anchor with
  | none => (node, state)
  | some number =>
    let latest := state.anchors.length - 1 - number
    (node, { state with anchors := state.anchors.modify latest fun (name, _) => (name, node) })

/-! ## Nodes -/

/-- Is a node left out in a block before the token? -/
def isBlockStop : Token → Bool
  | .key | .value | .blockEnd => true
  | _ => false

/-- Is a node left out in a mapping in brackets before the token? -/
def isFlowStop : Token → Bool
  | .value | .flowEntry | .flowMappingEnd | .flowSequenceEnd => true
  | _ => false

/-- Is a node left out in a sequence without indentation before the token? -/
def isEntryStop : Token → Bool
  | .blockEntry => true
  | token => isBlockStop token

mutual

/-- The node at the start of the tokens. In a block it may be a block, and in an entry of a mapping
a sequence that is not indented. Each token takes at most three of the `fuel`. -/
def node? : Nat → (block unindented : Bool) → Composition → Option (Node × Composition)
  | 0, _, _, _ => none
  | fuel + 1, block, unindented, state =>
    match state.tokens with
    | .reference name :: rest => do return (← state.anchors.lookup name, state.goTo rest)
    | _ => do
      let (properties, state) ← state.properties?
      match state.tokens with
      | .scalar plain content :: rest =>
        return (state.goTo rest).complete properties
          (.ofScalar plain properties.tag content)
      | .flowSequenceStart :: rest => do
        let (items, state) ← flowItems? fuel true (state.goTo rest)
        return state.complete properties (← Node.ofItems? items)
      | .flowMappingStart :: rest => do
        let (members, state) ← flowMembers? fuel true (state.goTo rest)
        return state.complete properties (← Node.ofMembers? members)
      | .blockSequenceStart :: rest =>
        if block then do
          let (items, state) ← blockItems? fuel (state.goTo rest)
          return state.complete properties (← Node.ofItems? items)
        else none
      | .blockMappingStart :: rest =>
        if block then do
          let (members, state) ← blockMembers? fuel (state.goTo rest)
          return state.complete properties (← Node.ofMembers? members)
        else none
      | tokens =>
        if unindented && tokens.head? matches some .blockEntry then do
          let (items, state) ← unindentedItems? fuel state
          return state.complete properties (← Node.ofItems? items)
        else if properties.anchor.isSome || properties.tag.isSome then
          return state.complete properties (.ofScalar true properties.tag "")
        else none

/-- The node at the start of the tokens, which is null if it is left out before the next token. -/
def nodeBefore? : Nat → (stop : Token → Bool) → (block unindented : Bool) → Composition →
    Option (Node × Composition)
  | 0, _, _, _, _ => none
  | fuel + 1, stop, block, unindented, state =>
    if state.next?.any stop then some (.null, state) else node? fuel block unindented state

/-- The items of a block sequence up to its end. -/
def blockItems? : Nat → Composition → Option (List Node × Composition)
  | 0, _ => none
  | fuel + 1, state =>
    match state.tokens with
    | .blockEnd :: rest => some ([], state.goTo rest)
    | .blockEntry :: rest => do
      let (item, state) ← nodeBefore? fuel isEntryStop true false (state.goTo rest)
      let (items, state) ← blockItems? fuel state
      return (item :: items, state)
    | _ => none

/-- The items of a sequence that is not indented. -/
def unindentedItems? : Nat → Composition → Option (List Node × Composition)
  | 0, _ => none
  | fuel + 1, state =>
    match state.tokens with
    | .blockEntry :: rest => do
      let (item, state) ← nodeBefore? fuel isEntryStop true false (state.goTo rest)
      let (items, state) ← unindentedItems? fuel state
      return (item :: items, state)
    | _ => some ([], state)

/-- The keys and values of a block mapping in turn up to its end. -/
def blockMembers? : Nat → Composition → Option (List Node × Composition)
  | 0, _ => none
  | fuel + 1, state => do
    match state.tokens with
    | .blockEnd :: rest => return ([], state.goTo rest)
    | .key :: rest =>
      let (key, state) ← nodeBefore? fuel isBlockStop true true (state.goTo rest)
      blockValue? fuel key state
    | .value :: _ => blockValue? fuel .null state
    | _ => none

/-- The keys and values of a block mapping after a key. -/
def blockValue? : Nat → Node → Composition → Option (List Node × Composition)
  | 0, _, _ => none
  | fuel + 1, key, state => do
    let (value, state) ← match state.tokens with
      | .value :: rest => nodeBefore? fuel isBlockStop true true (state.goTo rest)
      | _ => some (.null, state)
    let (members, state) ← blockMembers? fuel state
    return (key :: value :: members, state)

/-- The items of a sequence in brackets up to its end; a comma may follow the last one. An item may
be a mapping of one entry. -/
def flowItems? : Nat → (first : Bool) → Composition → Option (List Node × Composition)
  | 0, _, _ => none
  | fuel + 1, first, state => do
    match state.tokens with
    | .flowSequenceEnd :: rest => return ([], state.goTo rest)
    | tokens =>
      let state ← match first, tokens with
        | true, _ => some state
        | false, .flowEntry :: rest => some (state.goTo rest)
        | false, _ => none
      match state.tokens with
      | .flowSequenceEnd :: rest => return ([], state.goTo rest)
      | .key :: rest => do
        let (key, state) ← nodeBefore? fuel isFlowStop false false (state.goTo rest)
        let (value, state) ← flowValue? fuel state
        let item ← Node.ofMembers? [key, value]
        let (items, state) ← flowItems? fuel false state
        return (item :: items, state)
      | _ => do
        let (item, state) ← node? fuel false false state
        let (items, state) ← flowItems? fuel false state
        return (item :: items, state)

/-- The keys and values of a mapping in brackets in turn up to its end; a comma may follow the last
value. -/
def flowMembers? : Nat → (first : Bool) → Composition → Option (List Node × Composition)
  | 0, _, _ => none
  | fuel + 1, first, state => do
    match state.tokens with
    | .flowMappingEnd :: rest => return ([], state.goTo rest)
    | tokens =>
      let state ← match first, tokens with
        | true, _ => some state
        | false, .flowEntry :: rest => some (state.goTo rest)
        | false, _ => none
      match state.tokens with
      | .flowMappingEnd :: rest => return ([], state.goTo rest)
      | .key :: rest => do
        let (key, state) ← nodeBefore? fuel isFlowStop false false (state.goTo rest)
        flowMember? fuel key state
      | .value :: _ => flowMember? fuel .null state
      | _ => do
        let (key, state) ← node? fuel false false state
        let (members, state) ← flowMembers? fuel false state
        return (key :: .null :: members, state)

/-- The keys and values of a mapping in brackets after a key. -/
def flowMember? : Nat → Node → Composition → Option (List Node × Composition)
  | 0, _, _ => none
  | fuel + 1, key, state => do
    let (value, state) ← flowValue? fuel state
    let (members, state) ← flowMembers? fuel false state
    return (key :: value :: members, state)

/-- The value after a key within brackets, which is null if it is left out. -/
def flowValue? : Nat → Composition → Option (Node × Composition)
  | 0, _ => none
  | fuel + 1, state =>
    match state.tokens with
    | .value :: rest => nodeBefore? fuel isFlowStop false false (state.goTo rest)
    | _ => some (.null, state)

end

end Composition

end CronSchedule.Yaml
