import CronSchedule.Numeral
import CronSchedule.Setting
import CronSchedule.Text.Hexadecimal
import CronSchedule.Yaml.Token

/-!
# Nodes of a YAML document

What a scalar without quotes means shows in its form, unless a tag in front of it
tells. A mapping keeps its entries, as far as settings can be made of them.
-/

set_option autoImplicit false

namespace CronSchedule.Yaml

/-- The nodes. -/
inductive Node where
  | text (content : String)
  | integer (value : Int)
  /-- A number that is no integer, as it is written. -/
  | real (written : String)
  | boolean (value : Bool)
  | null
  /-- A scalar that is not of the kind that its tag tells. -/
  | unsuitable
  | sequence
  /-- The entries in the order in which they stand. -/
  | mapping (entries : List (String × Setting))
  deriving DecidableEq

namespace Node

/-! ## Scalars -/

/-- Value of an octal digit. -/
def octalDigit? (c : Char) : Option Nat := (Text.hexadecimalDigit? c).filter (· < 8)

/-- The integer that digits of the given base write after a sign, if that fits into 64 bits. -/
def signedIn? (base : Nat) (digit? : Char → Option Nat) (numeral : List Char) : Option Int :=
  let (sign, digits) : Int × List Char := match numeral with
    | '-' :: rest => (-1, rest)
    | '+' :: rest => (1, rest)
    | _ => (1, numeral)
  if digits.isEmpty then none
  else
    let magnitude := digits.foldl
      (fun number c => number.bind fun n => (digit? c).map fun digit => base * n + digit) (some 0)
    (magnitude.map fun n => sign * (n : Int)).filter (Numeral.fits 64)

/-- The integer that a scalar is. One with a mark of its base may have a sign after that, and one
with a plus sign another one. -/
def integer? : List Char → Option Int
  | '0' :: 'x' :: rest => signedIn? 16 Text.hexadecimalDigit? rest
  | '0' :: 'o' :: rest => signedIn? 8 octalDigit? rest
  | '+' :: rest => Numeral.signed? 64 rest
  | numeral => Numeral.signed? 64 numeral

/-- The spellings of the infinite numbers and of what is no number. -/
def unboundedWords : List String :=
  [".inf", ".Inf", ".INF", "+.inf", "+.Inf", "+.INF", "-.inf", "-.Inf", "-.INF",
    ".nan", ".NaN", ".NAN"]

/-- Is a scalar a number? -/
def isReal (content : String) : Bool :=
  unboundedWords.contains content ||
    content.toList.any Char.isDigit && (Binary64.read? content.toList).isSome

/-- The scalar without quotes and tags that is written so. -/
def ofPlain (content : String) : Node :=
  if content.isEmpty || content = "~" || content = "null" then null
  else if content = "true" then boolean true
  else if content = "false" then boolean false
  else
    match integer? content.toList with
    | some value => integer value
    | none => if isReal content then real content else text content

/-- What the handle of the tags of this format stands for. -/
def coreHandle : String := "tag:yaml.org,2002:"

/-- The scalar without quotes after a tag, whose handle is given as what that stands for. Tags
that are not known stand for texts. -/
def ofTagged (tag : Tag) (content : String) : Node :=
  if tag.handle ≠ coreHandle then text content
  else if tag.suffix = "bool" then
    if content = "true" then boolean true
    else if content = "false" then boolean false
    else unsuitable
  else if tag.suffix = "int" then
    match Numeral.signed? 64 content.toList with
    | some value => integer value
    | none => unsuitable
  else if tag.suffix = "float" then if isReal content then real content else unsuitable
  else if tag.suffix = "null" then
    if content = "~" || content = "null" then null else unsuitable
  else text content

/-- The scalar that is written so; one in quotes is a text. -/
def ofScalar (plain : Bool) (tag : Option Tag) (content : String) : Node :=
  match plain, tag with
  | false, _ => text content
  | true, some tag => ofTagged tag content
  | true, none => ofPlain content

/-! ## Settings -/

/-- The key of an entry; it is a scalar. -/
def key? : Node → Option String
  | text content => some content
  | integer value => some (toString value)
  | real written => some written
  | boolean value => some (if value then "true" else "false")
  | null | unsuitable | sequence | mapping _ => none

/-- The setting that a node is; a number that is no integer has to be written with digits. -/
def setting? : Node → Option Setting
  | text content => some (.text content)
  | integer value => some (.integer value)
  | real written => (Binary64.read? written.toList).map .float
  | boolean value => some (.boolean value)
  | null | unsuitable => some .null
  | sequence | mapping _ => some .compound

/-- The entries of a mapping from keys and values in turn. What is not of the kind that its tag
tells is no key, so that the next node is in its place. -/
def pairs : List Node → List (Node × Node)
  | unsuitable :: rest => pairs rest
  | key :: value :: rest => (key, value) :: pairs rest
  | _ => []

/-- The mapping of keys and values in turn; its keys differ. -/
def ofMembers? (members : List Node) : Option Node := do
  let entries := pairs members
  if !(entries.map (·.1)).Nodup then none
  else mapping <$> entries.mapM fun (key, value) => do return (← key.key?, ← value.setting?)

/-- The sequence of items. -/
def ofItems? (items : List Node) : Option Node := do
  let _ ← items.mapM setting?
  return sequence

end Node

end CronSchedule.Yaml
