import CronSchedule.Yaml.Composition
import CronSchedule.Yaml.Tokenization

/-!
# Reading a YAML document

A text is one document at most, and that is a mapping. Directives may stand in
front of it, and marks before and after it.
-/

set_option autoImplicit false

namespace CronSchedule.Yaml

/-- The directive that a token is. -/
def Token.directive? : Token → Option Directive
  | .directive content => some content
  | _ => none

/-- Is the token the end of a document? -/
def Token.isDocumentEnd : Token → Bool
  | .documentEnd => true
  | _ => false

/-- What the handles of tags stand for according to directives. There is one directive about the
version at most, and one for each handle. -/
def handles? (directives : List Directive) : Option (List (String × String)) :=
  let versions := directives.countP fun directive => directive matches .version
  let handles := directives.filterMap fun
    | .handle handle meaning => some (handle, meaning)
    | .version | .other => none
  if 1 < versions || !(handles.map (·.1)).Nodup then none else some handles

/-- The document after its directives, and the tokens after it. -/
def document? (handles : List (String × String)) (tokens : List Token) :
    Option (Node × List Token) := do
  let (node, state) ←
    Composition.node? (3 * tokens.length + 3) true false ⟨tokens, [], handles⟩
  return (node, state.tokens)

/-- The entries of the mapping that is the document of a text, in the order in which they stand;
none if there is no document. The text ends at a null character. -/
def read? (text : List Char) : Option (List (String × Setting)) := do
  let tokens := (← tokens? (text.takeWhile (· ≠ '\x00'))).dropWhile Token.isDocumentEnd
  if tokens.isEmpty then return []
  else
    let leading := tokens.takeWhile fun token => token.directive?.isSome
    let directives := leading.filterMap Token.directive?
    let handles ← handles? directives
    let (node, rest) ← match tokens.drop directives.length with
      | .documentStart :: rest => document? handles rest
      | rest => if directives.isEmpty then document? handles rest else none
    match node, rest.dropWhile Token.isDocumentEnd with
    | .mapping entries, [] => return entries
    | _, _ => none

end CronSchedule.Yaml
