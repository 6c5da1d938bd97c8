import Folio.Document.Node
import Folio.Json.Nesting
import Folio.Json.Reader

/-!
# Documents from JSON

Every JSON value yields a node: fields of the wrong shape count as absent, and children that are
no objects are passed over. Only a text that is not JSON, or that nests too deep, yields none.

## Main definitions

* `Folio.Document.Node.ofJson`: the node of a JSON value.
* `Folio.Document.Node.read`: the node of a JSON text.
-/

namespace Folio.Document

open Folio

/-- The deepest nesting of nodes in a text. -/
def maxNodeDepth : Nat := 136

/-- The most brackets that are open at once in such a text: each node has two, its own and that of
its children, and the last one may have an attribute list. -/
def maxBracketDepth : Nat := 2 * maxNodeDepth + 1

/-- The tag among the fields of an object, when it is a string. -/
def tagIn? (fields : Json.Fields) : Option String :=
  (fields.get? "type").bind Json.text?

/-- The attributes among the fields of an object, none when they are no object themselves. -/
def attrsIn (fields : Json.Fields) : Attributes :=
  ((fields.get? "attrs").bind Json.fields?).getD []

/-- The mark of a JSON value; only objects are marks. -/
def Mark.ofJson? : Json → Option Mark
  | .object fields =>
    some ⟨((tagIn? fields).map MarkKind.ofTag).getD (.unknown ""), attrsIn fields⟩
  | _ => none

namespace Node

/-- The node that the fields of an object describe, with the children given. -/
def ofFields (fields : Json.Fields) (content : List Node) : Node where
  kind := ((tagIn? fields).map NodeKind.ofTag).getD (.unknown "")
  attrs := attrsIn fields
  content
  text := (fields.get? "text").bind Json.text?
  marks := (((fields.get? "marks").bind Json.items?).getD []).filterMap Mark.ofJson?

mutual

/-- The node of a JSON value. -/
def ofJson : Json → Node
  | .object fields => ofFields fields (contentOf fields)
  | _ => { kind := .unknown "" }

/-- The children among the fields of an object. -/
def contentOf : List (String × Json) → List Node
  | [] => []
  | field :: rest => (childrenIn field).getD (contentOf rest)

/-- The children that a field holds, if it is the one for children. -/
def childrenIn : String × Json → Option (List Node)
  | (key, .array items) => if key = "content" then some (ofItems items) else none
  | (key, _) => if key = "content" then some [] else none

/-- The nodes of those items that are objects. -/
def ofItems : List Json → List Node
  | [] => []
  | item :: rest => if item.isObject then ofJson item :: ofItems rest else ofItems rest

end

end Node

/-- Why a text holds no document. -/
inductive ReadError where
  /-- The text ends too early. -/
  | endOfText
  /-- The text is not JSON. -/
  | malformed
  /-- The brackets of the text nest too deep. -/
  | tooDeep
  deriving DecidableEq, Repr

/-- The wording of an error, where it has one of its own. -/
def ReadError.message? : ReadError → Option String
  | .tooDeep => some ("document nested deeper than " ++ toString maxNodeDepth ++ " nodes")
  | _ => none

/-- The document of a JSON text. -/
def Node.read (text : String) : Except ReadError Node :=
  if Json.nestsBeyond maxBracketDepth text then .error .tooDeep
  else
    match Json.read maxBracketDepth text with
    | .ok value => .ok (Node.ofJson value)
    | .error .endOfText => .error .endOfText
    | .error .malformed => .error .malformed
    | .error .tooDeep => .error .tooDeep

end Folio.Document
