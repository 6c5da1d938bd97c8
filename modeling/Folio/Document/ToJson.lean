import Folio.Document.Node
import Folio.Json.Writer

/-!
# Documents as JSON

A node is written as an object whose fields are `type`, `attrs`, `content`, `text` and `marks`, in
this order, without those that are empty.
-/

namespace Folio.Document

open Folio

/-- The fields of an object that has the attributes given, none when there are none. -/
def attrsField : Attributes → List (String × Json)
  | [] => []
  | attrs => [("attrs", .object attrs)]

/-- A mark as a JSON value. -/
def Mark.toJson (mark : Mark) : Json :=
  .object (("type", .string mark.kind.tag) :: attrsField mark.attrs)

namespace Node

/-- The fields after the children of a node: its text and its marks. -/
def leafFields (text : Option String) (marks : List Mark) : List (String × Json) :=
  (match text with
    | some text => [("text", .string text)]
    | none => []) ++
  match marks with
  | [] => []
  | marks => [("marks", .array (marks.map Mark.toJson))]

mutual

/-- A node as a JSON value, its fields in the order in which they are written. -/
def toJson : Node → Json
  | ⟨kind, attrs, content, text, marks⟩ =>
    .object (("type", .string kind.tag) :: attrsField attrs ++ contentField content ++
      leafFields text marks)

/-- The field of the children, none when there are none. -/
def contentField : List Node → List (String × Json)
  | [] => []
  | node :: rest => [("content", .array (toJson node :: toJsonAll rest))]

/-- Several nodes as JSON values. -/
def toJsonAll : List Node → List Json
  | [] => []
  | node :: rest => toJson node :: toJsonAll rest

end

/-- The compact JSON text of a document. -/
def jsonText (node : Node) : String := node.toJson.text

end Node

end Folio.Document
