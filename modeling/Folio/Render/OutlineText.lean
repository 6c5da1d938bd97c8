import Folio.Json.Pretty
import Folio.Render.Outline

/-!
# Outlines as text

## Main definitions

* `Folio.Entry.toJson`: an entry of an outline as a JSON value.
* `Folio.outlineLines`: an outline as an indented list.
-/

namespace Folio

mutual

/-- An entry as a JSON value; without entries below it there is no field for them. -/
def Entry.toJson : Entry → Json
  | ⟨heading, children⟩ =>
    .object ([("id", .string heading.id), ("text", .string heading.text),
      ("level", .number (.integer heading.level))] ++ childrenField children)

/-- The field of the entries below an entry. -/
def childrenField : List Entry → List (String × Json)
  | [] => []
  | entry :: rest => [("children", .array (entry.toJson :: entriesToJson rest))]

/-- Several entries as JSON values. -/
def entriesToJson : List Entry → List Json
  | [] => []
  | entry :: rest => entry.toJson :: entriesToJson rest

end

/-- An outline as a JSON value. -/
def outlineToJson (entries : List Entry) : Json := .array (entriesToJson entries)

mutual

/-- The line of an entry, and those of the entries below it indented by two more spaces. -/
def Entry.lines (depth : Nat) : Entry → String
  | ⟨heading, children⟩ =>
    String.ofList (List.replicate (2 * depth) ' ') ++ "- " ++ heading.text ++ " (#" ++ heading.id ++
      ")\n" ++ outlineLines (depth + 1) children

/-- The lines of several entries. -/
def outlineLines (depth : Nat) : List Entry → String
  | [] => ""
  | entry :: rest => entry.lines depth ++ outlineLines depth rest

end

end Folio
