import Folio.Json.Writer

/-!
# Writing JSON over several lines

Every item of an array and every field of an object stands on a line of its own, indented by two
spaces more than what it is in. Empty arrays and objects stay on one line.

## Main definitions

* `Folio.Json.pretty`: the text of a value over several lines.
-/

namespace Folio.Json

/-- A line ending and the indentation at a depth. -/
def newLine (depth : Nat) : String := "\n" ++ String.ofList (List.replicate (2 * depth) ' ')

mutual

/-- The text of a value at a depth. -/
def prettyAt (depth : Nat) : Json → String
  | .null => "null"
  | .bool value => text (.bool value)
  | .number value => value.text
  | .string value => quote value
  | .array [] => "[]"
  | .array (item :: items) =>
    "[" ++ newLine (depth + 1) ++ prettyAt (depth + 1) item ++ prettyItems (depth + 1) items ++
      newLine depth ++ "]"
  | .object [] => "\x7b\x7d"
  | .object (field :: fields) =>
    "\x7b" ++ newLine (depth + 1) ++ prettyField (depth + 1) field ++
      prettyFields (depth + 1) fields ++ newLine depth ++ "\x7d"

/-- The texts of further items. -/
def prettyItems (depth : Nat) : List Json → String
  | [] => ""
  | item :: items => "," ++ newLine depth ++ prettyAt depth item ++ prettyItems depth items

/-- The texts of further fields. -/
def prettyFields (depth : Nat) : List (String × Json) → String
  | [] => ""
  | field :: fields => "," ++ newLine depth ++ prettyField depth field ++ prettyFields depth fields

/-- The text of one field. -/
def prettyField (depth : Nat) : String × Json → String
  | (key, value) => quote key ++ ": " ++ prettyAt depth value

end

/-- The text of a value over several lines. -/
def pretty (value : Json) : String := prettyAt 0 value

end Folio.Json
