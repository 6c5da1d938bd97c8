import Folio.Json.NumberText

/-!
# Writing JSON

Values are written without white space. Inside a string literal the quotation mark, the backslash
and the control characters are escaped, and nothing else is.

## Main definitions

* `Folio.Json.quote`: text as a string literal.
* `Folio.Json.text`: the compact text of a value.
-/

namespace Folio.Json

/-- A hexadecimal digit in small letters. -/
def hexDigit (n : Nat) : Char :=
  if n < 10 then Char.ofNat ('0'.toNat + n) else Char.ofNat ('a'.toNat + (n - 10))

/-- A character as it stands in a string literal. -/
def quoteChar (c : Char) : List Char :=
  match c with
  | '"' => ['\\', '"']
  | '\\' => ['\\', '\\']
  | '\x08' => ['\\', 'b']
  | '\x0c' => ['\\', 'f']
  | '\n' => ['\\', 'n']
  | '\r' => ['\\', 'r']
  | '\t' => ['\\', 't']
  | c =>
    if c.toNat < 0x20 then
      ['\\', 'u', '0', '0', hexDigit (c.toNat / 16), hexDigit (c.toNat % 16)]
    else [c]

/-- Text as a string literal. -/
def quote (s : String) : String :=
  "\"" ++ String.ofList (s.toList.flatMap quoteChar) ++ "\""

mutual

/-- The compact text of a value. -/
def text : Json → String
  | .null => "null"
  | .bool true => "true"
  | .bool false => "false"
  | .number value => value.text
  | .string value => quote value
  | .array items => "[" ++ textItems items ++ "]"
  | .object fields => "\x7b" ++ textFields fields ++ "\x7d"

/-- The texts of the items of an array, separated by commas. -/
def textItems : List Json → String
  | [] => ""
  | [item] => text item
  | item :: next :: rest => text item ++ "," ++ textItems (next :: rest)

/-- The texts of the fields of an object, separated by commas. -/
def textFields : List (String × Json) → String
  | [] => ""
  | [field] => textField field
  | field :: next :: rest => textField field ++ "," ++ textFields (next :: rest)

/-- The text of one field. -/
def textField : String × Json → String
  | (key, value) => quote key ++ ":" ++ text value

end

end Folio.Json
