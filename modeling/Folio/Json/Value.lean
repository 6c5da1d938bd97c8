import Folio.Binary64

/-!
# JSON values

A JSON value as it is kept after reading. A number is an integer of sixty-four bits, with or
without a sign, or else a double. The fields of an object are sorted by key, each key once.

## Main definitions

* `Folio.Json`: a value.
* `Folio.Json.Fields.insert`, `Folio.Json.Fields.get?`: the fields of an object as a map.
-/

namespace Folio

namespace Json

/-- A number: an integer from -2^63 up to 2^64 - 1, or a double. -/
inductive Number where
  | integer (value : Int)
  | double (value : Binary64)
  deriving DecidableEq, Repr

end Json

/-- A JSON value. -/
inductive Json where
  | null
  | bool (value : Bool)
  | number (value : Json.Number)
  | string (value : String)
  | array (items : List Json)
  | object (fields : List (String × Json))
  deriving Repr, Inhabited

namespace Json

/-- The fields of an object, sorted by key. -/
abbrev Fields := List (String × Json)

/-- The value under a key. -/
def Fields.get? (fields : Fields) (key : String) : Option Json :=
  fields.lookup key

/-- The fields with one key set, in the place of an earlier value if there is one. -/
def Fields.insert : Fields → String → Json → Fields
  | [], key, value => [(key, value)]
  | (k, v) :: rest, key, value =>
    if key = k then (key, value) :: rest
    else if key < k then (key, value) :: (k, v) :: rest
    else (k, v) :: Fields.insert rest key value

/-- The fields of an object. -/
def fields? : Json → Option Fields
  | object fields => some fields
  | _ => none

/-- The items of an array. -/
def items? : Json → Option (List Json)
  | array items => some items
  | _ => none

/-- The text of a string. -/
def text? : Json → Option String
  | string value => some value
  | _ => none

/-- Whether the value is an object. -/
def isObject : Json → Bool
  | object _ => true
  | _ => false

end Json

end Folio
