import Folio.Json.Token

/-!
# Reading JSON

The reader goes through the tokens once. It keeps the arrays and objects that are open, innermost
first, and refuses to open more of them than it has room for.

## Main definitions

* `Folio.Json.Frame`: an array or object that is open.
* `Folio.Json.Reader`: what the reader expects next, and inside which frames.
* `Folio.Json.read`: the value of a text.
-/

namespace Folio.Json

/-- An array or object that is open. -/
inductive Frame where
  /-- An array with the items before the one that is read, in reverse. -/
  | array (items : List Json)
  /-- An object with the fields before the one that is read, and the key of that one. -/
  | object (fields : Fields) (key : String)
  deriving Repr

/-- What the reader expects next, inside the frames given. -/
inductive Reader where
  /-- A value. -/
  | value (frames : List Frame)
  /-- The first item of an array, or its end. -/
  | firstItem (frames : List Frame)
  /-- The first key of an object, or its end. -/
  | firstKey (frames : List Frame)
  /-- Another key of an object with these fields. -/
  | nextKey (fields : Fields) (frames : List Frame)
  /-- The colon after a key. -/
  | colon (fields : Fields) (key : String) (frames : List Frame)
  /-- What may follow a value: a separator, an end, or nothing outside all frames. -/
  | after (value : Json) (frames : List Frame)
  deriving Repr

namespace Reader

/-- How many arrays and objects are open. -/
def depth : Reader → Nat
  | .value frames | .after _ frames => frames.length
  | .firstItem frames | .firstKey frames | .nextKey _ frames | .colon _ _ frames =>
    frames.length + 1

/-- Reads the token at which a value starts. -/
def stepValue (room : Nat) (frames : List Frame) : Token → Except ReadError Reader
  | .null => .ok (.after .null frames)
  | .bool b => .ok (.after (.bool b) frames)
  | .number n => .ok (.after (.number n) frames)
  | .string s => .ok (.after (.string s) frames)
  | .openArray => if frames.length < room then .ok (.firstItem frames) else .error .tooDeep
  | .openObject => if frames.length < room then .ok (.firstKey frames) else .error .tooDeep
  | .invalid _ error => .error error
  | _ => .error .malformed

/-- Reads the token at which a key stands. -/
def stepKey (fields : Fields) (frames : List Frame) : Token → Except ReadError Reader
  | .string key => .ok (.colon fields key frames)
  | .invalid true error => .error error
  | _ => .error .malformed

/-- Reads one token. -/
def step (room : Nat) : Reader → Token → Except ReadError Reader
  | .value frames, token => stepValue room frames token
  | .firstItem frames, .closeArray => .ok (.after (.array []) frames)
  | .firstItem frames, token => stepValue room (.array [] :: frames) token
  | .firstKey frames, .closeObject => .ok (.after (.object []) frames)
  | .firstKey frames, token => stepKey [] frames token
  | .nextKey fields frames, token => stepKey fields frames token
  | .colon fields key frames, .colon => .ok (.value (.object fields key :: frames))
  | .after v (.array items :: frames), .comma => .ok (.value (.array (v :: items) :: frames))
  | .after v (.array items :: frames), .closeArray =>
    .ok (.after (.array (v :: items).reverse) frames)
  | .after v (.object fields key :: frames), .comma =>
    .ok (.nextKey (fields.insert key v) frames)
  | .after v (.object fields key :: frames), .closeObject =>
    .ok (.after (.object (fields.insert key v)) frames)
  | _, _ => .error .malformed

/-- The value that has been read when the text ends here. -/
def result : Reader → Except ReadError Json
  | .after v [] => .ok v
  | _ => .error .endOfText

/-- Reads the rest of the tokens. -/
def run (room : Nat) : Reader → List Token → Except ReadError Json
  | reader, [] => reader.result
  | reader, token :: rest =>
    match reader.step room token with
    | .ok next => run room next rest
    | .error error => .error error

end Reader

/-- The value of a text in which at most `room` arrays and objects are open at once. -/
def read (room : Nat) (text : String) : Except ReadError Json :=
  Reader.run room (.value []) (tokens text.toList)

end Folio.Json
