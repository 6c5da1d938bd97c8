import Folio.Toml.Scalar

/-!
# Reading TOML

A text is a sequence of statements: headers of tables, headers of tables in arrays, and keys with
values. Each statement is read on its own and then added to the tree of tables.

## Main definitions

* `Folio.Toml.Statement`: a statement; `statement?` reads one.
* `Folio.Toml.value?`: the value at the start of a text.
* `Folio.Toml.Document.add?`: a document with one more statement.
* `Folio.Toml.read?`: the fields of a text.
-/

namespace Folio.Toml

/-- White space on a line. -/
def isSpace (c : Char) : Bool := c == ' ' || c == '\t'

/-- Text without white space at its start. -/
def skipSpace (cs : List Char) : List Char := cs.dropWhile isSpace

/-- The text after white space, line endings and comments. `comment` says that a comment has
begun. -/
def skipGap (comment : Bool) : List Char → Option (List Char)
  | [] => some []
  | '\n' :: cs => skipGap false cs
  | '\r' :: '\n' :: cs => skipGap false cs
  | c :: cs =>
    if comment then if isControl c then none else skipGap true cs
    else if isSpace c then skipGap false cs
    else if c == '#' then skipGap true cs
    else some (c :: cs)

/-- The text after the end of a line, before which only white space and a comment may stand.
`comment` says that a comment has begun. -/
def lineEnd? (comment : Bool) : List Char → Option (List Char)
  | [] => some []
  | '\n' :: cs => some cs
  | '\r' :: '\n' :: cs => some cs
  | c :: cs =>
    if comment then if isControl c then none else lineEnd? true cs
    else if isSpace c then lineEnd? false cs
    else if c == '#' then lineEnd? true cs
    else none

/-- A character of a key without quotation marks. -/
def isBare (c : Char) : Bool := c.isAlphanum || c == '_' || c == '-'

/-- The key without dots at the start of a text, and the text after it. -/
def simpleKey? (cs : List Char) : Option (String × List Char) :=
  let bare := cs.takeWhile isBare
  if bare.isEmpty then (lineString? cs).map fun (key, rest) => (String.ofList key, rest)
  else some (String.ofList bare, cs.drop bare.length)

/-- The parts of the key at the start of a text, at most `fuel` of them, and the text after them
and the white space that follows. -/
def key? : Nat → List Char → Option (List String × List Char)
  | 0, _ => none
  | fuel + 1, cs => do
    let (first, rest) ← simpleKey? (skipSpace cs)
    match skipSpace rest with
    | '.' :: more => do
      let (others, rest) ← key? fuel more
      some (first :: others, rest)
    | rest => some ([first], rest)

/-- A character at which a value without marks ends. -/
def endsScalar (c : Char) : Bool :=
  isSpace c || c == '\n' || c == '\r' || c == ',' || c == ']' || c == '\x7d' || c == '#'

/-- The text of the value without marks at the start of a text. One space may separate a date from
a time of day. -/
def scalarText (cs : List Char) : List Char :=
  let first := cs.takeWhile (!endsScalar ·)
  match date? first, cs.drop first.length with
  | some [], ' ' :: a :: b :: ':' :: rest =>
    if a.isDigit && b.isDigit then
      first ++ ' ' :: a :: b :: ':' :: rest.takeWhile (!endsScalar ·)
    else first
  | _, _ => first

/-- How deep arrays and tables between braces may nest. -/
def maxNesting : Nat := 80

mutual

/-- The value at the start of a text, and the text after it. At most `room` more arrays and tables
may be open at once; `fuel` bounds the steps. -/
def value? (room : Nat) : Nat → List Char → Option (Value × List Char)
  | 0, _ => none
  | fuel + 1, cs =>
    match cs with
    | '[' :: rest => if room = 0 then none else items? (room - 1) [] fuel rest
    | '\x7b' :: rest =>
      if room = 0 then none else members? (room - 1) { origin := .braces } fuel rest
    | '"' :: _ | '\'' :: _ =>
      (string? cs).map fun (text, rest) => (.string (String.ofList text), rest)
    | _ =>
      let text := scalarText cs
      (scalar? text).map fun value => (value, cs.drop text.length)

/-- The array whose items so far are given, the latest first, and the text after it. -/
def items? (room : Nat) (items : List Value) : Nat → List Char → Option (Value × List Char)
  | 0, _ => none
  | fuel + 1, cs => do
    match ← skipGap false cs with
    | ']' :: rest => some (.array items.reverse, rest)
    | cs =>
      let (item, rest) ← value? room fuel cs
      match ← skipGap false rest with
      | ',' :: rest => items? room (item :: items) fuel rest
      | ']' :: rest => some (.array (item :: items).reverse, rest)
      | _ => none

/-- The table between braces of which the given part was read, and the text after it. -/
def members? (room : Nat) (table : Table) : Nat → List Char → Option (Value × List Char)
  | 0, _ => none
  | fuel + 1, cs => do
    match ← skipGap false cs with
    | '\x7d' :: rest => some (.table .braces table.fields, rest)
    | cs =>
      let (path, rest) ← key? fuel cs
      match rest with
      | '=' :: rest =>
        let (value, rest) ← value? room fuel (skipSpace rest)
        let table ← table.define? path.dropLast (path.getLastD "") value
        match ← skipGap false rest with
        | ',' :: rest => members? room table fuel rest
        | '\x7d' :: rest => some (.table .braces table.fields, rest)
        | _ => none
      | _ => none

end

/-- A statement. -/
inductive Statement where
  /-- The header of a table, as a path and a last key. -/
  | table (path : List String) (key : String)
  /-- The header of a table in an array. -/
  | item (path : List String) (key : String)
  /-- A value for a key, with the path before its last dot. -/
  | define (path : List String) (key : String) (value : Value)
  deriving Repr

/-- The statement at the start of a text, and the text after its line. -/
def statement? (cs : List Char) : Option (Statement × List Char) :=
  match cs with
  | '[' :: '[' :: rest => do
    let (path, rest) ← key? (cs.length + 1) rest
    match rest with
    | ']' :: ']' :: rest =>
      (lineEnd? false rest).map fun rest => (.item path.dropLast (path.getLastD ""), rest)
    | _ => none
  | '[' :: rest => do
    let (path, rest) ← key? (cs.length + 1) rest
    match rest with
    | ']' :: rest =>
      (lineEnd? false rest).map fun rest => (.table path.dropLast (path.getLastD ""), rest)
    | _ => none
  | _ => do
    let (path, rest) ← key? (cs.length + 1) cs
    match rest with
    | '=' :: rest =>
      let (value, rest) ← value? maxNesting (cs.length + 1) (skipSpace rest)
      (lineEnd? false rest).map fun rest =>
        (.define path.dropLast (path.getLastD "") value, rest)
    | _ => none

/-- The statements of a text, at most `fuel` of them. -/
def statements? : Nat → List Char → Option (List Statement)
  | 0, _ => none
  | fuel + 1, cs => do
    match ← skipGap false cs with
    | [] => some []
    | cs =>
      let (statement, rest) ← statement? cs
      let others ← statements? fuel rest
      some (statement :: others)

/-- What statements have built. -/
structure Document where
  /-- The tree of all tables. -/
  root : Table := { origin := .header }
  /-- The path of the table that keys belong to. -/
  current : List String := []
  deriving Repr

/-- A document with one more statement. -/
def Document.add? (document : Document) (statement : Statement) : Option Document :=
  match statement with
  | .table path key =>
    (document.root.openTable? path key).map fun root => ⟨root, path ++ [key]⟩
  | .item path key =>
    (document.root.openItem? path key).map fun root => ⟨root, path ++ [key]⟩
  | .define path key value =>
    (document.root.modify? false (·.define? path key value) document.current).map fun root =>
      { document with root }

/-- Text without a byte order mark at its start. -/
def dropByteOrderMark : List Char → List Char
  | '\ufeff' :: cs => cs
  | cs => cs

/-- The fields of a text. -/
def read? (text : String) : Option Fields := do
  let cs := dropByteOrderMark text.toList
  let statements ← statements? (cs.length + 1) cs
  let document ← statements.foldlM Document.add? {}
  some document.root.fields

end Folio.Toml
