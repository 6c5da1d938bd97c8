import Folio.Toml.Quoted

/-!
# TOML values and tables

Statements of a TOML text add to one tree of tables. How a table came about decides which later
statements may add to it.

## Main definitions

* `Folio.Toml.Value`: a value; `Folio.Toml.Origin` says how a table came about.
* `Folio.Toml.Table`: a table.
* `Folio.Toml.Table.define?`, `openTable?`, `openItem?`: what statements do to the tree.
-/

namespace Folio.Toml

/-- How a table came about. -/
inductive Origin where
  /-- By a header of its own. -/
  | header
  /-- By the header of a table in it. -/
  | parent
  /-- By a key with dots. -/
  | dotted
  /-- Between braces; nothing can be added later. -/
  | braces
  deriving DecidableEq, Repr

/-- A value. -/
inductive Value where
  | string (text : String)
  | integer (value : Int)
  /-- A number with a fraction or an exponent, as it is written. -/
  | float (text : String)
  | boolean (value : Bool)
  /-- A date, a time or both, as it is written. -/
  | dateTime (text : String)
  | array (items : List Value)
  /-- An array of tables, which headers add to, the latest first. -/
  | tables (items : List (List (String × Value)))
  | table (origin : Origin) (fields : List (String × Value))
  deriving Repr

/-- Keys with their values, in the order in which the keys came up. -/
abbrev Fields := List (String × Value)

/-- A table of a certain origin. -/
structure Table where
  origin : Origin
  fields : Fields := []
  deriving Repr

/-- A key with a new value. -/
def Fields.replace (fields : Fields) (key : String) (value : Value) : Fields :=
  fields.map fun field => if field.1 == key then (key, value) else field

namespace Table

/-- A table with a key that it does not have yet. -/
def add? (table : Table) (key : String) (value : Value) : Option Table :=
  match table.fields.lookup key with
  | some _ => none
  | none => some { table with fields := table.fields ++ [(key, value)] }

/-- Changes the table at a path; what is missing on the way is made, by dots or by a header.
Neither goes into a table between braces, and dots do not go into one that has a header. -/
def modify? (dotted : Bool) (change : Table → Option Table) : List String → Table → Option Table
  | [], table => change table
  | key :: path, table =>
    match table.fields.lookup key with
    | none => do
      let inner ← modify? dotted change path { origin := if dotted then .dotted else .parent }
      some { table with fields := table.fields ++ [(key, .table inner.origin inner.fields)] }
    | some (.table origin fields) =>
      if origin = .braces || (dotted && origin = .header) then none
      else do
        let inner ← modify? dotted change path { origin, fields }
        some { table with
          fields := Fields.replace table.fields key (.table inner.origin inner.fields) }
    | some (.tables (fields :: others)) => do
      let inner ← modify? dotted change path { origin := .header, fields }
      some { table with
        fields := Fields.replace table.fields key (.tables (inner.fields :: others)) }
    | some _ => none

/-- Gives a value to a key with a path of dots before it. Only keys with dots add to a table that
came about by dots. -/
def define? (table : Table) (path : List String) (key : String) (value : Value) : Option Table :=
  table.modify? true
    (fun inner =>
      if decide (inner.origin = .dotted) = path.isEmpty then none else inner.add? key value)
    path

/-- Opens a table by its header. -/
def openTable? (table : Table) (path : List String) (key : String) : Option Table :=
  table.modify? false
    (fun parent =>
      match parent.fields.lookup key with
      | none => parent.add? key (.table .header [])
      | some (.table .parent fields) =>
        some { parent with fields := Fields.replace parent.fields key (.table .header fields) }
      | some _ => none)
    path

/-- Opens one more table of an array by its header. -/
def openItem? (table : Table) (path : List String) (key : String) : Option Table :=
  table.modify? false
    (fun parent =>
      match parent.fields.lookup key with
      | none => parent.add? key (.tables [[]])
      | some (.tables items) =>
        some { parent with fields := Fields.replace parent.fields key (.tables ([] :: items)) }
      | some _ => none)
    path

end Table

end Folio.Toml
