/-!
# How deep a JSON text nests

A scan over the characters that counts open brackets, without reading the text as JSON: brackets
inside string literals do not count, and a closing bracket without an open one is passed over.

## Main definitions

* `Folio.Json.Scan`: what the scan knows between two characters.
* `Folio.Json.nestsBeyond`: whether more brackets than a limit are open at some point.
-/

namespace Folio.Json

/-- Where the scan stands: outside string literals, in one, or after a backslash in one. -/
inductive Place where
  | outside
  | inString
  | escaped
  deriving DecidableEq, Repr

/-- The state of the scan. -/
structure Scan where
  /-- How many brackets are open. -/
  depth : Nat := 0
  /-- Where the next character stands. -/
  place : Place := .outside
  deriving DecidableEq, Repr

/-- The state after one more character. -/
def Scan.next (scan : Scan) (c : Char) : Scan :=
  match scan.place with
  | .escaped => { scan with place := .inString }
  | .inString =>
    if c = '\\' then { scan with place := .escaped }
    else if c = '"' then { scan with place := .outside }
    else scan
  | .outside =>
    if c = '"' then { scan with place := .inString }
    else if c = '\x7b' ∨ c = '[' then { scan with depth := scan.depth + 1 }
    else if c = '\x7d' ∨ c = ']' then { scan with depth := scan.depth - 1 }
    else scan

/-- Whether more than `limit` brackets are open after some character from here on. -/
def Scan.exceeds (limit : Nat) : Scan → List Char → Bool
  | _, [] => false
  | scan, c :: cs => (scan.next c).depth > limit || Scan.exceeds limit (scan.next c) cs

/-- Whether the text has more than `limit` brackets open at some point. -/
def nestsBeyond (limit : Nat) (text : String) : Bool :=
  Scan.exceeds limit {} text.toList

end Folio.Json
