import Folio.Json.Value

/-!
# Marks

A mark is an inline annotation of a text leaf. A tag that is not known is kept, so that documents
of newer editors load.
-/

namespace Folio.Document

/-- The attributes of a node or a mark. -/
abbrev Attributes := Json.Fields

/-- The kind of a mark. -/
inductive MarkKind where
  | bold
  | italic
  | code
  | link
  | unknown (tag : String)
  deriving DecidableEq, Repr

/-- The tag under which a kind of mark is written. -/
def MarkKind.tag : MarkKind → String
  | bold => "bold"
  | italic => "italic"
  | code => "code"
  | link => "link"
  | unknown tag => tag

/-- The kind of mark that a tag names; two of the kinds have a second tag. -/
def MarkKind.ofTag : String → MarkKind
  | "bold" | "strong" => bold
  | "italic" | "em" => italic
  | "code" => code
  | "link" => link
  | tag => unknown tag

/-- An inline annotation. -/
structure Mark where
  /-- What the mark does. -/
  kind : MarkKind
  /-- Its attributes, of which links use `href` and `title`. -/
  attrs : Attributes := []
  deriving Repr

namespace Mark

/-- A link to an address. -/
def linkTo (href : String) : Mark := ⟨.link, [("href", .string href)]⟩

/-- The address of a link, when it is a string. -/
def href? (mark : Mark) : Option String := (mark.attrs.get? "href").bind Json.text?

/-- The title of a link, when it is a string. -/
def title? (mark : Mark) : Option String := (mark.attrs.get? "title").bind Json.text?

end Mark

end Folio.Document
