import Folio.Config
import Folio.Html.Slug

/-!
# Headings of one rendering

Identifiers are given to headings in document order. A heading is numbered among those with the
same text, and identifier, text and level are kept for the outline.

## Main definitions

* `Folio.Occurrences`: the heading texts met so far.
* `Folio.Heading`: a heading with its identifier.
* `Folio.Renderer`: the configuration and the form of identifiers.
* `Folio.Headings`: what a rendering has recorded, with `Headings.assign` for one more heading.
-/

namespace Folio

/-- The heading texts met so far, the latest first. -/
structure Occurrences where
  texts : List String := []
  deriving DecidableEq, Repr

namespace Occurrences

/-- How often a text was met. -/
def count (met : Occurrences) (text : String) : Nat := met.texts.count text

/-- Meets a text once more. -/
def record (met : Occurrences) (text : String) : Occurrences := ⟨text :: met.texts⟩

theorem count_record (met : Occurrences) (text other : String) :
    (met.record text).count other = met.count other + if text = other then 1 else 0 := by
  simp [count, record, List.count_cons]

/-- The identifier of the next heading with a text, and the texts met with it. -/
def allocate (met : Occurrences) (text : String) : String × Occurrences :=
  (Html.headingId text ((met.record text).count text), met.record text)

end Occurrences

/-- A heading of a rendered document. -/
structure Heading where
  /-- The identifier, by which links find the heading. -/
  id : String
  /-- The text without marks. -/
  text : String
  /-- The level, one for the highest. -/
  level : Nat
  deriving DecidableEq, Repr

/-- What stays the same throughout a rendering. -/
structure Renderer where
  /-- The options of the user. -/
  config : Config := {}
  /-- The identifier of the n-th heading with a text, counted from one. -/
  idFormat : String → Nat → String := Html.headingId

/-- What a rendering has recorded about headings. -/
structure Headings where
  /-- The texts met so far. -/
  met : Occurrences := {}
  /-- The headings so far, in document order. -/
  records : List Heading := []
  deriving DecidableEq, Repr

/-- Gives an identifier to one more heading and records it. -/
def Headings.assign (headings : Headings) (renderer : Renderer) (text : String) (level : Nat) :
    String × Headings :=
  let met := headings.met.record text
  let id := renderer.idFormat text (met.count text)
  (id, ⟨met, headings.records ++ [⟨id, text, level⟩]⟩)

end Folio
