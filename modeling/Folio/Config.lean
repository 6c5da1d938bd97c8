/-!
# Configuration

What a user can choose, in four sections. Every option has a default.
-/

namespace Folio

/-- Options of headings. -/
structure HeadingOptions where
  /-- Puts a link to itself into every heading. -/
  anchorLinks : Bool := false
  deriving DecidableEq, Repr

/-- Options of Markdown. -/
structure MarkdownOptions where
  /-- Reads pipe tables. -/
  tables : Bool := true
  /-- Reads text between tildes as struck out. -/
  strikethrough : Bool := true
  /-- Reads check boxes at the start of list items. -/
  tasklists : Bool := true
  /-- Passes raw markup through instead of showing it as text. -/
  allowRawHtml : Bool := false
  deriving DecidableEq, Repr

/-- Options of code highlighting. -/
structure HighlightOptions where
  /-- Highlights code blocks of pages. -/
  enabled : Bool := true
  /-- The theme whose styles go into pages. -/
  theme : String := "base16-ocean.dark"
  deriving DecidableEq, Repr

/-- Options of pages. -/
structure PageOptions where
  /-- The title of a page that has none of its own. -/
  title : String := "Document"
  /-- Puts the outline above the document. -/
  includeToc : Bool := true
  deriving DecidableEq, Repr

/-- The whole configuration. -/
structure Config where
  headings : HeadingOptions := {}
  markdown : MarkdownOptions := {}
  highlight : HighlightOptions := {}
  page : PageOptions := {}
  deriving DecidableEq, Repr

end Folio
