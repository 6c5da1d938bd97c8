import Folio.Render.Content
import Folio.Render.Markdown
import Folio.Render.Outline

/-!
# Rendered documents

Every text can be rendered. A rendering begins with no headings met, and its outline consists of
those that it records.

## Main definitions

* `Folio.Rendered`: the markup of a document, its outline and the format of its source.
* `Folio.Renderer.render`: renders a text.
* `Folio.Renderer.renderNode`: renders a document tree.
* `Folio.Renderer.outline`: the outline of a document tree without its markup.
-/

namespace Folio

open Document

/-- A document after rendering. -/
structure Rendered where
  /-- The markup. -/
  html : String
  /-- The outline of the headings in the markup. -/
  outline : List Entry
  /-- The format of the source. -/
  source : Format
  deriving Repr

/-- The outline of a document tree. -/
def Renderer.outline (renderer : Renderer) (root : Node) : List Entry :=
  Folio.outline (collectHeadings renderer root {}).records

/-- Renders a document tree. -/
def Renderer.renderNode (renderer : Renderer) (root : Node) : Rendered :=
  let (html, headings) := compile renderer root {}
  ⟨html, Folio.outline headings.records, .structured⟩

/-- Renders a Markdown source. -/
def Renderer.renderMarkdown (renderer : Renderer) (source : String) : Rendered :=
  let (html, headings) := compileMarkdown renderer source {}
  ⟨html, Folio.outline headings.records, .markdown⟩

/-- Renders content. -/
def Renderer.renderContent (renderer : Renderer) : Content → Rendered
  | .structured root => renderer.renderNode root
  | .markdown source => renderer.renderMarkdown source

/-- Renders a text in either format. -/
def Renderer.render (renderer : Renderer) (text : String) : Rendered :=
  renderer.renderContent (Content.ofText text)

/-- The outline of a text in either format. That of a document tree needs no markup. -/
def Renderer.outlineOf (renderer : Renderer) (text : String) : List Entry :=
  match Content.ofText text with
  | .structured root => renderer.outline root
  | .markdown source => (renderer.renderMarkdown source).outline

/-- The outline of a document tree under the default configuration. -/
def outlineOfNode (root : Node) : List Entry :=
  Renderer.outline {} root

end Folio
