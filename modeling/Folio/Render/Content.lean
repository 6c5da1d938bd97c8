import Folio.Document.OfJson
import Folio.Text.Blank
import Folio.Text.Replace

/-!
# Content in one of two formats

Stored content does not say which format it has. What looks like an object with a type is read as a
document tree; it is Markdown when that fails, and so is everything else.

## Main definitions

* `Folio.Content`: a document tree or a Markdown source.
* `Folio.looksStructured`: whether a text is worth reading as a tree.
* `Folio.Content.ofText`: the content that a text holds.
-/

namespace Folio

open Document

/-- The format of content. -/
inductive Format where
  | structured
  | markdown
  deriving DecidableEq, Repr

/-- The name of a format. -/
def Format.name : Format → String
  | .structured => "structured"
  | .markdown => "markdown"

/-- Content whose format is known. -/
inductive Content where
  | structured (root : Node)
  | markdown (source : String)
  deriving Repr

/-- The format of content. -/
def Content.format : Content → Format
  | .structured _ => .structured
  | .markdown _ => .markdown

/-- Whether a text may be a document tree: without outer white space it starts with a brace, and
it has the key of a type somewhere. -/
def looksStructured (text : String) : Bool :=
  let inner := (Text.trim text).toList
  inner.head? == some '\x7b' && Text.occursIn "\"type\"".toList inner

/-- The content that a text holds. White space around a document tree does not count, but is part
of a Markdown source. -/
def Content.ofText (text : String) : Content :=
  if looksStructured text then
    match Node.read (Text.trim text) with
    | .ok root => .structured root
    | .error _ => .markdown text
  else .markdown text

end Folio
