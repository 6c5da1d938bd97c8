/-!
# Markdown events

A Markdown document is a sequence of events: blocks and spans open and close around text. Markup
is made from this sequence alone.
-/

namespace Folio.Markdown

/-- How the cells of a table column are aligned. -/
inductive Alignment where
  | unset
  | left
  | center
  | right
  deriving DecidableEq, Repr

/-- What opens and closes around other events. -/
inductive Tag where
  | paragraph
  | heading (level : Nat)
  | quote
  /-- A code block, with the text after its opening fence if it has one. -/
  | codeBlock (info : Option String)
  | htmlBlock
  /-- A list, with its first number if it is ordered. -/
  | list (start : Option Nat)
  | item
  | table (columns : List Alignment)
  | tableHead
  | tableRow
  | tableCell
  | emphasis
  | strong
  | strikethrough
  | link (address title : String)
  | image (address title : String)
  deriving DecidableEq, Repr

/-- One event. -/
inductive Event where
  | start (tag : Tag)
  /-- The end of what the tag started. -/
  | stop (tag : Tag)
  | text (text : String)
  | code (text : String)
  /-- Markup that makes a block. -/
  | html (markup : String)
  /-- Markup within text. -/
  | inlineHtml (markup : String)
  | softBreak
  | hardBreak
  | rule
  /-- The check box of a list item. -/
  | taskMarker (checked : Bool)
  deriving DecidableEq, Repr

end Folio.Markdown
