import Folio.Document.Mark
import Folio.Text.Blank

/-!
# Document trees

A document is a tree of nodes: each has a kind, attributes, children in order and, on text leaves,
a text with marks.

## Main definitions

* `Folio.Document.NodeKind`: the kinds of nodes, with the tags that name them.
* `Folio.Document.Node`: a node with everything below it.
* `Folio.Document.Node.plainText`: the text below a node, without marks.
* `Folio.Document.Node.natAttr?`: an attribute that counts something.
-/

namespace Folio.Document

/-- The kind of a node. -/
inductive NodeKind where
  | document
  | paragraph
  | heading
  | text
  | bulletList
  | orderedList
  | listItem
  | codeBlock
  | blockquote
  | image
  | hardBreak
  | unknown (tag : String)
  deriving DecidableEq, Repr

namespace NodeKind

/-- The tag under which a kind of node is written. -/
def tag : NodeKind → String
  | document => "doc"
  | paragraph => "paragraph"
  | heading => "heading"
  | text => "text"
  | bulletList => "bulletList"
  | orderedList => "orderedList"
  | listItem => "listItem"
  | codeBlock => "codeBlock"
  | blockquote => "blockquote"
  | image => "image"
  | hardBreak => "hardBreak"
  | unknown tag => tag

/-- The kind of node that a tag names; documents have a second tag. -/
def ofTag : String → NodeKind
  | "doc" | "document" => document
  | "paragraph" => paragraph
  | "heading" => heading
  | "text" => text
  | "bulletList" => bulletList
  | "orderedList" => orderedList
  | "listItem" => listItem
  | "codeBlock" => codeBlock
  | "blockquote" => blockquote
  | "image" => image
  | "hardBreak" => hardBreak
  | tag => unknown tag

/-- Whether nodes below this kind are not compiled as nodes. -/
def isLeaf : NodeKind → Bool
  | text | codeBlock | image | hardBreak => true
  | _ => false

end NodeKind

/-- A node of a document tree. -/
structure Node where
  /-- What the node is. -/
  kind : NodeKind
  /-- Its attributes. -/
  attrs : Attributes := []
  /-- Its children, in document order. -/
  content : List Node := []
  /-- The text of a text leaf. -/
  text : Option String := none
  /-- The marks of a text leaf, the innermost first. -/
  marks : List Mark := []
  deriving Repr

namespace Node

/-- A text leaf. -/
def leaf (text : String) (marks : List Mark := []) : Node :=
  { kind := .text, text := some text, marks }

/-- A node with children. -/
def branch (kind : NodeKind) (content : List Node) : Node :=
  { kind, content }

/-- The node with one attribute set. -/
def withAttr (node : Node) (key : String) (value : Json) : Node :=
  { node with attrs := node.attrs.insert key value }

/-- A heading with a single text leaf. -/
def headingOf (level : Nat) (text : String) : Node :=
  (branch .heading [leaf text]).withAttr "level" (.number (.integer level))

/-- A code block with a single text leaf, in a language if one is named. -/
def codeOf (language : Option String) (code : String) : Node :=
  let node := branch .codeBlock [leaf code]
  match language with
  | some name => node.withAttr "language" (.string name)
  | none => node

mutual

/-- The text of a node and of all nodes below it, in document order. Nothing below a text leaf
counts. -/
def plainText : Node → String
  | ⟨kind, _, content, text, _⟩ =>
    text.getD "" ++ if kind = .text then "" else plainTextAll content

/-- The texts of several nodes, one after the other. -/
def plainTextAll : List Node → String
  | [] => ""
  | node :: rest => plainText node ++ plainTextAll rest

end

/-- An attribute that is a string. -/
def textAttr? (node : Node) (key : String) : Option String :=
  (node.attrs.get? key).bind Json.text?

/-- The largest count that an attribute can hold. -/
def maxCount : Nat := 1 <<< 64 - 1

/-- A count in decimal digits, perhaps after a plus sign. -/
def readCount? (s : String) : Option Nat :=
  let digits :=
    match s.toList with
    | '+' :: rest => rest
    | cs => cs
  if digits.isEmpty || !digits.all Char.isDigit then none
  else
    let n := digits.foldl (fun n c => n * 10 + (c.toNat - '0'.toNat)) 0
    if n ≤ maxCount then some n else none

/-- An attribute that counts: a number that is not negative, without its fraction, or the same in
a string. -/
def natAttr? (node : Node) (key : String) : Option Nat :=
  match node.attrs.get? key with
  | some (.number (.integer value)) => if 0 ≤ value then some value.toNat else none
  | some (.number (.double value)) =>
    if value.negative && !value.isZero then none else some value.toNat64
  | some (.string value) => readCount? (Text.trim value)
  | _ => none

/-- The level of a heading, from one to six; one when the attribute does not say. -/
def headingLevel (node : Node) : Nat :=
  match node.natAttr? "level" with
  | some level => max 1 (min level 6)
  | none => 1

/-- The language of a code block. -/
def language? (node : Node) : Option String := node.textAttr? "language"

/-- The number of the first item of an ordered list. -/
def listStart? (node : Node) : Option Nat := node.natAttr? "start"

end Node

end Folio.Document
