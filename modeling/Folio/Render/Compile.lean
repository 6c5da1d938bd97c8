import Folio.Document.Node
import Folio.Html.CodeBlock
import Folio.Render.Heading
import Folio.Render.Mark

/-!
# Documents as markup

The compiler goes through a document tree in document order. Below a bound on the depth it writes
plain text instead of structure. The walk that only collects headings goes through the same nodes
with a list of those still to visit.

## Main definitions

* `Folio.compile`: the markup of a document, with the headings recorded on the way.
* `Folio.collectHeadings`: the same headings without the markup.
-/

namespace Folio

open Document

/-- The deepest level, the root being at level zero, that is written with its structure. -/
def maxDepth : Nat := 128

/-- An empty paragraph keeps its line. -/
def emptyParagraph : String := "<p>&nbsp;</p>\n"

/-- The link from a heading to itself. -/
def anchorLink (id : String) : String :=
  "<a href=\"#" ++ Html.escape id ++ "\" class=\"heading-anchor\" aria-hidden=\"true\">#</a>"

/-- The opening tag of a heading. -/
def headingOpen (level : Nat) (id : String) : String :=
  "<h" ++ toString level ++ " id=\"" ++ Html.escape id ++ "\">"

/-- The closing tag of a heading. -/
def headingClose (level : Nat) : String :=
  "</h" ++ toString level ++ ">\n"

/-- The link of a heading to itself, where the configuration asks for one. -/
def Renderer.anchor (renderer : Renderer) (id : String) : String :=
  if renderer.config.headings.anchorLinks then anchorLink id else ""

/-- The markup of an image, whose source is not looked at. -/
def imageTag (node : Node) : String :=
  "<img src=\"" ++ Html.escape ((node.textAttr? "src").getD "") ++ "\" alt=\"" ++
    Html.escape ((node.textAttr? "alt").getD "") ++ "\"" ++
    titleAttribute (node.textAttr? "title") ++ " />"

/-- The opening tag of an ordered list, with its start when that is not one. -/
def orderedOpen (start : Option Nat) : String :=
  match start with
  | some n => if n ≠ 1 then "<ol start=\"" ++ toString n ++ "\">\n" else "<ol>\n"
  | none => "<ol>\n"

/-- The markup of a node of a kind without compiled children. -/
def compileLeaf (node : Node) : String :=
  match node.kind with
  | .text => markedText (node.text.getD "") node.marks
  | .codeBlock => Html.codeBlock node.language? node.plainText
  | .image => imageTag node
  | .hardBreak => "<br />"
  | _ => ""

/-- The markup that a node other than a heading puts around that of its children. -/
def enclose (node : Node) (body : String) : String :=
  match node.kind with
  | .paragraph => if body.isEmpty then emptyParagraph else "<p>" ++ body ++ "</p>\n"
  | .bulletList => "<ul>\n" ++ body ++ "</ul>\n"
  | .orderedList => orderedOpen node.listStart? ++ body ++ "</ol>\n"
  | .listItem => "<li>" ++ body ++ "</li>\n"
  | .blockquote => "<blockquote>\n" ++ body ++ "</blockquote>\n"
  | _ => body

mutual

/-- The markup of a node at one depth, and the headings recorded with it. -/
def compileAt (renderer : Renderer) (depth : Nat) : Node → Headings → String × Headings
  | ⟨kind, attrs, content, text, marks⟩, headings =>
    let node : Node := ⟨kind, attrs, content, text, marks⟩
    if depth > maxDepth then (Html.escape node.plainText, headings)
    else if kind.isLeaf then (compileLeaf node, headings)
    else if kind = .heading then
      let (id, headings) := headings.assign renderer node.plainText node.headingLevel
      let (body, headings) := compileAll renderer (depth + 1) content headings
      (headingOpen node.headingLevel id ++ body ++ renderer.anchor id ++
        headingClose node.headingLevel, headings)
    else
      let (body, headings) := compileAll renderer (depth + 1) content headings
      (enclose node body, headings)

/-- The markup of several nodes at one depth, one after the other. -/
def compileAll (renderer : Renderer) (depth : Nat) : List Node → Headings → String × Headings
  | [], headings => ("", headings)
  | node :: rest, headings =>
    let (first, headings) := compileAt renderer depth node headings
    let (others, headings) := compileAll renderer depth rest headings
    (first ++ others, headings)

end

/-- The markup of a document, and the headings recorded with it. -/
def compile (renderer : Renderer) (root : Node) (headings : Headings) : String × Headings :=
  compileAt renderer 0 root headings

mutual

/-- How many nodes a tree has. -/
def Document.Node.count : Node → Nat
  | ⟨_, _, content, _, _⟩ => countAll content + 1

/-- How many nodes several trees have. -/
def Document.Node.countAll : List Node → Nat
  | [] => 0
  | node :: rest => node.count + countAll rest

end

/-- The nodes that the nodes still to visit lead to. -/
def pending (stack : List (Node × Nat)) : Nat :=
  stack.foldr (fun entry total => entry.1.count + total) 0

theorem Document.Node.count_eq (node : Node) : node.count = Node.countAll node.content + 1 := by
  cases node
  simp [Node.count]

/-- Nodes still to visit, all at one depth. -/
def atDepth (depth : Nat) (nodes : List Node) : List (Node × Nat) :=
  nodes.map (·, depth)

theorem pending_atDepth (depth : Nat) (nodes : List Node) (stack : List (Node × Nat)) :
    pending (atDepth depth nodes ++ stack) = Node.countAll nodes + pending stack := by
  induction nodes with
  | nil => simp [atDepth, Node.countAll]
  | cons node rest ih =>
    simp only [atDepth, pending, List.map_cons, List.cons_append, List.foldr_cons] at ih ⊢
    rw [ih, Node.countAll]
    omega

/-- Records the headings of the nodes still to visit, each given with its depth: the children of a
node come before the nodes after it. -/
def walkHeadings (renderer : Renderer) (stack : List (Node × Nat)) (headings : Headings) :
    Headings :=
  match stack with
  | [] => headings
  | (node, depth) :: rest =>
    if depth > maxDepth then walkHeadings renderer rest headings
    else
      let headings :=
        if node.kind = .heading then
          (headings.assign renderer node.plainText node.headingLevel).2
        else headings
      if node.kind.isLeaf then walkHeadings renderer rest headings
      else walkHeadings renderer (atDepth (depth + 1) node.content ++ rest) headings
termination_by pending stack
decreasing_by
  · simp [pending, node.count_eq]
  · simp [pending, node.count_eq]
  · rw [pending_atDepth]
    simp [pending, node.count_eq]

/-- Records the headings that a compilation of the document would record. -/
def collectHeadings (renderer : Renderer) (root : Node) (headings : Headings) : Headings :=
  walkHeadings renderer [(root, 0)] headings

end Folio
