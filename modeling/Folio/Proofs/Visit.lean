import Folio.Render.Compile

/-!
# Visiting a document

The compiler and the walk for headings go through a document in one way. A node below the bound on
the depth is not entered, and neither is a leaf; every other node leads to its children, one level
deeper. An induction that follows this visit has one case for each of the four ways to meet a node.

## Main definitions

* `Folio.VisitCases`: the cases of an induction along a visit.

## Main results

* `Folio.VisitCases.node`, `Folio.VisitCases.nodes`: the induction along a visit.
* `Folio.compileAt_deep`, `Folio.compileAt_leaf`, `Folio.compileAt_heading`,
  `Folio.compileAt_branch`: what the compiler writes for a node met in each of the four ways.
-/

namespace Folio

open Document

/-- The cases of an induction along a visit: `P` speaks of a node met at a depth, and `Q` of several
nodes met at one depth. -/
structure VisitCases (P : Nat → Node → Prop) (Q : Nat → List Node → Prop) : Prop where
  deep : ∀ depth node, maxDepth < depth → P depth node
  leaf : ∀ depth node, depth ≤ maxDepth → node.kind.isLeaf = true → P depth node
  heading : ∀ depth node, depth ≤ maxDepth → node.kind = .heading →
    Q (depth + 1) node.content → P depth node
  branch : ∀ depth node, depth ≤ maxDepth → node.kind.isLeaf = false → node.kind ≠ .heading →
    Q (depth + 1) node.content → P depth node
  nil : ∀ depth, Q depth []
  cons : ∀ depth node rest, P depth node → Q depth rest → Q depth (node :: rest)

namespace VisitCases

variable {P : Nat → Node → Prop} {Q : Nat → List Node → Prop}

/-- A property of a node follows from that of its children, whichever way the node is met. -/
theorem of_content (visit : VisitCases P Q) {depth : Nat} {node : Node}
    (below : Q (depth + 1) node.content) : P depth node := by
  rcases Nat.lt_or_ge maxDepth depth with hdeep | hdepth
  · exact visit.deep depth node hdeep
  · cases hleaf : node.kind.isLeaf with
    | true => exact visit.leaf depth node hdepth hleaf
    | false =>
      by_cases hkind : node.kind = .heading
      · exact visit.heading depth node hdepth hkind below
      · exact visit.branch depth node hdepth hleaf hkind below

mutual

-- Nodes nest through lists of children, so that both inductions go on together.

/-- **Induction along a visit**, for a node. -/
theorem node (visit : VisitCases P Q) (depth : Nat) : (node : Node) → P depth node
  | ⟨_, _, content, _, _⟩ => visit.of_content (visit.nodes (depth + 1) content)

/-- **Induction along a visit**, for several nodes. -/
theorem nodes (visit : VisitCases P Q) (depth : Nat) : (nodes : List Node) → Q depth nodes
  | [] => visit.nil depth
  | node :: rest => visit.cons depth node rest (visit.node depth node) (visit.nodes depth rest)

end

end VisitCases

/-! ### What the compiler writes for a node -/

section Compile

variable (renderer : Renderer) {depth : Nat} {node : Node} (headings : Headings)

theorem compileAt_deep (hdepth : maxDepth < depth) :
    compileAt renderer depth node headings = (Html.escape node.plainText, headings) := by
  cases node
  simp only [compileAt, gt_iff_lt, hdepth, ↓reduceIte]

theorem compileAt_leaf (hdepth : depth ≤ maxDepth) (hleaf : node.kind.isLeaf = true) :
    compileAt renderer depth node headings = (compileLeaf node, headings) := by
  cases node
  simp only [compileAt, gt_iff_lt, Nat.not_lt.2 hdepth, hleaf, ↓reduceIte]

theorem compileAt_heading (hdepth : depth ≤ maxDepth) (hkind : node.kind = .heading) :
    compileAt renderer depth node headings =
      let assigned := headings.assign renderer node.plainText node.headingLevel
      let body := compileAll renderer (depth + 1) node.content assigned.2
      (headingOpen node.headingLevel assigned.1 ++ body.1 ++ renderer.anchor assigned.1 ++
        headingClose node.headingLevel, body.2) := by
  cases node
  subst hkind
  simp only [compileAt, gt_iff_lt, Nat.not_lt.2 hdepth, NodeKind.isLeaf, Bool.false_eq_true,
    ↓reduceIte]

theorem compileAt_branch (hdepth : depth ≤ maxDepth) (hleaf : node.kind.isLeaf = false)
    (hkind : node.kind ≠ .heading) :
    compileAt renderer depth node headings =
      let body := compileAll renderer (depth + 1) node.content headings
      (enclose node body.1, body.2) := by
  cases node
  simp only at hleaf hkind
  simp only [compileAt, gt_iff_lt, Nat.not_lt.2 hdepth, hleaf, hkind, Bool.false_eq_true,
    ↓reduceIte]

theorem compileAll_nil : compileAll renderer depth [] headings = ("", headings) := by
  simp only [compileAll]

theorem compileAll_cons (rest : List Node) :
    compileAll renderer depth (node :: rest) headings =
      let first := compileAt renderer depth node headings
      let others := compileAll renderer depth rest first.2
      (first.1 ++ others.1, others.2) := by
  simp only [compileAll]

end Compile

end Folio
