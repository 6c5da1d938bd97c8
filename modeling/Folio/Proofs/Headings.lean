import Folio.Proofs.Assignment
import Folio.Proofs.Visit
import Folio.Render.Rendered

/-!
# Compiling and collecting headings agree

The compiler is a recursion that writes markup on the way; the walk that only collects headings
goes through a list of nodes still to visit. Both meet the same headings in the same order, namely
`Node.titles`, and assign identifiers to them in that order. The outline of a document can
therefore be had without its markup.

## Main definitions

* `Folio.Document.Node.titles`: the headings that a visit of a node meets.

## Main results

* `Folio.headings_compileAt`: the compiler assigns identifiers to the headings that it meets.
* `Folio.walkHeadings_cons`: so does the walk, before it goes on with the nodes still to visit.
* `Folio.outline_without_markup`: the two agree from every state, and so do the outlines made
  from them.
-/

namespace Folio

open Document

mutual

/-- The headings that a visit of a node at one depth meets, in document order. -/
def Document.Node.titles (depth : Nat) : Node → List Title
  | ⟨kind, attrs, content, text, marks⟩ =>
    let node : Node := ⟨kind, attrs, content, text, marks⟩
    if depth > maxDepth ∨ kind.isLeaf then []
    else if kind = .heading then
      ⟨node.plainText, node.headingLevel⟩ :: titlesAll (depth + 1) content
    else titlesAll (depth + 1) content

/-- The headings that visits of several nodes at one depth meet. -/
def Document.Node.titlesAll (depth : Nat) : List Node → List Title
  | [] => []
  | node :: rest => node.titles depth ++ titlesAll depth rest

end

section Titles

variable {depth : Nat} {node : Node}

theorem titles_deep (hdepth : maxDepth < depth) : node.titles depth = [] := by
  cases node
  simp only [Node.titles, gt_iff_lt, hdepth, true_or, ↓reduceIte]

theorem titles_leaf (hleaf : node.kind.isLeaf = true) : node.titles depth = [] := by
  cases node
  simp only at hleaf
  simp only [Node.titles, hleaf, or_true, ↓reduceIte]

theorem titles_heading (hdepth : depth ≤ maxDepth) (hkind : node.kind = .heading) :
    node.titles depth =
      ⟨node.plainText, node.headingLevel⟩ :: Node.titlesAll (depth + 1) node.content := by
  cases node
  subst hkind
  simp only [Node.titles, gt_iff_lt, Nat.not_lt.2 hdepth, NodeKind.isLeaf, Bool.false_eq_true,
    or_self, ↓reduceIte]

theorem titles_branch (hdepth : depth ≤ maxDepth) (hleaf : node.kind.isLeaf = false)
    (hkind : node.kind ≠ .heading) :
    node.titles depth = Node.titlesAll (depth + 1) node.content := by
  cases node
  simp only at hleaf hkind
  simp only [Node.titles, gt_iff_lt, Nat.not_lt.2 hdepth, hleaf, hkind, Bool.false_eq_true,
    or_self, ↓reduceIte]

end Titles

/-! ### The compiler -/

section Compile

variable (renderer : Renderer)

private theorem compile_cases :
    VisitCases
      (fun depth node => ∀ headings : Headings,
        (compileAt renderer depth node headings).2 =
          headings.assignAll renderer (node.titles depth))
      (fun depth nodes => ∀ headings : Headings,
        (compileAll renderer depth nodes headings).2 =
          headings.assignAll renderer (Node.titlesAll depth nodes)) where
  deep depth node hdepth headings := by
    rw [compileAt_deep renderer headings hdepth, titles_deep hdepth, Headings.assignAll_nil]
  leaf depth node hdepth hleaf headings := by
    rw [compileAt_leaf renderer headings hdepth hleaf, titles_leaf hleaf, Headings.assignAll_nil]
  heading depth node hdepth hkind below headings := by
    rw [compileAt_heading renderer headings hdepth hkind, titles_heading hdepth hkind,
      Headings.assignAll_cons]
    exact below _
  branch depth node hdepth hleaf hkind below headings := by
    rw [compileAt_branch renderer headings hdepth hleaf hkind, titles_branch hdepth hleaf hkind]
    exact below headings
  nil depth headings := by
    rw [compileAll_nil, Node.titlesAll, Headings.assignAll_nil]
  cons depth node rest first others headings := by
    rw [compileAll_cons, Node.titlesAll, Headings.assignAll_append, ← first]
    exact others _

/-- The compiler assigns identifiers to the headings that a visit of the node meets. -/
theorem headings_compileAt (depth : Nat) (node : Node) (headings : Headings) :
    (compileAt renderer depth node headings).2 =
      headings.assignAll renderer (node.titles depth) :=
  (compile_cases renderer).node depth node headings

end Compile

/-! ### The walk -/

section Walk

variable (renderer : Renderer)

private theorem walk_cases :
    VisitCases
      (fun depth node => ∀ stack headings,
        walkHeadings renderer ((node, depth) :: stack) headings =
          walkHeadings renderer stack (headings.assignAll renderer (node.titles depth)))
      (fun depth nodes => ∀ stack headings,
        walkHeadings renderer (atDepth depth nodes ++ stack) headings =
          walkHeadings renderer stack
            (headings.assignAll renderer (Node.titlesAll depth nodes))) where
  deep depth node hdepth stack headings := by
    rw [walkHeadings, titles_deep hdepth, Headings.assignAll_nil]
    simp only [gt_iff_lt, hdepth, ↓reduceIte]
  leaf depth node hdepth hleaf stack headings := by
    have hkind : node.kind ≠ .heading := by
      rintro hkind
      simp [hkind, NodeKind.isLeaf] at hleaf
    rw [walkHeadings, titles_leaf hleaf, Headings.assignAll_nil]
    simp only [gt_iff_lt, Nat.not_lt.2 hdepth, hleaf, hkind, ↓reduceIte]
  heading depth node hdepth hkind below stack headings := by
    -- The heading is recorded before its children are put in front of the stack.
    rw [walkHeadings, titles_heading hdepth hkind, Headings.assignAll_cons]
    simp only [gt_iff_lt, Nat.not_lt.2 hdepth, hkind, NodeKind.isLeaf, Bool.false_eq_true,
      ↓reduceIte]
    exact below stack _
  branch depth node hdepth hleaf hkind below stack headings := by
    rw [walkHeadings, titles_branch hdepth hleaf hkind]
    simp only [gt_iff_lt, Nat.not_lt.2 hdepth, hleaf, hkind, Bool.false_eq_true, ↓reduceIte]
    exact below stack headings
  nil depth stack headings := by
    rw [Node.titlesAll, Headings.assignAll_nil]
    rfl
  cons depth node rest first others stack headings := by
    rw [Node.titlesAll, Headings.assignAll_append, ← others stack, ← first]
    rfl

/-- The walk assigns identifiers to the headings that a visit of its first node meets, and then
goes on with the nodes still to visit. -/
theorem walkHeadings_cons (node : Node) (depth : Nat) (stack : List (Node × Nat))
    (headings : Headings) :
    walkHeadings renderer ((node, depth) :: stack) headings =
      walkHeadings renderer stack (headings.assignAll renderer (node.titles depth)) :=
  (walk_cases renderer).node depth node stack headings

end Walk

/-! ### Agreement -/

section Agreement

variable (renderer : Renderer) (root : Node)

theorem headings_compile (headings : Headings) :
    (compile renderer root headings).2 = headings.assignAll renderer (root.titles 0) :=
  headings_compileAt renderer 0 root headings

theorem collectHeadings_eq (headings : Headings) :
    collectHeadings renderer root headings = headings.assignAll renderer (root.titles 0) := by
  rw [collectHeadings, walkHeadings_cons, walkHeadings]

/-- The outline made without markup is that of the rendering. -/
theorem outline_eq_renderNode : renderer.outline root = (renderer.renderNode root).outline := by
  simp only [Renderer.outline, Renderer.renderNode, collectHeadings_eq, headings_compile]

theorem outlineOf_eq_render (text : String) :
    renderer.outlineOf text = (renderer.render text).outline := by
  rw [Renderer.outlineOf, Renderer.render]
  cases Content.ofText text with
  | structured root => exact outline_eq_renderNode renderer root
  | markdown source => rfl

end Agreement

/-- **The outline needs no markup.** From every state, compiling a document and collecting its
headings leave the same records and the same occurrences: the earlier records stay, new ones follow
them, and the count of a text grows by the number of new records with that text. So the outline of
a document tree is that of its rendering, under the default configuration too, and the outline of a
text is that of its rendering in either format. -/
theorem outline_without_markup :
    (∀ (renderer : Renderer) (root : Node) (headings : Headings),
      (compile renderer root headings).2 = collectHeadings renderer root headings ∧
      ∃ new : List Heading,
        (compile renderer root headings).2.records = headings.records ++ new ∧
        ∀ text, (compile renderer root headings).2.met.count text =
          headings.met.count text + (new.map Heading.text).count text) ∧
    (∀ (renderer : Renderer) (root : Node),
      renderer.outline root = (renderer.renderNode root).outline) ∧
    (∀ root : Node, outlineOfNode root = (Renderer.renderNode {} root).outline) ∧
    ∀ (renderer : Renderer) (text : String),
      renderer.outlineOf text = (renderer.render text).outline := by
  refine ⟨fun renderer root headings => ⟨?_, ?_⟩, outline_eq_renderNode,
    fun root => outline_eq_renderNode {} root, outlineOf_eq_render⟩
  · rw [headings_compile, collectHeadings_eq]
  · refine ⟨renderer.assigned headings.met (root.titles 0), ?_, fun text => ?_⟩
    · rw [headings_compile, Headings.records_assignAll]
    · rw [headings_compile, Headings.count_assignAll, renderer.map_text_assigned]

end Folio
