import Folio.Proofs.DocumentDepth
import Folio.Proofs.Headings

/-!
# What the bound on the depth leaves

Below a bound on the depth the compiler writes plain text. Nothing is lost by it: cut off the tree
there, with a text leaf in the place of each node just below the bound, and a compiler that knows no
bound writes the same and records the same headings. A leaf in the place of a node has the text of
everything below that node, so that the plain text of any node above it is the same in both trees;
headings and code blocks, which are made from the plain text of whole subtrees, cannot tell them
apart.

## Main definitions

* `Folio.compileUnbounded`: the compiler without a bound on the depth.
* `Folio.Document.Node.cutAt`, `Folio.Document.Node.truncate`: a tree cut off at a depth.
* `Folio.Document.Node.nodesBelow`: the nodes some levels below a node.
* `Folio.InOrder`: texts that stand in a text one after the other.
* `Folio.KeepsText`: what a rendering keeps of the text of a document of any depth.

## Main results

* `Folio.compileAt_cutAt`: a tree that is cut off compiles to the same without a bound.
* `Folio.inOrder_compileAt`: the markup of the nodes that a visit meets stands in it in order.
* `Folio.keepsText`: the bound on the depth loses no text.
-/

namespace Folio

open Document

/-! ### A compiler without a bound -/

mutual

/-- The markup of a node, however deep it stands and however deep the nodes below it are, and the
headings recorded with it. -/
def compileUnbounded (renderer : Renderer) : Node → Headings → String × Headings
  | ⟨kind, attrs, content, text, marks⟩, headings =>
    let node : Node := ⟨kind, attrs, content, text, marks⟩
    if kind.isLeaf then (compileLeaf node, headings)
    else if kind = .heading then
      let (id, headings) := headings.assign renderer node.plainText node.headingLevel
      let (body, headings) := compileAllUnbounded renderer content headings
      (headingOpen node.headingLevel id ++ body ++ renderer.anchor id ++
        headingClose node.headingLevel, headings)
    else
      let (body, headings) := compileAllUnbounded renderer content headings
      (enclose node body, headings)

/-- The markup of several nodes, one after the other. -/
def compileAllUnbounded (renderer : Renderer) : List Node → Headings → String × Headings
  | [], headings => ("", headings)
  | node :: rest, headings =>
    let (first, headings) := compileUnbounded renderer node headings
    let (others, headings) := compileAllUnbounded renderer rest headings
    (first ++ others, headings)

end

section Equations

variable (renderer : Renderer) {node : Node} (headings : Headings)

theorem compileUnbounded_leaf (hleaf : node.kind.isLeaf = true) :
    compileUnbounded renderer node headings = (compileLeaf node, headings) := by
  cases node
  simp only [compileUnbounded, hleaf, ↓reduceIte]

theorem compileUnbounded_heading (hkind : node.kind = .heading) :
    compileUnbounded renderer node headings =
      let assigned := headings.assign renderer node.plainText node.headingLevel
      let body := compileAllUnbounded renderer node.content assigned.2
      (headingOpen node.headingLevel assigned.1 ++ body.1 ++ renderer.anchor assigned.1 ++
        headingClose node.headingLevel, body.2) := by
  cases node
  subst hkind
  simp only [compileUnbounded, NodeKind.isLeaf, Bool.false_eq_true, ↓reduceIte]

theorem compileUnbounded_branch (hleaf : node.kind.isLeaf = false) (hkind : node.kind ≠ .heading) :
    compileUnbounded renderer node headings =
      let body := compileAllUnbounded renderer node.content headings
      (enclose node body.1, body.2) := by
  cases node
  simp only at hleaf hkind
  simp only [compileUnbounded, hleaf, hkind, Bool.false_eq_true, ↓reduceIte]

theorem compileUnbounded_textLeaf (text : String) :
    compileUnbounded renderer (.leaf text) headings = (Html.escape text, headings) := by
  rw [compileUnbounded_leaf renderer headings rfl]
  rfl

theorem compileAllUnbounded_nil :
    compileAllUnbounded renderer [] headings = ("", headings) := by
  simp only [compileAllUnbounded]

theorem compileAllUnbounded_cons (rest : List Node) :
    compileAllUnbounded renderer (node :: rest) headings =
      let first := compileUnbounded renderer node headings
      let others := compileAllUnbounded renderer rest first.2
      (first.1 ++ others.1, others.2) := by
  simp only [compileAllUnbounded]

end Equations

/-! ### Trees that are cut off -/

namespace Document.Node

/-- The tree with a text leaf, which holds all the text of the node, in the place of each node some
levels below the root. -/
def cutAt : Nat → Node → Node
  | 0, node => leaf node.plainText
  | levels + 1, node => { node with content := node.content.map (cutAt levels) }

/-- The tree cut off just below the deepest level that is written with its structure. -/
def truncate (root : Node) : Node := root.cutAt (maxDepth + 1)

theorem plainText_eq (node : Node) :
    node.plainText =
      node.text.getD "" ++ if node.kind = .text then "" else plainTextAll node.content := by
  cases node
  rw [plainText]

theorem plainText_leaf (text : String) : (leaf text).plainText = text := by
  rw [plainText_eq]
  exact String.append_empty

theorem plainTextAll_map {f : Node → Node} {nodes : List Node}
    (h : ∀ node ∈ nodes, (f node).plainText = node.plainText) :
    plainTextAll (nodes.map f) = plainTextAll nodes := by
  induction nodes with
  | nil => rfl
  | cons node rest ih =>
    obtain ⟨hnode, hrest⟩ := List.forall_mem_cons.1 h
    rw [List.map_cons, plainTextAll, plainTextAll, hnode, ih hrest]

/-- **A tree that is cut off has the text of the whole tree.** -/
theorem plainText_cutAt (levels : Nat) (node : Node) :
    (node.cutAt levels).plainText = node.plainText := by
  induction levels generalizing node with
  | zero => exact plainText_leaf _
  | succ levels ih =>
    rw [plainText_eq, plainText_eq node, cutAt, plainTextAll_map fun child _ => ih child]

theorem heightAll_le {n : Nat} {nodes : List Node} :
    heightAll nodes ≤ n ↔ ∀ node ∈ nodes, node.height ≤ n := by
  induction nodes with
  | nil => simp only [heightAll, Nat.zero_le, List.not_mem_nil, false_implies, implies_true]
  | cons node rest ih => rw [heightAll, Nat.max_le, ih, List.forall_mem_cons]

theorem height_eq (node : Node) : node.height = heightAll node.content + 1 := by
  cases node
  rw [height]

/-- A tree that ends above the cut stays as it is. -/
theorem cutAt_of_height_le {levels : Nat} {node : Node} (h : node.height ≤ levels) :
    node.cutAt levels = node := by
  induction levels generalizing node with
  | zero => exact absurd (node.height_eq ▸ h) (Nat.not_succ_le_zero _)
  | succ levels ih =>
    rw [height_eq, Nat.add_le_add_iff_right, heightAll_le] at h
    rw [cutAt, List.map_congr_left fun child hchild => ih (h child hchild), List.map_id']
    cases node
    rfl

theorem kind_cutAt (levels : Nat) (node : Node) : (node.cutAt (levels + 1)).kind = node.kind := rfl

end Document.Node

theorem compileLeaf_cutAt (levels : Nat) (node : Node) :
    compileLeaf (node.cutAt (levels + 1)) = compileLeaf node := by
  have hcode : Html.codeBlock (node.cutAt (levels + 1)).language?
      (node.cutAt (levels + 1)).plainText = Html.codeBlock node.language? node.plainText := by
    rw [Node.plainText_cutAt]
    rfl
  unfold compileLeaf
  rw [Node.kind_cutAt]
  cases node.kind
  case codeBlock => exact hcode
  all_goals rfl

/-! ### The two compilers agree -/

section Agreement

variable (renderer : Renderer)

private theorem cutAt_cases :
    VisitCases
      (fun depth node => ∀ levels, depth + levels = maxDepth + 1 → ∀ headings,
        compileAt renderer depth node headings =
          compileUnbounded renderer (node.cutAt levels) headings)
      (fun depth nodes => ∀ levels, depth + levels = maxDepth + 1 → ∀ headings,
        compileAll renderer depth nodes headings =
          compileAllUnbounded renderer (nodes.map (Node.cutAt levels)) headings) where
  deep depth node hdepth levels hlevels headings := by
    obtain rfl : levels = 0 := by omega
    rw [compileAt_deep renderer headings hdepth, Node.cutAt, compileUnbounded_textLeaf]
  leaf depth node hdepth hleaf levels hlevels headings := by
    obtain ⟨rest, rfl⟩ : ∃ rest, levels = rest + 1 := ⟨levels - 1, by omega⟩
    have hcut : (node.cutAt (rest + 1)).kind.isLeaf = true := hleaf
    rw [compileAt_leaf renderer headings hdepth hleaf,
      compileUnbounded_leaf renderer headings hcut, compileLeaf_cutAt]
  heading depth node hdepth hkind below levels hlevels headings := by
    obtain ⟨rest, rfl⟩ : ∃ rest, levels = rest + 1 := ⟨levels - 1, by omega⟩
    have hcut : (node.cutAt (rest + 1)).kind = .heading := hkind
    rw [compileAt_heading renderer headings hdepth hkind,
      compileUnbounded_heading renderer headings hcut, Node.plainText_cutAt]
    simp only [below rest (by omega)]
    rfl
  branch depth node hdepth hleaf hkind below levels hlevels headings := by
    obtain ⟨rest, rfl⟩ : ∃ rest, levels = rest + 1 := ⟨levels - 1, by omega⟩
    have hcut : (node.cutAt (rest + 1)).kind.isLeaf = false := hleaf
    rw [compileAt_branch renderer headings hdepth hleaf hkind,
      compileUnbounded_branch renderer headings hcut hkind]
    simp only [below rest (by omega)]
    rfl
  nil depth levels _ headings := by
    rw [compileAll_nil, List.map_nil, compileAllUnbounded_nil]
  cons depth node rest first others levels hlevels headings := by
    rw [compileAll_cons, List.map_cons, compileAllUnbounded_cons]
    simp only [first levels hlevels, others levels hlevels]

/-- **A tree that is cut off compiles to the same without a bound**: the nodes that the compiler
meets just below the bound are the text leaves of the tree that is cut off there. -/
theorem compileAt_cutAt {depth levels : Nat} (hlevels : depth + levels = maxDepth + 1)
    (node : Node) (headings : Headings) :
    compileAt renderer depth node headings =
      compileUnbounded renderer (node.cutAt levels) headings :=
  (cutAt_cases renderer).node depth node levels hlevels headings

end Agreement

/-! ### Nodes some levels below -/

/-- The nodes a number of levels below a node, in document order, where those of some kinds lead to
nothing. -/
def Document.Node.nodesBelow (ends : NodeKind → Bool) : Nat → Node → List Node
  | 0, node => [node]
  | levels + 1, node => if ends node.kind then [] else node.content.flatMap (nodesBelow ends levels)

theorem nodesBelow_succ_of_pos {ends : NodeKind → Bool} {node : Node} (h : ends node.kind = true)
    (levels : Nat) : node.nodesBelow ends (levels + 1) = [] := by
  rw [Node.nodesBelow, if_pos h]

theorem nodesBelow_succ_of_neg {ends : NodeKind → Bool} {node : Node} (h : ends node.kind = false)
    (levels : Nat) :
    node.nodesBelow ends (levels + 1) = node.content.flatMap (Node.nodesBelow ends levels) := by
  rw [Node.nodesBelow, if_neg (by rw [h]; exact Bool.false_ne_true)]

/-- The text holds something for each of the nodes, in their order. -/
def InOrder (holds : Node → String → Prop) : List Node → String → Prop
  | [], _ => True
  | node :: rest, text =>
    ∃ before piece after, holds node piece ∧ text = before ++ piece ++ after ∧
      InOrder holds rest after

namespace InOrder

variable {holds : Node → String → Prop} {nodes others : List Node} {text rest : String}

theorem singleton {node : Node} (h : holds node text) : InOrder holds [node] text :=
  ⟨"", text, "", h, by rw [String.empty_append, String.append_empty], trivial⟩

theorem after (h : InOrder holds nodes text) (before : String) :
    InOrder holds nodes (before ++ text) := by
  cases nodes with
  | nil => trivial
  | cons node others =>
    obtain ⟨front, piece, back, hpiece, rfl, hothers⟩ := h
    exact ⟨before ++ front, piece, back, hpiece, by simp only [String.append_assoc], hothers⟩

theorem append (h : InOrder holds nodes text) (hrest : InOrder holds others rest) :
    InOrder holds (nodes ++ others) (text ++ rest) := by
  induction nodes generalizing text with
  | nil => exact hrest.after text
  | cons node nodes ih =>
    obtain ⟨front, piece, back, hpiece, rfl, hnodes⟩ := h
    exact ⟨front, piece, back ++ rest, hpiece, by simp only [String.append_assoc], ih hnodes⟩

theorem within (h : InOrder holds nodes text) (before after : String) :
    InOrder holds nodes (before ++ text ++ after) := by
  have hafter : InOrder holds [] after := trivial
  exact List.append_nil nodes ▸ (h.after before).append hafter

/-- What holds for the nodes may be said in other words. -/
theorem imp {holds' : Node → String → Prop} (h : InOrder holds nodes text)
    (himp : ∀ node piece, holds node piece → holds' node piece) :
    InOrder holds' nodes text := by
  induction nodes generalizing text with
  | nil => trivial
  | cons node nodes ih =>
    obtain ⟨front, piece, back, hpiece, rfl, hnodes⟩ := h
    exact ⟨front, piece, back, himp node piece hpiece, rfl, ih hnodes⟩

end InOrder

/-- What stands in the markup of the children of a node stands in that of the node. -/
theorem InOrder.enclose {holds : Node → String → Prop} {nodes : List Node} {body : String}
    (h : InOrder holds nodes body) (node : Node) : InOrder holds nodes (enclose node body) := by
  unfold Folio.enclose
  cases node.kind with
  | paragraph =>
    cases hbody : body.isEmpty with
    | true =>
      -- Nothing that is held is lost with an empty body.
      obtain rfl := String.isEmpty_iff.1 hbody
      have hwithin := h.within emptyParagraph ""
      rwa [String.append_empty, String.append_empty] at hwithin
    | false => exact h.within "<p>" "</p>\n"
  | bulletList => exact h.within "<ul>\n" "</ul>\n"
  | orderedList => exact h.within (orderedOpen node.listStart?) "</ol>\n"
  | listItem => exact h.within "<li>" "</li>\n"
  | blockquote => exact h.within "<blockquote>\n" "</blockquote>\n"
  | _ => exact h

/-! ### Markup of the nodes that are met -/

section Markup

variable (renderer : Renderer)

/-- A text is the markup of a node at a depth, whatever was recorded before. -/
def IsMarkup (depth : Nat) (node : Node) (piece : String) : Prop :=
  ∃ earlier, piece = (compileAt renderer depth node earlier).1

variable {renderer} in
theorem inOrder_compileAll {depth target levels : Nat}
    (h : ∀ node headings, InOrder (IsMarkup renderer target)
      (node.nodesBelow NodeKind.isLeaf levels) (compileAt renderer depth node headings).1)
    (nodes : List Node) (headings : Headings) :
    InOrder (IsMarkup renderer target) (nodes.flatMap (Node.nodesBelow NodeKind.isLeaf levels))
      (compileAll renderer depth nodes headings).1 := by
  induction nodes generalizing headings with
  | nil => trivial
  | cons node rest ih =>
    rw [List.flatMap_cons, compileAll_cons]
    exact (h node headings).append (ih _)

/-- **The markup of the nodes that a visit meets stands in order in the whole.** -/
theorem inOrder_compileAt {depth levels target : Nat} (hlevels : depth + levels = target)
    (htarget : target ≤ maxDepth + 1) (node : Node) (headings : Headings) :
    InOrder (IsMarkup renderer target) (node.nodesBelow NodeKind.isLeaf levels)
      (compileAt renderer depth node headings).1 := by
  induction levels generalizing depth node headings with
  | zero => exact .singleton ⟨headings, by rw [← hlevels, Nat.add_zero]⟩
  | succ levels ih =>
    have hdepth : depth ≤ maxDepth := by omega
    cases hleaf : node.kind.isLeaf with
    | true =>
      rw [nodesBelow_succ_of_pos hleaf]
      trivial
    | false =>
      have hbelow : depth + 1 + levels = target := by omega
      have hbody := inOrder_compileAll (ih hbelow) node.content
      rw [nodesBelow_succ_of_neg hleaf]
      by_cases hkind : node.kind = .heading
      · rw [compileAt_heading renderer headings hdepth hkind]
        dsimp only
        rw [String.append_assoc]
        exact (hbody _).within _ _
      · rw [compileAt_branch renderer headings hdepth hleaf hkind]
        exact (hbody _).enclose node

end Markup

/-! ### Text of the nodes that are met -/

theorem inOrder_plainTextAll {levels : Nat} {ends : NodeKind → Bool} {nodes : List Node}
    (h : ∀ node ∈ nodes, InOrder (fun found piece => piece = found.plainText)
      (node.nodesBelow ends levels) node.plainText) :
    InOrder (fun found piece => piece = found.plainText)
      (nodes.flatMap (Node.nodesBelow ends levels)) (Node.plainTextAll nodes) := by
  induction nodes with
  | nil => trivial
  | cons node rest ih =>
    obtain ⟨hnode, hrest⟩ := List.forall_mem_cons.1 h
    rw [List.flatMap_cons, Node.plainTextAll]
    exact hnode.append (ih hrest)

/-- **The text of a node has that of all nodes below it**, of those below a text leaf apart, which
stands for itself. -/
theorem inOrder_plainText (levels : Nat) (node : Node) :
    InOrder (fun found piece => piece = found.plainText)
      (node.nodesBelow (fun kind => kind = .text) levels) node.plainText := by
  induction levels generalizing node with
  | zero => exact .singleton rfl
  | succ levels ih =>
    by_cases hkind : node.kind = .text
    · rw [nodesBelow_succ_of_pos (decide_eq_true hkind)]
      trivial
    · rw [nodesBelow_succ_of_neg (decide_eq_false hkind), Node.plainText_eq, if_neg hkind]
      exact (inOrder_plainTextAll fun child _ => ih child).after _

theorem mem_titlesAll {title : Title} {depth : Nat} {nodes : List Node} :
    title ∈ Node.titlesAll depth nodes ↔ ∃ node ∈ nodes, title ∈ node.titles depth := by
  induction nodes with
  | nil => simp only [Node.titlesAll, List.not_mem_nil, false_and, exists_false]
  | cons node rest ih =>
    simp only [Node.titlesAll, List.mem_append, ih, List.mem_cons, or_and_right, exists_or,
      exists_eq_left]

/-- A heading that a visit meets above the bound is recorded with all the text below it. -/
theorem mem_titles {depth levels : Nat} (hdepth : depth + levels ≤ maxDepth) {root node : Node}
    (hnode : node ∈ root.nodesBelow NodeKind.isLeaf levels) (hkind : node.kind = .heading) :
    ⟨node.plainText, node.headingLevel⟩ ∈ root.titles depth := by
  induction levels generalizing depth root with
  | zero =>
    obtain rfl := List.mem_singleton.1 hnode
    rw [titles_heading (Nat.add_zero depth ▸ hdepth) hkind]
    exact List.mem_cons_self
  | succ levels ih =>
    cases hleaf : root.kind.isLeaf with
    | true =>
      rw [nodesBelow_succ_of_pos hleaf] at hnode
      cases hnode
    | false =>
      rw [nodesBelow_succ_of_neg hleaf, List.mem_flatMap] at hnode
      obtain ⟨child, hchild, hbelow⟩ := hnode
      have hall : ⟨node.plainText, node.headingLevel⟩ ∈
          Node.titlesAll (depth + 1) root.content :=
        mem_titlesAll.2 ⟨child, hchild, ih (by omega) hbelow⟩
      by_cases hroot : root.kind = .heading
      · rw [titles_heading (by omega) hroot]
        exact List.mem_cons_of_mem _ hall
      · rwa [titles_branch (by omega) hleaf hroot]

/-! ### The bound loses no text -/

/-- What a rendering keeps of the text of a document, however deep the document is. -/
structure KeepsText (renderer : Renderer) (root : Node) (headings : Headings) : Prop where
  /-- The markup and the recorded headings are those of the tree that is cut off at the bound,
  compiled without a bound. -/
  compile_eq : compile renderer root headings = compileUnbounded renderer root.truncate headings
  /-- The tree that is cut off has all the text. -/
  plainText_truncate : root.truncate.plainText = root.plainText
  /-- A tree that has no node below the bound is untouched by it. -/
  untouched : root.height ≤ maxDepth + 1 → root.truncate = root ∧
    compile renderer root headings = compileUnbounded renderer root headings
  /-- Each node that the compiler meets just below the bound is written as its plain text. -/
  deep : InOrder (fun node piece => piece = Html.escape node.plainText)
    (root.nodesBelow NodeKind.isLeaf (maxDepth + 1)) (compile renderer root headings).1
  /-- A code block above the bound is written with all the text below it. -/
  code : ∀ depth ≤ maxDepth, InOrder
    (fun node piece => node.kind = .codeBlock →
      piece = Html.codeBlock node.language? node.plainText)
    (root.nodesBelow NodeKind.isLeaf depth) (compile renderer root headings).1
  /-- A heading above the bound is recorded with all the text below it. -/
  heading : ∃ new : List Heading,
    (compile renderer root headings).2.records = headings.records ++ new ∧
    ∀ depth ≤ maxDepth, ∀ node ∈ root.nodesBelow NodeKind.isLeaf depth, node.kind = .heading →
      ⟨node.plainText, node.headingLevel⟩ ∈ new.map Heading.title
  /-- The text of a node has that of the nodes at any level below it; only those below a text leaf
  do not count. -/
  plainText : ∀ (node : Node) (levels : Nat),
    InOrder (fun found piece => piece = found.plainText)
      (node.nodesBelow (fun kind => kind = .text) levels) node.plainText

/-- **The bound on the depth loses no text**, whatever was recorded before, under every
configuration and for every form of identifiers. -/
theorem keepsText (renderer : Renderer) (root : Node) (headings : Headings) :
    KeepsText renderer root headings where
  compile_eq := compileAt_cutAt renderer (Nat.zero_add _) root headings
  plainText_truncate := Node.plainText_cutAt _ root
  untouched hheight := by
    have hsame : root.truncate = root := Node.cutAt_of_height_le hheight
    refine ⟨hsame, ?_⟩
    calc compile renderer root headings
        = compileUnbounded renderer root.truncate headings :=
          compileAt_cutAt renderer (Nat.zero_add _) root headings
      _ = compileUnbounded renderer root headings := by rw [hsame]
  deep := by
    refine (inOrder_compileAt renderer (Nat.zero_add _) (Nat.le_refl _) root headings).imp ?_
    rintro node _ ⟨earlier, rfl⟩
    rw [compileAt_deep renderer earlier (Nat.lt_succ_self maxDepth)]
  code depth hdepth := by
    refine (inOrder_compileAt renderer (Nat.zero_add depth) (Nat.le_succ_of_le hdepth) root
      headings).imp ?_
    rintro node _ ⟨earlier, rfl⟩ hkind
    rw [compileAt_leaf renderer earlier hdepth (by rw [hkind]; rfl), compileLeaf, hkind]
  heading := by
    refine ⟨renderer.assigned headings.met (root.titles 0), ?_, ?_⟩
    · rw [headings_compile, Headings.records_assignAll]
    · intro depth hdepth node hnode hkind
      rw [renderer.map_title_assigned]
      exact mem_titles ((Nat.zero_add depth).symm ▸ hdepth) hnode hkind
  plainText node levels := inOrder_plainText levels node

end Folio
