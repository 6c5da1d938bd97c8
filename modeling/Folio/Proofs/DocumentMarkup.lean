import Folio.Proofs.Token
import Folio.Proofs.Visit

/-!
# The markup of documents as tokens

The compiler writes markup as text. Here the same markup is described by its tokens: every element
comes with its content between its two tags, so that what the compiler writes can be read off
without looking at characters.

## Main definitions

* `Folio.tokensAt`, `Folio.tokensAll`: the tokens of a node and of several nodes.

## Main results

* `Folio.compileAt_eq_spell`: the compiler writes what the tokens spell.
-/

namespace Folio

open Document Html

/-! ### The tokens of a document -/

/-- The end of a line. -/
def newline : Token := .text "\n"

/-- The title attribute of a tag, absent when the title is absent or empty. -/
def titleAttributes (title : Option String) : List Attribute :=
  match title with
  | some title => if title.isEmpty then [] else [⟨"title", escape title⟩]
  | none => []

/-- The attributes of a link. -/
def linkAttributes (href : String) (title : Option String) : List Attribute :=
  ⟨"href", escape href⟩ ::
    (titleAttributes title ++ [⟨"target", "_blank"⟩, ⟨"rel", "noopener noreferrer"⟩])

/-- The tokens of one mark around others. -/
def Document.Mark.tokens (mark : Mark) (content : List Token) : List Token :=
  match mark.kind with
  | .bold => element "strong" [] content
  | .italic => element "em" [] content
  | .code => element "code" [] content
  | .link => element "a" (linkAttributes (mark.href?.getD "") mark.title?) content
  | .unknown _ => content

/-- The tokens of a text with marks. -/
def markedTokens (text : String) (marks : List Mark) : List Token :=
  marks.foldl (fun content mark => mark.tokens content) [.text (escape text)]

/-- The tokens of a code block. -/
def codeBlockTokens (language : Option String) (code : String) : List Token :=
  element "pre" []
    (element "code" [⟨"class", "language-" ++ languageTag language⟩] [.text (escape code)]) ++
    [newline]

/-- The tag of an image. -/
def imageToken (node : Node) : Token :=
  .single "img" (⟨"src", escape ((node.textAttr? "src").getD "")⟩ ::
    ⟨"alt", escape ((node.textAttr? "alt").getD "")⟩ :: titleAttributes (node.textAttr? "title"))

/-- The tokens of a node of a kind without compiled children. -/
def leafTokens (node : Node) : List Token :=
  match node.kind with
  | .text => markedTokens (node.text.getD "") node.marks
  | .codeBlock => codeBlockTokens node.language? node.plainText
  | .image => [imageToken node]
  | .hardBreak => [.single "br" []]
  | _ => []

/-- The start attribute of an ordered list, absent when the list starts with one. -/
def startAttributes (start : Option Nat) : List Attribute :=
  match start with
  | some n => if n ≠ 1 then [⟨"start", toString n⟩] else []
  | none => []

/-- The tokens that a node other than a heading puts around those of its children. -/
def encloseTokens (node : Node) (body : List Token) : List Token :=
  match node.kind with
  | .paragraph =>
    element "p" [] (if (spell body).isEmpty then [.text "&nbsp;"] else body) ++ [newline]
  | .bulletList => element "ul" [] (newline :: body) ++ [newline]
  | .orderedList => element "ol" (startAttributes node.listStart?) (newline :: body) ++ [newline]
  | .listItem => element "li" [] body ++ [newline]
  | .blockquote => element "blockquote" [] (newline :: body) ++ [newline]
  | _ => body

/-- The link of a heading to itself, where the configuration asks for one. -/
def Renderer.anchorTokens (renderer : Renderer) (id : String) : List Token :=
  if renderer.config.headings.anchorLinks then
    element "a" [⟨"href", "#" ++ escape id⟩, ⟨"class", "heading-anchor"⟩, ⟨"aria-hidden", "true"⟩]
      [.text "#"]
  else []

/-- The tokens of a heading. -/
def Renderer.headingTokens (renderer : Renderer) (level : Nat) (id : String) (body : List Token) :
    List Token :=
  element ("h" ++ toString level) [⟨"id", escape id⟩] (body ++ renderer.anchorTokens id) ++
    [newline]

mutual

/-- The tokens of a node at one depth, and the headings recorded with it. -/
def tokensAt (renderer : Renderer) (depth : Nat) : Node → Headings → List Token × Headings
  | ⟨kind, attrs, content, text, marks⟩, headings =>
    let node : Node := ⟨kind, attrs, content, text, marks⟩
    if depth > maxDepth then ([.text (escape node.plainText)], headings)
    else if kind.isLeaf then (leafTokens node, headings)
    else if kind = .heading then
      let (id, headings) := headings.assign renderer node.plainText node.headingLevel
      let (body, headings) := tokensAll renderer (depth + 1) content headings
      (renderer.headingTokens node.headingLevel id body, headings)
    else
      let (body, headings) := tokensAll renderer (depth + 1) content headings
      (encloseTokens node body, headings)

/-- The tokens of several nodes at one depth, one after the other. -/
def tokensAll (renderer : Renderer) (depth : Nat) : List Node → Headings → List Token × Headings
  | [], headings => ([], headings)
  | node :: rest, headings =>
    let (first, headings) := tokensAt renderer depth node headings
    let (others, headings) := tokensAll renderer depth rest headings
    (first ++ others, headings)

end

section Equations

variable (renderer : Renderer) {depth : Nat} {node : Node} (headings : Headings)

theorem tokensAt_deep (hdepth : maxDepth < depth) :
    tokensAt renderer depth node headings = ([.text (escape node.plainText)], headings) := by
  cases node
  simp only [tokensAt, gt_iff_lt, hdepth, ↓reduceIte]

theorem tokensAt_leaf (hdepth : depth ≤ maxDepth) (hleaf : node.kind.isLeaf = true) :
    tokensAt renderer depth node headings = (leafTokens node, headings) := by
  cases node
  simp only [tokensAt, gt_iff_lt, Nat.not_lt.2 hdepth, hleaf, ↓reduceIte]

theorem tokensAt_heading (hdepth : depth ≤ maxDepth) (hkind : node.kind = .heading) :
    tokensAt renderer depth node headings =
      let assigned := headings.assign renderer node.plainText node.headingLevel
      let body := tokensAll renderer (depth + 1) node.content assigned.2
      (renderer.headingTokens node.headingLevel assigned.1 body.1, body.2) := by
  cases node
  subst hkind
  simp only [tokensAt, gt_iff_lt, Nat.not_lt.2 hdepth, NodeKind.isLeaf, Bool.false_eq_true,
    ↓reduceIte]

theorem tokensAt_branch (hdepth : depth ≤ maxDepth) (hleaf : node.kind.isLeaf = false)
    (hkind : node.kind ≠ .heading) :
    tokensAt renderer depth node headings =
      let body := tokensAll renderer (depth + 1) node.content headings
      (encloseTokens node body.1, body.2) := by
  cases node
  simp only at hleaf hkind
  simp only [tokensAt, gt_iff_lt, Nat.not_lt.2 hdepth, hleaf, hkind, Bool.false_eq_true,
    ↓reduceIte]

theorem tokensAll_nil : tokensAll renderer depth [] headings = ([], headings) := by
  simp only [tokensAll]

theorem tokensAll_cons (rest : List Node) :
    tokensAll renderer depth (node :: rest) headings =
      let first := tokensAt renderer depth node headings
      let others := tokensAll renderer depth rest first.2
      (first.1 ++ others.1, others.2) := by
  simp only [tokensAll]

end Equations

/-! ### The tokens spell the markup -/

theorem spell_titleAttributes (title : Option String) :
    spellAttributes (titleAttributes title) = titleAttribute title := by
  unfold titleAttributes titleAttribute
  cases title with
  | none => rfl
  | some title =>
    cases htitle : title.isEmpty with
    | true => simp only [htitle, ↓reduceIte]; rfl
    | false =>
      apply String.toList_injective
      simp [htitle, spellAttributes, Attribute.spell]

theorem spell_linkAttributes (href : String) (title : Option String) :
    (Token.opening "a" (linkAttributes href title)).spell = linkTag href title := by
  unfold linkAttributes linkTag
  rw [← spell_titleAttributes]
  apply String.toList_injective
  simp [Token.spell, spellAttributes, Attribute.spell]

theorem spell_markTokens (mark : Mark) (content : List Token) :
    spell (mark.tokens content) = mark.wrap (spell content) := by
  unfold Mark.tokens Mark.wrap
  cases mark.kind with
  | bold | italic | code =>
    rw [spell_element]
    rfl
  | link =>
    rw [spell_element, spell_linkAttributes]
    rfl
  | unknown tag => rfl

theorem spell_markedTokens (text : String) (marks : List Mark) :
    spell (markedTokens text marks) = markedText text marks := by
  have fold (content : List Token) :
      spell (marks.foldl (fun content mark => mark.tokens content) content) =
        marks.foldl (fun body mark => mark.wrap body) (spell content) := by
    induction marks generalizing content with
    | nil => rfl
    | cons mark marks ih => rw [List.foldl_cons, List.foldl_cons, ih, spell_markTokens]
  rw [markedTokens, fold, spell_singleton]
  rfl

theorem spell_codeBlockTokens (language : Option String) (code : String) :
    spell (codeBlockTokens language code) = codeBlock language code := by
  unfold codeBlockTokens codeBlock
  generalize languageTag language = tag
  rw [spell_append, spell_element, spell_element, spell_singleton, spell_singleton]
  apply String.toList_injective
  simp [newline, Token.spell, spellAttributes, Attribute.spell]

theorem spell_imageToken (node : Node) : (imageToken node).spell = imageTag node := by
  unfold imageToken imageTag
  rw [← spell_titleAttributes]
  apply String.toList_injective
  simp [Token.spell, spellAttributes, Attribute.spell]

theorem spell_leafTokens (node : Node) : spell (leafTokens node) = compileLeaf node := by
  unfold leafTokens compileLeaf
  cases node.kind with
  | text => exact spell_markedTokens _ _
  | codeBlock => exact spell_codeBlockTokens _ _
  | image => exact (spell_singleton _).trans (spell_imageToken node)
  | _ => rfl

theorem spell_startAttributes (start : Option Nat) :
    spell [.opening "ol" (startAttributes start), newline] = orderedOpen start := by
  unfold startAttributes orderedOpen
  cases start with
  | none => rfl
  | some n =>
    by_cases hn : n = 1
    · simp only [hn, ne_eq, not_true_eq_false, ↓reduceIte]
      rfl
    · apply String.toList_injective
      simp [hn, newline, spell, Token.spell, spellAttributes, Attribute.spell]

theorem spell_encloseTokens (node : Node) (body : List Token) :
    spell (encloseTokens node body) = enclose node (spell body) := by
  unfold encloseTokens enclose
  cases node.kind with
  | paragraph =>
    cases hbody : (spell body).isEmpty with
    | true => rfl
    | false =>
      apply String.toList_injective
      simp [element, newline, spell_append, spell_cons, spell_nil, Token.spell,
        spellAttributes]
  | orderedList =>
    apply String.toList_injective
    simp [← spell_startAttributes, element, newline, spell_append, spell_cons, spell_nil,
      Token.spell]
  | bulletList | listItem | blockquote =>
    apply String.toList_injective
    simp [element, newline, spell_append, spell_cons, spell_nil, Token.spell, spellAttributes]
  | _ => rfl

theorem spell_anchorTokens (renderer : Renderer) (id : String) :
    spell (renderer.anchorTokens id) = renderer.anchor id := by
  unfold Renderer.anchorTokens Renderer.anchor
  split
  · apply String.toList_injective
    simp [anchorLink, element, spell, Token.spell, spellAttributes, Attribute.spell]
  · rfl

theorem spell_headingTokens (renderer : Renderer) (level : Nat) (id : String)
    (body : List Token) :
    spell (renderer.headingTokens level id body) =
      headingOpen level id ++ spell body ++ renderer.anchor id ++ headingClose level := by
  apply String.toList_injective
  simp [Renderer.headingTokens, headingOpen, headingClose, element, newline, spell_append,
    spell_cons, spell_nil, Token.spell, spellAttributes, Attribute.spell, spell_anchorTokens]

section Spelling

variable (renderer : Renderer)

private theorem spell_cases :
    VisitCases
      (fun depth node => ∀ headings, compileAt renderer depth node headings =
        (tokensAt renderer depth node headings).map spell id)
      (fun depth nodes => ∀ headings, compileAll renderer depth nodes headings =
        (tokensAll renderer depth nodes headings).map spell id) where
  deep depth node hdepth headings := by
    rw [compileAt_deep renderer headings hdepth, tokensAt_deep renderer headings hdepth]
    rw [Prod.map_apply, spell_singleton]
    rfl
  leaf depth node hdepth hleaf headings := by
    rw [compileAt_leaf renderer headings hdepth hleaf, tokensAt_leaf renderer headings hdepth hleaf]
    rw [Prod.map_apply, spell_leafTokens]
    rfl
  heading depth node hdepth hkind below headings := by
    rw [compileAt_heading renderer headings hdepth hkind,
      tokensAt_heading renderer headings hdepth hkind]
    simp only [below, Prod.map_apply, id_eq, Prod.map_fst, Prod.map_snd, spell_headingTokens]
  branch depth node hdepth hleaf hkind below headings := by
    rw [compileAt_branch renderer headings hdepth hleaf hkind,
      tokensAt_branch renderer headings hdepth hleaf hkind]
    simp only [below, Prod.map_apply, id_eq, Prod.map_fst, Prod.map_snd, spell_encloseTokens]
  nil depth headings := by
    rw [compileAll_nil, tokensAll_nil]
    rfl
  cons depth node rest first others headings := by
    rw [compileAll_cons, tokensAll_cons]
    simp only [first, others, Prod.map_apply, id_eq, Prod.map_fst, Prod.map_snd, spell_append]

/-- **The compiler writes what the tokens spell**, and records the same headings. -/
theorem compileAt_eq_spell (depth : Nat) (node : Node) (headings : Headings) :
    compileAt renderer depth node headings =
      (tokensAt renderer depth node headings).map spell id :=
  (spell_cases renderer).node depth node headings

end Spelling

end Folio
