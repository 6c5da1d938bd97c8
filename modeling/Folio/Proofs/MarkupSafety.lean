import Folio.Proofs.DocumentMarkup

/-!
# The markup of documents is well formed

Whatever a document contains, its markup splits into text and tags that stay what they are. Strings
of the document reach the markup only through `escape`, or as one of a few known names, and every
element is closed where it was opened.

## Main definitions

* `Folio.documentVocabulary`: the names that the markup of documents uses.

## Main results

* `Folio.wellFormed_tokensAt`: the tokens of a document are well formed.
* `Folio.compile_splits`: the markup of a document splits into safe and nested tokens.
-/

namespace Folio

open Document Html

/-- The elements and attributes that the markup of documents may have. -/
def documentVocabulary : Vocabulary where
  elements := ["p", "h1", "h2", "h3", "h4", "h5", "h6", "strong", "em", "code", "a", "ul", "ol",
    "li", "pre", "blockquote"]
  singles := ["img", "br"]
  attributes := ["id", "href", "class", "aria-hidden", "title", "target", "rel", "start", "src",
    "alt"]

/-! ### Attributes -/

theorem no_open_spellAttributes {attributes : List Attribute}
    (hattributes : SafeAttributes documentVocabulary attributes) :
    '<' ∉ (spellAttributes attributes).toList := by
  have hnames : ∀ name ∈ documentVocabulary.attributes, '<' ∉ name.toList := by decide
  exact notMem_spellAttributes (by decide) fun attr hattr =>
    ⟨hnames attr.name (hattributes attr hattr).name_mem, (hattributes attr hattr).value.no_open⟩

theorem safeAttributes_title (title : Option String) :
    SafeAttributes documentVocabulary (titleAttributes title) := by
  unfold titleAttributes
  split
  · split
    · exact safeAttributes_nil
    · exact .cons (by decide) (safeValue_escape _) safeAttributes_nil
  · exact safeAttributes_nil

theorem safeAttributes_link (href : String) (title : Option String) :
    SafeAttributes documentVocabulary (linkAttributes href title) := by
  refine .cons (by decide) (safeValue_escape href) ((safeAttributes_title title).append ?_)
  exact .cons (by decide) (by decide) (.cons (by decide) (by decide) safeAttributes_nil)

theorem safeAttributes_start (start : Option Nat) :
    SafeAttributes documentVocabulary (startAttributes start) := by
  unfold startAttributes
  split
  · split
    · exact .cons (by decide) (safeValue_toString _) safeAttributes_nil
    · exact safeAttributes_nil
  · exact safeAttributes_nil

/-! ### Nodes -/

/-- The tokens are those of well-formed markup of a document. -/
def DocumentTokens (tokens : List Token) : Prop := WellFormed documentVocabulary tokens

theorem documentTokens_newline : DocumentTokens [newline] := .text (by decide)

theorem documentTokens_escape (s : String) : DocumentTokens [.text (escape s)] :=
  .text (safeText_escape s)

/-- An element and the end of its line. -/
theorem DocumentTokens.line {name : String} {attributes : List Attribute} {content : List Token}
    (hname : name ∈ documentVocabulary.elements)
    (hattributes : SafeAttributes documentVocabulary attributes)
    (hcontent : DocumentTokens content) :
    DocumentTokens (element name attributes content ++ [newline]) :=
  (WellFormed.element hname hattributes hcontent).append documentTokens_newline

theorem documentTokens_mark (mark : Mark) {content : List Token}
    (hcontent : DocumentTokens content) : DocumentTokens (mark.tokens content) := by
  unfold Mark.tokens
  cases mark.kind with
  | bold => exact .element (by decide) safeAttributes_nil hcontent
  | italic => exact .element (by decide) safeAttributes_nil hcontent
  | code => exact .element (by decide) safeAttributes_nil hcontent
  | link => exact .element (by decide) (safeAttributes_link _ _) hcontent
  | unknown tag => exact hcontent

theorem documentTokens_marked (text : String) (marks : List Mark) :
    DocumentTokens (markedTokens text marks) := by
  have fold {content : List Token} (hcontent : DocumentTokens content) :
      DocumentTokens (marks.foldl (fun content mark => mark.tokens content) content) := by
    induction marks generalizing content with
    | nil => exact hcontent
    | cons mark marks ih => exact ih (documentTokens_mark mark hcontent)
  exact fold (documentTokens_escape text)

theorem documentTokens_codeBlock (language : Option String) (code : String) :
    DocumentTokens (codeBlockTokens language code) := by
  have hclass : SafeValue ("language-" ++ languageTag language) :=
    SafeValue.append (by decide) (safeValue_languageTag language)
  have hcode : DocumentTokens
      (element "code" [⟨"class", "language-" ++ languageTag language⟩] [.text (escape code)]) :=
    .element (by decide) (.cons (by decide) hclass safeAttributes_nil) (documentTokens_escape code)
  exact .line (by decide) safeAttributes_nil hcode

theorem documentTokens_image (node : Node) : DocumentTokens [imageToken node] :=
  .single (by decide) (.cons (by decide) (safeValue_escape _)
    (.cons (by decide) (safeValue_escape _) (safeAttributes_title _)))

theorem documentTokens_leaf (node : Node) : DocumentTokens (leafTokens node) := by
  unfold leafTokens
  cases node.kind with
  | text => exact documentTokens_marked _ _
  | codeBlock => exact documentTokens_codeBlock _ _
  | image => exact documentTokens_image node
  | hardBreak => exact .single (by decide) safeAttributes_nil
  | _ => exact .nil

theorem documentTokens_enclose (node : Node) {body : List Token} (hbody : DocumentTokens body) :
    DocumentTokens (encloseTokens node body) := by
  have hline : DocumentTokens (newline :: body) := documentTokens_newline.append hbody
  unfold encloseTokens
  cases node.kind with
  | paragraph =>
    refine .line (by decide) safeAttributes_nil ?_
    split
    · exact .text (by decide)
    · exact hbody
  | bulletList => exact .line (by decide) safeAttributes_nil hline
  | orderedList => exact .line (by decide) (safeAttributes_start _) hline
  | listItem => exact .line (by decide) safeAttributes_nil hbody
  | blockquote => exact .line (by decide) safeAttributes_nil hline
  | _ => exact hbody

/-- The level of a heading is from one to six, whatever its attributes say. -/
theorem headingLevel_mem (node : Node) : node.headingLevel ∈ [1, 2, 3, 4, 5, 6] := by
  have bounds : 1 ≤ node.headingLevel ∧ node.headingLevel ≤ 6 := by
    unfold Node.headingLevel
    split <;> omega
  simp only [List.mem_cons, List.not_mem_nil, or_false]
  omega

theorem documentTokens_anchor (renderer : Renderer) (id : String) :
    DocumentTokens (renderer.anchorTokens id) := by
  unfold Renderer.anchorTokens
  split
  · have hid : SafeValue ("#" ++ escape id) := SafeValue.append (by decide) (safeValue_escape id)
    refine .element (by decide) (.cons (by decide) hid ?_) (.text (by decide))
    exact .cons (by decide) (by decide) (.cons (by decide) (by decide) safeAttributes_nil)
  · exact .nil

theorem documentTokens_heading (renderer : Renderer) {level : Nat} (id : String)
    {body : List Token} (hlevel : level ∈ [1, 2, 3, 4, 5, 6]) (hbody : DocumentTokens body) :
    DocumentTokens (renderer.headingTokens level id body) := by
  have hname : ∀ level ∈ [1, 2, 3, 4, 5, 6],
      "h" ++ toString level ∈ documentVocabulary.elements := by decide
  exact .line (hname level hlevel) (.cons (by decide) (safeValue_escape id) safeAttributes_nil)
    (hbody.append (documentTokens_anchor renderer id))

/-! ### Documents -/

private theorem wellFormed_cases (renderer : Renderer) :
    VisitCases
      (fun depth node => ∀ headings, DocumentTokens (tokensAt renderer depth node headings).1)
      (fun depth nodes => ∀ headings, DocumentTokens (tokensAll renderer depth nodes headings).1)
    where
  deep depth node hdepth headings := by
    rw [tokensAt_deep renderer headings hdepth]
    exact documentTokens_escape node.plainText
  leaf depth node hdepth hleaf headings := by
    rw [tokensAt_leaf renderer headings hdepth hleaf]
    exact documentTokens_leaf node
  heading depth node hdepth hkind below headings := by
    rw [tokensAt_heading renderer headings hdepth hkind]
    exact documentTokens_heading renderer _ (headingLevel_mem node) (below _)
  branch depth node hdepth hleaf hkind below headings := by
    rw [tokensAt_branch renderer headings hdepth hleaf hkind]
    exact documentTokens_enclose node (below headings)
  nil depth headings := by
    rw [tokensAll_nil]
    exact .nil
  cons depth node rest first others headings := by
    rw [tokensAll_cons]
    exact (first headings).append (others _)

/-- The tokens of a node are well formed, at every depth and after all headings. -/
theorem wellFormed_tokensAt (renderer : Renderer) (depth : Nat) (node : Node)
    (headings : Headings) :
    WellFormed documentVocabulary (tokensAt renderer depth node headings).1 :=
  (wellFormed_cases renderer).node depth node headings

/-- **The markup of a document splits into safe and nested tokens.** This holds for every tree,
whatever strings stand in it, for every configuration, every form of identifiers and every state
before the compilation. -/
theorem compile_splits (renderer : Renderer) (root : Node) (headings : Headings) :
    ∃ tokens : List Token,
      (compile renderer root headings).1 = spell tokens ∧
      (∀ token ∈ tokens, token.Safe documentVocabulary) ∧
      nests [] tokens = true := by
  have wellFormed := wellFormed_tokensAt renderer 0 root headings
  refine ⟨(tokensAt renderer 0 root headings).1, ?_, wellFormed.safe, wellFormed.balanced.nests⟩
  rw [compile, compileAt_eq_spell, Prod.map_fst]

end Folio
