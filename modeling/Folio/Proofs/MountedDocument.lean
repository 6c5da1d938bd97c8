import Folio.Proofs.ImageAttributes
import Folio.Proofs.MarkupSafety
import Folio.Proofs.Mounting

/-!
# Documents after mounting

The markup of a document is cut into its elements again. An element can only start at the tag of a
code block or of an image, and no string of the document brings such a tag with it: the tags of the
compiler are those that stand there for a code block or an image of the tree. What is cut out is
therefore the list of these nodes, in document order, with their code and their addresses decoded.

## Main definitions

* `Folio.Document.Node.visited`: the nodes that the compiler writes with their structure.
* `Folio.Document.Node.codeElement`, `Folio.Document.Node.imageElement`: the elements that code
  blocks and images are mounted as.

## Main results

* `Folio.cuts_tokensAt`: the markup of a node is cut into its code blocks and images.
* `Folio.mount_compile`: mounting decodes what the compiler encodes.
-/

namespace Folio

open Document Html Text

variable {η : Type}

/-! ### The nodes that are visited -/

mutual

/-- The nodes that the compiler writes with their structure, in document order: no deeper than the
bound, and not below a leaf. -/
def Document.Node.visited (depth : Nat) : Node → List Node
  | ⟨kind, attrs, content, text, marks⟩ =>
    if depth > maxDepth then []
    else ⟨kind, attrs, content, text, marks⟩ ::
      if kind.isLeaf then [] else visitedAll (depth + 1) content

/-- The nodes that the compiler writes with their structure, below several nodes of one depth. -/
def Document.Node.visitedAll (depth : Nat) : List Node → List Node
  | [] => []
  | node :: rest => node.visited depth ++ visitedAll depth rest

end

section Visited

variable {depth : Nat} {node : Node}

theorem visited_deep (hdepth : maxDepth < depth) : node.visited depth = [] := by
  cases node
  simp only [Node.visited, gt_iff_lt, hdepth, ↓reduceIte]

theorem visited_leaf (hdepth : depth ≤ maxDepth) (hleaf : node.kind.isLeaf = true) :
    node.visited depth = [node] := by
  cases node
  simp only [Node.visited, gt_iff_lt, Nat.not_lt.2 hdepth, hleaf, ↓reduceIte]

theorem visited_branch (hdepth : depth ≤ maxDepth) (hleaf : node.kind.isLeaf = false) :
    node.visited depth = node :: Node.visitedAll (depth + 1) node.content := by
  cases node
  simp only at hleaf
  simp only [Node.visited, gt_iff_lt, Nat.not_lt.2 hdepth, hleaf, Bool.false_eq_true, ↓reduceIte]

theorem visitedAll_nil : Node.visitedAll depth [] = [] := by
  simp only [Node.visitedAll]

theorem visitedAll_cons (rest : List Node) :
    Node.visitedAll depth (node :: rest) = node.visited depth ++ Node.visitedAll depth rest := by
  simp only [Node.visitedAll]

end Visited

/-- The element that a code block is mounted as. -/
def Document.Node.codeElement (node : Node) : CodeElement η :=
  { language := languageTag node.language?, source := node.plainText }

/-- The attributes of the tag of an image. -/
def imageAttributes (node : Node) : List Attribute :=
  ⟨"alt", escape ((node.textAttr? "alt").getD "")⟩ :: titleAttributes (node.textAttr? "title")

/-- The element that an image is mounted as. -/
def Document.Node.imageElement (node : Node) : ImageElement η :=
  let source := (node.textAttr? "src").getD ""
  { attributes := spellAttributes (⟨"src", escape source⟩ :: imageAttributes node), source }

/-- The elements that the code blocks among nodes are mounted as. -/
def codeElements (nodes : List Node) : List (CodeElement η) :=
  (nodes.filter (·.kind = .codeBlock)).map Node.codeElement

/-- The elements that the images among nodes are mounted as. -/
def imageElements (nodes : List Node) : List (ImageElement η) :=
  (nodes.filter (·.kind = .image)).map Node.imageElement

section Elements

variable (first rest : List Node)

theorem codeElements_append :
    codeElements (η := η) (first ++ rest) = codeElements first ++ codeElements rest := by
  simp only [codeElements, List.filter_append, List.map_append]

theorem imageElements_append :
    imageElements (η := η) (first ++ rest) = imageElements first ++ imageElements rest := by
  simp only [imageElements, List.filter_append, List.map_append]

/-- A node that is entered is no element. -/
theorem elements_cons {node : Node} (hleaf : node.kind.isLeaf = false) :
    codeElements (η := η) (node :: rest) = codeElements rest ∧
      imageElements (η := η) (node :: rest) = imageElements rest := by
  have hcode : node.kind ≠ .codeBlock := fun hkind => by simp [hkind, NodeKind.isLeaf] at hleaf
  have himage : node.kind ≠ .image := fun hkind => by simp [hkind, NodeKind.isLeaf] at hleaf
  simp [codeElements, imageElements, hcode, himage]

end Elements

/-! ### Tokens in which no element starts -/

/-- An element starts with one of two tags. -/
theorem prefix_of_startsElement {cs : List Char} (hcs : StartsElement cs) :
    "<pre".toList <+: cs ∨ "<img".toList <+: cs := by
  rcases hcs with hcode | himage
  · obtain ⟨found, hfound⟩ := Option.isSome_iff_exists.1 hcode
    simp only [codeMarkup?, Option.bind_eq_bind, Option.bind_eq_some_iff,
      dropWord?_eq_some] at hfound
    obtain ⟨rest, hrest, -⟩ := hfound
    exact .inl ⟨rest, hrest.symm⟩
  · obtain ⟨found, hfound⟩ := Option.isSome_iff_exists.1 himage
    simp only [imageMarkup?, Option.bind_eq_bind, Option.bind_eq_some_iff,
      dropWord?_eq_some] at hfound
    obtain ⟨rest, hrest, -⟩ := hfound
    exact .inr ⟨rest, hrest.symm⟩

/-- An element starts with an angle bracket. -/
theorem head_of_startsElement {c : Char} {cs : List Char} (hcs : StartsElement (c :: cs)) :
    c = '<' := by
  rcases prefix_of_startsElement hcs with h | h <;> exact head_eq_of_prefix_cons h

theorem nowhere_of_no_open {cs : List Char} (hcs : '<' ∉ cs) (rest : List Char) :
    Nowhere StartsElement cs rest := by
  induction cs with
  | nil => trivial
  | cons c cs ih =>
    obtain ⟨hc, hcs⟩ := List.ne_and_not_mem_of_not_mem_cons hcs
    exact ⟨fun h => hc (head_of_startsElement h).symm, ih hcs⟩

/-- In a tag with another name no element starts. -/
theorem nowhere_tag {name after : List Char} {stop : Char} (hpre : ¬ "pre".toList <+: name)
    (himg : ¬ "img".toList <+: name) (hstop : stop ∈ [' ', '>'])
    (hrest : '<' ∉ name ++ stop :: after) (rest : List Char) :
    Nowhere StartsElement ('<' :: (name ++ stop :: after)) rest := by
  refine ⟨fun h => ?_, nowhere_of_no_open hrest rest⟩
  rw [List.append_assoc, List.cons_append] at h
  -- The name ends at the first character after it, so that no longer word can stand there.
  have hword {word : List Char} (hspace : ' ' ∉ word) (hend : '>' ∉ word)
      (hstart : '<' :: word <+: '<' :: (name ++ stop :: (after ++ rest))) : word <+: name := by
    refine prefix_of_prefix_append_cons ?_ (List.cons_prefix_cons.1 hstart).2
    simp only [List.mem_cons, List.not_mem_nil, or_false] at hstop
    rcases hstop with rfl | rfl
    · exact hspace
    · exact hend
  rcases prefix_of_startsElement h with hstart | hstart
  · exact hpre (hword (by decide) (by decide) hstart)
  · exact himg (hword (by decide) (by decide) hstart)

/-- The characters of attributes and of the end of their tag. -/
theorem exists_stop (attributes : List Attribute) {close : List Char}
    (hclose : close ∈ [[], " /".toList]) :
    ∃ stop after, stop ∈ [' ', '>'] ∧
      (spellAttributes attributes).toList ++ (close ++ ['>']) = stop :: after := by
  cases attributes with
  | nil =>
    simp only [List.mem_cons, List.not_mem_nil, or_false] at hclose
    rcases hclose with rfl | rfl
    · exact ⟨'>', [], by decide, rfl⟩
    · exact ⟨' ', "/>".toList, by decide, rfl⟩
  | cons attr others =>
    rw [spellAttributes_cons]
    exact ⟨' ', attr.name.toList ++ ("=\"".toList ++ (attr.value.toList ++
      '"' :: ((spellAttributes others).toList ++ (close ++ ['>'])))), by decide, by simp⟩

/-- A name of the tags of documents that neither a code block nor an image starts with. -/
structure Ordinary (name : String) : Prop where
  mem : name ∈ documentVocabulary.elements ++ documentVocabulary.singles
  ne_pre : name ≠ "pre"
  ne_img : name ≠ "img"

instance (name : String) : Decidable (Ordinary name) :=
  decidable_of_iff (name ∈ documentVocabulary.elements ++ documentVocabulary.singles ∧
      name ≠ "pre" ∧ name ≠ "img")
    ⟨fun ⟨mem, ne_pre, ne_img⟩ => ⟨mem, ne_pre, ne_img⟩,
      fun name => ⟨name.mem, name.ne_pre, name.ne_img⟩⟩

/-- A name with which the tag of neither a code block nor an image starts. -/
structure PlainName (name : String) : Prop where
  no_open : '<' ∉ name.toList
  not_pre : ¬ "pre".toList <+: name.toList
  not_img : ¬ "img".toList <+: name.toList

instance (name : String) : Decidable (PlainName name) :=
  decidable_of_iff ('<' ∉ name.toList ∧ ¬ "pre".toList <+: name.toList ∧
      ¬ "img".toList <+: name.toList)
    ⟨fun ⟨no_open, not_pre, not_img⟩ => ⟨no_open, not_pre, not_img⟩,
      fun name => ⟨name.no_open, name.not_pre, name.not_img⟩⟩

theorem Ordinary.plain {name : String} (hname : Ordinary name) : PlainName name := by
  have hnames : ∀ name ∈ documentVocabulary.elements ++ documentVocabulary.singles,
      name ≠ "pre" → name ≠ "img" → PlainName name := by
    decide
  exact hnames name hname.mem hname.ne_pre hname.ne_img

theorem nowhere_attributes {name : String} (hname : PlainName name) {attributes : List Attribute}
    (hattributes : '<' ∉ (spellAttributes attributes).toList) {close : List Char}
    (hclose : close ∈ [[], " /".toList]) (rest : List Char) :
    Nowhere StartsElement
      ('<' :: (name.toList ++ ((spellAttributes attributes).toList ++ (close ++ ['>'])))) rest := by
  have hends : ∀ close ∈ [[], " /".toList], '<' ∉ close ++ ['>'] := by decide
  obtain ⟨stop, after, hstop, hspelled⟩ := exists_stop attributes hclose
  have hafter : '<' ∉ (spellAttributes attributes).toList ++ (close ++ ['>']) := by
    rw [List.mem_append, not_or]
    exact ⟨hattributes, hends close hclose⟩
  rw [hspelled] at hafter ⊢
  exact nowhere_tag hname.not_pre hname.not_img hstop
    (by rw [List.mem_append, not_or]; exact ⟨hname.no_open, hafter⟩) rest

/-! ### Markup of documents cut into its elements -/

namespace Cuts

variable {codes : List (CodeElement η)} {images : List (ImageElement η)}

theorem nil : Cuts (η := η) "" [] [] := markup fun _ => trivial

theorem text {content : String} (hcontent : SafeText content) : Cuts (η := η) content [] [] :=
  markup (nowhere_of_no_open hcontent.no_open)

theorem newline : Cuts (η := η) newline.spell [] [] :=
  text (by decide)

theorem escape (s : String) : Cuts (η := η) (escape s) [] [] := text (safeText_escape s)

theorem openingTag {name : String} (hname : PlainName name) {attributes : List Attribute}
    (hattributes : '<' ∉ (spellAttributes attributes).toList) :
    Cuts (η := η) (Token.opening name attributes).spell [] [] := by
  refine markup fun rest => ?_
  have hspelled : (Token.opening name attributes).spell.toList =
      '<' :: (name.toList ++ ((spellAttributes attributes).toList ++ ([] ++ ['>']))) := by
    simp [Token.spell]
  rw [hspelled]
  exact nowhere_attributes hname hattributes (by decide) rest

theorem singleTag {name : String} (hname : PlainName name) {attributes : List Attribute}
    (hattributes : '<' ∉ (spellAttributes attributes).toList) :
    Cuts (η := η) (Token.single name attributes).spell [] [] := by
  refine markup fun rest => ?_
  have hspelled : (Token.single name attributes).spell.toList =
      '<' :: (name.toList ++ ((spellAttributes attributes).toList ++ (" /".toList ++ ['>']))) := by
    simp [Token.spell]
  rw [hspelled]
  exact nowhere_attributes hname hattributes (by decide) rest

theorem closingTag {name : String} (hname : '<' ∉ name.toList) :
    Cuts (η := η) (Token.closing name).spell [] [] := by
  refine markup fun rest => ?_
  have hspelled : (Token.closing name).spell.toList =
      '<' :: (('/' :: name.toList) ++ '>' :: []) := by
    simp [Token.spell]
  rw [hspelled]
  refine nowhere_tag ?_ ?_ (by decide) ?_ rest
  · exact fun h => absurd (head_eq_of_prefix_cons h) (by decide)
  · exact fun h => absurd (head_eq_of_prefix_cons h) (by decide)
  · simp [hname]

theorem opening {name : String} (hname : Ordinary name) {attributes : List Attribute}
    (hattributes : SafeAttributes documentVocabulary attributes) :
    Cuts (η := η) (Token.opening name attributes).spell [] [] :=
  openingTag hname.plain (no_open_spellAttributes hattributes)

theorem single {name : String} (hname : Ordinary name) {attributes : List Attribute}
    (hattributes : SafeAttributes documentVocabulary attributes) :
    Cuts (η := η) (Token.single name attributes).spell [] [] :=
  singleTag hname.plain (no_open_spellAttributes hattributes)

theorem closing {name : String} (hname : Ordinary name) :
    Cuts (η := η) (Token.closing name).spell [] [] :=
  closingTag hname.plain.no_open

/-- An ordinary element has the code blocks and images of its content. -/
theorem element {name : String} (hname : Ordinary name) {attributes : List Attribute}
    (hattributes : SafeAttributes documentVocabulary attributes) {content : List Token}
    (hcontent : Cuts (spell content) codes images) :
    Cuts (spell (element name attributes content)) codes images := by
  have h := ((opening (η := η) hname hattributes).append hcontent).append (closing hname)
  rwa [← spell_element, List.nil_append, List.nil_append, List.append_nil, List.append_nil] at h

/-- An ordinary element and the end of its line. -/
theorem line {name : String} (hname : Ordinary name) {attributes : List Attribute}
    (hattributes : SafeAttributes documentVocabulary attributes) {content : List Token}
    (hcontent : Cuts (spell content) codes images) :
    Cuts (spell (Html.element name attributes content ++ [Folio.newline])) codes images := by
  have h := (element hname hattributes hcontent).append newline
  rwa [← spell_singleton, ← spell_append, List.append_nil, List.append_nil] at h

/-- Markup that is empty has no elements. -/
theorem eq_nil (hcuts : Cuts "" codes images) : codes = [] ∧ images = [] := by
  obtain ⟨-, hcodes, himages⟩ := hcuts.mount
  have hmount : Container.mount (η := η) "" = ⟨[]⟩ := congrArg Container.mk (segmentsFrom_nil [])
  rw [hmount] at hcodes himages
  exact ⟨hcodes.symm, himages.symm⟩

end Cuts

theorem cuts_marked (text : String) (marks : List Mark) :
    Cuts (η := η) (spell (markedTokens text marks)) [] [] := by
  have hmark (mark : Mark) {content : List Token} (hcontent : Cuts (η := η) (spell content) [] []) :
      Cuts (η := η) (spell (mark.tokens content)) [] [] := by
    unfold Mark.tokens
    cases mark.kind with
    | bold => exact .element (by decide) safeAttributes_nil hcontent
    | italic => exact .element (by decide) safeAttributes_nil hcontent
    | code => exact .element (by decide) safeAttributes_nil hcontent
    | link => exact .element (by decide) (safeAttributes_link _ _) hcontent
    | unknown tag => exact hcontent
  have fold {content : List Token} (hcontent : Cuts (η := η) (spell content) [] []) :
      Cuts (η := η) (spell (marks.foldl (fun content mark => mark.tokens content) content))
        [] [] := by
    induction marks generalizing content with
    | nil => exact hcontent
    | cons mark marks ih => exact ih (hmark mark hcontent)
  exact fold (spell_singleton _ ▸ Cuts.escape text)

/-- The tag of a known language can be read off a class attribute. -/
theorem languageName_languageTag (language : Option String) :
    LanguageName (languageTag language) := by
  have hknown : ∀ tag ∈ knownLanguages, LanguageName tag := by decide +kernel
  exact hknown _ (languageTag_mem language)

/-- A code block is mounted with the tag of its language and its code. -/
theorem cuts_codeBlock (language : Option String) (code : String) :
    Cuts (η := η) (codeBlock language code)
      [{ language := languageTag language, source := code }] [] := by
  have hreadable : CodeElement.Readable (η := η)
      { language := languageTag language, source := code } :=
    ⟨languageName_languageTag _, by simp⟩
  have hspelled : codeBlock language code =
      CodeElement.html (η := η) { language := languageTag language, source := code } ++
        newline.spell := by
    unfold codeBlock
    generalize languageTag language = tag
    apply String.toList_injective
    simp [CodeElement.html, newline, Token.spell, languagePrefix]
  rw [hspelled]
  exact (Cuts.code hreadable rfl).append Cuts.newline

theorem plain_titleAttributes (title : Option String) :
    ∀ attr ∈ titleAttributes title, attr.Plain := by
  unfold titleAttributes
  split
  · split
    · exact fun _ hmem => absurd hmem List.not_mem_nil
    · exact List.forall_mem_singleton.2 (Attribute.plain_escape (by decide) (by decide) _)
  · exact fun _ hmem => absurd hmem List.not_mem_nil

theorem plain_imageAttributes (node : Node) : ∀ attr ∈ imageAttributes node, attr.Plain :=
  List.forall_mem_cons.2
    ⟨Attribute.plain_escape (by decide) (by decide) _, plain_titleAttributes _⟩

/-- A tag with the name of images is the markup of one. -/
theorem spell_img (attributes : List Attribute) (source : String) :
    (Token.single "img" attributes).spell =
      ImageElement.html (η := η) { attributes := spellAttributes attributes, source } := by
  simp [Token.spell, ImageElement.html]

theorem cuts_image (node : Node) :
    Cuts (η := η) (imageToken node).spell [] [node.imageElement] := by
  rw [imageToken, spell_img]
  exact Cuts.image (ImageElement.readable_of_attributes (plain_imageAttributes node) none) rfl

theorem cuts_leaf {node : Node} (hleaf : node.kind.isLeaf = true) :
    Cuts (η := η) (spell (leafTokens node)) (codeElements [node]) (imageElements [node]) := by
  unfold leafTokens
  cases hkind : node.kind with
  | text =>
    simp only [codeElements, imageElements, hkind, List.filter_cons, List.filter_nil]
    exact cuts_marked _ _
  | codeBlock =>
    simp only [codeElements, imageElements, hkind, List.filter_cons, List.filter_nil,
      spell_codeBlockTokens]
    exact cuts_codeBlock node.language? node.plainText
  | image =>
    simp only [codeElements, imageElements, hkind, List.filter_cons, List.filter_nil,
      spell_singleton]
    exact cuts_image node
  | hardBreak =>
    simp only [codeElements, imageElements, hkind, List.filter_cons, List.filter_nil,
      spell_singleton]
    exact .single (by decide) safeAttributes_nil
  | _ => simp [hkind, NodeKind.isLeaf] at hleaf

theorem cuts_enclose (node : Node) {body : List Token} {codes : List (CodeElement η)}
    {images : List (ImageElement η)} (hbody : Cuts (spell body) codes images) :
    Cuts (spell (encloseTokens node body)) codes images := by
  have hline : Cuts (spell (newline :: body)) codes images := by
    rw [spell_cons]
    exact Cuts.newline.append hbody
  unfold encloseTokens
  cases node.kind with
  | paragraph =>
    refine .line (by decide) safeAttributes_nil ?_
    split
    · -- Nothing is lost with a body that is empty.
      rename_i hempty
      rw [String.isEmpty_iff.1 hempty] at hbody
      obtain ⟨rfl, rfl⟩ := hbody.eq_nil
      exact .text (by decide : SafeText (spell [.text "&nbsp;"]))
    · exact hbody
  | bulletList => exact .line (by decide) safeAttributes_nil hline
  | orderedList => exact .line (by decide) (safeAttributes_start _) hline
  | listItem => exact .line (by decide) safeAttributes_nil hbody
  | blockquote => exact .line (by decide) safeAttributes_nil hline
  | _ => exact hbody

theorem cuts_anchor (renderer : Renderer) (id : String) :
    Cuts (η := η) (spell (renderer.anchorTokens id)) [] [] := by
  unfold Renderer.anchorTokens
  split
  · have hid : SafeValue ("#" ++ escape id) := SafeValue.append (by decide) (safeValue_escape id)
    refine .element (by decide) (.cons (by decide) hid ?_)
      (.text (by decide : SafeText (spell [.text "#"])))
    exact .cons (by decide) (by decide) (.cons (by decide) (by decide) safeAttributes_nil)
  · exact .nil

theorem cuts_heading (renderer : Renderer) {level : Nat} (hlevel : level ∈ [1, 2, 3, 4, 5, 6])
    (id : String) {body : List Token} {codes : List (CodeElement η)}
    {images : List (ImageElement η)} (hbody : Cuts (spell body) codes images) :
    Cuts (spell (renderer.headingTokens level id body)) codes images := by
  have hnames : ∀ level ∈ [1, 2, 3, 4, 5, 6], Ordinary ("h" ++ toString level) := by decide
  refine .line (hnames level hlevel)
    (.cons (by decide) (safeValue_escape id) safeAttributes_nil) ?_
  rw [spell_append]
  simpa only [List.append_nil] using hbody.append (cuts_anchor renderer id)

/-! ### Documents -/

private theorem cuts_cases (renderer : Renderer) :
    VisitCases
      (fun depth node => ∀ headings, Cuts (η := η)
        (spell (tokensAt renderer depth node headings).1)
        (codeElements (node.visited depth)) (imageElements (node.visited depth)))
      (fun depth nodes => ∀ headings, Cuts (η := η)
        (spell (tokensAll renderer depth nodes headings).1)
        (codeElements (Node.visitedAll depth nodes)) (imageElements (Node.visitedAll depth nodes)))
    where
  deep depth node hdepth headings := by
    rw [tokensAt_deep renderer headings hdepth, visited_deep hdepth, spell_singleton]
    exact Cuts.escape node.plainText
  leaf depth node hdepth hleaf headings := by
    rw [tokensAt_leaf renderer headings hdepth hleaf, visited_leaf hdepth hleaf]
    exact cuts_leaf hleaf
  heading depth node hdepth hkind below headings := by
    have hleaf : node.kind.isLeaf = false := by rw [hkind]; rfl
    obtain ⟨hcodes, himages⟩ :=
      elements_cons (η := η) (Node.visitedAll (depth + 1) node.content) hleaf
    rw [tokensAt_heading renderer headings hdepth hkind, visited_branch hdepth hleaf, hcodes,
      himages]
    exact cuts_heading renderer (headingLevel_mem node) _ (below _)
  branch depth node hdepth hleaf hkind below headings := by
    obtain ⟨hcodes, himages⟩ :=
      elements_cons (η := η) (Node.visitedAll (depth + 1) node.content) hleaf
    rw [tokensAt_branch renderer headings hdepth hleaf hkind, visited_branch hdepth hleaf, hcodes,
      himages]
    exact cuts_enclose node (below headings)
  nil depth headings := by
    rw [tokensAll_nil, visitedAll_nil]
    exact Cuts.nil
  cons depth node rest first others headings := by
    rw [tokensAll_cons, visitedAll_cons, codeElements_append, imageElements_append, spell_append]
    exact (first headings).append (others _)

/-- The markup of a node is cut into the code blocks and images that are visited in it. -/
theorem cuts_tokensAt (renderer : Renderer) (depth : Nat) (node : Node) (headings : Headings) :
    Cuts (η := η) (spell (tokensAt renderer depth node headings).1)
      (codeElements (node.visited depth)) (imageElements (node.visited depth)) :=
  (cuts_cases renderer).node depth node headings

/-- The markup of a document is cut into the code blocks and images of the document. -/
theorem cuts_compile (renderer : Renderer) (root : Node) (headings : Headings) :
    Cuts (η := η) (compile renderer root headings).1
      (codeElements (root.visited 0)) (imageElements (root.visited 0)) := by
  rw [compile, compileAt_eq_spell, Prod.map_fst]
  exact cuts_tokensAt renderer 0 root headings

/-- **Mounting decodes what the compiler encodes.** The markup is written back as it was, and its
elements are the code blocks and images that the compiler visited, in document order: each code
block with the tag of its language and its code, not highlighted, and each image with its address.
None of them has a handler. -/
theorem mount_compile (renderer : Renderer) (root : Node) (headings : Headings) :
    let html := (compile renderer root headings).1
    let mounted : Container η := Container.mount html
    mounted.html = html ∧
      mounted.codes = ((root.visited 0).filter (·.kind = .codeBlock)).map Node.codeElement ∧
      mounted.images = ((root.visited 0).filter (·.kind = .image)).map Node.imageElement :=
  (cuts_compile renderer root headings).mount

end Folio
