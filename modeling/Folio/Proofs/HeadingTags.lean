import Folio.Proofs.Headings
import Folio.Proofs.MarkupSafety
import Folio.Proofs.Outline

/-!
# Heading tags in finished markup

A reader of finished markup finds the headings by their opening tags. The scanner here looks at
every position of a text, so that it also sees tags that stand in text or in attribute values. In
the markup of a document it finds one tag for each entry of the outline, in order and with the
escaped identifier of the entry, and nothing else.

## Main definitions

* `Folio.Html.headingTags`: the opening tags of headings in a text.
* `Folio.Html.Token.heading?`: the level and identifier of a token that opens a heading.

## Main results

* `Folio.Html.headingTags_spell`: in spelled tokens the scanner finds those that open a heading.
* `Folio.headingsIn_tokensAt`: the tokens of a document open the headings that it records.
* `Folio.headingTags_renderNode`: the scanner finds the entries of the outline.
-/

namespace Folio

open Document Text

namespace Html

/-- The level that a digit stands for in the name of a heading. -/
def levelOf? (digit : Char) : Option Nat :=
  if '1' ≤ digit ∧ digit ≤ '6' then some (digit.toNat - '0'.toNat) else none

/-- The value of an identifier at the end of a tag: the text starts with ` id="`, goes on with the
value, in which there is no quotation mark, and then with `">`. -/
def lastIdentifier? (cs : List Char) : Option String :=
  (dropWord? " id=\"".toList cs).bind fun cs =>
    if "\">".toList.isPrefixOf (cs.dropWhile (· != '"')) then
      some (String.ofList (cs.takeWhile (· != '"')))
    else none

/-- The level and the identifier of the heading whose opening tag the text starts with. -/
def headingTag? : List Char → Option (Nat × String)
  | '<' :: 'h' :: digit :: cs =>
    (levelOf? digit).bind fun level => (lastIdentifier? cs).map fun id => (level, id)
  | _ => none

/-- The level and the identifier of every opening tag of a heading in a text, from left to right.
Every position of the text is tried. -/
def headingTags : List Char → List (Nat × String)
  | [] => []
  | c :: cs => (headingTag? (c :: cs)).toList ++ headingTags cs

/-- The level in the name of an element, if it is a heading. -/
def headingLevel? : String → Option Nat
  | "h1" => some 1
  | "h2" => some 2
  | "h3" => some 3
  | "h4" => some 4
  | "h5" => some 5
  | "h6" => some 6
  | _ => none

/-- The value of an identifier that is the only attribute. -/
def onlyIdentifier? : List Attribute → Option String
  | [⟨"id", value⟩] => some value
  | _ => none

/-- The level and the identifier of a token that opens a heading. -/
def Token.heading? : Token → Option (Nat × String)
  | .opening name attributes =>
    (headingLevel? name).bind fun level => (onlyIdentifier? attributes).map fun id => (level, id)
  | _ => none

/-- The level and the identifier of every heading that tokens open. -/
def headingsIn (tokens : List Token) : List (Nat × String) := tokens.filterMap Token.heading?

/-! ### Scanning tokens -/

theorem headingTag?_of_ne {c : Char} (hc : c ≠ '<') (cs : List Char) :
    headingTag? (c :: cs) = none := by
  unfold headingTag?
  split
  · rename_i heq
    exact absurd (List.cons.inj heq).1 hc
  · rfl

theorem headingTags_of_notMem {cs : List Char} (hcs : '<' ∉ cs) (rest : List Char) :
    headingTags (cs ++ rest) = headingTags rest := by
  induction cs with
  | nil => rfl
  | cons c cs ih =>
    obtain ⟨hc, hcs⟩ := List.ne_and_not_mem_of_not_mem_cons hcs
    rw [List.cons_append, headingTags, headingTag?_of_ne hc.symm, ih hcs]
    rfl

/-- A tag has one angle bracket that opens, so the scanner finds a heading at its start or none. -/
theorem headingTags_tag {cs : List Char} (hcs : '<' ∉ cs) (rest : List Char) :
    headingTags ('<' :: cs ++ rest) =
      (headingTag? ('<' :: cs ++ rest)).toList ++ headingTags rest := by
  rw [List.cons_append, headingTags, headingTags_of_notMem hcs]

/-- A value ends at the first quotation mark after its start. -/
theorem span_value {value : String} (hvalue : '"' ∉ value.toList) (rest : List Char) :
    (value.toList ++ '"' :: rest).takeWhile (· != '"') = value.toList ∧
      (value.toList ++ '"' :: rest).dropWhile (· != '"') = '"' :: rest := by
  have hpos : ∀ c ∈ value.toList, (c != '"') = true := by
    intro c hc
    rw [bne_iff_ne]
    rintro rfl
    exact hvalue hc
  constructor
  · rw [List.takeWhile_append_of_pos hpos, List.takeWhile_cons_of_neg (by decide), List.append_nil]
  · rw [List.dropWhile_append_of_pos hpos, List.dropWhile_cons_of_neg (by decide)]

/-- The attributes of a tag end with an identifier only when they consist of it. -/
theorem lastIdentifier?_spellAttributes {attributes : List Attribute}
    (hattributes : SafeAttributes documentVocabulary attributes) (rest : List Char) :
    lastIdentifier? ((spellAttributes attributes).toList ++ '>' :: rest) =
      onlyIdentifier? attributes := by
  cases attributes with
  | nil => rfl
  | cons attr others =>
    obtain ⟨name, value⟩ := attr
    obtain ⟨hname, hvalue⟩ := hattributes _ List.mem_cons_self
    rw [spellAttributes_cons, List.append_assoc, List.append_assoc, List.cons_append]
    by_cases hid : name = "id"
    · subst hid
      obtain ⟨taken, dropped⟩ := span_value hvalue.no_quote
        ((spellAttributes others).toList ++ '>' :: rest)
      have found := dropWord?_eq_some.2 (Eq.refl (" id=\"".toList ++ (value.toList ++
        '"' :: ((spellAttributes others).toList ++ '>' :: rest))))
      change (dropWord? " id=\"".toList (" id=\"".toList ++ _)).bind _ = _
      rw [found, Option.bind_some, taken, dropped, String.ofList_toList]
      -- The tag ends after the identifier only when there is no other attribute.
      cases others with
      | nil => rfl
      | cons other others =>
        obtain ⟨otherName, otherValue⟩ := other
        rw [spellAttributes_cons]
        simp [onlyIdentifier?]
    · have missing : dropWord? " id=\"".toList ((" " ++ name ++ "=\"").toList ++
          (value.toList ++ '"' :: ((spellAttributes others).toList ++ '>' :: rest))) = none := by
        -- No other name of the vocabulary starts with that of an identifier.
        simp only [documentVocabulary, List.mem_cons, List.not_mem_nil, or_false, hid,
          false_or] at hname
        rcases hname with rfl | rfl | rfl | rfl | rfl | rfl | rfl | rfl | rfl <;>
          simp [dropWord?]
      rw [lastIdentifier?, missing]
      simp [onlyIdentifier?, hid]

/-- An opening tag is found exactly when its token opens a heading. -/
theorem headingTag?_opening {name : String} {attributes : List Attribute}
    (hname : name ∈ documentVocabulary.elements)
    (hattributes : SafeAttributes documentVocabulary attributes) (rest : List Char) :
    headingTag? ((Token.opening name attributes).spell.toList ++ rest) =
      (Token.opening name attributes).heading? := by
  have last := lastIdentifier?_spellAttributes hattributes rest
  have spelled : (Token.opening name attributes).spell.toList ++ rest =
      '<' :: name.toList ++ ((spellAttributes attributes).toList ++ '>' :: rest) := by
    simp [Token.spell]
  rw [spelled, Token.heading?, ← last]
  -- What is left depends on the name alone, which is one of the vocabulary.
  simp only [documentVocabulary, List.mem_cons, List.not_mem_nil, or_false] at hname
  rcases hname with rfl | rfl | rfl | rfl | rfl | rfl | rfl | rfl | rfl | rfl | rfl | rfl | rfl |
    rfl | rfl | rfl <;> rfl

/-- In the spelling of a token the scanner finds the heading that the token opens, if any, and goes
on with what comes after. -/
theorem headingTags_token {token : Token} (htoken : token.Safe documentVocabulary)
    (rest : List Char) :
    headingTags (token.spell.toList ++ rest) = token.heading?.toList ++ headingTags rest := by
  have helements : ∀ name ∈ documentVocabulary.elements, '<' ∉ name.toList := by decide
  cases token with
  | text content => exact headingTags_of_notMem htoken.no_open rest
  | opening name attributes =>
    obtain ⟨hname, hattributes⟩ := htoken
    have spelled : (Token.opening name attributes).spell.toList =
        '<' :: (name.toList ++ ((spellAttributes attributes).toList ++ ['>'])) := by
      simp [Token.spell]
    have hrest : '<' ∉ name.toList ++ ((spellAttributes attributes).toList ++ ['>']) := by
      simp [helements name hname, no_open_spellAttributes hattributes]
    rw [← headingTag?_opening hname hattributes rest, spelled]
    exact headingTags_tag hrest rest
  | closing name =>
    have spelled : (Token.closing name).spell.toList = '<' :: '/' :: (name.toList ++ ['>']) := by
      simp [Token.spell]
    have hrest : '<' ∉ '/' :: (name.toList ++ ['>']) := by
      simp [helements name htoken]
    rw [spelled]
    exact headingTags_tag hrest rest
  | single name attributes =>
    obtain ⟨hname, hattributes⟩ := htoken
    have spelled : (Token.single name attributes).spell.toList =
        '<' :: (name.toList ++ ((spellAttributes attributes).toList ++ [' ', '/', '>'])) := by
      simp [Token.spell]
    simp only [documentVocabulary, List.mem_cons, List.not_mem_nil, or_false] at hname
    rw [spelled]
    rcases hname with rfl | rfl <;>
      exact headingTags_tag (by simp [no_open_spellAttributes hattributes]) rest

/-- **In spelled tokens the scanner finds those that open a heading**, and nothing else. -/
theorem headingTags_spell {tokens : List Token}
    (htokens : ∀ token ∈ tokens, token.Safe documentVocabulary) :
    headingTags (spell tokens).toList = headingsIn tokens := by
  induction tokens with
  | nil => rfl
  | cons token tokens ih =>
    rw [List.forall_mem_cons] at htokens
    rw [spell_cons, String.toList_append, headingTags_token htokens.1, ih htokens.2, headingsIn,
      headingsIn, List.filterMap_cons]
    cases token.heading? <;> rfl

/-! ### Headings that tokens open -/

theorem headingsIn_append (first rest : List Token) :
    headingsIn (first ++ rest) = headingsIn first ++ headingsIn rest :=
  List.filterMap_append

/-- An element other than a heading opens the headings in its content. -/
theorem headingsIn_element {name : String} (hname : headingLevel? name = none)
    (attributes : List Attribute) (content : List Token) :
    headingsIn (element name attributes content) = headingsIn content := by
  have hopening : (Token.opening name attributes).heading? = none := by
    rw [Token.heading?, hname, Option.bind_none]
  rw [element, List.cons_append, headingsIn, List.filterMap_cons_none hopening,
    List.filterMap_append]
  exact List.append_nil _

/-- Tokens that spell nothing open no heading. -/
theorem headingsIn_of_spell_empty {tokens : List Token} (htokens : spell tokens = "") :
    headingsIn tokens = [] := by
  induction tokens with
  | nil => rfl
  | cons token tokens ih =>
    rw [spell_cons, String.append_eq_empty_iff] at htokens
    have hheading : token.heading? = none := by
      cases token with
      | opening name attributes => simp [Token.spell] at htokens
      | _ => rfl
    rw [headingsIn, List.filterMap_cons_none hheading]
    exact ih htokens.2

end Html

open Html

/-! ### Headings that a document opens -/

/-- The level and the escaped identifier, as they stand in the tag of a heading. -/
def Heading.tag (heading : Heading) : Nat × String := (heading.level, escape heading.id)

theorem headingsIn_mark (mark : Mark) (content : List Token) :
    headingsIn (mark.tokens content) = headingsIn content := by
  unfold Mark.tokens
  cases mark.kind with
  | unknown tag => rfl
  | _ => exact headingsIn_element rfl _ _

theorem headingsIn_marked (text : String) (marks : List Mark) :
    headingsIn (markedTokens text marks) = [] := by
  have fold (content : List Token) :
      headingsIn (marks.foldl (fun content mark => mark.tokens content) content) =
        headingsIn content := by
    induction marks generalizing content with
    | nil => rfl
    | cons mark marks ih => rw [List.foldl_cons, ih, headingsIn_mark]
  exact fold [.text (escape text)]

theorem headingsIn_leaf (node : Node) : headingsIn (leafTokens node) = [] := by
  unfold leafTokens
  cases node.kind with
  | text => exact headingsIn_marked _ _
  | _ => rfl

theorem headingsIn_enclose (node : Node) (body : List Token) :
    headingsIn (encloseTokens node body) = headingsIn body := by
  have line {name : String} (hname : headingLevel? name = none) (attributes : List Attribute)
      (content : List Token) :
      headingsIn (element name attributes content ++ [newline]) = headingsIn content := by
    rw [headingsIn_append, headingsIn_element hname]
    exact List.append_nil _
  unfold encloseTokens
  cases node.kind with
  | paragraph =>
    refine (line rfl [] _).trans ?_
    split
    case isTrue hempty => exact (headingsIn_of_spell_empty (String.isEmpty_iff.1 hempty)).symm
    case isFalse => rfl
  | bulletList | orderedList | listItem | blockquote => exact line rfl _ _
  | _ => rfl

/-- A heading opens itself and then what its content opens. -/
theorem headingsIn_heading (renderer : Renderer) {level : Nat} (id : String) (body : List Token)
    (hlevel : level ∈ [1, 2, 3, 4, 5, 6]) :
    headingsIn (renderer.headingTokens level id body) = (level, escape id) :: headingsIn body := by
  have hname : ∀ level ∈ [1, 2, 3, 4, 5, 6],
      headingLevel? ("h" ++ toString level) = some level := by decide
  have hanchor : headingsIn (renderer.anchorTokens id) = [] := by
    unfold Renderer.anchorTokens
    split <;> rfl
  have hopening : (Token.opening ("h" ++ toString level) [⟨"id", escape id⟩]).heading? =
      some (level, escape id) := by
    rw [Token.heading?, hname level hlevel]
    rfl
  calc headingsIn (renderer.headingTokens level id body)
      = (level, escape id) :: headingsIn (body ++ renderer.anchorTokens id) := by
        rw [Renderer.headingTokens, headingsIn_append, element, headingsIn, List.cons_append,
          List.filterMap_cons_some hopening, List.filterMap_append]
        simp only [List.cons_append, List.append_assoc]
        exact congrArg _ (List.append_nil _)
    _ = (level, escape id) :: headingsIn body := by
        rw [headingsIn_append, hanchor, List.append_nil]

section Documents

variable (renderer : Renderer)

theorem headings_tokensAt (depth : Nat) (node : Node) (headings : Headings) :
    (tokensAt renderer depth node headings).2 =
      headings.assignAll renderer (node.titles depth) := by
  rw [← headings_compileAt, compileAt_eq_spell, Prod.map_snd, id]

private theorem opened_cases :
    VisitCases
      (fun depth node => ∀ headings, headingsIn (tokensAt renderer depth node headings).1 =
        (renderer.assigned headings.met (node.titles depth)).map Heading.tag)
      (fun depth nodes => ∀ headings, headingsIn (tokensAll renderer depth nodes headings).1 =
        (renderer.assigned headings.met (Node.titlesAll depth nodes)).map Heading.tag) where
  deep depth node hdepth headings := by
    rw [tokensAt_deep renderer headings hdepth, titles_deep hdepth]
    rfl
  leaf depth node hdepth hleaf headings := by
    rw [tokensAt_leaf renderer headings hdepth hleaf, titles_leaf hleaf, headingsIn_leaf]
    rfl
  heading depth node hdepth hkind below headings := by
    rw [tokensAt_heading renderer headings hdepth hkind, titles_heading hdepth hkind]
    simp only [headingsIn_heading renderer _ _ (headingLevel_mem node), below]
    rfl
  branch depth node hdepth hleaf hkind below headings := by
    rw [tokensAt_branch renderer headings hdepth hleaf hkind, titles_branch hdepth hleaf hkind]
    simp only [headingsIn_enclose, below]
  nil depth headings := by
    rw [tokensAll_nil, Node.titlesAll]
    rfl
  cons depth node rest first others headings := by
    rw [tokensAll_cons, Node.titlesAll, renderer.assigned_append]
    simp only [headingsIn_append, first, others, headings_tokensAt, List.map_append]

/-- The tokens of a node open the headings that it records, in the order of the records. -/
theorem headingsIn_tokensAt (depth : Nat) (node : Node) (headings : Headings) :
    headingsIn (tokensAt renderer depth node headings).1 =
      (renderer.assigned headings.met (node.titles depth)).map Heading.tag :=
  (opened_cases renderer).node depth node headings

/-- **The heading tags in the markup are the entries of the outline.** The scanner finds, in the
markup of a rendered tree, one tag for each entry in document order, with the level and the escaped
identifier of the entry. -/
theorem headingTags_renderNode (root : Node) :
    headingTags (renderer.renderNode root).html.toList =
      (flattenAll (renderer.renderNode root).outline).map fun heading =>
        (heading.level, escape heading.id) := by
  have wellFormed := wellFormed_tokensAt renderer 0 root {}
  have html : (renderer.renderNode root).html = spell (tokensAt renderer 0 root {}).1 := by
    rw [Renderer.renderNode, compile, compileAt_eq_spell]
    rfl
  have records : flattenAll (renderer.renderNode root).outline =
      renderer.assigned {} (root.titles 0) := by
    rw [Renderer.renderNode, flattenAll_outline, headings_compile, Headings.records_assignAll]
    rfl
  rw [html, records, headingTags_spell wellFormed.safe, headingsIn_tokensAt]
  rfl

end Documents

end Folio
