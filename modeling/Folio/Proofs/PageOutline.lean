import Folio.Build
import Folio.Proofs.HeadingsKept

/-!
# The links of a page

The outline part of a page lists the headings of its document part, each linked by its identifier.
A reader of the outline that keeps track of the lists that are open finds one link for each entry,
in document order and in a list as deep as the entry; a reader of the document part finds a heading
tag with this identifier, also after a pass of an enhancer.

## Main definitions

* `Folio.Entry.ranked`: the headings of an entry, each with the number of entries above it.
* `Folio.outlineTokens`: the tokens of an outline.
* `Folio.listedLinks`: the links in markup, each with the class of the innermost list around it.

## Main results

* `Folio.spell_outlineTokens`, `Folio.wellFormed_outlineTokens`: the markup of an outline splits
  into safe and nested tokens.
* `Folio.listedLinks_outlineHtml`: the links of an outline are its entries.
* `Folio.page_links`: the links of a page lead to its headings.
-/

namespace Folio

open Document Html Text

variable {η : Type}

/-! ### Entries and their ranks -/

mutual

/-- The headings of an entry and of those below it, in document order, each with the number of
entries above it. -/
def Entry.ranked (depth : Nat) : Entry → List (Nat × Heading)
  | ⟨heading, children⟩ => (depth, heading) :: rankedAll (depth + 1) children

/-- The headings of several entries with the number of entries above each. -/
def rankedAll (depth : Nat) : List Entry → List (Nat × Heading)
  | [] => []
  | entry :: rest => entry.ranked depth ++ rankedAll depth rest

end

mutual

theorem map_snd_ranked (depth : Nat) : (entry : Entry) →
    (entry.ranked depth).map Prod.snd = entry.flatten
  | ⟨heading, children⟩ => by
    rw [Entry.ranked, Entry.flatten, List.map_cons, map_snd_rankedAll (depth + 1) children]

theorem map_snd_rankedAll (depth : Nat) : (entries : List Entry) →
    (rankedAll depth entries).map Prod.snd = flattenAll entries
  | [] => by rw [rankedAll, flattenAll, List.map_nil]
  | entry :: rest => by
    rw [rankedAll, flattenAll, List.map_append, map_snd_ranked depth entry,
      map_snd_rankedAll depth rest]

end

theorem flattenAll_eq_nil {entries : List Entry} : flattenAll entries = [] ↔ entries = [] := by
  cases entries with
  | nil => simp [flattenAll]
  | cons entry rest =>
    obtain ⟨heading, children⟩ := entry
    simp [flattenAll, Entry.flatten]

/-! ### The tokens of an outline -/

/-- The elements and attributes of an outline. -/
def outlineVocabulary : Vocabulary where
  elements := ["nav", "h2", "ul", "li", "a"]
  singles := []
  attributes := ["class", "href"]

/-- The class of a list that stands below a number of entries. -/
def listClass (depth : Nat) : String := "toc-list toc-level-" ++ toString depth

/-- The tokens of the link to a heading. -/
def outlineLinkTokens (heading : Heading) : List Token :=
  element "a" [⟨"href", "#" ++ escape heading.id⟩, ⟨"class", "toc-link"⟩]
    [.text (escape heading.text)]

/-- The tokens of a list with some items. -/
def listTokens (depth : Nat) (items : List Token) : List Token :=
  element "ul" [⟨"class", listClass depth⟩] (newline :: items) ++ [newline]

mutual

/-- The tokens of the item of an entry. -/
def itemTokens (depth : Nat) : Entry → List Token
  | ⟨heading, children⟩ =>
    element "li" [⟨"class", "toc-item"⟩]
      (outlineLinkTokens heading ++ belowTokens (depth + 1) children) ++ [newline]

/-- The tokens of the items of several entries. -/
def itemsTokens (depth : Nat) : List Entry → List Token
  | [] => []
  | entry :: rest => itemTokens depth entry ++ itemsTokens depth rest

/-- The tokens of the entries below an entry. -/
def belowTokens (depth : Nat) : List Entry → List Token
  | [] => []
  | entry :: rest => newline :: listTokens depth (itemTokens depth entry ++ itemsTokens depth rest)

end

/-- The tokens of an outline; that of an empty one has none. -/
def outlineTokens : List Entry → List Token
  | [] => []
  | entries =>
    element "nav" [⟨"class", "table-of-contents"⟩]
      (newline :: element "h2" [⟨"class", "toc-title"⟩] [.text "Table of Contents"] ++ [newline] ++
        listTokens 0 (itemsTokens 0 entries)) ++ [newline]

theorem outlineLink_eq (heading : Heading) :
    outlineLink heading = "<a href=\"#" ++ escape heading.id ++ "\" class=\"toc-link\">" ++
      escape heading.text ++ "</a>" := rfl

theorem spell_outlineLinkTokens (heading : Heading) :
    spell (outlineLinkTokens heading) = outlineLink heading := by
  rw [outlineLinkTokens, outlineLink_eq, spell_element, spell_singleton]
  generalize escape heading.id = id
  generalize escape heading.text = text
  apply String.toList_injective
  simp [Token.spell, spellAttributes, Attribute.spell]

theorem spell_listTokens (depth : Nat) (items : List Token) :
    spell (listTokens depth items) = openList depth ++ spell items ++ "</ul>\n" := by
  unfold listTokens listClass openList
  generalize toString depth = level
  rw [spell_append, spell_element, spell_cons, spell_singleton]
  generalize spell items = inner
  apply String.toList_injective
  simp [newline, Token.spell, spellAttributes, Attribute.spell]

theorem spell_item (heading : Heading) (below : List Token) :
    spell (element "li" [⟨"class", "toc-item"⟩] (outlineLinkTokens heading ++ below) ++
      [newline]) =
        "<li class=\"toc-item\">" ++ outlineLink heading ++ spell below ++ "</li>\n" := by
  rw [spell_append, spell_element, spell_append, spell_outlineLinkTokens, spell_singleton]
  generalize outlineLink heading = link
  generalize spell below = inner
  apply String.toList_injective
  simp [newline, Token.spell, spellAttributes, Attribute.spell]

theorem spell_below (depth : Nat) (first rest : List Token) :
    spell (newline :: listTokens depth (first ++ rest)) =
      "\n" ++ openList depth ++ spell first ++ spell rest ++ "</ul>\n" := by
  rw [spell_cons, spell_listTokens, spell_append]
  generalize openList depth = opening
  apply String.toList_injective
  simp [newline, Token.spell]

theorem outlineItem_eq (depth : Nat) (heading : Heading) (children : List Entry) :
    outlineItem depth ⟨heading, children⟩ =
      "<li class=\"toc-item\">" ++ outlineLink heading ++ outlineBelow (depth + 1) children ++
        "</li>\n" := rfl

mutual

theorem spell_itemTokens (depth : Nat) : (entry : Entry) →
    spell (itemTokens depth entry) = outlineItem depth entry
  | ⟨heading, children⟩ => by
    rw [itemTokens, outlineItem_eq, spell_item, spell_belowTokens (depth + 1) children]

theorem spell_itemsTokens (depth : Nat) : (entries : List Entry) →
    spell (itemsTokens depth entries) = outlineItems depth entries
  | [] => by rw [itemsTokens, outlineItems, spell_nil]
  | entry :: rest => by
    rw [itemsTokens, outlineItems, spell_append, spell_itemTokens depth entry,
      spell_itemsTokens depth rest]

theorem spell_belowTokens (depth : Nat) : (entries : List Entry) →
    spell (belowTokens depth entries) = outlineBelow depth entries
  | [] => by rw [belowTokens, outlineBelow, spell_nil]
  | entry :: rest => by
    rw [belowTokens, outlineBelow, spell_below, spell_itemTokens depth entry,
      spell_itemsTokens depth rest]

end

/-- **The markup of an outline is what its tokens spell.** -/
theorem spell_outlineTokens (entries : List Entry) :
    spell (outlineTokens entries) = outlineHtml entries := by
  cases entries with
  | nil => rfl
  | cons entry rest =>
    have hopening : (Token.opening "nav" [⟨"class", "table-of-contents"⟩]).spell ++
        spell (newline :: element "h2" [⟨"class", "toc-title"⟩] [.text "Table of Contents"] ++
          [newline]) =
        "<nav class=\"table-of-contents\">\n<h2 class=\"toc-title\">Table of Contents</h2>\n" := by
      decide
    have hclosing : "</ul>\n" ++ ((Token.closing "nav").spell ++ newline.spell) =
        "</ul>\n</nav>\n" := by
      decide
    rw [outlineTokens, outlineHtml, spell_append, spell_element, spell_append, spell_listTokens,
      spell_itemsTokens, spell_singleton, ← hopening, ← hclosing]
    · simp only [String.append_assoc]
    · exact List.cons_ne_nil _ _
    · exact List.cons_ne_nil _ _

/-! ### An outline is well formed -/

theorem wellFormed_outline_newline : WellFormed outlineVocabulary [newline] := .text (by decide)

theorem safeValue_listClass (depth : Nat) : SafeValue (listClass depth) :=
  SafeValue.append (by decide) (safeValue_toString depth)

theorem wellFormed_link (heading : Heading) :
    WellFormed outlineVocabulary (outlineLinkTokens heading) :=
  .element (by decide) (.cons (by decide) (SafeValue.append (by decide) (safeValue_escape _))
    (.cons (by decide) (by decide) safeAttributes_nil)) (.text (safeText_escape _))

theorem wellFormed_list (depth : Nat) {items : List Token}
    (hitems : WellFormed outlineVocabulary items) :
    WellFormed outlineVocabulary (listTokens depth items) :=
  (WellFormed.element (by decide) (.cons (by decide) (safeValue_listClass depth) safeAttributes_nil)
    (wellFormed_outline_newline.append hitems)).append wellFormed_outline_newline

mutual

theorem wellFormed_item (depth : Nat) : (entry : Entry) →
    WellFormed outlineVocabulary (itemTokens depth entry)
  | ⟨heading, children⟩ => by
    have hbelow := wellFormed_below (depth + 1) children
    rw [itemTokens]
    exact (WellFormed.element (by decide) (.cons (by decide) (by decide) safeAttributes_nil)
      ((wellFormed_link heading).append hbelow)).append wellFormed_outline_newline

theorem wellFormed_items (depth : Nat) : (entries : List Entry) →
    WellFormed outlineVocabulary (itemsTokens depth entries)
  | [] => by
    rw [itemsTokens]
    exact .nil
  | entry :: rest => by
    rw [itemsTokens]
    exact (wellFormed_item depth entry).append (wellFormed_items depth rest)

theorem wellFormed_below (depth : Nat) : (entries : List Entry) →
    WellFormed outlineVocabulary (belowTokens depth entries)
  | [] => by
    rw [belowTokens]
    exact .nil
  | entry :: rest => by
    rw [belowTokens]
    exact wellFormed_outline_newline.append
      (wellFormed_list depth ((wellFormed_item depth entry).append (wellFormed_items depth rest)))

end

/-- **The markup of an outline splits into safe and nested tokens.** -/
theorem wellFormed_outlineTokens (entries : List Entry) :
    WellFormed outlineVocabulary (outlineTokens entries) := by
  cases entries with
  | nil => exact .nil
  | cons entry rest =>
    have htitle : WellFormed outlineVocabulary
        (element "h2" [⟨"class", "toc-title"⟩] [.text "Table of Contents"] ++ [newline]) :=
      (WellFormed.element (by decide) (.cons (by decide) (by decide) safeAttributes_nil)
        (.text (by decide))).append wellFormed_outline_newline
    have hlist := wellFormed_list 0 (wellFormed_items 0 (entry :: rest))
    exact (WellFormed.element (by decide) (.cons (by decide) (by decide) safeAttributes_nil)
      (wellFormed_outline_newline.append (htitle.append hlist))).append wellFormed_outline_newline

/-! ### Reading links from markup -/

/-- What the tag at the start of markup changes for a reader of links: the classes of the lists that
are open, the innermost first, and the link that begins there with the class of the list around
it. -/
def readTag (lists : List String) (cs : List Char) :
    List String × List (Option String × String) :=
  match dropWord? "<ul class=\"".toList cs, dropWord? "</ul>".toList cs,
    dropWord? "<a href=\"#".toList cs with
  | some rest, _, _ => (String.ofList (rest.takeWhile (· != '"')) :: lists, [])
  | none, some _, _ => (lists.tail, [])
  | none, none, some rest => (lists, [(lists.head?, String.ofList (rest.takeWhile (· != '"')))])
  | none, none, none => (lists, [])

/-- The addresses of the links in markup that lead to an identifier, from left to right, each with
the class of the innermost list around the link. Every position of the markup is tried. -/
def listedLinks (lists : List String) : List Char → List (Option String × String)
  | [] => []
  | c :: cs =>
    (readTag lists (c :: cs)).2 ++ listedLinks (readTag lists (c :: cs)).1 cs

/-- A word that starts with an angle bracket does not stand where another character does. -/
theorem dropWord?_of_ne {c : Char} (hc : c ≠ '<') (word cs : List Char) :
    dropWord? ('<' :: word) (c :: cs) = none := by
  rw [dropWord?, if_neg]
  rw [List.isPrefixOf_iff_prefix, List.cons_prefix_cons]
  exact fun h => hc h.1.symm

theorem readTag_of_ne (lists : List String) {c : Char} (hc : c ≠ '<') (cs : List Char) :
    readTag lists (c :: cs) = (lists, []) := by
  have hlist : dropWord? "<ul class=\"".toList (c :: cs) = none := dropWord?_of_ne hc _ _
  have hclose : dropWord? "</ul>".toList (c :: cs) = none := dropWord?_of_ne hc _ _
  have hlink : dropWord? "<a href=\"#".toList (c :: cs) = none := dropWord?_of_ne hc _ _
  rw [readTag, hlist, hclose, hlink]

theorem listedLinks_of_notMem (lists : List String) {cs : List Char} (hcs : '<' ∉ cs)
    (rest : List Char) : listedLinks lists (cs ++ rest) = listedLinks lists rest := by
  induction cs with
  | nil => rfl
  | cons c cs ih =>
    obtain ⟨hc, hcs⟩ := List.ne_and_not_mem_of_not_mem_cons hcs
    rw [List.cons_append, listedLinks, readTag_of_ne lists hc.symm, ih hcs, List.nil_append]

/-- A tag is read at its start. -/
theorem listedLinks_tag (lists : List String) {cs : List Char} (hcs : '<' ∉ cs)
    (rest : List Char) :
    listedLinks lists ('<' :: (cs ++ rest)) =
      (readTag lists ('<' :: (cs ++ rest))).2 ++
        listedLinks (readTag lists ('<' :: (cs ++ rest))).1 rest := by
  rw [listedLinks, listedLinks_of_notMem _ hcs]

/-- The opening tag of a list opens it. -/
theorem readTag_list (lists : List String) {value : String} (hvalue : SafeValue value)
    (rest : List Char) :
    readTag lists ("<ul class=\"".toList ++ (value.toList ++ '"' :: rest)) =
      (value :: lists, []) := by
  rw [readTag, dropWord?_eq_some.2 rfl]
  exact congrArg (fun read => (read :: lists, [])) (by
    rw [(span_value hvalue.no_quote rest).1, String.ofList_toList])

/-- The opening tag of a link leads to its identifier. -/
theorem readTag_link (lists : List String) {value : String} (hvalue : SafeValue value)
    (rest : List Char) :
    readTag lists ("<a href=\"#".toList ++ (value.toList ++ '"' :: rest)) =
      (lists, [(lists.head?, value)]) := by
  have hlist : dropWord? "<ul class=\"".toList
      ("<a href=\"#".toList ++ (value.toList ++ '"' :: rest)) = none := rfl
  have hclose : dropWord? "</ul>".toList
      ("<a href=\"#".toList ++ (value.toList ++ '"' :: rest)) = none := rfl
  rw [readTag, hlist, hclose, dropWord?_eq_some.2 rfl]
  exact congrArg (fun read => (lists, [(lists.head?, read)])) (by
    rw [(span_value hvalue.no_quote rest).1, String.ofList_toList])

/-- Tokens in which a reader finds some links, and which leave the open lists as they are. -/
def Reads (lists : List String) (tokens : List Token) (links : List (Option String × String)) :
    Prop :=
  ∀ rest, listedLinks lists ((spell tokens).toList ++ rest) = links ++ listedLinks lists rest

namespace Reads

variable {lists : List String} {first rest content : List Token}
  {links others : List (Option String × String)}

theorem nil : Reads lists [] [] := fun _ => rfl

theorem text {content : String} (hcontent : SafeText content) : Reads lists [.text content] [] := by
  intro rest
  rw [spell_singleton, Token.spell, listedLinks_of_notMem lists hcontent.no_open, List.nil_append]

theorem append (hfirst : Reads lists first links) (hrest : Reads lists rest others) :
    Reads lists (first ++ rest) (links ++ others) := by
  intro after
  rw [spell_append, String.toList_append, List.append_assoc, hfirst, hrest, List.append_assoc]

/-- An element is read from its opening tag to its closing tag. -/
theorem enclosed (found : List (Option String × String)) {name : String}
    {attributes : List Attribute} {inner : List String}
    (hname : '<' ∉ name.toList) (hattributes : '<' ∉ (spellAttributes attributes).toList)
    (hopening : ∀ after, readTag lists
      ('<' :: (name.toList ++ ((spellAttributes attributes).toList ++ '>' :: after))) =
        (inner, found))
    (hclosing : ∀ after, readTag inner ('<' :: '/' :: (name.toList ++ '>' :: after)) = (lists, []))
    (hcontent : Reads inner content links) :
    Reads lists (element name attributes content) (found ++ links) := by
  intro after
  have hopen : '<' ∉ name.toList ++ ((spellAttributes attributes).toList ++ ['>']) := by
    simp [hname, hattributes]
  have hclose : '<' ∉ '/' :: (name.toList ++ ['>']) := by
    simp [hname]
  have hspelled : (spell (element name attributes content)).toList ++ after =
      '<' :: ((name.toList ++ ((spellAttributes attributes).toList ++ ['>'])) ++
        ((spell content).toList ++ '<' :: ('/' :: (name.toList ++ ['>']) ++ after))) := by
    rw [spell_element]
    simp [Token.spell]
  rw [hspelled, listedLinks_tag lists hopen]
  simp only [List.append_assoc, List.singleton_append, hopening]
  rw [hcontent, listedLinks_tag inner hclose]
  simp only [List.cons_append, List.append_assoc, hclosing, List.nil_append]

/-- A list is open around its content only. -/
theorem list {value : String} (hvalue : SafeValue value)
    (hcontent : Reads (value :: lists) content links) :
    Reads lists (element "ul" [⟨"class", value⟩] content) links := by
  refine enclosed [] (by decide) ?_ ?_ ?_ hcontent
  · exact no_open_spellAttributes (.cons (by decide) hvalue safeAttributes_nil)
  · intro after
    have hspelled : '<' :: ("ul".toList ++
        ((spellAttributes [⟨"class", value⟩]).toList ++ '>' :: after)) =
          "<ul class=\"".toList ++ (value.toList ++ '"' :: '>' :: after) := by
      rw [spellAttributes_cons]
      simp [spellAttributes]
    rw [hspelled, readTag_list lists hvalue]
  · exact fun _ => rfl

/-- A link is found in the innermost list around it. -/
theorem link (heading : Heading) :
    Reads lists (outlineLinkTokens heading) [(lists.head?, escape heading.id)] := by
  have hid := safeValue_escape heading.id
  have htext : Reads lists [.text (escape heading.text)] [] := .text (safeText_escape heading.text)
  rw [outlineLinkTokens]
  generalize escape heading.text = text at htext
  generalize escape heading.id = value at hid
  refine enclosed [(lists.head?, value)] (by decide) ?_ ?_ ?_ htext
  · exact no_open_spellAttributes (.cons (by decide) (SafeValue.append (by decide) hid)
      (.cons (by decide) (by decide) safeAttributes_nil))
  · intro after
    have hspelled : '<' :: ("a".toList ++
        ((spellAttributes [⟨"href", "#" ++ value⟩, ⟨"class", "toc-link"⟩]).toList ++
          '>' :: after)) =
        "<a href=\"#".toList ++
          (value.toList ++ '"' :: (" class=\"toc-link\">".toList ++ after)) := by
      rw [spellAttributes_cons]
      simp [spellAttributes, Attribute.spell]
    rw [hspelled, readTag_link lists hid]
  · exact fun _ => rfl

/-- The other elements of an outline are neither lists nor links. -/
theorem other {name : String} (hname : name ∈ ["nav", "h2", "li"]) {attributes : List Attribute}
    (hattributes : SafeAttributes documentVocabulary attributes)
    (hcontent : Reads lists content links) :
    Reads lists (element name attributes content) links := by
  have hopen := no_open_spellAttributes hattributes
  simp only [List.mem_cons, List.not_mem_nil, or_false] at hname
  rcases hname with rfl | rfl | rfl <;>
    exact enclosed [] (by decide) hopen (fun _ => rfl) (fun _ => rfl) hcontent

theorem after {content : String} (hcontent : SafeText content) (hrest : Reads lists rest links) :
    Reads lists (.text content :: rest) links :=
  (text hcontent).append hrest

theorem line (hfirst : Reads lists first links) : Reads lists (first ++ [newline]) links := by
  have hnewline : Reads lists [newline] [] := text (by decide)
  have hline := hfirst.append hnewline
  rwa [List.append_nil] at hline

end Reads

/-! ### The links of an outline -/

/-- The link to a heading with some entries above it, as a reader is to find it. -/
def listedLink (ranked : Nat × Heading) : Option String × String :=
  (some (listClass ranked.1), escape ranked.2.id)

theorem reads_list (depth : Nat) {lists : List String} {items : List Token}
    {links : List (Option String × String)}
    (hitems : Reads (listClass depth :: lists) items links) :
    Reads lists (listTokens depth items) links :=
  (Reads.list (safeValue_listClass depth) (hitems.after (by decide))).line

mutual

theorem reads_item (depth : Nat) (lists : List String) : (entry : Entry) →
    Reads (listClass depth :: lists) (itemTokens depth entry) ((entry.ranked depth).map listedLink)
  | ⟨heading, children⟩ => by
    have hbelow := reads_below (depth + 1) (listClass depth :: lists) children
    rw [itemTokens, Entry.ranked, List.map_cons]
    exact (Reads.other (by decide) (.cons (by decide) (by decide) safeAttributes_nil)
      ((Reads.link heading).append hbelow)).line

theorem reads_items (depth : Nat) (lists : List String) : (entries : List Entry) →
    Reads (listClass depth :: lists) (itemsTokens depth entries)
      ((rankedAll depth entries).map listedLink)
  | [] => by
    rw [itemsTokens, rankedAll]
    exact .nil
  | entry :: rest => by
    rw [itemsTokens, rankedAll, List.map_append]
    exact (reads_item depth lists entry).append (reads_items depth lists rest)

theorem reads_below (depth : Nat) (lists : List String) : (entries : List Entry) →
    Reads lists (belowTokens depth entries) ((rankedAll depth entries).map listedLink)
  | [] => by
    rw [belowTokens, rankedAll]
    exact .nil
  | entry :: rest => by
    have hitems := (reads_item depth lists entry).append (reads_items depth lists rest)
    rw [belowTokens, rankedAll, List.map_append]
    exact (reads_list depth hitems).after (by decide)

end

theorem reads_outline (lists : List String) (entries : List Entry) :
    Reads lists (outlineTokens entries) ((rankedAll 0 entries).map listedLink) := by
  cases entries with
  | nil =>
    rw [outlineTokens, rankedAll]
    exact .nil
  | cons entry rest =>
    have htitle : Reads lists (element "h2" [⟨"class", "toc-title"⟩] [.text "Table of Contents"]) []
      := .other (by decide) (.cons (by decide) (by decide) safeAttributes_nil) (.text (by decide))
    have hlist := reads_list 0 (reads_items 0 lists (entry :: rest))
    rw [outlineTokens]
    · exact (Reads.other (by decide) (.cons (by decide) (by decide) safeAttributes_nil)
        ((htitle.line.append hlist).after (by decide))).line
    · exact List.cons_ne_nil _ _

/-- **The links of an outline are its entries**, in document order and each in the list that is as
deep as the entry. -/
theorem listedLinks_outlineHtml (entries : List Entry) :
    listedLinks [] (outlineHtml entries).toList = (rankedAll 0 entries).map listedLink := by
  have hread := reads_outline [] entries []
  rwa [spell_outlineTokens, List.append_nil, listedLinks, List.append_nil] at hread

/-! ### The parts of a page -/

/-- The document part of a page has the heading tags of the document. -/
theorem headingTags_pageArticle (html : String) :
    headingTags (pageArticle html).toList = headingTags html.toList := by
  have hend : headingTags (html.toList ++ "</article>\n".toList) = headingTags html.toList := by
    have hseam : Seam html.toList "</article>\n".toList := .before_tag html.toList _
    rw [headingTags_append hseam (by simp [Inert])]
    exact List.append_nil _
  have hopening : "<article class=\"document-body\">\n".toList =
      '<' :: 'a' :: "rticle class=\"document-body\">\n".toList := by
    decide
  have hpage : pageArticle html = "<article class=\"document-body\">\n" ++ html ++ "</article>\n" :=
    rfl
  rw [hpage, String.toList_append, String.toList_append, List.append_assoc, hopening,
    List.cons_append, List.cons_append, headingTags_other (by decide) (by decide), hend]

theorem Rendered.outline_enhance (document : Rendered) (enhancer : Option (Enhancer η)) :
    (document.enhance enhancer).outline = document.outline := by
  cases enhancer <;> rfl

/-- The markup of a document tree has a heading tag for each heading that it records. -/
theorem headingTags_compile (renderer : Renderer) (root : Node) (headings : Headings) :
    headingTags (compile renderer root headings).1.toList =
      (renderer.assigned headings.met (root.titles 0)).map Heading.tag := by
  rw [compile, compileAt_eq_spell, ← headingsIn_tokensAt]
  exact headingTags_spell (wellFormed_tokensAt renderer 0 root headings).safe

/-- The outline of a document tree has an entry for each heading that it records. -/
theorem flattenAll_renderNode (renderer : Renderer) (root : Node) :
    flattenAll (renderer.renderNode root).outline = renderer.assigned {} (root.titles 0) := by
  rw [Renderer.renderNode, flattenAll_outline, headings_compile, Headings.records_assignAll]
  rfl

/-- A rendered tree has a heading tag for each entry of its outline, also after a pass. -/
theorem headingTags_enhance (renderer : Renderer) (root : Node) {enhancer : Option (Enhancer η)}
    (henhancer : ∀ e ∈ enhancer, e.AddsNoHeading) :
    headingTags ((renderer.renderNode root).enhance enhancer).html.toList =
      (flattenAll ((renderer.renderNode root).enhance enhancer).outline).map Heading.tag := by
  rw [Rendered.outline_enhance, flattenAll_renderNode]
  cases enhancer with
  | none => exact headingTags_compile renderer root {}
  | some enhancer =>
    exact (headingTags_enhanceHtml renderer root {} (henhancer enhancer rfl)).trans
      (headingTags_compile renderer root {})

/-- Only an outline without entries has no markup, as every entry has a link. -/
theorem outlineHtml_eq_empty {entries : List Entry} : outlineHtml entries = "" ↔ entries = [] := by
  constructor
  · intro hempty
    have hlinks := listedLinks_outlineHtml entries
    rw [hempty] at hlinks
    have hranked : rankedAll 0 entries = [] := List.map_eq_nil_iff.1 hlinks.symm
    rw [← flattenAll_eq_nil, ← map_snd_rankedAll 0, hranked, List.map_nil]
  · rintro rfl
    rfl

/-- **The links of a page lead to its headings.** When the outline is asked for, the page of a
document tree consists of an outline part and a document part, the latter perhaps after a pass of an
enhancer that adds no heading tag. The links of the outline part lead, one for one and in order, to
the identifiers of the heading tags of the document part, and the link of an entry stands in the
list whose class tells how many entries are above it. The outline part splits into nested tokens. It
is missing exactly when the document part has no heading tag. -/
theorem page_links (renderer : Renderer) (root : Node) (enhancer : Option (Enhancer η))
    (title styles : Option String) (htoc : renderer.config.page.includeToc = true)
    (henhancer : ∀ e ∈ enhancer, e.AddsNoHeading) :
    let document := (renderer.renderNode root).enhance enhancer
    let nav := pageOutline renderer.config.page document.outline
    let article := pageArticle document.html
    let links := listedLinks [] nav.toList
    (∀ name text, Content.ofText text = .structured root →
      buildPage renderer ⟨enhancer, styles⟩ name text =
        pageHtml document renderer.config.page (some (stem name)) styles) ∧
    pageHtml document renderer.config.page title styles =
      pageHead (title.getD renderer.config.page.title) (styles.getD "") ++
        "<body>\n<div class=\"container\">\n" ++ nav ++ article ++ "</div>\n</body>\n</html>\n" ∧
    links.map Prod.snd = (headingTags article.toList).map Prod.snd ∧
    links = (rankedAll 0 document.outline).map listedLink ∧
    (∃ tokens, spell tokens = nav ∧ WellFormed outlineVocabulary tokens) ∧
    (nav = "" ↔ headingTags article.toList = []) := by
  intro document nav article links
  have hnav : nav = outlineHtml document.outline := if_pos htoc
  have hlinks : links = (rankedAll 0 document.outline).map listedLink := by
    rw [← listedLinks_outlineHtml, ← hnav]
  have hheadings : headingTags article.toList = (flattenAll document.outline).map Heading.tag := by
    rw [headingTags_pageArticle, headingTags_enhance renderer root henhancer]
  refine ⟨?_, rfl, ?_, hlinks, ⟨outlineTokens document.outline, ?_, wellFormed_outlineTokens _⟩, ?_⟩
  · intro name text htext
    rw [buildPage, Renderer.render, htext]
    rfl
  · rw [hlinks, hheadings, ← map_snd_rankedAll 0, List.map_map, List.map_map, List.map_map]
    rfl
  · rw [spell_outlineTokens, hnav]
  · rw [hheadings, hnav, outlineHtml_eq_empty, List.map_eq_nil_iff, flattenAll_eq_nil]

/-- The stand-in for a library of grammars puts spans into the code below a heading, and the link to
the heading still leads to it. -/
theorem page_links_builtin :
    let root := Node.branch .document [Node.headingOf 1 "Setup", Node.codeOf (some "rust") "a < b"]
    let enhancer : Enhancer Nat := { highlighter := some builtinHighlighter, onCodeCopy := some 0 }
    let document := (Renderer.renderNode {} root).enhance (some enhancer)
    let links := listedLinks [] (pageOutline {} document.outline).toList
    (PageOptions.includeToc {}) = true ∧ enhancer.AddsNoHeading ∧
      links.map Prod.snd = (headingTags (pageArticle document.html).toList).map Prod.snd ∧
      links = (rankedAll 0 document.outline).map listedLink := by
  intro root enhancer document links
  have henhancer : enhancer.AddsNoHeading := by
    rintro highlighter hhighlighter code language markup hok
    obtain rfl := Option.mem_some_iff.1 hhighlighter
    exact headingTags_builtinHighlighter hok
  have hpage := page_links {} root (some enhancer) none none rfl fun e he =>
    Option.mem_some_iff.1 he ▸ henhancer
  exact ⟨rfl, henhancer, hpage.2.2.1, hpage.2.2.2.1⟩

end Folio
