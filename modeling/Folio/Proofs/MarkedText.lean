import Folio.Proofs.DocumentMarkup
import Folio.Proofs.Entities
import Mathlib.Data.List.Forall2
import Mathlib.Data.List.Induction

/-!
# Marked text taken apart

The marks of a text wrap it one after the other, so that its markup is a row of opening tags, the
text, and a row of closing tags. It can be taken apart in no other way: an opening tag ends where
its attributes do, since no value has a quotation mark, the text ends where the next tag begins, and
a closing tag shows itself by its slash. Each of these pieces can be cancelled at the start of a
longer text, and with all pieces gone the two ways to take the markup apart are the same.

What the pieces mean is read off them: a tag of a link gives back its address and its title, and the
text its characters.

## Main definitions

* `Folio.Html.Tag`: an opening tag; `Html.Tag.attribute?` is the value of an attribute.
* `Folio.MarkedParts`: opening tags, a text, and closing tags.
* `Folio.Document.Mark.Opens`: a tag that opens the element of a mark.

## Main results

* `Folio.MarkedParts.eq_of_markup_eq`: markup has one way to be taken apart.
* `Folio.markup_markedParts`: the parts of a marked text.
* `Folio.markedText_taken_apart`: the tags of the marks in their order, and the text.
-/

namespace Folio

open Document Html Text

/-! ### Tags -/

/-- An opening tag. -/
@[ext]
structure Html.Tag where
  name : String
  attributes : List Attribute := []
  deriving DecidableEq, Repr

/-- The value of an attribute of a tag, as it stands between quotation marks. -/
def Html.Tag.attribute? (tag : Tag) (name : String) : Option String :=
  (tag.attributes.find? (·.name == name)).map Attribute.value

/-- A tag whose name and attributes can be told apart. -/
structure Html.Tag.Plain (tag : Tag) : Prop where
  name : ∀ c ∈ tag.name.toList, c ∉ [' ', '>', '/']
  attributes : ∀ attr ∈ tag.attributes, '=' ∉ attr.name.toList ∧ '"' ∉ attr.value.toList

/-- An opening tag as it stands in markup. -/
def Html.Tag.spelling (tag : Tag) : List Char :=
  '<' :: (tag.name.toList ++ (spellAttributes tag.attributes).toList ++ ['>'])

/-- A closing tag as it stands in markup. -/
def closingSpelling (name : String) : List Char :=
  '<' :: '/' :: (name.toList ++ ['>'])

theorem toList_spell_opening (tag : Tag) :
    (Token.opening tag.name tag.attributes).spell.toList = tag.spelling := by
  simp [Token.spell, Html.Tag.spelling]

theorem toList_spell_closing (name : String) :
    (Token.closing name).spell.toList = closingSpelling name := by
  simp [Token.spell, closingSpelling]

/-! ### Cancelling pieces -/

section Cancel

variable {first second rest others : List Char}

theorem spellAttributes_append_cons (attr : Attribute) (attributes : List Attribute) :
    (spellAttributes (attr :: attributes)).toList ++ '>' :: rest =
      ' ' :: (attr.name.toList ++ '=' :: '"' :: (attr.value.toList ++ '"' ::
        ((spellAttributes attributes).toList ++ '>' :: rest))) := by
  cases attr
  simp [spellAttributes_cons]

/-- Attributes up to the end of a tag can be cancelled. -/
theorem attributes_inj {as bs : List Attribute}
    (has : ∀ attr ∈ as, '=' ∉ attr.name.toList ∧ '"' ∉ attr.value.toList)
    (hbs : ∀ attr ∈ bs, '=' ∉ attr.name.toList ∧ '"' ∉ attr.value.toList)
    (h : (spellAttributes as).toList ++ '>' :: rest =
      (spellAttributes bs).toList ++ '>' :: others) : as = bs ∧ rest = others := by
  induction as generalizing bs with
  | nil =>
    cases bs with
    | nil => exact ⟨rfl, List.tail_eq_of_cons_eq h⟩
    | cons b bs =>
      rw [spellAttributes_append_cons] at h
      exact absurd (List.head_eq_of_cons_eq h) (by decide)
  | cons a as ih =>
    cases bs with
    | nil =>
      rw [spellAttributes_append_cons] at h
      exact absurd (List.head_eq_of_cons_eq h) (by decide)
    | cons b bs =>
      obtain ⟨⟨haname, havalue⟩, has⟩ := List.forall_mem_cons.1 has
      obtain ⟨⟨hbname, hbvalue⟩, hbs⟩ := List.forall_mem_cons.1 hbs
      rw [spellAttributes_append_cons, spellAttributes_append_cons] at h
      obtain ⟨hname, h⟩ := append_cons_inj haname hbname (List.tail_eq_of_cons_eq h)
      obtain ⟨hvalue, h⟩ := append_cons_inj havalue hbvalue (List.tail_eq_of_cons_eq h)
      obtain ⟨rfl, hrest⟩ := ih has hbs h
      refine ⟨congrArg (· :: as) ?_, hrest⟩
      cases a
      cases b
      rw [Attribute.mk.injEq]
      exact ⟨String.toList_injective hname, String.toList_injective hvalue⟩

/-- After the name of a tag comes a space or the end of the tag. -/
theorem exists_stop_attributes (attributes : List Attribute) (rest : List Char) :
    ∃ c tail, c ∈ [' ', '>', '/'] ∧ c ≠ '/' ∧
      (spellAttributes attributes).toList ++ '>' :: rest = c :: tail := by
  cases attributes with
  | nil => exact ⟨'>', rest, by decide, by decide, rfl⟩
  | cons attr attributes =>
    exact ⟨' ', _, by decide, by decide, spellAttributes_append_cons attr attributes⟩

theorem Html.Tag.spelling_append (tag : Tag) (rest : List Char) :
    tag.spelling ++ rest =
      '<' :: (tag.name.toList ++ ((spellAttributes tag.attributes).toList ++ '>' :: rest)) := by
  simp [Html.Tag.spelling]

/-- An opening tag can be cancelled. -/
theorem Html.Tag.Plain.inj {tag other : Tag} (htag : tag.Plain) (hother : other.Plain)
    (h : tag.spelling ++ rest = other.spelling ++ others) : tag = other ∧ rest = others := by
  rw [Html.Tag.spelling_append, Html.Tag.spelling_append] at h
  have htail := List.tail_eq_of_cons_eq h
  obtain ⟨c, first, hc, -, hfirst⟩ := exists_stop_attributes tag.attributes rest
  obtain ⟨d, second, hd, -, hsecond⟩ := exists_stop_attributes other.attributes others
  rw [hfirst, hsecond] at htail
  obtain ⟨hname, hsame⟩ := append_cons_inj_of_stops htag.name hother.name hc hd htail
  rw [← hfirst, ← hsecond] at hsame
  obtain ⟨hattributes, hrest⟩ := attributes_inj htag.attributes hother.attributes hsame
  exact ⟨Tag.ext (String.toList_injective hname) hattributes, hrest⟩

/-- An opening tag is no closing tag. -/
theorem Html.Tag.Plain.not_closing {tag : Tag} (htag : tag.Plain) :
    tag.spelling ++ rest ≠ '<' :: '/' :: others := by
  intro h
  rw [Html.Tag.spelling_append] at h
  have htail := List.tail_eq_of_cons_eq h
  cases hname : tag.name.toList with
  | nil =>
    obtain ⟨c, tail, -, hc, hstop⟩ := exists_stop_attributes tag.attributes rest
    rw [hname, List.nil_append, hstop] at htail
    exact hc (List.head_eq_of_cons_eq htail)
  | cons c name =>
    rw [hname] at htail
    obtain rfl : c = '/' := List.head_eq_of_cons_eq htail
    exact htag.name '/' (hname ▸ List.mem_cons_self) (by decide)

theorem closingSpelling_append (name : String) (rest : List Char) :
    closingSpelling name ++ rest = '<' :: '/' :: (name.toList ++ '>' :: rest) := by
  simp [closingSpelling]

/-- A row of closing tags is read back. -/
theorem closings_inj {names closed : List String} (hnames : ∀ name ∈ names, '>' ∉ name.toList)
    (hclosed : ∀ name ∈ closed, '>' ∉ name.toList)
    (h : names.flatMap closingSpelling = closed.flatMap closingSpelling) : names = closed := by
  induction names generalizing closed with
  | nil =>
    cases closed with
    | nil => rfl
    | cons name closed => cases h
  | cons name names ih =>
    obtain ⟨hname, hnames⟩ := List.forall_mem_cons.1 hnames
    cases closed with
    | nil => cases h
    | cons other closed =>
      obtain ⟨hother, hclosed⟩ := List.forall_mem_cons.1 hclosed
      rw [List.flatMap_cons, List.flatMap_cons, closingSpelling_append, closingSpelling_append] at h
      obtain ⟨hsame, hrest⟩ := append_cons_inj hname hother
        (List.tail_eq_of_cons_eq (List.tail_eq_of_cons_eq h))
      rw [String.toList_injective hsame, ih hnames hclosed hrest]

/-- A text before closing tags is read back, and the tags are. -/
theorem content_inj {content other : List Char} {names closed : List String}
    (hcontent : '<' ∉ content) (hother : '<' ∉ other) (hnames : ∀ name ∈ names, '>' ∉ name.toList)
    (hclosed : ∀ name ∈ closed, '>' ∉ name.toList)
    (h : content ++ names.flatMap closingSpelling = other ++ closed.flatMap closingSpelling) :
    content = other ∧ names = closed := by
  have htags {text : List Char} (name : String) (names : List String) :
      text ++ (name :: names).flatMap closingSpelling =
        text ++ '<' :: ('/' :: (name.toList ++ '>' :: names.flatMap closingSpelling)) := by
    rw [List.flatMap_cons, closingSpelling_append]
  cases names with
  | nil =>
    cases closed with
    | nil => simpa using h
    | cons name closed =>
      rw [htags, List.flatMap_nil, List.append_nil] at h
      exact absurd (h ▸ List.mem_append_right other List.mem_cons_self) hcontent
  | cons name names =>
    cases closed with
    | nil =>
      rw [htags, List.flatMap_nil, List.append_nil] at h
      exact absurd (h ▸ List.mem_append_right content List.mem_cons_self) hother
    | cons name' closed =>
      rw [htags, htags] at h
      obtain ⟨rfl, hrest⟩ := append_cons_inj hcontent hother h
      refine ⟨rfl, closings_inj hnames hclosed ?_⟩
      rw [List.flatMap_cons, List.flatMap_cons, closingSpelling_append, closingSpelling_append,
        hrest]

/-- No opening tag begins where a text stands that ends in closing tags. -/
theorem Html.Tag.Plain.not_content {tag : Tag} (htag : tag.Plain) {content : List Char}
    {names : List String} (hcontent : '<' ∉ content) :
    content ++ names.flatMap closingSpelling ≠ tag.spelling ++ rest := by
  intro h
  cases content with
  | nil =>
    cases names with
    | nil => cases h
    | cons name names =>
      rw [List.nil_append, List.flatMap_cons, closingSpelling_append] at h
      exact htag.not_closing h.symm
  | cons c content =>
    rw [Html.Tag.spelling_append] at h
    obtain rfl : c = '<' := List.head_eq_of_cons_eq h
    exact hcontent List.mem_cons_self

end Cancel

/-! ### Markup in three parts -/

/-- Opening tags, a text, and the names of closing tags. -/
structure MarkedParts where
  opened : List Tag
  content : String
  closed : List String
  deriving DecidableEq, Repr

namespace MarkedParts

/-- The parts one after the other. -/
def tokens (parts : MarkedParts) : List Token :=
  parts.opened.map (fun tag => .opening tag.name tag.attributes) ++
    .text parts.content :: parts.closed.map .closing

/-- The markup of the parts. -/
def markup (parts : MarkedParts) : String := spell parts.tokens

/-- Parts that are what they say: tags that can be read, and a text in which no tag begins. -/
structure Plain (parts : MarkedParts) : Prop where
  opened : ∀ tag ∈ parts.opened, tag.Plain
  content : '<' ∉ parts.content.toList
  closed : ∀ name ∈ parts.closed, '>' ∉ name.toList

theorem toList_markup (parts : MarkedParts) :
    parts.markup.toList = parts.opened.flatMap Tag.spelling ++
      (parts.content.toList ++ parts.closed.flatMap closingSpelling) := by
  rw [markup, tokens, spell, String.toList_join, List.map_append, List.flatMap_append,
    List.map_cons, List.flatMap_cons, List.map_map, List.map_map, List.flatMap_map,
    List.flatMap_map]
  simp only [Function.comp_def, toList_spell_opening, toList_spell_closing]
  rfl

variable {parts others : MarkedParts}

/-- **Markup has one way to be taken apart.** -/
theorem eq_of_markup_eq (hparts : parts.Plain) (hothers : others.Plain)
    (h : parts.markup = others.markup) : parts = others := by
  obtain ⟨opened, content, closed⟩ := parts
  obtain ⟨opened', content', closed'⟩ := others
  obtain ⟨hopened, hcontent, hclosed⟩ := hparts
  obtain ⟨hopened', hcontent', hclosed'⟩ := hothers
  replace h := congrArg String.toList h
  rw [toList_markup, toList_markup] at h
  simp only at hopened hcontent hclosed hopened' hcontent' hclosed' h
  induction opened generalizing opened' with
  | nil =>
    cases opened' with
    | nil =>
      obtain ⟨hsame, rfl⟩ := content_inj hcontent hcontent' hclosed hclosed' h
      rw [String.toList_injective hsame]
    | cons tag opened' =>
      rw [List.flatMap_cons, List.append_assoc] at h
      exact absurd h ((hopened' tag List.mem_cons_self).not_content hcontent)
  | cons tag opened ih =>
    obtain ⟨htag, hopened⟩ := List.forall_mem_cons.1 hopened
    cases opened' with
    | nil =>
      rw [List.flatMap_cons, List.append_assoc] at h
      exact absurd h.symm (htag.not_content hcontent')
    | cons tag' opened' =>
      obtain ⟨htag', hrest'⟩ := List.forall_mem_cons.1 hopened'
      rw [List.flatMap_cons, List.flatMap_cons, List.append_assoc, List.append_assoc] at h
      obtain ⟨rfl, hrest⟩ := htag.inj htag' h
      cases ih opened' hopened hrest' hrest
      rfl

end MarkedParts

/-! ### The parts of a marked text -/

/-- Whether a mark is of a kind that has a tag. -/
def Document.Mark.isKnown (mark : Mark) : Bool :=
  match mark.kind with
  | .unknown _ => false
  | _ => true

/-- A tag opens the element of a mark. That of a link decodes to its address, which is empty where
it is missing, and to its title; a title that is missing or empty has no attribute. -/
def Document.Mark.Opens (mark : Mark) (tag : Tag) : Prop :=
  match mark.kind with
  | .bold => tag = ⟨"strong", []⟩
  | .italic => tag = ⟨"em", []⟩
  | .code => tag = ⟨"code", []⟩
  | .link =>
    tag.name = "a" ∧ (tag.attribute? "href").map unescape = some (mark.href?.getD "") ∧
      (tag.attribute? "title").map unescape = mark.title?.filter (· ≠ "")
  | .unknown _ => False

/-- The tag of a mark, if its kind has one. -/
def Document.Mark.tag? (mark : Mark) : Option Tag :=
  match mark.kind with
  | .bold => some ⟨"strong", []⟩
  | .italic => some ⟨"em", []⟩
  | .code => some ⟨"code", []⟩
  | .link => some ⟨"a", linkAttributes (mark.href?.getD "") mark.title?⟩
  | .unknown _ => none

/-- The parts of a marked text. -/
def markedParts (text : String) (marks : List Mark) : MarkedParts where
  opened := (marks.filterMap Mark.tag?).reverse
  content := escape text
  closed := (marks.filterMap Mark.tag?).map Tag.name

theorem unescape_escape (s : String) : unescape (escape s) = s := by
  rw [unescape, toList_escape, unescapeChars_escape, String.ofList_toList]

section Parts

variable {text : String} {mark : Mark} {tag : Tag}

theorem attribute?_title_link (href : String) (title : Option String) :
    (Tag.mk "a" (linkAttributes href title)).attribute? "title" =
      (title.filter (· ≠ "")).map escape := by
  cases title with
  | none => rfl
  | some title =>
    by_cases hempty : title = ""
    · subst hempty
      rfl
    · have htitle : titleAttributes (some title) = [⟨"title", escape title⟩] := by
        rw [titleAttributes]
        simp [hempty]
      rw [Tag.attribute?, linkAttributes, htitle, Option.filter_some_pos (by simpa using hempty)]
      rfl

/-- The tag of a mark opens its element. -/
theorem opens_of_tag? (h : mark.tag? = some tag) : mark.Opens tag := by
  rw [Mark.tag?] at h
  rw [Mark.Opens]
  cases hkind : mark.kind with
  | bold | italic | code =>
    rw [hkind] at h
    exact (Option.some.inj h).symm
  | link =>
    rw [hkind] at h
    obtain rfl := Option.some.inj h
    refine ⟨rfl, ?_, ?_⟩
    · exact congrArg some (unescape_escape _)
    · rw [attribute?_title_link, Option.map_map]
      simp [Function.comp_def, unescape_escape]
  | unknown other =>
    rw [hkind] at h
    cases h

theorem isKnown_eq (mark : Mark) : mark.isKnown = mark.tag?.isSome := by
  rw [Mark.isKnown, Mark.tag?]
  cases mark.kind <;> rfl

theorem tokens_of_tag? (mark : Mark) (content : List Token) :
    mark.tokens content =
      match mark.tag? with
      | some tag => element tag.name tag.attributes content
      | none => content := by
  rw [Mark.tokens, Mark.tag?]
  cases mark.kind <;> rfl

theorem plain_linkAttributes (href : String) (title : Option String) :
    ∀ attr ∈ linkAttributes href title, '=' ∉ attr.name.toList ∧ '"' ∉ attr.value.toList := by
  have htitle : ∀ attr ∈ titleAttributes title,
      '=' ∉ attr.name.toList ∧ '"' ∉ attr.value.toList := by
    intro attr hattr
    unfold titleAttributes at hattr
    split at hattr
    · split at hattr
      · cases hattr
      · rw [List.mem_singleton.1 hattr]
        exact ⟨(by decide : '=' ∉ "title".toList), (safeValue_escape _).no_quote⟩
    · cases hattr
  rw [linkAttributes, List.forall_mem_cons, List.forall_mem_append]
  exact ⟨⟨(by decide : '=' ∉ "href".toList), (safeValue_escape href).no_quote⟩, htitle, by decide⟩

/-- The tag of a mark can be read, and so can the closing tag with its name. -/
theorem plain_of_tag? (h : mark.tag? = some tag) : tag.Plain ∧ '>' ∉ tag.name.toList := by
  rw [Mark.tag?] at h
  split at h
  all_goals cases h
  case h_4 =>
    have hname : "a".toList.Forall (· ∉ [' ', '>', '/']) := by decide
    exact ⟨⟨List.forall_iff_forall_mem.1 hname, plain_linkAttributes _ _⟩,
      (by decide : '>' ∉ "a".toList)⟩
  all_goals exact ⟨⟨List.forall_iff_forall_mem.1 (by decide), nofun⟩, by decide⟩

end Parts

theorem plain_markedParts (text : String) (marks : List Mark) : (markedParts text marks).Plain where
  opened tag htag := by
    obtain ⟨mark, -, hmark⟩ := List.mem_filterMap.1 (List.mem_reverse.1 htag)
    exact (plain_of_tag? hmark).1
  content := (safeText_escape text).no_open
  closed name hname := by
    obtain ⟨tag, htag, rfl⟩ := List.mem_map.1 hname
    obtain ⟨mark, -, hmark⟩ := List.mem_filterMap.1 htag
    exact (plain_of_tag? hmark).2

/-- The last mark is the outermost one: its tags stand around the tokens of the others. -/
theorem tokens_markedParts (text : String) (marks : List Mark) :
    (markedParts text marks).tokens = markedTokens text marks := by
  induction marks using List.reverseRecOn with
  | nil => rfl
  | append_singleton marks mark ih =>
    rw [markedTokens, List.foldl_concat, ← markedTokens, ← ih, tokens_of_tag?]
    cases hmark : mark.tag? with
    | none => simp [markedParts, MarkedParts.tokens, hmark]
    | some tag => simp [markedParts, MarkedParts.tokens, hmark, element]

/-- **The markup of a marked text is that of its parts.** -/
theorem markup_markedParts (text : String) (marks : List Mark) :
    (markedParts text marks).markup = markedText text marks := by
  rw [MarkedParts.markup, tokens_markedParts, spell_markedTokens]

/-- The tags of marks open their elements, one for each mark of a known kind. -/
theorem forall₂_opens (marks : List Mark) :
    List.Forall₂ Mark.Opens (marks.filter Mark.isKnown) (marks.filterMap Mark.tag?) := by
  induction marks with
  | nil => exact .nil
  | cons mark marks ih =>
    rw [List.filter_cons, List.filterMap_cons, isKnown_eq]
    cases hmark : mark.tag? with
    | none => exact ih
    | some tag => exact .cons (opens_of_tag? hmark) ih

/-- **A marked text is taken apart in one way.** Its markup splits into opening tags, a text without
`<`, and closing tags, and into no others. The opening tags are those of the marks of a known kind,
the last one first, and the closing tags are theirs, the first one first. The text decodes to the
text that was marked, and the tag of a link to its address and its title. -/
theorem markedText_taken_apart (text : String) (marks : List Mark) :
    ∃ parts : MarkedParts,
      (∀ other : MarkedParts,
        other.Plain ∧ other.markup = markedText text marks ↔ other = parts) ∧
      List.Forall₂ Mark.Opens (marks.filter Mark.isKnown).reverse parts.opened ∧
      parts.closed = parts.opened.reverse.map Tag.name ∧
      unescape parts.content = text := by
  refine ⟨markedParts text marks, fun other => ⟨?_, ?_⟩, ?_, ?_, unescape_escape text⟩
  · rintro ⟨hplain, hmarkup⟩
    rw [← markup_markedParts] at hmarkup
    exact MarkedParts.eq_of_markup_eq hplain (plain_markedParts text marks) hmarkup
  · rintro rfl
    exact ⟨plain_markedParts text marks, markup_markedParts text marks⟩
  · exact List.rel_reverse (forall₂_opens marks)
  · rw [markedParts, List.reverse_reverse]

end Folio
