import Folio.Proofs.EventWriting
import Folio.Render.Markdown

/-!
# Markdown without raw markup is safe

The events of a Markdown document nest: what starts also ends, headings hold text and spans, code
blocks hold text, and tables have a head and rows of cells. Typesetting such events replaces some of
them by markup, but only whole elements, or the two ends of an element around what is replaced
inside it. What is written is therefore nested as the events are. Where raw markup is not allowed it
has become text by then, so that nothing in the output is there because a string of the document
says so.

## Main definitions

* `Folio.Markdown.Place`, `Folio.Markdown.Place.enter`: which events may stand where.
* `Folio.Markdown.Flow`: nested events.

## Main results

* `Folio.Markdown.Place.entry`: the ways in which a tag may stand at a place.
* `Folio.Markdown.Flow.sets`: nested events are typeset to events whose markup is nested.
* `Folio.Markdown.typeset_splits`: the markup of nested events splits into sealed tokens.
-/

namespace Folio.Markdown

open Html

/-! ### Nested events -/

/-- Where events may stand. -/
inductive Place where
  /-- Among blocks, or as blocks do. -/
  | blocks
  /-- Among blocks where no table may stand. -/
  | plain
  /-- In a heading. -/
  | heading
  /-- In a code block. -/
  | code
  /-- In a table, before its head. -/
  | table
  /-- In a table, among its rows. -/
  | rows
  /-- In a row, among its cells. -/
  | cells
  deriving DecidableEq, Repr

/-- Whether a tag encloses a part of a text. -/
def Tag.isSpan : Tag → Bool
  | .emphasis | .strong | .strikethrough | .link _ _ | .image _ _ => true
  | _ => false

/-- Whether a tag encloses blocks. -/
def Tag.isFrame : Tag → Bool
  | .paragraph | .quote | .htmlBlock | .list _ | .item => true
  | _ => false

/-- What a tag of a block holds, and what may follow, among blocks of one kind. -/
def Tag.enterBlock (place : Place) (tag : Tag) : Option (Place × Place) :=
  match tag with
  | .heading level => if level ∈ [1, 2, 3, 4, 5, 6] then some (.heading, place) else none
  | .codeBlock _ => some (.code, place)
  | tag => if tag.isSpan || tag.isFrame then some (place, place) else none

/-- What a tag at a place holds, and what may follow it; none when the tag may not stand there. -/
def Place.enter : Place → Tag → Option (Place × Place)
  | .blocks, .table _ => some (.table, .blocks)
  | .blocks, tag => tag.enterBlock .blocks
  | .plain, tag => tag.enterBlock .plain
  | .heading, tag => if tag.isSpan then some (.heading, .heading) else none
  | .table, .tableHead => some (.cells, .rows)
  | .rows, .tableRow => some (.cells, .rows)
  | .cells, .tableCell => some (.plain, .cells)
  | _, _ => none

/-- Whether an event that neither starts nor ends anything may stand at a place. -/
def Place.admits : Place → Event → Bool
  | .blocks, event | .plain, event | .heading, event => event.isLeaf
  | .code, .text _ => true
  | _, _ => false

/-- Nested events that may stand at a place. -/
inductive Flow : Place → List Event → Prop where
  /-- Only a table has something that must not be missing, its head. -/
  | nil {place : Place} (hplace : place ≠ .table) : Flow place []
  | leaf {place : Place} {event : Event} {rest : List Event} (hevent : place.admits event = true)
      (hrest : Flow place rest) : Flow place (event :: rest)
  | around {place inner next : Place} {tag : Tag} {inside rest : List Event}
      (htag : place.enter tag = some (inner, next)) (hinside : Flow inner inside)
      (hrest : Flow next rest) : Flow place (.start tag :: inside ++ .stop tag :: rest)

/-! ### What a place is like -/

namespace Place

/-- The elements that are left open by what stands at a place. -/
def leaves : Place → List String
  | table => ["tbody"]
  | _ => []

/-- Whether no head of a table can stand at a place. -/
def KeepsHead (place : Place) : Prop := place ≠ blocks ∧ place ≠ table

instance (place : Place) : Decidable place.KeepsHead := inferInstanceAs (Decidable (_ ∧ _))

/-- Only a table leaves its body open, for the end of the table to close. -/
theorem leaves_eq_nil {place : Place} (hplace : place ≠ table) : place.leaves = [] := by
  cases place with
  | table => exact absurd rfl hplace
  | _ => rfl

/-- What is known of the place after a tag. -/
structure Follows (place next : Place) (tag : Tag) : Prop where
  ne_code : next ≠ code
  leaves : next.leaves ++ tag.leaves = place.leaves
  keeps : place.KeepsHead → next.KeepsHead ∧ tag ≠ .tableHead
  heading : place = heading → next = heading

/-- What is known of the place in a tag that stays a tag or becomes the two ends of an element. -/
structure Holds (place inner : Place) (tag : Tag) : Prop where
  alone : (Event.start tag).delimits = false ∧ (Event.stop tag).delimits = false
  ne_code : inner ≠ code
  leaves : inner.leaves = tag.holds
  keeps : place.KeepsHead → inner.KeepsHead
  cell : tag = .tableCell → inner.KeepsHead
  heading : place = heading → inner = heading

/-- The ways in which a tag may stand at a place. -/
inductive Entry (place : Place) : Place → Tag → Prop where
  | enclosed {inner : Place} {tag : Tag} (hholds : place.Holds inner tag) : Entry place inner tag
  | heading {level : Nat} (hlevel : level ∈ [1, 2, 3, 4, 5, 6]) (hplace : place ≠ heading) :
      Entry place heading (.heading level)
  | code (info : Option String) : Entry place code (.codeBlock info)

/-- A span or a frame of blocks changes nothing of what may stand around it. -/
theorem entry_same {place : Place} (hcode : place ≠ code) (htable : place ≠ table) {tag : Tag}
    (htag : (tag.isSpan || tag.isFrame) = true) :
    place.Entry place tag ∧ place.Follows place tag := by
  have htags : (Event.start tag).delimits = false ∧ (Event.stop tag).delimits = false ∧
      tag.holds = [] ∧ tag.leaves = [] ∧ tag ≠ .tableCell ∧ tag ≠ .tableHead := by
    cases tag with
    | heading | codeBlock | table | tableHead | tableRow | tableCell => cases htag
    | _ => exact ⟨rfl, rfl, rfl, rfl, nofun, nofun⟩
  obtain ⟨hstart, hstop, hholds, hopen, hcell, hhead⟩ := htags
  exact ⟨.enclosed ⟨⟨hstart, hstop⟩, hcode, (leaves_eq_nil htable).trans hholds.symm, id,
      fun h => absurd h hcell, id⟩,
    ⟨hcode, by rw [hopen, List.append_nil], fun hkeeps => ⟨hkeeps, hhead⟩, id⟩⟩

theorem entry_of_enterBlock {place inner next : Place} (hcode : place ≠ code)
    (htable : place ≠ table) (hheading : place ≠ heading) {tag : Tag}
    (h : tag.enterBlock place = some (inner, next)) :
    place.Entry inner tag ∧ place.Follows next tag := by
  have hdelimiter {tag : Tag} (hleaves : tag.leaves = []) (hhead : tag ≠ .tableHead) :
      place.Follows place tag :=
    ⟨hcode, by rw [hleaves, List.append_nil], fun hkeeps => ⟨hkeeps, hhead⟩, id⟩
  unfold Tag.enterBlock at h
  split at h
  · split at h
    · rename_i hlevel
      cases h
      exact ⟨.heading hlevel hheading, hdelimiter rfl nofun⟩
    · cases h
  · cases h
    exact ⟨.code _, hdelimiter rfl nofun⟩
  · split at h
    · rename_i htag
      cases h
      exact entry_same hcode htable htag
    · cases h

/-- **A tag that may stand at a place** stands there in one of the known ways. -/
theorem entry {place inner next : Place} {tag : Tag} (h : place.enter tag = some (inner, next)) :
    place.Entry inner tag ∧ place.Follows next tag := by
  unfold enter at h
  split at h
  · cases h
    exact ⟨.enclosed ⟨⟨rfl, rfl⟩, by decide, rfl, by decide, nofun, nofun⟩,
      ⟨by decide, rfl, fun hkeeps => ⟨hkeeps, nofun⟩, nofun⟩⟩
  · exact entry_of_enterBlock (by decide) (by decide) (by decide) h
  · exact entry_of_enterBlock (by decide) (by decide) (by decide) h
  · split at h
    · rename_i htag
      cases h
      exact entry_same (by decide) (by decide) (by rw [htag, Bool.true_or])
    · cases h
  · cases h
    exact ⟨.enclosed ⟨⟨rfl, rfl⟩, by decide, rfl, by decide, nofun, nofun⟩,
      ⟨by decide, rfl, by decide, nofun⟩⟩
  · cases h
    exact ⟨.enclosed ⟨⟨rfl, rfl⟩, by decide, rfl, by decide, nofun, nofun⟩,
      ⟨by decide, rfl, fun _ => ⟨by decide, nofun⟩, nofun⟩⟩
  · cases h
    exact ⟨.enclosed ⟨⟨rfl, rfl⟩, by decide, rfl, by decide, by decide, nofun⟩,
      ⟨by decide, rfl, fun _ => ⟨by decide, nofun⟩, nofun⟩⟩
  · cases h

end Place

/-! ### What groups of events are replaced by -/

theorem typeset_link (renderer : Renderer) (address title : String) :
    (Event.start (.link address title)).typeset renderer =
      .html (spell [.opening "a" (linkAttributes address (some title))]) := by
  rw [spell_singleton, spell_linkAttributes, Event.typeset]
  cases hempty : title.isEmpty with
  | true => simp [linkTag, titleAttribute, hempty]
  | false => rfl

theorem headingOpen_eq_spell (level : Nat) (id : String) :
    headingOpen level id = spell [.opening ("h" ++ toString level) [⟨"id", escape id⟩]] := by
  rw [spell_singleton]
  apply String.toList_injective
  simp [headingOpen, Token.spell, spellAttributes, Attribute.spell]

theorem headingClose_eq_spell (level : Nat) :
    headingClose level = spell [.closing ("h" ++ toString level), newline] := by
  apply String.toList_injective
  simp [headingClose, spell, newline, Token.spell]

theorem anchorLink_eq_spell {renderer : Renderer}
    (hlinks : renderer.config.headings.anchorLinks = true) (id : String) :
    anchorLink id = spell (renderer.anchorTokens id) := by
  rw [spell_anchorTokens, Renderer.anchor, if_pos hlinks]

section Writing

variable {renderer : Renderer} {sources : List Event}

/-- What a tag encloses, after typesetting. -/
theorem writes_enclosed {place inner : Place} {tag : Tag} (hholds : place.Holds inner tag)
    (hkeeps : place.KeepsHead → tag ≠ .tableHead) (hstart : .start tag ∈ sources)
    (hstop : .stop tag ∈ sources) {events : List Event}
    (hevents : Writes renderer sources [] inner.leaves inner.KeepsHead events) :
    Writes renderer sources [] tag.leaves place.KeepsHead
      ((Event.start tag).typeset renderer :: events ++ [(Event.stop tag).typeset renderer]) := by
  rw [hholds.leaves] at hevents
  cases tag with
  | heading | codeBlock => exact absurd hholds.alone.1 (by simp [Event.delimits])
  | image address title => exact .image hstart hevents.within
  | link address title =>
    have hopen := typeset_link renderer address title
    have hclose : (Event.stop (.link address title)).typeset renderer =
        .html (spell [.closing "a"]) := rfl
    have horigin : ∀ token ∈ element "a" (linkAttributes address (some title)) [],
        Origin renderer sources (.token token) := fun token htoken => .link hstart htoken
    rw [hopen, hclose]
    have hopened : Writes renderer sources [] ["a"] place.KeepsHead
        [.html (spell [.opening "a" (linkAttributes address (some title))])] :=
      .html (.opening .nil) (List.forall_mem_singleton.2 (horigin _ (by simp [element])))
    have hclosed : Writes renderer sources ["a"] [] place.KeepsHead
        [.html (spell [.closing "a"])] :=
      .html (.closing .nil) (List.forall_mem_singleton.2 (horigin _ (by simp [element])))
    exact (hopened.append ((hevents.weaken hholds.keeps).frame ["a"])).append hclosed
  | _ =>
    exact .around rfl hstart hstop hholds.cell (fun h => ⟨hholds.keeps h, hkeeps h⟩) hevents

/-- A code block, after typesetting. -/
theorem writes_codeBlock {info : Option String} (hstart : .start (.codeBlock info) ∈ sources)
    {texts : List String} (htexts : ∀ text ∈ texts, .text text ∈ sources) (keeps : Prop) :
    Writes renderer sources [] [] keeps
      [.html (codeBlock (info.bind fenceLanguage) (String.join texts))] := by
  rw [← spell_codeBlockTokens]
  exact .html (.opening (.opening (.text (.closing (.closing (.text .nil))))))
    fun token htoken => .codeBlock hstart htexts htoken

/-- The link of a heading to itself, after typesetting. -/
theorem writes_anchor {id : String}
    (horigin : ∀ token ∈ renderer.anchorTokens id, Origin renderer sources (.token token))
    (names : List String) (keeps : Prop) :
    Writes renderer sources names names keeps
      (if renderer.config.headings.anchorLinks then [.html (anchorLink id)] else []) := by
  cases hlinks : renderer.config.headings.anchorLinks with
  | false => exact .nil
  | true =>
    have hmoves : Moves names names (renderer.anchorTokens id) := by
      rw [Renderer.anchorTokens, if_pos hlinks]
      exact .opening (.text (.closing .nil))
    rw [if_pos rfl, anchorLink_eq_spell hlinks]
    exact .html hmoves horigin

/-- A heading, after typesetting. -/
theorem writes_heading {level : Nat} (hlevel : level ∈ [1, 2, 3, 4, 5, 6])
    (hstart : .start (.heading level) ∈ sources) (text : String) (n : Nat) {keeps : Prop}
    {events : List Event} (hevents : Writes renderer sources [] [] keeps events) :
    Writes renderer sources [] [] keeps
      (.html (headingOpen level (renderer.idFormat text n)) :: events ++
        (if renderer.config.headings.anchorLinks then
          [.html (anchorLink (renderer.idFormat text n))] else []) ++
        [.html (headingClose level)]) := by
  generalize hid : renderer.idFormat text n = id
  have horigin : ∀ token ∈ renderer.headingTokens level id [],
      Origin renderer sources (.token token) :=
    fun token htoken => .heading text n hstart hlevel (hid ▸ htoken)
  have hopened : Writes renderer sources [] ["h" ++ toString level] keeps
      [.html (headingOpen level id)] := by
    rw [headingOpen_eq_spell]
    exact .html (.opening .nil)
      (List.forall_mem_singleton.2 (horigin _ (by simp [Renderer.headingTokens, element])))
  have hanchor : ∀ token ∈ renderer.anchorTokens id, Origin renderer sources (.token token) :=
    fun token htoken => horigin token (by simp [Renderer.headingTokens, element, htoken])
  have hclosed : Writes renderer sources ["h" ++ toString level] [] keeps
      [.html (headingClose level)] := by
    rw [headingClose_eq_spell]
    refine .html (.closing (.text .nil)) fun token htoken => horigin token ?_
    simp only [List.mem_cons, List.not_mem_nil, or_false] at htoken
    rcases htoken with rfl | rfl <;> simp [Renderer.headingTokens, element]
  exact ((hopened.append (hevents.frame _)).append (writes_anchor hanchor _ _)).append hclosed

end Writing

/-! ### Typesetting nested events -/

namespace Typesetting

/-! ### Reading what a tag encloses -/

section Reading

variable {renderer : Renderer} {t : Typesetting} {inside events : List Event} {text : String}
  {headings : Headings}

theorem with_headings_write (t : Typesetting) (events : List Event) (text : String)
    (headings : Headings) :
    { t.write events text with headings } =
      ({ t with headings } : Typesetting).write events text := by
  obtain ⟨_, code, heading, output⟩ := t
  cases heading <;> rfl

/-- What a tag encloses is written between what its two ends are replaced by. -/
theorem readAll_enclosed {tag : Tag} (hcode : t.code = none)
    (hstart : (Event.start tag).delimits = false) (hstop : (Event.stop tag).delimits = false)
    (hinside : readAll renderer (t.write [(Event.start tag).typeset renderer] "") inside =
      ({ t.write [(Event.start tag).typeset renderer] "" with headings } : Typesetting).write
        events text) :
    readAll renderer t (.start tag :: inside ++ [.stop tag]) =
      ({ t with headings } : Typesetting).write
        ((Event.start tag).typeset renderer :: events ++ [(Event.stop tag).typeset renderer])
        text := by
  have hopen : (readAll renderer (t.write [(Event.start tag).typeset renderer] "") inside).code =
      none := by
    rw [hinside, code_write, with_headings_write, code_write]
    exact hcode
  rw [List.cons_append, readAll_cons, readAll_append, readAll_singleton,
    read_single renderer hcode hstart]
  change read renderer (readAll renderer (t.write [(Event.start tag).typeset renderer] "") inside)
    (.stop tag) = _
  rw [read_single renderer hopen hstop, hinside, with_headings_write, write_write, write_write]
  have htext : "" ++ (text ++ (Event.stop tag).title renderer) = text := by
    rw [String.empty_append]
    exact String.append_empty
  rw [htext]
  rfl

/-- What is written in a heading stays with it and comes out when the heading ends, between the ends
of an element with the identifier. -/
theorem readAll_heading {level : Nat} (hcode : t.code = none) (hheading : t.heading = none)
    (hinside : readAll renderer { t with heading := some { level } } inside =
      ({ t with headings, heading := some { level } } : Typesetting).write events text) :
    readAll renderer t (.start (.heading level) :: inside ++ [.stop (.heading level)]) =
      ({ t with headings := (headings.assign renderer text level).2 } : Typesetting).write
        (.html (headingOpen level (headings.assign renderer text level).1) :: events ++
          (if renderer.config.headings.anchorLinks then
            [.html (anchorLink (headings.assign renderer text level).1)] else []) ++
          [.html (headingClose level)]) "" := by
  have hopened : t.read renderer (.start (.heading level)) =
      { t with heading := some { level } } := by
    simp only [read, hcode, readPlain]
  have hread : readAll renderer t (.start (.heading level) :: inside ++ [.stop (.heading level)]) =
      finishHeading renderer
        { t with headings, heading := some { level, text, events := events.reverse } } := by
    rw [List.cons_append, readAll_cons, hopened, readAll_append, readAll_singleton, hinside]
    simp [write, read, readPlain, hcode]
  rw [hread]
  simp only [finishHeading, Headings.assign, write, hheading]
  split <;> simp

end Reading

section Sets

variable {renderer : Renderer} {sources : List Event}

/-- From one state to another, events were written whose markup is known, and headings recorded. -/
def Sets (renderer : Renderer) (sources : List Event) (before after : List String) (keeps : Prop)
    (t typeset : Typesetting) : Prop :=
  ∃ (events : List Event) (text : String) (headings : Headings),
    typeset = ({ t with headings } : Typesetting).write events text ∧
      Writes renderer sources before after keeps events

theorem heading_write (t : Typesetting) (events : List Event) (text : String) :
    (t.write events text).heading = none ↔ t.heading = none := by
  obtain ⟨headings, code, heading, output⟩ := t
  cases heading <;> simp [write]

namespace Sets

variable {before between after : List String} {keeps : Prop} {t middle last : Typesetting}

theorem refl : Sets renderer sources before before keeps t t :=
  ⟨[], "", t.headings, (write_nil t).symm, .nil⟩

theorem trans (hfirst : Sets renderer sources before between keeps t middle)
    (hrest : Sets renderer sources between after keeps middle last) :
    Sets renderer sources before after keeps t last := by
  obtain ⟨events, text, headings, rfl, hwrites⟩ := hfirst
  obtain ⟨others, more, new, rfl, hothers⟩ := hrest
  refine ⟨events ++ others, text ++ more, new, ?_, hwrites.append hothers⟩
  rw [with_headings_write, write_write]

theorem frame (hsets : Sets renderer sources before after keeps t last) (names : List String) :
    Sets renderer sources (before ++ names) (after ++ names) keeps t last := by
  obtain ⟨events, text, headings, hlast, hwrites⟩ := hsets
  exact ⟨events, text, headings, hlast, hwrites.frame names⟩

theorem weaken (hsets : Sets renderer sources before after keeps t last) {weaker : Prop}
    (hweaker : weaker → keeps) : Sets renderer sources before after weaker t last := by
  obtain ⟨events, text, headings, hlast, hwrites⟩ := hsets
  exact ⟨events, text, headings, hlast, hwrites.weaken hweaker⟩

/-- No code block is opened or ended. -/
theorem code (hsets : Sets renderer sources before after keeps t last) : last.code = t.code := by
  obtain ⟨events, text, headings, rfl, -⟩ := hsets
  rw [code_write]

/-- No heading is opened. -/
theorem heading (hsets : Sets renderer sources before after keeps t last)
    (hheading : t.heading = none) : last.heading = none := by
  obtain ⟨events, text, headings, rfl, -⟩ := hsets
  obtain ⟨_, code, heading, output⟩ := t
  subst hheading
  rfl

end Sets

variable {t : Typesetting} {place inner : Place} {tag : Tag} {inside : List Event}

/-- Typesetting what a tag encloses. -/
theorem sets_enclosed (hcode : t.code = none) (hholds : place.Holds inner tag)
    (hkeeps : place.KeepsHead → tag ≠ .tableHead) (hstart : .start tag ∈ sources)
    (hstop : .stop tag ∈ sources)
    (hinside : Sets renderer sources [] inner.leaves inner.KeepsHead
      (t.write [(Event.start tag).typeset renderer] "")
      (readAll renderer (t.write [(Event.start tag).typeset renderer] "") inside)) :
    Sets renderer sources [] tag.leaves place.KeepsHead t
      (readAll renderer t (.start tag :: inside ++ [.stop tag])) := by
  obtain ⟨events, text, headings, hwritten, hwrites⟩ := hinside
  exact ⟨_, text, headings, readAll_enclosed hcode hholds.alone.1 hholds.alone.2 hwritten,
    writes_enclosed hholds hkeeps hstart hstop hwrites⟩

/-- Typesetting a code block. -/
theorem sets_codeBlock (hcode : t.code = none) {info : Option String}
    (hstart : .start (.codeBlock info) ∈ sources) {texts : List String}
    (htexts : ∀ text ∈ texts, .text text ∈ sources) (keeps : Prop) :
    Sets renderer sources [] [] keeps t
      (readAll renderer t (.start (.codeBlock info) :: texts.map .text ++
        [.stop (.codeBlock info)])) :=
  ⟨_, _, t.headings, readAll_part renderer hcode (.code info texts info),
    writes_codeBlock hstart htexts keeps⟩

/-- Typesetting a heading. -/
theorem sets_heading (hcode : t.code = none) (hheading : t.heading = none) {level : Nat}
    (hlevel : level ∈ [1, 2, 3, 4, 5, 6]) (hstart : .start (.heading level) ∈ sources)
    {keeps : Prop}
    (hinside : Sets renderer sources [] [] keeps { t with heading := some { level } }
      (readAll renderer { t with heading := some { level } } inside)) :
    Sets renderer sources [] [] keeps t
      (readAll renderer t (.start (.heading level) :: inside ++ [.stop (.heading level)])) := by
  obtain ⟨events, text, headings, hwritten, hwrites⟩ := hinside
  exact ⟨_, "", (headings.assign renderer text level).2, readAll_heading hcode hheading hwritten,
    writes_heading hlevel hstart text ((headings.met.record text).count text) hwrites⟩

end Sets

end Typesetting

/-- In a code block there is only text. -/
theorem Flow.texts {events : List Event} (hevents : Flow .code events) :
    ∃ texts : List String, events = texts.map .text := by
  generalize hplace : Place.code = place at hevents
  induction hevents with
  | nil => exact ⟨[], rfl⟩
  | @leaf place event rest hevent _ ih =>
    subst hplace
    obtain ⟨texts, rfl⟩ := ih rfl
    cases event with
    | text text => exact ⟨text :: texts, rfl⟩
    | _ => cases hevent
  | around htag =>
    subst hplace
    cases htag

section Documents

variable {renderer : Renderer}

open Typesetting

/-- Where raw markup is not allowed, an event that stands alone is replaced by one that stands alone
and is no markup. -/
theorem leaf_typeset (hraw : renderer.config.markdown.allowRawHtml = false) {event : Event}
    (hleaf : event.isLeaf = true) :
    event.delimits = false ∧ (event.typeset renderer).isLeaf = true ∧
      (event.typeset renderer).isMarkup = false := by
  cases event with
  | start | stop => cases hleaf
  | html | inlineHtml =>
    rw [Event.typeset, hraw]
    exact ⟨rfl, rfl, rfl⟩
  | _ => exact ⟨rfl, rfl, rfl⟩

theorem Place.isLeaf_of_admits {place : Place} {event : Event}
    (hevent : place.admits event = true) : event.isLeaf = true := by
  cases place with
  | blocks | plain | heading => exact hevent
  | code =>
    cases event with
    | text => rfl
    | _ => cases hevent
  | table | rows | cells => cases hevent

/-- **Nested events** are typeset to events whose markup is nested as they are. -/
theorem Flow.sets (hraw : renderer.config.markdown.allowRawHtml = false) {sources : List Event}
    {place : Place} {events : List Event} (hevents : Flow place events) (hplace : place ≠ .code)
    (hsources : ∀ event ∈ events, event ∈ sources) {t : Typesetting} (hcode : t.code = none)
    (hheading : place = .heading ∨ t.heading = none) :
    Sets renderer sources [] place.leaves place.KeepsHead t (readAll renderer t events) := by
  -- Between events no code block is open, and a heading is open only among the events inside it.
  induction hevents generalizing t with
  | @nil place htable =>
    rw [Place.leaves_eq_nil htable]
    exact .refl
  | @leaf place event rest hevent _ ih =>
    obtain ⟨hsource, hrest⟩ := List.forall_mem_cons.1 hsources
    obtain ⟨hdelimits, hleaf, hmarkup⟩ := leaf_typeset hraw (Place.isLeaf_of_admits hevent)
    have hread : Sets renderer sources [] [] place.KeepsHead t (t.read renderer event) :=
      ⟨_, _, t.headings, read_single renderer hcode hdelimits, .leaf hsource hleaf hmarkup⟩
    exact hread.trans (ih hplace hrest (hread.code.trans hcode) (hheading.imp_right hread.heading))
  | @around place inner next tag inside rest htag hinside _ ih_inside ih_rest =>
    obtain ⟨hentry, hfollows⟩ := Place.entry htag
    obtain ⟨hgroup, hrest⟩ : (∀ event ∈ .start tag :: inside ++ [.stop tag], event ∈ sources) ∧
        ∀ event ∈ rest, event ∈ sources := by
      rw [← List.forall_mem_append, List.append_assoc]
      exact hsources
    obtain ⟨hstart, hgroup⟩ := List.forall_mem_cons.1 hgroup
    obtain ⟨hsource, hstop⟩ := List.forall_mem_append.1 hgroup
    have hstop : .stop tag ∈ sources := List.forall_mem_singleton.1 hstop
    have hread : Sets renderer sources [] tag.leaves place.KeepsHead t
        (readAll renderer t (.start tag :: inside ++ [.stop tag])) := by
      cases hentry with
      | enclosed hholds =>
        refine sets_enclosed hcode hholds (fun h => (hfollows.keeps h).2) hstart hstop ?_
        refine ih_inside hholds.ne_code hsource (by rw [code_write, hcode]) ?_
        exact hheading.imp hholds.heading fun h => (heading_write t _ _).2 h
      | @heading level hlevel hne =>
        have hopened := ih_inside (t := { t with heading := some { level } }) (by decide) hsource
          hcode (.inl rfl)
        exact sets_heading hcode (hheading.resolve_left hne) hlevel hstart
          (hopened.weaken fun _ => by decide)
      | code info =>
        obtain ⟨texts, rfl⟩ := hinside.texts
        exact sets_codeBlock hcode hstart (List.forall_mem_map.1 hsource) _
    have hafter := ih_rest hfollows.ne_code hrest (hread.code.trans hcode)
      (hheading.imp hfollows.heading hread.heading)
    have hframed := (hafter.weaken fun h => (hfollows.keeps h).1).frame tag.leaves
    rw [hfollows.leaves] at hframed
    have hall : .start tag :: inside ++ .stop tag :: rest =
        (.start tag :: inside ++ [.stop tag]) ++ rest := by
      simp
    rw [hall, readAll_append]
    exact hread.trans hframed

/-- **The markup of nested events splits into sealed tokens.** Where raw markup is not allowed, it
consists of text without angle brackets and of nested tags with known names and quoted values, each
of which the library writes for an event that is no markup, or which belongs to a heading, a link, a
code block or an image of the document. Strings of the events are in it in escaped form only. -/
theorem typeset_splits (renderer : Renderer)
    (hraw : renderer.config.markdown.allowRawHtml = false) {events : List Event}
    (hevents : Flow .blocks events) (headings : Headings) :
    ∃ lexemes : List Lexeme,
      eventsHtml (typeset renderer events headings).1 = spellLexemes lexemes ∧
      nests [] (lexemes.map Lexeme.toToken) = true ∧
      ∀ lexeme ∈ lexemes,
        lexeme.toToken.Sealed markdownVocabulary ∧ Origin renderer events lexeme := by
  obtain ⟨written, text, new, htypeset, hwrites⟩ := hevents.sets hraw (by decide)
    (fun _ hevent => hevent) (t := { headings }) rfl (.inr rfl)
  obtain ⟨lexemes, hgrows, -⟩ := hwrites.outside {} rfl
  have hhtml : eventsHtml (typeset renderer events headings).1 = spellLexemes lexemes := by
    have hwritten : (typeset renderer events headings).1 = written := by
      rw [typeset_eq_readAll, htypeset]
      simp [write, finish, finishCode, finishHeading]
    have himage : (Output.writeAll {} written).finish = Output.writeAll {} written := by
      rw [Output.finish, hgrows.image]
    rw [hwritten, eventsHtml]
    change (Output.writeAll {} written).finish.text = _
    rw [himage, hgrows.text, String.empty_append]
  exact ⟨lexemes, hhtml, hgrows.moves.nests,
    fun lexeme hlexeme => ⟨(hgrows.origin lexeme hlexeme).isSealed, hgrows.origin lexeme hlexeme⟩⟩

/-- A heading with raw markup and a link that would end its tag is such a document. -/
theorem typeset_splits_rawHeading :
    let events : List Event := .start (.heading 1) ::
      (.inlineHtml "<b>" :: (.start (.link "\"><i>" "") :: [.text "x"] ++
        .stop (.link "\"><i>" "") :: [])) ++ .stop (.heading 1) :: []
    ({} : Renderer).config.markdown.allowRawHtml = false ∧ Flow .blocks events ∧
      ∃ lexemes : List Lexeme,
        eventsHtml (typeset {} events {}).1 = spellLexemes lexemes ∧
        nests [] (lexemes.map Lexeme.toToken) = true ∧
        ∀ lexeme ∈ lexemes,
          lexeme.toToken.Sealed markdownVocabulary ∧ Origin {} events lexeme := by
  have hlink : Flow .heading (.start (.link "\"><i>" "") :: [.text "x"] ++
      .stop (.link "\"><i>" "") :: []) :=
    .around rfl (.leaf rfl (.nil (by decide))) (.nil (by decide))
  have hevents : Flow .blocks (.start (.heading 1) ::
      (.inlineHtml "<b>" :: (.start (.link "\"><i>" "") :: [.text "x"] ++
        .stop (.link "\"><i>" "") :: [])) ++ .stop (.heading 1) :: []) :=
    .around rfl (.leaf rfl hlink) (.nil (by decide))
  exact ⟨rfl, hevents, typeset_splits {} rfl hevents {}⟩

end Documents

end Folio.Markdown
