import Folio.Proofs.EventStream

/-!
# The code blocks of nested events

A code block comes as its start, some texts and its end. Where events nest, and no image has a code
block in it, typesetting replaces each code block by its markup and leaves the others where they
are, whatever stands around it. Tags may enclose each other in any way here: tables need no head and
headings have any level.

## Main definitions

* `Folio.Markdown.Zone`, `Folio.Markdown.Nested`: which events may stand where, and nested events.
* `Folio.Markdown.codeBlocks`: the code blocks among events, each with its language and its code.
* `Folio.Markdown.Replaced`: nested events and what they are typeset to.

## Main results

* `Folio.Markdown.Nested.typeset_replaced`: nested events are typeset to what they are replaced by.
* `Folio.Markdown.Nested.codeBlocks_append`: the code blocks of nested events are all in them.
-/

namespace Folio.Markdown

/-! ### Nested events -/

/-- Where events may stand. -/
inductive Zone where
  /-- Anywhere outside headings, images and code blocks. -/
  | blocks
  /-- In a heading. -/
  | heading
  /-- In an image, where no code block may stand. -/
  | image
  /-- In a code block. -/
  | code
  deriving DecidableEq, Repr

/-- What a tag in a zone holds; none when it may not stand there. -/
def Zone.enter : Zone → Tag → Option Zone
  | .code, _ => none
  | .heading, tag => if tag.isSpan then some .heading else none
  | .image, .codeBlock _ => none
  | .blocks, .codeBlock _ => some .code
  | _, .heading _ => some .heading
  | .blocks, .image _ _ => some .image
  | zone, _ => some zone

/-- Whether an event that neither starts nor ends anything may stand in a zone. -/
def Zone.admits : Zone → Event → Bool
  | .code, .text _ => true
  | .code, _ => false
  | _, event => event.isLeaf

/-- Nested events that may stand in a zone. -/
inductive Nested : Zone → List Event → Prop where
  | nil {zone : Zone} : Nested zone []
  | leaf {zone : Zone} {event : Event} {rest : List Event} (hevent : zone.admits event = true)
      (hrest : Nested zone rest) : Nested zone (event :: rest)
  | around {zone inner : Zone} {tag : Tag} {inside rest : List Event}
      (htag : zone.enter tag = some inner) (hinside : Nested inner inside)
      (hrest : Nested zone rest) : Nested zone (.start tag :: inside ++ .stop tag :: rest)

namespace Zone

variable {zone inner : Zone} {tag : Tag}

/-- Only a code block holds what is in a code block. -/
theorem enter_code (htag : zone.enter tag = some .code) : ∃ info, tag = .codeBlock info := by
  unfold enter at htag
  split at htag <;> simp_all

theorem enter_codeBlock {info : Option String} (htag : zone.enter (.codeBlock info) = some inner) :
    zone = .blocks ∧ inner = .code := by
  cases zone with
  | blocks => exact ⟨rfl, (Option.some.inj htag).symm⟩
  | heading | image | code => cases htag

/-- What stands in a heading may stand in what it holds. -/
theorem enter_of_heading (htag : Zone.heading.enter tag = some inner) :
    tag.isSpan = true ∧ inner = .heading := by
  unfold enter at htag
  simp_all

theorem enter_heading {level : Nat} (htag : zone.enter (.heading level) = some inner) :
    zone ≠ .heading ∧ inner = .heading := by
  cases zone with
  | blocks | image => exact ⟨by decide, (Option.some.inj htag).symm⟩
  | heading | code => cases htag

/-- An image holds nothing that could not stand in a heading or an image. -/
theorem enter_image {address title : String}
    (htag : zone.enter (.image address title) = some inner) : inner ≠ .blocks := by
  cases zone with
  | blocks | heading | image =>
    rw [← Option.some.inj htag]
    decide
  | code => cases htag

/-- There are code blocks only outside headings and images. -/
theorem enter_ne_blocks (hzone : zone ≠ .blocks) (htag : zone.enter tag = some inner) :
    inner ≠ .blocks := by
  cases zone with
  | blocks => exact absurd rfl hzone
  | heading =>
    rw [(enter_of_heading htag).2]
    decide
  | image => cases tag <;> cases htag <;> decide
  | code => cases htag

end Zone

/-- In a code block there is only text. -/
theorem Nested.texts {events : List Event} (hevents : Nested .code events) :
    ∃ texts : List String, events = texts.map .text := by
  generalize hzone : Zone.code = zone at hevents
  induction hevents with
  | nil => exact ⟨[], rfl⟩
  | @leaf zone event rest hevent _ ih =>
    subst hzone
    obtain ⟨texts, rfl⟩ := ih rfl
    cases event with
    | text text => exact ⟨text :: texts, rfl⟩
    | _ => cases hevent
  | around htag =>
    subst hzone
    cases htag

theorem Zone.isLeaf_of_admits {zone : Zone} {event : Event} (hevent : zone.admits event = true) :
    event.isLeaf = true := by
  cases zone with
  | code =>
    cases event with
    | text => rfl
    | _ => cases hevent
  | _ => exact hevent

/-- What stands alone starts and ends neither code blocks nor headings. -/
theorem delimits_of_isLeaf {event : Event} (hleaf : event.isLeaf = true) :
    event.delimits = false := by
  cases event with
  | start | stop => cases hleaf
  | _ => rfl

/-! ### Code blocks among events -/

/-- The texts at the start of events, one after the other. -/
def leadingText : List Event → String
  | .text text :: rest => text ++ leadingText rest
  | _ => ""

/-- The code blocks among events, in order: the language that stands after the fence, if any, and
the text that follows the start of the code block. -/
def codeBlocks : List Event → List (Option String × String)
  | [] => []
  | .start (.codeBlock info) :: rest =>
    (info.bind fenceLanguage, leadingText rest) :: codeBlocks rest
  | _ :: rest => codeBlocks rest

section CodeBlocks

variable (rest : List Event)

theorem leadingText_texts (texts : List String) (tag : Tag) :
    leadingText (texts.map .text ++ .stop tag :: rest) = String.join texts := by
  induction texts with
  | nil => rfl
  | cons text texts ih =>
    rw [List.map_cons, List.cons_append, leadingText, ih, String.join_cons]

theorem codeBlocks_start {tag : Tag} (htag : ∀ info, tag ≠ .codeBlock info) :
    codeBlocks (.start tag :: rest) = codeBlocks rest := by
  cases tag with
  | codeBlock info => exact absurd rfl (htag info)
  | _ => rfl

theorem codeBlocks_leaf {event : Event} (hleaf : event.isLeaf = true) :
    codeBlocks (event :: rest) = codeBlocks rest := by
  cases event with
  | start | stop => cases hleaf
  | _ => rfl

theorem codeBlocks_texts (texts : List String) :
    codeBlocks (texts.map .text ++ rest) = codeBlocks rest := by
  induction texts with
  | nil => rfl
  | cons text texts ih => exact ih

/-- A complete code block is the first one. -/
theorem codeBlocks_codeBlock (info : Option String) (texts : List String) :
    codeBlocks (.start (.codeBlock info) :: texts.map .text ++ .stop (.codeBlock info) :: rest) =
      (info.bind fenceLanguage, String.join texts) :: codeBlocks rest := by
  rw [List.cons_append, codeBlocks, leadingText_texts, codeBlocks_texts]
  rfl

end CodeBlocks

theorem around_append (tag : Tag) (inside others rest : List Event) :
    (.start tag :: inside ++ .stop tag :: others) ++ rest =
      .start tag :: inside ++ .stop tag :: (others ++ rest) :=
  List.append_assoc (.start tag :: inside) (.stop tag :: others) rest

namespace Nested

variable {zone : Zone} {events : List Event}

theorem append (hevents : Nested zone events) {rest : List Event} (hrest : Nested zone rest) :
    Nested zone (events ++ rest) := by
  induction hevents with
  | nil => exact hrest
  | leaf hevent _ ih => exact .leaf hevent (ih hrest)
  | around htag hinside _ _ ih =>
    rw [around_append]
    exact .around htag hinside (ih hrest)

/-- **The code blocks of nested events are all in them**, whatever comes after. -/
theorem codeBlocks_append (hevents : Nested zone events) (rest : List Event) :
    codeBlocks (events ++ rest) = codeBlocks events ++ codeBlocks rest := by
  induction hevents generalizing rest with
  | nil => rfl
  | leaf hevent _ ih =>
    have hleaf := Zone.isLeaf_of_admits hevent
    rw [List.cons_append, codeBlocks_leaf _ hleaf, codeBlocks_leaf _ hleaf, ih]
  | @around zone inner tag inside others htag hinside _ ih_inside ih_others =>
    rw [around_append]
    by_cases hcode : ∃ info, tag = .codeBlock info
    · obtain ⟨info, rfl⟩ := hcode
      obtain ⟨-, rfl⟩ := Zone.enter_codeBlock htag
      obtain ⟨texts, rfl⟩ := hinside.texts
      rw [codeBlocks_codeBlock, codeBlocks_codeBlock, ih_others, List.cons_append]
    · have htags : ∀ info, tag ≠ .codeBlock info := not_exists.1 hcode
      have hstop (events : List Event) : codeBlocks (.stop tag :: events) = codeBlocks events := rfl
      simp only [List.cons_append, codeBlocks_start _ htags, ih_inside, hstop, ih_others,
        List.append_assoc]

/-- What a tag other than that of a code block encloses has the code blocks inside it. -/
theorem codeBlocks_around {tag : Tag} (htag : ∀ info, tag ≠ .codeBlock info)
    (hevents : Nested zone events) (rest : List Event) :
    codeBlocks (.start tag :: events ++ .stop tag :: rest) =
      codeBlocks events ++ codeBlocks rest := by
  rw [List.cons_append, codeBlocks_start _ htag, hevents.codeBlocks_append]
  rfl

/-- In headings and images there is no code block. -/
theorem codeBlocks_eq_nil (hevents : Nested zone events) (hzone : zone ≠ .blocks) :
    codeBlocks events = [] := by
  induction hevents with
  | nil => rfl
  | leaf hevent _ ih => rw [codeBlocks_leaf _ (Zone.isLeaf_of_admits hevent), ih hzone]
  | @around zone inner tag inside others htag hinside _ ih_inside ih_others =>
    have htags : ∀ info, tag ≠ .codeBlock info := by
      rintro info rfl
      exact hzone (Zone.enter_codeBlock htag).1
    rw [hinside.codeBlocks_around htags, ih_inside (Zone.enter_ne_blocks hzone htag),
      ih_others hzone, List.append_nil]

end Nested

/-! ### Typesetting nested events -/

/-- Nested events and what they are replaced by, one by one: headings and code blocks become
markup, and all else keeps its place. -/
inductive Replaced (renderer : Renderer) : Zone → List Event → List Event → Prop where
  | nil {zone : Zone} : Replaced renderer zone [] []
  | leaf {zone : Zone} {event : Event} {rest others : List Event} (hleaf : event.isLeaf = true)
      (hrest : Replaced renderer zone rest others) :
      Replaced renderer zone (event :: rest) (event.typeset renderer :: others)
  | enclosed {zone inner : Zone} {tag : Tag} {inside rest within others : List Event}
      (htag : zone.enter tag = some inner) (hdelimits : (Event.start tag).delimits = false)
      (hnested : Nested inner inside) (hinside : Replaced renderer inner inside within)
      (hrest : Replaced renderer zone rest others) :
      Replaced renderer zone (.start tag :: inside ++ .stop tag :: rest)
        ((Event.start tag).typeset renderer :: within ++ [(Event.stop tag).typeset renderer] ++
          others)
  | heading {zone : Zone} {level : Nat} {inside rest within others : List Event} (id : String)
      (hnested : Nested .heading inside) (hinside : Replaced renderer .heading inside within)
      (hrest : Replaced renderer zone rest others) :
      Replaced renderer zone (.start (.heading level) :: inside ++ .stop (.heading level) :: rest)
        (.html (headingOpen level id) :: within ++
          (if renderer.config.headings.anchorLinks then [.html (anchorLink id)] else []) ++
          [.html (headingClose level)] ++ others)
  | code {info : Option String} {texts : List String} {rest others : List Event}
      (hrest : Replaced renderer .blocks rest others) :
      Replaced renderer .blocks
        (.start (.codeBlock info) :: texts.map .text ++ .stop (.codeBlock info) :: rest)
        (.html (Html.codeBlock (info.bind fenceLanguage) (String.join texts)) :: others)

section Typesetting

variable {renderer : Renderer}

open Typesetting

/-- The ways in which a tag may stand in a zone: most are left where they are. -/
theorem Zone.entry {zone inner : Zone} {tag : Tag} (htag : zone.enter tag = some inner) :
    ((Event.start tag).delimits = false ∧ (Event.stop tag).delimits = false ∧ inner ≠ .code ∧
        (zone = .heading → inner = .heading)) ∨
      (∃ level, tag = .heading level ∧ zone ≠ .heading ∧ inner = .heading) ∨
      ∃ info, tag = .codeBlock info ∧ zone = .blocks ∧ inner = .code := by
  have hinner (hcode : ∀ info, tag ≠ .codeBlock info) : inner ≠ .code := by
    rintro rfl
    obtain ⟨info, rfl⟩ := enter_code htag
    exact hcode info rfl
  have hheading : zone = .heading → inner = .heading := by
    rintro rfl
    exact (enter_of_heading htag).2
  cases tag with
  | heading level => exact .inr (.inl ⟨level, rfl, enter_heading htag⟩)
  | codeBlock info => exact .inr (.inr ⟨info, rfl, enter_codeBlock htag⟩)
  | _ => exact .inl ⟨rfl, rfl, hinner nofun, hheading⟩

/-- **Reading nested events** writes what they are replaced by. -/
theorem Nested.readAll_replaced {zone : Zone} {events : List Event} (hevents : Nested zone events)
    (hzone : zone ≠ .code) {t : Typesetting} (hcode : t.code = none)
    (hheading : zone = .heading ∨ t.heading = none) :
    ∃ (written : List Event) (text : String) (headings : Headings),
      readAll renderer t events = ({ t with headings } : Typesetting).write written text ∧
        Replaced renderer zone events written := by
  -- Between events no code block is open, and a heading is open only among the events inside it.
  induction hevents generalizing t with
  | nil => exact ⟨[], "", t.headings, (write_nil t).symm, .nil⟩
  | @leaf zone event rest hevent _ ih =>
    have hleaf := Zone.isLeaf_of_admits hevent
    have hread := read_single renderer hcode (delimits_of_isLeaf hleaf)
    obtain ⟨others, text, headings, hothers, hreplaced⟩ := ih hzone
      (t := t.write [event.typeset renderer] (event.title renderer)) (by rw [code_write, hcode])
      (hheading.imp_right (heading_write t _ _).2)
    refine ⟨_, event.title renderer ++ text, headings, ?_, .leaf hleaf hreplaced⟩
    rw [readAll_cons, hread, hothers, with_headings_write, write_write]
    rfl
  | @around zone inner tag inside rest htag hinside _ ih_inside ih_rest =>
    have hall : .start tag :: inside ++ .stop tag :: rest =
        (.start tag :: inside ++ [.stop tag]) ++ rest := by
      simp
    -- What the group is replaced by does not depend on what comes after it.
    obtain ⟨group, text, headings, hgroup, hreplaced⟩ : ∃ (group : List Event) (text : String)
        (headings : Headings),
        readAll renderer t (.start tag :: inside ++ [.stop tag]) =
          ({ t with headings } : Typesetting).write group text ∧
        ∀ others, Replaced renderer zone rest others →
          Replaced renderer zone (.start tag :: inside ++ .stop tag :: rest) (group ++ others) := by
      rcases Zone.entry htag with ⟨hstart, hstop, hinner, hsame⟩ | ⟨level, rfl, hne, rfl⟩ |
        ⟨info, rfl, rfl, rfl⟩
      · obtain ⟨within, text, headings, hwithin, hreplaced⟩ := ih_inside hinner
          (t := t.write [(Event.start tag).typeset renderer] "") (by rw [code_write, hcode])
          (hheading.imp hsame (heading_write t _ _).2)
        exact ⟨_, text, headings, readAll_enclosed hcode hstart hstop hwithin,
          fun others hothers => .enclosed htag hstart hinside hreplaced hothers⟩
      · obtain ⟨within, text, headings, hwithin, hreplaced⟩ := ih_inside (by decide)
          (t := { t with heading := some { level } }) hcode (.inl rfl)
        exact ⟨_, "", _, readAll_heading hcode (hheading.resolve_left hne) hwithin,
          fun others hothers => .heading _ hinside hreplaced hothers⟩
      · obtain ⟨texts, rfl⟩ := hinside.texts
        exact ⟨_, _, t.headings, readAll_part renderer hcode (.code info texts info),
          fun others hothers => .code hothers⟩
    obtain ⟨others, more, new, hothers, hrest⟩ := ih_rest hzone
      (t := ({ t with headings } : Typesetting).write group text)
      (by rw [code_write]; exact hcode)
      (hheading.imp_right fun h => (heading_write _ _ _).2 h)
    refine ⟨group ++ others, text ++ more, new, ?_, hreplaced others hrest⟩
    rw [hall, readAll_append, hgroup, hothers, with_headings_write, write_write]

/-- **Nested events are typeset to what they are replaced by.** -/
theorem Nested.typeset_replaced {events : List Event} (hevents : Nested .blocks events)
    (headings : Headings) :
    Replaced renderer .blocks events (typeset renderer events headings).1 := by
  obtain ⟨written, text, new, htypeset, hreplaced⟩ := hevents.readAll_replaced
    (by decide) (t := { headings }) rfl (.inr rfl)
  have hwritten : (typeset renderer events headings).1 = written := by
    rw [typeset_eq_readAll, htypeset]
    simp [write, finish, finishCode, finishHeading]
  rwa [hwritten]

end Typesetting

end Folio.Markdown
