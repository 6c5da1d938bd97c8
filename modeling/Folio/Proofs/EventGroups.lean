import Folio.Markdown.Typeset
import Folio.Proofs.Assignment

/-!
# Typesetting events by groups

Typesetting reads one event at a time and holds back what stands in a code block or a heading. On a
sequence of events that consists of single events, code blocks and headings it does what a
description by groups says: each group is replaced by its own markup, whatever stands around it.
The text of a heading is read off the events in it, where a line break counts as a space.

## Main definitions

* `Folio.Markdown.Part`, `Folio.Markdown.Group`: single events, code blocks and headings.
* `Folio.Markdown.Group.typeset`, `Folio.Markdown.typesetGroups`: what groups are replaced by.
* `Folio.Markdown.Ending`: a group in which a document may stop.

## Main results

* `Folio.Markdown.Typesetting.read_single`: what reading a single event does.
* `Folio.Markdown.Typesetting.readAll_parts`: what reading parts does, inside a heading or
  outside.
* `Folio.Markdown.typeset_by_groups`: typesetting is what the description by groups says.
-/

namespace Folio.Markdown

/-! ### Groups of events -/

/-- Whether an event starts or ends a code block or a heading. -/
def Event.delimits : Event → Bool
  | .start (.codeBlock _) | .stop (.codeBlock _) | .start (.heading _) | .stop (.heading _) => true
  | _ => false

/-- A part of a document without headings. What the end of a code block says does not matter. -/
inductive Part where
  | single (event : Event) (alone : event.delimits = false)
  | code (info : Option String) (texts : List String) (closing : Option String)

/-- A part of a document, or a heading around several of them. -/
inductive Group where
  | part (part : Part)
  | heading (level : Nat) (parts : List Part) (closing : Nat)

/-- The events of a part. -/
def Part.events : Part → List Event
  | single event _ => [event]
  | code info texts closing =>
    .start (.codeBlock info) :: texts.map .text ++ [.stop (.codeBlock closing)]

/-- The events of a group. -/
def Group.events : Group → List Event
  | part inner => inner.events
  | heading level parts closing =>
    .start (.heading level) :: parts.flatMap Part.events ++ [.stop (.heading closing)]

/-! ### What groups are replaced by -/

section Description

variable (renderer : Renderer)

/-- What a single event is replaced by: links become markup, and so does raw markup become text
where it is not allowed. -/
def Event.typeset : Event → Event
  | .start (.link address title) =>
    .html (linkTag address (if title.isEmpty then none else some title))
  | .stop (.link _ _) => .html "</a>"
  | .html markup =>
    if renderer.config.markdown.allowRawHtml then .html markup else .text markup
  | .inlineHtml markup =>
    if renderer.config.markdown.allowRawHtml then .inlineHtml markup else .text markup
  | event => event

/-- The text of an event as it counts in the text of a heading. -/
def Event.title : Event → String
  | .text content | .code content => content
  | .html markup | .inlineHtml markup =>
    if renderer.config.markdown.allowRawHtml then "" else markup
  | .softBreak | .hardBreak => " "
  | _ => ""

/-- What a part is replaced by. -/
def Part.typeset : Part → List Event
  | single event _ => [event.typeset renderer]
  | code info texts _ => [.html (Html.codeBlock (info.bind fenceLanguage) (String.join texts))]

/-- The text of a part as it counts in the text of a heading: code blocks do not count. -/
def Part.title : Part → String
  | single event _ => event.title renderer
  | code _ _ _ => ""

/-- The text of several parts in a heading. -/
def titleOf (parts : List Part) : String :=
  String.join (parts.map (Part.title renderer))

/-- What a heading says, if the group is one. -/
def Group.title? : Group → Option Title
  | part _ => none
  | heading level parts _ => some ⟨titleOf renderer parts, level⟩

/-- What a group is replaced by, and the headings recorded with it. -/
def Group.typeset : Group → Headings → List Event × Headings
  | part inner, headings => (inner.typeset renderer, headings)
  | heading level parts _, headings =>
    let (id, headings) := headings.assign renderer (titleOf renderer parts) level
    (.html (headingOpen level id) :: parts.flatMap (Part.typeset renderer) ++
      (if renderer.config.headings.anchorLinks then [.html (anchorLink id)] else []) ++
      [.html (headingClose level)], headings)

/-- What groups are replaced by, one after the other, and the headings recorded with them. -/
def typesetGroups : List Group → Headings → List Event × Headings
  | [], headings => ([], headings)
  | group :: rest, headings =>
    let (first, headings) := group.typeset renderer headings
    let (others, headings) := typesetGroups rest headings
    (first ++ others, headings)

end Description

/-- What a document may stop in the middle of. -/
inductive Ending where
  | code (info : Option String) (texts : List String)
  | heading (level : Nat) (parts : List Part)
  | codeInHeading (level : Nat) (parts : List Part) (info : Option String) (texts : List String)

/-- The events of a group that does not end. -/
def Ending.events : Ending → List Event
  | code info texts => .start (.codeBlock info) :: texts.map .text
  | heading level parts => .start (.heading level) :: parts.flatMap Part.events
  | codeInHeading level parts info texts =>
    .start (.heading level) :: parts.flatMap Part.events ++
      .start (.codeBlock info) :: texts.map .text

/-- The group with its end. -/
def Ending.closed : Ending → Group
  | code info texts => .part (.code info texts info)
  | heading level parts => .heading level parts level
  | codeInHeading level parts info texts =>
    .heading level (parts ++ [.code info texts info]) level

/-! ### Reading parts -/

namespace Typesetting

/-- Writes events into the heading that is open, with their text, or else to the output. -/
def write (t : Typesetting) (events : List Event) (text : String) : Typesetting :=
  match t.heading with
  | some heading =>
    { t with
      heading := some { heading with
        text := heading.text ++ text
        events := events.reverse ++ heading.events } }
  | none => { t with output := events.reverse ++ t.output }

section Write

variable (t : Typesetting)

theorem code_write (events : List Event) (text : String) : (t.write events text).code = t.code := by
  unfold write
  split <;> rfl

theorem write_nil : t.write [] "" = t := by
  obtain ⟨headings, code, heading, output⟩ := t
  cases heading <;> simp [write]

theorem write_write (first rest : List Event) (text others : String) :
    (t.write first text).write rest others = t.write (first ++ rest) (text ++ others) := by
  obtain ⟨headings, code, heading, output⟩ := t
  cases heading <;> simp [write, String.append_assoc]

theorem emit_eq_write (event : Event) : t.emit event = t.write [event] "" := by
  obtain ⟨headings, code, heading, output⟩ := t
  cases heading <;> simp [write, emit]

theorem emit_note_eq_write (event : Event) (text : String) :
    (t.note text).emit event = t.write [event] text := by
  obtain ⟨headings, code, heading, output⟩ := t
  cases heading <;> simp [write, emit, note]

end Write

variable (renderer : Renderer)

/-- Outside code blocks a single event is written as what it is replaced by, with its text. -/
theorem read_single {t : Typesetting} (hcode : t.code = none) {event : Event}
    (alone : event.delimits = false) :
    t.read renderer event = t.write [event.typeset renderer] (event.title renderer) := by
  rw [read, hcode]
  change t.readPlain renderer event = _
  -- Each event is emitted; those that have a text are also noted in the open heading.
  cases event with
  | start tag =>
    cases tag with
    | codeBlock _ | heading _ => simp [Event.delimits] at alone
    | _ => exact t.emit_eq_write _
  | stop tag =>
    cases tag with
    | codeBlock _ | heading _ => simp [Event.delimits] at alone
    | _ => exact t.emit_eq_write _
  | html markup =>
    cases hallow : renderer.config.markdown.allowRawHtml with
    | true => simp [readPlain, Event.typeset, Event.title, hallow, emit_eq_write]
    | false => simp [readPlain, Event.typeset, Event.title, hallow, emit_note_eq_write]
  | inlineHtml markup =>
    cases hallow : renderer.config.markdown.allowRawHtml with
    | true => simp [readPlain, Event.typeset, Event.title, hallow, emit_eq_write]
    | false => simp [readPlain, Event.typeset, Event.title, hallow, emit_note_eq_write]
  | text text | code text => exact t.emit_note_eq_write _ _
  | softBreak | hardBreak => exact t.emit_note_eq_write _ _
  | rule | taskMarker checked => exact t.emit_eq_write _

/-- Reads events one after the other. -/
def readAll (t : Typesetting) (events : List Event) : Typesetting :=
  events.foldl (read renderer) t

theorem readAll_append (t : Typesetting) (first rest : List Event) :
    t.readAll renderer (first ++ rest) = (t.readAll renderer first).readAll renderer rest :=
  List.foldl_append

theorem readAll_cons (t : Typesetting) (event : Event) (rest : List Event) :
    t.readAll renderer (event :: rest) = (t.read renderer event).readAll renderer rest := rfl

theorem readAll_singleton (t : Typesetting) (event : Event) :
    t.readAll renderer [event] = t.read renderer event := rfl

/-- The texts in a code block are collected. -/
theorem readAll_texts {t : Typesetting} {code : OpenCode} (hcode : t.code = some code)
    (texts : List String) :
    t.readAll renderer (texts.map .text) =
      { t with code := some { code with code := code.code ++ String.join texts } } := by
  induction texts generalizing t code with
  | nil =>
    obtain ⟨headings, _, heading, output⟩ := t
    subst hcode
    simp [readAll]
  | cons text texts ih =>
    have hread : t.read renderer (.text text) =
        { t with code := some { code with code := code.code ++ text } } := by
      simp only [read, hcode]
    rw [List.map_cons, readAll_cons, hread, ih rfl, String.join_cons, String.append_assoc]

/-- The start of a code block and the texts in it leave the code block open. -/
theorem readAll_openCode {t : Typesetting} (hcode : t.code = none) (info : Option String)
    (texts : List String) :
    t.readAll renderer (.start (.codeBlock info) :: texts.map .text) =
      { t with code := some ⟨info.bind fenceLanguage, String.join texts⟩ } := by
  have hread : t.read renderer (.start (.codeBlock info)) =
      { t with code := some ⟨info.bind fenceLanguage, ""⟩ } := by
    simp only [read, hcode, readPlain]
  rw [readAll_cons, hread, readAll_texts renderer rfl, String.empty_append]

/-- What a code block has collected is written where it ends. -/
theorem finishCode_eq_write {t : Typesetting} (hcode : t.code = none) (code : OpenCode) :
    finishCode { t with code := some code } =
      t.write [.html (Html.codeBlock code.language code.code)] "" := by
  obtain ⟨headings, _, heading, output⟩ := t
  subst hcode
  exact emit_eq_write _ _

/-- Outside code blocks a part is written as what it is replaced by, with its text. -/
theorem readAll_part {t : Typesetting} (hcode : t.code = none) (part : Part) :
    t.readAll renderer part.events = t.write (part.typeset renderer) (part.title renderer) := by
  cases part with
  | single event alone => exact read_single renderer hcode alone
  | code info texts closing =>
    rw [Part.events, readAll_append, readAll_openCode renderer hcode, readAll_singleton]
    exact finishCode_eq_write hcode _

/-- **Reading parts**, inside a heading or outside, writes what they are replaced by. -/
theorem readAll_parts {t : Typesetting} (hcode : t.code = none) (parts : List Part) :
    t.readAll renderer (parts.flatMap Part.events) =
      t.write (parts.flatMap (Part.typeset renderer)) (titleOf renderer parts) := by
  induction parts generalizing t with
  | nil => exact (write_nil t).symm
  | cons part parts ih =>
    have hwritten : (t.write (part.typeset renderer) (part.title renderer)).code = none := by
      rw [code_write, hcode]
    rw [List.flatMap_cons, readAll_append, readAll_part renderer hcode, ih hwritten, write_write,
      List.flatMap_cons, titleOf, titleOf, List.map_cons, String.join_cons]

/-! ### Reading groups -/

/-- The start of a heading and the parts in it leave the heading open. -/
theorem readAll_openHeading (headings : Headings) (output : List Event) (level : Nat)
    (parts : List Part) :
    readAll renderer { headings, output }
        (.start (.heading level) :: parts.flatMap Part.events) =
      { headings, output, heading := some
          { level, text := titleOf renderer parts
            events := (parts.flatMap (Part.typeset renderer)).reverse } } := by
  rw [readAll_cons]
  change readAll renderer { headings, output, heading := some { level } } _ = _
  rw [readAll_parts renderer rfl]
  simp [write]

/-- Where no group is open, a group adds what it is replaced by to the output. -/
theorem readAll_group (headings : Headings) (output : List Event) (group : Group) :
    readAll renderer { headings, output } group.events =
      { headings := (group.typeset renderer headings).2
        output := (group.typeset renderer headings).1.reverse ++ output } := by
  cases group with
  | part part =>
    rw [Group.events, readAll_part renderer rfl]
    rfl
  | heading level parts closing =>
    rw [Group.events, readAll_append, readAll_openHeading, readAll_singleton]
    simp only [read, readPlain, finishHeading, Group.typeset]
    split <;> simp

/-- **Reading groups** adds what they are replaced by to the output. -/
theorem readAll_groups (headings : Headings) (output : List Event) (groups : List Group) :
    readAll renderer { headings, output } (groups.flatMap Group.events) =
      { headings := (typesetGroups renderer groups headings).2
        output := (typesetGroups renderer groups headings).1.reverse ++ output } := by
  induction groups generalizing headings output with
  | nil => rfl
  | cons group groups ih =>
    rw [List.flatMap_cons, readAll_append, readAll_group, ih, typesetGroups]
    simp only [List.reverse_append, List.append_assoc]

/-! ### The end of a document -/

/-- A code block that is open at the end is finished as by its end. -/
theorem finish_read_codeEnd {t : Typesetting} {code : OpenCode} (hcode : t.code = some code)
    (closing : Option String) :
    (t.read renderer (.stop (.codeBlock closing))).finish renderer = t.finish renderer := by
  have hread : t.read renderer (.stop (.codeBlock closing)) = t.finishCode := by
    rw [read, hcode]
  have hclosed : t.finishCode.code = none := by
    obtain ⟨headings, _, heading, output⟩ := t
    subst hcode
    cases heading <;> rfl
  have htwice : t.finishCode.finishCode = t.finishCode := by
    rw [finishCode.eq_1 t.finishCode, hclosed]
  rw [hread, finish, finish, htwice]

/-- A heading that is open at the end is finished as by its end. -/
theorem finish_read_headingEnd {t : Typesetting} (hcode : t.code = none) (closing : Nat) :
    (t.read renderer (.stop (.heading closing))).finish renderer = t.finish renderer := by
  obtain ⟨headings, _, heading, output⟩ := t
  subst hcode
  cases heading <;> rfl

end Typesetting

/-! ### Documents -/

section Documents

variable (renderer : Renderer)

open Typesetting

theorem typeset_eq_readAll (events : List Event) (headings : Headings) :
    typeset renderer events headings =
      let t := (readAll renderer { headings } events).finish renderer
      (t.output.reverse, t.headings) := rfl

/-- Groups are replaced by what the description says. -/
theorem typeset_groups (groups : List Group) (headings : Headings) :
    typeset renderer (groups.flatMap Group.events) headings =
      typesetGroups renderer groups headings := by
  rw [typeset_eq_readAll, readAll_groups]
  exact Prod.ext ((congrArg _ (List.append_nil _)).trans (List.reverse_reverse _)) rfl

/-- The end of a code block can be left out at the end of a document. -/
theorem typeset_codeEnd {events : List Event} {headings : Headings} {code : OpenCode}
    (hcode : (readAll renderer { headings } events).code = some code) (closing : Option String) :
    typeset renderer (events ++ [.stop (.codeBlock closing)]) headings =
      typeset renderer events headings := by
  rw [typeset_eq_readAll, readAll_append, readAll_singleton, finish_read_codeEnd renderer hcode]
  rfl

/-- The end of a heading can be left out at the end of a document. -/
theorem typeset_headingEnd {events : List Event} {headings : Headings}
    (hcode : (readAll renderer { headings } events).code = none) (closing : Nat) :
    typeset renderer (events ++ [.stop (.heading closing)]) headings =
      typeset renderer events headings := by
  rw [typeset_eq_readAll, readAll_append, readAll_singleton, finish_read_headingEnd renderer hcode]
  rfl

/-- **A group that does not end** is typeset as if its ends were there. -/
theorem typeset_ending (groups : List Group) (ending : Ending) (headings : Headings) :
    typeset renderer (groups.flatMap Group.events ++ ending.events) headings =
      typesetGroups renderer (groups ++ [ending.closed]) headings := by
  rw [← typeset_groups, List.flatMap_append, List.flatMap_singleton]
  generalize hevents : groups.flatMap Group.events = events
  have before : readAll renderer { headings } events = _ :=
    hevents ▸ readAll_groups renderer headings [] groups
  cases ending with
  | code info texts =>
    have hcode : (readAll renderer { headings }
        (events ++ (Ending.code info texts).events)).code =
          some ⟨info.bind fenceLanguage, String.join texts⟩ := by
      rw [readAll_append, before, Ending.events, readAll_openCode renderer rfl]
    rw [← typeset_codeEnd renderer hcode info, List.append_assoc]
    rfl
  | heading level parts =>
    have hcode : (readAll renderer { headings }
        (events ++ (Ending.heading level parts).events)).code = none := by
      rw [readAll_append, before, Ending.events, readAll_openHeading]
    rw [← typeset_headingEnd renderer hcode level, List.append_assoc]
    rfl
  | codeInHeading level parts info texts =>
    have hcode : (readAll renderer { headings }
        (events ++ (Ending.codeInHeading level parts info texts).events)).code =
          some ⟨info.bind fenceLanguage, String.join texts⟩ := by
      rw [readAll_append, before, Ending.events, readAll_append, readAll_openHeading,
        readAll_openCode renderer rfl]
    have complete : (Ending.codeInHeading level parts info texts).events ++
        [.stop (.codeBlock info)] = .start (.heading level) ::
          (parts ++ [Part.code info texts info]).flatMap Part.events := by
      simp [Ending.events, Part.events]
    have hclosed : (readAll renderer { headings }
        (events ++ (Ending.codeInHeading level parts info texts).events ++
          [.stop (.codeBlock info)])).code = none := by
      rw [List.append_assoc, complete, readAll_append, before, readAll_openHeading]
    -- The code block is finished first, into the heading, which then ends as well.
    rw [← typeset_codeEnd renderer hcode info, ← typeset_headingEnd renderer hclosed level,
      Ending.closed, Group.events, ← complete]
    simp only [List.append_assoc]

/-- Groups record their headings, in order. -/
theorem headings_typesetGroups (groups : List Group) (headings : Headings) :
    (typesetGroups renderer groups headings).2 =
      headings.assignAll renderer (groups.filterMap (Group.title? renderer)) := by
  induction groups generalizing headings with
  | nil => rfl
  | cons group groups ih =>
    rw [typesetGroups]
    simp only [ih]
    cases group <;> rfl

/-- **Typesetting is what the description by groups says.** Each group is replaced by its own
markup; each heading, and nothing else, adds one record, with the text and the level of the
heading; and a group in which the document stops is typeset as if it were complete. -/
theorem typeset_by_groups (groups : List Group) (headings : Headings) :
    typeset renderer (groups.flatMap Group.events) headings =
      typesetGroups renderer groups headings ∧
    (∃ new : List Heading,
      (typeset renderer (groups.flatMap Group.events) headings).2.records =
        headings.records ++ new ∧
      new.map Heading.title = groups.filterMap (Group.title? renderer)) ∧
    ∀ ending : Ending,
      typeset renderer (groups.flatMap Group.events ++ ending.events) headings =
        typesetGroups renderer (groups ++ [ending.closed]) headings := by
  refine ⟨typeset_groups renderer groups headings, ?_,
    fun ending => typeset_ending renderer groups ending headings⟩
  refine ⟨renderer.assigned headings.met (groups.filterMap (Group.title? renderer)), ?_,
    renderer.map_title_assigned headings.met _⟩
  rw [typeset_groups, headings_typesetGroups, Headings.records_assignAll]

/-- The text of a heading is more than the texts in it: a line break counts as a space. -/
theorem softBreak_counts_in_text :
    (typeset {} [.start (.heading 1), .text "Hello", .softBreak, .text "World",
      .stop (.heading 1)] {}).2.records.map Heading.text ≠ ["Hello" ++ "World"] := by decide

end Documents

end Folio.Markdown
