import Folio.Proofs.MountedEvents

/-!
# The events of a Markdown document

Spans are put together while brackets and runs of marks are still open, and blocks while their
containers are. Whatever stays open becomes text in the end, so that the events of a document nest:
a heading and an image hold spans, a code block holds its text, and nothing else holds a code block
but containers of blocks. Mounting the markup of a document therefore finds the code blocks that
were read from its source.

## Main definitions

* `Folio.Markdown.Span.Nests`: a span whose events nest in any text.
* `Folio.Markdown.Emphasis.Nests`, `Folio.Markdown.Inline.Reading.Nests`: what was read so far.
* `Folio.Markdown.Block.codes`: the code blocks of a block.

## Main results

* `Folio.Markdown.nests_emphasize`, `Folio.Markdown.nests_spans`: the spans of a text nest.
* `Folio.Markdown.nested_events`: the events of a document nest.
* `Folio.Markdown.codeBlocks_events`: the code blocks among the events are those of the blocks.
* `Folio.codes_compileMarkdown`: the code blocks that are found in the markup of a document.
-/

namespace Folio

namespace Markdown

/-! ### Nested events side by side -/

namespace Nested

variable {zone inner : Zone} {events : List Event}

theorem enclosed {tag : Tag} (htag : zone.enter tag = some inner) (hevents : Nested inner events) :
    Nested zone (Markdown.enclosed tag events) :=
  .around htag hevents .nil

theorem flatMap {α : Type} {f : α → List Event} {xs : List α} (hxs : ∀ x ∈ xs, Nested zone (f x)) :
    Nested zone (xs.flatMap f) := by
  induction xs with
  | nil => exact .nil
  | cons x xs ih =>
    obtain ⟨hx, hxs⟩ := List.forall_mem_cons.1 hxs
    exact hx.append (ih hxs)

/-- What may stand in a heading may stand in an image. -/
theorem in_image (hevents : Nested .heading events) : Nested .image events := by
  generalize hzone : Zone.heading = zone at hevents
  induction hevents with
  | nil => exact .nil
  | leaf hevent _ ih =>
    subst hzone
    exact .leaf hevent (ih rfl)
  | @around zone inner tag inside rest htag _ _ ih_inside ih_rest =>
    subst hzone
    obtain ⟨hspan, rfl⟩ := Zone.enter_of_heading htag
    have himage : Zone.image.enter tag = some .image := by
      cases tag <;> cases hspan <;> rfl
    exact .around himage (ih_inside rfl) (ih_rest rfl)

/-- What may stand in an image may stand among blocks. -/
theorem in_blocks (hevents : Nested .image events) : Nested .blocks events := by
  generalize hzone : Zone.image = zone at hevents
  induction hevents with
  | nil => exact .nil
  | leaf hevent _ ih =>
    subst hzone
    exact .leaf hevent (ih rfl)
  | @around zone inner tag inside rest htag hinside _ ih_inside ih_rest =>
    subst hzone
    cases tag with
    | codeBlock => cases htag
    | heading | image =>
      cases htag
      exact .around rfl hinside (ih_rest rfl)
    | _ =>
      cases htag
      exact .around rfl (ih_inside rfl) (ih_rest rfl)

end Nested

/-! ### Emphasis -/

/-- A span whose events nest in any text. -/
def Span.Nests (span : Span) : Prop := Nested .heading span.events

/-- A piece of text that nests; a run of marks is none yet. -/
def Piece.Nests : Piece → Prop
  | .span s => s.Nests
  | .run _ => True

theorem nested_spansEvents {spans : List Span} (hspans : ∀ span ∈ spans, span.Nests) :
    Nested .heading (spansEvents spans) := by
  induction spans with
  | nil =>
    rw [spansEvents]
    exact .nil
  | cons span spans ih =>
    obtain ⟨hspan, hspans⟩ := List.forall_mem_cons.1 hspans
    rw [spansEvents]
    exact Nested.append hspan (ih hspans)

theorem Span.nests_within {tag : Tag} (htag : tag.isSpan = true) {spans : List Span}
    (hspans : ∀ span ∈ spans, span.Nests) : (Span.within tag spans).Nests := by
  rw [Nests, events]
  exact .enclosed (if_pos htag) (nested_spansEvents hspans)

theorem Span.nests_text (text : String) : (Span.text text).Nests := by
  rw [Nests, events]
  exact .leaf rfl .nil

theorem nests_marksText (mark : Char) (count : Nat) : (marksText mark count).Nests :=
  Span.nests_text _

theorem nests_emphasisOf (mark : Char) (count : Nat) {spans : List Span}
    (hspans : ∀ span ∈ spans, span.Nests) : (emphasisOf mark count spans).Nests := by
  fun_induction emphasisOf mark count spans with
  | case1 | case2 | case3 => exact Span.nests_within (by split <;> rfl) hspans
  | case4 spans count ih =>
    exact ih (List.forall_mem_singleton.2 (Span.nests_within (by split <;> rfl) hspans))

namespace Emphasis

/-- Openers between which there are spans that nest. -/
def OpenersNest (openers : List Opener) : Prop :=
  ∀ opener ∈ openers, ∀ span ∈ opener.before, span.Nests

/-- All spans read so far nest. -/
structure Nests (e : Emphasis) : Prop where
  openers : OpenersNest e.openers
  spans : ∀ span ∈ e.spans, span.Nests

theorem nests_unfold (n : Nat) {openers : List Opener} {spans : List Span}
    (hopeners : OpenersNest openers) (hspans : ∀ span ∈ spans, span.Nests) :
    Nests ⟨(unfold n openers spans).1, (unfold n openers spans).2⟩ := by
  fun_induction unfold n openers spans with
  | case1 spans n opener rest ih =>
    obtain ⟨hopener, hrest⟩ := List.forall_mem_cons.1 hopeners
    refine ih hrest (List.forall_mem_append.2 ⟨hspans, ?_⟩)
    exact List.forall_mem_cons.2 ⟨nests_marksText _ _, hopener⟩
  | case2 => exact ⟨hopeners, hspans⟩

/-- What an opener and the run that closes it have around and between them nests. -/
theorem nests_of_unfold {n : Nat} {e : Emphasis} (he : e.Nests) {opener : Opener}
    {rest : List Opener} {spans : List Span}
    (hunfold : unfold n e.openers e.spans = (opener :: rest, spans)) (mark : Char) (count : Nat) :
    (∀ span ∈ opener.before, span.Nests) ∧ OpenersNest rest ∧
      (emphasisOf mark count spans.reverse).Nests := by
  have hnests := nests_unfold n he.openers he.spans
  rw [hunfold] at hnests
  obtain ⟨hopener, hrest⟩ := List.forall_mem_cons.1 hnests.openers
  refine ⟨hopener, hrest, nests_emphasisOf mark count fun span hspan => ?_⟩
  exact hnests.spans span (List.mem_reverse.1 hspan)

theorem nests_closeRun (closer : DelimiterRun) (count : Nat) {e : Emphasis} (he : e.Nests) :
    (closeRun closer count e).2.Nests := by
  fun_induction closeRun closer count e with
  | case1 e => exact he
  | case2 count e hnone =>
    refine ⟨?_, he.spans⟩
    dsimp only
    split
    · exact List.forall_mem_map.2 he.openers
    · exact he.openers
  | case3 count e n hfound spans hunfold =>
    have hnests := nests_unfold n he.openers he.spans
    rw [hunfold] at hnests
    exact hnests
  | case4 count e n hfound opener rest spans hunfold used inner hmore =>
    obtain ⟨hopener, hrest, hinner⟩ := nests_of_unfold he hunfold closer.mark used
    exact ⟨List.forall_mem_cons.2 ⟨hopener, hrest⟩, List.forall_mem_singleton.2 hinner⟩
  | case5 count e n hfound opener rest spans hunfold used inner hmore ih =>
    obtain ⟨hopener, hrest, hinner⟩ := nests_of_unfold he hunfold closer.mark used
    exact ih ⟨hrest, List.forall_mem_cons.2 ⟨hinner, hopener⟩⟩

theorem Nests.read {e : Emphasis} (he : e.Nests) {piece : Piece} (hpiece : piece.Nests) :
    (e.read piece).Nests := by
  cases piece with
  | span span => exact ⟨he.openers, List.forall_mem_cons.2 ⟨hpiece, he.spans⟩⟩
  | run run =>
    -- What is left of a run after it closed what it could may open emphasis or become text.
    have hleft (count : Nat) {e : Emphasis} (he : e.Nests) :
        Nests (if count = 0 then e
          else if run.canOpen then ⟨⟨run, count, e.spans, false⟩ :: e.openers, []⟩
          else { e with spans := marksText run.mark count :: e.spans }) := by
      split
      · exact he
      · split
        · exact ⟨List.forall_mem_cons.2 ⟨he.spans, he.openers⟩, List.forall_mem_nil _⟩
        · exact ⟨he.openers, List.forall_mem_cons.2 ⟨nests_marksText _ _, he.spans⟩⟩
    have hclosed :
        (if run.canClose then closeRun run run.length e else (run.length, e)).2.Nests := by
      split
      · exact nests_closeRun run run.length he
      · exact he
    exact hleft _ hclosed

end Emphasis

/-- **The spans that pieces make nest** if those among the pieces do. -/
theorem nests_emphasize {pieces : List Piece} (hpieces : ∀ piece ∈ pieces, piece.Nests) :
    ∀ span ∈ emphasize pieces, span.Nests := by
  have hread {e : Emphasis} (he : e.Nests) : (pieces.foldl Emphasis.read e).Nests := by
    induction pieces generalizing e with
    | nil => exact he
    | cons piece pieces ih =>
      obtain ⟨hpiece, hpieces⟩ := List.forall_mem_cons.1 hpieces
      exact ih hpieces (he.read hpiece)
  have hnothing : ({} : Emphasis).Nests :=
    ⟨List.forall_mem_nil _, List.forall_mem_nil _⟩
  have hall := hread hnothing
  have hunfold := Emphasis.nests_unfold (pieces.foldl Emphasis.read {}).openers.length hall.openers
    hall.spans
  intro span hspan
  exact hunfold.spans span (List.mem_reverse.1 hspan)

/-! ### The spans of a text -/

namespace Inline

/-- All pieces read so far nest. -/
structure Reading.Nests (r : Reading) : Prop where
  brackets : ∀ bracket ∈ r.brackets, ∀ piece ∈ bracket.before, piece.Nests
  pieces : ∀ piece ∈ r.pieces, piece.Nests

namespace Reading.Nests

variable {r : Reading}

theorem settle (hr : r.Nests) : r.settle.Nests := by
  unfold Reading.settle
  split
  · exact hr
  · exact ⟨hr.brackets, List.forall_mem_cons.2 ⟨Span.nests_text _, hr.pieces⟩⟩

theorem push (hr : r.Nests) {piece : Piece} (hpiece : piece.Nests) : (r.push piece).Nests :=
  ⟨hr.settle.brackets, List.forall_mem_cons.2 ⟨hpiece, hr.settle.pieces⟩⟩

theorem type (hr : r.Nests) (cs : List Char) : (r.type cs).Nests :=
  ⟨hr.brackets, hr.pieces⟩

theorem breakLine (hr : r.Nests) : r.breakLine.Nests := by
  refine push (r := { r with plain := r.plain.dropWhile isSpace }) ⟨hr.brackets, hr.pieces⟩ ?_
  split <;> exact .leaf rfl .nil

theorem openBracket (hr : r.Nests) (image : Bool) (after : List Char) :
    (r.openBracket image after).Nests :=
  ⟨List.forall_mem_cons.2 ⟨hr.settle.pieces, hr.settle.brackets⟩,
    List.forall_mem_nil _⟩

section Brackets

variable {bracket : Bracket} {rest : List Bracket} (hr : r.Nests)
  (hbrackets : ∀ other ∈ bracket :: rest, ∀ piece ∈ other.before, piece.Nests)

include hr hbrackets

theorem dropBracket : (r.dropBracket bracket rest).Nests := by
  obtain ⟨hbracket, hrest⟩ := List.forall_mem_cons.1 hbrackets
  exact ⟨hrest, List.forall_mem_append.2 ⟨hr.settle.pieces,
    List.forall_mem_cons.2 ⟨Span.nests_text _, hbracket⟩⟩⟩

theorem enclose (address title : String) : (r.enclose bracket rest address title).Nests := by
  obtain ⟨hbracket, hrest⟩ := List.forall_mem_cons.1 hbrackets
  have hcontent : ∀ span ∈ emphasize r.settle.pieces.reverse, span.Nests :=
    nests_emphasize fun piece hpiece => hr.settle.pieces piece (List.mem_reverse.1 hpiece)
  refine ⟨?_, List.forall_mem_cons.2 ⟨Span.nests_within ?_ hcontent, hbracket⟩⟩
  · dsimp only [Reading.enclose]
    split
    · exact hrest
    · refine List.forall_mem_map.2 fun other hother => ?_
      split <;> exact hrest other hother
  · split <;> rfl

end Brackets

theorem readCode (hr : r.Nests) (n : Nat) (cs : List Char) : (Inline.readCode r n cs).1.Nests := by
  unfold Inline.readCode
  split
  · exact hr.push (.leaf rfl .nil)
  · exact hr.type _

theorem readEscape (hr : r.Nests) (cs : List Char) : (Inline.readEscape r cs).1.Nests := by
  unfold Inline.readEscape
  split
  case h_1 => exact hr.push (.leaf rfl .nil)
  case h_2 =>
    have hmark : Piece.Nests (.span (.text "\x60")) := Span.nests_text _
    exact (hr.push hmark).readCode _ _
  case h_3 =>
    split
    · exact hr.push (Span.nests_text _)
    · exact hr.type _
  case h_4 => exact hr.type _

theorem readAngle (hr : r.Nests) (cs : List Char) : (Inline.readAngle r cs).1.Nests := by
  unfold Inline.readAngle
  split
  case h_1 =>
    exact hr.push (Span.nests_within rfl (List.forall_mem_singleton.2 (Span.nests_text _)))
  case h_2 =>
    split
    · exact hr.push (.leaf rfl .nil)
    · exact hr.type _

theorem readClosing (hr : r.Nests) (definitions : List Definition) (cs : List Char) :
    (Inline.readClosing definitions r cs).1.Nests := by
  unfold Inline.readClosing
  split
  case h_1 => exact hr.type _
  case h_2 bracket rest hbrackets =>
    have hopen : ∀ other ∈ bracket :: rest, ∀ piece ∈ other.before, piece.Nests :=
      hbrackets ▸ hr.brackets
    have hdropped := (hr.dropBracket hopen).type [']']
    split
    · exact hdropped
    · split
      · exact hr.enclose hopen _ _
      · split
        · exact ⟨hdropped.brackets, hdropped.pieces⟩
        · exact hdropped

theorem readRun (hr : r.Nests) (before : Option Char) (mark : Char) (cs : List Char) :
    (Inline.readRun r before mark cs).1.Nests := by
  unfold Inline.readRun
  dsimp only
  split
  · exact hr.push trivial
  · exact hr.type _

theorem readSpecial (hr : r.Nests) (definitions : List Definition) (before : Option Char) (c : Char)
    (cs : List Char) : (Inline.readSpecial definitions r before c cs).1.Nests := by
  unfold Inline.readSpecial
  split
  case h_1 => exact hr.breakLine
  case h_2 => exact hr.readEscape cs
  case h_3 => exact hr.readCode _ _
  case h_4 =>
    split
    · exact hr.push (Span.nests_text _)
    · exact hr.type _
  case h_5 => exact hr.readAngle cs
  case h_6 =>
    split
    · exact hr.openBracket _ _
    · exact hr.type _
  case h_7 => exact hr.openBracket _ _
  case h_8 => exact hr.readClosing definitions cs
  case h_9 => exact hr.readRun before _ cs

theorem read (hr : r.Nests) (strikethrough : Bool) (definitions : List Definition)
    (before : Option Char) (cs : List Char) :
    (Inline.read strikethrough definitions r before cs).Nests := by
  fun_induction Inline.read strikethrough definitions r before cs with
  | case1 => exact hr
  | case2 r before c cs hspecial next rest hread rest' last ih =>
    have hnext := hr.readSpecial definitions before c cs
    rw [hread] at hnext
    exact ih hnext
  | case3 r before c cs hspecial ih => exact ih ⟨hr.brackets, hr.pieces⟩

theorem finish (hr : r.Nests) {brackets : List Bracket}
    (hbrackets : ∀ bracket ∈ brackets, ∀ piece ∈ bracket.before, piece.Nests) :
    ∀ piece ∈ r.finish brackets, piece.Nests := by
  induction brackets generalizing r with
  | nil => exact hr.settle.pieces
  | cons bracket rest ih =>
    exact ih (hr.dropBracket hbrackets) (List.forall_mem_cons.1 hbrackets).2

end Reading.Nests

end Inline

/-- **The spans of a text nest.** -/
theorem nests_spans (strikethrough : Bool) (definitions : List Definition) (text : List Char) :
    ∀ span ∈ spans strikethrough definitions text, span.Nests := by
  have hnothing : ({} : Inline.Reading).Nests :=
    ⟨List.forall_mem_nil _, List.forall_mem_nil _⟩
  have hread := hnothing.read strikethrough definitions none text
  exact nests_emphasize fun piece hpiece =>
    hread.finish hread.brackets piece (List.mem_reverse.1 hpiece)

/-! ### The events of blocks -/

/-- Whether a block neither is a code block nor holds other blocks. -/
def Block.isPlain : Block → Bool
  | .code _ _ | .quote _ | .list _ _ _ | .item _ => false
  | _ => true

section Blocks

variable {read : ReadText} (hread : ∀ text, Nested .heading (read text))

include hread

theorem nested_textEvents (task : Option Bool) (text : List Char) :
    Nested .heading (textEvents read task text) := by
  cases task with
  | none => exact hread text
  | some checked => exact .leaf rfl (hread text)

theorem nested_cellEvents (cells : List (List Char)) : Nested .image (cellEvents read cells) :=
  Nested.flatMap fun cell _ => .enclosed rfl (hread cell).in_image

theorem nested_tableEvents (columns : List Alignment) (head : List (List Char))
    (rows : List (List (List Char))) : Nested .image (tableEvents read columns head rows) := by
  have hhead : Nested .image (enclosed .tableHead (cellEvents read head)) :=
    .enclosed rfl (nested_cellEvents hread head)
  have hrows : Nested .image (rows.flatMap fun row => enclosed .tableRow (cellEvents read row)) :=
    Nested.flatMap fun row _ => .enclosed rfl (nested_cellEvents hread row)
  exact .enclosed rfl (hhead.append hrows)

/-- The events of a plain block have no code block in them, so that they could stand in an image. -/
theorem nested_plain (tight : Bool) {block : Block} (hplain : block.isPlain = true) :
    Nested .image (block.events read tight) := by
  cases block with
  | paragraph task text =>
    have htext := (nested_textEvents hread task text).in_image
    rw [Block.events, paragraphEvents]
    split
    · exact htext
    · exact .enclosed rfl htext
  | heading task level text =>
    rw [Block.events]
    exact .enclosed rfl (nested_textEvents hread task text)
  | html lines =>
    rw [Block.events]
    refine .enclosed rfl (Nested.flatMap fun line _ => ?_)
    unfold htmlLineEvents
    split
    · exact .leaf rfl (.leaf rfl .nil)
    · exact .leaf rfl .nil
  | rule | taskMarker =>
    rw [Block.events]
    exact .leaf rfl .nil
  | table columns head rows =>
    rw [Block.events]
    exact nested_tableEvents hread columns head rows
  | code | quote | list | item => cases hplain

end Blocks

mutual

/-- The events of a block nest. -/
theorem nested_block {read : ReadText} (hread : ∀ text, Nested .heading (read text))
    (tight : Bool) : (block : Block) → Nested .blocks (block.events read tight)
  | .code info text => by
    rw [Block.events]
    exact .enclosed rfl (.leaf rfl .nil)
  | .quote blocks => by
    rw [Block.events]
    exact .enclosed rfl (nested_blocks hread false blocks)
  | .list tight start items => by
    rw [Block.events]
    exact .enclosed rfl (nested_blocks hread tight items)
  | .item blocks => by
    rw [Block.events]
    exact .enclosed rfl (nested_blocks hread tight blocks)
  | .paragraph _ _ | .heading _ _ _ | .html _ | .rule | .taskMarker _ | .table _ _ _ =>
    (nested_plain hread tight rfl).in_blocks

theorem nested_blocks {read : ReadText} (hread : ∀ text, Nested .heading (read text))
    (tight : Bool) : (blocks : List Block) → Nested .blocks (blocksEvents read tight blocks)
  | [] => by
    rw [blocksEvents]
    exact .nil
  | block :: rest => by
    rw [blocksEvents]
    exact (nested_block hread tight block).append (nested_blocks hread tight rest)

end

theorem nested_read (options : MarkdownOptions) (definitions : List Definition) (text : List Char) :
    Nested .heading (spansEvents (spans options.strikethrough definitions text)) :=
  nested_spansEvents (nests_spans options.strikethrough definitions text)

/-- **The events of a document nest.** -/
theorem nested_events (options : MarkdownOptions) (source : String) :
    Nested .blocks (events options source) :=
  nested_blocks (nested_read options _) false _

/-! ### The code blocks of a document -/

mutual

/-- The code blocks of a block, in order: the language that stands after the fence, if any, and the
text. -/
def Block.codes : Block → List (Option String × String)
  | .code info text => [((info.map unescapeText).bind fenceLanguage, String.ofList text)]
  | .quote blocks | .list _ _ blocks | .item blocks => blocksCodes blocks
  | _ => []

/-- The code blocks of several blocks, in order. -/
def blocksCodes : List Block → List (Option String × String)
  | [] => []
  | block :: rest => block.codes ++ blocksCodes rest

end

theorem codes_plain {block : Block} (hplain : block.isPlain = true) : block.codes = [] := by
  cases block with
  | code | quote | list | item => cases hplain
  | _ => simp only [Block.codes]

theorem codeBlocks_enclosed {zone : Zone} (tag : Tag) (htag : ∀ info, tag ≠ .codeBlock info)
    {events : List Event} (hevents : Nested zone events) :
    codeBlocks (enclosed tag events) = codeBlocks events := by
  have haround := hevents.codeBlocks_around htag []
  rwa [codeBlocks, List.append_nil] at haround

mutual

/-- The code blocks among the events of a block are its own. -/
theorem codeBlocks_block {read : ReadText} (hread : ∀ text, Nested .heading (read text))
    (tight : Bool) : (block : Block) → codeBlocks (block.events read tight) = block.codes
  | .code info text => by
    rw [Block.events, Block.codes]
    exact codeBlocks_codeBlock [] (info.map unescapeText) [String.ofList text]
  | .quote blocks => by
    rw [Block.events, Block.codes, codeBlocks_enclosed .quote nofun
      (nested_blocks hread false blocks),
      codeBlocks_blocks hread false blocks]
  | .list tight start items => by
    rw [Block.events, Block.codes, codeBlocks_enclosed (.list start) nofun
      (nested_blocks hread tight items),
      codeBlocks_blocks hread tight items]
  | .item blocks => by
    rw [Block.events, Block.codes, codeBlocks_enclosed .item nofun
      (nested_blocks hread tight blocks),
      codeBlocks_blocks hread tight blocks]
  | .paragraph _ _ | .heading _ _ _ | .html _ | .rule | .taskMarker _ | .table _ _ _ => by
    rw [(nested_plain hread tight rfl).codeBlocks_eq_nil (by decide), codes_plain rfl]

theorem codeBlocks_blocks {read : ReadText} (hread : ∀ text, Nested .heading (read text))
    (tight : Bool) : (blocks : List Block) →
      codeBlocks (blocksEvents read tight blocks) = blocksCodes blocks
  | [] => by rw [blocksEvents, blocksCodes, codeBlocks]
  | block :: rest => by
    rw [blocksEvents, blocksCodes, (nested_block hread tight block).codeBlocks_append,
      codeBlocks_block hread tight block, codeBlocks_blocks hread tight rest]

end

theorem codeBlocks_events (options : MarkdownOptions) (source : String) :
    codeBlocks (events options source) = blocksCodes (readSource options source).blocks :=
  codeBlocks_blocks (nested_read options _) false _

end Markdown

open Markdown

variable {η : Type}

/-- **The code blocks of a Markdown document are found in its markup**, where raw markup is not
allowed. -/
theorem codes_compileMarkdown (renderer : Renderer)
    (hraw : renderer.config.markdown.allowRawHtml = false) (source : String)
    (headings : Headings) :
    (Container.mount (η := η) (compileMarkdown renderer source headings).1).codes =
      elementsOf (blocksCodes (readSource renderer.config.markdown source).blocks) := by
  obtain ⟨images, hcuts⟩ :=
    cuts_typeset (η := η) hraw (nested_events renderer.config.markdown source) headings
  rw [codeBlocks_events] at hcuts
  exact hcuts.mount.2.1

/-- A document tree with the code blocks of a Markdown document is mounted to the same elements. -/
theorem codes_compile_of_markdown (renderer other : Renderer)
    (hraw : renderer.config.markdown.allowRawHtml = false) (source : String) (root : Document.Node)
    (hroot : root.codeBlocks = blocksCodes (readSource renderer.config.markdown source).blocks)
    (headings others : Headings) :
    (Container.mount (η := η) (compile other root others).1).codes =
      (Container.mount (η := η) (compileMarkdown renderer source headings).1).codes := by
  have htree := (cuts_compile (η := η) other root others).mount.2.1
  rw [codes_compileMarkdown renderer hraw, htree, ← elementsOf_codeBlocks, hroot]

end Folio
