import Folio.Markdown.Event
import Folio.Text.Blank
import Folio.Text.Punctuation

/-!
# Spans and emphasis

Text within a block is a sequence of spans. Runs of `*`, `_` and `~` open and close emphasis; which
of them belong together is decided from left to right, a run that closes going with the nearest
run that can open.

## Main definitions

* `Folio.Markdown.Span`: a piece of text, perhaps with spans in it.
* `Folio.Markdown.DelimiterRun`: a run of one mark, and whether it may open and close.
* `Folio.Markdown.emphasize`: the spans that pieces of text and delimiter runs make.
-/

namespace Folio.Markdown

open Text

/-- A piece of text within a block. -/
inductive Span where
  | text (text : String)
  | code (text : String)
  /-- Raw markup. -/
  | html (markup : String)
  | softBreak
  | hardBreak
  /-- Spans that a tag encloses. -/
  | within (tag : Tag) (spans : List Span)
  deriving Repr

mutual

/-- The events of a span. -/
def Span.events : Span → List Event
  | .text text => [.text text]
  | .code text => [.code text]
  | .html markup => [.inlineHtml markup]
  | .softBreak => [.softBreak]
  | .hardBreak => [.hardBreak]
  | .within tag spans => .start tag :: (spansEvents spans ++ [.stop tag])

/-- The events of spans, in order. -/
def spansEvents : List Span → List Event
  | [] => []
  | span :: spans => span.events ++ spansEvents spans

end

/-- A run of one mark. -/
structure DelimiterRun where
  mark : Char
  /-- How many marks the source has. -/
  length : Nat
  /-- Whether emphasis may open here. -/
  canOpen : Bool
  /-- Whether emphasis may close here. -/
  canClose : Bool
  deriving Repr

/-- Whether emphasis may open at `length` marks between two characters; none stands for the
boundary of the text. Marks of all kinds but a single `_` or `~` may open within a word. -/
def opensBetween (mark : Char) (length : Nat) (before after : Option Char) : Bool :=
  match after, before with
  | none, _ => false
  | some c, none => !isBlank c
  | some c, some b =>
    !isBlank c &&
      ((!isPunctuation c && (mark == '*' || (mark == '~' && (length > 1 || b == '~')))) ||
        isBlank b || isPunctuation b)

/-- Whether emphasis may close at `length` marks between two characters. -/
def closesBetween (mark : Char) (length : Nat) (before after : Option Char) : Bool :=
  match before, after with
  | none, _ => false
  | some b, none => !isBlank b
  | some b, some c =>
    !isBlank b &&
      ((!isPunctuation b && (mark == '*' || (mark == '~' && length > 1))) ||
        (mark == '~' && b == '~') || isBlank c || isPunctuation c)

/-- The run of `length` marks between two characters. -/
def DelimiterRun.between (mark : Char) (length : Nat) (before after : Option Char) :
    DelimiterRun :=
  ⟨mark, length, opensBetween mark length before after, closesBetween mark length before after⟩

/-- Whether a run both opens and closes. -/
def DelimiterRun.both (run : DelimiterRun) : Bool := run.canOpen && run.canClose

/-- Whether a run may close what another opens. Runs of `~` must be equally long. Where one of the
two runs both opens and closes, their lengths must not add up to a multiple of three, unless they
are such multiples. -/
def DelimiterRun.closes (closer opener : DelimiterRun) : Bool :=
  closer.mark == opener.mark &&
    (closer.mark != '~' || closer.length == opener.length) &&
    ((!closer.both && !opener.both) || (closer.length + opener.length) % 3 != 0 ||
      closer.length % 3 == 0)

/-- A piece of text before emphasis is decided. -/
inductive Piece where
  | span (span : Span)
  | run (run : DelimiterRun)
  deriving Repr

/-- A run whose marks may still open emphasis. -/
structure Opener where
  run : DelimiterRun
  /-- How many marks are left. -/
  count : Nat
  /-- The spans between the opener before this one and this one, the latest first. -/
  before : List Span
  /-- Whether a search from a run of `~` has passed over this opener in vain. -/
  passed : Bool
  deriving Repr

/-- What is known of the pieces read so far. -/
structure Emphasis where
  /-- The runs that may still open emphasis, innermost first. -/
  openers : List Opener := []
  /-- The spans after the innermost opener, the latest first. -/
  spans : List Span := []
  deriving Repr

/-- A number of marks as text. -/
def marksText (mark : Char) (count : Nat) : Span :=
  .text (String.ofList (List.replicate count mark))

/-- Spans inside `count` marks of emphasis: pairs of marks are strong, the innermost first, and a
mark that is left is the outermost. -/
def emphasisOf (mark : Char) : Nat → List Span → Span
  | 0, spans | 1, spans =>
    .within (if mark == '~' then .strikethrough else .emphasis) spans
  | 2, spans => .within (if mark == '~' then .strikethrough else .strong) spans
  | count + 3, spans =>
    emphasisOf mark (count + 1) [.within (if mark == '~' then .strikethrough else .strong) spans]

namespace Emphasis

/-- The spans after the opener with a number, the latest first, and the openers from there on; the
openers inside become text. -/
def unfold : Nat → List Opener → List Span → List Opener × List Span
  | n + 1, opener :: rest, spans =>
    unfold n rest (spans ++ marksText opener.run.mark opener.count :: opener.before)
  | _, openers, spans => (openers, spans)

/-- The number of the innermost opener that a run may close. -/
def findOpener? (closer : DelimiterRun) (openers : List Opener) : Option Nat :=
  openers.findIdx? fun opener =>
    closer.closes opener.run && !(closer.mark == '~' && opener.passed)

/-- Lets a run of which `count` marks are left close emphasis as often as it can: how many marks
remain. -/
def closeRun (closer : DelimiterRun) : Nat → Emphasis → Nat × Emphasis
  | 0, e => (0, e)
  | count + 1, e =>
    match findOpener? closer e.openers with
    | none =>
      let openers :=
        if closer.mark == '~' then e.openers.map fun opener => { opener with passed := true }
        else e.openers
      (count + 1, { e with openers })
    | some n =>
      match unfold n e.openers e.spans with
      | ([], spans) => (count + 1, ⟨[], spans⟩)
      | (opener :: rest, spans) =>
        let used := min (count + 1) opener.count
        let inner := emphasisOf closer.mark used spans.reverse
        if opener.count > used then
          (0, ⟨{ opener with count := opener.count - used, passed := false } :: rest, [inner]⟩)
        else closeRun closer (count - (used - 1)) ⟨rest, inner :: opener.before⟩
termination_by count => count

/-- Reads a piece. -/
def read (e : Emphasis) : Piece → Emphasis
  | .span span => { e with spans := span :: e.spans }
  | .run run =>
    let (count, e) := if run.canClose then closeRun run run.length e else (run.length, e)
    if count = 0 then e
    else if run.canOpen then ⟨⟨run, count, e.spans, false⟩ :: e.openers, []⟩
    else { e with spans := marksText run.mark count :: e.spans }

end Emphasis

/-- The spans that pieces make. -/
def emphasize (pieces : List Piece) : List Span :=
  let e := pieces.foldl Emphasis.read {}
  (Emphasis.unfold e.openers.length e.openers e.spans).2.reverse

end Folio.Markdown
