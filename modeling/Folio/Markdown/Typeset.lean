import Folio.Markdown.Event
import Folio.Render.Compile

/-!
# Markdown events with the markup of documents

Code blocks, headings and links of a Markdown document get the markup that they have in a document
tree. Their events are replaced by that markup as it is met: the text of a code block and the
content of a heading are held back until they end.

## Main definitions

* `Folio.Markdown.Typesetting`: what is held back, the events written and the headings recorded.
* `Folio.Markdown.Typesetting.read`: reads an event.
* `Folio.Markdown.typeset`: the events of a document with that markup in place, and its headings.
-/

namespace Folio.Markdown

/-- The language of a code block: what stands before white space or a comma in the text after its
fence. -/
def fenceLanguage (info : String) : Option String :=
  let token := info.toList.takeWhile fun c => !(Text.isBlank c || c == ',')
  if token.isEmpty then none else some (String.ofList token)

/-- A code block that has not ended. -/
structure OpenCode where
  language : Option String
  /-- The code so far. -/
  code : String := ""
  deriving DecidableEq, Repr

/-- A heading that has not ended. -/
structure OpenHeading where
  level : Nat
  /-- Its text so far. -/
  text : String := ""
  /-- The events in it, the latest first. -/
  events : List Event := []
  deriving DecidableEq, Repr

/-- How far the events of a document have been typeset. -/
structure Typesetting where
  /-- The headings recorded so far. -/
  headings : Headings
  code : Option OpenCode := none
  heading : Option OpenHeading := none
  /-- The events written so far, the latest first. -/
  output : List Event := []
  deriving DecidableEq, Repr

namespace Typesetting

/-- Writes an event into the heading that is open, or else to the output. -/
def emit (t : Typesetting) (event : Event) : Typesetting :=
  match t.heading with
  | some heading => { t with heading := some { heading with events := event :: heading.events } }
  | none => { t with output := event :: t.output }

/-- Adds to the text of the heading that is open. -/
def note (t : Typesetting) (text : String) : Typesetting :=
  match t.heading with
  | some heading => { t with heading := some { heading with text := heading.text ++ text } }
  | none => t

/-- Ends the code block that is open. -/
def finishCode (t : Typesetting) : Typesetting :=
  match t.code with
  | some code => { t with code := none }.emit (.html (Html.codeBlock code.language code.code))
  | none => t

/-- Ends the heading that is open: only now is its text known, and with it its identifier. -/
def finishHeading (renderer : Renderer) (t : Typesetting) : Typesetting :=
  match t.heading with
  | some heading =>
    let (id, headings) := t.headings.assign renderer heading.text heading.level
    let anchor :=
      if renderer.config.headings.anchorLinks then [Event.html (anchorLink id)] else []
    { t with
      headings, heading := none
      output :=
        .html (headingClose heading.level) ::
          (anchor ++ heading.events ++ .html (headingOpen heading.level id) :: t.output) }
  | none => t

/-- Reads an event outside code blocks. -/
def readPlain (renderer : Renderer) (t : Typesetting) (event : Event) : Typesetting :=
  match event with
  | .start (.codeBlock info) => { t with code := some { language := info.bind fenceLanguage } }
  | .start (.heading level) => { t with heading := some { level } }
  | .stop (.heading _) => t.finishHeading renderer
  | .start (.link address title) =>
    t.emit (.html (linkTag address (if title.isEmpty then none else some title)))
  | .stop (.link _ _) => t.emit (.html "</a>")
  | .html markup | .inlineHtml markup =>
    if renderer.config.markdown.allowRawHtml then t.emit event
    else (t.note markup).emit (.text markup)
  | .softBreak | .hardBreak => (t.note " ").emit event
  | .text text | .code text => (t.note text).emit event
  | _ => t.emit event

/-- Reads an event. In a code block only text counts. -/
def read (renderer : Renderer) (t : Typesetting) (event : Event) : Typesetting :=
  match t.code with
  | some code =>
    match event with
    | .text text => { t with code := some { code with code := code.code ++ text } }
    | .stop (.codeBlock _) => t.finishCode
    | _ => t
  | none => t.readPlain renderer event

/-- Ends what is open at the end of the document. -/
def finish (renderer : Renderer) (t : Typesetting) : Typesetting :=
  t.finishCode.finishHeading renderer

end Typesetting

/-- The events of a document with code blocks, headings and links as markup, and the headings
recorded with them. -/
def typeset (renderer : Renderer) (events : List Event) (headings : Headings) :
    List Event × Headings :=
  let t := (events.foldl (Typesetting.read renderer) { headings }).finish renderer
  (t.output.reverse, t.headings)

end Folio.Markdown
