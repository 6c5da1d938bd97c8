import Folio.Highlight
import Folio.Mount.Container

/-!
# Enhancing mounted markup

An enhancer shows code blocks highlighted and attaches handlers to code blocks and images. A pass
starts from plain code blocks, so passes do not add up, and a block that cannot be highlighted
stays plain.

## Main definitions

* `Folio.Enhancer`: what a pass uses.
* `Folio.Enhancer.enhance`: a pass over a container, with a report.
* `Folio.enhanceHtml`: a pass over markup.
-/

namespace Folio

variable {η : Type}

/-- What a pass uses; whatever is absent it leaves alone. -/
structure Enhancer (η : Type) where
  highlighter : Option Highlighter := none
  /-- The handler for images. -/
  onImageClick : Option η := none
  /-- The handler for code blocks. -/
  onCodeCopy : Option η := none

/-- What a pass has done. -/
structure EnhanceReport where
  /-- The code blocks that show the markup of the highlighter. -/
  highlighted : Nat := 0
  /-- The code blocks that do not. -/
  plain : Nat := 0
  /-- The images that got a handler. -/
  imagesWired : Nat := 0
  /-- The code blocks that got a handler. -/
  codeCopyWired : Nat := 0
  deriving DecidableEq, Repr

namespace Enhancer

/-- The markup to show for a code block, unless it is to stay plain. Plain text is never
highlighted. -/
def markup? (enhancer : Enhancer η) (code : CodeElement η) : Option String :=
  match enhancer.highlighter with
  | none => none
  | some highlighter =>
    if code.language == Html.plainLanguage then none
    else (highlighter.highlight code.source code.language).toOption

/-- A code block after a pass, and the report with it. -/
def enhanceCode (enhancer : Enhancer η) (code : CodeElement η) (report : EnhanceReport) :
    CodeElement η × EnhanceReport :=
  let code := code.clearHighlighting
  let (code, report) :=
    match enhancer.onCodeCopy with
    | some handler =>
      (code.setCopyHandler handler, { report with codeCopyWired := report.codeCopyWired + 1 })
    | none => (code, report)
  match enhancer.markup? code with
  | some markup =>
    (code.setHighlighted markup, { report with highlighted := report.highlighted + 1 })
  | none => (code, { report with plain := report.plain + 1 })

/-- An image after a pass, and the report with it. -/
def enhanceImage (enhancer : Enhancer η) (image : ImageElement η) (report : EnhanceReport) :
    ImageElement η × EnhanceReport :=
  match enhancer.onImageClick with
  | some handler =>
    (image.setClickHandler handler, { report with imagesWired := report.imagesWired + 1 })
  | none => (image, report)

/-- Segments after a pass, and the report with them. -/
def enhanceSegments (enhancer : Enhancer η) :
    List (Segment η) → EnhanceReport → List (Segment η) × EnhanceReport
  | [], report => ([], report)
  | .markup text :: rest, report =>
    let (rest, report) := enhancer.enhanceSegments rest report
    (.markup text :: rest, report)
  | .code element :: rest, report =>
    let (element, report) := enhancer.enhanceCode element report
    let (rest, report) := enhancer.enhanceSegments rest report
    (.code element :: rest, report)
  | .image element :: rest, report =>
    let (element, report) := enhancer.enhanceImage element report
    let (rest, report) := enhancer.enhanceSegments rest report
    (.image element :: rest, report)

/-- A container after a pass, and what the pass has done. -/
def enhance (enhancer : Enhancer η) (container : Container η) : Container η × EnhanceReport :=
  let (segments, report) := enhancer.enhanceSegments container.segments {}
  (⟨segments⟩, report)

end Enhancer

/-- Markup after a pass. -/
def enhanceHtml (enhancer : Enhancer η) (html : String) : String :=
  (enhancer.enhance (.mount html)).1.html

end Folio
