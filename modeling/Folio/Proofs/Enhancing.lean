import Folio.Enhance
import Folio.Proofs.Highlighting
import Folio.Proofs.MountedDocument

/-!
# Passes over mounted documents

A pass changes each element by itself. It goes back to the code before it highlights, so that what
it makes of a code block does not depend on an earlier highlighting, and its markers are taken off
again when its markup is mounted. Of two passes over markup, one after the other, only the second
is left.

## Main definitions

* `Folio.Enhancer.codeAfter`, `Folio.Enhancer.imageAfter`: an element after a pass.
* `Folio.Enhancer.Faithful`: an enhancer whose highlighter gives faithful markup.

## Main results

* `Folio.Enhancer.enhance_fst`: a pass changes the elements one by one.
* `Folio.enhanceHtml_enhanceHtml`: a later pass over a document absorbs an earlier one.
-/

namespace Folio

open Document Html

variable {η : Type}

namespace Enhancer

/-! ### What a pass does -/

/-- A code block after a pass. -/
def codeAfter (enhancer : Enhancer η) (code : CodeElement η) : CodeElement η :=
  { code with
    highlighted := enhancer.markup? code
    onCopy := enhancer.onCodeCopy.or code.onCopy }

/-- An image after a pass. -/
def imageAfter (enhancer : Enhancer η) (image : ImageElement η) : ImageElement η :=
  { image with onClick := enhancer.onImageClick.or image.onClick }

section Pass

variable (enhancer : Enhancer η) (report : EnhanceReport)

theorem enhanceCode_fst (code : CodeElement η) :
    (enhancer.enhanceCode code report).1 = enhancer.codeAfter code := by
  -- The choice of markup looks at neither the highlighting nor the handler.
  have hmarkup (onCopy : Option η) :
      enhancer.markup? { code with highlighted := none, onCopy } = enhancer.markup? code := rfl
  cases hcopy : enhancer.onCodeCopy with
  | none =>
    simp only [enhanceCode, codeAfter, hcopy, CodeElement.clearHighlighting, hmarkup,
      Option.none_or]
    cases enhancer.markup? code <;> rfl
  | some handler =>
    simp only [enhanceCode, codeAfter, hcopy, CodeElement.clearHighlighting,
      CodeElement.setCopyHandler, hmarkup, Option.some_or]
    cases enhancer.markup? code <;> rfl

theorem enhanceImage_fst (image : ImageElement η) :
    (enhancer.enhanceImage image report).1 = enhancer.imageAfter image := by
  cases hclick : enhancer.onImageClick with
  | none => simp only [enhanceImage, imageAfter, hclick, Option.none_or]
  | some handler => simp only [enhanceImage, imageAfter, hclick, ImageElement.setClickHandler,
      Option.some_or]

theorem enhanceSegments_fst (segments : List (Segment η)) :
    (enhancer.enhanceSegments segments report).1 =
      segments.map (Segment.change enhancer.codeAfter enhancer.imageAfter) := by
  induction segments generalizing report with
  | nil => rfl
  | cons segment segments ih =>
    cases segment with
    | markup text => simp only [enhanceSegments, ih, List.map_cons, Segment.change]
    | code element =>
      simp only [enhanceSegments, ih, List.map_cons, Segment.change, enhanceCode_fst]
    | image element =>
      simp only [enhanceSegments, ih, List.map_cons, Segment.change, enhanceImage_fst]

end Pass

/-- **A pass changes the elements one by one**, and nothing between them. -/
theorem enhance_fst (enhancer : Enhancer η) (container : Container η) :
    (enhancer.enhance container).1 =
      ⟨container.segments.map (Segment.change enhancer.codeAfter enhancer.imageAfter)⟩ := by
  simp only [enhance, enhanceSegments_fst]

theorem codes_enhance (enhancer : Enhancer η) (container : Container η) :
    (enhancer.enhance container).1.codes = container.codes.map enhancer.codeAfter := by
  rw [enhance_fst]
  exact Container.codes_change _ _ _

theorem images_enhance (enhancer : Enhancer η) (container : Container η) :
    (enhancer.enhance container).1.images = container.images.map enhancer.imageAfter := by
  rw [enhance_fst]
  exact Container.images_change _ _ _

/-- Plain text is never highlighted, and a block is highlighted only by the highlighter. -/
theorem highlight_of_markup? {enhancer : Enhancer η} {code : CodeElement η} {markup : String}
    (h : enhancer.markup? code = some markup) :
    ∃ highlighter ∈ enhancer.highlighter, code.language ≠ plainLanguage ∧
      highlighter.highlight code.source code.language = .ok markup := by
  unfold markup? at h
  split at h
  · cases h
  · rename_i highlighter hhighlighter
    split at h
    · cases h
    · rename_i hlanguage
      refine ⟨highlighter, hhighlighter, by simpa using hlanguage, ?_⟩
      cases hmarkup : highlighter.highlight code.source code.language with
      | error error =>
        rw [hmarkup] at h
        cases h
      | ok shown =>
        rw [hmarkup] at h
        rw [Option.some.inj h]

/-- An element that was read back does not show an earlier pass to a later one. -/
theorem change_unwired_change (first second : Enhancer η) (segment : Segment η) :
    ((segment.unwired.change first.codeAfter first.imageAfter).unwired.change
      second.codeAfter second.imageAfter) =
        segment.unwired.change second.codeAfter second.imageAfter := by
  cases segment <;> rfl

/-- A pass that has nothing to do leaves plain code blocks and images as they are. -/
theorem enhance_empty {container : Container η}
    (hplain : ∀ code ∈ container.codes, code.highlighted = none) :
    (({} : Enhancer η).enhance container).1 = container := by
  rw [enhance_fst]
  obtain ⟨segments⟩ := container
  refine congrArg Container.mk ((List.map_congr_left fun segment hsegment => ?_).trans
    (List.map_id segments))
  cases segment with
  | markup text => rfl
  | image element => rfl
  | code element =>
    have hmem : element ∈ (⟨segments⟩ : Container η).codes :=
      List.mem_filterMap.2 ⟨_, hsegment, rfl⟩
    have hsame : ({} : Enhancer η).codeAfter element = element := by
      unfold codeAfter
      rw [show ({} : Enhancer η).markup? element = none from rfl, ← hplain element hmem]
      rfl
    exact congrArg Segment.code hsame

end Enhancer

/-! ### Passes over markup -/

/-- An enhancer whose highlighter, if it has one, gives nothing but markup that can be shown instead
of the code. -/
def Enhancer.Faithful (enhancer : Enhancer η) : Prop :=
  ∀ highlighter ∈ enhancer.highlighter, ∀ code language markup,
    highlighter.highlight code language = .ok markup → Folio.Faithful markup code

theorem Enhancer.Faithful.readable {enhancer : Enhancer η} (henhancer : enhancer.Faithful)
    {segment : Segment η} (hsegment : segment.Readable) :
    (segment.change enhancer.codeAfter enhancer.imageAfter).Readable := by
  cases segment with
  | markup text => exact hsegment
  | image element => exact ⟨hsegment.start, hsegment.no_close, hsegment.clean, hsegment.source⟩
  | code element =>
    refine ⟨hsegment.language, fun markup hmarkup => ?_⟩
    obtain ⟨highlighter, hhighlighter, -, hok⟩ := Enhancer.highlight_of_markup? hmarkup
    exact henhancer highlighter hhighlighter _ _ _ hok

namespace Container

/-- The container after a pass over its markup. -/
def passed (container : Container η) (enhancer : Enhancer η) : Container η :=
  ⟨container.segments.map fun segment =>
    segment.unwired.change enhancer.codeAfter enhancer.imageAfter⟩

theorem enhanceHtml_html {container : Container η} (hcontainer : container.Readable)
    (enhancer : Enhancer η) :
    enhanceHtml enhancer container.html = (container.passed enhancer).html := by
  rw [enhanceHtml, mount_html hcontainer, Enhancer.enhance_fst, remounted, passed,
    html_map_remount]
  simp

theorem Readable.passed {container : Container η} (hcontainer : container.Readable)
    {enhancer : Enhancer η} (henhancer : enhancer.Faithful) :
    (container.passed enhancer).Readable := by
  refine List.forall_mem_map.2 fun segment hsegment => henhancer.readable ?_
  have hreadable := hcontainer segment hsegment
  cases segment with
  | markup text => exact hreadable
  | code element => exact hreadable.unwired
  | image element => exact hreadable.unwired

/-- Of two passes the second is left. -/
theorem passed_passed (container : Container η) (first second : Enhancer η) :
    (container.passed first).passed second = container.passed second := by
  simp only [passed, List.map_map]
  exact congrArg Container.mk
    (List.map_congr_left fun segment _ => Enhancer.change_unwired_change first second segment)

end Container

/-- A pass that has nothing to do gives back the markup of a document. -/
theorem enhanceHtml_empty (renderer : Renderer) (root : Node) (headings : Headings) :
    enhanceHtml ({} : Enhancer η) (compile renderer root headings).1 =
      (compile renderer root headings).1 := by
  obtain ⟨hhtml, hcodes, -⟩ := (cuts_compile (η := η) renderer root headings).mount
  have hplain : ∀ code ∈ (Container.mount (η := η) (compile renderer root headings).1).codes,
      code.highlighted = none := by
    rw [hcodes]
    exact List.forall_mem_map.2 fun _ _ => rfl
  rw [enhanceHtml, Enhancer.enhance_empty hplain, hhtml]

/-- **A later pass over a document absorbs an earlier one**, whatever the two passes attach and
highlight, as long as the markup of the first highlighter is faithful. The same pass once more
changes nothing, and a pass that has nothing to do restores the markup of the compiler. -/
theorem enhanceHtml_enhanceHtml (renderer : Renderer) (root : Node) (headings : Headings)
    (first second : Enhancer η) (hfirst : first.Faithful) :
    let html := (compile renderer root headings).1
    enhanceHtml second (enhanceHtml first html) = enhanceHtml second html ∧
      enhanceHtml first (enhanceHtml first html) = enhanceHtml first html ∧
      enhanceHtml ({} : Enhancer η) (enhanceHtml first html) = html := by
  obtain ⟨container, hreadable, -, hhtml, -, -⟩ :=
    cuts_compile (η := η) renderer root headings
  have habsorb (later : Enhancer η) :
      enhanceHtml later (enhanceHtml first (compile renderer root headings).1) =
        enhanceHtml later (compile renderer root headings).1 := by
    rw [← hhtml, Container.enhanceHtml_html hreadable,
      Container.enhanceHtml_html (hreadable.passed hfirst), Container.passed_passed,
      Container.enhanceHtml_html hreadable]
  exact ⟨habsorb second, habsorb first,
    (habsorb {}).trans (enhanceHtml_empty renderer root headings)⟩

/-- With the stand-in for a library of grammars, a second pass takes off the handlers and the spans
of the first. -/
theorem enhanceHtml_builtin_then_zoom :
    let first : Enhancer Nat := { highlighter := some builtinHighlighter, onCodeCopy := some 0 }
    let second : Enhancer Nat := { onImageClick := some 1 }
    let html := (compile {} (Node.codeOf (some "rust") "if a < b {}") {}).1
    first.Faithful ∧
      enhanceHtml second (enhanceHtml first html) = enhanceHtml second html ∧
      enhanceHtml first (enhanceHtml first html) = enhanceHtml first html ∧
      enhanceHtml ({} : Enhancer Nat) (enhanceHtml first html) = html := by
  have hfirst : Enhancer.Faithful
      ({ highlighter := some builtinHighlighter, onCodeCopy := some 0 } : Enhancer Nat) := by
    rintro highlighter hhighlighter code language markup hok
    obtain rfl := Option.mem_some_iff.1 hhighlighter
    exact faithful_builtinHighlighter hok
  exact ⟨hfirst, enhanceHtml_enhanceHtml _ _ _ _ _ hfirst⟩

end Folio
