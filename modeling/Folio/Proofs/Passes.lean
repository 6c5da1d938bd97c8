import Folio.Proofs.MountedRun

/-!
# Passes over one container

Enhancers pass over a container in place, one after the other, in whatever state earlier steps have
left it. A pass says anew of each code block how it is shown, and an enhancer attaches the handlers
that it has and leaves the others. So two passes leave the container as one pass of a single
enhancer would, which highlights as the later one does and has the handlers of the later one or else
those of the earlier one. What a pass reports depends on codes and languages alone, and no pass
changes these.

## Main definitions

* `Folio.Enhancer.andThen`: the enhancer that does in one pass what two do one after the other.
* `Folio.Enhancer.tally`: the report of a pass, counted off the elements.

## Main results

* `Folio.Enhancer.enhance_andThen`: two passes leave what one pass leaves.
* `Folio.Enhancer.enhance_snd`: the report of a pass.
* `Folio.Enhancer.passes_in_place`: two passes over a container, and their reports.
-/

namespace Folio

variable {η : Type}

/-- Two reports as one. -/
def EnhanceReport.add (report other : EnhanceReport) : EnhanceReport where
  highlighted := report.highlighted + other.highlighted
  plain := report.plain + other.plain
  imagesWired := report.imagesWired + other.imagesWired
  codeCopyWired := report.codeCopyWired + other.codeCopyWired

theorem EnhanceReport.add_assoc (first second third : EnhanceReport) :
    (first.add second).add third = first.add (second.add third) := by
  simp only [add, Nat.add_assoc]

namespace Enhancer

/-! ### Two passes as one -/

/-- The enhancer that highlights as the second does and attaches the handlers of the second, or
else those of the first. -/
def andThen (first second : Enhancer η) : Enhancer η where
  highlighter := second.highlighter
  onImageClick := second.onImageClick.or first.onImageClick
  onCodeCopy := second.onCodeCopy.or first.onCodeCopy

theorem andThen_self (enhancer : Enhancer η) : enhancer.andThen enhancer = enhancer := by
  simp only [andThen, Option.or_self]

theorem codeAfter_codeAfter (first second : Enhancer η) (code : CodeElement η) :
    second.codeAfter (first.codeAfter code) = (first.andThen second).codeAfter code := by
  simp only [codeAfter, andThen, Option.or_assoc]
  rfl

theorem imageAfter_imageAfter (first second : Enhancer η) (image : ImageElement η) :
    second.imageAfter (first.imageAfter image) = (first.andThen second).imageAfter image := by
  simp only [imageAfter, andThen, Option.or_assoc]

/-- **Two passes leave what one pass leaves.** -/
theorem enhance_andThen (first second : Enhancer η) (container : Container η) :
    (second.enhance (first.enhance container).1).1 =
      ((first.andThen second).enhance container).1 := by
  simp only [enhance_fst, List.map_map]
  refine congrArg Container.mk (List.map_congr_left fun segment _ => ?_)
  cases segment with
  | markup text => rfl
  | code element => exact congrArg Segment.code (codeAfter_codeAfter first second element)
  | image element => exact congrArg Segment.image (imageAfter_imageAfter first second element)

theorem markups_enhance (enhancer : Enhancer η) (container : Container η) :
    (enhancer.enhance container).1.markups = container.markups := by
  rw [enhance_fst]
  exact Container.markups_change _ _ _

/-- Without the handlers, a pass of the two enhancers together is a pass of the second. -/
theorem unwired_enhance_andThen (first second : Enhancer η) (container : Container η) :
    ((first.andThen second).enhance container).1.segments.map Segment.unwired =
      (second.enhance container).1.segments.map Segment.unwired := by
  simp only [enhance_fst, List.map_map]
  refine List.map_congr_left fun segment _ => ?_
  cases segment <;> rfl

/-! ### Reports -/

/-- The report of a pass: the code blocks for which the highlighter has markup, and those for which
it has none, and the elements of the kinds that the enhancer has handlers for. -/
def tally (enhancer : Enhancer η) (container : Container η) : EnhanceReport where
  highlighted := container.codes.countP fun code => (enhancer.markup? code).isSome
  plain := container.codes.countP fun code => !(enhancer.markup? code).isSome
  imagesWired := if enhancer.onImageClick.isSome then container.images.length else 0
  codeCopyWired := if enhancer.onCodeCopy.isSome then container.codes.length else 0

section Tally

variable (enhancer : Enhancer η) (report : EnhanceReport)

theorem tally_append (segments others : List (Segment η)) :
    enhancer.tally ⟨segments ++ others⟩ =
      (enhancer.tally ⟨segments⟩).add (enhancer.tally ⟨others⟩) := by
  simp only [tally, EnhanceReport.add, Container.codes_append, Container.images_append,
    List.countP_append, List.length_append]
  cases enhancer.onImageClick <;> cases enhancer.onCodeCopy <;> rfl

theorem enhanceCode_snd (code : CodeElement η) :
    (enhancer.enhanceCode code report).2 = report.add (enhancer.tally ⟨[.code code]⟩) := by
  -- The choice of markup looks at neither the highlighting nor the handler.
  have hmarkup (onCopy : Option η) :
      enhancer.markup? { code with highlighted := none, onCopy } = enhancer.markup? code := rfl
  cases hcopy : enhancer.onCodeCopy <;> cases hshown : enhancer.markup? code <;>
    simp [enhanceCode, tally, EnhanceReport.add, hcopy, hshown, hmarkup, Container.codes,
      Container.images, CodeElement.clearHighlighting, CodeElement.setCopyHandler]

theorem enhanceImage_snd (image : ImageElement η) :
    (enhancer.enhanceImage image report).2 = report.add (enhancer.tally ⟨[.image image]⟩) := by
  cases hclick : enhancer.onImageClick <;>
    simp [enhanceImage, tally, EnhanceReport.add, hclick, Container.codes, Container.images]

theorem enhanceSegments_snd (segments : List (Segment η)) :
    (enhancer.enhanceSegments segments report).2 = report.add (enhancer.tally ⟨segments⟩) := by
  induction segments generalizing report with
  | nil => simp [enhanceSegments, tally, EnhanceReport.add, Container.codes, Container.images]
  | cons segment segments ih =>
    rw [← List.singleton_append, tally_append, ← EnhanceReport.add_assoc]
    cases segment with
    | markup text =>
      have hnone : report.add (enhancer.tally ⟨[.markup text]⟩) = report := by
        simp [tally, EnhanceReport.add, Container.codes, Container.images]
      rw [hnone]
      exact ih report
    | code element => rw [← enhanceCode_snd]; exact ih _
    | image element => rw [← enhanceImage_snd]; exact ih _

end Tally

/-- **The report of a pass** counts the elements. -/
theorem enhance_snd (enhancer : Enhancer η) (container : Container η) :
    (enhancer.enhance container).2 = enhancer.tally container := by
  refine (enhancer.enhanceSegments_snd {} container.segments).trans ?_
  simp only [EnhanceReport.add, Nat.zero_add]

/-- What a pass reports does not depend on earlier passes. -/
theorem tally_enhance (first second : Enhancer η) (container : Container η) :
    second.tally (first.enhance container).1 = second.tally container := by
  simp only [tally, codes_enhance, images_enhance, List.countP_map, List.length_map]
  rfl

/-- Every code block is reported, as highlighted or as plain. -/
theorem highlighted_add_plain_tally (enhancer : Enhancer η) (container : Container η) :
    (enhancer.tally container).highlighted + (enhancer.tally container).plain =
      container.codes.length := by
  rw [List.length_eq_countP_add_countP fun code => (enhancer.markup? code).isSome]
  simp only [tally, decide_not, Bool.decide_eq_true]

/-- A pass reports as highlighted the code blocks that show markup of a highlighter after it. -/
theorem highlighted_tally (enhancer : Enhancer η) (container : Container η) :
    (enhancer.tally container).highlighted =
      (enhancer.enhance container).1.codes.countP CodeElement.isHighlighted := by
  rw [codes_enhance, List.countP_map]
  rfl

/-- **Passes in place.** A pass of a second enhancer over a container that a first one has passed
over leaves all markup between the elements, and everything but the handlers as the second leaves it
alone. An element has the handler of the second, or else of the first, or else the one it had. The
second reports what it reports alone: the code blocks that show markup of its highlighter and those
that do not, which are all, and the elements that it has a handler for. A second pass of the same
enhancer changes nothing and reports the same. -/
theorem passes_in_place (first second : Enhancer η) (container : Container η) :
    let alone := second.enhance container
    let both := second.enhance (first.enhance container).1
    both.1.markups = container.markups ∧
      both.1.segments.map Segment.unwired = alone.1.segments.map Segment.unwired ∧
      both.1.codes.map CodeElement.onCopy = container.codes.map (fun code =>
        second.onCodeCopy.or (first.onCodeCopy.or code.onCopy)) ∧
      both.1.images.map ImageElement.onClick = container.images.map (fun image =>
        second.onImageClick.or (first.onImageClick.or image.onClick)) ∧
      both.2 = alone.2 ∧
      alone.2.highlighted + alone.2.plain = container.codes.length ∧
      alone.2.highlighted = alone.1.codes.countP CodeElement.isHighlighted ∧
      alone.2.imagesWired = (if second.onImageClick.isSome then container.images.length else 0) ∧
      alone.2.codeCopyWired = (if second.onCodeCopy.isSome then container.codes.length else 0) ∧
      second.enhance alone.1 = alone := by
  refine ⟨?_, ?_, ?_, ?_, ?_, ?_, ?_, ?_, ?_, ?_⟩
  · rw [markups_enhance, markups_enhance]
  · rw [enhance_andThen, unwired_enhance_andThen]
  · simp only [codes_enhance, List.map_map]
    rfl
  · simp only [images_enhance, List.map_map]
    rfl
  · rw [enhance_snd, enhance_snd, tally_enhance]
  · rw [enhance_snd, highlighted_add_plain_tally]
  · rw [enhance_snd, highlighted_tally]
  · rw [enhance_snd]
    rfl
  · rw [enhance_snd]
    rfl
  · refine Prod.ext ?_ ?_
    · rw [enhance_andThen, andThen_self]
    · rw [enhance_snd, enhance_snd, tally_enhance]

end Enhancer

end Folio
