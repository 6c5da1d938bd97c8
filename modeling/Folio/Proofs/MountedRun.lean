import Folio.Proofs.Enhancing

/-!
# Runs of a mounted document

A mounted document is changed step by step: passes of enhancers, changes of single elements, and
mounting its own markup again. Seen from one element, every step is a change of that element alone,
which touches neither the code nor the language of a code block nor the address of an image. Which
handler an element has depends on the steps since the latest mount alone, since mounting takes all
handlers off.

A highlighter whose answers change from call to call is a pass without a highlighter, followed by
steps that show its answers.

## Main definitions

* `Folio.Step`, `Folio.Step.run`, `Folio.run`: the steps of a mounted document.
* `Folio.Step.Honest`: steps that show faithful markup only.
* `Folio.copyHandler?`, `Folio.clickHandler?`: the handlers that a history of steps leaves.

## Main results

* `Folio.Step.codes_run`, `Folio.Step.images_run`: what a step does to one element.
* `Folio.Step.readable_run`: a step keeps a container readable.
* `Folio.run_mount_compile`: a run keeps code and addresses, and runs the handlers attached last.
-/

namespace Folio

open Document Html Text

variable {η : Type}

/-! ### Changes of one element -/

namespace Container

/-- The markup between the elements. -/
def markups (container : Container η) : List String :=
  container.segments.filterMap fun
    | .markup text => some text
    | _ => none

/-- A container can be read back when all that it consists of can. -/
theorem readable_iff {container : Container η} :
    container.Readable ↔
      (∀ text ∈ container.markups, ∀ rest, Nowhere StartsElement text.toList rest) ∧
        (∀ code ∈ container.codes, code.Readable) ∧
        ∀ image ∈ container.images, image.Readable := by
  simp only [Readable, markups, codes, images, List.mem_filterMap]
  constructor
  · intro hreadable
    refine ⟨?_, ?_, ?_⟩
    all_goals
      rintro found ⟨segment, hsegment, hfound⟩
      have h := hreadable segment hsegment
      cases segment <;> cases hfound
      exact h
  · rintro ⟨hmarkups, hcodes, himages⟩ segment hsegment
    cases segment with
    | markup text => exact hmarkups text ⟨_, hsegment, rfl⟩
    | code element => exact hcodes element ⟨_, hsegment, rfl⟩
    | image element => exact himages element ⟨_, hsegment, rfl⟩

theorem markups_change (segments : List (Segment η)) (onCode : CodeElement η → CodeElement η)
    (onImage : ImageElement η → ImageElement η) :
    markups ⟨segments.map (Segment.change onCode onImage)⟩ = markups ⟨segments⟩ := by
  induction segments with
  | nil => rfl
  | cons segment segments ih =>
    cases segment with
    | markup text => exact congrArg (text :: ·) ih
    | code element => exact ih
    | image element => exact ih

section Modify

variable (container : Container η) (index : Nat)

theorem views_modifyCode (change : CodeElement η → CodeElement η) :
    (container.modifyCode index change).markups = container.markups ∧
      (container.modifyCode index change).codes = container.codes.modify index change ∧
      (container.modifyCode index change).images = container.images := by
  obtain ⟨segments⟩ := container
  simp only [modifyCode, markups, codes, images]
  induction segments generalizing index with
  | nil => simp [modifyCodeIn]
  | cons segment segments ih =>
    cases segment <;> cases index <;> simp [modifyCodeIn, ih]

theorem views_modifyImage (change : ImageElement η → ImageElement η) :
    (container.modifyImage index change).markups = container.markups ∧
      (container.modifyImage index change).codes = container.codes ∧
      (container.modifyImage index change).images = container.images.modify index change := by
  obtain ⟨segments⟩ := container
  simp only [modifyImage, markups, codes, images]
  induction segments generalizing index with
  | nil => simp [modifyImageIn]
  | cons segment segments ih =>
    cases segment <;> cases index <;> simp [modifyImageIn, ih]

end Modify

end Container

/-! ### Steps -/

/-- What can be done with a mounted document. -/
inductive Step (η : Type) where
  | enhance (enhancer : Enhancer η)
  | clearHighlighting (block : Nat)
  | setHighlighted (block : Nat) (markup : String)
  | setCopyHandler (block : Nat) (handler : η)
  | setClickHandler (image : Nat) (handler : η)
  /-- Runs the handler of a code block. -/
  | copyCode (block : Nat)
  /-- Runs the handler of an image. -/
  | clickImage (image : Nat)
  /-- Mounts the markup of the container. -/
  | remount

namespace Step

/-- The container after a step. Running a handler does not change the container. -/
def run : Step η → Container η → Container η
  | enhance enhancer, container => (enhancer.enhance container).1
  | clearHighlighting block, container => container.modifyCode block .clearHighlighting
  | setHighlighted block markup, container => container.modifyCode block (·.setHighlighted markup)
  | setCopyHandler block handler, container =>
    container.modifyCode block (·.setCopyHandler handler)
  | setClickHandler image handler, container =>
    container.modifyImage image (·.setClickHandler handler)
  | copyCode _, container => container
  | clickImage _, container => container
  | remount, container => .mount container.html

/-- Whether a step mounts the markup. -/
def isRemount : Step η → Bool
  | remount => true
  | _ => false

/-- The code block with a number after a step. -/
def onCode (index : Nat) : Step η → CodeElement η → CodeElement η
  | enhance enhancer, code => enhancer.codeAfter code
  | clearHighlighting block, code => if block = index then code.clearHighlighting else code
  | setHighlighted block markup, code =>
    if block = index then code.setHighlighted markup else code
  | setCopyHandler block handler, code =>
    if block = index then code.setCopyHandler handler else code
  | remount, code => code.unwired
  | _, code => code

/-- The image with a number after a step. -/
def onImage (index : Nat) : Step η → ImageElement η → ImageElement η
  | enhance enhancer, image => enhancer.imageAfter image
  | setClickHandler position handler, image =>
    if position = index then image.setClickHandler handler else image
  | remount, image => image.unwired
  | _, image => image

/-- The handler that a step attaches to the code block with a number. -/
def copyHandler? (index : Nat) : Step η → Option η
  | enhance enhancer => enhancer.onCodeCopy
  | setCopyHandler block handler => if block = index then some handler else none
  | _ => none

/-- The handler that a step attaches to the image with a number. -/
def clickHandler? (index : Nat) : Step η → Option η
  | enhance enhancer => enhancer.onImageClick
  | setClickHandler image handler => if image = index then some handler else none
  | _ => none

end Step

/-- The language and the code of a code block. -/
def CodeElement.block (code : CodeElement η) : String × String := (code.language, code.source)

/-- The languages and codes of the code blocks, in document order. -/
def Container.blocks (container : Container η) : List (String × String) :=
  container.codes.map CodeElement.block

/-- The addresses of the images, in document order. -/
def Container.addresses (container : Container η) : List String :=
  container.images.map ImageElement.source

/-- A step that shows faithful markup only, when it is taken with certain code blocks, each given
with its language. A highlighter is not asked about plain text. -/
def Step.Honest (blocks : List (String × String)) : Step η → Prop
  | enhance enhancer => ∀ highlighter ∈ enhancer.highlighter, ∀ language source,
      (language, source) ∈ blocks → language ≠ plainLanguage →
        ∀ markup, highlighter.highlight source language = .ok markup → Faithful markup source
  | setHighlighted index markup => ∀ block ∈ blocks[index]?, Faithful markup block.2
  | _ => True

/-- The container after steps. -/
def run (steps : List (Step η)) (container : Container η) : Container η :=
  steps.foldl (fun container step => step.run container) container

/-- The steps since the latest mount, the last one first. -/
def sinceMount (steps : List (Step η)) : List (Step η) :=
  steps.reverse.takeWhile (!·.isRemount)

/-- The handler that steps attached last, since the latest mount, to the code block with a
number. -/
def copyHandler? (index : Nat) (steps : List (Step η)) : Option η :=
  (sinceMount steps).findSome? (Step.copyHandler? index)

/-- The handler that steps attached last, since the latest mount, to the image with a number. -/
def clickHandler? (index : Nat) (steps : List (Step η)) : Option η :=
  (sinceMount steps).findSome? (Step.clickHandler? index)

/-! ### What a step does to one element -/

namespace Step

section Element

variable (step : Step η) (index : Nat)

theorem block_onCode (code : CodeElement η) : (step.onCode index code).block = code.block := by
  cases step with
  | clearHighlighting | setHighlighted | setCopyHandler => rw [onCode]; split <;> rfl
  | _ => rfl

theorem source_onImage (image : ImageElement η) :
    (step.onImage index image).source = image.source := by
  cases step with
  | setClickHandler => rw [onImage]; split <;> rfl
  | _ => rfl

/-- A step leaves a code block its handler, unless it attaches another one or mounts. -/
theorem onCopy_onCode (code : CodeElement η) :
    (step.onCode index code).onCopy =
      if step.isRemount then none else (step.copyHandler? index).or code.onCopy := by
  cases step with
  | clearHighlighting | setHighlighted => rw [onCode]; split <;> rfl
  | setCopyHandler => rw [onCode, copyHandler?]; split <;> rfl
  | _ => rfl

/-- A step leaves an image its handler, unless it attaches another one or mounts. -/
theorem onClick_onImage (image : ImageElement η) :
    (step.onImage index image).onClick =
      if step.isRemount then none else (step.clickHandler? index).or image.onClick := by
  cases step with
  | setClickHandler => rw [onImage, clickHandler?]; split <;> rfl
  | _ => rfl

theorem readable_onCode {blocks : List (String × String)} (hstep : step.Honest blocks)
    {code : CodeElement η} (hblock : blocks[index]? = some code.block) (hcode : code.Readable) :
    (step.onCode index code).Readable := by
  cases step with
  | enhance enhancer =>
    refine ⟨hcode.language, fun markup hmarkup => ?_⟩
    obtain ⟨highlighter, hmem, hlanguage, hok⟩ := Enhancer.highlight_of_markup? hmarkup
    exact hstep highlighter hmem _ _ (List.mem_of_getElem? hblock) hlanguage markup hok
  | clearHighlighting block =>
    rw [onCode]
    split
    · exact ⟨hcode.language, fun _ hmarkup => absurd hmarkup (Option.not_mem_none _)⟩
    · exact hcode
  | setHighlighted block markup =>
    rw [onCode]
    split
    · rename_i hindex
      subst hindex
      refine ⟨hcode.language, fun shown hshown => ?_⟩
      obtain rfl := Option.mem_some_iff.1 hshown
      exact hstep code.block hblock
    · exact hcode
  | setCopyHandler block handler =>
    rw [onCode]
    split
    · exact ⟨hcode.language, hcode.highlighted⟩
    · exact hcode
  | remount => exact hcode.unwired
  | _ => exact hcode

theorem readable_onImage {image : ImageElement η} (himage : image.Readable) :
    (step.onImage index image).Readable := by
  cases step with
  | enhance enhancer => exact ⟨himage.start, himage.no_close, himage.clean, himage.source⟩
  | setClickHandler position handler =>
    rw [onImage]
    split
    · exact ⟨himage.start, himage.no_close, himage.clean, himage.source⟩
    · exact himage
  | remount => exact himage.unwired
  | _ => exact himage

/-- Only mounting changes the markup between the elements. -/
theorem markups_run (hstep : step.isRemount = false) (container : Container η) :
    (step.run container).markups = container.markups := by
  cases step with
  | enhance enhancer =>
    rw [run, Enhancer.enhance_fst]
    exact Container.markups_change _ _ _
  | setClickHandler image handler => exact (container.views_modifyImage _ _).1
  | clearHighlighting | setHighlighted | setCopyHandler =>
    exact (container.views_modifyCode _ _).1
  | copyCode | clickImage => rfl
  | remount => cases hstep

variable {container : Container η} (hcontainer : container.Readable)

include hcontainer

/-- A step changes the code blocks one by one. -/
theorem codes_run :
    (step.run container).codes[index]? = container.codes[index]?.map (step.onCode index) := by
  cases step with
  | enhance enhancer => rw [run, Enhancer.codes_enhance, List.getElem?_map]; rfl
  | remount => rw [run, Container.mount_html hcontainer, Container.codes_remounted,
      List.getElem?_map]; rfl
  | setClickHandler image handler =>
    rw [run, (container.views_modifyImage _ _).2.1]
    exact Option.map_id'.symm
  | copyCode block => exact Option.map_id'.symm
  | clickImage image => exact Option.map_id'.symm
  | _ => rw [run, (container.views_modifyCode _ _).2.1, List.getElem?_modify]; rfl

/-- A step changes the images one by one. -/
theorem images_run :
    (step.run container).images[index]? = container.images[index]?.map (step.onImage index) := by
  cases step with
  | enhance enhancer => rw [run, Enhancer.images_enhance, List.getElem?_map]; rfl
  | remount => rw [run, Container.mount_html hcontainer, Container.images_remounted,
      List.getElem?_map]; rfl
  | setClickHandler image handler =>
    rw [run, (container.views_modifyImage _ _).2.2, List.getElem?_modify]; rfl
  | copyCode block => exact Option.map_id'.symm
  | clickImage image => exact Option.map_id'.symm
  | _ =>
    rw [run, (container.views_modifyCode _ _).2.2]
    exact Option.map_id'.symm

theorem blocks_run : (step.run container).blocks = container.blocks := by
  apply List.ext_getElem?
  intro index
  rw [Container.blocks, Container.blocks, List.getElem?_map, List.getElem?_map,
    step.codes_run index hcontainer, Option.map_map]
  exact congrArg (Option.map · _) (funext (step.block_onCode index))

/-- **A step that shows faithful markup only keeps a container readable.** -/
theorem readable_run (hstep : step.Honest container.blocks) : (step.run container).Readable := by
  cases hremount : step.isRemount with
  | true =>
    cases step <;> cases hremount
    rw [run, Container.mount_html hcontainer]
    exact hcontainer.remounted
  | false =>
    obtain ⟨hmarkups, hcodes, himages⟩ := Container.readable_iff.1 hcontainer
    refine Container.readable_iff.2 ⟨?_, fun code hcode => ?_, fun image himage => ?_⟩
    · rwa [step.markups_run hremount]
    · obtain ⟨index, hindex⟩ := List.getElem?_of_mem hcode
      rw [step.codes_run index hcontainer] at hindex
      obtain ⟨before, hbefore, rfl⟩ := Option.map_eq_some_iff.1 hindex
      refine step.readable_onCode index hstep ?_ (hcodes _ (List.mem_of_getElem? hbefore))
      rw [Container.blocks, List.getElem?_map, hbefore, Option.map_some]
    · obtain ⟨index, hindex⟩ := List.getElem?_of_mem himage
      rw [step.images_run index hcontainer] at hindex
      obtain ⟨before, hbefore, rfl⟩ := Option.map_eq_some_iff.1 hindex
      exact step.readable_onImage index (himages _ (List.mem_of_getElem? hbefore))

end Element

end Step

/-! ### What a run does to one element -/

/-- When every step sets what is seen of an element, or takes it away, or leaves it, what was set
last and not taken away is seen after a history, given with the last step first. -/
theorem view_foldr {α β : Type} (view : β → Option η) {change : α → β → β} {resets : α → Bool}
    {sets? : α → Option η}
    (hchange : ∀ step element, view (change step element) =
      if resets step then none else (sets? step).or (view element))
    {element : β} (helement : view element = none) {history : List α} :
    view (history.foldr change element) = (history.takeWhile (!resets ·)).findSome? sets? := by
  induction history with
  | nil => exact helement
  | cons step history ih =>
    rw [List.foldr_cons, hchange, ih, List.takeWhile_cons]
    cases resets step with
    | true => rfl
    | false =>
      rw [if_neg Bool.false_ne_true, Bool.not_false, if_pos rfl, List.findSome?_cons]
      cases sets? step <;> rfl

section Run

variable (steps : List (Step η)) (index : Nat)

/-- The code block with a number after steps. -/
def codeAfter (code : CodeElement η) : CodeElement η :=
  steps.foldl (fun code step => step.onCode index code) code

/-- The image with a number after steps. -/
def imageAfter (image : ImageElement η) : ImageElement η :=
  steps.foldl (fun image step => step.onImage index image) image

theorem block_codeAfter (code : CodeElement η) :
    (codeAfter steps index code).block = code.block := by
  induction steps generalizing code with
  | nil => rfl
  | cons step steps ih => exact (ih _).trans (step.block_onCode index code)

theorem source_imageAfter (image : ImageElement η) :
    (imageAfter steps index image).source = image.source := by
  induction steps generalizing image with
  | nil => rfl
  | cons step steps ih => exact (ih _).trans (step.source_onImage index image)

/-- A code block without a handler gets the one attached last since the latest mount. -/
theorem onCopy_codeAfter {code : CodeElement η} (hcode : code.onCopy = none) :
    (codeAfter steps index code).onCopy = copyHandler? index steps := by
  rw [codeAfter, List.foldl_eq_foldr_reverse]
  exact view_foldr CodeElement.onCopy (fun step => step.onCopy_onCode index) hcode

/-- An image without a handler gets the one attached last since the latest mount. -/
theorem onClick_imageAfter {image : ImageElement η} (himage : image.onClick = none) :
    (imageAfter steps index image).onClick = clickHandler? index steps := by
  rw [imageAfter, List.foldl_eq_foldr_reverse]
  exact view_foldr ImageElement.onClick (fun step => step.onClick_onImage index) himage

variable {container : Container η} (hcontainer : container.Readable)
  (hsteps : ∀ step ∈ steps, step.Honest container.blocks)

include hcontainer hsteps

/-- **A run changes the elements one by one**, as its steps do. -/
theorem elements_run :
    (run steps container).codes[index]? = container.codes[index]?.map (codeAfter steps index) ∧
      (run steps container).images[index]? =
        container.images[index]?.map (imageAfter steps index) := by
  induction steps generalizing container with
  | nil => exact ⟨Option.map_id'.symm, Option.map_id'.symm⟩
  | cons step steps ih =>
    obtain ⟨hstep, hrest⟩ := List.forall_mem_cons.1 hsteps
    -- The later steps are honest about the same code blocks, which the first leaves as they are.
    rw [← step.blocks_run hcontainer] at hrest
    obtain ⟨hcodes, himages⟩ := ih (step.readable_run hcontainer hstep) hrest
    rw [step.codes_run index hcontainer, Option.map_map] at hcodes
    rw [step.images_run index hcontainer, Option.map_map] at himages
    exact ⟨hcodes, himages⟩

theorem blocks_run : (run steps container).blocks = container.blocks := by
  apply List.ext_getElem?
  intro index
  rw [Container.blocks, Container.blocks, List.getElem?_map, List.getElem?_map,
    (elements_run steps index hcontainer hsteps).1, Option.map_map]
  exact congrArg (Option.map · _) (funext (block_codeAfter steps index))

theorem addresses_run : (run steps container).addresses = container.addresses := by
  apply List.ext_getElem?
  intro index
  rw [Container.addresses, Container.addresses, List.getElem?_map, List.getElem?_map,
    (elements_run steps index hcontainer hsteps).2, Option.map_map]
  exact congrArg (Option.map · _) (funext (source_imageAfter steps index))

theorem copyCode?_run (hplain : ∀ code ∈ container.codes, code.onCopy = none) :
    (run steps container).copyCode? index =
      container.blocks[index]?.bind fun block => (copyHandler? index steps).map (·, block.2) := by
  rw [Container.copyCode?, (elements_run steps index hcontainer hsteps).1, Container.blocks,
    List.getElem?_map]
  cases hcode : container.codes[index]? with
  | none => rfl
  | some code =>
    have hsource : (codeAfter steps index code).source = code.source :=
      congrArg Prod.snd (block_codeAfter steps index code)
    have hcopy := onCopy_codeAfter steps index (hplain code (List.mem_of_getElem? hcode))
    simp only [Option.map_some, Option.bind_some, CodeElement.copy?, hsource, hcopy,
      CodeElement.block]

theorem clickImage?_run (hplain : ∀ image ∈ container.images, image.onClick = none) :
    (run steps container).clickImage? index =
      container.addresses[index]?.bind fun address =>
        (clickHandler? index steps).map (·, address) := by
  rw [Container.clickImage?, (elements_run steps index hcontainer hsteps).2, Container.addresses,
    List.getElem?_map]
  cases himage : container.images[index]? with
  | none => rfl
  | some image =>
    have hclick := onClick_imageAfter steps index (hplain image (List.mem_of_getElem? himage))
    simp only [Option.map_some, Option.bind_some, ImageElement.click?, source_imageAfter, hclick]

end Run

/-! ### Mounted documents -/

/-- **A run of a mounted document keeps code and addresses, and runs the handlers attached last.**
After any steps that show faithful markup only, the languages and codes of the code blocks and the
addresses of the images are those of the first mount. Copying a code block runs the handler that was
attached to it last since the latest mount, with the code of the block; no handler is run when none
was attached since then or there is no such block. Clicking an image does the same with its
address. -/
theorem run_mount_compile (renderer : Renderer) (root : Node) (headings : Headings)
    (steps : List (Step η))
    (hsteps : ∀ step ∈ steps,
      step.Honest (Container.mount (η := η) (compile renderer root headings).1).blocks) :
    let start : Container η := Container.mount (compile renderer root headings).1
    let container := run steps start
    container.blocks = start.blocks ∧ container.addresses = start.addresses ∧
      (∀ index, container.copyCode? index =
        start.blocks[index]?.bind fun block => (copyHandler? index steps).map (·, block.2)) ∧
      ∀ index, container.clickImage? index =
        start.addresses[index]?.bind fun address =>
          (clickHandler? index steps).map (·, address) := by
  obtain ⟨-, hcodes, himages⟩ := (cuts_compile (η := η) renderer root headings).mount
  have hreadable := (cuts_compile (η := η) renderer root headings).readable_mount
  have hcopies : ∀ code ∈ (Container.mount (η := η) (compile renderer root headings).1).codes,
      code.onCopy = none := by
    rw [hcodes]
    exact List.forall_mem_map.2 fun _ _ => rfl
  have hclicks : ∀ image ∈ (Container.mount (η := η) (compile renderer root headings).1).images,
      image.onClick = none := by
    rw [himages]
    exact List.forall_mem_map.2 fun _ _ => rfl
  exact ⟨blocks_run steps hreadable hsteps, addresses_run steps hreadable hsteps,
    fun index => copyCode?_run steps index hreadable hsteps hcopies,
    fun index => clickImage?_run steps index hreadable hsteps hclicks⟩

/-- The hypothesis of `run_mount_compile` holds of a run that highlights one of two code blocks,
attaches handlers and mounts again. The highlighter refuses the other block, and of the languages in
the document all can stand in the class of a span. -/
theorem run_mount_span :
    let root := Node.branch .document
      [Node.codeOf (some "rust") "a < b", Node.codeOf (some "lua") "x < y"]
    let start : Container Nat := Container.mount (compile {} root {}).1
    let steps : List (Step Nat) :=
      [.setCopyHandler 0 1, .remount,
        .enhance { highlighter := some spanHighlighter, onCodeCopy := some 2 }, .copyCode 0]
    let container := run steps start
    (∀ step ∈ steps, step.Honest start.blocks) ∧
      container.blocks = start.blocks ∧ container.addresses = start.addresses ∧
      (∀ index, container.copyCode? index =
        start.blocks[index]?.bind fun block => (copyHandler? index steps).map (·, block.2)) ∧
      ∀ index, container.clickImage? index =
        start.addresses[index]?.bind fun address =>
          (clickHandler? index steps).map (·, address) := by
  intro root start steps container
  have hnames : ∀ block ∈ start.blocks, ScopeName block.1 := by
    have hblocks : start.blocks = [("rust", "a < b"), ("lua", "x < y")] := by decide +kernel
    rw [hblocks, List.forall_mem_cons, List.forall_mem_singleton]
    exact ⟨⟨by decide, by decide⟩, by decide, by decide⟩
  have hhonest : ∀ step ∈ steps, step.Honest start.blocks := by
    simp only [steps, List.forall_mem_cons, Step.Honest, true_and, List.not_mem_nil, false_implies,
      implies_true, and_true]
    rintro highlighter hhighlighter language source hblock - markup hok
    obtain rfl := Option.mem_some_iff.1 hhighlighter
    exact faithful_spanHighlighter (hnames _ hblock) hok
  exact ⟨hhonest, run_mount_compile _ _ _ steps hhonest⟩

end Folio
