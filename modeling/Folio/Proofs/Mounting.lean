import Folio.Proofs.ElementMarkup

/-!
# Mounting what a container writes

The markup of a container is mounted again. Where no element starts in the markup between its
elements, and each element can be read back, mounting finds exactly these elements; they have lost
their handlers, and neighbouring pieces of markup have become one.

## Main definitions

* `Folio.StartsElement`: whether an element starts at the beginning of markup.
* `Folio.Segment.Readable`, `Folio.Container.Readable`: what can be read back from its markup.
* `Folio.Container.remounted`: the container that is read back.
* `Folio.Cuts`: markup that consists of certain code blocks and images with other markup between.

## Main results

* `Folio.Container.mount_html`: mounting the markup of a readable container gives the remounted one.
* `Folio.Cuts.mount`: markup that is known to be cut in a certain way is mounted in that way.
-/

namespace Folio

open Text Html

variable {η : Type}

/-! ### Scanning markup -/

/-- Whether an element starts at the beginning of markup. -/
def StartsElement (cs : List Char) : Prop := (codeMarkup? cs).isSome ∨ (imageMarkup? cs).isSome

theorem element?_eq_none {cs : List Char} (hcs : ¬ StartsElement cs) :
    element? (η := η) cs = none := by
  obtain ⟨hcode, himage⟩ := not_or.1 hcs
  rw [element?, Option.not_isSome_iff_eq_none.1 hcode, Option.not_isSome_iff_eq_none.1 himage]
  rfl

theorem segmentsFrom_nil (plain : List Char) :
    segmentsFrom (η := η) plain [] = markupSegment plain.reverse := by
  rw [segmentsFrom]

theorem segmentsFrom_cons {c : Char} {cs : List Char} (hcs : element? (η := η) (c :: cs) = none)
    (plain : List Char) :
    segmentsFrom (η := η) plain (c :: cs) = segmentsFrom (c :: plain) cs := by
  rw [segmentsFrom]
  split
  · rename_i found
    rw [hcs] at found
    cases found
  · rfl

theorem segmentsFrom_element {cs rest : List Char} {segment : Segment η}
    (hcs : element? cs = some (segment, rest)) (plain : List Char) :
    segmentsFrom plain cs = markupSegment plain.reverse ++ segment :: segmentsFrom [] rest := by
  cases cs with
  | nil => exact absurd (length_element? hcs) (Nat.not_lt_zero _)
  | cons c cs =>
    rw [segmentsFrom]
    split
    · rename_i found
      rw [hcs] at found
      obtain ⟨rfl, rfl⟩ := Prod.mk.inj (Option.some.inj found)
      rfl
    · rename_i found
      rw [hcs] at found
      cases found

/-- Markup in which no element starts is passed over. -/
theorem segmentsFrom_append {cs rest : List Char} (hcs : Nowhere StartsElement cs rest)
    (plain : List Char) :
    segmentsFrom (η := η) plain (cs ++ rest) = segmentsFrom (cs.reverse ++ plain) rest := by
  induction cs generalizing plain with
  | nil => rfl
  | cons c cs ih =>
    obtain ⟨hstart, hcs⟩ := hcs
    rw [List.cons_append, segmentsFrom_cons (element?_eq_none hstart), ih hcs]
    simp

/-! ### Readable containers -/

/-- A segment that can be read back from its markup, whatever follows it. -/
def Segment.Readable : Segment η → Prop
  | markup text => ∀ rest, Nowhere StartsElement text.toList rest
  | code element => element.Readable
  | image element => element.Readable

/-- The segment with its element changed. -/
def Segment.change (onCode : CodeElement η → CodeElement η)
    (onImage : ImageElement η → ImageElement η) : Segment η → Segment η
  | markup text => .markup text
  | code element => .code (onCode element)
  | image element => .image (onImage element)

/-- The segment without the handler of its element. -/
def Segment.unwired (segment : Segment η) : Segment η :=
  segment.change CodeElement.unwired ImageElement.unwired

namespace Container

/-- The pieces of a container can be read back from their markup. -/
def Readable (container : Container η) : Prop :=
  ∀ segment ∈ container.segments, segment.Readable

/-- The segments that are read back, after characters that start no element, the latest first. -/
def remount (plain : List Char) : List (Segment η) → List (Segment η)
  | [] => markupSegment plain.reverse
  | .markup text :: rest => remount (text.toList.reverse ++ plain) rest
  | .code element :: rest =>
    markupSegment plain.reverse ++ .code element.unwired :: remount [] rest
  | .image element :: rest =>
    markupSegment plain.reverse ++ .image element.unwired :: remount [] rest

/-- The container that is read back from the markup of a container. -/
def remounted (container : Container η) : Container η := ⟨remount [] container.segments⟩

section Views

variable (segment : Segment η) (segments : List (Segment η))

theorem html_nil : html (⟨[]⟩ : Container η) = "" := rfl

theorem html_cons : html ⟨segment :: segments⟩ = segment.html ++ html ⟨segments⟩ := rfl

theorem codes_cons_code (element : CodeElement η) :
    codes ⟨.code element :: segments⟩ = element :: codes ⟨segments⟩ := rfl

theorem codes_cons_image (element : ImageElement η) :
    codes ⟨.image element :: segments⟩ = codes ⟨segments⟩ := rfl

theorem codes_cons_markup (text : String) :
    codes (⟨.markup text :: segments⟩ : Container η) = codes ⟨segments⟩ := rfl

theorem images_cons_code (element : CodeElement η) :
    images ⟨.code element :: segments⟩ = images ⟨segments⟩ := rfl

theorem images_cons_image (element : ImageElement η) :
    images ⟨.image element :: segments⟩ = element :: images ⟨segments⟩ := rfl

theorem images_cons_markup (text : String) :
    images (⟨.markup text :: segments⟩ : Container η) = images ⟨segments⟩ := rfl

variable (others : List (Segment η))

theorem html_append : html ⟨segments ++ others⟩ = html ⟨segments⟩ ++ html ⟨others⟩ := by
  induction segments with
  | nil => simp [html_nil]
  | cons segment segments ih => rw [List.cons_append, html_cons, html_cons, ih, String.append_assoc]

theorem codes_append : codes ⟨segments ++ others⟩ = codes ⟨segments⟩ ++ codes ⟨others⟩ :=
  List.filterMap_append

theorem images_append : images ⟨segments ++ others⟩ = images ⟨segments⟩ ++ images ⟨others⟩ :=
  List.filterMap_append

theorem codes_change (onCode : CodeElement η → CodeElement η)
    (onImage : ImageElement η → ImageElement η) :
    codes ⟨segments.map (Segment.change onCode onImage)⟩ = (codes ⟨segments⟩).map onCode := by
  induction segments with
  | nil => rfl
  | cons segment segments ih =>
    cases segment with
    | markup text => exact ih
    | code element => exact congrArg (onCode element :: ·) ih
    | image element => exact ih

theorem images_change (onCode : CodeElement η → CodeElement η)
    (onImage : ImageElement η → ImageElement η) :
    images ⟨segments.map (Segment.change onCode onImage)⟩ = (images ⟨segments⟩).map onImage := by
  induction segments with
  | nil => rfl
  | cons segment segments ih =>
    cases segment with
    | markup text => exact ih
    | code element => exact ih
    | image element => exact congrArg (onImage element :: ·) ih

theorem html_markupSegment (cs : List Char) :
    html (⟨markupSegment cs⟩ : Container η) = String.ofList cs := by
  cases cs with
  | nil => rfl
  | cons c cs => simp [markupSegment, html, Segment.html]

theorem codes_markupSegment (cs : List Char) : codes (⟨markupSegment cs⟩ : Container η) = [] := by
  cases cs <;> rfl

theorem images_markupSegment (cs : List Char) :
    images (⟨markupSegment cs⟩ : Container η) = [] := by
  cases cs <;> rfl

end Views

/-- Scanning the markup of readable segments finds them again. -/
theorem segmentsFrom_html {segments : List (Segment η)}
    (hsegments : ∀ segment ∈ segments, segment.Readable) (plain : List Char) :
    segmentsFrom plain (html ⟨segments⟩).toList = remount plain segments := by
  -- Neighbouring pieces of markup are read as one, so that what was read before is carried along.
  induction segments generalizing plain with
  | nil => exact segmentsFrom_nil plain
  | cons segment segments ih =>
    obtain ⟨hsegment, hrest⟩ := List.forall_mem_cons.1 hsegments
    rw [html_cons, String.toList_append]
    cases segment with
    | markup text =>
      rw [Segment.html, segmentsFrom_append (hsegment _), ih hrest, remount]
    | code element =>
      rw [Segment.html, segmentsFrom_element (element?_code hsegment _), ih hrest, remount]
    | image element =>
      rw [Segment.html, segmentsFrom_element (element?_image hsegment _), ih hrest, remount]

/-- **Mounting the markup of a readable container** gives its elements back, without handlers. -/
theorem mount_html {container : Container η} (hcontainer : container.Readable) :
    mount container.html = container.remounted := by
  rw [mount, remounted, ← segmentsFrom_html hcontainer]

/-! ### What is read back -/

theorem codes_remount (plain : List Char) (segments : List (Segment η)) :
    codes ⟨remount plain segments⟩ = (codes ⟨segments⟩).map CodeElement.unwired := by
  induction segments generalizing plain with
  | nil => exact codes_markupSegment _
  | cons segment segments ih =>
    cases segment with
    | markup text => rw [remount, ih, codes_cons_markup]
    | code element =>
      rw [remount, codes_append, codes_markupSegment, codes_cons_code, ih, codes_cons_code]
      rfl
    | image element =>
      rw [remount, codes_append, codes_markupSegment, codes_cons_image, ih, codes_cons_image]
      rfl

theorem images_remount (plain : List Char) (segments : List (Segment η)) :
    images ⟨remount plain segments⟩ = (images ⟨segments⟩).map ImageElement.unwired := by
  induction segments generalizing plain with
  | nil => exact images_markupSegment _
  | cons segment segments ih =>
    cases segment with
    | markup text => rw [remount, ih, images_cons_markup]
    | code element =>
      rw [remount, images_append, images_markupSegment, images_cons_code, ih, images_cons_code]
      rfl
    | image element =>
      rw [remount, images_append, images_markupSegment, images_cons_image, ih, images_cons_image]
      rfl

/-- The code blocks are read back in order. -/
theorem codes_remounted (container : Container η) :
    container.remounted.codes = container.codes.map CodeElement.unwired :=
  codes_remount [] container.segments

/-- The images are read back in order. -/
theorem images_remounted (container : Container η) :
    container.remounted.images = container.images.map ImageElement.unwired :=
  images_remount [] container.segments

theorem nowhere_nil (rest : List Char) : Nowhere StartsElement ([] : List Char).reverse rest :=
  trivial

/-- Segments that can be read back can be read back once more. -/
theorem readable_remount {plain : List Char}
    (hplain : ∀ rest, Nowhere StartsElement plain.reverse rest) {segments : List (Segment η)}
    (hsegments : ∀ segment ∈ segments, segment.Readable) :
    ∀ segment ∈ remount plain segments, segment.Readable := by
  have hmarkup {plain : List Char} (hplain : ∀ rest, Nowhere StartsElement plain.reverse rest) :
      ∀ segment ∈ markupSegment (η := η) plain.reverse, segment.Readable := by
    intro segment hsegment
    unfold markupSegment at hsegment
    split at hsegment
    · cases hsegment
    · rw [List.mem_singleton.1 hsegment]
      simpa [Segment.Readable] using hplain
  induction segments generalizing plain with
  | nil => exact hmarkup hplain
  | cons segment segments ih =>
    obtain ⟨hsegment, hrest⟩ := List.forall_mem_cons.1 hsegments
    cases segment with
    | markup text =>
      refine ih (fun rest => ?_) hrest
      rw [List.reverse_append, List.reverse_reverse, nowhere_append]
      exact ⟨hplain _, hsegment rest⟩
    | code element =>
      exact List.forall_mem_append.2 ⟨hmarkup hplain, List.forall_mem_cons.2
        ⟨hsegment.unwired, ih nowhere_nil hrest⟩⟩
    | image element =>
      exact List.forall_mem_append.2 ⟨hmarkup hplain, List.forall_mem_cons.2
        ⟨hsegment.unwired, ih nowhere_nil hrest⟩⟩

/-- A container that was read back can be read back once more. -/
theorem Readable.remounted {container : Container η} (hcontainer : container.Readable) :
    container.remounted.Readable :=
  readable_remount nowhere_nil hcontainer

/-- Changing the elements of what is read back comes to changing them before and without their
handlers. -/
theorem html_map_remount (onCode : CodeElement η → CodeElement η)
    (onImage : ImageElement η → ImageElement η) (plain : List Char)
    (segments : List (Segment η)) :
    html ⟨(remount plain segments).map (Segment.change onCode onImage)⟩ =
      String.ofList plain.reverse ++
        html ⟨segments.map fun segment => segment.unwired.change onCode onImage⟩ := by
  have hmarkup (plain : List Char) :
      (markupSegment plain.reverse).map (Segment.change onCode onImage) =
        markupSegment plain.reverse := by
    unfold markupSegment
    split <;> rfl
  induction segments generalizing plain with
  | nil => simp [remount, hmarkup, html_markupSegment, html_nil]
  | cons segment segments ih =>
    cases segment with
    | markup text =>
      rw [remount, ih, List.map_cons, html_cons, List.reverse_append, List.reverse_reverse,
        String.ofList_append, String.ofList_toList, String.append_assoc]
      rfl
    | code element =>
      rw [remount, List.map_append, List.map_cons, hmarkup, html_append, html_markupSegment,
        html_cons, ih, List.map_cons, html_cons]
      rfl
    | image element =>
      rw [remount, List.map_append, List.map_cons, hmarkup, html_append, html_markupSegment,
        html_cons, ih, List.map_cons, html_cons]
      rfl

end Container

/-! ### Markup cut into elements -/

/-- Markup that consists of certain code blocks and images, in order, all without handlers, with
markup between them in which no element starts. -/
def Cuts (html : String) (codes : List (CodeElement η)) (images : List (ImageElement η)) : Prop :=
  ∃ container : Container η, container.Readable ∧
    (∀ segment ∈ container.segments, segment.unwired = segment) ∧
    container.html = html ∧ container.codes = codes ∧ container.images = images

namespace Cuts

variable {html first rest : String} {codes others : List (CodeElement η)}
  {images pictures : List (ImageElement η)}

theorem singleton (segment : Segment η) (hreadable : segment.Readable)
    (hunwired : segment.unwired = segment) :
    Cuts segment.html (Container.codes ⟨[segment]⟩) (Container.images ⟨[segment]⟩) := by
  refine ⟨⟨[segment]⟩, List.forall_mem_singleton.2 hreadable,
    List.forall_mem_singleton.2 hunwired, ?_, rfl, rfl⟩
  rw [Container.html_cons, Container.html_nil, String.append_empty]

/-- Markup in which no element starts. -/
theorem markup {text : String} (htext : ∀ rest, Nowhere StartsElement text.toList rest) :
    Cuts (η := η) text [] [] :=
  singleton (.markup text) htext rfl

theorem code {element : CodeElement η} (hreadable : element.Readable)
    (hunwired : element.unwired = element) : Cuts element.html [element] [] :=
  singleton (.code element) hreadable (congrArg _ hunwired)

theorem image {element : ImageElement η} (hreadable : element.Readable)
    (hunwired : element.unwired = element) : Cuts element.html [] [element] :=
  singleton (.image element) hreadable (congrArg _ hunwired)

theorem append (hfirst : Cuts first codes images) (hrest : Cuts rest others pictures) :
    Cuts (first ++ rest) (codes ++ others) (images ++ pictures) := by
  obtain ⟨⟨segments⟩, hreadable, hunwired, rfl, rfl, rfl⟩ := hfirst
  obtain ⟨⟨more⟩, hmore, hothers, rfl, rfl, rfl⟩ := hrest
  exact ⟨⟨segments ++ more⟩, List.forall_mem_append.2 ⟨hreadable, hmore⟩,
    List.forall_mem_append.2 ⟨hunwired, hothers⟩, Container.html_append _ _,
    Container.codes_append _ _, Container.images_append _ _⟩

/-- **Markup that is known to be cut in a certain way is mounted in that way**, and written back
as it was. -/
theorem mount (hcuts : Cuts html codes images) :
    (Container.mount (η := η) html).html = html ∧
      (Container.mount (η := η) html).codes = codes ∧
      (Container.mount (η := η) html).images = images := by
  obtain ⟨container, hreadable, hunwired, rfl, rfl, rfl⟩ := hcuts
  have hsame : container.segments.map Segment.unwired = container.segments :=
    (List.map_congr_left hunwired).trans (List.map_id _)
  have hcodes : container.codes.map CodeElement.unwired = container.codes := by
    have hmap := Container.codes_change container.segments CodeElement.unwired ImageElement.unwired
    exact hmap.symm.trans (congrArg (fun segments => Container.codes ⟨segments⟩) hsame)
  have himages : container.images.map ImageElement.unwired = container.images := by
    have hmap := Container.images_change container.segments CodeElement.unwired ImageElement.unwired
    exact hmap.symm.trans (congrArg (fun segments => Container.images ⟨segments⟩) hsame)
  have hhtml : container.remounted.html = container.html := by
    have hmap := Container.html_map_remount id id [] container.segments
    have hid : (Segment.change id id : Segment η → Segment η) = id := by
      funext segment
      cases segment <;> rfl
    simp only [hid, List.map_id, id_eq, List.reverse_nil, String.ofList_nil,
      String.empty_append] at hmap
    exact hmap.trans (congrArg (fun segments => Container.html ⟨segments⟩) hsame)
  rw [Container.mount_html hreadable, Container.codes_remounted, Container.images_remounted]
  exact ⟨hhtml, hcodes, himages⟩

/-- What is mounted can be read back. -/
theorem readable_mount (hcuts : Cuts html codes images) :
    (Container.mount (η := η) html).Readable := by
  obtain ⟨container, hreadable, -, rfl, -, -⟩ := hcuts
  rw [Container.mount_html hreadable]
  exact hreadable.remounted

end Cuts

end Folio
