import Folio.Proofs.ParsedElements

/-!
# Mounting what was mounted before

Any markup can be mounted, also markup with tags that are not closed, quotation marks that have no
partner or tags inside of code. The markup that is written back has every element in its own form
and keeps the rest, character by character. Mounted again, it falls into the same pieces: each
element is read back, and nothing that was passed over the first time is taken for an element
now, although an element behind it may have changed.

The second half needs an argument. A code block that was passed over lacks the end of its class or
its own end, and what is written behind it supplies neither. No element in its own form has an angle
bracket behind its first quotation mark, where a class would end; and an end of a code block that is
written stands in the markup as well, since it belongs to a code block that was there.

## Main definitions

* `Folio.Rewrites`: markup and what is written for it.
* `Folio.Steady`: a word that no element can begin in.

## Main results

* `Folio.Rewrites.of_append`: a word in what is written stands in the markup as well.
* `Folio.Rewrites.startsElement`: an element that starts in what is written starts in the markup.
* `Folio.mount_html_mount`: mounting what was written for mounted markup changes nothing.
-/

namespace Folio

open Text Html

variable {η : Type}

/-! ### What is written for markup -/

/-- Markup and what is written for it: elements in their own form, all else as it is. -/
inductive Rewrites (η : Type) : List Char → List Char → Prop
  | nil : Rewrites η [] []
  | plain {c : Char} {cs ds : List Char} (hstart : ¬ StartsElement (c :: cs)) :
      Rewrites η cs ds → Rewrites η (c :: cs) (c :: ds)
  | code {value content cs ds : List Char} (marked : Bool) (hvalue : '"' ∉ value)
      (hcontent : ¬ "</code></pre>".toList <:+: content) : Rewrites η cs ds →
      Rewrites η (codeSpelling marked value content ++ cs)
        ((CodeElement.ofMarkup value content : CodeElement η).html.toList ++ ds)
  | image {markup cs ds : List Char} (hclose : '>' ∉ markup)
      (hhead : ∀ c ∈ markup.head?, isWord c = false)
      (hmarkup : ¬ zoomableMarker.toList <:+: markup) : Rewrites η cs ds →
      Rewrites η ("<img".toList ++ (markup ++ '>' :: cs))
        ((ImageElement.ofMarkup markup : ImageElement η).html.toList ++ ds)

theorem element?_codeSpelling {value content : List Char} (hvalue : '"' ∉ value)
    (hcontent : ¬ "</code></pre>".toList <:+: content) (marked : Bool) (rest : List Char) :
    element? (η := η) (codeSpelling marked value content ++ rest) =
      some (.code (.ofMarkup value content), rest) := by
  rw [element?, codeMarkup?_eq_some.2 ⟨marked, rfl, hvalue, hcontent⟩]

theorem element?_imageSpelling {markup : List Char} (hclose : '>' ∉ markup)
    (hhead : ∀ c ∈ markup.head?, isWord c = false) (rest : List Char) :
    element? (η := η) ("<img".toList ++ (markup ++ '>' :: rest)) =
      some (.image (.ofMarkup markup), rest) := by
  have hcode : codeMarkup? ("<img".toList ++ (markup ++ '>' :: rest)) = none := by
    simp [codeMarkup?, dropWord?]
  rw [element?, hcode, imageMarkup?_eq_some.2 ⟨rfl, hclose, hhead⟩]
  rfl

theorem suffix_imageSpelling (markup cs : List Char) :
    cs <:+ "<img".toList ++ (markup ++ '>' :: cs) :=
  ((List.suffix_cons '>' cs).trans (List.suffix_append markup _)).trans (List.suffix_append _ _)

/-! ### Writing mounted markup -/

/-- **Induction along a scan.** A scan passes over a character at which no element starts, and goes
on behind a code block or an image. -/
@[elab_as_elim]
theorem scan_induction {P : List Char → Prop} (nil : P [])
    (plain : ∀ c cs, ¬ StartsElement (c :: cs) → P cs → P (c :: cs))
    (code : ∀ marked value content cs, '"' ∉ value → ¬ "</code></pre>".toList <:+: content →
      P cs → P (codeSpelling marked value content ++ cs))
    (image : ∀ markup cs, '>' ∉ markup → (∀ c ∈ markup.head?, isWord c = false) →
      P cs → P ("<img".toList ++ (markup ++ '>' :: cs)))
    (cs : List Char) : P cs := by
  induction hn : cs.length using Nat.strong_induction_on generalizing cs with
  | _ n ih =>
    subst hn
    by_cases hstart : StartsElement cs
    · rcases hstart with hcode | himage
      · obtain ⟨⟨⟨value, content⟩, rest⟩, hfound⟩ := Option.isSome_iff_exists.1 hcode
        have hrest := ih _ (length_codeMarkup? hfound) rest rfl
        obtain ⟨marked, rfl, hvalue, hcontent⟩ := codeMarkup?_eq_some.1 hfound
        exact code marked value content rest hvalue hcontent hrest
      · obtain ⟨⟨markup, rest⟩, hfound⟩ := Option.isSome_iff_exists.1 himage
        have hrest := ih _ (length_imageMarkup? hfound) rest rfl
        obtain ⟨rfl, hclose, hhead⟩ := imageMarkup?_eq_some.1 hfound
        exact image markup rest hclose hhead hrest
    · cases cs with
      | nil => exact nil
      | cons c cs => exact plain c cs hstart (ih _ (Nat.lt_succ_self _) cs rfl)

/-- **What is written for mounted markup.** -/
theorem rewrites_html (cs : List Char) (hcs : ¬ zoomableMarker.toList <:+: cs)
    (plain : List Char) : ∃ ds, Rewrites η cs ds ∧
      (Container.html (⟨segmentsFrom plain cs⟩ : Container η)).toList = plain.reverse ++ ds := by
  induction cs using scan_induction generalizing plain with
  | nil =>
    refine ⟨[], .nil, ?_⟩
    rw [segmentsFrom_nil, Container.html_markupSegment, String.toList_ofList, List.append_nil]
  | plain c cs hstart ih =>
    obtain ⟨ds, hds, hhtml⟩ := ih (fun h => hcs (List.infix_cons h)) (c :: plain)
    refine ⟨c :: ds, .plain hstart hds, ?_⟩
    rw [segmentsFrom_cons (element?_eq_none hstart), hhtml, List.reverse_cons, List.append_assoc,
      List.singleton_append]
  | code marked value content cs hvalue hcontent ih =>
    obtain ⟨ds, hds, hhtml⟩ :=
      ih (fun h => hcs (h.trans (List.suffix_append _ _).isInfix)) []
    refine ⟨_, .code marked hvalue hcontent hds, ?_⟩
    rw [segmentsFrom_element (element?_codeSpelling hvalue hcontent marked cs),
      Container.html_append, Container.html_markupSegment, Container.html_cons]
    simp [hhtml, Segment.html]
  | image markup cs hclose hhead ih =>
    have hmarkup : ¬ zoomableMarker.toList <:+: markup := fun h => hcs <| h.trans <|
      (List.prefix_append markup _).isInfix.trans (List.suffix_append _ _).isInfix
    obtain ⟨ds, hds, hhtml⟩ :=
      ih (fun h => hcs (h.trans (suffix_imageSpelling markup cs).isInfix)) []
    refine ⟨_, .image hclose hhead hmarkup hds, ?_⟩
    rw [segmentsFrom_element (element?_imageSpelling hclose hhead cs),
      Container.html_append, Container.html_markupSegment, Container.html_cons]
    simp [hhtml, Segment.html]

/-! ### Words in what is written -/

/-- A word that no element begins in: behind an angle bracket it goes on otherwise than any element
does. -/
def Steady : List Char → Prop
  | [] => True
  | c :: cs => (c = '<' → cs ≠ [] ∧ cs.head? ≠ some 'p' ∧ cs.head? ≠ some 'i') ∧ Steady cs

instance decidableSteady : DecidablePred Steady
  | [] => .isTrue trivial
  | c :: cs =>
    have : Decidable (Steady cs) := decidableSteady cs
    inferInstanceAs (Decidable
      ((c = '<' → cs ≠ [] ∧ cs.head? ≠ some 'p' ∧ cs.head? ≠ some 'i') ∧ Steady cs))

namespace Rewrites

variable {cs ds : List Char}

/-- What is written begins as the markup does. -/
theorem head?_eq (h : Rewrites η cs ds) : ds.head? = cs.head? := by
  cases h with
  | nil | plain => rfl
  | @code value content cs ds marked =>
    obtain ⟨rest, hhtml⟩ :=
      CodeElement.exists_toList_html (CodeElement.onCopy_ofMarkup (η := η) value content)
    simp [hhtml, codeSpelling]
  | image => simp [ImageElement.toList_html_ofMarkup]

/-- A character at which no element begins was there before. -/
theorem of_cons {c : Char} (hc : c = '<' → ds.head? ≠ some 'p' ∧ ds.head? ≠ some 'i')
    (h : Rewrites η cs (c :: ds)) : ∃ rest, cs = c :: rest ∧ Rewrites η rest ds := by
  generalize hall : c :: ds = all at h
  cases h with
  | nil => cases hall
  | plain hstart hrest =>
    obtain ⟨rfl, rfl⟩ := List.cons.inj hall
    exact ⟨_, rfl, hrest⟩
  | @code value content cs after marked =>
    obtain ⟨rest, hhtml⟩ :=
      CodeElement.exists_toList_html (CodeElement.onCopy_ofMarkup (η := η) value content)
    have hbegin : ∃ others, c :: ds = '<' :: 'p' :: others := ⟨_, by rw [hall, hhtml]; rfl⟩
    obtain ⟨others, hothers⟩ := hbegin
    obtain ⟨rfl, rfl⟩ := List.cons.inj hothers
    exact absurd rfl (hc rfl).1
  | @image markup cs after =>
    have hbegin : ∃ others, c :: ds = '<' :: 'i' :: others :=
      ⟨_, by rw [hall, ImageElement.toList_html_ofMarkup]; rfl⟩
    obtain ⟨others, hothers⟩ := hbegin
    obtain ⟨rfl, rfl⟩ := List.cons.inj hothers
    exact absurd rfl (hc rfl).2

/-- **A word that no element begins in** stands in the markup where it stands in what is written. -/
theorem of_append {word : List Char} (hword : Steady word) (h : Rewrites η cs (word ++ ds)) :
    ∃ rest, cs = word ++ rest ∧ Rewrites η rest ds := by
  induction word generalizing cs with
  | nil => exact ⟨cs, rfl, h⟩
  | cons c word ih =>
    obtain ⟨hc, hword⟩ := hword
    have hnext : c = '<' → (word ++ ds).head? ≠ some 'p' ∧ (word ++ ds).head? ≠ some 'i' := by
      intro hopen
      obtain ⟨hmore, hother⟩ := hc hopen
      rw [List.head?_append_of_ne_nil word hmore]
      exact hother
    obtain ⟨rest, rfl, hrest⟩ := of_cons hnext h
    obtain ⟨after, rfl, hafter⟩ := ih hword hrest
    exact ⟨after, rfl, hafter⟩

/-- An angle bracket that ends a tag stands in the markup already. -/
theorem mem_close (h : Rewrites η cs ds) (hds : '>' ∈ ds) : '>' ∈ cs := by
  induction h with
  | nil => exact hds
  | plain hstart hrest ih =>
    rcases List.mem_cons.1 hds with rfl | hmem
    · exact List.mem_cons_self
    · exact List.mem_cons_of_mem _ (ih hmem)
  | code marked => simp [codeSpelling]
  | image => simp

/-- **An end of a code block** stands in the markup already. -/
theorem closing_of_written (h : Rewrites η cs ds) (hds : "</code></pre>".toList <:+: ds) :
    "</code></pre>".toList <:+: cs := by
  induction h with
  | nil => exact hds
  | @plain c cs ds hstart hrest ih =>
    rcases List.infix_cons_iff.1 hds with ⟨after, hafter⟩ | hmem
    · have hall : Rewrites η (c :: cs) ("</code></pre>".toList ++ after) :=
        hafter ▸ .plain hstart hrest
      obtain ⟨rest, hsame, -⟩ := of_append (by decide) hall
      rw [hsame]
      exact (List.prefix_append _ _).isInfix
    · exact List.infix_cons (ih hmem)
  | @code value content cs ds marked =>
    have hend : codeSpelling marked value content ++ cs =
        ("<pre".toList ++ ((if marked then copyableMarker.toList else []) ++
          ("><code class=\"".toList ++ (value ++ ("\"".toList ++ (">".toList ++ content)))))) ++
            "</code></pre>".toList ++ cs := by
      simp only [codeSpelling, List.append_assoc]
    exact ⟨_, _, hend.symm⟩
  | @image markup cs ds hclose hhead hmarkup hrest ih =>
    have hbehind := ih (ImageElement.closing_of_html_append hclose hmarkup hds)
    exact hbehind.trans (suffix_imageSpelling markup cs).isInfix

/-- **The end of a class**, a quotation mark and an angle bracket, stands in the markup already. If
the mark is the first in what is written, it is the first there. -/
theorem of_value {value : List Char} (hvalue : '"' ∉ value)
    (h : Rewrites η cs (value ++ '"' :: '>' :: ds)) :
    ∃ before rest, cs = before ++ '"' :: '>' :: rest ∧ '"' ∉ before ∧ Rewrites η rest ds := by
  generalize hall : value ++ '"' :: '>' :: ds = all at h
  induction h generalizing value with
  | nil => simp at hall
  | @plain c cs after hstart hrest ih =>
    cases value with
    | nil =>
      obtain ⟨rfl, rfl⟩ := List.cons.inj hall
      obtain ⟨rest, rfl, hbehind⟩ := of_cons (fun h => absurd h (by decide)) hrest
      exact ⟨[], rest, rfl, List.not_mem_nil, hbehind⟩
    | cons d value =>
      obtain ⟨rfl, htail⟩ := List.cons.inj hall
      obtain ⟨hd, hvalue⟩ := List.ne_and_not_mem_of_not_mem_cons hvalue
      obtain ⟨before, rest, rfl, hbefore, hbehind⟩ := ih hvalue htail
      exact ⟨d :: before, rest, rfl, List.not_mem_cons_of_ne_of_not_mem hd hbefore, hbehind⟩
  | @code name content cs after marked =>
    exact absurd hall.symm
      (CodeElement.html_append_ne (CodeElement.onCopy_ofMarkup name content) hvalue after ds)
  | @image markup cs after hclose hhead hmarkup hrest ih =>
    obtain ⟨hquote, tail, hsplit, hbehind⟩ :=
      ImageElement.exists_of_html_append hclose hmarkup hvalue hall.symm
    rw [hsplit] at hvalue
    have htail : '"' ∉ tail := fun hmem => hvalue (List.mem_append_right _ hmem)
    obtain ⟨before, rest, rfl, hbefore, hrest⟩ := ih htail hbehind.symm
    refine ⟨"<img".toList ++ (markup ++ '>' :: before), rest, by simp, ?_, hrest⟩
    simp [hquote, hbefore]

end Rewrites

/-! ### Mounting again -/

/-- **An element that starts in what is written** starts in the markup, where nothing else was
passed over before it. -/
theorem Rewrites.startsElement {c : Char} {cs ds : List Char} (h : Rewrites η cs ds)
    (hstart : StartsElement (c :: ds)) : StartsElement (c :: cs) := by
  rcases hstart with hcode | himage
  · obtain ⟨marked, value, rest, hds, hvalue, hend⟩ := isSome_codeMarkup?.1 hcode
    have htag : ∀ marked : Bool, Steady ("pre".toList ++
        ((if marked then copyableMarker.toList else []) ++ "><code class=\"".toList)) := by
      decide
    have hspelled : c :: ds = '<' :: ("pre".toList ++
        ((if marked then copyableMarker.toList else []) ++ "><code class=\"".toList) ++
          (value ++ '"' :: '>' :: rest)) := by
      rw [hds]
      simp
    obtain ⟨rfl, rfl⟩ := List.cons.inj hspelled
    obtain ⟨after, rfl, hafter⟩ := h.of_append (htag marked)
    obtain ⟨before, content, rfl, hbefore, hcontent⟩ := hafter.of_value hvalue
    refine .inl (isSome_codeMarkup?.2 ⟨marked, before, content, ?_, hbefore,
      hcontent.closing_of_written hend⟩)
    simp
  · obtain ⟨rest, hds, hhead, hclose⟩ := isSome_imageMarkup?.1 himage
    have hspelled : c :: ds = '<' :: ("img".toList ++ rest) := by
      rw [hds]
      simp
    obtain ⟨rfl, rfl⟩ := List.cons.inj hspelled
    obtain ⟨after, rfl, hafter⟩ := h.of_append (by decide)
    refine .inr (isSome_imageMarkup?.2 ⟨after, by simp, ?_, hafter.mem_close hclose⟩)
    rw [← hafter.head?_eq]
    exact hhead

/-- **What is written falls into the same pieces.** -/
theorem Rewrites.segmentsFrom_eq {cs ds : List Char} (h : Rewrites η cs ds) (plain : List Char) :
    segmentsFrom (η := η) plain ds = segmentsFrom plain cs := by
  induction h generalizing plain with
  | nil => rfl
  | @plain c cs ds hstart hrest ih =>
    have hnone : ¬ StartsElement (c :: ds) := fun hagain => hstart (hrest.startsElement hagain)
    rw [segmentsFrom_cons (element?_eq_none hnone), segmentsFrom_cons (element?_eq_none hstart), ih]
  | @code value content cs ds marked hvalue hcontent hrest ih =>
    have hreadable := CodeElement.readable_ofMarkup (η := η) hvalue hcontent
    rw [segmentsFrom_element (element?_code hreadable ds), CodeElement.unwired_ofMarkup,
      segmentsFrom_element (element?_codeSpelling hvalue hcontent marked cs), ih]
  | @image markup cs ds hclose hhead hmarkup hrest ih =>
    have hreadable := ImageElement.readable_ofMarkup (η := η) hclose hhead hmarkup
    rw [segmentsFrom_element (element?_image hreadable ds), ImageElement.unwired_ofMarkup,
      segmentsFrom_element (element?_imageSpelling hclose hhead cs), ih]

/-- **Mounting what was written for mounted markup changes nothing**, however malformed the markup
is, as long as the marker of an image with a handler stands nowhere in it: the pieces between the
elements and the elements are the same. So the markup that is written is written again. -/
theorem mount_html_mount (html : String) (hhtml : ¬ zoomableMarker.toList <:+: html.toList) :
    let container : Container η := .mount html
    Container.mount container.html = container ∧
      (Container.mount container.html : Container η).html = container.html := by
  obtain ⟨ds, hds, hwritten⟩ := rewrites_html (η := η) html.toList hhtml []
  have hsame : Container.mount (Container.mount html : Container η).html =
      (Container.mount html : Container η) := by
    refine congrArg Container.mk ?_
    rw [Container.mount, hwritten]
    exact hds.segmentsFrom_eq []
  exact ⟨hsame, congrArg Container.html hsame⟩

/-- A code block whose class does not end, with an image inside and a quotation mark behind it. -/
theorem mount_html_mount_unclosed :
    let html := "<pre><code class=\"x<img src=a/></code></pre>\""
    let container : Container Nat := .mount html
    ¬ zoomableMarker.toList <:+: html.toList ∧
      Container.mount container.html = container ∧
      (Container.mount container.html : Container Nat).html = container.html := by
  have hhtml : ¬ zoomableMarker.toList <:+:
      "<pre><code class=\"x<img src=a/></code></pre>\"".toList :=
    (occursIn_eq_false (by decide)).1 (by decide +kernel)
  exact ⟨hhtml, mount_html_mount _ hhtml⟩

end Folio
