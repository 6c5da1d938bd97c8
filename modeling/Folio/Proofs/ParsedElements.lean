import Folio.Proofs.ImageAttributes
import Folio.Proofs.Mounting
import Mathlib.Data.List.DropRight
import Mathlib.Data.List.Infix

/-!
# Elements read from any markup

Markup that nobody has checked is mounted too. What is read off it as an element is still of a
certain form: the value of a class ends at the first quotation mark, a code block at its first end,
and an image at the first angle bracket. An element of this form is read back from the markup that
is written for it, whatever that markup was read from.

## Main results

* `Folio.codeMarkup?_eq_some`, `Folio.imageMarkup?_eq_some`: what is read as a code block, and what
  is read as an image.
* `Folio.CodeElement.readable_ofMarkup`, `Folio.ImageElement.readable_ofMarkup`: an element that was
  read from markup is read back from its own.
* `Folio.CodeElement.html_append_ne`, `Folio.ImageElement.exists_of_html_append`: the first
  quotation mark in the markup of an element does not end a class.
-/

namespace Folio

open Text Html

variable {η : Type}

/-! ### The first occurrence of a word -/

namespace Text

theorem occursIn_eq_false {word cs : List Char} (hword : word ≠ []) :
    occursIn word cs = false ↔ ¬ word <:+: cs := by
  induction cs with
  | nil => simp [occursIn, splitAt?, hword]
  | cons c cs ih => rw [occursIn_cons, ih, List.infix_cons_iff, not_or]

theorem nowhere_of_absent {word cs : List Char} (hcs : ¬ word <:+: cs) :
    Nowhere word.IsPrefix cs [] := by
  induction cs with
  | nil => trivial
  | cons c cs ih =>
    rw [List.infix_cons_iff, not_or] at hcs
    exact ⟨by rw [List.append_nil]; exact hcs.1, ih hcs.2⟩

/-- A text is cut at the first occurrence of a word, so that the part before has none. -/
theorem absent_of_splitAt? {word cs before after : List Char} (hword : word ≠ [])
    (h : splitAt? word cs = some (before, after)) : ¬ word <:+: before := by
  induction cs generalizing before with
  | nil =>
    simp only [splitAt?, List.isEmpty_iff, hword, if_false] at h
    cases h
  | cons c cs ih =>
    rw [splitAt?] at h
    split at h
    · obtain ⟨rfl, -⟩ := Prod.mk.inj (Option.some.inj h)
      simpa using hword
    · rename_i hstart
      obtain ⟨⟨first, last⟩, found, same⟩ := Option.map_eq_some_iff.1 h
      obtain ⟨rfl, rfl⟩ := Prod.mk.inj same
      rw [List.infix_cons_iff, not_or]
      refine ⟨fun hfirst => hstart ?_, ih found⟩
      rw [List.isPrefixOf_iff_prefix, splitAt?_eq_some found, ← List.cons_append]
      exact hfirst.trans (List.prefix_append _ _)

/-- A piece without a character ends before that character in another reading of the text. -/
theorem eq_append_of_notMem {c : Char} {piece after before rest : List Char} (hpiece : c ∉ piece)
    (h : piece ++ after = before ++ c :: rest) :
    ∃ tail, before = piece ++ tail ∧ after = tail ++ c :: rest := by
  induction piece generalizing before with
  | nil => exact ⟨before, rfl, h⟩
  | cons d piece ih =>
    obtain ⟨hd, hpiece⟩ := List.ne_and_not_mem_of_not_mem_cons hpiece
    cases before with
    | nil => exact absurd (List.head_eq_of_cons_eq h).symm hd
    | cons e before =>
      obtain ⟨rfl, htail⟩ := List.cons.inj h
      obtain ⟨tail, rfl, hafter⟩ := ih hpiece htail
      exact ⟨tail, rfl, hafter⟩

/-- A word does not start in a text that lacks one of its characters and is followed by a character
that the word lacks. -/
theorem nowhere_of_stop {word cs rest : List Char} {stop needed : Char} (hstop : stop ∉ word)
    (hneeded : needed ∈ word) (hcs : needed ∉ cs) :
    Nowhere word.IsPrefix cs (stop :: rest) := by
  induction cs with
  | nil => trivial
  | cons c cs ih =>
    refine ⟨fun h => ?_, ih (List.not_mem_of_not_mem_cons hcs)⟩
    rw [← List.cons_append] at h
    exact hcs ((prefix_of_prefix_append_cons hstop h).subset hneeded)

/-- A word that does not start in a piece of a text occurs behind it, if at all. -/
theorem infix_of_nowhere {word cs rest : List Char} (hcs : Nowhere word.IsPrefix cs rest)
    (h : word <:+: cs ++ rest) : word <:+: rest := by
  induction cs with
  | nil => exact h
  | cons c cs ih =>
    obtain ⟨hstart, hcs⟩ := hcs
    exact ih hcs ((List.infix_cons_iff.1 h).resolve_left hstart)

end Text

/-! ### The form of elements -/

/-- What is read as a code block. -/
theorem codeMarkup?_eq_some {cs value content rest : List Char} :
    codeMarkup? cs = some ((value, content), rest) ↔
      ∃ marked, cs = codeSpelling marked value content ++ rest ∧ '"' ∉ value ∧
        ¬ "</code></pre>".toList <:+: content := by
  constructor
  · intro h
    simp only [codeMarkup?, Option.bind_eq_bind, Option.bind_eq_some_iff, Prod.exists,
      Option.some.injEq, Prod.mk.injEq, dropWord?_eq_some] at h
    obtain ⟨tag, rfl, after, hafter, _, _, hvalue, _, rfl, _, _, hcontent, ⟨rfl, rfl⟩, rfl⟩ := h
    have hquote := absent_of_splitAt? (by decide) hvalue
    have hend := absent_of_splitAt? (by decide) hcontent
    rw [List.singleton_infix_iff] at hquote
    rw [splitAt?_eq_some hvalue, splitAt?_eq_some hcontent] at hafter
    cases hmarker : dropWord? copyableMarker.toList tag with
    | none =>
      rw [hmarker, Option.getD_none] at hafter
      refine ⟨false, ?_, hquote, hend⟩
      simp [codeSpelling, hafter]
    | some unmarked =>
      rw [hmarker, Option.getD_some] at hafter
      refine ⟨true, ?_, hquote, hend⟩
      simp [codeSpelling, dropWord?_eq_some.1 hmarker, hafter]
  · rintro ⟨marked, rfl, hvalue, hcontent⟩
    exact codeMarkup?_codeSpelling hvalue ((occursIn_eq_false (by decide)).2 hcontent) marked rest

/-- A tag that ends at once goes on without a letter, as a tag does that begins without one. -/
theorem head?_bracket {markup rest : List Char} :
    (∀ c ∈ (markup ++ '>' :: rest).head?, isWord c = false) ↔
      ∀ c ∈ markup.head?, isWord c = false := by
  cases markup with
  | nil =>
    have hbracket : isWord '>' = false := by decide +kernel
    simpa using hbracket
  | cons c others => simp

/-- What is read as an image. -/
theorem imageMarkup?_eq_some {cs markup rest : List Char} :
    imageMarkup? cs = some (markup, rest) ↔
      cs = "<img".toList ++ (markup ++ '>' :: rest) ∧ '>' ∉ markup ∧
        ∀ c ∈ markup.head?, isWord c = false := by
  constructor
  · intro h
    simp only [imageMarkup?, Option.bind_eq_bind, Option.bind_eq_some_iff, dropWord?_eq_some] at h
    obtain ⟨after, rfl, h⟩ := h
    split at h
    · cases h
    · rename_i hhead
      have hclose := absent_of_splitAt? (by decide) h
      rw [List.singleton_infix_iff] at hclose
      refine ⟨by rw [splitAt?_eq_some h]; rfl, hclose, fun c hc => ?_⟩
      obtain ⟨others, rfl⟩ := List.head?_eq_some_iff.1 hc
      simpa [splitAt?_eq_some h] using hhead
  · rintro ⟨rfl, hclose, hhead⟩
    have hdrop : dropWord? "<img".toList ("<img".toList ++ (markup ++ '>' :: rest)) =
        some (markup ++ '>' :: rest) :=
      dropWord?_eq_some.2 rfl
    have hword : ((markup ++ '>' :: rest).head?.map isWord).getD false = false := by
      have hchars : ∀ c ∈ (markup ++ '>' :: rest).head?, isWord c = false := head?_bracket.2 hhead
      cases hfirst : (markup ++ '>' :: rest).head? with
      | none => rfl
      | some c => exact hchars c hfirst
    rw [imageMarkup?, hdrop]
    simp only [Option.bind_eq_bind, Option.bind_some, hword]
    exact splitAt?_append (nowhere_of_notMem rfl hclose _)

/-- Where a code block starts. -/
theorem isSome_codeMarkup? {cs : List Char} : (codeMarkup? cs).isSome ↔
    ∃ (marked : Bool) (value rest : List Char), cs = "<pre".toList ++
      ((if marked then copyableMarker.toList else []) ++ ("><code class=\"".toList ++
        (value ++ '"' :: '>' :: rest))) ∧ '"' ∉ value ∧ "</code></pre>".toList <:+: rest := by
  constructor
  · intro h
    obtain ⟨⟨⟨value, content⟩, rest⟩, hfound⟩ := Option.isSome_iff_exists.1 h
    obtain ⟨marked, rfl, hvalue, -⟩ := codeMarkup?_eq_some.1 hfound
    refine ⟨marked, value, content ++ "</code></pre>".toList ++ rest, ?_, hvalue,
      ⟨content, rest, rfl⟩⟩
    simp [codeSpelling]
  · rintro ⟨marked, value, rest, rfl, hvalue, hend⟩
    cases hfound : splitAt? "</code></pre>".toList rest with
    | none =>
      have habsent : occursIn "</code></pre>".toList rest = false := by rw [occursIn, hfound]; rfl
      exact absurd hend ((occursIn_eq_false (by decide)).1 habsent)
    | some found =>
      refine Option.isSome_iff_exists.2 ⟨((value, found.1), found.2), ?_⟩
      refine codeMarkup?_eq_some.2 ⟨marked, ?_, hvalue, absent_of_splitAt? (by decide) hfound⟩
      rw [splitAt?_eq_some hfound]
      simp [codeSpelling]

/-- Where an image starts. -/
theorem isSome_imageMarkup? {cs : List Char} : (imageMarkup? cs).isSome ↔
    ∃ rest, cs = "<img".toList ++ rest ∧ (∀ c ∈ rest.head?, isWord c = false) ∧ '>' ∈ rest := by
  constructor
  · intro h
    obtain ⟨⟨markup, rest⟩, hfound⟩ := Option.isSome_iff_exists.1 h
    obtain ⟨rfl, -, hhead⟩ := imageMarkup?_eq_some.1 hfound
    exact ⟨markup ++ '>' :: rest, rfl, head?_bracket.2 hhead, by simp⟩
  · rintro ⟨rest, rfl, hhead, hclose⟩
    obtain ⟨markup, others, rfl, hfirst⟩ := List.eq_append_cons_of_mem hclose
    refine Option.isSome_iff_exists.2 ⟨(markup, others), imageMarkup?_eq_some.2 ⟨rfl, hfirst, ?_⟩⟩
    exact head?_bracket.1 hhead

/-! ### Code blocks -/

theorem mem_splitRuns {p : Char → Bool} {before cs run : List Char}
    (hrun : run ∈ splitRuns p before cs) : ∀ c ∈ run, c ∈ before ∨ c ∈ cs ∧ p c = false := by
  induction cs generalizing before with
  | nil =>
    rw [splitRuns, List.mem_singleton] at hrun
    subst hrun
    exact fun c hc => .inl (List.mem_reverse.1 hc)
  | cons d cs ih =>
    intro c hc
    rw [splitRuns] at hrun
    split at hrun
    · rcases List.mem_cons.1 hrun with rfl | hrun
      · exact .inl (List.mem_reverse.1 hc)
      · obtain ⟨hmem, hp⟩ := (ih hrun c hc).resolve_left List.not_mem_nil
        exact .inr ⟨List.mem_cons_of_mem _ hmem, hp⟩
    · rename_i hd
      rcases ih hrun c hc with hmem | ⟨hmem, hp⟩
      · rcases List.mem_cons.1 hmem with rfl | hbefore
        · exact .inr ⟨List.mem_cons_self, eq_false_of_ne_true hd⟩
        · exact .inl hbefore
      · exact .inr ⟨List.mem_cons_of_mem _ hmem, hp⟩

/-- A word is made of characters other than white space. -/
theorem mem_words {cs word : List Char} (hword : word ∈ words cs) :
    ∀ c ∈ word, c ∈ cs ∧ isBlank c = false := fun c hc =>
  (mem_splitRuns (List.mem_of_mem_filter hword) c hc).resolve_left List.not_mem_nil

/-- The language that a class names can be written as a class. -/
theorem languageName_languageOf {value : List Char} (hvalue : '"' ∉ value) :
    LanguageName (languageOf (words value)) := by
  rw [languageOf]
  split
  · rename_i c name hfound
    obtain ⟨word, hword, hdrop⟩ := List.exists_of_findSome?_eq_some hfound
    have hchars : ∀ d ∈ c :: name, d ∈ value ∧ isBlank d = false := by
      intro d hd
      refine mem_words hword d ?_
      rw [dropWord?_eq_some.1 hdrop]
      exact List.mem_append_right _ hd
    refine ⟨by simp, fun hquote => ?_, fun d hd => ?_⟩
    · rw [String.toList_ofList] at hquote
      exact hvalue (hchars _ hquote).1
    · rw [String.toList_ofList] at hd
      exact (hchars d hd).2
  · decide

namespace CodeElement

theorem language_ofMarkup (value content : List Char) :
    (ofMarkup value content : CodeElement η).language = languageOf (words value) := by
  rw [ofMarkup]
  split <;> rfl

theorem onCopy_ofMarkup (value content : List Char) :
    (ofMarkup value content : CodeElement η).onCopy = none := by
  rw [ofMarkup]
  split <;> rfl

theorem unwired_ofMarkup (value content : List Char) :
    (ofMarkup value content : CodeElement η).unwired = ofMarkup value content := by
  rw [ofMarkup]
  split <;> rfl

/-- The first quotation mark of a code block without a handler is that before its class. -/
theorem exists_toList_html {code : CodeElement η} (hcode : code.onCopy = none) :
    ∃ rest, code.html.toList = "<pre><code class=".toList ++ '"' :: 'l' :: rest := by
  have hclass : code.classValue.toList = 'l' :: ("anguage-" ++ code.language ++
      if code.isHighlighted then " " ++ highlightedClass else "").toList := by
    simp [classValue, languagePrefix]
  have hspelled (tail content : List Char) : codeSpelling false ('l' :: tail) content =
      "<pre><code class=".toList ++ '"' :: 'l' :: (tail ++
        ("\"".toList ++ (">".toList ++ (content ++ "</code></pre>".toList)))) := by
    simp [codeSpelling]
  exact ⟨_, by rw [toList_html, hcode, hclass, Option.isSome_none, hspelled]⟩

/-- The first quotation mark of a code block without a handler does not end a class. -/
theorem html_append_ne {code : CodeElement η} (hcode : code.onCopy = none) {value : List Char}
    (hvalue : '"' ∉ value) (after rest : List Char) :
    code.html.toList ++ after ≠ value ++ '"' :: '>' :: rest := by
  intro h
  obtain ⟨tail, hhtml⟩ := exists_toList_html hcode
  rw [hhtml, List.append_assoc] at h
  obtain ⟨-, hnext⟩ := append_cons_inj hvalue (by decide) h.symm
  exact absurd (List.head_eq_of_cons_eq hnext) (by decide)

/-- **A code block that was read from markup** is read back from its own. -/
theorem readable_ofMarkup {value content : List Char} (hvalue : '"' ∉ value)
    (hcontent : ¬ "</code></pre>".toList <:+: content) :
    (ofMarkup value content : CodeElement η).Readable := by
  refine ⟨language_ofMarkup (η := η) value content ▸ languageName_languageOf hvalue, ?_⟩
  intro markup hmarkup
  by_cases hshown : (words value).contains highlightedClass.toList = true
  · have hcode : (ofMarkup value content : CodeElement η) =
        { language := languageOf (words value)
          source := markupText content
          highlighted := some (String.ofList content) } := if_pos hshown
    rw [hcode] at hmarkup ⊢
    obtain rfl := Option.mem_some_iff.1 hmarkup
    have htext : (String.ofList content).toList = content := String.toList_ofList
    refine ⟨?_, by rw [htext]⟩
    rw [htext]
    exact (occursIn_eq_false (by decide)).2 hcontent
  · have hcode : (ofMarkup value content : CodeElement η) =
        { language := languageOf (words value)
          source := String.ofList (unescapeChars content) } := if_neg hshown
    rw [hcode] at hmarkup
    exact absurd hmarkup (Option.not_mem_none _)

end CodeElement

/-! ### Images -/

theorem dropEnd_isPrefix (p : Char → Bool) (cs : List Char) : dropEnd p cs <+: cs :=
  List.rdropWhile_prefix p cs

/-- What is not to be dropped at the end stays. -/
theorem mem_dropEnd {p : Char → Bool} {c : Char} (hc : p c = false) {cs : List Char}
    (hmem : c ∈ cs) : c ∈ dropEnd p cs := by
  rw [dropEnd, List.mem_reverse]
  rw [← List.mem_reverse, ← List.takeWhile_append_dropWhile (p := p) (l := cs.reverse),
    List.mem_append] at hmem
  refine hmem.resolve_left fun htaken => ?_
  rw [List.mem_takeWhile_imp htaken] at hc
  cases hc

/-- Markup without the marker of a handler has none when its tag is closed either. -/
theorem nowhere_zoomable_slash {cs : List Char} (hcs : ¬ zoomableMarker.toList <:+: cs) :
    Nowhere zoomableMarker.toList.IsPrefix cs " /".toList := by
  induction cs with
  | nil => trivial
  | cons c cs ih =>
    rw [List.infix_cons_iff, not_or] at hcs
    refine ⟨fun h => ?_, ih hcs.2⟩
    -- The marker has no slash, and it ends with a quotation mark.
    have hclosed : zoomableMarker.toList <+: ((c :: cs) ++ [' ']) ++ '/' :: [] := by
      simpa using h
    have hslash := prefix_of_prefix_append_cons (by decide) hclosed
    rcases List.prefix_concat_iff.1 hslash with hspace | hmarker
    · have hlast := congrArg List.getLast? hspace
      rw [List.getLast?_concat] at hlast
      exact absurd hlast (by decide)
    · exact hcs.1 hmarker

namespace ImageElement

variable {markup : List Char}

/-- Without a marker, the attributes are what stands before the slash. -/
theorem cleanAttributes_eq (hmarkup : ¬ zoomableMarker.toList <:+: markup) :
    cleanAttributes markup = dropEnd isBlank (dropEnd (· == '/') (dropEnd isBlank markup)) := by
  have hunmarked := replaceAll_append [] (nowhere_of_absent hmarkup)
  rw [List.append_nil, show replaceAll zoomableMarker.toList [] [] = [] from rfl,
    List.append_nil] at hunmarked
  rw [cleanAttributes, hunmarked]

theorem cleanAttributes_isPrefix (hmarkup : ¬ zoomableMarker.toList <:+: markup) :
    cleanAttributes markup <+: markup := by
  rw [cleanAttributes_eq hmarkup]
  exact ((dropEnd_isPrefix _ _).trans (dropEnd_isPrefix _ _)).trans (dropEnd_isPrefix _ _)

/-- The attributes of an image do not end its tag. -/
theorem bracket_notMem_cleanAttributes (hclose : '>' ∉ markup)
    (hmarkup : ¬ zoomableMarker.toList <:+: markup) : '>' ∉ cleanAttributes markup :=
  fun hmem => hclose ((cleanAttributes_isPrefix hmarkup).subset hmem)

/-- A quotation mark in the tag of an image stands in its attributes. -/
theorem mem_cleanAttributes (hmarkup : ¬ zoomableMarker.toList <:+: markup)
    (hquote : '"' ∈ markup) : '"' ∈ cleanAttributes markup := by
  rw [cleanAttributes_eq hmarkup]
  exact mem_dropEnd (by decide) (mem_dropEnd (by decide) (mem_dropEnd (by decide) hquote))

/-- The attributes stay when a tag is written with them, marked or not. -/
theorem cleanAttributes_clean (hmarkup : ¬ zoomableMarker.toList <:+: markup) {marker : String}
    (hmarker : marker ∈ ["", zoomableMarker]) :
    cleanAttributes (String.ofList (cleanAttributes markup) ++ marker ++ " /").toList =
      cleanAttributes markup := by
  have hattributes : ¬ zoomableMarker.toList <:+: cleanAttributes markup := fun h =>
    hmarkup (h.trans (cleanAttributes_isPrefix hmarkup).isInfix)
  have hslash := nowhere_zoomable_slash hattributes
  have hword : Nowhere zoomableMarker.toList.IsPrefix (cleanAttributes markup)
      (zoomableMarker.toList ++ " /".toList) :=
    nowhere_of_not_occursIn (by decide) ((occursIn_eq_false (by decide)).2 hattributes) _
  have hkept : replaceAll zoomableMarker.toList [] " /".toList = [' ', '/'] := by decide
  have hunmarked : replaceAll zoomableMarker.toList []
      (cleanAttributes markup ++ (marker.toList ++ " /".toList)) =
        cleanAttributes markup ++ [' '] ++ ['/'] := by
    simp only [List.mem_cons, List.not_mem_nil, or_false] at hmarker
    rcases hmarker with rfl | rfl
    · rw [String.toList_empty, List.nil_append, replaceAll_append [] hslash, hkept]
      simp
    · rw [replaceAll_append [] hword, replaceAll_word (by decide), hkept]
      simp
  have htrimmed : dropEnd isBlank (cleanAttributes markup) = cleanAttributes markup := by
    rw [cleanAttributes_eq hmarkup]
    exact List.rdropWhile_idempotent _ _
  have hspelled : (String.ofList (cleanAttributes markup) ++ marker ++ " /").toList =
      cleanAttributes markup ++ (marker.toList ++ " /".toList) := by
    simp
  rw [hspelled, cleanAttributes, hunmarked, dropEnd_concat_of_neg (by decide),
    dropEnd_concat_of_pos (by decide), dropEnd_concat_of_neg (by decide),
    dropEnd_concat_of_pos (by decide), htrimmed]

theorem unwired_ofMarkup (markup : List Char) :
    (ofMarkup markup : ImageElement η).unwired = ofMarkup markup := rfl

theorem toList_html_ofMarkup (markup : List Char) :
    (ofMarkup markup : ImageElement η).html.toList =
      "<img".toList ++ (cleanAttributes markup ++ " />".toList) := by
  simp [html, ofMarkup]

/-- **The first quotation mark of an image does not end a class.** Where the first one in the markup
of an image and what follows ends a class, it stands behind the image, which has none. -/
theorem exists_of_html_append (hclose : '>' ∉ markup)
    (hmarkup : ¬ zoomableMarker.toList <:+: markup) {value after rest : List Char}
    (hvalue : '"' ∉ value)
    (h : (ofMarkup markup : ImageElement η).html.toList ++ after = value ++ '"' :: '>' :: rest) :
    '"' ∉ markup ∧ ∃ tail, value = (ofMarkup markup : ImageElement η).html.toList ++ tail ∧
      after = tail ++ '"' :: '>' :: rest := by
  by_cases hquote : '"' ∈ cleanAttributes markup
  · obtain ⟨first, others, hsplit, hfirst⟩ := List.eq_append_cons_of_mem hquote
    have hspelled : (ofMarkup markup : ImageElement η).html.toList ++ after =
        ("<img".toList ++ first) ++ '"' :: (others ++ ' ' :: ("/>".toList ++ after)) := by
      simp [toList_html_ofMarkup, hsplit]
    have hname : '"' ∉ "<img".toList ++ first := by
      simpa using hfirst
    rw [hspelled] at h
    obtain ⟨-, hnext⟩ := append_cons_inj hvalue hname h.symm
    -- A space follows the mark, or one of the attributes, which have no angle bracket.
    cases others with
    | nil => exact absurd (List.head_eq_of_cons_eq hnext) (by decide)
    | cons d others =>
      obtain rfl := List.head_eq_of_cons_eq hnext
      exact absurd (by simp [hsplit]) (bracket_notMem_cleanAttributes hclose hmarkup)
  · have htag : '"' ∉ (ofMarkup markup : ImageElement η).html.toList := by
      rw [toList_html_ofMarkup]
      simpa using hquote
    exact ⟨mt (mem_cleanAttributes hmarkup) hquote, eq_append_of_notMem htag h⟩

/-- **An end of a code block** in the markup of an image and what follows stands behind the image:
its attributes have no angle bracket that would end such a tag. -/
theorem closing_of_html_append (hclose : '>' ∉ markup)
    (hmarkup : ¬ zoomableMarker.toList <:+: markup) {after : List Char}
    (h : "</code></pre>".toList <:+: (ofMarkup markup : ImageElement η).html.toList ++ after) :
    "</code></pre>".toList <:+: after := by
  have hname : Nowhere "</code></pre>".toList.IsPrefix ('<' :: "img".toList)
      (cleanAttributes markup ++ ' ' :: ("/>".toList ++ after)) :=
    ⟨by simp, nowhere_of_notMem rfl (by decide) _⟩
  have hattributes : Nowhere "</code></pre>".toList.IsPrefix (cleanAttributes markup)
      (' ' :: ("/>".toList ++ after)) :=
    nowhere_of_stop (by decide) (by decide) (bracket_notMem_cleanAttributes hclose hmarkup)
  have hslash : Nowhere "</code></pre>".toList.IsPrefix (' ' :: "/>".toList) after :=
    nowhere_of_notMem rfl (by decide) after
  have hspelled : (ofMarkup markup : ImageElement η).html.toList ++ after =
      ('<' :: "img".toList) ++ (cleanAttributes markup ++ ' ' :: ("/>".toList ++ after)) := by
    simp [toList_html_ofMarkup]
  rw [hspelled] at h
  exact infix_of_nowhere hslash (infix_of_nowhere hattributes (infix_of_nowhere hname h))

/-- **An image that was read from markup** without a marker is read back from its own. -/
theorem readable_ofMarkup (hclose : '>' ∉ markup) (hhead : ∀ c ∈ markup.head?, isWord c = false)
    (hmarkup : ¬ zoomableMarker.toList <:+: markup) :
    (ofMarkup markup : ImageElement η).Readable := by
  have hattributes : (ofMarkup markup : ImageElement η).attributes.toList =
      cleanAttributes markup := String.toList_ofList
  refine ⟨?_, ?_, ?_, ?_⟩
  · rw [hattributes]
    intro c hc
    obtain ⟨others, hothers⟩ := List.head?_eq_some_iff.1 hc
    obtain ⟨rest, hrest⟩ := hothers ▸ cleanAttributes_isPrefix hmarkup
    exact hhead c (by rw [← hrest]; rfl)
  · rw [hattributes]
    exact bracket_notMem_cleanAttributes hclose hmarkup
  · intro marker hmarker
    rw [hattributes]
    exact cleanAttributes_clean hmarkup hmarker
  · rw [hattributes]
    rfl

end ImageElement

end Folio
