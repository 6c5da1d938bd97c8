import Folio.Mount.Container
import Folio.Proofs.Entities
import Folio.Proofs.Token

/-!
# Elements read back from their markup

The markup of an element is found again at its start, whatever follows it, and stands for the same
element without its handler. For a code block this needs that nothing in the markup of a highlighter
ends the block, and that this markup still says the code; for an image, that its attributes are
written as they are read.

## Main definitions

* `Folio.Faithful`: markup that can be shown instead of code.
* `Folio.CodeElement.Readable`, `Folio.ImageElement.Readable`: elements that are found again.
* `Folio.CodeElement.unwired`, `Folio.ImageElement.unwired`: elements without their handlers.

## Main results

* `Folio.element?_code`, `Folio.element?_image`: an element is read back from its markup.
* `Folio.CodeElement.alike_iff_html_eq`: code blocks are alike exactly when their markup is the
  same.
-/

namespace Folio

open Text Html

variable {η : Type}

/-! ### Words of a class attribute -/

theorem splitRuns_append {p : Char → Bool} {cs : List Char} (hcs : ∀ c ∈ cs, p c = false)
    (before rest : List Char) :
    splitRuns p before (cs ++ rest) = splitRuns p (cs.reverse ++ before) rest := by
  induction cs generalizing before with
  | nil => rfl
  | cons c cs ih =>
    obtain ⟨hc, hcs⟩ := List.forall_mem_cons.1 hcs
    rw [List.cons_append, splitRuns, hc, if_neg Bool.false_ne_true, ih hcs]
    simp

/-- Characters without white space are one word. -/
theorem words_eq_singleton {cs : List Char} (hne : cs ≠ [])
    (hcs : ∀ c ∈ cs, isBlank c = false) : words cs = [cs] := by
  have hruns := splitRuns_append hcs [] []
  rw [List.append_nil] at hruns
  simp [words, hruns, splitRuns, hne]

/-- A word ends at white space. -/
theorem words_append_cons {cs : List Char} (hne : cs ≠ []) (hcs : ∀ c ∈ cs, isBlank c = false)
    {blank : Char} (hblank : isBlank blank = true) (rest : List Char) :
    words (cs ++ blank :: rest) = cs :: words rest := by
  simp [words, splitRuns_append hcs, splitRuns, hblank, hne]

/-! ### Code blocks -/

/-- A language tag that can be read off a class attribute. -/
structure LanguageName (name : String) : Prop where
  nonempty : name ≠ ""
  no_quote : '"' ∉ name.toList
  no_blank : ∀ c ∈ name.toList, isBlank c = false

instance (name : String) : Decidable (LanguageName name) :=
  decidable_of_iff (name ≠ "" ∧ '"' ∉ name.toList ∧ name.toList.any isBlank = false)
    ⟨fun ⟨nonempty, no_quote, no_blank⟩ =>
        ⟨nonempty, no_quote, fun _ hc => eq_false_of_ne_true (List.any_eq_false.1 no_blank _ hc)⟩,
      fun name => ⟨name.nonempty, name.no_quote,
        List.any_eq_false.2 fun _ hc => ne_true_of_eq_false (name.no_blank _ hc)⟩⟩

/-- Markup that can be shown instead of code: it does not end the code block, and without its tags
and with its entities replaced it is the code. -/
structure Faithful (markup source : String) : Prop where
  unended : occursIn "</code></pre>".toList markup.toList = false
  text : markupText markup.toList = source

instance (markup source : String) : Decidable (Faithful markup source) :=
  decidable_of_iff (occursIn "</code></pre>".toList markup.toList = false ∧
      markupText markup.toList = source)
    ⟨fun ⟨unended, text⟩ => ⟨unended, text⟩, fun h => ⟨h.unended, h.text⟩⟩

namespace CodeElement

/-- The code block without its handler. -/
def unwired (code : CodeElement η) : CodeElement η := { code with onCopy := none }

/-- A code block that can be read back from its markup. -/
structure Readable (code : CodeElement η) : Prop where
  language : LanguageName code.language
  highlighted : ∀ markup ∈ code.highlighted, Faithful markup code.source

theorem Readable.unwired {code : CodeElement η} (hcode : code.Readable) : code.unwired.Readable :=
  ⟨hcode.language, hcode.highlighted⟩

end CodeElement

/-- The class that names a language. -/
theorem notBlank_languageClass {name : String} (hname : LanguageName name) :
    ∀ c ∈ (languagePrefix ++ name).toList, isBlank c = false := by
  have hstart : languagePrefix.toList.any isBlank = false := by decide
  rw [String.toList_append]
  exact List.forall_mem_append.2
    ⟨fun c hc => eq_false_of_ne_true (List.any_eq_false.1 hstart c hc), hname.no_blank⟩

theorem languageClass_ne_nil (name : String) : (languagePrefix ++ name).toList ≠ [] := by
  simp [languagePrefix]

/-- The language is read off the first class. -/
theorem languageOf_cons {name : String} (hname : LanguageName name) (classes : List (List Char)) :
    languageOf ((languagePrefix ++ name).toList :: classes) = name := by
  have hfound : dropWord? languagePrefix.toList (languagePrefix ++ name).toList =
      some name.toList := by
    rw [dropWord?_eq_some, String.toList_append]
  have hne : name.toList ≠ [] := by
    simpa using hname.nonempty
  rw [languageOf, List.findSome?_cons, hfound]
  obtain ⟨c, cs, hcs⟩ := List.exists_cons_of_ne_nil hne
  simp only [hcs]
  rw [← hcs, String.ofList_toList]

/-- The markup of a code block with a value of its class attribute and a content. -/
def codeSpelling (marked : Bool) (value content : List Char) : List Char :=
  "<pre".toList ++ ((if marked then copyableMarker.toList else []) ++
    ("><code class=\"".toList ++ (value ++ ("\"".toList ++ (">".toList ++
      (content ++ "</code></pre>".toList))))))

theorem codeMarkup?_codeSpelling {value content : List Char} (hvalue : '"' ∉ value)
    (hcontent : occursIn "</code></pre>".toList content = false) (marked : Bool)
    (rest : List Char) :
    codeMarkup? (codeSpelling marked value content ++ rest) = some ((value, content), rest) := by
  have hdrop (word rest : List Char) : dropWord? word (word ++ rest) = some rest :=
    dropWord?_eq_some.2 rfl
  -- Without a marker the tag ends at once.
  have hmarker (after : List Char) : (dropWord? copyableMarker.toList
      ((if marked then copyableMarker.toList else []) ++ ("><code class=\"".toList ++ after))).getD
        ((if marked then copyableMarker.toList else []) ++ ("><code class=\"".toList ++ after)) =
      "><code class=\"".toList ++ after := by
    cases marked with
    | true => rw [if_pos rfl, hdrop, Option.getD_some]
    | false => simp [dropWord?, copyableMarker]
  have hquote (after : List Char) : splitAt? "\"".toList (value ++ ("\"".toList ++ after)) =
      some (value, after) :=
    splitAt?_append (nowhere_of_notMem (by decide) hvalue _)
  have hend : splitAt? "</code></pre>".toList (content ++ ("</code></pre>".toList ++ rest)) =
      some (content, rest) :=
    splitAt?_append (nowhere_of_not_occursIn (by decide) hcontent rest)
  have hspelled : codeSpelling marked value content ++ rest = "<pre".toList ++
      ((if marked then copyableMarker.toList else []) ++ ("><code class=\"".toList ++ (value ++
        ("\"".toList ++ (">".toList ++ (content ++ ("</code></pre>".toList ++ rest))))))) := by
    simp only [codeSpelling, List.append_assoc]
  rw [hspelled, codeMarkup?, hdrop]
  simp only [Option.bind_eq_bind, Option.bind_some]
  rw [hmarker, hdrop]
  simp only [Option.bind_some]
  change (splitAt? "\"".toList _).bind _ = _
  rw [hquote, Option.bind_some]
  change (dropWord? ">".toList _).bind _ = _
  rw [hdrop, Option.bind_some, hend, Option.bind_some]

namespace CodeElement

/-- The value of the class attribute of a code block. -/
def classValue (code : CodeElement η) : String :=
  languagePrefix ++ code.language ++ if code.isHighlighted then " " ++ highlightedClass else ""

/-- What stands in a code block. -/
def content (code : CodeElement η) : String := code.highlighted.getD (Html.escape code.source)

theorem toList_html (code : CodeElement η) :
    code.html.toList =
      codeSpelling code.onCopy.isSome code.classValue.toList code.content.toList := by
  obtain ⟨language, source, highlighted, onCopy⟩ := code
  cases highlighted <;> cases onCopy <;>
    simp [html, codeSpelling, classValue, content, isHighlighted]

theorem Readable.no_quote {code : CodeElement η} (hcode : code.Readable) :
    '"' ∉ code.classValue.toList := by
  have hstart : '"' ∉ languagePrefix.toList := by decide
  have hmode : '"' ∉ (if code.isHighlighted then " " ++ highlightedClass else "").toList := by
    split <;> decide
  simp only [classValue, String.toList_append, List.mem_append, not_or]
  exact ⟨⟨hstart, hcode.language.no_quote⟩, hmode⟩

theorem Readable.unended {code : CodeElement η} (hcode : code.Readable) :
    occursIn "</code></pre>".toList code.content.toList = false := by
  cases hmarkup : code.highlighted with
  | some markup => simpa [content, hmarkup] using (hcode.highlighted markup hmarkup).unended
  | none =>
    -- Escaped code has no angle bracket at all.
    simpa only [content, hmarkup, Option.getD_none] using
      not_occursIn_of_notMem (by decide) (safeText_escape code.source).no_open

/-- The parts of the markup of a code block stand for it, without its handler. -/
theorem Readable.ofMarkup_html {code : CodeElement η} (hcode : code.Readable) :
    ofMarkup code.classValue.toList code.content.toList = code.unwired := by
  have hne := languageClass_ne_nil code.language
  have hblank := notBlank_languageClass hcode.language
  have hlanguage := languageOf_cons hcode.language
  cases hmarkup : code.highlighted with
  | some markup =>
    have hwords : words code.classValue.toList =
        [(languagePrefix ++ code.language).toList, highlightedClass.toList] := by
      have hclass : words highlightedClass.toList = [highlightedClass.toList] := by decide
      have hvalue : code.classValue.toList =
          (languagePrefix ++ code.language).toList ++ ' ' :: highlightedClass.toList := by
        simp [classValue, isHighlighted, hmarkup]
      rw [hvalue, words_append_cons hne hblank (by decide), hclass]
    have htext := (hcode.highlighted markup hmarkup).text
    have hshown : [(languagePrefix ++ code.language).toList, highlightedClass.toList].contains
        highlightedClass.toList = true := by simp
    simp only [ofMarkup, hwords, hlanguage, hshown, content, hmarkup, Option.getD_some, htext,
      String.ofList_toList, CodeElement.unwired, ↓reduceIte]
  | none =>
    have hwords : words code.classValue.toList = [(languagePrefix ++ code.language).toList] := by
      have hvalue : code.classValue.toList = (languagePrefix ++ code.language).toList := by
        simp [classValue, isHighlighted, hmarkup]
      rw [hvalue, words_eq_singleton hne hblank]
    have hplain : [(languagePrefix ++ code.language).toList].contains
        highlightedClass.toList = false := by
      simp [highlightedClass, languagePrefix]
    simp only [ofMarkup, hwords, hlanguage, hplain, content, hmarkup, Option.getD_none,
      toList_escape, unescapeChars_escape, String.ofList_toList, CodeElement.unwired,
      Bool.false_eq_true, ↓reduceIte]

end CodeElement

/-- **A code block is read back from its markup**, without its handler. -/
theorem element?_code {code : CodeElement η} (hcode : code.Readable) (rest : List Char) :
    element? (code.html.toList ++ rest) = some (.code code.unwired, rest) := by
  rw [element?, code.toList_html, codeMarkup?_codeSpelling hcode.no_quote hcode.unended]
  simp only [hcode.ofMarkup_html]

namespace CodeElement

/-- Code blocks are alike when they differ in nothing but which handler they have. -/
theorem alike_iff {code other : CodeElement η} :
    code.alike other = true ↔
      code.unwired = other.unwired ∧ code.onCopy.isSome = other.onCopy.isSome := by
  simp [alike, CodeElement.unwired, and_assoc]

/-- Whether a code block has a handler is seen behind the name of the tag. -/
theorem marked_of_codeSpelling_eq {marked marked' : Bool}
    {value value' content content' : List Char}
    (h : codeSpelling marked value content = codeSpelling marked' value' content') :
    marked = marked' := by
  cases marked <;> cases marked' <;> simp [codeSpelling, copyableMarker] at h ⊢

/-- **Code blocks are alike exactly when their markup is the same**: the markup does not tell which
handler a code block has, but it tells everything else. -/
theorem alike_iff_html_eq {code other : CodeElement η} (hcode : code.Readable)
    (hother : other.Readable) : code.alike other = true ↔ code.html = other.html := by
  rw [alike_iff, ← String.toList_inj]
  constructor
  · rintro ⟨hunwired, hmarked⟩
    have hvalue : code.classValue = other.classValue := (congrArg classValue hunwired :)
    have hcontent : code.content = other.content := (congrArg content hunwired :)
    rw [toList_html, toList_html, hmarked, hvalue, hcontent]
  · intro hhtml
    have hread : element? (η := η) code.html.toList = element? other.html.toList :=
      congrArg element? hhtml
    rw [← List.append_nil code.html.toList, ← List.append_nil other.html.toList,
      element?_code hcode, element?_code hother] at hread
    rw [toList_html, toList_html] at hhtml
    exact ⟨Segment.code.inj (Prod.mk.inj (Option.some.inj hread)).1,
      marked_of_codeSpelling_eq hhtml⟩

end CodeElement

/-! ### Images -/

namespace ImageElement

/-- The image without its handler. -/
def unwired (image : ImageElement η) : ImageElement η := { image with onClick := none }

/-- An image that can be read back from its markup. -/
structure Readable (image : ImageElement η) : Prop where
  start : ∀ c ∈ image.attributes.toList.head?, isWord c = false
  no_close : '>' ∉ image.attributes.toList
  clean : ∀ marker ∈ ["", zoomableMarker],
    cleanAttributes (image.attributes ++ marker ++ " /").toList = image.attributes.toList
  source : imageSource image.attributes.toList = image.source

theorem Readable.unwired {image : ImageElement η} (himage : image.Readable) :
    image.unwired.Readable :=
  ⟨himage.start, himage.no_close, himage.clean, himage.source⟩

/-- The marker in the tag of an image. -/
def marker (image : ImageElement η) : String := if image.onClick.isSome then zoomableMarker else ""

theorem marker_mem (image : ImageElement η) : image.marker ∈ ["", zoomableMarker] := by
  unfold marker
  split <;> simp

theorem toList_html (image : ImageElement η) :
    image.html.toList = "<img".toList ++
      ((image.attributes ++ image.marker ++ " /").toList ++ ">".toList) := by
  simp [html, marker]

theorem Readable.imageMarkup?_html {image : ImageElement η} (himage : image.Readable)
    (rest : List Char) :
    imageMarkup? (image.html.toList ++ rest) =
      some ((image.attributes ++ image.marker ++ " /").toList, rest) := by
  have hdrop : dropWord? "<img".toList (image.html.toList ++ rest) =
      some ((image.attributes ++ image.marker ++ " /").toList ++ (">".toList ++ rest)) := by
    rw [dropWord?_eq_some, image.toList_html]
    simp only [List.append_assoc]
  have hhead : (((image.attributes ++ image.marker ++ " /").toList ++
      (">".toList ++ rest)).head?.map isWord).getD false = false := by
    have hstart := himage.start
    have hmarker := image.marker_mem
    simp only [String.toList_append]
    cases hattributes : image.attributes.toList with
    | nil =>
      have hspace : isWord ' ' = false := by decide +kernel
      simp only [List.mem_cons, List.not_mem_nil, or_false] at hmarker
      rcases hmarker with hmarker | hmarker <;> simp [hmarker, zoomableMarker, hspace]
    | cons c cs =>
      rw [hattributes] at hstart
      simpa using hstart c rfl
  have hclose : '>' ∉ (image.attributes ++ image.marker ++ " /").toList := by
    have hmarker : ∀ marker ∈ ["", zoomableMarker], '>' ∉ marker.toList := by decide
    simp [himage.no_close, hmarker _ image.marker_mem]
  have hsplit : splitAt? ">".toList ((image.attributes ++ image.marker ++ " /").toList ++
      (">".toList ++ rest)) = some ((image.attributes ++ image.marker ++ " /").toList, rest) :=
    splitAt?_append (nowhere_of_notMem (by decide) hclose _)
  rw [imageMarkup?, hdrop]
  simp only [Option.bind_eq_bind, Option.bind_some, hhead]
  exact hsplit

end ImageElement

/-- **An image is read back from its markup**, without its handler. -/
theorem element?_image {image : ImageElement η} (himage : image.Readable) (rest : List Char) :
    element? (image.html.toList ++ rest) = some (.image image.unwired, rest) := by
  have hcode : codeMarkup? (image.html.toList ++ rest) = none := by
    simp [codeMarkup?, dropWord?, image.toList_html]
  have hattributes := himage.clean image.marker image.marker_mem
  rw [element?, hcode]
  simp only [himage.imageMarkup?_html, Option.map_some, ImageElement.ofMarkup, hattributes,
    String.ofList_toList, himage.source, ImageElement.unwired]

end Folio
