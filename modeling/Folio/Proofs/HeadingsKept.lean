import Folio.Proofs.Enhancing
import Folio.Proofs.HeadingTags

/-!
# Heading tags after a pass

The markup of a highlighter may be any text without a heading tag, also one that begins a tag and
does not end it. What comes next cannot make a heading of it: after each tag of a document the next
quotation mark begins the value of an attribute, so that a value that was begun before is never the
last one of a tag. The scanner for heading tags therefore finds in an enhanced document what it
finds in the document.

## Main definitions

* `Folio.Html.Inert`: text that cannot end a tag that was begun before it.
* `Folio.Html.Seam`: a place in markup that breaks no tag in two.
* `Folio.Html.Headless`: the markup of an element that brings no heading tag with it.
* `Folio.Html.Closes`: markup in which each tag is followed by what cannot end another one.
* `Folio.Enhancer.AddsNoHeading`: an enhancer whose highlighter gives no heading tag.

## Main results

* `Folio.Html.headingTags_append`: the scanner goes through markup that is cut at a seam.
* `Folio.headingTags_enhanceHtml`: a pass over a document keeps its heading tags.
* `Folio.headingTags_builtinHighlighter`: the markup of the stand-in has no heading tag.
-/

namespace Folio

open Document Html Text

variable {η : Type}

namespace Html

/-! ### Text after an unfinished tag -/

/-- Text whose first quotation mark, if there is one, does not end a tag. -/
def Inert : List Char → Prop
  | [] => True
  | c :: cs => if c = '"' then cs.head? ≠ some '>' else Inert cs

section Inert

variable {cs rest : List Char}

theorem Inert.left (h : Inert (cs ++ rest)) : Inert cs := by
  induction cs with
  | nil => trivial
  | cons c cs ih =>
    rw [List.cons_append, Inert] at h
    rw [Inert]
    split
    case isTrue hquote =>
      rw [if_pos hquote] at h
      cases cs with
      | nil => simp
      | cons d cs => exact h
    case isFalse hquote =>
      rw [if_neg hquote] at h
      exact ih h

theorem Inert.append (hcs : Inert cs) (hrest : Inert rest)
    (hseam : cs.getLast? ≠ some '"' ∨ rest.head? ≠ some '>') : Inert (cs ++ rest) := by
  induction cs with
  | nil => exact hrest
  | cons c cs ih =>
    rw [Inert] at hcs
    rw [List.cons_append, Inert]
    split
    case isTrue hquote =>
      rw [if_pos hquote] at hcs
      cases cs with
      | nil =>
        refine hseam.resolve_left fun h => h ?_
        rw [hquote]
        rfl
      | cons d cs => exact hcs
    case isFalse hquote =>
      rw [if_neg hquote] at hcs
      cases cs with
      | nil => exact hrest
      | cons d cs => exact ih hcs (by rwa [List.getLast?_cons_cons] at hseam)

theorem inert_append_of_no_quote (hcs : '"' ∉ cs) (hrest : Inert rest) : Inert (cs ++ rest) := by
  induction cs with
  | nil => exact hrest
  | cons c cs ih =>
    obtain ⟨hc, hcs⟩ := List.ne_and_not_mem_of_not_mem_cons hcs
    rw [List.cons_append, Inert, if_neg (Ne.symm hc)]
    exact ih hcs

theorem inert_of_no_close (hcs : '>' ∉ cs) : Inert cs := by
  induction cs with
  | nil => trivial
  | cons c cs ih =>
    obtain ⟨-, hcs⟩ := List.ne_and_not_mem_of_not_mem_cons hcs
    rw [Inert]
    split
    · exact fun h => hcs (List.mem_of_mem_head? h)
    · exact ih hcs

/-- A quotation mark that begins a value does not end a tag. -/
theorem inert_value {value : List Char} (hvalue : '>' ∉ value) (rest : List Char) :
    Inert ('"' :: (value ++ '"' :: rest)) := by
  rw [Inert, if_pos rfl]
  cases value with
  | nil => exact fun h => absurd (Option.some.inj h) (by decide)
  | cons c value => exact fun h => hvalue (Option.some.inj h ▸ List.mem_cons_self)

/-- An unfinished value is not the last one of a tag. -/
theorem Inert.not_prefix (hcs : Inert cs) :
    "\">".toList.isPrefixOf (cs.dropWhile (· != '"')) = false := by
  induction cs with
  | nil => rfl
  | cons c cs ih =>
    rw [Inert] at hcs
    split at hcs
    case isTrue hquote =>
      subst hquote
      rw [List.dropWhile_cons_of_neg (by decide)]
      cases cs with
      | nil => rfl
      | cons d cs =>
        have hd : '>' ≠ d := fun h => hcs (congrArg some h.symm)
        exact Bool.and_eq_false_iff.2 (.inr (Bool.and_eq_false_iff.2
          (.inl (beq_eq_false_iff_ne.2 hd))))
    case isFalse hquote =>
      rw [List.dropWhile_cons_of_pos (by simpa using hquote)]
      exact ih hcs

end Inert

/-! ### Cutting markup -/

/-- A place in markup that breaks no tag in two: a tag ends before it, or one begins after it, or
nothing comes any more. -/
def Seam (cs rest : List Char) : Prop :=
  cs.getLast? = some '>' ∨ ∀ c ∈ rest.head?, c = '<'

section Seam

variable {cs rest : List Char}

theorem Seam.before_tag (cs rest : List Char) : Seam cs ('<' :: rest) :=
  .inr fun _ hc => (Option.some.inj hc).symm

theorem Seam.of_cons {c : Char} (h : Seam (c :: cs) rest) (hc : c ≠ '>') : Seam cs rest := by
  refine h.imp_left fun hlast => ?_
  cases cs with
  | nil => exact absurd (Option.some.inj hlast) hc
  | cons d cs => rwa [List.getLast?_cons_cons] at hlast

/-- A word without angle brackets does not lie across a seam. -/
theorem Seam.starts_before {word : List Char} (hopen : '<' ∉ word) (hclose : '>' ∉ word)
    (hseam : Seam cs rest) (h : word <+: cs ++ rest) : word <+: cs := by
  rcases hseam with hlast | hfirst
  · obtain ⟨before, rfl⟩ := List.getLast?_eq_some_iff.1 hlast
    rw [List.append_assoc, List.singleton_append] at h
    exact (prefix_of_prefix_append_cons hclose h).trans (List.prefix_append _ _)
  · cases rest with
    | nil => rwa [List.append_nil] at h
    | cons c rest =>
      obtain rfl := hfirst c rfl
      exact prefix_of_prefix_append_cons hopen h

/-- The value of an identifier is read before a seam as before other text. -/
theorem lastIdentifier?_append (hseam : Seam cs rest) (hrest : Inert rest) :
    lastIdentifier? (cs ++ rest) = lastIdentifier? cs := by
  have hdrop (word rest : List Char) : dropWord? word (word ++ rest) = some rest :=
    dropWord?_eq_some.2 rfl
  by_cases hword : " id=\"".toList <+: cs
  · obtain ⟨value, rfl⟩ := hword
    rw [lastIdentifier?, lastIdentifier?, List.append_assoc, hdrop, hdrop, Option.bind_some,
      Option.bind_some]
    by_cases hquote : '"' ∈ value
    · -- The value ends before the seam, and so does the tag if it ends with the value.
      obtain ⟨before, after, rfl, hbefore⟩ := List.eq_append_cons_of_mem hquote
      have hofList : '"' ∉ (String.ofList before).toList := by rwa [String.toList_ofList]
      have hspan (rest : List Char) := span_value hofList rest
      simp only [String.toList_ofList] at hspan
      have hend : "\">".toList.isPrefixOf ('"' :: (after ++ rest)) =
          "\">".toList.isPrefixOf ('"' :: after) := by
        cases after with
        | cons d after => rfl
        | nil =>
          have hnext : Inert ('"' :: rest) := by
            rw [Inert, if_pos rfl]
            intro hclose
            rcases hseam with h | h
            · rw [← List.append_assoc, List.getLast?_concat] at h
              exact absurd (Option.some.inj h) (by decide)
            · exact absurd (h '>' hclose) (by decide)
          exact hnext.not_prefix
      rw [List.append_assoc, List.cons_append, (hspan _).1, (hspan _).2, (hspan _).1, (hspan _).2,
        hend]
    · have hvalue : ∀ c ∈ value, (c != '"') = true := by
        intro c hc
        rw [bne_iff_ne]
        rintro rfl
        exact hquote hc
      have hdropped : value.dropWhile (· != '"') = [] := by
        have h : (value ++ []).dropWhile (· != '"') = [] := List.dropWhile_append_of_pos hvalue
        rwa [List.append_nil] at h
      rw [List.dropWhile_append_of_pos hvalue, hrest.not_prefix, hdropped]
      rfl
  · have hnone {cs : List Char} (h : ¬ " id=\"".toList <+: cs) : lastIdentifier? cs = none := by
      rw [lastIdentifier?, dropWord?, if_neg (mt List.isPrefixOf_iff_prefix.1 h), Option.bind_none]
    rw [hnone hword, hnone fun h => hword (hseam.starts_before (by decide) (by decide) h)]

theorem headingTag?_of_second_ne {c : Char} (hc : c ≠ 'h') (cs : List Char) :
    headingTag? ('<' :: c :: cs) = none := by
  unfold headingTag?
  split
  case h_1 heq => exact absurd (List.cons.inj (List.cons.inj heq).2).1 hc
  case h_2 => rfl

/-- The opening tag of a heading is read before a seam as before other text. -/
theorem headingTag?_append {c : Char} (hseam : Seam (c :: cs) rest) (hrest : Inert rest) :
    headingTag? (c :: (cs ++ rest)) = headingTag? (c :: cs) := by
  by_cases hc : c = '<'
  · subst hc
    have hseam := hseam.of_cons (by decide)
    match cs, hseam with
    | [], hseam =>
      match rest, hseam.resolve_left (by simp) with
      | [], _ => rfl
      | d :: rest, hfirst =>
        obtain rfl := hfirst d rfl
        rfl
    | d :: cs, hseam =>
      by_cases hd : d = 'h'
      · subst hd
        have hseam := hseam.of_cons (by decide)
        match cs, hseam with
        | [], hseam =>
          match rest, hseam.resolve_left (by simp) with
          | [], _ => rfl
          | d :: rest, hfirst =>
            obtain rfl := hfirst d rfl
            rfl
        | digit :: cs, hseam =>
          rw [List.cons_append, List.cons_append, headingTag?, headingTag?]
          cases hlevel : levelOf? digit with
          | none => rfl
          | some level =>
            have hdigit : digit ≠ '>' := by
              rintro rfl
              cases hlevel
            rw [lastIdentifier?_append (hseam.of_cons hdigit) hrest]
      · rw [List.cons_append, headingTag?_of_second_ne hd, headingTag?_of_second_ne hd]
  · rw [headingTag?_of_ne hc, headingTag?_of_ne hc]

/-- **The scanner goes through markup that is cut at a seam**, if what follows cannot end a tag
that was begun before. -/
theorem headingTags_append (hseam : Seam cs rest) (hrest : Inert rest) :
    headingTags (cs ++ rest) = headingTags cs ++ headingTags rest := by
  induction cs with
  | nil => rfl
  | cons c cs ih =>
    rw [List.cons_append, headingTags, headingTags, headingTag?_append hseam hrest,
      List.append_assoc]
    cases cs with
    | nil => rfl
    | cons d cs =>
      refine congrArg _ (ih (hseam.imp_left fun hlast => ?_))
      rwa [List.getLast?_cons_cons] at hlast

end Seam

/-! ### Elements without headings -/

/-- The markup of an element that brings no heading tag with it, neither in it nor by what follows
it. -/
structure Headless (cs : List Char) : Prop where
  first : cs.head? = some '<'
  last : cs.getLast? = some '>'
  inert : Inert cs
  no_heading : headingTags cs = []

namespace Headless

variable {cs rest : List Char}

theorem inert_append (hcs : Headless cs) (hrest : Inert rest) : Inert (cs ++ rest) := by
  refine hcs.inert.append hrest (.inl ?_)
  rw [hcs.last]
  decide

theorem seam (hcs : Headless cs) (before rest : List Char) : Seam before (cs ++ rest) := by
  refine .inr fun c hc => ?_
  rw [List.head?_append, hcs.first] at hc
  exact (Option.some.inj hc).symm

/-- The scanner passes over an element without headings. -/
theorem headingTags_between (hcs : Headless cs) (hrest : Inert rest) (before : List Char) :
    headingTags (before ++ (cs ++ rest)) = headingTags before ++ headingTags rest := by
  rw [headingTags_append (hcs.seam before rest) (hcs.inert_append hrest),
    headingTags_append (.inl hcs.last) hrest, hcs.no_heading, List.nil_append]

theorem inert_between (hcs : Headless cs) (hrest : Inert rest) {before : List Char}
    (hbefore : Inert before) : Inert (before ++ (cs ++ rest)) := by
  refine hbefore.append (hcs.inert_append hrest) (.inr ?_)
  rw [List.head?_append, hcs.first, Option.some_or]
  decide

end Headless

/-- A tag whose name is not that of a heading is no heading. -/
theorem headingTags_other {c : Char} (hc : c ∉ ['h', '<']) {cs : List Char} (hcs : '<' ∉ cs)
    (rest : List Char) : headingTags ('<' :: c :: (cs ++ rest)) = headingTags rest := by
  simp only [List.mem_cons, List.not_mem_nil, or_false, not_or] at hc
  have hname : '<' ∉ c :: cs := by
    rw [List.mem_cons, not_or]
    exact ⟨Ne.symm hc.2, hcs⟩
  have htag := headingTags_tag hname rest
  rwa [List.cons_append, List.cons_append, headingTag?_of_second_ne hc.1] at htag

end Html

/-- The first quotation mark of a code block begins a value. -/
theorem inert_codeSpelling (marked : Bool) {value : List Char} (hvalue : '>' ∉ value)
    (content : List Char) : Inert (codeSpelling marked value content) := by
  cases marked with
  | true =>
    have htrue : '>' ∉ "true".toList := by decide
    have hmarked := inert_value htrue ("><code class=\"".toList ++
      (value ++ ("\"".toList ++ (">".toList ++ (content ++ "</code></pre>".toList)))))
    show Inert ("<pre data-copyable=".toList ++ _)
    exact inert_append_of_no_quote (by decide) hmarked
  | false =>
    show Inert ("<pre><code class=".toList ++ _)
    exact inert_append_of_no_quote (by decide) (inert_value hvalue _)

theorem getLast?_codeSpelling (marked : Bool) (value content : List Char) :
    (codeSpelling marked value content).getLast? = some '>' := by
  have hspelled : codeSpelling marked value content =
      "<pre".toList ++ ((if marked then copyableMarker.toList else []) ++
        ("><code class=\"".toList ++ (value ++ ("\"".toList ++ (">".toList ++
          (content ++ "</code></pre".toList)))))) ++ ['>'] := by
    simp [codeSpelling]
  rw [hspelled, List.getLast?_concat]

theorem headingTags_codeSpelling (marked : Bool) {value content : List Char} (hvalue : '<' ∉ value)
    (hcontent : headingTags content = []) :
    headingTags (codeSpelling marked value content) = [] := by
  have hend : headingTags (content ++ "</code></pre>".toList) = [] := by
    have hseam : Seam content "</code></pre>".toList := .before_tag content _
    rw [headingTags_append hseam (by simp [Inert]), hcontent]
    rfl
  have hmarker :
      '<' ∉ "re".toList ++ ((if marked then copyableMarker.toList else []) ++ ['>']) := by
    cases marked <;> decide
  have hopening : '<' ∉ "ode class=\"".toList ++ (value ++ "\">".toList) := by
    simp [hvalue]
  have hspelled : codeSpelling marked value content =
      '<' :: 'p' :: ("re".toList ++ ((if marked then copyableMarker.toList else []) ++ ['>']) ++
        '<' :: 'c' :: ("ode class=\"".toList ++ (value ++ "\">".toList) ++
          (content ++ "</code></pre>".toList))) := by
    simp [codeSpelling]
  rw [hspelled, headingTags_other (by decide) hmarker, headingTags_other (by decide) hopening, hend]

/-- The markup of a code block brings no heading with it if that of the highlighter has none. -/
theorem headless_code {code : CodeElement η} (hlanguage : SafeValue code.language)
    (hmarkup : ∀ markup ∈ code.highlighted, headingTags markup.toList = []) :
    Headless code.html.toList := by
  have hmode : SafeValue (if code.isHighlighted then " " ++ highlightedClass else "") := by
    split <;> decide
  have hvalue : SafeValue code.classValue :=
    SafeValue.append (SafeValue.append (by decide) hlanguage) hmode
  have hcontent : headingTags code.content.toList = [] := by
    cases hhighlighted : code.highlighted with
    | some markup => simpa [CodeElement.content, hhighlighted] using hmarkup markup hhighlighted
    | none =>
      have htext := headingTags_of_notMem (safeText_escape code.source).no_open []
      rw [List.append_nil, headingTags] at htext
      simpa [CodeElement.content, hhighlighted] using htext
  rw [code.toList_html]
  exact ⟨rfl, getLast?_codeSpelling _ _ _, inert_codeSpelling _ hvalue.no_close _,
    headingTags_codeSpelling _ hvalue.no_open hcontent⟩

/-- The markup of an image brings no heading with it. -/
theorem headless_image {image : ImageElement η} (hopen : '<' ∉ image.attributes.toList)
    (hclose : '>' ∉ image.attributes.toList) : Headless image.html.toList := by
  have hmarkers : ∀ marker ∈ ["", zoomableMarker], '<' ∉ marker.toList ∧ '>' ∉ marker.toList := by
    decide
  obtain ⟨hmarkerOpen, hmarkerClose⟩ := hmarkers _ image.marker_mem
  have hspelled : image.html.toList = '<' :: 'i' :: (("mg".toList ++ (image.attributes.toList ++
      (image.marker.toList ++ " />".toList))) ++ []) := by
    rw [image.toList_html]
    simp
  have hparts : image.html.toList = ("<img".toList ++ (image.attributes.toList ++
      image.marker.toList)) ++ (" /".toList ++ ['>']) := by
    rw [image.toList_html]
    simp
  refine ⟨by rw [hspelled]; rfl, ?_, ?_, ?_⟩
  · rw [hparts, ← List.append_assoc, List.getLast?_concat]
  · rw [hparts]
    refine (inert_of_no_close ?_).append (by simp [Inert]) (.inr (by decide))
    simp [hclose, hmarkerClose]
  · rw [hspelled, headingTags_other (by decide) (by simp [hopen, hmarkerOpen])]
    rfl

/-! ### Markup with other elements in place of its own -/

/-- A tag ends, and what comes after it could end one more. -/
def EndsTwice (cs : List Char) : Prop := ∃ rest, cs = '>' :: rest ∧ ¬ Inert rest

/-- After the tags of such markup no other tag can be ended. -/
theorem inert_of_nowhere {before cs rest : List Char} (hcs : cs.getLast? = some '>')
    (h : Nowhere EndsTwice (before ++ (cs ++ rest)) []) :
    Inert rest ∧ Nowhere EndsTwice rest [] := by
  obtain ⟨front, rfl⟩ := List.getLast?_eq_some_iff.1 hcs
  rw [nowhere_append, nowhere_append, nowhere_append] at h
  obtain ⟨-, ⟨-, hclose, -⟩, hrest⟩ := h
  simp only [List.append_nil, List.nil_append] at hclose
  exact ⟨Classical.not_not.1 fun hinert => hclose ⟨rest, rfl, hinert⟩, hrest⟩

/-- **Elements without headings may change.** The scanner finds the same headings in markup whose
elements are replaced by others, when neither these nor those bring a heading with them. -/
theorem headingTags_map {f : Segment η → Segment η} {segments : List (Segment η)}
    (hsegments : ∀ segment ∈ segments, f segment = segment ∨
      (Headless segment.html.toList ∧ Headless (f segment).html.toList)) (before : List Char)
    (h : Nowhere EndsTwice (before ++ (Container.html ⟨segments⟩).toList) []) :
    headingTags (before ++ (Container.html ⟨segments.map f⟩).toList) =
        headingTags (before ++ (Container.html ⟨segments⟩).toList) ∧
      (Inert (before ++ (Container.html ⟨segments⟩).toList) →
        Inert (before ++ (Container.html ⟨segments.map f⟩).toList)) := by
  -- Markup between two elements is carried along until the second of them is reached.
  induction segments generalizing before with
  | nil => exact ⟨rfl, id⟩
  | cons segment segments ih =>
    obtain ⟨hsegment, hsegments⟩ := List.forall_mem_cons.1 hsegments
    rw [Container.html_cons, String.toList_append] at h ⊢
    rw [List.map_cons, Container.html_cons, String.toList_append]
    rcases hsegment with hsame | ⟨hold, hnew⟩
    · rw [← List.append_assoc] at h ⊢
      rw [hsame, ← List.append_assoc]
      exact ih hsegments _ h
    · obtain ⟨hrest, hnowhere⟩ := inert_of_nowhere hold.last h
      obtain ⟨hfound, hinert⟩ := ih hsegments [] hnowhere
      rw [List.nil_append, List.nil_append] at hfound hinert
      refine ⟨?_, fun hbefore => hnew.inert_between (hinert hrest) hbefore.left⟩
      rw [hnew.headingTags_between (hinert hrest), hold.headingTags_between hrest, hfound]

/-! ### The markup of documents -/

theorem no_close_spellAttributes {attributes : List Attribute}
    (hattributes : SafeAttributes documentVocabulary attributes) :
    '>' ∉ (spellAttributes attributes).toList := by
  have hnames : ∀ name ∈ documentVocabulary.attributes, '>' ∉ name.toList := by decide
  exact notMem_spellAttributes (by decide) fun attr hattr =>
    ⟨hnames attr.name (hattributes attr hattr).name_mem, (hattributes attr hattr).value.no_close⟩

/-- The first quotation mark of a tag begins a value. -/
theorem inert_attributes {attributes : List Attribute}
    (hattributes : SafeAttributes documentVocabulary attributes) {rest : List Char}
    (hrest : Inert rest) : Inert ((spellAttributes attributes).toList ++ rest) := by
  have hnames : ∀ name ∈ documentVocabulary.attributes, '"' ∉ name.toList := by decide
  cases attributes with
  | nil => exact hrest
  | cons attr others =>
    obtain ⟨name, value⟩ := attr
    obtain ⟨hname, hvalue⟩ := hattributes _ List.mem_cons_self
    have hstart : '"' ∉ (" " ++ name ++ "=").toList := by
      simp [hnames name hname]
    have hspelled : (spellAttributes (⟨name, value⟩ :: others)).toList ++ rest =
        (" " ++ name ++ "=").toList ++ ('"' :: (value.toList ++
          '"' :: ((spellAttributes others).toList ++ rest))) := by
      rw [spellAttributes_cons]
      simp
    rw [hspelled]
    exact inert_append_of_no_quote hstart (inert_value hvalue.no_close _)

/-- A piece of markup from whose tags on no other tag can be ended, before some rest. -/
structure Closes (cs rest : List Char) : Prop where
  inert : Inert (cs ++ rest)
  head : (cs ++ rest).head? ≠ some '>'
  nowhere : Nowhere EndsTwice cs rest

theorem nowhere_of_no_close {cs : List Char} (hcs : '>' ∉ cs) (rest : List Char) :
    Nowhere EndsTwice cs rest := by
  induction cs with
  | nil => trivial
  | cons c cs ih =>
    obtain ⟨hc, hcs⟩ := List.ne_and_not_mem_of_not_mem_cons hcs
    refine ⟨?_, ih hcs⟩
    rintro ⟨rest, hrest, -⟩
    exact hc (List.head_eq_of_cons_eq hrest).symm

theorem closes_tag {body rest : List Char} (hbody : '>' ∉ body) (hrest : Inert rest)
    (hinert : Inert ('<' :: (body ++ '>' :: rest))) : Closes ('<' :: (body ++ ['>'])) rest := by
  refine ⟨?_, ?_, ?_⟩
  · rwa [List.cons_append, List.append_assoc, List.singleton_append]
  · exact fun h => absurd (Option.some.inj h) (by decide)
  · rw [← List.cons_append, nowhere_append]
    refine ⟨nowhere_of_no_close ?_ _, ?_, trivial⟩
    · rw [List.mem_cons, not_or]
      exact ⟨by decide, hbody⟩
    · rintro ⟨after, hafter, hnot⟩
      cases hafter
      exact hnot hrest

/-- A tag with attributes, and perhaps a slash at its end. -/
theorem closes_attributes {name : String}
    (hname : name ∈ documentVocabulary.elements ++ documentVocabulary.singles)
    {attributes : List Attribute} (hattributes : SafeAttributes documentVocabulary attributes)
    {close : List Char} (hclose : close ∈ [[], " /".toList]) {rest : List Char}
    (hrest : Inert rest) :
    Closes ('<' :: (name.toList ++ ((spellAttributes attributes).toList ++ (close ++ ['>']))))
      rest := by
  have hnames : ∀ name ∈ documentVocabulary.elements ++ documentVocabulary.singles,
      '>' ∉ name.toList ∧ '"' ∉ '<' :: name.toList := by
    decide
  have hcloses : ∀ close ∈ [[], " /".toList], '>' ∉ close ∧ '"' ∉ close ++ ['>'] := by decide
  obtain ⟨hnameClose, hnameQuote⟩ := hnames name hname
  obtain ⟨hcloseClose, hcloseQuote⟩ := hcloses close hclose
  have hbody : '>' ∉ name.toList ++ ((spellAttributes attributes).toList ++ close) := by
    simp only [List.mem_append, not_or]
    exact ⟨hnameClose, no_close_spellAttributes hattributes, hcloseClose⟩
  have hinert : Inert ('<' :: name.toList ++ ((spellAttributes attributes).toList ++
      ((close ++ ['>']) ++ rest))) :=
    inert_append_of_no_quote hnameQuote
      (inert_attributes hattributes (inert_append_of_no_quote hcloseQuote hrest))
  have htag := closes_tag hbody hrest (by simpa using hinert)
  rwa [List.append_assoc, List.append_assoc] at htag

/-- After a token no tag can be ended that was begun before it or that ends with it. -/
theorem closes_token {token : Token} (htoken : token.Safe documentVocabulary) {rest : List Char}
    (hrest : Inert rest) (hclose : rest.head? ≠ some '>') : Closes token.spell.toList rest := by
  cases token with
  | text content =>
    refine ⟨(inert_of_no_close htoken.no_close).append hrest (.inr hclose), fun hhead => ?_,
      nowhere_of_no_close htoken.no_close rest⟩
    rw [Token.spell, List.head?_append, Option.or_eq_some_iff] at hhead
    rcases hhead with hhead | ⟨-, hhead⟩
    · exact htoken.no_close (List.mem_of_mem_head? hhead)
    · exact hclose hhead
  | opening name attributes =>
    have hend : [] ∈ [[], " /".toList] := by decide
    have htag := closes_attributes (List.mem_append_left _ htoken.1) htoken.2 hend hrest
    simpa [Token.spell] using htag
  | closing name =>
    have hnames : ∀ name ∈ documentVocabulary.elements,
        '>' ∉ '/' :: name.toList ∧ '"' ∉ '<' :: '/' :: (name.toList ++ ['>']) := by
      decide
    obtain ⟨hbody, hquote⟩ := hnames name htoken
    have hinert := inert_append_of_no_quote hquote hrest
    have htag := closes_tag hbody hrest (by simpa using hinert)
    simpa [Token.spell] using htag
  | single name attributes =>
    have hend : " /".toList ∈ [[], " /".toList] := by decide
    have htag := closes_attributes (List.mem_append_right _ htoken.1) htoken.2 hend hrest
    simpa [Token.spell] using htag

theorem closes_spell {tokens : List Token}
    (htokens : ∀ token ∈ tokens, token.Safe documentVocabulary) :
    Closes (spell tokens).toList [] := by
  induction tokens with
  | nil => exact ⟨trivial, by decide, trivial⟩
  | cons token tokens ih =>
    obtain ⟨htoken, htokens⟩ := List.forall_mem_cons.1 htokens
    obtain ⟨hinert, hhead, hnowhere⟩ := ih htokens
    rw [List.append_nil] at hinert hhead
    have hfirst := closes_token htoken hinert hhead
    rw [spell_cons, String.toList_append]
    refine ⟨?_, ?_, nowhere_append.2 ⟨?_, hnowhere⟩⟩
    · rw [List.append_nil]
      exact hfirst.inert
    · rw [List.append_nil]
      exact hfirst.head
    · rw [List.append_nil]
      exact hfirst.nowhere

/-! ### Passes over documents -/

/-- An enhancer whose highlighter, if it has one, gives no markup with a heading tag. -/
def Enhancer.AddsNoHeading (enhancer : Enhancer η) : Prop :=
  ∀ highlighter ∈ enhancer.highlighter, ∀ code language markup,
    highlighter.highlight code language = .ok markup → headingTags markup.toList = []

/-- **A pass over a document keeps its heading tags.** -/
theorem headingTags_enhanceHtml (renderer : Renderer) (root : Node) (headings : Headings)
    {enhancer : Enhancer η} (henhancer : enhancer.AddsNoHeading) :
    headingTags (enhanceHtml enhancer (compile renderer root headings).1).toList =
      headingTags (compile renderer root headings).1.toList := by
  obtain ⟨⟨segments⟩, hreadable, hunwired, hhtml, hcodes, himages⟩ :=
    cuts_compile (η := η) renderer root headings
  have hcloses : Closes (compile renderer root headings).1.toList [] := by
    rw [compile, compileAt_eq_spell]
    exact closes_spell (wellFormed_tokensAt renderer 0 root headings).safe
  have hcode : ∀ code ∈ (⟨segments⟩ : Container η).codes,
      SafeValue code.language ∧ code.highlighted = none := by
    rw [hcodes]
    exact List.forall_mem_map.2 fun node _ => ⟨safeValue_languageTag _, rfl⟩
  have himage : ∀ image ∈ (⟨segments⟩ : Container η).images,
      '<' ∉ image.attributes.toList ∧ '>' ∉ image.attributes.toList := by
    rw [himages]
    refine List.forall_mem_map.2 fun node _ => ?_
    have hsafe := ((documentTokens_image node).safe _ List.mem_cons_self).2
    simp only [Node.imageElement, imageAttributes]
    exact ⟨no_open_spellAttributes hsafe, no_close_spellAttributes hsafe⟩
  have hsegments : ∀ segment ∈ segments,
      segment.unwired.change enhancer.codeAfter enhancer.imageAfter = segment ∨
        (Headless segment.html.toList ∧
          Headless
            (segment.unwired.change enhancer.codeAfter enhancer.imageAfter).html.toList) := by
    intro segment hsegment
    cases segment with
    | markup text => exact .inl rfl
    | code element =>
      obtain ⟨hlanguage, hplain⟩ := hcode element (List.mem_filterMap.2 ⟨_, hsegment, rfl⟩)
      refine .inr ⟨headless_code hlanguage ?_, headless_code hlanguage fun markup hmarkup => ?_⟩
      · rw [hplain]
        intro _ h
        cases h
      · obtain ⟨highlighter, hhighlighter, -, hok⟩ := Enhancer.highlight_of_markup? hmarkup
        exact henhancer highlighter hhighlighter _ _ _ hok
    | image element =>
      obtain ⟨hopen, hclose⟩ := himage element (List.mem_filterMap.2 ⟨_, hsegment, rfl⟩)
      exact .inr ⟨headless_image hopen hclose, headless_image hopen hclose⟩
  rw [← hhtml] at hcloses ⊢
  rw [Container.enhanceHtml_html hreadable]
  exact (headingTags_map hsegments [] hcloses.nowhere).1

/-! ### Escaped code in spans -/

theorem headingTags_withScopes {scopes : List String} (hscopes : ∀ scope ∈ scopes, ScopeName scope)
    {markup : String} (hmarkup : '<' ∉ markup.toList) (rest : List Char) :
    headingTags ((withScopes scopes markup).toList ++ rest) = headingTags rest := by
  induction scopes generalizing rest with
  | nil => exact headingTags_of_notMem hmarkup rest
  | cons scope scopes ih =>
    obtain ⟨hscope, hscopes⟩ := List.forall_mem_cons.1 hscopes
    have hopening : '<' ∉ "pan class=\"".toList ++ (scope.toList ++ "\">".toList) := by
      simp [hscope.1]
    have hspelled : (withScopes (scope :: scopes) markup).toList ++ rest =
        '<' :: 's' :: ("pan class=\"".toList ++ (scope.toList ++ "\">".toList) ++
          ((withScopes scopes markup).toList ++ '<' :: '/' :: ("span>".toList ++ rest))) := by
      rw [toList_withScopes_cons]
      simp
    rw [hspelled, headingTags_other (by decide) hopening, ih hscopes,
      headingTags_other (by decide) (by decide)]

/-- The stand-in for a library of grammars gives no markup with a heading tag. -/
theorem headingTags_builtinHighlighter {code language markup : String}
    (h : builtinHighlighter.highlight code language = .ok markup) :
    headingTags markup.toList = [] := by
  rcases markup_builtinHighlighter h with ⟨rfl, -⟩ | ⟨scopes, hscopes, rfl⟩
  · rfl
  · have hcode := (safeText_escape code).no_open
    have htags := headingTags_withScopes hscopes hcode []
    rwa [List.append_nil, headingTags] at htags

end Folio
