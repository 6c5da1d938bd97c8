import Folio.Highlight
import Folio.Proofs.ElementMarkup

/-!
# Escaped code in spans

The highlighters here escape the code and put spans around it. Without the spans and with the
entities replaced this is the code again, and no end of a code block comes with it, so that the
markup can be shown and taken away any number of times.

One of them is the stand-in for a library of grammars, which takes the spans from a table. The other
makes the span from the language itself, so that its markup is faithful for a language without angle
brackets, which could end the tag of the span.

## Main definitions

* `Folio.ScopeName`: a class that does not end the tag of its span.
* `Folio.spanHighlighter`: a highlighter that makes one span of the language.

## Main results

* `Folio.dropTags_append`, `Folio.dropTags_tag`: dropping tags keeps text and drops a tag.
* `Folio.GrammarLibrary.highlight_eq_ok`: what the highlighter with the grammars of a library gives.
* `Folio.faithful_builtinHighlighter`: the markup of the stand-in is faithful.
* `Folio.faithful_spanHighlighter`: so is that of the other, for such a language.
-/

namespace Folio

open Html Text

/-! ### Dropping tags -/

/-- Text without tags is kept. -/
theorem dropTags_append {cs : List Char} (hcs : '<' ∉ cs) (rest : List Char) :
    dropTags false (cs ++ rest) = cs ++ dropTags false rest := by
  induction cs with
  | nil => rfl
  | cons c cs ih =>
    obtain ⟨hc, hcs⟩ := List.ne_and_not_mem_of_not_mem_cons hcs
    have hplain : (c == '<') = false := by simpa using hc.symm
    rw [List.cons_append, dropTags, hplain, ih hcs]
    simp

/-- A tag that is open ends at its first angle bracket. -/
theorem dropTags_inside {cs : List Char} (hcs : '>' ∉ cs) (rest : List Char) :
    dropTags true (cs ++ '>' :: rest) = dropTags false rest := by
  induction cs with
  | nil => simp [dropTags]
  | cons c cs ih =>
    obtain ⟨hc, hcs⟩ := List.ne_and_not_mem_of_not_mem_cons hcs
    have hopen : (c != '>') = true := by simpa using hc.symm
    rw [List.cons_append, dropTags, if_pos rfl, hopen, ih hcs]

/-- A tag is dropped. -/
theorem dropTags_tag {cs : List Char} (hcs : '>' ∉ cs) (rest : List Char) :
    dropTags false ('<' :: (cs ++ '>' :: rest)) = dropTags false rest := by
  rw [dropTags, ← dropTags_inside hcs rest]
  simp

/-! ### Spans -/

/-- The class of a span, without the angle brackets that begin and end a tag. -/
def ScopeName (scope : String) : Prop := '<' ∉ scope.toList ∧ '>' ∉ scope.toList

/-- The characters of one more span around markup. -/
theorem toList_withScopes_cons (scope : String) (scopes : List String) (markup : String) :
    (withScopes (scope :: scopes) markup).toList =
      '<' :: ("span class=\"".toList ++ scope.toList ++ "\"".toList ++ '>' ::
        ((withScopes scopes markup).toList ++ '<' :: ("/span".toList ++ ['>']))) := by
  simp [withScopes]

theorem dropTags_withScopes {scopes : List String} (hscopes : ∀ scope ∈ scopes, ScopeName scope)
    {markup : String} (hmarkup : '<' ∉ markup.toList) (rest : List Char) :
    dropTags false ((withScopes scopes markup).toList ++ rest) =
      markup.toList ++ dropTags false rest := by
  induction scopes generalizing rest with
  | nil => exact dropTags_append hmarkup rest
  | cons scope scopes ih =>
    obtain ⟨hscope, hscopes⟩ := List.forall_mem_cons.1 hscopes
    have hopening : '>' ∉ "span class=\"".toList ++ scope.toList ++ "\"".toList := by
      simp [hscope.2]
    rw [toList_withScopes_cons, List.cons_append, List.append_assoc, List.cons_append,
      dropTags_tag hopening, List.append_assoc, ih hscopes, List.cons_append, List.append_assoc,
      List.singleton_append, dropTags_tag (by decide)]

theorem nowhere_withScopes {scopes : List String} (hscopes : ∀ scope ∈ scopes, ScopeName scope)
    {markup : String} (hmarkup : '<' ∉ markup.toList) (rest : List Char) :
    Nowhere "</code></pre>".toList.IsPrefix (withScopes scopes markup).toList rest := by
  have htext {cs : List Char} (hcs : '<' ∉ cs) (rest : List Char) :
      Nowhere "</code></pre>".toList.IsPrefix cs rest :=
    nowhere_of_notMem (by decide) hcs rest
  induction scopes generalizing rest with
  | nil => exact htext hmarkup rest
  | cons scope scopes ih =>
    obtain ⟨hscope, hscopes⟩ := List.forall_mem_cons.1 hscopes
    rw [toList_withScopes_cons]
    -- The tags of a span start as the end of a code block does, but their names are others.
    refine ⟨by simp, ?_⟩
    rw [nowhere_append]
    refine ⟨htext (by simp [hscope.1]) _, ?_⟩
    rw [← List.singleton_append, nowhere_append, nowhere_append]
    exact ⟨htext (by decide) _, ih hscopes _, by simp, htext (by decide) _⟩

/-- **Escaped code in spans is faithful.** -/
theorem faithful_withScopes {scopes : List String} (hscopes : ∀ scope ∈ scopes, ScopeName scope)
    (code : String) : Faithful (withScopes scopes (escape code)) code := by
  have hcode := (safeText_escape code).no_open
  refine ⟨not_occursIn_of_nowhere (by decide) (nowhere_withScopes hscopes hcode []), ?_⟩
  have hdropped := dropTags_withScopes hscopes hcode []
  rw [List.append_nil, dropTags, List.append_nil] at hdropped
  rw [markupText, hdropped, toList_escape, unescapeChars_escape, String.ofList_toList]

/-! ### The stand-in for a library -/

/-- The highlighter with the grammars of a library gives the markup that the grammar gives, and
nothing where the grammar complains or is missing. -/
theorem GrammarLibrary.highlight_eq_ok {library : GrammarLibrary} {code language markup : String} :
    library.highlighter.highlight code language = .ok markup ↔
      library.markup? (syntaxToken language) code = some (.ok markup) := by
  simp only [highlighter]
  cases library.markup? (syntaxToken language) code with
  | none => exact iff_of_false nofun nofun
  | some result =>
    cases result with
    | error message => exact iff_of_false nofun nofun
    | ok found =>
      change Except.ok found = Except.ok markup ↔ _
      simp

/-- What the stand-in gives is empty or escaped code in spans. -/
theorem markup_builtinHighlighter {code language markup : String}
    (h : builtinHighlighter.highlight code language = .ok markup) :
    markup = "" ∧ code = "" ∨
      ∃ scopes, (∀ scope ∈ scopes, ScopeName scope) ∧ markup = withScopes scopes (escape code) := by
  have hnames : ∀ entry ∈ languageScopes, ∀ scope ∈ entry.2,
      '<' ∉ scope.toList ∧ '>' ∉ scope.toList := by
    decide
  obtain ⟨scopes, hfound, hmarkup⟩ :=
    Option.map_eq_some_iff.1 (GrammarLibrary.highlight_eq_ok.1 h)
  obtain rfl := Except.ok.inj hmarkup
  split
  case isTrue hempty => exact .inl ⟨rfl, String.isEmpty_iff.1 hempty⟩
  case isFalse =>
    obtain ⟨before, after, hentries, -⟩ := List.lookup_eq_some_iff.1 hfound
    rw [hentries] at hnames
    exact .inr ⟨scopes, hnames _ (List.mem_append_right before List.mem_cons_self), rfl⟩

/-- **The markup of the stand-in is faithful.** -/
theorem faithful_builtinHighlighter {code language markup : String}
    (h : builtinHighlighter.highlight code language = .ok markup) : Faithful markup code := by
  rcases markup_builtinHighlighter h with ⟨rfl, rfl⟩ | ⟨scopes, hscopes, rfl⟩
  · decide
  · exact faithful_withScopes hscopes code

/-! ### One span -/

/-- Puts the escaped code in one span, whose class is made of the language, and refuses the language
`lua`. -/
def spanHighlighter : Highlighter where
  highlight code language :=
    if language = "lua" then .error (.unsupportedLanguage language)
    else .ok (withScopes ["hl-" ++ language] (escape code))

/-- The markup is faithful when the language can stand in a class. -/
theorem faithful_spanHighlighter {code language markup : String} (hlanguage : ScopeName language)
    (h : spanHighlighter.highlight code language = .ok markup) : Faithful markup code := by
  simp only [spanHighlighter] at h
  split at h
  case isTrue => cases h
  case isFalse =>
    obtain rfl := Except.ok.inj h
    have hscope : ScopeName ("hl-" ++ language) := by
      simpa [ScopeName] using hlanguage
    exact faithful_withScopes (List.forall_mem_singleton.2 hscope) code

end Folio
