import Folio.Html.Slug
import Folio.Proofs.Entities
import Mathlib.Computability.Language

/-!
# The form of slugs

A slug is made in one pass that remembers whether a hyphen is due. Without the pass it is described
by the maximal runs of characters that slugs keep: they stand in the slug in their order, with one
hyphen between two of them. What the pass writes after the start depends on whether it stands in a
run, so that the runs of the rest are either continued or all come after hyphens; these two cases go
through one induction.

From the runs of a text follow the form of its slug, that a slug is its own slug, and how the slug
of a text is put together from those of its parts.

## Main definitions

* `Folio.Html.slugRuns`: the maximal runs of slug characters.
* `Folio.Html.slugForm`: the language `[a-z0-9]+(-[a-z0-9]+)*`.

## Main results

* `Folio.Html.toList_slug`: a slug is made of the runs of the lower-cased text.
* `Folio.Html.slugRuns_intercalate`: runs with hyphens between them are read back.
* `Folio.Html.slug_normal_form`: the form of slugs and of the identifiers of headings.
-/

namespace Folio.Html

open Folio.Text
open scoped Computability

/-! ### Runs of slug characters -/

/-- The maximal runs of characters that a slug keeps: the pieces between the other characters, but
for those that are empty. -/
def slugRuns (cs : List Char) : List (List Char) :=
  (cs.splitOnP fun c => !isSlugChar c).filter fun run => !run.isEmpty

/-- A word that slugs are made of. -/
structure IsSlugWord (word : List Char) : Prop where
  ne_nil : word ≠ []
  all : ∀ c ∈ word, isSlugChar c = true

section Runs

variable {c : Char} {word cs : List Char} {words : List (List Char)}

theorem slugRuns_append_cons (hc : isSlugChar c = false) (xs ys : List Char) :
    slugRuns (xs ++ c :: ys) = slugRuns xs ++ slugRuns ys := by
  rw [slugRuns, List.splitOnP_append_cons xs ys (by rw [hc, Bool.not_false]), List.filter_append,
    slugRuns, slugRuns]

theorem slugRuns_cons_of_neg (hc : isSlugChar c = false) (cs : List Char) :
    slugRuns (c :: cs) = slugRuns cs :=
  slugRuns_append_cons hc [] cs

/-- Characters that a slug does not keep have no runs. -/
theorem slugRuns_append_of_neg {gap : List Char} (hgap : ∀ c ∈ gap, isSlugChar c = false)
    (cs : List Char) : slugRuns (gap ++ cs) = slugRuns cs := by
  induction gap with
  | nil => rfl
  | cons c gap ih =>
    obtain ⟨hc, hrest⟩ := List.forall_mem_cons.1 hgap
    rw [List.cons_append, slugRuns_cons_of_neg hc, ih hrest]

/-- Where other characters stand between two parts, no run goes over both. -/
theorem slugRuns_append_append {gap : List Char} (hne : gap ≠ [])
    (hgap : ∀ c ∈ gap, isSlugChar c = false) (xs ys : List Char) :
    slugRuns (xs ++ gap ++ ys) = slugRuns xs ++ slugRuns ys := by
  obtain ⟨c, rest, rfl⟩ := List.exists_cons_of_ne_nil hne
  obtain ⟨hc, hrest⟩ := List.forall_mem_cons.1 hgap
  rw [List.append_assoc, List.cons_append, slugRuns_append_cons hc, slugRuns_append_of_neg hrest]

theorem IsSlugWord.slugRuns_eq (hword : IsSlugWord word) : slugRuns word = [word] := by
  have hsplit : (word.splitOnP fun c => !isSlugChar c) = [word] :=
    List.splitOnP_eq_singleton fun c hc => by rw [hword.all c hc, Bool.not_true]
  rw [slugRuns, hsplit, List.filter_singleton, List.isEmpty_eq_false_iff.2 hword.ne_nil]
  rfl

theorem exists_slugRuns_cons (hc : isSlugChar c = true) (cs : List Char) :
    ∃ word words, slugRuns (c :: cs) = word :: words := by
  obtain ⟨first, rest, hsplit⟩ := List.exists_cons_of_ne_nil
    (List.splitOnP_ne_nil (fun c => !isSlugChar c) cs)
  refine ⟨c :: first, rest.filter fun run => !run.isEmpty, ?_⟩
  rw [slugRuns, List.splitOnP_cons_eq_if_modifyHead, hc, hsplit]
  rfl

/-- A piece between the other characters has none of them. -/
theorem isSlugChar_of_mem_splitOnP (h : word ∈ cs.splitOnP fun c => !isSlugChar c) :
    ∀ c ∈ word, isSlugChar c = true := by
  induction cs generalizing word with
  | nil =>
    rw [List.splitOnP_nil, List.mem_singleton] at h
    subst h
    exact fun c hc => absurd hc List.not_mem_nil
  | cons c cs ih =>
    obtain ⟨first, rest, hsplit⟩ := List.exists_cons_of_ne_nil
      (List.splitOnP_ne_nil (fun c => !isSlugChar c) cs)
    rw [List.splitOnP_cons_eq_if_modifyHead, hsplit] at h
    rw [hsplit] at ih
    cases hc : isSlugChar c with
    | true =>
      rw [hc] at h
      rcases List.mem_cons.1 h with rfl | h
      · exact List.forall_mem_cons.2 ⟨hc, ih List.mem_cons_self⟩
      · exact ih (List.mem_cons_of_mem first h)
    | false =>
      rw [hc] at h
      rcases List.mem_cons.1 h with rfl | h
      · exact fun d hd => absurd hd List.not_mem_nil
      · exact ih h

/-- Each run is a word. -/
theorem isSlugWord_of_mem (h : word ∈ slugRuns cs) : IsSlugWord word := by
  rw [slugRuns, List.mem_filter, Bool.not_eq_true', List.isEmpty_eq_false_iff] at h
  exact ⟨h.2, isSlugChar_of_mem_splitOnP h.1⟩

end Runs

/-! ### Words with hyphens between them -/

section Words

variable {word : List Char} {words others : List (List Char)}

/-- Every word after the first has a hyphen before it. -/
theorem intercalate_cons (word : List Char) (words : List (List Char)) :
    ['-'].intercalate (word :: words) = word ++ words.flatMap fun other => '-' :: other := by
  induction words generalizing word with
  | nil => rw [List.intercalate_singleton, List.flatMap_nil, List.append_nil]
  | cons other words ih => rw [List.intercalate_cons_cons, ih, List.flatMap_cons]; simp

theorem intercalate_append (hwords : words ≠ []) (hothers : others ≠ []) :
    ['-'].intercalate (words ++ others) =
      ['-'].intercalate words ++ '-' :: ['-'].intercalate others := by
  obtain ⟨word, words, rfl⟩ := List.exists_cons_of_ne_nil hwords
  obtain ⟨other, others, rfl⟩ := List.exists_cons_of_ne_nil hothers
  simp only [List.cons_append, intercalate_cons, List.flatMap_append, List.flatMap_cons,
    List.append_assoc]

theorem intercalate_eq_nil_iff (hall : ∀ word ∈ words, IsSlugWord word) :
    ['-'].intercalate words = [] ↔ words = [] := by
  cases words with
  | nil => exact ⟨fun _ => rfl, fun _ => rfl⟩
  | cons word words =>
    rw [intercalate_cons, List.append_eq_nil_iff]
    exact ⟨fun h => absurd h.1 (hall word List.mem_cons_self).ne_nil, fun h => absurd h (by simp)⟩

/-- **Words with hyphens between them are read back as the runs.** -/
theorem slugRuns_intercalate (hall : ∀ word ∈ words, IsSlugWord word) :
    slugRuns (['-'].intercalate words) = words := by
  induction words with
  | nil => rfl
  | cons word words ih =>
    obtain ⟨hword, hrest⟩ := List.forall_mem_cons.1 hall
    cases words with
    | nil => rw [List.intercalate_singleton, hword.slugRuns_eq]
    | cons other words =>
      rw [List.intercalate_cons_cons, List.append_assoc, List.singleton_append,
        slugRuns_append_cons (by decide), hword.slugRuns_eq, ih hrest, List.singleton_append]

end Words

/-! ### A slug and its runs -/

/-- What the pass writes once it has kept a character: within a run it goes on with the run, and
after other characters each run of the rest comes after a hyphen. -/
theorem slugFrom_begun (cs : List Char) :
    (∀ word, IsSlugWord word →
      word ++ slugFrom false true cs = ['-'].intercalate (slugRuns (word ++ cs))) ∧
    slugFrom true true cs = (slugRuns cs).flatMap fun word => '-' :: word := by
  induction cs with
  | nil =>
    refine ⟨fun word hword => ?_, rfl⟩
    rw [List.append_nil, hword.slugRuns_eq, List.intercalate_singleton, slugFrom, List.append_nil]
  | cons c cs ih =>
    obtain ⟨ihWithin, ihAfter⟩ := ih
    cases hc : isSlugChar c with
    | true =>
      have hsingle : IsSlugWord [c] :=
        ⟨List.cons_ne_nil c [], fun d hd => by rw [List.mem_singleton.1 hd, hc]⟩
      constructor
      · intro word hword
        have hlonger : IsSlugWord (word ++ [c]) :=
          ⟨List.append_ne_nil_of_left_ne_nil hword.ne_nil _,
            List.forall_mem_append.2 ⟨hword.all, hsingle.all⟩⟩
        rw [slugFrom, if_pos hc, List.append_cons word c cs, ← ihWithin _ hlonger,
          List.append_assoc]
        rfl
      · obtain ⟨word, words, hruns⟩ := exists_slugRuns_cons hc cs
        have hrest := ihWithin [c] hsingle
        rw [List.singleton_append, List.singleton_append, hruns, intercalate_cons] at hrest
        rw [slugFrom, if_pos hc, hruns, List.flatMap_cons, List.cons_append, ← hrest]
        rfl
    | false =>
      constructor
      · intro word hword
        rw [slugFrom, hc, slugRuns_append_cons hc, hword.slugRuns_eq, List.singleton_append,
          intercalate_cons, ← ihAfter]
        rfl
      · rw [slugFrom, hc, slugRuns_cons_of_neg hc, ← ihAfter]
        rfl

theorem slugFrom_eq_intercalate (gap : Bool) (cs : List Char) :
    slugFrom gap false cs = ['-'].intercalate (slugRuns cs) := by
  induction cs generalizing gap with
  | nil => rfl
  | cons c cs ih =>
    cases hc : isSlugChar c with
    | true =>
      have hsingle : IsSlugWord [c] :=
        ⟨List.cons_ne_nil c [], fun d hd => by rw [List.mem_singleton.1 hd, hc]⟩
      have hrest := (slugFrom_begun cs).1 [c] hsingle
      rw [List.singleton_append, List.singleton_append] at hrest
      rw [slugFrom, if_pos hc, Bool.and_false, ← hrest]
      rfl
    | false =>
      rw [slugFrom, hc, slugRuns_cons_of_neg hc, ← ih true]
      rfl

/-- **A slug is made of the runs of the lower-cased text**, with a hyphen between two of them. -/
theorem toList_slug (text : String) :
    (slug text).toList = ['-'].intercalate (slugRuns (lowerChars text)) := by
  rw [slug, String.toList_ofList, slugFrom_eq_intercalate]

theorem slug_eq_empty_iff {text : String} :
    slug text = "" ↔ slugRuns (lowerChars text) = [] := by
  rw [← intercalate_eq_nil_iff fun word => isSlugWord_of_mem, ← toList_slug,
    String.toList_eq_nil_iff]

/-! ### Lower-casing -/

/-- Every character has a lower-case form. -/
theorem lower_ne_nil (c : Char) : lower c ≠ [] := by
  have hsequences : ∀ codes, lowerSequences.lookup c.toNat = some codes → codes ≠ [] := by
    intro codes hcodes
    obtain ⟨before, after, hentries, -⟩ := List.lookup_eq_some_iff.1 hcodes
    have hall : ∀ entry ∈ lowerSequences, entry.2 ≠ [] := by decide
    exact hall _ (hentries ▸ List.mem_append_right before List.mem_cons_self)
  rw [lower, mapCase]
  split
  · exact List.cons_ne_nil _ _
  · split
    · rename_i codes hcodes
      exact fun h => hsequences codes hcodes (List.map_eq_nil_iff.1 h)
    · split <;> exact List.cons_ne_nil _ _

/-- A character of a slug. -/
def inSlug (c : Char) : Bool := isSlugChar c || c == '-'

theorem toNat_lt_of_inSlug {c : Char} (hc : inSlug c = true) : c.toNat < 0x80 := by
  simp only [inSlug, isSlugChar, Bool.or_eq_true, Bool.and_eq_true, decide_eq_true_eq,
    beq_iff_eq, Char.le_def, UInt32.le_iff_toNat_le] at hc
  rcases hc with (⟨-, hc⟩ | ⟨-, hc⟩) | rfl
  · exact Nat.lt_of_le_of_lt hc (by decide)
  · exact Nat.lt_of_le_of_lt hc (by decide)
  · decide

/-- A character of a slug is in lower case and has no entity. -/
theorem plain_of_inSlug {c : Char} (hc : inSlug c = true) :
    lower c = [c] ∧ escapeChar c = [c] := by
  have hascii : ∀ n < 0x80, inSlug (Char.ofNat n) = true →
      lower (Char.ofNat n) = [Char.ofNat n] ∧ escapeChar (Char.ofNat n) = [Char.ofNat n] := by
    decide
  have h := hascii c.toNat (toNat_lt_of_inSlug hc)
  rw [Char.ofNat_toNat] at h
  exact h hc

theorem lowerChars_append (s t : String) : lowerChars (s ++ t) = lowerChars s ++ lowerChars t := by
  rw [lowerChars, String.toList_append, List.flatMap_append, lowerChars, lowerChars]

/-! ### The form of slugs -/

/-- The language `[a-z0-9]`. -/
def slugLetter : Language Char := {word | ∃ c, isSlugChar c = true ∧ word = [c]}

/-- The language `[a-z0-9]+`. -/
def slugWord : Language Char := slugLetter * slugLetter∗

/-- The language `[a-z0-9]+(-[a-z0-9]+)*`. -/
def slugForm : Language Char := slugWord * ({['-']} * slugWord)∗

section Form

variable {word cs : List Char} {words : List (List Char)}

theorem IsSlugWord.mem_slugWord (hword : IsSlugWord word) : word ∈ slugWord := by
  obtain ⟨c, rest, rfl⟩ := List.exists_cons_of_ne_nil hword.ne_nil
  obtain ⟨hc, hrest⟩ := List.forall_mem_cons.1 hword.all
  refine Language.append_mem_mul (a := [c]) ⟨c, hc, rfl⟩ ?_
  rw [Language.mem_kstar]
  refine ⟨rest.map fun d => [d], (List.flatMap_singleton' rest).symm, fun letter hletter => ?_⟩
  obtain ⟨d, hd, rfl⟩ := List.mem_map.1 hletter
  exact ⟨d, hrest d hd, rfl⟩

theorem intercalate_mem_slugForm (hne : words ≠ []) (hall : ∀ word ∈ words, IsSlugWord word) :
    ['-'].intercalate words ∈ slugForm := by
  obtain ⟨word, words, rfl⟩ := List.exists_cons_of_ne_nil hne
  obtain ⟨hword, hrest⟩ := List.forall_mem_cons.1 hall
  rw [intercalate_cons, List.flatMap_def]
  refine Language.append_mem_mul hword.mem_slugWord (Language.join_mem_kstar fun piece hpiece => ?_)
  obtain ⟨other, hother, rfl⟩ := List.mem_map.1 hpiece
  exact Language.append_mem_mul (a := ['-']) rfl (hrest other hother).mem_slugWord

/-- Words and hyphens are all in lower case and have no entities. -/
theorem inSlug_of_mem_intercalate (hall : ∀ word ∈ words, IsSlugWord word) :
    ∀ c ∈ ['-'].intercalate words, inSlug c = true := by
  have inWord : ∀ word, IsSlugWord word → ∀ c ∈ word, inSlug c = true := by
    intro word hword c hc
    rw [inSlug, hword.all c hc, Bool.true_or]
  cases words with
  | nil => exact fun c hc => absurd hc List.not_mem_nil
  | cons word words =>
    obtain ⟨hword, hrest⟩ := List.forall_mem_cons.1 hall
    rw [intercalate_cons]
    intro c hc
    rcases List.mem_append.1 hc with hc | hc
    · exact inWord word hword c hc
    · obtain ⟨other, hother, hc⟩ := List.mem_flatMap.1 hc
      rcases List.mem_cons.1 hc with rfl | hc
      · decide
      · exact inWord other (hrest other hother) c hc

end Form

/-- **A slug is its own slug.** -/
theorem slug_slug (text : String) : slug (slug text) = slug text := by
  have hwords : ∀ word ∈ slugRuns (lowerChars text), IsSlugWord word :=
    fun word => isSlugWord_of_mem
  have hlower : lowerChars (slug text) = (slug text).toList := by
    rw [lowerChars, toList_slug]
    exact (List.flatMap_congr fun c hc =>
      (plain_of_inSlug (inSlug_of_mem_intercalate hwords c hc)).1).trans (List.flatMap_singleton' _)
  apply String.toList_injective
  rw [toList_slug, hlower, toList_slug, slugRuns_intercalate hwords]

/-- **The slug of a text in parts.** Where a character stands between them of which nothing is kept,
their slugs stand with a hyphen between them, but for those that are empty. -/
theorem slug_append_append {c : Char} (hc : ∀ d ∈ lower c, isSlugChar d = false) (s t : String) :
    slug (s ++ String.singleton c ++ t) = "-".intercalate ([slug s, slug t].filter (· ≠ "")) := by
  have hruns : slugRuns (lowerChars (s ++ String.singleton c ++ t)) =
      slugRuns (lowerChars s) ++ slugRuns (lowerChars t) := by
    have hgap : lowerChars (String.singleton c) = lower c := by
      rw [lowerChars, String.toList_singleton, List.flatMap_singleton]
    rw [lowerChars_append, lowerChars_append, hgap,
      slugRuns_append_append (lower_ne_nil c) hc]
  apply String.toList_injective
  rw [toList_slug, hruns]
  by_cases hs : slug s = "" <;> by_cases ht : slug t = ""
  · rw [slug_eq_empty_iff.1 hs, slug_eq_empty_iff.1 ht, hs, ht]
    rfl
  · rw [slug_eq_empty_iff.1 hs, List.nil_append, ← toList_slug]
    simp [hs, ht]
  · rw [slug_eq_empty_iff.1 ht, List.append_nil, ← toList_slug]
    simp [hs, ht]
  · rw [intercalate_append (slug_eq_empty_iff.not.1 hs) (slug_eq_empty_iff.not.1 ht),
      ← toList_slug, ← toList_slug]
    simp [hs, ht]

/-! ### Identifiers of headings -/

theorem isSlugWord_toString (n : Nat) : IsSlugWord (toString n).toList := by
  rw [Nat.toString_eq_repr, Nat.toList_repr]
  refine ⟨Nat.toDigits_ne_nil, fun c hc => ?_⟩
  have hdigit := Nat.isDigit_of_mem_toDigits (by decide) (by decide) hc
  rw [Char.isDigit, Bool.and_eq_true, decide_eq_true_eq, decide_eq_true_eq] at hdigit
  have hlow : '0' ≤ c := hdigit.1
  have hhigh : c ≤ '9' := hdigit.2
  rw [isSlugChar, decide_eq_true hlow, decide_eq_true hhigh, Bool.and_self, Bool.or_true]

/-- The identifier of a heading is made of words, and there is always one. -/
theorem exists_words_headingId (text : String) (n : Nat) :
    ∃ words, words ≠ [] ∧ (∀ word ∈ words, IsSlugWord word) ∧
      (headingId text n).toList = ['-'].intercalate words := by
  have hbase : ∃ words, words ≠ [] ∧ (∀ word ∈ words, IsSlugWord word) ∧
      (baseSlug text).toList = ['-'].intercalate words := by
    rw [baseSlug]
    split
    · exact ⟨[fallbackSlug.toList], by decide, fun word hword => by
        rw [List.mem_singleton.1 hword]
        exact ⟨by decide, List.forall_iff_forall_mem.1 (by decide)⟩, rfl⟩
    · rename_i hslug
      rw [String.isEmpty_iff] at hslug
      exact ⟨_, slug_eq_empty_iff.not.1 hslug, fun word => isSlugWord_of_mem, toList_slug text⟩
  obtain ⟨words, hne, hall, hwords⟩ := hbase
  rw [headingId]
  split
  · refine ⟨words ++ [(toString n).toList], List.concat_ne_nil _ _,
      List.forall_mem_append.2 ⟨hall, fun word hword => ?_⟩, ?_⟩
    · rw [List.mem_singleton.1 hword]
      exact isSlugWord_toString n
    · rw [intercalate_append hne (List.cons_ne_nil _ _), List.intercalate_singleton, ← hwords]
      simp
  · exact ⟨words, hne, hall, hwords⟩

/-- **The form of slugs.** A slug is made of the maximal runs of letters and digits of the
lower-cased text with a hyphen between two of them, so that it is empty or of one form, is its own
slug, and is put together from the slugs of the parts of a text. Identifiers of headings are of the
same form, never empty, and stand in markup as they are. -/
theorem slug_normal_form :
    (∀ text, slug text = "-".intercalate ((slugRuns (lowerChars text)).map String.ofList)) ∧
    (∀ text, slug text = "" ∨ (slug text).toList ∈ slugForm) ∧
    (∀ text, slug (slug text) = slug text) ∧
    (∀ (s t : String) (c : Char), (∀ d ∈ lower c, isSlugChar d = false) →
      slug (s ++ String.singleton c ++ t) =
        "-".intercalate ([slug s, slug t].filter (· ≠ ""))) ∧
    ∀ text n, headingId text n ≠ "" ∧ (headingId text n).toList ∈ slugForm ∧
      escape (headingId text n) = headingId text n := by
  refine ⟨fun text => ?_, fun text => ?_, slug_slug, fun s t c hc => slug_append_append hc s t,
    fun text n => ?_⟩
  · apply String.toList_injective
    rw [toList_slug, String.toList_intercalate, List.map_map]
    simp [Function.comp_def]
  · rw [or_iff_not_imp_left, slug_eq_empty_iff, toList_slug]
    exact fun hne => intercalate_mem_slugForm hne fun word => isSlugWord_of_mem
  · obtain ⟨words, hne, hall, hwords⟩ := exists_words_headingId text n
    refine ⟨fun hempty => hne ?_, hwords ▸ intercalate_mem_slugForm hne hall, ?_⟩
    · rw [← intercalate_eq_nil_iff hall, ← hwords, hempty, String.toList_empty]
    · apply String.toList_injective
      rw [toList_escape, hwords]
      exact (List.flatMap_congr fun c hc =>
        (plain_of_inSlug (inSlug_of_mem_intercalate hall c hc)).2).trans (List.flatMap_singleton' _)

/-- A letter with an accent separates two parts. -/
theorem slug_normal_form_accent :
    (∀ d ∈ lower 'É', isSlugChar d = false) ∧
      slug ("Caf" ++ String.singleton 'É' ++ " au lait") = "caf-au-lait" := by
  have hc : ∀ d ∈ lower 'É', isSlugChar d = false :=
    List.forall_iff_forall_mem.1 (by decide)
  refine ⟨hc, (slug_normal_form.2.2.2.1 "Caf" " au lait" 'É' hc).trans ?_⟩
  decide +kernel

end Folio.Html
