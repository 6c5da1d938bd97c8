import Folio.Proofs.Assignment
import Folio.Proofs.Occurrence
import Folio.Render.Compile
import Mathlib.Data.Fintype.Fin
import Mathlib.Logic.Equiv.Fintype

/-!
# Identifiers of a sequence of headings

A heading gets its identifier from its text and from its number among the headings with this text.
The number is found without the texts met so far: it counts the headings up to this one with the
same text. It follows that headings can change places, as long as those with one text keep their
order, and every heading keeps its identifier.

The identifiers of slugs are a base slug, alone or with a hyphen and a number after it. The number
can be read back from behind the last hyphen, so that two identifiers that both have a number are
the same only if base and number are. A bare slug may look like a slug with a number, and this is
the one way in which headings with different base slugs come to the same identifier.

## Main definitions

* `Folio.ordinal`: the number of a heading among those with its text.
* `Folio.Renderer.headingAt`: what a heading of a sequence is recorded as.
* `Folio.Meets`: the bare slug of a heading looks like the slug of another one with its number.

## Main results

* `Folio.records_assignAll_ofFn`: what a sequence of headings is recorded as.
* `Folio.Html.headingId_eq_iff`: when two identifiers are the same.
* `Folio.headings_numbered`: identifiers by number; headings with one text have different
  identifiers; headings that change places keep theirs.
* `Folio.id_eq_iff_meets`: when headings with different base slugs have the same identifier.
-/

namespace Folio

/-! ### Numbers of headings -/

section Numbers

variable {n : Nat}

/-- How many headings up to one have its text, the heading itself included. -/
def ordinal (titles : Fin n → Title) (i : Fin n) : Nat :=
  (Finset.univ.filter fun j => j ≤ i ∧ (titles j).text = (titles i).text).card

/-- What a heading of a sequence is recorded as: its identifier is that of its number. -/
def Renderer.headingAt (renderer : Renderer) (titles : Fin n → Title) (i : Fin n) : Heading :=
  ⟨renderer.idFormat (titles i).text (ordinal titles i), (titles i).text, (titles i).level⟩

theorem ordinal_zero (titles : Fin (n + 1) → Title) : ordinal titles 0 = 1 := by
  rw [ordinal, Finset.card_eq_one]
  refine ⟨0, Finset.ext fun j => ?_⟩
  simp only [Finset.mem_filter_univ, Fin.le_zero_iff, Finset.mem_singleton, and_iff_left_iff_imp]
  rintro rfl
  rfl

theorem ordinal_succ (titles : Fin (n + 1) → Title) (i : Fin n) :
    ordinal titles i.succ =
      (if (titles 0).text = (titles i.succ).text then 1 else 0) +
        ordinal (fun j => titles j.succ) i := by
  rw [ordinal, Fin.card_filter_univ_succ]
  simp only [Fin.zero_le, true_and, Fin.succ_le_succ_iff]
  split
  · exact Nat.add_comm _ _
  · exact (Nat.zero_add _).symm

/-- **What a sequence of headings becomes** when other texts were met before it. -/
theorem assigned_ofFn (renderer : Renderer) (met : Occurrences) (titles : Fin n → Title) :
    renderer.assigned met (List.ofFn titles) = List.ofFn fun i =>
      ⟨renderer.idFormat (titles i).text (met.count (titles i).text + ordinal titles i),
        (titles i).text, (titles i).level⟩ := by
  induction n generalizing met with
  | zero => rfl
  | succ n ih =>
    rw [List.ofFn_succ, List.ofFn_succ, Renderer.assigned, ih, ordinal_zero,
      Occurrences.count_record, if_pos rfl]
    simp only [Occurrences.count_record, ordinal_succ, Nat.add_assoc]

/-- **What a sequence of headings is recorded as** in a fresh rendering. -/
theorem records_assignAll_ofFn (renderer : Renderer) (titles : Fin n → Title) :
    (Headings.assignAll {} renderer (List.ofFn titles)).records =
      List.ofFn (renderer.headingAt titles) := by
  rw [Headings.records_assignAll, assigned_ofFn]
  exact congrArg List.ofFn (funext fun i =>
    congrArg (fun k => Heading.mk (renderer.idFormat _ k) _ _) (Nat.zero_add _))

variable (titles : Fin n → Title) {i j : Fin n}

theorem ordinal_pos (i : Fin n) : 0 < ordinal titles i :=
  Finset.card_pos.2 ⟨i, (Finset.mem_filter_univ i).2 ⟨Nat.le_refl i, rfl⟩⟩

variable {titles}

/-- Of two headings with one text the later one has the larger number. -/
theorem ordinal_lt (hlt : i < j) (htext : (titles i).text = (titles j).text) :
    ordinal titles i < ordinal titles j := by
  refine Finset.card_lt_card (Finset.ssubset_iff_of_subset ?_ |>.2 ⟨j, ?_, ?_⟩)
  · intro k hk
    obtain ⟨hle, hsame⟩ := (Finset.mem_filter_univ k).1 hk
    exact (Finset.mem_filter_univ k).2 ⟨hle.trans hlt.le, hsame.trans htext⟩
  · exact (Finset.mem_filter_univ j).2 ⟨le_rfl, rfl⟩
  · exact fun hj => hlt.not_ge ((Finset.mem_filter_univ j).1 hj).1

theorem ordinal_inj (htext : (titles i).text = (titles j).text) :
    ordinal titles i = ordinal titles j ↔ i = j := by
  refine ⟨fun heq => ?_, fun heq => heq ▸ rfl⟩
  rcases lt_trichotomy i j with hlt | hsame | hgt
  · exact absurd heq (ordinal_lt hlt htext).ne
  · exact hsame
  · exact absurd heq (ordinal_lt hgt htext.symm).ne'

/-- The first heading with a text is the one that has no heading with this text before it. -/
theorem ordinal_eq_one_iff :
    ordinal titles i = 1 ↔ ∀ j < i, (titles j).text ≠ (titles i).text := by
  constructor
  · intro hone j hlt htext
    have hless := ordinal_lt hlt htext
    rw [hone, Nat.lt_one_iff] at hless
    exact (ordinal_pos titles j).ne' hless
  · intro hfirst
    rw [ordinal, Finset.card_eq_one]
    refine ⟨i, Finset.ext fun j => ?_⟩
    rw [Finset.mem_filter_univ, Finset.mem_singleton]
    constructor
    · rintro ⟨hle, htext⟩
      exact hle.eq_or_lt.resolve_right fun hlt => hfirst j hlt htext
    · rintro rfl
      exact ⟨le_rfl, rfl⟩

/-- A heading has the same number after headings have changed places, if those with one text keep
their order. -/
theorem ordinal_comp {σ : Equiv.Perm (Fin n)}
    (hσ : ∀ i j, i < j → (titles (σ i)).text = (titles (σ j)).text → σ i < σ j) (i : Fin n) :
    ordinal (titles ∘ σ) i = ordinal titles (σ i) := by
  refine Finset.card_equiv σ fun j => ?_
  simp only [Finset.mem_filter_univ, Function.comp_apply]
  refine and_congr_left fun htext => ⟨fun hle => ?_, fun hle => ?_⟩
  · rcases hle.eq_or_lt with rfl | hlt
    · exact le_rfl
    · exact (hσ j i hlt htext).le
  · exact le_of_not_gt fun hlt => (hσ i j hlt htext.symm).not_ge hle

end Numbers

/-! ### Slugs with a number -/

namespace Html

variable {text other : String} {k l : Nat}

theorem headingId_one (text : String) : headingId text 1 = baseSlug text := rfl

theorem headingId_of_lt (h : 1 < k) : headingId text k = baseSlug text ++ "-" ++ toString k :=
  if_pos h

theorem hyphen_notMem_toString (k : Nat) : '-' ∉ (toString k).toList := by
  intro hmem
  rw [Nat.toString_eq_repr, Nat.toList_repr] at hmem
  exact absurd (Nat.isDigit_of_mem_toDigits (by decide) (by decide) hmem) (by decide)

/-- The number is read back from behind the last hyphen. -/
theorem append_number_inj {base base' : String} :
    base ++ "-" ++ toString k = base' ++ "-" ++ toString l ↔ base = base' ∧ k = l := by
  refine ⟨fun h => ?_, fun ⟨hbase, hnumber⟩ => by rw [hbase, hnumber]⟩
  have hreversed := congrArg (fun s => s.toList.reverse) h
  simp only [String.toList_append, List.reverse_append] at hreversed
  obtain ⟨hdigits, hbases⟩ := Text.append_cons_inj
    (fun hmem => hyphen_notMem_toString k (List.mem_reverse.1 hmem))
    (fun hmem => hyphen_notMem_toString l (List.mem_reverse.1 hmem)) hreversed
  refine ⟨String.toList_injective (List.reverse_injective hbases), ?_⟩
  have hsame : Nat.toDigits 10 k = Nat.toDigits 10 l := by
    rw [← Nat.toList_repr, ← Nat.toList_repr]
    exact List.reverse_injective hdigits
  calc k = Nat.ofDigitChars 10 (Nat.toDigits 10 k) 0 :=
        (Nat.ofDigitChars_toDigits (by decide) (by decide)).symm
    _ = Nat.ofDigitChars 10 (Nat.toDigits 10 l) 0 := by rw [hsame]
    _ = l := Nat.ofDigitChars_toDigits (by decide) (by decide)

theorem ne_append_number (base : String) (k : Nat) : base ≠ base ++ "-" ++ toString k := by
  intro h
  have hlength := congrArg String.length h
  rw [String.length_append, String.length_append] at hlength
  have hhyphen : "-".length = 1 := rfl
  omega

/-- **When two identifiers are the same**: their base slugs and numbers are, or one of them is a
bare slug that looks like the other slug with its number. -/
theorem headingId_eq_iff (hk : 0 < k) (hl : 0 < l) :
    headingId text k = headingId other l ↔
      (baseSlug text = baseSlug other ∧ k = l) ∨
      (k = 1 ∧ 1 < l ∧ baseSlug text = baseSlug other ++ "-" ++ toString l) ∨
      (l = 1 ∧ 1 < k ∧ baseSlug other = baseSlug text ++ "-" ++ toString k) := by
  rcases Nat.eq_or_lt_of_le hk with hone | hk <;> rcases Nat.eq_or_lt_of_le hl with hone' | hl
  · subst hone hone'
    simp only [headingId_one, and_true, Nat.lt_irrefl, false_and, and_false, or_false]
  · subst hone
    simp only [headingId_one, headingId_of_lt hl, hl, hl.ne, hl.ne', true_and, false_and,
      and_false, or_false, false_or]
  · subst hone'
    simp only [headingId_one, headingId_of_lt hk, hk, hk.ne', true_and, false_and, and_false,
      false_or, eq_comm]
  · simp only [headingId_of_lt hk, headingId_of_lt hl, append_number_inj, hk.ne', hl.ne',
      false_and, or_false]

theorem headingId_inj (hk : 0 < k) (hl : 0 < l) :
    headingId text k = headingId text l ↔ k = l := by
  simp only [headingId_eq_iff hk hl, ne_append_number, true_and, and_false, or_false]

theorem headingId_eq_baseSlug_iff (hk : 0 < k) : headingId text k = baseSlug text ↔ k = 1 := by
  rw [← headingId_one, headingId_inj hk Nat.one_pos]

end Html

/-! ### Headings with one text -/

/-- **Identifiers by number.** In a fresh rendering the headings of a sequence are recorded in
their order, each with the identifier that its text and its number have. With identifiers of slugs,
headings with one text have different ones, and the first of them is the one without a number.
Headings that change places keep their identifiers if those with one text keep their order. -/
theorem headings_numbered {n : Nat} (titles : Fin n → Title) :
    (∀ renderer : Renderer,
      (Headings.assignAll {} renderer (List.ofFn titles)).records =
        List.ofFn (renderer.headingAt titles)) ∧
    (∀ (config : Config) (i j : Fin n), (titles i).text = (titles j).text →
      ((Renderer.headingAt { config } titles i).id = (Renderer.headingAt { config } titles j).id ↔
        i = j)) ∧
    (∀ (config : Config) (i : Fin n),
      (Renderer.headingAt { config } titles i).id = Html.baseSlug (titles i).text ↔
        ∀ j < i, (titles j).text ≠ (titles i).text) ∧
    ∀ (renderer : Renderer) (σ : Equiv.Perm (Fin n)),
      (∀ i j, i < j → (titles (σ i)).text = (titles (σ j)).text → σ i < σ j) →
      (Headings.assignAll {} renderer (List.ofFn (titles ∘ σ))).records =
        List.ofFn fun i => renderer.headingAt titles (σ i) := by
  refine ⟨fun renderer => records_assignAll_ofFn renderer titles, fun config i j htext => ?_,
    fun config i => ?_, fun renderer σ hσ => ?_⟩
  · have hid : (Renderer.headingAt { config } titles j).id =
        Html.headingId (titles i).text (ordinal titles j) := by
      rw [htext]
      rfl
    rw [hid, ← ordinal_inj htext]
    exact Html.headingId_inj (ordinal_pos titles i) (ordinal_pos titles j)
  · rw [← ordinal_eq_one_iff]
    exact Html.headingId_eq_baseSlug_iff (ordinal_pos titles i)
  · rw [records_assignAll_ofFn]
    refine congrArg List.ofFn (funext fun i => ?_)
    rw [Renderer.headingAt, Renderer.headingAt, ordinal_comp hσ]
    rfl

/-- Two headings change places that have different texts. -/
theorem headings_numbered_swap :
    let titles : Fin 3 → Title := [⟨"a", 1⟩, ⟨"b", 2⟩, ⟨"a", 2⟩].get
    let σ : Equiv.Perm (Fin 3) := Equiv.swap 0 1
    (titles 0).text = (titles 2).text ∧
      (Renderer.headingAt {} titles 0).id ≠ (Renderer.headingAt {} titles 2).id ∧
      (∀ i j, i < j → (titles (σ i)).text = (titles (σ j)).text → σ i < σ j) ∧
      (Headings.assignAll {} {} (List.ofFn (titles ∘ σ))).records =
        [⟨"b", "b", 2⟩, ⟨"a", "a", 1⟩, ⟨"a-2", "a", 2⟩] := by
  intro titles σ
  obtain ⟨-, hdistinct, -, hmoved⟩ := headings_numbered titles
  have htext : (titles 0).text = (titles 2).text := rfl
  have hσ : ∀ i j, i < j → (titles (σ i)).text = (titles (σ j)).text → σ i < σ j := by decide
  have hrecords : (List.ofFn fun i => Renderer.headingAt {} titles (σ i)) =
      [⟨"b", "b", 2⟩, ⟨"a", "a", 1⟩, ⟨"a-2", "a", 2⟩] := by decide +kernel
  exact ⟨htext, (hdistinct {} 0 2 htext).not.2 (by decide), hσ, (hmoved {} σ hσ).trans hrecords⟩

/-! ### Headings with different base slugs -/

section Meeting

variable {n : Nat}

/-- The bare slug of one heading is the base slug of another with the number of that one. -/
def Meets (titles : Fin n → Title) (i j : Fin n) : Prop :=
  ordinal titles i = 1 ∧ 1 < ordinal titles j ∧
    Html.baseSlug (titles i).text =
      Html.baseSlug (titles j).text ++ "-" ++ toString (ordinal titles j)

/-- **Headings with different base slugs have the same identifier where a bare slug looks like a
slug with a number**, and in no other case. -/
theorem id_eq_iff_meets (config : Config) (titles : Fin n → Title) :
    (Headings.assignAll {} { config } (List.ofFn titles)).records =
        List.ofFn (Renderer.headingAt { config } titles) ∧
    ∀ i j, Html.baseSlug (titles i).text ≠ Html.baseSlug (titles j).text →
      ((Renderer.headingAt { config } titles i).id = (Renderer.headingAt { config } titles j).id ↔
        Meets titles i j ∨ Meets titles j i) := by
  refine ⟨records_assignAll_ofFn _ titles, fun i j hslug => ?_⟩
  refine (Html.headingId_eq_iff (ordinal_pos titles i) (ordinal_pos titles j)).trans ?_
  rw [or_iff_right fun hsame => hslug hsame.1]
  exact Iff.rfl

end Meeting

/-- A heading whose text ends in a number meets the second of two others. -/
theorem id_eq_iff_meets_numbered :
    let titles : Fin 3 → Title := [⟨"a", 1⟩, ⟨"a", 1⟩, ⟨"a 2", 1⟩].get
    Html.baseSlug (titles 2).text ≠ Html.baseSlug (titles 1).text ∧ Meets titles 2 1 ∧
      (Renderer.headingAt {} titles 2).id = (Renderer.headingAt {} titles 1).id := by
  intro titles
  have hslug : Html.baseSlug (titles 2).text ≠ Html.baseSlug (titles 1).text := by decide +kernel
  have hmeets : Meets titles 2 1 := ⟨by decide +kernel, by decide +kernel, by decide +kernel⟩
  exact ⟨hslug, hmeets, ((id_eq_iff_meets {} titles).2 2 1 hslug).2 (.inl hmeets)⟩

/-- In one rendering, base slugs that differ do not keep identifiers apart. -/
theorem same_id_of_different_slugs :
    let root : Document.Node :=
      .branch .document [.headingOf 1 "a", .headingOf 1 "a", .headingOf 1 "a 2"]
    Html.baseSlug "a" ≠ Html.baseSlug "a 2" ∧
      (compile {} root {}).2.records = [⟨"a", "a", 1⟩, ⟨"a-2", "a", 1⟩, ⟨"a-2", "a 2", 1⟩] := by
  decide +kernel

end Folio
