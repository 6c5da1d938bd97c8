import Folio.Proofs.Entities

/-!
# Entities read in one pass

Entities are read back by one replacement after another, each over the result of those before. No
replacement makes or breaks an entity for a later one: the characters that are put in occur in no
entity behind its ampersand, an entity has no other ampersand, and the ampersand itself is put in
last. So the replacements together are a single pass from left to right which reads every entity
once and nothing that it wrote itself.

## Main definitions

* `Folio.Html.decode`: the single pass.
* `Folio.Html.Unmixed`: a table of entities whose replacements do not meet.

## Main results

* `Folio.Html.Unmixed.replaceEach_cons`, `Folio.Html.Unmixed.replaceEach_entity`: what all
  replacements of a table do where no entity starts, and to an entity.
* `Folio.Html.unescape_exact`: escaped text reads back as itself, and any text as in a single pass.
-/

namespace Folio.Html

open Folio.Text

/-- Text with its entities replaced in one pass from left to right. What is put in is not read
again. -/
def decode : List Char → List Char
  | '&' :: 'l' :: 't' :: ';' :: cs => '<' :: decode cs
  | '&' :: 'g' :: 't' :: ';' :: cs => '>' :: decode cs
  | '&' :: 'q' :: 'u' :: 'o' :: 't' :: ';' :: cs => '"' :: decode cs
  | '&' :: '#' :: '3' :: '9' :: ';' :: cs => '\'' :: decode cs
  | '&' :: '#' :: 'x' :: '2' :: '7' :: ';' :: cs => '\'' :: decode cs
  | '&' :: 'a' :: 'm' :: 'p' :: ';' :: cs => '&' :: decode cs
  | c :: cs => c :: decode cs
  | [] => []

/-! ### One replacement -/

/-- A character at which the word does not start is kept. -/
theorem replaceAll_cons {word by_ : List Char} {c : Char} {cs : List Char}
    (hstart : ¬ word <+: c :: cs) :
    replaceAll word by_ (c :: cs) = c :: replaceAll word by_ cs := by
  have hnowhere : Nowhere word.IsPrefix [c] cs := ⟨hstart, trivial⟩
  exact replaceAll_append by_ hnowhere

/-- A replacement makes nothing of a text that has neither ampersands nor the character put in. -/
theorem prefix_of_prefix_replaceAll {name part : List Char} {d : Char} (hamp : '&' ∉ part)
    (hd : d ∉ part) {cs : List Char} (h : part <+: replaceAll ('&' :: name) [d] cs) :
    part <+: cs := by
  induction cs generalizing part with
  | nil => exact h
  | cons c cs ih =>
    cases part with
    | nil => exact List.nil_prefix
    | cons first part =>
      by_cases hstart : '&' :: name <+: c :: cs
      · obtain ⟨rest, hrest⟩ := hstart
        rw [← hrest, replaceAll_word (List.cons_ne_nil _ _), List.singleton_append] at h
        exact absurd (List.mem_cons.2 (.inl (head_eq_of_prefix_cons h))) hd
      · rw [replaceAll_cons hstart, List.cons_prefix_cons] at h
        exact List.cons_prefix_cons.2 ⟨h.1, ih (List.not_mem_of_not_mem_cons hamp)
          (List.not_mem_of_not_mem_cons hd) h.2⟩

/-! ### All replacements of a table -/

/-- Every entity of a table replaced, one entity at a time. -/
def replaceEach (table : List (List Char × Char)) (cs : List Char) : List Char :=
  table.foldl (fun text entity => replaceAll entity.1 [entity.2] text) cs

/-- A table of entities whose replacements do not meet: an entity is an ampersand with a name that
holds neither another one nor a character that is put in, no entity begins another, and the
ampersand is put in by nothing but the last. -/
structure Unmixed (table : List (List Char × Char)) : Prop where
  named : ∀ entity ∈ table, ∃ name, entity.1 = '&' :: name ∧ '&' ∉ name ∧
    ∀ other ∈ table, other.2 ∉ name
  apart : table.Pairwise fun entity later =>
    entity.2 ≠ '&' ∧ ¬ entity.1 <+: later.1 ∧ ¬ later.1 <+: entity.1

namespace Unmixed

variable {table : List (List Char × Char)} {entity : List Char × Char}

theorem tail (h : Unmixed (entity :: table)) : Unmixed table where
  named other hother := by
    obtain ⟨name, hname, hamp, hput⟩ := h.named other (List.mem_cons_of_mem _ hother)
    exact ⟨name, hname, hamp, fun put hmem => hput put (List.mem_cons_of_mem _ hmem)⟩
  apart := (List.pairwise_cons.1 h.apart).2

/-- **A character at which no entity starts** goes through all replacements. -/
theorem replaceEach_cons (h : Unmixed table) {c : Char} {cs : List Char}
    (hcs : ∀ entity ∈ table, ¬ entity.1 <+: c :: cs) :
    replaceEach table (c :: cs) = c :: replaceEach table cs := by
  induction table generalizing cs with
  | nil => rfl
  | cons entity table ih =>
    obtain ⟨name, hname, -, -⟩ := h.named entity List.mem_cons_self
    have hkept : replaceAll entity.1 [entity.2] (c :: cs) =
        c :: replaceAll entity.1 [entity.2] cs :=
      replaceAll_cons (hcs entity List.mem_cons_self)
    -- An entity that starts here after the replacement would have started here before.
    have hlater : ∀ later ∈ table, ¬ later.1 <+: c :: replaceAll entity.1 [entity.2] cs := by
      intro later hmem hstart
      obtain ⟨other, hother, hamp, hput⟩ := h.named later (List.mem_cons_of_mem _ hmem)
      rw [hother, List.cons_prefix_cons, hname] at hstart
      have hbefore := prefix_of_prefix_replaceAll hamp (hput entity List.mem_cons_self) hstart.2
      refine hcs later (List.mem_cons_of_mem _ hmem) ?_
      rw [hother]
      exact List.cons_prefix_cons.2 ⟨hstart.1, hbefore⟩
    calc replaceEach (entity :: table) (c :: cs)
        = replaceEach table (c :: replaceAll entity.1 [entity.2] cs) := by
          rw [← hkept, replaceEach, List.foldl_cons, replaceEach]
      _ = c :: replaceEach (entity :: table) cs := ih h.tail hlater

/-- **An entity of the table** becomes its character. -/
theorem replaceEach_entity (h : Unmixed table) (hentity : entity ∈ table) (rest : List Char) :
    replaceEach table (entity.1 ++ rest) = entity.2 :: replaceEach table rest := by
  induction table generalizing rest with
  | nil => cases hentity
  | cons first table ih =>
    have hput := List.pairwise_cons.1 h.apart
    obtain ⟨name, hname, hamp, -⟩ := h.named entity hentity
    rcases List.mem_cons.1 hentity with rfl | hmem
    · -- No later entity starts at the character that is put in.
      have hdone : ∀ later ∈ table,
          ¬ later.1 <+: entity.2 :: replaceAll entity.1 [entity.2] rest := by
        intro later hlater hstart
        obtain ⟨other, hother, -, -⟩ := h.named later (List.mem_cons_of_mem _ hlater)
        rw [hother] at hstart
        exact (hput.1 later hlater).1 (head_eq_of_prefix_cons hstart)
      have hword : replaceAll entity.1 [entity.2] (entity.1 ++ rest) =
          entity.2 :: replaceAll entity.1 [entity.2] rest :=
        replaceAll_word (hname ▸ List.cons_ne_nil _ _) _ _
      calc replaceEach (entity :: table) (entity.1 ++ rest)
          = replaceEach table (entity.2 :: replaceAll entity.1 [entity.2] rest) := by
            rw [← hword, replaceEach, List.foldl_cons, replaceEach]
        _ = entity.2 :: replaceEach (entity :: table) rest := h.tail.replaceEach_cons hdone
    · -- The first entity starts neither with this one nor within its name.
      obtain ⟨start, hstart, -, -⟩ := h.named first List.mem_cons_self
      have hhere : ¬ first.1 <+: entity.1 ++ rest := by
        intro hfirst
        rcases List.prefix_or_prefix_of_prefix hfirst (List.prefix_append entity.1 rest) with
          hin | hin
        · exact (hput.1 entity hmem).2.1 hin
        · exact (hput.1 entity hmem).2.2 hin
      have hnowhere : Nowhere first.1.IsPrefix entity.1 rest := by
        rw [hname] at hhere ⊢
        exact ⟨hhere, hstart ▸ nowhere_of_notMem rfl hamp rest⟩
      calc replaceEach (first :: table) (entity.1 ++ rest)
          = replaceEach table (entity.1 ++ replaceAll first.1 [first.2] rest) := by
            rw [← replaceAll_append _ hnowhere, replaceEach, List.foldl_cons, replaceEach]
        _ = entity.2 :: replaceEach (first :: table) rest := ih h.tail hmem _

end Unmixed

/-! ### The entities of markup -/

theorem unmixed_entities : Unmixed entities where
  named := by
    have hnamed : ∀ entity ∈ entities, entity.1 = '&' :: entity.1.tail ∧ '&' ∉ entity.1.tail ∧
        ∀ other ∈ entities, other.2 ∉ entity.1.tail := by
      decide
    exact fun entity hentity => ⟨_, hnamed entity hentity⟩
  apart := by decide

/-- **The replacements of all entities** are the single pass. -/
theorem unescapeChars_eq_decode (cs : List Char) : unescapeChars cs = decode cs := by
  have hentity : ∀ entity ∈ entities, ∀ rest,
      unescapeChars (entity.1 ++ rest) = entity.2 :: unescapeChars rest :=
    fun _ hmem rest => unmixed_entities.replaceEach_entity hmem rest
  simp only [entities, List.forall_mem_cons] at hentity
  obtain ⟨hlt, hgt, hquot, hapos, hhexadecimal, hamp, -⟩ := hentity
  fun_induction decode cs with
  | case1 cs ih => exact (hlt cs).trans (congrArg _ ih)
  | case2 cs ih => exact (hgt cs).trans (congrArg _ ih)
  | case3 cs ih => exact (hquot cs).trans (congrArg _ ih)
  | case4 cs ih => exact (hapos cs).trans (congrArg _ ih)
  | case5 cs ih => exact (hhexadecimal cs).trans (congrArg _ ih)
  | case6 cs ih => exact (hamp cs).trans (congrArg _ ih)
  | case7 c cs hlt hgt hquot hapos hhexadecimal hamp ih =>
    have hplain {name : List Char} (hname : ∀ rest, c = '&' → cs = name ++ rest → False) :
        ¬ '&' :: name <+: c :: cs := by
      intro hstart
      obtain ⟨hc, rest, hrest⟩ := List.cons_prefix_cons.1 hstart
      exact hname rest hc.symm hrest.symm
    have hnone : ∀ entity ∈ entities, ¬ entity.1 <+: c :: cs := by
      simp only [entities, List.forall_mem_cons]
      exact ⟨hplain hlt, hplain hgt, hplain hquot, hplain hapos, hplain hhexadecimal, hplain hamp,
        fun _ hmem => absurd hmem List.not_mem_nil⟩
    exact (unmixed_entities.replaceEach_cons hnone).trans (congrArg _ ih)
  | case8 => rfl

/-- **Reading escaped text back is exact.** What was escaped reads back as itself, and any text
whatsoever, escaped or not, reads as in one pass from left to right that replaces every entity once
and never reads what it put in. -/
theorem unescape_exact (s t : String) :
    unescape (escape s) = s ∧ unescape t = String.ofList (decode t.toList) := by
  refine ⟨?_, congrArg String.ofList (unescapeChars_eq_decode _)⟩
  rw [unescape, toList_escape, unescapeChars_escape, String.ofList_toList]

end Folio.Html
