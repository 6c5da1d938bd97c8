import Folio.Html.Escape
import Folio.Proofs.Occurrence

/-!
# Reading escaped text back

Entities are read back one kind after the other. What was escaped goes through as many stages: at
each stage some characters are still written as entities and the others already stand for
themselves, and replacing one more entity leads to the next stage. The ampersand is the last one,
so that no ampersand ever stands for itself before an entity is looked for.

## Main definitions

* `Folio.Html.escapeOnly`: text in which only some characters are written as entities.

## Main results

* `Folio.Html.replaceAll_entity`: replacing an entity leads to the next stage.
* `Folio.Html.unescapeChars_escape`: escaped text reads back as the text itself.
-/

namespace Folio.Html

open Folio.Text

/-- The characters that are written as entities. -/
def specials : List Char := ['<', '>', '"', '\'', '&']

theorem escapeChar_of_notMem {c : Char} (hc : c ∉ specials) : escapeChar c = [c] := by
  simp only [specials, List.mem_cons, List.not_mem_nil, or_false, not_or] at hc
  unfold escapeChar
  split <;> simp_all

/-- No entity starts at a character that stands for itself, unless it is an ampersand. -/
theorem nowhere_singleton {word : List Char} {c : Char} (hc : c ≠ '&') (rest : List Char) :
    Nowhere ('&' :: word).IsPrefix [c] rest := by
  have hnotMem : '&' ∉ [c] := by
    rw [List.mem_singleton]
    exact hc.symm
  exact nowhere_of_notMem rfl hnotMem rest

theorem escapeChar_eq_cons {d : Char} (hd : d ∈ specials) :
    escapeChar d = '&' :: (escapeChar d).tail := by
  simp only [specials, List.mem_cons, List.not_mem_nil, or_false] at hd
  rcases hd with rfl | rfl | rfl | rfl | rfl <;> rfl

/-- No entity starts within that of another character, whatever follows it. -/
theorem nowhere_escapeChar {c d : Char} (hd : d ∈ specials) (hcd : c ≠ d) (rest : List Char) :
    Nowhere (escapeChar d).IsPrefix (escapeChar c) rest := by
  by_cases hc : c ∈ specials
  · simp only [specials, List.mem_cons, List.not_mem_nil, or_false] at hc hd
    rcases hd with rfl | rfl | rfl | rfl | rfl <;> rcases hc with rfl | rfl | rfl | rfl | rfl <;>
      simp [Nowhere, escapeChar] at hcd ⊢
  · rw [escapeChar_of_notMem hc, escapeChar_eq_cons hd]
    refine nowhere_singleton ?_ rest
    rintro rfl
    exact hc (by decide)

/-- A character as it stands while only some characters are written as entities. -/
def escapeOnly (escaped : List Char) (c : Char) : List Char :=
  if c ∈ escaped then escapeChar c else [c]

theorem escapeOnly_specials : escapeOnly specials = escapeChar := by
  funext c
  unfold escapeOnly
  split
  · rfl
  · rename_i hc
    exact (escapeChar_of_notMem hc).symm

theorem nowhere_escapeOnly {escaped : List Char} {d : Char} (hd : d ∈ specials)
    (hamp : '&' ∈ d :: escaped) {c : Char} (hcd : c ≠ d) (rest : List Char) :
    Nowhere (escapeChar d).IsPrefix (escapeOnly escaped c) rest := by
  unfold escapeOnly
  split
  · exact nowhere_escapeChar hd hcd rest
  · rename_i hc
    -- The character stands for itself, and it is not the ampersand that starts an entity.
    rw [escapeChar_eq_cons hd]
    refine nowhere_singleton ?_ rest
    rintro rfl
    exact (List.mem_cons.1 hamp).elim hcd hc

/-- **Replacing the entity of one more character** leaves only the others written as entities. -/
theorem replaceAll_entity {escaped : List Char} {d : Char} (hd : d ∈ specials)
    (hnew : d ∉ escaped) (hamp : '&' ∈ d :: escaped) (cs : List Char) :
    replaceAll (escapeChar d) [d] (cs.flatMap (escapeOnly (d :: escaped))) =
      cs.flatMap (escapeOnly escaped) := by
  have hentity : escapeChar d ≠ [] := by
    unfold escapeChar
    split <;> simp
  refine replaceAll_flatMap hentity [d] (fun c => ?_) cs
  by_cases hcd : c = d
  · subst hcd
    exact .inl ⟨if_pos List.mem_cons_self, if_neg hnew⟩
  · have hsame : escapeOnly (d :: escaped) c = escapeOnly escaped c := by
      simp only [escapeOnly, List.mem_cons, hcd, false_or]
    exact .inr ⟨hsame.symm, fun rest => hsame ▸ nowhere_escapeOnly hd hamp hcd rest⟩

/-- The hexadecimal form of the apostrophe does not stand where only ampersands are escaped. -/
theorem replaceAll_hexadecimal (cs : List Char) :
    replaceAll "&#x27;".toList ['\''] (cs.flatMap (escapeOnly ['&'])) =
      cs.flatMap (escapeOnly ['&']) := by
  refine replaceAll_flatMap (by decide) ['\''] (fun c => .inr ⟨rfl, fun rest => ?_⟩) cs
  by_cases hc : c = '&'
  · subst hc
    simp [Nowhere, escapeOnly, escapeChar]
  · rw [escapeOnly, if_neg (by rwa [List.mem_singleton])]
    exact nowhere_singleton hc rest

/-- **Escaped text reads back as the text itself.** -/
theorem unescapeChars_escape (cs : List Char) : unescapeChars (cs.flatMap escapeChar) = cs := by
  have stage {escaped : List Char} (d : Char) (hd : d ∈ specials) (hnew : d ∉ escaped)
      (hamp : '&' ∈ d :: escaped) := replaceAll_entity hd hnew hamp cs
  rw [← escapeOnly_specials]
  calc unescapeChars (cs.flatMap (escapeOnly specials))
      = replaceAll (escapeChar '&') ['&'] (replaceAll "&#x27;".toList ['\'']
          (replaceAll (escapeChar '\'') ['\''] (replaceAll (escapeChar '"') ['"']
            (replaceAll (escapeChar '>') ['>'] (replaceAll (escapeChar '<') ['<']
              (cs.flatMap (escapeOnly specials))))))) := rfl
    _ = replaceAll (escapeChar '&') ['&'] (replaceAll "&#x27;".toList ['\'']
          (cs.flatMap (escapeOnly ['&']))) := by
        rw [specials, stage '<' (by decide) (by decide) (by decide),
          stage '>' (by decide) (by decide) (by decide),
          stage '"' (by decide) (by decide) (by decide),
          stage '\'' (by decide) (by decide) (by decide)]
    _ = cs.flatMap (escapeOnly []) := by
        rw [replaceAll_hexadecimal, stage '&' (by decide) (by decide) (by decide)]
    _ = cs := List.flatMap_singleton' cs

end Folio.Html
