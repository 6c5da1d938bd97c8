/-!
# Replacing a word throughout a text

Occurrences are found from left to right and do not overlap; what was put in is not read again.

## Main definitions

* `Folio.Text.replaceAll`: every occurrence of one word replaced by another.
* `Folio.Text.splitAt?`: the text before and after the first occurrence of a word.
-/

namespace Folio.Text

/-- Replaces each occurrence of `word`, after `skip` characters of an occurrence that was
replaced already. -/
def replaceFrom (word by_ : List Char) : Nat → List Char → List Char
  | _, [] => []
  | skip + 1, _ :: cs => replaceFrom word by_ skip cs
  | 0, c :: cs =>
    if word.isPrefixOf (c :: cs) then by_ ++ replaceFrom word by_ (word.length - 1) cs
    else c :: replaceFrom word by_ 0 cs

/-- Every occurrence of `word` replaced by `by_`. -/
def replaceAll (word by_ cs : List Char) : List Char :=
  replaceFrom word by_ 0 cs

/-- What stands before and after the first occurrence of `word`. -/
def splitAt? (word : List Char) : List Char → Option (List Char × List Char)
  | [] => if word.isEmpty then some ([], []) else none
  | c :: cs =>
    if word.isPrefixOf (c :: cs) then some ([], (c :: cs).drop word.length)
    else (splitAt? word cs).map fun (before, after) => (c :: before, after)

theorem splitAt?_eq_some {word cs before after : List Char}
    (h : splitAt? word cs = some (before, after)) : cs = before ++ (word ++ after) := by
  induction cs generalizing before with
  | nil =>
    simp only [splitAt?, Option.ite_none_right_eq_some, List.isEmpty_iff, Option.some.injEq,
      Prod.mk.injEq] at h
    obtain ⟨rfl, rfl, rfl⟩ := h
    rfl
  | cons c cs ih =>
    rw [splitAt?] at h
    split at h
    · rename_i starts
      obtain ⟨rfl, rfl⟩ := Prod.mk.inj (Option.some.inj h)
      obtain ⟨rest, hrest⟩ := List.isPrefixOf_iff_prefix.1 starts
      simp [← hrest]
    · obtain ⟨⟨first, last⟩, found, same⟩ := Option.map_eq_some_iff.1 h
      obtain ⟨rfl, rfl⟩ := Prod.mk.inj same
      rw [ih found, List.cons_append]

/-- Whether `word` occurs. -/
def occursIn (word cs : List Char) : Bool :=
  (splitAt? word cs).isSome

/-- The text after `word` when it starts with it. -/
def dropWord? (word cs : List Char) : Option (List Char) :=
  if word.isPrefixOf cs then some (cs.drop word.length) else none

theorem dropWord?_eq_some {word cs rest : List Char} :
    dropWord? word cs = some rest ↔ cs = word ++ rest := by
  simp only [dropWord?, Option.ite_none_right_eq_some, List.isPrefixOf_iff_prefix,
    Option.some.injEq]
  constructor
  · rintro ⟨⟨tail, rfl⟩, rfl⟩
    simp
  · rintro rfl
    simp

end Folio.Text
