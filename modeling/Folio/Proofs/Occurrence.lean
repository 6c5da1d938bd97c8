import Folio.Text.Replace

/-!
# Where a word starts in a text

A scan from left to right asks at every position whether something starts there. What it does with
a piece of text before any rest is known as soon as nothing starts at a position of the piece: the
rest counts as well, since a word may start in the piece and end after it. A word that has no
border, that is, no end of it is also its beginning, cannot lie across a second copy of itself.

## Main definitions

* `Folio.Text.Nowhere`: something starts at no position of a piece of text before a rest.
* `Folio.Text.Unbordered`: no proper beginning of a word is an end of it.

## Main results

* `Folio.Text.replaceAll_append`, `Folio.Text.replaceAll_word`: replacing goes through a text piece
  by piece.
* `Folio.Text.splitAt?_append`: a text is cut at the first occurrence of a word.
* `Folio.Text.nowhere_of_not_occursIn`: an unbordered word that does not occur in a piece starts
  nowhere in it either when the word itself follows.
-/

namespace Folio.Text

/-! ### Positions -/

/-- Nothing of a kind starts at a position of the characters, when others follow them. -/
def Nowhere (starts : List Char → Prop) : List Char → List Char → Prop
  | [], _ => True
  | c :: cs, rest => ¬ starts (c :: (cs ++ rest)) ∧ Nowhere starts cs rest

section Nowhere

variable {starts : List Char → Prop}

theorem nowhere_append {cs ds rest : List Char} :
    Nowhere starts (cs ++ ds) rest ↔ Nowhere starts cs (ds ++ rest) ∧ Nowhere starts ds rest := by
  induction cs with
  | nil => simp only [List.nil_append, Nowhere, true_and]
  | cons c cs ih => simp only [List.cons_append, Nowhere, ih, List.append_assoc, and_assoc]

end Nowhere

/-! ### Words -/

/-- A word starts with its first character. -/
theorem head_eq_of_prefix_cons {first c : Char} {tail cs : List Char}
    (h : first :: tail <+: c :: cs) : c = first :=
  (List.cons_prefix_cons.1 h).1.symm

/-- A word starts nowhere in a text without its first character. -/
theorem nowhere_of_notMem {word : List Char} {first : Char} (hword : word.head? = some first)
    {cs : List Char} (hcs : first ∉ cs) (rest : List Char) : Nowhere word.IsPrefix cs rest := by
  obtain ⟨tail, rfl⟩ := List.head?_eq_some_iff.1 hword
  induction cs with
  | nil => trivial
  | cons c cs ih =>
    obtain ⟨hc, hcs⟩ := List.ne_and_not_mem_of_not_mem_cons hcs
    exact ⟨fun h => hc (head_eq_of_prefix_cons h).symm, ih hcs⟩

/-- A word that goes on with other characters than a text is followed by starts no later than it
ends in that text. -/
theorem prefix_of_prefix_append_cons {word cs rest : List Char} {c : Char} (hc : c ∉ word)
    (h : word <+: cs ++ c :: rest) : word <+: cs := by
  rcases List.prefix_or_prefix_of_prefix h (List.prefix_append cs _) with hword | ⟨tail, rfl⟩
  · exact hword
  · rw [List.prefix_append_right_inj] at h
    cases tail with
    | nil => simp
    | cons d tail =>
      have hd := head_eq_of_prefix_cons h
      exact absurd (by simp [hd]) hc

/-- What stands before the first of some characters is the same in equal texts. -/
theorem append_cons_inj_of_stops {stops first second rest others : List Char} {c d : Char}
    (hfirst : ∀ e ∈ first, e ∉ stops) (hsecond : ∀ e ∈ second, e ∉ stops) (hc : c ∈ stops)
    (hd : d ∈ stops) (h : first ++ c :: rest = second ++ d :: others) :
    first = second ∧ c :: rest = d :: others := by
  induction first generalizing second with
  | nil =>
    cases second with
    | nil => exact ⟨rfl, h⟩
    | cons e second => exact absurd (List.head_eq_of_cons_eq h ▸ hc) (hsecond e List.mem_cons_self)
  | cons e first ih =>
    obtain ⟨he, hfirst⟩ := List.forall_mem_cons.1 hfirst
    cases second with
    | nil => exact absurd (List.head_eq_of_cons_eq h ▸ hd) he
    | cons f second =>
      obtain ⟨rfl, htail⟩ := List.cons.inj h
      obtain ⟨rfl, hrest⟩ := ih hfirst (List.forall_mem_cons.1 hsecond).2 htail
      exact ⟨rfl, hrest⟩

/-- A text falls apart at the first of a character in one way. -/
theorem append_cons_inj {c : Char} {cs ds first second : List Char} (hcs : c ∉ cs) (hds : c ∉ ds)
    (h : cs ++ c :: first = ds ++ c :: second) : cs = ds ∧ first = second := by
  have hstops {es : List Char} (hes : c ∉ es) : ∀ e ∈ es, e ∉ [c] :=
    fun e he hstop => hes (List.mem_singleton.1 hstop ▸ he)
  obtain ⟨hsame, htail⟩ := append_cons_inj_of_stops (hstops hcs) (hstops hds)
    (List.mem_singleton_self c) (List.mem_singleton_self c) h
  exact ⟨hsame, List.tail_eq_of_cons_eq htail⟩

/-- No proper beginning of the word is an end of it. -/
def Unbordered (word : List Char) : Prop :=
  ∀ n < word.length, 0 < n → word.take (word.length - n) ≠ word.drop n

instance (word : List Char) : Decidable (Unbordered word) :=
  inferInstanceAs (Decidable (∀ n < word.length, 0 < n → _))

theorem occursIn_cons {word cs : List Char} {c : Char} :
    occursIn word (c :: cs) = false ↔ ¬ word <+: c :: cs ∧ occursIn word cs = false := by
  rw [occursIn, splitAt?, ← List.isPrefixOf_iff_prefix]
  split <;> simp_all [occursIn]

theorem occursIn_of_prefix {word cs : List Char} (h : word <+: cs) : occursIn word cs = true := by
  cases cs with
  | nil =>
    rw [List.prefix_nil.1 h]
    rfl
  | cons c cs =>
    rw [occursIn, splitAt?, if_pos (List.isPrefixOf_iff_prefix.2 h)]
    rfl

/-- A word that starts nowhere in a text does not occur in it. -/
theorem not_occursIn_of_nowhere {word : List Char} (hword : word ≠ []) {cs : List Char}
    (hcs : Nowhere word.IsPrefix cs []) : occursIn word cs = false := by
  induction cs with
  | nil =>
    rw [occursIn, splitAt?, if_neg (by simpa using hword)]
    rfl
  | cons c cs ih =>
    obtain ⟨hstart, hcs⟩ := hcs
    rw [List.append_nil] at hstart
    exact occursIn_cons.2 ⟨hstart, ih hcs⟩

/-- A word does not occur in a text without its first character. -/
theorem not_occursIn_of_notMem {word : List Char} {first : Char} (hword : word.head? = some first)
    {cs : List Char} (hcs : first ∉ cs) : occursIn word cs = false := by
  have hne : word ≠ [] := by
    rintro rfl
    cases hword
  exact not_occursIn_of_nowhere hne (nowhere_of_notMem hword hcs [])

/-- **A word that occurs nowhere in a piece** does not start there when the word itself follows. -/
theorem nowhere_of_not_occursIn {word : List Char} (hword : Unbordered word) {cs : List Char}
    (hcs : occursIn word cs = false) (rest : List Char) :
    Nowhere word.IsPrefix cs (word ++ rest) := by
  induction cs with
  | nil => trivial
  | cons c cs ih =>
    obtain ⟨hstart, hcs⟩ := occursIn_cons.1 hcs
    refine ⟨fun h => ?_, ih hcs⟩
    -- The word would reach beyond the piece, so that its end were a beginning of it.
    have hpiece : c :: cs <+: c :: (cs ++ (word ++ rest)) := List.prefix_append (c :: cs) _
    rcases List.prefix_or_prefix_of_prefix h hpiece with hin | ⟨tail, htail⟩
    · exact hstart hin
    · have hlength : (c :: cs).length + tail.length = word.length := by
        rw [← htail, List.length_append]
      have htail_pos : 0 < tail.length := by
        rcases tail with _ | ⟨d, tail⟩
        · rw [List.append_nil] at htail
          exact absurd (htail ▸ List.prefix_rfl) hstart
        · exact Nat.succ_pos _
      have hborder : tail <+: word := by
        have h : (c :: cs) ++ tail <+: (c :: cs) ++ (word ++ rest) := htail ▸ h
        rw [List.prefix_append_right_inj] at h
        exact List.prefix_of_prefix_length_le h (List.prefix_append word rest) (by omega)
      refine hword (c :: cs).length (by omega) (Nat.succ_pos _) ?_
      have htaken : word.take (word.length - (c :: cs).length) = tail := by
        rw [List.prefix_iff_eq_take.1 hborder]
        congr 1
        omega
      rw [htaken, ← htail, List.drop_left]

/-- A text is cut at the first occurrence of a word. -/
theorem splitAt?_append {word cs rest : List Char} (hcs : Nowhere word.IsPrefix cs (word ++ rest)) :
    splitAt? word (cs ++ (word ++ rest)) = some (cs, rest) := by
  induction cs with
  | nil =>
    rw [List.nil_append]
    cases word with
    | nil => cases rest <;> simp [splitAt?]
    | cons first tail =>
      have hstart : (first :: tail).isPrefixOf (first :: (tail ++ rest)) = true := by simp
      rw [List.cons_append, splitAt?, hstart, ← List.cons_append]
      simp
  | cons c cs ih =>
    obtain ⟨hstart, hcs⟩ := hcs
    rw [← List.isPrefixOf_iff_prefix, Bool.not_eq_true] at hstart
    rw [List.cons_append, splitAt?, hstart, ih hcs]
    rfl

/-! ### Replacing a word -/

theorem replaceFrom_drop (word by_ : List Char) (skip : Nat) (cs : List Char) :
    replaceFrom word by_ skip cs = replaceAll word by_ (cs.drop skip) := by
  induction cs generalizing skip with
  | nil => cases skip <;> simp [replaceFrom, replaceAll]
  | cons c cs ih =>
    cases skip with
    | zero => rfl
    | succ skip => rw [replaceFrom, ih, List.drop_succ_cons]

/-- A piece in which the word starts nowhere is kept. -/
theorem replaceAll_append {word cs rest : List Char} (by_ : List Char)
    (hcs : Nowhere word.IsPrefix cs rest) :
    replaceAll word by_ (cs ++ rest) = cs ++ replaceAll word by_ rest := by
  induction cs with
  | nil => rfl
  | cons c cs ih =>
    obtain ⟨hstart, hcs⟩ := hcs
    rw [← List.isPrefixOf_iff_prefix, Bool.not_eq_true] at hstart
    rw [List.cons_append, replaceAll, replaceFrom, hstart]
    exact congrArg (c :: ·) (ih hcs)

/-- The word itself is replaced. -/
theorem replaceAll_word {word : List Char} (hword : word ≠ []) (by_ rest : List Char) :
    replaceAll word by_ (word ++ rest) = by_ ++ replaceAll word by_ rest := by
  cases word with
  | nil => exact absurd rfl hword
  | cons first tail =>
    have hstart : (first :: tail).isPrefixOf (first :: (tail ++ rest)) = true := by simp
    rw [List.cons_append, replaceAll, replaceFrom, hstart, replaceFrom_drop]
    simp

/-- **A text is replaced piece by piece** where each piece either is the word or has it nowhere,
whatever follows. -/
theorem replaceAll_flatMap {word : List Char} (hword : word ≠ []) (by_ : List Char)
    {piece replaced : Char → List Char}
    (hpiece : ∀ c, (piece c = word ∧ replaced c = by_) ∨
      (replaced c = piece c ∧ ∀ rest, Nowhere word.IsPrefix (piece c) rest)) (cs : List Char) :
    replaceAll word by_ (cs.flatMap piece) = cs.flatMap replaced := by
  induction cs with
  | nil => rfl
  | cons c cs ih =>
    rw [List.flatMap_cons, List.flatMap_cons, ← ih]
    rcases hpiece c with ⟨hpiece, hreplaced⟩ | ⟨hreplaced, hnowhere⟩
    · rw [hpiece, hreplaced, replaceAll_word hword]
    · rw [hreplaced, replaceAll_append by_ (hnowhere _)]

end Folio.Text
