import Mathlib.Data.List.TakeWhile
import Folio.Proofs.Occurrence
import Folio.Toml.Quoted

/-!
# Strings come back from a TOML text

The writer takes one of four forms for a string, and the reader finds out from the marks which one
it was. What is read is stated for a written piece before any rest, so that the forms can be looked
at one character at a time: a character stands for itself or comes as an escape, and what the
reader does with either does not depend on what follows.

Two things do depend on it. A string of several lines ends at the first three marks in a row, and
up to two marks before these belong to it. So the reader has to look at a whole run of marks: that
at the end of the string goes into the closing marks, and every other one stays below three, since
the writer either escapes every third mark or has made sure that three never stand in a row. And
the first line ending after the opening marks is dropped, which is why the writer puts one there
before it writes any other.

## Main definitions

* `Folio.Toml.Escapes`: what stands for a character after a backslash.

## Main results

* `Folio.Toml.basicBlockBody_escapeBlock`, `Folio.Toml.literalBlockBody_append`: strings of several
  lines are read up to their closing marks.
* `Folio.Toml.string?_quote`: every string comes back from its text.
-/

namespace Folio.Toml

open Text

/-! ### Escapes -/

/-- A word stands for a character after a backslash: whatever follows it, it is read as that
character, and it joins no lines. -/
structure Escapes (word : List Char) (c : Char) : Prop where
  escape?_append (rest : List Char) : escape? (word ++ rest) = some (c, word.length)
  joinLines?_append (rest : List Char) : joinLines? (word ++ rest) = none

theorem escapes_quote : Escapes ['"'] '"' := ⟨fun _ => rfl, fun _ => rfl⟩

theorem toNat_lt_of_isControl {c : Char} (h : isControl c = true) : c.toNat < 128 := by
  simp only [isControl, Bool.or_eq_true, Bool.and_eq_true, decide_eq_true_eq, beq_iff_eq] at h
  rcases h with ⟨h, -⟩ | rfl
  · omega
  · decide

/-- Two hexadecimal digits give back a code point that is small enough for them. -/
theorem codePoint?_hexDigit : ∀ n < 128,
    codePoint? 4 ['0', '0', hexDigit (n / 16), hexDigit (n % 16)] = some (Char.ofNat n) := by
  decide

theorem escapes_control {c : Char} (h : isControl c = true) :
    Escapes ['u', '0', '0', hexDigit (c.toNat / 16), hexDigit (c.toNat % 16)] c where
  escape?_append rest := by
    have hpoint : codePoint? 4 ('0' :: '0' :: hexDigit (c.toNat / 16) ::
        hexDigit (c.toNat % 16) :: rest) = some c := by
      have hdigits := codePoint?_hexDigit c.toNat (toNat_lt_of_isControl h)
      rwa [Char.ofNat_toNat] at hdigits
    simp [escape?, hpoint]
  joinLines?_append _ := rfl

/-- A character that is no quotation mark stands for itself or is written as an escape. -/
theorem escapeChar_cases (c : Char) :
    (escapeChar c = [c] ∧ c ≠ '\\' ∧ isControl c = false) ∨
      ∃ word, escapeChar c = '\\' :: word ∧ Escapes word c := by
  unfold escapeChar
  split
  case h_1 => exact .inr ⟨['\\'], rfl, fun _ => rfl, fun _ => rfl⟩
  case h_2 => exact .inr ⟨['b'], rfl, fun _ => rfl, fun _ => rfl⟩
  case h_3 => exact .inr ⟨['t'], rfl, fun _ => rfl, fun _ => rfl⟩
  case h_4 => exact .inr ⟨['f'], rfl, fun _ => rfl, fun _ => rfl⟩
  case h_5 => exact .inr ⟨['r'], rfl, fun _ => rfl, fun _ => rfl⟩
  case h_6 hbackslash _ _ _ _ =>
    split
    · exact .inr ⟨_, rfl, escapes_control ‹_›⟩
    · rename_i hcontrol
      exact .inl ⟨rfl, hbackslash, Bool.eq_false_iff.2 hcontrol⟩

/-! ### Strings on one line -/

theorem basicBody_skip (word rest : List Char) :
    basicBody word.length (word ++ rest) = basicBody 0 rest := by
  induction word with
  | nil => rfl
  | cons c word ih => rw [List.length_cons, List.cons_append, basicBody, ih]

theorem basicBody_escape {word : List Char} {c : Char} (h : Escapes word c) (rest : List Char) :
    basicBody 0 ('\\' :: (word ++ rest)) = consTo c (basicBody 0 rest) := by
  simp only [basicBody, h.escape?_append, basicBody_skip]

theorem basicBody_cons {c : Char} (hmark : c ≠ '"') (hbackslash : c ≠ '\\')
    (hcontrol : isControl c = false) (rest : List Char) :
    basicBody 0 (c :: rest) = consTo c (basicBody 0 rest) := by
  rw [basicBody, hcontrol]
  · rfl
  · exact hmark
  · exact hbackslash

/-- How a character is written between double quotation marks: as an escape or as itself. -/
theorem escapeBasic_cons (c : Char) (cs : List Char) :
    (∃ word, escapeBasic (c :: cs) = '\\' :: (word ++ escapeBasic cs) ∧ Escapes word c) ∨
      (escapeBasic (c :: cs) = c :: escapeBasic cs ∧ c ≠ '"' ∧ c ≠ '\\' ∧
        isControl c = false) := by
  by_cases hmark : c = '"'
  · subst hmark
    exact .inl ⟨['"'], rfl, escapes_quote⟩
  · have hwrite : escapeBasic (c :: cs) = escapeChar c ++ escapeBasic cs := by
      rw [escapeBasic, List.flatMap_cons, if_neg (by simpa using hmark), ← escapeBasic]
    rcases escapeChar_cases c with ⟨hself, hbackslash, hcontrol⟩ | ⟨word, hword, hescapes⟩
    · exact .inr ⟨by rw [hwrite, hself]; rfl, hmark, hbackslash, hcontrol⟩
    · exact .inl ⟨word, by rw [hwrite, hword]; rfl, hescapes⟩

/-- A string between double quotation marks is read up to the closing one. -/
theorem basicBody_escapeBasic (cs rest : List Char) :
    basicBody 0 (escapeBasic cs ++ '"' :: rest) = some (cs, rest) := by
  induction cs with
  | nil => rfl
  | cons c cs ih =>
    rcases escapeBasic_cons c cs with ⟨word, hwrite, hescapes⟩ |
      ⟨hwrite, hmark, hbackslash, hcontrol⟩
    · rw [hwrite, List.cons_append, List.append_assoc, basicBody_escape hescapes, ih]
      rfl
    · rw [hwrite, List.cons_append, basicBody_cons hmark hbackslash hcontrol, ih]
      rfl

/-- A string between apostrophes is read up to the closing one. -/
theorem literalBody_append {cs : List Char} (hmark : '\'' ∉ cs)
    (hcontrol : ∀ c ∈ cs, isControl c = false) (rest : List Char) :
    literalBody (cs ++ '\'' :: rest) = some (cs, rest) := by
  induction cs with
  | nil => rfl
  | cons c cs ih =>
    obtain ⟨hc, hcs⟩ := List.ne_and_not_mem_of_not_mem_cons hmark
    rw [List.cons_append, literalBody, if_neg (by simpa using hc.symm),
      if_neg (by simp [hcontrol c List.mem_cons_self]),
      ih hcs fun d hd => hcontrol d (List.mem_cons_of_mem c hd)]
    rfl

/-! ### Runs of marks -/

section Run

variable {mark : Char} {cs rest : List Char}

/-- A run of three to five marks closes a string; those beyond three belong to it. -/
theorem closeBlock?_replicate {n : Nat} (hn : n ≤ 2) (hrest : rest.head? ≠ some mark) :
    closeBlock? mark (List.replicate n mark ++ (List.replicate 3 mark ++ rest)) =
      some (List.replicate n mark, rest) := by
  have hstop : rest.takeWhile (· == mark) = [] := by
    cases rest with
    | nil => rfl
    | cons c rest => exact List.takeWhile_cons_of_neg (by simpa using hrest)
  have hrun : (List.replicate (n + 3) mark ++ rest).takeWhile (· == mark) =
      List.replicate (n + 3) mark := by
    rw [List.takeWhile_append_of_pos (by simp +contextual), hstop, List.append_nil]
  have hleft : min (n + 3 - 3) 2 = n := by omega
  rw [← List.append_assoc, List.replicate_append_replicate, closeBlock?, hrun]
  simp only [List.length_replicate, hleft]
  rw [if_neg (by omega), Nat.add_comm 3 n, List.drop_left' List.length_replicate]

theorem closeBlock?_eq_none (h : (cs.takeWhile (· == mark)).length < 3) :
    closeBlock? mark cs = none := by
  rw [closeBlock?, if_pos h]

/-- Another character than the mark closes nothing. -/
theorem closeBlock?_cons_of_ne {c : Char} (h : c ≠ mark) : closeBlock? mark (c :: rest) = none :=
  closeBlock?_eq_none (by rw [List.takeWhile_cons_of_neg (by simpa using h)]; exact Nat.succ_pos 2)

/-- Three marks and the rest of a text, at the end of a string. -/
theorem closeBlock?_three (hrest : rest.head? ≠ some mark) :
    closeBlock? mark (mark :: mark :: mark :: rest) = some ([], rest) :=
  closeBlock?_replicate (Nat.zero_le 2) hrest

end Run

/-! ### Strings of several lines -/

theorem allowedInBlock_of_plain {c : Char} (h : c = '\n' ∨ isControl c = false)
    (next : List Char) : allowedInBlock c next = true := by
  rcases h with rfl | h <;> simp [allowedInBlock, *]

theorem basicBlockBody_skip (word rest : List Char) :
    basicBlockBody word.length (word ++ rest) = basicBlockBody 0 rest := by
  induction word with
  | nil => rfl
  | cons c word ih => rw [List.length_cons, List.cons_append, basicBlockBody, ih]

theorem basicBlockBody_escape {word : List Char} {c : Char} (h : Escapes word c)
    (rest : List Char) :
    basicBlockBody 0 ('\\' :: (word ++ rest)) = consTo c (basicBlockBody 0 rest) := by
  rw [basicBlockBody, h.joinLines?_append, h.escape?_append]
  exact congrArg (consTo c) (basicBlockBody_skip word rest)

theorem basicBlockBody_close {c : Char} {cs : List Char} {found : List Char × List Char}
    (hbackslash : c ≠ '\\') (h : closeBlock? '"' (c :: cs) = some found) :
    basicBlockBody 0 (c :: cs) = some found := by
  rw [basicBlockBody, if_neg (by simpa using hbackslash), h]

theorem basicBlockBody_cons {c : Char} {cs : List Char} (hbackslash : c ≠ '\\')
    (hclose : closeBlock? '"' (c :: cs) = none) (hallowed : allowedInBlock c cs = true) :
    basicBlockBody 0 (c :: cs) = consTo c (basicBlockBody 0 cs) := by
  rw [basicBlockBody, if_neg (by simpa using hbackslash), hclose]
  exact if_pos hallowed

/-- How a character is written after a run of raw marks: as an escape, as itself, or as one more
raw mark. -/
theorem escapeBlock_cons (run : Nat) (c : Char) (cs : List Char) :
    (∃ word, escapeBlock run (c :: cs) = '\\' :: (word ++ escapeBlock 0 cs) ∧ Escapes word c) ∨
      (escapeBlock run (c :: cs) = c :: escapeBlock 0 cs ∧ c ≠ '"' ∧ c ≠ '\\' ∧
        (c = '\n' ∨ isControl c = false)) ∨
      (escapeBlock run (c :: cs) = '"' :: escapeBlock (run + 1) cs ∧ c = '"' ∧ run ≠ 2) := by
  by_cases hmark : c = '"'
  · subst hmark
    by_cases hrun : run = 2
    · exact .inl ⟨['"'], by rw [escapeBlock, if_pos hrun]; rfl, escapes_quote⟩
    · exact .inr (.inr ⟨by rw [escapeBlock, if_neg hrun], rfl, hrun⟩)
  by_cases hline : c = '\n'
  · subst hline
    exact .inr (.inl ⟨by rw [escapeBlock], by decide, by decide, .inl rfl⟩)
  · have hwrite : escapeBlock run (c :: cs) = escapeChar c ++ escapeBlock 0 cs := by
      rw [escapeBlock]
      · exact hmark
      · exact hline
    rcases escapeChar_cases c with ⟨hself, hbackslash, hcontrol⟩ | ⟨word, hword, hescapes⟩
    · exact .inr (.inl ⟨by rw [hwrite, hself]; rfl, hmark, hbackslash, .inr hcontrol⟩)
    · exact .inl ⟨word, by rw [hwrite, hword]; rfl, hescapes⟩

/-- The raw marks that follow a run of them: either they go on up to the end of the string, and
with the run they are two at most, or the whole run ends below three. -/
theorem escapeBlock_run (cs : List Char) {run : Nat} (hrun : run ≤ 2) :
    (∃ n, run + n ≤ 2 ∧ cs = List.replicate n '"' ∧ escapeBlock run cs = cs) ∨
      ∀ rest, run + ((escapeBlock run cs ++ rest).takeWhile (· == '"')).length ≤ 2 := by
  induction cs generalizing run with
  | nil => exact .inl ⟨0, hrun, rfl, rfl⟩
  | cons c cs ih =>
    rcases escapeBlock_cons run c cs with ⟨word, hwrite, -⟩ | ⟨hwrite, hmark, -⟩ |
      ⟨hwrite, rfl, hne⟩
    · exact .inr fun rest => by rw [hwrite]; exact hrun
    · refine .inr fun rest => ?_
      rw [hwrite, List.cons_append, List.takeWhile_cons_of_neg (by simpa using hmark)]
      exact hrun
    · rcases @ih (run + 1) (by omega) with ⟨n, hn, hcs, hraw⟩ | hshort
      · exact .inl ⟨n + 1, by omega, by rw [hcs]; rfl, by rw [hwrite, hraw]⟩
      · refine .inr fun rest => ?_
        rw [hwrite, List.cons_append, List.takeWhile_cons_of_pos rfl, List.length_cons]
        have := hshort rest
        omega

/-- A string between three double quotation marks is read up to the closing ones. -/
theorem basicBlockBody_escapeBlock (cs : List Char) {run : Nat} (hrun : run ≤ 2)
    {rest : List Char} (hrest : rest.head? ≠ some '"') :
    basicBlockBody 0 (escapeBlock run cs ++ (List.replicate 3 '"' ++ rest)) = some (cs, rest) := by
  induction cs generalizing run with
  | nil => exact basicBlockBody_close (by decide) (closeBlock?_three hrest)
  | cons c cs ih =>
    rcases escapeBlock_cons run c cs with ⟨word, hwrite, hescapes⟩ |
      ⟨hwrite, hmark, hbackslash, hplain⟩ | ⟨hwrite, rfl, hne⟩
    · rw [hwrite, List.cons_append, List.append_assoc, basicBlockBody_escape hescapes,
        ih (Nat.zero_le 2)]
      rfl
    · rw [hwrite, List.cons_append, basicBlockBody_cons hbackslash
        (closeBlock?_cons_of_ne hmark) (allowedInBlock_of_plain hplain _), ih (Nat.zero_le 2)]
      rfl
    · -- The marks up to the closing ones are read with these, those of a shorter run one by one.
      rcases escapeBlock_run ('"' :: cs) hrun with ⟨n, hn, hcs, hraw⟩ | hshort
      · rw [hraw, List.cons_append]
        refine basicBlockBody_close (by decide) ?_
        rw [← List.cons_append, hcs]
        exact closeBlock?_replicate (by omega) hrest
      · have hclose := closeBlock?_eq_none (Nat.lt_succ_of_le
          (Nat.le_of_add_left_le (hshort (List.replicate 3 '"' ++ rest))))
        rw [hwrite, List.cons_append] at hclose ⊢
        rw [basicBlockBody_cons (by decide) hclose rfl, ih (by omega)]
        rfl

/-- The marks at the start of a string without three of them in a row: either they are the whole
string, or they end below three before the string does. -/
theorem takeWhile_mark_of_not_occursIn {mark : Char} {cs : List Char}
    (h : occursIn (List.replicate 3 mark) cs = false) :
    (∃ n, n ≤ 2 ∧ cs = List.replicate n mark) ∨
      ∀ rest, ((cs ++ rest).takeWhile (· == mark)).length ≤ 2 := by
  have hstart : cs.takeWhile (· == mark) <+: cs := List.takeWhile_prefix _
  have hrun : cs.takeWhile (· == mark) =
      List.replicate (cs.takeWhile (· == mark)).length mark :=
    List.eq_replicate_of_mem fun c hc => by simpa using List.mem_takeWhile_imp hc
  have hshort : (cs.takeWhile (· == mark)).length ≤ 2 := by
    by_contra hlong
    have hthree : List.replicate 3 mark <+: cs.takeWhile (· == mark) := by
      rw [hrun, List.prefix_replicate_iff, List.length_replicate]
      exact ⟨by omega, rfl⟩
    have hoccurs := occursIn_of_prefix (hthree.trans hstart)
    rw [h] at hoccurs
    cases hoccurs
  by_cases hall : (cs.takeWhile (· == mark)).length = cs.length
  · exact .inl ⟨_, hshort, (hstart.eq_of_length hall).symm.trans hrun⟩
  · refine .inr fun rest => ?_
    rw [List.takeWhile_append, if_neg hall]
    exact hshort

theorem literalBlockBody_close {c : Char} {cs : List Char} {found : List Char × List Char}
    (h : closeBlock? '\'' (c :: cs) = some found) : literalBlockBody (c :: cs) = some found := by
  rw [literalBlockBody, h]

theorem literalBlockBody_cons {c : Char} {cs : List Char}
    (hclose : closeBlock? '\'' (c :: cs) = none) (hallowed : allowedInBlock c cs = true) :
    literalBlockBody (c :: cs) = consTo c (literalBlockBody cs) := by
  rw [literalBlockBody, hclose]
  exact if_pos hallowed

/-- A string between three apostrophes is read up to the closing ones. -/
theorem literalBlockBody_append {cs : List Char}
    (hplain : ∀ c ∈ cs, c = '\n' ∨ isControl c = false)
    (hmarks : occursIn (List.replicate 3 '\'') cs = false) {rest : List Char}
    (hrest : rest.head? ≠ some '\'') :
    literalBlockBody (cs ++ (List.replicate 3 '\'' ++ rest)) = some (cs, rest) := by
  induction cs with
  | nil => exact literalBlockBody_close (closeBlock?_three hrest)
  | cons c cs ih =>
    rcases takeWhile_mark_of_not_occursIn hmarks with ⟨n, hn, hcs⟩ | hshort
    · rw [List.cons_append]
      refine literalBlockBody_close ?_
      rw [← List.cons_append, hcs]
      exact closeBlock?_replicate hn hrest
    · have hclose := closeBlock?_eq_none
        (Nat.lt_succ_of_le (hshort (List.replicate 3 '\'' ++ rest)))
      rw [List.cons_append] at hclose ⊢
      rw [literalBlockBody_cons hclose (allowedInBlock_of_plain (hplain c List.mem_cons_self) _),
        ih (fun d hd => hplain d (List.mem_cons_of_mem c hd)) (occursIn_cons.1 hmarks).2]
      rfl

/-! ### The line ending after the opening marks -/

/-- The line ending that the writer puts before a string of several lines is the one that the
reader drops. -/
theorem dropLineEnding_blockStart {cs body : List Char}
    (hbody : ∀ c ∈ body.head?, c ≠ '\r' ∧ (c = '\n' → '\n' ∈ cs)) :
    dropLineEnding (blockStart cs ++ body) = body := by
  rw [blockStart]
  split
  · rfl
  · rename_i hline
    rw [List.contains_iff_mem] at hline
    cases body with
    | nil => rfl
    | cons c body =>
      obtain ⟨hreturn, hnewline⟩ := hbody c rfl
      rw [List.nil_append, dropLineEnding]
      · exact fun _ h => hline (hnewline (List.head_eq_of_cons_eq h))
      · exact fun _ h => hreturn (List.head_eq_of_cons_eq h)

theorem ne_return_of_plain {c : Char} (h : c = '\n' ∨ isControl c = false) : c ≠ '\r' := by
  rintro rfl
  exact absurd h (by decide)

theorem head_escapeBlock (cs rest : List Char) :
    ∀ c ∈ (escapeBlock 0 cs ++ (List.replicate 3 '"' ++ rest)).head?,
      c ≠ '\r' ∧ (c = '\n' → '\n' ∈ cs) := by
  cases cs with
  | nil =>
    rintro _ ⟨⟩
    exact ⟨by decide, by decide⟩
  | cons d cs =>
    rcases escapeBlock_cons 0 d cs with ⟨word, hwrite, -⟩ | ⟨hwrite, -, -, hplain⟩ | ⟨hwrite, -⟩
    all_goals
      rw [hwrite]
      rintro _ ⟨⟩
    · exact ⟨by decide, fun h => absurd h (by decide)⟩
    · exact ⟨ne_return_of_plain hplain, fun h => h ▸ List.mem_cons_self⟩
    · exact ⟨by decide, fun h => absurd h (by decide)⟩

theorem head_literal {cs : List Char} (hplain : ∀ c ∈ cs, c = '\n' ∨ isControl c = false)
    (rest : List Char) :
    ∀ c ∈ (cs ++ (List.replicate 3 '\'' ++ rest)).head?,
      c ≠ '\r' ∧ (c = '\n' → '\n' ∈ cs) := by
  cases cs with
  | nil =>
    rintro _ ⟨⟩
    exact ⟨by decide, by decide⟩
  | cons d cs =>
    rintro _ ⟨⟩
    exact ⟨ne_return_of_plain (hplain d List.mem_cons_self), fun h => h ▸ List.mem_cons_self⟩

/-! ### The four forms -/

section Forms

variable {rest : List Char}

/-- Text that does not start with three marks holds no string of several lines. -/
theorem string?_eq_lineString? {cs : List Char}
    (h : ∀ mark, cs.take 3 ≠ List.replicate 3 mark) : string? cs = lineString? cs := by
  unfold string?
  split
  · exact absurd rfl (h '"')
  · exact absurd rfl (h '\'')
  · rfl

/-- A string that does not start with its own mark starts with one mark or with two, if it is
empty. -/
theorem take_three_ne {own : Char} {body : List Char} (hbody : body.head? ≠ some own)
    (hrest : rest.head? ≠ some own) (mark : Char) :
    (own :: (body ++ own :: rest)).take 3 ≠ List.replicate 3 mark := by
  intro h
  cases body with
  | nil =>
    cases rest with
    | nil => cases h
    | cons c rest =>
      obtain ⟨rfl, h⟩ := List.cons.inj h
      exact hrest (congrArg some (List.cons.inj (List.cons.inj h).2).1)
  | cons c body =>
    obtain ⟨rfl, h⟩ := List.cons.inj h
    exact hbody (congrArg some (List.cons.inj h).1)

theorem string?_basic (cs : List Char) (hrest : rest.head? ≠ some '"') :
    string? (Form.write cs .basic ++ rest) = some (cs, rest) := by
  have htext : Form.write cs .basic ++ rest = '"' :: (escapeBasic cs ++ '"' :: rest) := by
    simp [Form.write]
  have hhead : (escapeBasic cs).head? ≠ some '"' := by
    cases cs with
    | nil => exact nofun
    | cons c cs =>
      rcases escapeBasic_cons c cs with ⟨word, hwrite, -⟩ | ⟨hwrite, hmark, -⟩
      · rw [hwrite]
        exact fun h => absurd (Option.some.inj h) (by decide)
      · rw [hwrite]
        exact fun h => hmark (Option.some.inj h)
  rw [htext, string?_eq_lineString? (take_three_ne hhead hrest)]
  exact basicBody_escapeBasic cs rest

theorem string?_literal {cs : List Char} (hmark : '\'' ∉ cs)
    (hcontrol : ∀ c ∈ cs, isControl c = false) (hrest : rest.head? ≠ some '\'') :
    string? (Form.write cs .literal ++ rest) = some (cs, rest) := by
  have htext : Form.write cs .literal ++ rest = '\'' :: (cs ++ '\'' :: rest) := by
    simp [Form.write]
  have hhead : cs.head? ≠ some '\'' := fun h => hmark (List.mem_of_mem_head? h)
  rw [htext, string?_eq_lineString? (take_three_ne hhead hrest)]
  exact literalBody_append hmark hcontrol rest

theorem string?_basicBlock (cs : List Char) (hrest : rest.head? ≠ some '"') :
    string? (Form.write cs .basicBlock ++ rest) = some (cs, rest) := by
  have htext : Form.write cs .basicBlock ++ rest = '"' :: '"' :: '"' ::
      (blockStart cs ++ (escapeBlock 0 cs ++ (List.replicate 3 '"' ++ rest))) := by
    simp [Form.write, List.replicate]
  rw [htext, string?, dropLineEnding_blockStart (head_escapeBlock cs _)]
  exact basicBlockBody_escapeBlock cs (Nat.zero_le 2) hrest

theorem string?_literalBlock {cs : List Char}
    (hplain : ∀ c ∈ cs, c = '\n' ∨ isControl c = false)
    (hmarks : occursIn (List.replicate 3 '\'') cs = false) (hrest : rest.head? ≠ some '\'') :
    string? (Form.write cs .literalBlock ++ rest) = some (cs, rest) := by
  have htext : Form.write cs .literalBlock ++ rest = '\'' :: '\'' :: '\'' ::
      (blockStart cs ++ (cs ++ (List.replicate 3 '\'' ++ rest))) := by
    simp [Form.write, List.replicate]
  rw [htext, string?, dropLineEnding_blockStart (head_literal hplain _)]
  exact literalBlockBody_append hplain hmarks hrest

/-- **Every string comes back from its text**, whatever follows it but one more mark. -/
theorem string?_quote (s : String) (hquote : rest.head? ≠ some '"')
    (hapostrophe : rest.head? ≠ some '\'') :
    string? ((quote s).toList ++ rest) = some (s.toList, rest) := by
  rw [quote, String.toList_ofList, Form.of]
  split_ifs with h₁ h₂ h₃ h₄ h₅
  · exact string?_basic _ hquote
  · simp only [Bool.and_eq_true, List.all_eq_true, Bool.not_eq_true'] at h₂
    exact string?_literal (by simpa using h₂.2) h₂.1 hapostrophe
  · exact string?_basicBlock _ hquote
  · simp only [Bool.and_eq_true, List.all_eq_true, Bool.not_eq_true', Bool.or_eq_true,
      beq_iff_eq] at h₄
    exact string?_literalBlock h₄.1 h₄.2 hapostrophe
  · exact string?_basicBlock _ hquote
  · exact string?_basic _ hquote

end Forms

/-- The first character of a written string is a mark. -/
theorem quote_eq_cons (s : String) :
    ∃ tail, (quote s).toList = '"' :: tail ∨ (quote s).toList = '\'' :: tail := by
  rw [quote, String.toList_ofList]
  cases Form.of s.toList with
  | basic => exact ⟨_, .inl rfl⟩
  | literal => exact ⟨_, .inr rfl⟩
  | basicBlock => exact ⟨_, .inl rfl⟩
  | literalBlock => exact ⟨_, .inr rfl⟩

end Folio.Toml
