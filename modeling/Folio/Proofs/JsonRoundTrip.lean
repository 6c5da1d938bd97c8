import Folio.Proofs.JsonFields

/-!
# Reading what was written

The text of a value is cut into the tokens that its parts were written as, whatever follows it, and
a reader that has room for the value comes from these tokens to the value as it is kept: the fields
of every object set one after the other. Of a value that is kept already this is the value itself.
Only texts of integers are read here; what a double is read as depends on how its digits round.

## Main definitions

* `Folio.Json.Writable`: a value whose numbers are integers of sixty-four bits.
* `Folio.Json.written`: the tokens of a value.
* `Folio.Json.keep`: a value with the fields of its objects set one after the other.

## Main results

* `Folio.Json.tokens_text`: the text of a value is cut into its tokens.
* `Folio.Json.run_written`: a reader comes from the tokens of a value to the value.
* `Folio.Json.keep_of_kept`: a kept value is read back as it was.
* `Folio.Json.read_text`: a room that holds a value is enough to read its text.
-/

namespace Folio.Json

/-! ### String literals -/

theorem hexDigit?_hexDigit {n : Nat} (hn : n < 16) : hexDigit? (hexDigit n) = some n := by
  have hdigits : ∀ n < 16, hexDigit? (hexDigit n) = some n := by decide
  exact hdigits n hn

/-- A control character is read back from its four hexadecimal digits. -/
theorem unicodeEscape_control {c : Char} (hc : c.toNat < 0x20) (rest : List Char) :
    unicodeEscape ('0' :: '0' :: hexDigit (c.toNat / 16) :: hexDigit (c.toNat % 16) :: rest) =
      .ok (c, rest) := by
  have hquad : hexQuad? '0' '0' (hexDigit (c.toNat / 16)) (hexDigit (c.toNat % 16)) =
      some c.toNat := by
    have hzero : hexDigit? '0' = some 0 := by decide
    have hhigh := hexDigit?_hexDigit (show c.toNat / 16 < 16 by omega)
    have hlow := hexDigit?_hexDigit (show c.toNat % 16 < 16 by omega)
    simp only [hexQuad?, hzero, hhigh, hlow, Option.bind_eq_bind, Option.bind_some]
    congr 1
    omega
  have htrailing : isTrailing c.toNat = false := by
    simp only [isTrailing, Bool.and_eq_false_iff, decide_eq_false_iff_not]
    omega
  have hleading : isLeading c.toNat = false := by
    simp only [isLeading, Bool.and_eq_false_iff, decide_eq_false_iff_not]
    omega
  simp only [unicodeEscape, hquad, htrailing, hleading, Bool.false_eq_true, ↓reduceIte,
    Char.ofNat_toNat]

theorem stringBody_quoteChar (c : Char) (acc rest : List Char) :
    stringBody acc (quoteChar c ++ rest) = stringBody (c :: acc) rest := by
  unfold quoteChar
  split
  case h_8 hquote hbackslash _ _ _ _ _ =>
    split
    case isTrue hcontrol =>
      have hescape := unicodeEscape_control hcontrol rest
      simp only [List.cons_append, List.nil_append]
      rw [stringBody]
      split
      case h_1 error herror => cases hescape.symm.trans herror
      case h_2 d rest' hok =>
        cases hescape.symm.trans hok
        rfl
    case isFalse hcontrol =>
      rw [List.singleton_append, stringBody, if_neg hcontrol]
      · exact hquote
      · exact hbackslash
  all_goals
    rw [List.cons_append, List.singleton_append, stringBody]
    · rfl
    · exact fun h => absurd h (by decide)

/-- A string literal is read back. -/
theorem stringBody_quoted (cs acc rest : List Char) :
    stringBody acc (cs.flatMap quoteChar ++ '"' :: rest) = .ok (cs.reverse ++ acc, rest) := by
  induction cs generalizing acc with
  | nil => simp [stringBody]
  | cons c cs ih => simp [List.flatMap_cons, List.append_assoc, stringBody_quoteChar, ih]

/-! ### Numerals -/

/-- The text after a number: nothing that could belong to a number stands at its start. -/
def Ends (rest : List Char) : Prop :=
  ∀ c ∈ rest.head?, digit? c = none ∧ c ∉ ['.', 'e', 'E']

theorem digit?_of_isDigit {c : Char} (hc : c.isDigit = true) :
    digit? c = some (c.toNat - '0'.toNat) := by
  simp only [Char.isDigit, Bool.and_eq_true, decide_eq_true_iff] at hc
  exact if_pos hc

/-- The values of decimal digits. -/
def digitValues (cs : List Char) : List Nat := cs.map fun c => c.toNat - '0'.toNat

theorem takeDigits_append {cs rest : List Char} (hcs : ∀ c ∈ cs, c.isDigit = true)
    (hrest : Ends rest) : takeDigits (cs ++ rest) = (digitValues cs, rest) := by
  induction cs with
  | nil =>
    cases rest with
    | nil => rfl
    | cons c rest =>
      simp only [List.nil_append, takeDigits, (hrest c rfl).1, digitValues, List.map_nil]
  | cons c cs ih =>
    obtain ⟨hc, hcs⟩ := List.forall_mem_cons.1 hcs
    simp only [List.cons_append, takeDigits, digit?_of_isDigit hc, ih hcs, digitValues,
      List.map_cons]

theorem le_ofDigitChars (cs : List Char) (n : Nat) : n ≤ Nat.ofDigitChars 10 cs n := by
  induction cs generalizing n with
  | nil => exact Nat.le_refl n
  | cons c cs ih =>
    rw [Nat.ofDigitChars_cons]
    have := ih (10 * n + (c.toNat - '0'.toNat))
    omega

/-- A significand absorbs all digits of a number that is not too large. -/
theorem absorb_digitValues {cs : List Char} {n : Nat}
    (h : Nat.ofDigitChars 10 cs n ≤ maxSignificand) :
    absorb n (digitValues cs) = (Nat.ofDigitChars 10 cs n, cs.length, 0) := by
  induction cs generalizing n with
  | nil => rfl
  | cons c cs ih =>
    rw [Nat.ofDigitChars_cons, Nat.mul_comm] at h ⊢
    have hfits := Nat.le_trans (le_ofDigitChars cs _) h
    simp only [digitValues, List.map_cons] at ih ⊢
    rw [absorb, if_pos hfits, ih h]
    rfl

/-- A number is written without a leading zero, unless it is zero. -/
theorem head?_toDigits {n : Nat} (hn : 0 < n) :
    (Nat.toDigits 10 n).head? ≠ some '0' := by
  induction n using Nat.strongRecOn with
  | _ n ih =>
    rcases Nat.lt_or_ge n 10 with hlt | hge
    · have hdigits : ∀ n < 10, 0 < n → (Nat.toDigits 10 n).head? ≠ some '0' := by decide
      exact hdigits n hlt hn
    · have hrest := ih (n / 10) (by omega) (by omega)
      rw [Nat.toDigits_of_base_le (by decide) hge, List.head?_append]
      cases hdigits : Nat.toDigits 10 (n / 10) with
      | nil => exact absurd hdigits Nat.toDigits_ne_nil
      | cons c cs =>
        rw [hdigits] at hrest
        exact hrest

theorem isDigit_of_mem {n : Nat} {c : Char} (hc : c ∈ Nat.toDigits 10 n) : c.isDigit = true :=
  Nat.isDigit_of_mem_toDigits (by decide) (by decide) hc

theorem not_leading_zero (n : Nat) :
    ¬ ((digitValues (Nat.toDigits 10 n)).head? = some 0 ∧
      (digitValues (Nat.toDigits 10 n)).length > 1) := by
  rintro ⟨hhead, hlength⟩
  rcases Nat.eq_zero_or_pos n with rfl | hn
  · exact absurd hlength (by decide)
  · refine head?_toDigits hn ?_
    rw [digitValues, List.head?_map, Option.map_eq_some_iff] at hhead
    obtain ⟨c, hc, hvalue⟩ := hhead
    have hdigit := isDigit_of_mem (List.mem_of_mem_head? hc)
    simp only [Char.isDigit, Bool.and_eq_true, decide_eq_true_iff, ge_iff_le,
      UInt32.le_iff_toNat_le] at hdigit
    have hzero : c = '0' := by
      apply Char.ext
      apply UInt32.toNat_inj.1
      simp only [Char.toNat] at hvalue
      have : ('0' : Char).val.toNat = 48 := rfl
      have : (48 : UInt32).toNat = 48 := rfl
      omega
    rw [hc, hzero]

theorem takeFraction_ends {rest : List Char} (hrest : Ends rest) :
    takeFraction rest = .ok (none, rest) := by
  unfold takeFraction
  split
  · exact absurd (hrest '.' rfl).2 (by decide)
  · rfl

theorem takeExponent_ends {rest : List Char} (hrest : Ends rest) :
    takeExponent rest = .ok (none, rest) := by
  unfold takeExponent
  split
  case h_1 c rest =>
    have hmark := (hrest c rfl).2
    simp only [List.mem_cons, List.not_mem_nil, or_false, not_or] at hmark
    rw [if_neg (not_or.2 hmark.2)]
  case h_2 => rfl

theorem takeNumeral_toDigits (negative : Bool) (n : Nat) {rest : List Char} (hrest : Ends rest) :
    takeNumeral negative (Nat.toDigits 10 n ++ rest) =
      .ok (⟨negative, digitValues (Nat.toDigits 10 n), none, none⟩, rest) := by
  have hsome : someDigits (Nat.toDigits 10 n ++ rest) =
      .ok (digitValues (Nat.toDigits 10 n), rest) := by
    rw [someDigits, takeDigits_append (fun _ => isDigit_of_mem) hrest]
    cases hdigits : Nat.toDigits 10 n with
    | nil => exact absurd hdigits Nat.toDigits_ne_nil
    | cons c cs => rfl
  simp only [takeNumeral, hsome, bind, Except.bind, if_neg (not_leading_zero n),
    takeFraction_ends hrest, takeExponent_ends hrest]

/-- The text of an integer is read back. -/
theorem takeNumber_toDigits {value : Int} (hvalue : (Number.integer value).Bounded)
    {rest : List Char} (hrest : Ends rest) :
    takeNumber (decide (value < 0)) (Nat.toDigits 10 value.natAbs ++ rest) =
      .ok (.integer value, rest) := by
  obtain ⟨hlow, hhigh⟩ := hvalue
  have hmax : maxSignificand = 2 ^ 64 - 1 := rfl
  have hsmall : (1 <<< 63 : Nat) = 2 ^ 63 := rfl
  have hdigits : Nat.ofDigitChars 10 (Nat.toDigits 10 value.natAbs) 0 = value.natAbs :=
    Nat.ofDigitChars_ten_toDigits
  have habsorb := absorb_digitValues (show Nat.ofDigitChars 10 (Nat.toDigits 10 value.natAbs) 0 ≤
    maxSignificand by omega)
  have hnumber : (Numeral.mk (decide (value < 0)) (digitValues (Nat.toDigits 10 value.natAbs))
      none none).value? = some (.integer value) := by
    rw [hdigits] at habsorb
    simp only [Numeral.value?, habsorb, Nat.lt_irrefl, gt_iff_lt, ↓reduceIte]
    by_cases hneg : value < 0
    · simp only [hneg, decide_true, Bool.not_true, Bool.false_eq_true, ↓reduceIte]
      rw [if_pos ⟨by omega, by omega⟩]
      congr 2
      omega
    · simp only [hneg, decide_false, Bool.not_false, ↓reduceIte]
      congr 2
      omega
  simp only [takeNumber, takeNumeral_toDigits _ _ hrest, bind, Except.bind, hnumber]

theorem token_digit {c : Char} (hc : c.isDigit = true) (cs : List Char) :
    token c cs = finish false .number (takeNumber false (c :: cs)) := by
  unfold token
  split
  case h_12 => rw [if_pos (by rw [digit?_of_isDigit hc]; rfl)]
  all_goals exact absurd hc (by decide)

theorem toList_integer (value : Int) :
    (Number.integer value).text.toList =
      (if value < 0 then ['-'] else []) ++ Nat.toDigits 10 value.natAbs := by
  rw [Number.text, Int.toString_eq_repr, Int.repr_eq_if]
  split
  case isTrue hle =>
    rw [if_neg (Int.not_lt.2 hle), Nat.toList_repr, List.nil_append]
    congr 1
    omega
  case isFalse hlt =>
    rw [if_pos (Int.not_le.1 hlt), String.toList_append, Nat.toList_repr]
    congr 2
    omega

/-! ### Tokens of a text -/

theorem tokens_cons {c : Char} (hgap : isGap c = false) (cs : List Char) :
    tokens (c :: cs) = (token c cs).1 :: tokens (token c cs).2 := by
  rw [tokens, hgap]
  rfl

theorem tokens_quote (s : String) (rest : List Char) :
    tokens ((quote s).toList ++ rest) = .string s :: tokens rest := by
  have htoken : token '"' (s.toList.flatMap quoteChar ++ '"' :: rest) = (.string s, rest) := by
    have hbody := stringBody_quoted s.toList [] rest
    rw [List.append_nil] at hbody
    simp [token, hbody, finish]
  rw [toList_quote, List.cons_append, List.cons_append, List.append_assoc, List.singleton_append,
    tokens_cons (by decide), htoken]

theorem gap_of_isDigit {c : Char} (hc : c.isDigit = true) : isGap c = false := by
  rw [Bool.eq_false_iff]
  intro hgap
  simp only [isGap, Bool.or_eq_true, beq_iff_eq] at hgap
  rcases hgap with ((rfl | rfl) | rfl) | rfl <;> exact absurd hc (by decide)

theorem tokens_integer {value : Int} (hvalue : (Number.integer value).Bounded) {rest : List Char}
    (hrest : Ends rest) :
    tokens ((Number.integer value).text.toList ++ rest) =
      .number (.integer value) :: tokens rest := by
  have htake := takeNumber_toDigits hvalue hrest
  rw [toList_integer]
  by_cases hneg : value < 0
  · rw [decide_eq_true hneg] at htake
    have htoken : token '-' (Nat.toDigits 10 value.natAbs ++ rest) =
        (.number (.integer value), rest) := by
      rw [token, htake, finish]
    rw [if_pos hneg, List.append_assoc, List.singleton_append, tokens_cons (by decide), htoken]
  · rw [decide_eq_false hneg] at htake
    rw [if_neg hneg, List.nil_append]
    cases hdigits : Nat.toDigits 10 value.natAbs with
    | nil => exact absurd hdigits Nat.toDigits_ne_nil
    | cons c cs =>
      have hc : c.isDigit = true := isDigit_of_mem (hdigits ▸ List.mem_cons_self)
      have hgap : isGap c = false := gap_of_isDigit hc
      rw [hdigits] at htake
      have htoken : token c (cs ++ rest) = (.number (.integer value), rest) := by
        rw [token_digit hc, ← List.cons_append, htake, finish]
      rw [List.cons_append, tokens_cons hgap, htoken]

theorem tokens_literal {c : Char} {ws : List Char} {value : Token} (hgap : isGap c = false)
    (htoken : ∀ cs, token c cs = literal value ws cs) (rest : List Char) :
    tokens (c :: (ws ++ rest)) = value :: tokens rest := by
  have hword (ws : List Char) : takeWord ws (ws ++ rest) = .ok rest := by
    induction ws with
    | nil => rfl
    | cons w ws ih => rw [List.cons_append, takeWord, if_pos rfl, ih]
  rw [tokens_cons hgap, htoken, literal, hword]
  rfl

/-- What is neither an array nor an object can be written when its number, if it is one, is an
integer of sixty-four bits. -/
def WritablePart : Json → Prop
  | .number (.integer value) => (Number.integer value).Bounded
  | .number (.double _) => False
  | _ => True

/-- A value whose numbers are integers of sixty-four bits. -/
def Writable (value : Json) : Prop := ∀ part ∈ value.parts, part.WritablePart

mutual

/-- The tokens of a value. -/
def written : Json → List Token
  | .null => [.null]
  | .bool value => [.bool value]
  | .number value => [.number value]
  | .string value => [.string value]
  | .array items => .openArray :: writtenItems items ++ [.closeArray]
  | .object fields => .openObject :: writtenFields fields ++ [.closeObject]

/-- The tokens of the items of an array, with commas between them. -/
def writtenItems : List Json → List Token
  | [] => []
  | [item] => written item
  | item :: next :: rest => written item ++ .comma :: writtenItems (next :: rest)

/-- The tokens of the fields of an object, with commas between them. -/
def writtenFields : List (String × Json) → List Token
  | [] => []
  | [field] => writtenField field
  | field :: next :: rest => writtenField field ++ .comma :: writtenFields (next :: rest)

/-- The tokens of one field. -/
def writtenField : String × Json → List Token
  | (key, value) => .string key :: .colon :: written value

end

/-- A number ends before a bracket or a comma. -/
theorem ends_cons {c : Char} (hc : c ∈ [',', ']', '\x7d']) (rest : List Char) :
    Ends (c :: rest) := by
  intro d hd
  cases hd
  simp only [List.mem_cons, List.not_mem_nil, or_false] at hc
  rcases hc with rfl | rfl | rfl <;> decide

/-- A bracket or a separator is a token by itself. -/
theorem tokens_mark {c : Char} {mark : Token} (hgap : isGap c = false)
    (htoken : ∀ cs, token c cs = (mark, cs)) (rest : List Char) :
    tokens (c :: rest) = mark :: tokens rest := by
  rw [tokens_cons hgap, htoken]

mutual

-- The recursions follow those of the text.

/-- **The text of a value is cut into its tokens**, whatever follows it. -/
theorem tokens_text : (value : Json) → value.Writable → {rest : List Char} → Ends rest →
    tokens (value.text.toList ++ rest) = value.written ++ tokens rest
  | .null, _, rest, _ => tokens_literal (by decide) (fun _ => rfl) rest
  | .bool true, _, rest, _ => tokens_literal (by decide) (fun _ => rfl) rest
  | .bool false, _, rest, _ => tokens_literal (by decide) (fun _ => rfl) rest
  | .number (.integer n), hn, rest, hrest =>
    tokens_integer (hn (.number (.integer n)) (mem_parts _)) hrest
  | .number (.double x), hx, _, _ => False.elim (hx (.number (.double x)) (mem_parts _))
  | .string s, _, rest, _ => tokens_quote s rest
  | .array items, hitems, rest, hrest => by
    rw [Writable, parts, List.forall_mem_cons] at hitems
    have hinner := tokens_textItems items hitems.2 (ends_cons (c := ']') (by decide) rest)
    simp only [text, String.toList_append, List.append_assoc, written]
    change tokens ('[' :: ((textItems items).toList ++ (']' :: rest))) = _
    rw [tokens_mark (by decide) (fun _ => rfl), hinner, tokens_mark (by decide) (fun _ => rfl)]
    simp
  | .object fields, hfields, rest, hrest => by
    rw [Writable, parts, List.forall_mem_cons] at hfields
    have hinner := tokens_textFields fields hfields.2 (ends_cons (c := '\x7d') (by decide) rest)
    simp only [text, String.toList_append, List.append_assoc, written]
    change tokens ('\x7b' :: ((textFields fields).toList ++ ('\x7d' :: rest))) = _
    rw [tokens_mark (by decide) (fun _ => rfl), hinner, tokens_mark (by decide) (fun _ => rfl)]
    simp

theorem tokens_textItems : (items : List Json) →
    (∀ part ∈ partsOfItems items, part.WritablePart) → {rest : List Char} → Ends rest →
      tokens ((textItems items).toList ++ rest) = writtenItems items ++ tokens rest
  | [], _, _, _ => rfl
  | [item], hitems, rest, hrest => by
    rw [partsOfItems, List.forall_mem_append] at hitems
    exact tokens_text item hitems.1 hrest
  | item :: next :: others, hitems, rest, hrest => by
    rw [partsOfItems, List.forall_mem_append] at hitems
    have hothers := tokens_textItems (next :: others) hitems.2 hrest
    have hitem := tokens_text item hitems.1
      (ends_cons (c := ',') (by decide) ((textItems (next :: others)).toList ++ rest))
    simp only [textItems, String.toList_append, List.append_assoc, writtenItems]
    change tokens (item.text.toList ++ ',' :: ((textItems (next :: others)).toList ++ rest)) = _
    rw [hitem, tokens_mark (by decide) (fun _ => rfl), hothers, List.cons_append]

theorem tokens_textFields : (fields : List (String × Json)) →
    (∀ part ∈ partsOfFields fields, part.WritablePart) → {rest : List Char} → Ends rest →
      tokens ((textFields fields).toList ++ rest) = writtenFields fields ++ tokens rest
  | [], _, _, _ => rfl
  | [field], hfields, rest, hrest => by
    rw [partsOfFields, List.forall_mem_append] at hfields
    exact tokens_textField field hfields.1 hrest
  | field :: next :: others, hfields, rest, hrest => by
    rw [partsOfFields, List.forall_mem_append] at hfields
    have hothers := tokens_textFields (next :: others) hfields.2 hrest
    have hfield := tokens_textField field hfields.1
      (ends_cons (c := ',') (by decide) ((textFields (next :: others)).toList ++ rest))
    simp only [textFields, String.toList_append, List.append_assoc, writtenFields]
    change tokens ((textField field).toList ++ ',' ::
      ((textFields (next :: others)).toList ++ rest)) = _
    rw [hfield, tokens_mark (by decide) (fun _ => rfl), hothers, List.cons_append]

theorem tokens_textField : (field : String × Json) →
    (∀ part ∈ partsOfField field, part.WritablePart) → {rest : List Char} → Ends rest →
      tokens ((textField field).toList ++ rest) = writtenField field ++ tokens rest
  | (key, value), hvalue, rest, hrest => by
    simp only [textField, String.toList_append, List.append_assoc, writtenField]
    change tokens ((quote key).toList ++ ':' :: (value.text.toList ++ rest)) = _
    rw [tokens_quote, tokens_mark (by decide) (fun _ => rfl), tokens_text value hvalue hrest]
    rfl

end

/-! ### The value that is read -/

mutual

/-- A value with the fields of its objects set one after the other. -/
def keep : Json → Json
  | .array items => .array (keepItems items)
  | .object fields => .object (keepFields [] fields)
  | value => value

/-- Several values with the fields of their objects set one after the other. -/
def keepItems : List Json → List Json
  | [] => []
  | item :: rest => item.keep :: keepItems rest

/-- Fields with further ones set one after the other. -/
def keepFields (fields : Fields) : List (String × Json) → Fields
  | [] => fields
  | field :: rest => keepFields (keepField fields field) rest

/-- Fields with one field set. -/
def keepField (fields : Fields) : String × Json → Fields
  | (key, value) => fields.insert key value.keep

end

theorem keepItems_cons (item : Json) (rest : List Json) :
    keepItems (item :: rest) = item.keep :: keepItems rest := by
  rw [keepItems]

theorem keepFields_cons (before : Fields) (field : String × Json) (rest : List (String × Json)) :
    keepFields before (field :: rest) =
      keepFields (before.insert field.1 field.2.keep) rest := by
  rw [keepFields, keepField]

namespace Reader

theorem run_cons {room : Nat} {reader next : Reader} {token : Token}
    (h : reader.step room token = .ok next) (rest : List Token) :
    reader.run room (token :: rest) = next.run room rest := by
  rw [run, h]

/-- The first item of an array is read like an item after a comma. -/
theorem run_firstItem (room : Nat) (frames : List Frame) {items : List Json} (hitems : items ≠ [])
    (rest : List Token) :
    (Reader.firstItem frames).run room (writtenItems items ++ rest) =
      (Reader.value (.array [] :: frames)).run room (writtenItems items ++ rest) := by
  have hfirst (item : Json) (rest : List Token) :
      (Reader.firstItem frames).run room (item.written ++ rest) =
        (Reader.value (.array [] :: frames)).run room (item.written ++ rest) := by
    cases item <;> rfl
  match items, hitems with
  | [item], _ => exact hfirst item rest
  | item :: next :: others, _ =>
    rw [writtenItems, List.append_assoc]
    exact hfirst item _

/-- The first key of an object is read like a key after a comma. -/
theorem run_firstKey (room : Nat) (frames : List Frame) {fields : List (String × Json)}
    (hfields : fields ≠ []) (rest : List Token) :
    (Reader.firstKey frames).run room (writtenFields fields ++ rest) =
      (Reader.nextKey [] frames).run room (writtenFields fields ++ rest) := by
  match fields, hfields with
  | [(key, v)], _ => rfl
  | (key, v) :: next :: others, _ => rfl

variable {room : Nat}

mutual

-- The room for a value is that for what is inside it, one level deeper.

/-- **A reader comes from the tokens of a value to the value as it is kept.** -/
theorem run_written : (value : Json) → {frames : List Frame} → (rest : List Token) →
    frames.length + value.depth ≤ room →
      (Reader.value frames).run room (value.written ++ rest) =
        (Reader.after value.keep frames).run room rest
  | .null, _, _, _ => rfl
  | .bool _, _, _, _ => rfl
  | .number _, _, _, _ => rfl
  | .string _, _, _, _ => rfl
  | .array items, frames, rest, hroom => by
    rw [Json.depth] at hroom
    have hopen : (Reader.value frames).step room .openArray = .ok (.firstItem frames) :=
      if_pos (by omega)
    rw [written, List.cons_append, List.cons_append, List.append_assoc, run_cons hopen, keep]
    by_cases hitems : items = []
    · subst hitems
      rfl
    · rw [run_firstItem room frames hitems]
      exact run_writtenItems items hitems [] rest (by omega)
  | .object fields, frames, rest, hroom => by
    rw [Json.depth] at hroom
    have hopen : (Reader.value frames).step room .openObject = .ok (.firstKey frames) :=
      if_pos (by omega)
    rw [written, List.cons_append, List.cons_append, List.append_assoc, run_cons hopen, keep]
    by_cases hfields : fields = []
    · subst hfields
      rfl
    · rw [run_firstKey room frames hfields]
      exact run_writtenFields fields hfields [] rest (by omega)

theorem run_writtenItems : (items : List Json) → items ≠ [] → (before : List Json) →
    {frames : List Frame} → (rest : List Token) →
    frames.length + 1 + depthItems items ≤ room →
      (Reader.value (.array before :: frames)).run room
          (writtenItems items ++ .closeArray :: rest) =
        (Reader.after (.array (before.reverse ++ keepItems items)) frames).run room rest
  | [item], _, before, frames, rest, hroom => by
    rw [depthItems] at hroom
    have hclose : (Reader.after item.keep (.array before :: frames)).step room .closeArray =
        .ok (.after (.array (item.keep :: before).reverse) frames) := rfl
    rw [writtenItems, run_written item _ (by rw [List.length_cons]; omega), run_cons hclose,
      List.reverse_cons, keepItems, keepItems]
  | item :: next :: others, _, before, frames, rest, hroom => by
    rw [depthItems] at hroom
    have hcomma : (Reader.after item.keep (.array before :: frames)).step room .comma =
        .ok (.value (.array (item.keep :: before) :: frames)) := rfl
    rw [writtenItems, List.append_assoc, List.cons_append,
      run_written item _ (by rw [List.length_cons]; omega), run_cons hcomma,
      run_writtenItems (next :: others) (List.cons_ne_nil _ _) _ rest (by omega),
      List.reverse_cons, List.append_assoc, List.singleton_append, keepItems_cons item]

theorem run_writtenFields : (fields : List (String × Json)) → fields ≠ [] → (before : Fields) →
    {frames : List Frame} → (rest : List Token) →
    frames.length + 1 + depthFields fields ≤ room →
      (Reader.nextKey before frames).run room
          (writtenFields fields ++ .closeObject :: rest) =
        (Reader.after (.object (keepFields before fields)) frames).run room rest
  | [field], _, before, frames, rest, hroom => by
    rw [depthFields] at hroom
    have hclose : (Reader.after field.2.keep (.object before field.1 :: frames)).step room
        .closeObject = .ok (.after (.object (before.insert field.1 field.2.keep)) frames) := rfl
    rw [writtenFields, run_writtenField field _ (by omega), run_cons hclose, keepFields_cons,
      keepFields]
  | field :: next :: others, _, before, frames, rest, hroom => by
    rw [depthFields] at hroom
    have hcomma : (Reader.after field.2.keep (.object before field.1 :: frames)).step room
        .comma = .ok (.nextKey (before.insert field.1 field.2.keep) frames) := rfl
    rw [writtenFields, List.append_assoc, List.cons_append, run_writtenField field _ (by omega),
      run_cons hcomma, run_writtenFields (next :: others) (List.cons_ne_nil _ _) _ rest (by omega),
      keepFields_cons before]

theorem run_writtenField : (field : String × Json) → {before : Fields} → {frames : List Frame} →
    (rest : List Token) → frames.length + 1 + depthField field ≤ room →
      (Reader.nextKey before frames).run room (writtenField field ++ rest) =
        (Reader.after field.2.keep (.object before field.1 :: frames)).run room rest
  | (key, v), before, frames, rest, hroom => by
    rw [depthField] at hroom
    have hkey : (Reader.nextKey before frames).step room (.string key) =
        .ok (.colon before key frames) := rfl
    have hcolon : (Reader.colon before key frames).step room .colon =
        .ok (.value (.object before key :: frames)) := rfl
    rw [writtenField, List.cons_append, List.cons_append, run_cons hkey, run_cons hcolon,
      run_written v _ (by rw [List.length_cons]; omega)]

end

end Reader

/-! ### Kept values are read back as they were -/

/-- A key after all others is set at the end. -/
theorem insert_last {fields : Fields} {key : String} (hkey : ∀ field ∈ fields, field.1 < key)
    (value : Json) : fields.insert key value = fields ++ [(key, value)] := by
  induction fields with
  | nil => rfl
  | cons field fields ih =>
    obtain ⟨k, v⟩ := field
    obtain ⟨hk, hrest⟩ := List.forall_mem_cons.1 hkey
    rw [Fields.insert, if_neg (fun h => String.lt_irrefl _ (h ▸ hk)),
      if_neg (fun h => String.lt_irrefl _ (String.lt_trans h hk)), ih hrest, List.cons_append]

mutual

/-- **A kept value is read back as it was.** -/
theorem keep_of_kept : (value : Json) → value.Kept → value.keep = value
  | .null, _ | .bool _, _ | .number _, _ | .string _, _ => by simp only [keep]
  | .array items, hitems => by
    rw [keep, keepItems_of_kept items (kept_array.1 hitems)]
  | .object fields, hfields => by
    obtain ⟨hascending, hvalues⟩ := kept_object.1 hfields
    rw [keep, keepFields_of_kept fields hvalues [] hascending, List.nil_append]

theorem keepItems_of_kept : (items : List Json) → (∀ item ∈ items, item.Kept) →
    keepItems items = items
  | [], _ => rfl
  | item :: others, hitems => by
    obtain ⟨hitem, hothers⟩ := List.forall_mem_cons.1 hitems
    rw [keepItems, keep_of_kept item hitem, keepItems_of_kept others hothers]

theorem keepFields_of_kept : (fields : List (String × Json)) → (∀ field ∈ fields, field.2.Kept) →
    (before : Fields) → Fields.Ascending (before ++ fields) →
      keepFields before fields = before ++ fields
  | [], _, before, _ => by rw [keepFields, List.append_nil]
  | (key, value) :: others, hfields, before, hascending => by
    obtain ⟨hvalue, hothers⟩ := List.forall_mem_cons.1 hfields
    have hlast : ∀ field ∈ before, field.1 < key := by
      intro field hfield
      rw [Fields.Ascending, List.map_append, List.pairwise_append] at hascending
      exact hascending.2.2 _ (List.mem_map_of_mem hfield) key List.mem_cons_self
    have happend : before ++ (key, value) :: others = before ++ [(key, value)] ++ others := by
      rw [List.append_assoc, List.singleton_append]
    rw [happend] at hascending ⊢
    rw [keepFields_cons, keep_of_kept value hvalue, insert_last hlast,
      keepFields_of_kept others hothers _ hascending]

end

/-- **A room that holds a value is enough to read its text.** -/
theorem read_text {room : Nat} {value : Json} (hwritable : value.Writable)
    (hroom : value.depth ≤ room) : read room value.text = .ok value.keep := by
  have hends : Ends [] := fun _ hhead => nomatch hhead
  have htokens := tokens_text value hwritable hends
  rw [List.append_nil, tokens] at htokens
  have hrun := Reader.run_written value [] (show ([] : List Frame).length + value.depth ≤ room by
    rwa [List.length_nil, Nat.zero_add])
  rw [read, htokens, hrun]
  rfl

end Folio.Json
