import Folio.Proofs.JsonReading

/-!
# Values as they are kept

The fields of an object are a map: setting a key changes what is found under this key and under no
other, and it keeps the fields sorted. A value is *kept* when this holds of all objects in it, and
when its integers have sixty-four bits. Whatever a reader holds is kept, since fields only get into
an object by setting their keys, and since a numeral with more digits than a significand holds is
no integer.

## Main definitions

* `Folio.Json.parts`: a value and all values inside it.
* `Folio.Json.Fields.Ascending`: fields that are sorted by key, each key once.
* `Folio.Json.Kept`: a value as it is kept after reading.
* `Folio.Json.Integral`: a value whose numbers are integers.

## Main results

* `Folio.Json.get?_insert`: what is found after setting a key.
* `Folio.Json.kept_of_read`: a value that was read is kept.
-/

namespace Folio.Json

/-! ### Fields as a map -/

theorem get?_cons (k key : String) (v : Json) (rest : Fields) :
    Fields.get? ((k, v) :: rest) key = if key = k then some v else Fields.get? rest key := by
  rw [Fields.get?, Fields.get?, List.lookup_cons]
  by_cases hkey : key = k
  · rw [if_pos hkey, beq_iff_eq.2 hkey]
  · rw [if_neg hkey, beq_eq_false_iff_ne.2 hkey]

/-- Setting a key changes what is found under this key, and under no other. -/
theorem get?_insert (fields : Fields) (key other : String) (value : Json) :
    (fields.insert key value).get? other =
      if other = key then some value else fields.get? other := by
  induction fields with
  | nil => exact get?_cons key other value []
  | cons field fields ih =>
    obtain ⟨k, v⟩ := field
    rw [Fields.insert]
    split
    case isTrue hkey =>
      subst hkey
      rw [get?_cons, get?_cons]
      split <;> rfl
    case isFalse hkey =>
      split
      · rw [get?_cons]
      · rw [get?_cons, ih, get?_cons]
        split
        case isTrue hk => rw [if_neg (fun h => hkey (h.symm.trans hk))]
        case isFalse => rfl

/-- Fields sorted by key, each key once. -/
def Fields.Ascending (fields : Fields) : Prop := (fields.map Prod.fst).Pairwise (· < ·)

theorem mem_insert {fields : Fields} {key : String} {value : Json} {field : String × Json}
    (h : field ∈ fields.insert key value) : field = (key, value) ∨ field ∈ fields := by
  induction fields with
  | nil => exact .inl (List.mem_singleton.1 h)
  | cons first fields ih =>
    obtain ⟨k, v⟩ := first
    rw [Fields.insert] at h
    split at h
    · exact (List.mem_cons.1 h).imp_right (List.mem_cons_of_mem _)
    · split at h
      · exact List.mem_cons.1 h
      · rcases List.mem_cons.1 h with rfl | h
        · exact .inr List.mem_cons_self
        · exact (ih h).imp_right (List.mem_cons_of_mem _)

/-- Setting a key keeps fields sorted. -/
theorem Fields.Ascending.insert {fields : Fields} (hfields : fields.Ascending) (key : String)
    (value : Json) : (fields.insert key value).Ascending := by
  induction fields with
  | nil => exact List.pairwise_singleton _ _
  | cons first fields ih =>
    obtain ⟨k, v⟩ := first
    obtain ⟨hk, hrest⟩ := List.pairwise_cons.1 hfields
    rw [Fields.insert]
    split
    case isTrue hkey =>
      subst hkey
      exact List.pairwise_cons.2 ⟨hk, hrest⟩
    case isFalse hkey =>
      split
      case isTrue hlt =>
        refine List.pairwise_cons.2 ⟨?_, hfields⟩
        intro other hother
        rcases List.mem_cons.1 hother with rfl | hother
        · exact hlt
        · exact String.lt_trans hlt (hk other hother)
      case isFalse hlt =>
        refine List.pairwise_cons.2 ⟨?_, ih hrest⟩
        intro other hother
        obtain ⟨field, hfield, rfl⟩ := List.mem_map.1 hother
        rcases mem_insert hfield with rfl | hfield
        · exact (Std.lt_trichotomy k key).resolve_right
            (not_or.2 ⟨fun h => hkey h.symm, hlt⟩)
        · exact hk _ (List.mem_map_of_mem hfield)

/-! ### The values inside a value -/

mutual

/-- A value and all values inside it. -/
def parts : Json → List Json
  | .array items => .array items :: partsOfItems items
  | .object fields => .object fields :: partsOfFields fields
  | value => [value]

/-- Several values and all values inside them. -/
def partsOfItems : List Json → List Json
  | [] => []
  | item :: rest => item.parts ++ partsOfItems rest

/-- The values of several fields and all values inside them. -/
def partsOfFields : List (String × Json) → List Json
  | [] => []
  | field :: rest => partsOfField field ++ partsOfFields rest

/-- The value of a field and all values inside it. -/
def partsOfField : String × Json → List Json
  | (_, value) => value.parts

end

theorem mem_parts (value : Json) : value ∈ value.parts := by
  cases value <;> simp only [parts, List.mem_cons, true_or]

theorem forall_partsOfItems {p : Json → Prop} {items : List Json} :
    (∀ part ∈ partsOfItems items, p part) ↔ ∀ item ∈ items, ∀ part ∈ item.parts, p part := by
  induction items with
  | nil => simp only [partsOfItems, List.not_mem_nil, false_implies, implies_true]
  | cons item items ih =>
    rw [partsOfItems, List.forall_mem_append, ih, List.forall_mem_cons]

theorem forall_partsOfFields {p : Json → Prop} {fields : List (String × Json)} :
    (∀ part ∈ partsOfFields fields, p part) ↔
      ∀ field ∈ fields, ∀ part ∈ field.2.parts, p part := by
  induction fields with
  | nil => simp only [partsOfFields, List.not_mem_nil, false_implies, implies_true]
  | cons field fields ih =>
    rw [partsOfFields, List.forall_mem_append, ih, List.forall_mem_cons, partsOfField]

/-- A number of sixty-four bits: an integer from -2^63 up to 2^64 - 1, or a double. -/
def Number.Bounded : Number → Prop
  | .integer value => -0x8000000000000000 ≤ value ∧ value ≤ 0xFFFFFFFFFFFFFFFF
  | .double _ => True

/-- What a value is apart from the values inside it: fields are sorted, integers bounded. -/
def Proper : Json → Prop
  | .number n => n.Bounded
  | .object fields => Fields.Ascending fields
  | _ => True

/-- A value as it is kept after reading. -/
def Kept (value : Json) : Prop := ∀ part ∈ value.parts, part.Proper

/-- A value whose numbers are integers. -/
def Integral (value : Json) : Prop := ∀ part ∈ value.parts, ∀ x, part ≠ .number (.double x)

instance : DecidablePred Number.Bounded
  | .integer value => inferInstanceAs (Decidable (_ ≤ value ∧ value ≤ _))
  | .double _ => .isTrue trivial

instance : DecidablePred Proper
  | .number n => inferInstanceAs (Decidable n.Bounded)
  | .object fields => inferInstanceAs (Decidable ((fields.map Prod.fst).Pairwise (· < ·)))
  | .null | .bool _ | .string _ | .array _ => .isTrue trivial

instance : DecidablePred Kept := fun value =>
  inferInstanceAs (Decidable (∀ part ∈ value.parts, part.Proper))

instance : DecidablePred fun part : Json => ∀ x, part ≠ .number (.double x)
  | .number (.double x) => .isFalse fun h => h x rfl
  | .number (.integer _) | .null | .bool _ | .string _ | .array _ | .object _ =>
    .isTrue fun _ h => nomatch h

instance : DecidablePred Integral := fun value =>
  inferInstanceAs (Decidable (∀ part ∈ value.parts, ∀ x, part ≠ .number (.double x)))

theorem kept_array {items : List Json} :
    (Json.array items).Kept ↔ ∀ item ∈ items, item.Kept := by
  rw [Kept, parts, List.forall_mem_cons, forall_partsOfItems]
  exact and_iff_right trivial

theorem kept_object {fields : Fields} :
    (Json.object fields).Kept ↔ fields.Ascending ∧ ∀ field ∈ fields, field.2.Kept := by
  rw [Kept, parts, List.forall_mem_cons, forall_partsOfFields]
  exact Iff.rfl

/-! ### What is read is kept -/

theorem absorb_le {significand : Nat} (h : significand ≤ maxSignificand) (digits : List Nat) :
    (absorb significand digits).1 ≤ maxSignificand := by
  induction digits generalizing significand with
  | nil => exact h
  | cons d digits ih =>
    rw [absorb]
    split
    case isTrue hfits => exact ih hfits
    case isFalse => exact h

/-- A numeral denotes a number of sixty-four bits. -/
theorem Numeral.bounded_of_value? {numeral : Numeral} {n : Number}
    (h : numeral.value? = some n) : n.Bounded := by
  have hle : (absorb 0 numeral.whole).1 ≤ 2 ^ 64 - 1 :=
    absorb_le (Nat.zero_le _) numeral.whole
  have hdouble {s : Nat} {power : Int}
      (h : (scale? s power).map (fun x => Number.double (x.withSign numeral.negative)) = some n) :
      n.Bounded := by
    obtain ⟨x, -, rfl⟩ := Option.map_eq_some_iff.1 h
    trivial
  unfold value? at h
  dsimp only at h
  split at h
  case h_1 =>
    split at h
    · exact hdouble h
    · split at h
      · cases h
        exact ⟨by omega, by omega⟩
      · split at h
        case isTrue hsmall =>
          have : (1 <<< 63 : Nat) = 2 ^ 63 := rfl
          cases h
          exact ⟨by omega, by omega⟩
        case isFalse => exact hdouble h
  case h_2 =>
    split at h
    · exact hdouble h
    · exact hdouble h

theorem bounded_of_takeNumber {negative : Bool} {cs rest : List Char} {n : Number}
    (h : takeNumber negative cs = .ok (n, rest)) : n.Bounded := by
  unfold takeNumber at h
  cases hnumeral : takeNumeral negative cs with
  | error e => simp [hnumeral, bind, Except.bind] at h
  | ok r =>
    simp only [hnumeral, bind, Except.bind] at h
    split at h
    case h_1 number hvalue =>
      cases h
      exact Numeral.bounded_of_value? hvalue
    case h_2 => simp at h

/-- A token whose number, if it is one, has sixty-four bits. -/
def Token.Bounded (token : Token) : Prop := ∀ n, token = .number n → n.Bounded

theorem bounded_finish {α : Type} {opened : Bool} {make : α → Token}
    {result : Except ReadError (α × List Char)}
    (hresult : ∀ value rest, result = .ok (value, rest) → (make value).Bounded) :
    (finish opened make result).1.Bounded := by
  match result, hresult with
  | .ok (value, rest), hresult => exact hresult value rest rfl
  | .error error, _ => exact fun _ h => nomatch h

theorem bounded_token (c : Char) (cs : List Char) : (token c cs).1.Bounded := by
  have hnumber {negative : Bool} {ds : List Char} :
      (finish false Token.number (takeNumber negative ds)).1.Bounded := by
    refine bounded_finish fun n rest h m hm => ?_
    cases hm
    exact bounded_of_takeNumber h
  unfold token
  split
  case h_1 | h_2 | h_3 | h_4 | h_5 | h_6 => exact fun _ h => nomatch h
  case h_7 | h_8 | h_9 | h_10 => exact bounded_finish fun _ _ _ _ h => nomatch h
  case h_11 => exact hnumber
  case h_12 =>
    split
    · exact hnumber
    · exact fun _ h => nomatch h

theorem bounded_of_mem_tokens {cs : List Char} {token : Token} (h : token ∈ tokens cs) :
    token.Bounded := by
  fun_induction tokens cs with
  | case1 => cases h
  | case2 c cs hgap ih => exact ih h
  | case3 c cs hgap ih =>
    rcases List.mem_cons.1 h with rfl | h
    · exact bounded_token c cs
    · exact ih h

/-- A frame with kept values, its fields sorted. -/
def Frame.Kept : Frame → Prop
  | .array items => ∀ item ∈ items, item.Kept
  | .object fields _ => (Json.object fields).Kept

/-- A reader that holds kept values. -/
def Reader.Kept : Reader → Prop
  | .value frames | .firstItem frames | .firstKey frames => ∀ frame ∈ frames, frame.Kept
  | .nextKey fields frames | .colon fields _ frames =>
    (Json.object fields).Kept ∧ ∀ frame ∈ frames, frame.Kept
  | .after v frames => v.Kept ∧ ∀ frame ∈ frames, frame.Kept

theorem kept_insert {fields : Fields} (hfields : (Json.object fields).Kept) (key : String)
    {value : Json} (hvalue : value.Kept) : (Json.object (fields.insert key value)).Kept := by
  obtain ⟨hascending, hvalues⟩ := kept_object.1 hfields
  refine kept_object.2 ⟨hascending.insert key value, fun field hfield => ?_⟩
  rcases mem_insert hfield with rfl | hfield
  · exact hvalue
  · exact hvalues field hfield

theorem kept_of_scalar? {token : Token} (htoken : token.Bounded) {value : Json}
    (h : token.scalar? = some value) : value.Kept := by
  unfold Token.scalar? at h
  split at h
  case h_3 n =>
    cases h
    exact List.forall_mem_singleton.2 (htoken n rfl)
  case h_5 => cases h
  all_goals
    cases h
    exact List.forall_mem_singleton.2 trivial

theorem kept_nil : (Json.array []).Kept ∧ (Json.object []).Kept :=
  ⟨kept_array.2 (List.forall_mem_nil _), kept_object.2 ⟨.nil, List.forall_mem_nil _⟩⟩

namespace Reader

/-- What a reader holds stays kept. -/
theorem Accepts.kept {room : Nat} {reader next : Reader} {token : Token}
    (h : Accepts room reader token next) (htoken : token.Bounded) (hreader : reader.Kept) :
    next.Kept := by
  induction h with
  | scalar hv => exact ⟨kept_of_scalar? htoken hv, hreader⟩
  | openArray | openObject | nextKey => exact hreader
  | firstItem _ ih =>
    exact ih htoken (List.forall_mem_cons.2 ⟨List.forall_mem_nil _, hreader⟩)
  | emptyArray => exact ⟨kept_nil.1, hreader⟩
  | firstKey | emptyObject => exact ⟨kept_nil.2, hreader⟩
  | colon => exact List.forall_mem_cons.2 hreader
  | nextItem =>
    obtain ⟨hv, hframes⟩ := hreader
    obtain ⟨hitems, hframes⟩ := List.forall_mem_cons.1 hframes
    exact List.forall_mem_cons.2 ⟨List.forall_mem_cons.2 ⟨hv, hitems⟩, hframes⟩
  | closeArray =>
    obtain ⟨hv, hframes⟩ := hreader
    obtain ⟨hitems, hframes⟩ := List.forall_mem_cons.1 hframes
    refine ⟨kept_array.2 fun item hitem => ?_, hframes⟩
    exact List.forall_mem_cons.2 ⟨hv, hitems⟩ item (List.mem_reverse.1 hitem)
  | nextField | closeObject =>
    obtain ⟨hv, hframes⟩ := hreader
    obtain ⟨hfields, hframes⟩ := List.forall_mem_cons.1 hframes
    exact ⟨kept_insert hfields _ hv, hframes⟩

theorem kept_of_run {room : Nat} {reader : Reader} {tokens : List Token} {value : Json}
    (h : reader.run room tokens = .ok value) (htokens : ∀ token ∈ tokens, token.Bounded)
    (hreader : reader.Kept) : value.Kept := by
  induction tokens generalizing reader with
  | nil =>
    rw [run] at h
    unfold result at h
    split at h
    · cases h
      exact hreader.1
    · cases h
  | cons token tokens ih =>
    obtain ⟨htoken, htokens⟩ := List.forall_mem_cons.1 htokens
    obtain ⟨next, hnext, hrun⟩ := run_cons_eq_ok h
    exact ih hrun htokens ((accepts_step hnext).kept htoken hreader)

end Reader

/-- **A value that was read is kept**: the fields of its objects are sorted by key, each key once,
and its integers have sixty-four bits. -/
theorem kept_of_read {room : Nat} {text : String} {value : Json}
    (h : read room text = .ok value) : value.Kept :=
  Reader.kept_of_run h (fun _ => bounded_of_mem_tokens) (List.forall_mem_nil _)

end Folio.Json
