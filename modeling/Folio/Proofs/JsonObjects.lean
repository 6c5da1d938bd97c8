import Folio.Proofs.JsonRoundTrip

/-!
# Objects with fields that may be absent

What is written as an object is often a list of fields of which some are left out. Setting those
that are there one after the other gives each of their keys its value and leaves the others without
one. When an empty list is left out, it is read back as an empty list.

## Main definitions

* `Folio.Json.present`: the fields that have a value.
* `Folio.Json.unlessEmpty`: the value for a list, none for an empty one.
* `Folio.Json.itemsIn`: the items of the array under a key.

## Main results

* `Folio.Json.get?_keep_present`: what is found after fields that may be absent were set.
* `Folio.Json.itemsIn_of_get?`: the items of a list that was left out when it was empty.
* `Folio.Json.depth_lt_of_mem_itemsIn`: what stands in an array under a key is less deep.
-/

namespace Folio

namespace Json

/-! ### What is found under a key -/

theorem mem_of_get? {fields : Fields} {key : String} {value : Json}
    (h : fields.get? key = some value) : (key, value) ∈ fields := by
  induction fields with
  | nil => cases h
  | cons field fields ih =>
    rw [get?_cons] at h
    split at h
    case isTrue hkey =>
      cases h
      exact hkey ▸ List.mem_cons_self
    case isFalse => exact List.mem_cons_of_mem _ (ih h)

theorem get?_eq_none {fields : Fields} {key : String} (hkey : key ∉ fields.map Prod.fst) :
    fields.get? key = none := by
  cases hfound : fields.get? key with
  | none => rfl
  | some value => exact absurd (List.mem_map_of_mem (mem_of_get? hfound)) hkey

/-- Setting fields of different keys one after the other gives each of these keys its value. -/
theorem get?_keepFields {fields : Fields} (hkeys : (fields.map Prod.fst).Nodup) (before : Fields)
    (key : String) :
    (keepFields before fields).get? key = ((fields.get? key).map keep).or (before.get? key) := by
  induction fields generalizing before with
  | nil => rw [keepFields]; rfl
  | cons field fields ih =>
    obtain ⟨k, v⟩ := field
    obtain ⟨hk, hkeys⟩ := List.nodup_cons.1 hkeys
    rw [keepFields_cons, ih hkeys, get?_insert, get?_cons]
    by_cases hkey : key = k
    · subst hkey
      rw [get?_eq_none hk, if_pos rfl, if_pos rfl]
      rfl
    · rw [if_neg hkey, if_neg hkey]

theorem depthFields_le {fields : Fields} {n : Nat} :
    depthFields fields ≤ n ↔ ∀ field ∈ fields, field.2.depth ≤ n := by
  induction fields with
  | nil => simp [depthFields]
  | cons field fields ih => rw [depthFields, Nat.max_le, ih, List.forall_mem_cons, depthField]

theorem depthItems_le {items : List Json} {n : Nat} :
    depthItems items ≤ n ↔ ∀ item ∈ items, item.depth ≤ n := by
  induction items with
  | nil => simp [depthItems]
  | cons item items ih => rw [depthItems, Nat.max_le, ih, List.forall_mem_cons]

theorem depth_le_of_get? {fields : Fields} {key : String} {value : Json}
    (h : fields.get? key = some value) : value.depth ≤ depthFields fields :=
  depthFields_le.1 (Nat.le_refl _) _ (mem_of_get? h)

theorem depth_array_le {items : List Json} (hitems : items ≠ []) {n : Nat} :
    (Json.array items).depth ≤ n ↔ ∀ item ∈ items, item.depth < n := by
  obtain ⟨first, hfirst⟩ := List.exists_mem_of_ne_nil items hitems
  rw [Json.depth, Nat.add_one_le_iff]
  constructor
  · intro hn item hitem
    exact Nat.lt_of_le_of_lt (depthItems_le.1 (Nat.le_refl _) item hitem) hn
  · intro hitems
    have hpositive := hitems first hfirst
    have hle : depthItems items ≤ n - 1 := depthItems_le.2 fun item hitem => by
      have := hitems item hitem
      omega
    omega

theorem Kept.get? {fields : Fields} (hfields : (Json.object fields).Kept) {key : String}
    {value : Json} (h : fields.get? key = some value) : value.Kept :=
  (kept_object.1 hfields).2 _ (mem_of_get? h)

theorem writable_object {fields : Fields} :
    (Json.object fields).Writable ↔ ∀ field ∈ fields, field.2.Writable := by
  rw [Writable, parts, List.forall_mem_cons, forall_partsOfFields]
  exact and_iff_right trivial

theorem writable_array {items : List Json} :
    (Json.array items).Writable ↔ ∀ item ∈ items, item.Writable := by
  rw [Writable, parts, List.forall_mem_cons, forall_partsOfItems]
  exact and_iff_right trivial

theorem writable_scalar {value : Json} (hparts : value.parts = [value])
    (hvalue : value.WritablePart) : value.Writable := by
  rw [Writable, hparts, List.forall_mem_singleton]
  exact hvalue

theorem writable_string (s : String) : (Json.string s).Writable :=
  writable_scalar (parts.eq_def (.string s)) trivial

/-- A kept value can be written when its numbers are integers. -/
theorem Kept.writable {value : Json} (hkept : value.Kept) (hintegral : value.Integral) :
    value.Writable := by
  intro part hpart
  match part, hkept part hpart, hintegral part hpart with
  | .number (.integer n), hbounded, _ => exact hbounded
  | .number (.double x), _, hdouble => exact hdouble x rfl
  | .null, _, _ | .bool _, _, _ | .string _, _, _ | .array _, _, _ | .object _, _, _ => trivial

/-! ### Fields that may be absent -/

/-- The fields that have a value. -/
def present : List (String × Option Json) → Fields
  | [] => []
  | (key, some value) :: rest => (key, value) :: present rest
  | (_, none) :: rest => present rest

theorem mem_present {fields : List (String × Option Json)} {key : String} {value : Json} :
    (key, value) ∈ present fields ↔ (key, some value) ∈ fields := by
  fun_induction present fields with
  | case1 => simp only [List.not_mem_nil]
  | case2 k v rest ih => simp only [List.mem_cons, ih, Prod.mk.injEq, Option.some.injEq]
  | case3 k rest ih =>
    simp only [List.mem_cons, ih, Prod.mk.injEq, reduceCtorEq, and_false, false_or]

theorem keys_present (fields : List (String × Option Json)) :
    ((present fields).map Prod.fst).Sublist (fields.map Prod.fst) := by
  fun_induction present fields with
  | case1 => exact List.Sublist.refl _
  | case2 k v rest ih => exact ih.cons_cons k
  | case3 k rest ih => exact ih.cons k

theorem get?_present {fields : List (String × Option Json)} (hkeys : (fields.map Prod.fst).Nodup)
    (key : String) : (present fields).get? key = (fields.lookup key).join := by
  fun_induction present fields with
  | case1 => rfl
  | case2 k v rest ih =>
    rw [get?_cons, List.lookup_cons, ih (List.nodup_cons.1 hkeys).2]
    by_cases hkey : key = k
    · rw [if_pos hkey, beq_iff_eq.2 hkey]
      rfl
    · rw [if_neg hkey, beq_eq_false_iff_ne.2 hkey]
  | case3 k rest ih =>
    obtain ⟨hk, hkeys⟩ := List.nodup_cons.1 hkeys
    rw [List.lookup_cons]
    by_cases hkey : key = k
    · subst hkey
      rw [get?_eq_none fun h => hk ((keys_present rest).mem h), beq_iff_eq.2 rfl]
      rfl
    · rw [ih hkeys, beq_eq_false_iff_ne.2 hkey]

/-- What is found under a key after the fields that have a value were set. -/
theorem get?_keep_present {fields : List (String × Option Json)}
    (hkeys : (fields.map Prod.fst).Nodup) (key : String) :
    (keepFields [] (present fields)).get? key = (fields.lookup key).join.map keep := by
  rw [get?_keepFields ((keys_present fields).nodup hkeys), get?_present hkeys]
  exact Option.or_none

/-- The value for a list, none for an empty one. -/
def unlessEmpty {α : Type} (make : List α → Json) (xs : List α) : Option Json :=
  if xs.isEmpty then none else some (make xs)

/-- A list is read back from its value, an empty one from none. -/
theorem read_unlessEmpty {α : Type} {make : List α → Json} (read : Json → Option (List α))
    {xs : List α} (h : read (make xs).keep = some xs) :
    (((unlessEmpty make xs).map keep).bind read).getD [] = xs := by
  cases xs with
  | nil => rfl
  | cons x xs => exact congrArg (Option.getD · []) h

theorem mem_unlessEmpty {α : Type} {make : List α → Json} {xs : List α} {value : Json}
    (h : some value = unlessEmpty make xs) : xs ≠ [] ∧ value = make xs := by
  cases xs with
  | nil => cases h
  | cons x xs =>
    cases h
    exact ⟨List.cons_ne_nil x xs, rfl⟩

/-! ### Arrays under a key -/

/-- The items of the array under a key, none when there is no array. -/
def itemsIn (fields : Fields) (key : String) : List Json :=
  ((fields.get? key).bind Json.items?).getD []

theorem mem_itemsIn {fields : Fields} {key : String} {item : Json}
    (h : item ∈ itemsIn fields key) :
    ∃ items, fields.get? key = some (.array items) ∧ item ∈ items := by
  rw [itemsIn] at h
  cases hfound : fields.get? key with
  | none =>
    rw [hfound] at h
    cases h
  | some value =>
    rw [hfound] at h
    cases value with
    | array items => exact ⟨items, rfl, h⟩
    | _ => cases h

theorem depth_lt_of_mem_itemsIn {fields : Fields} {key : String} {item : Json}
    (h : item ∈ itemsIn fields key) : item.depth < depthFields fields := by
  obtain ⟨items, hitems, hitem⟩ := mem_itemsIn h
  exact (depth_array_le (List.ne_nil_of_mem hitem)).1 (depth_le_of_get? hitems) item hitem

theorem kept_of_mem_itemsIn {fields : Fields} (hfields : (Json.object fields).Kept) {key : String}
    {item : Json} (h : item ∈ itemsIn fields key) : item.Kept := by
  obtain ⟨items, hitems, hitem⟩ := mem_itemsIn h
  exact kept_array.1 (hfields.get? hitems) item hitem

/-- A list that was written as an array under a key is found there. -/
theorem itemsIn_of_get? {α : Type} {fields : Fields} {key : String} {write : List α → List Json}
    (hwrite : write [] = []) {xs : List α}
    (h : fields.get? key = (unlessEmpty (fun xs => .array (write xs)) xs).map keep) :
    itemsIn fields key = keepItems (write xs) := by
  rw [itemsIn, h]
  cases xs with
  | nil =>
    rw [hwrite]
    rfl
  | cons x xs =>
    show ((Json.array (write (x :: xs))).keep.items?).getD [] = _
    rw [keep]
    rfl

end Json

end Folio
