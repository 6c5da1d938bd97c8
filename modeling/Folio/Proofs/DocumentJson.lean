import Folio.Document.OfJson
import Folio.Document.ToJson
import Folio.Proofs.JsonObjects

/-!
# Documents as JSON values

A node is read back from the fields that it was written as, since no two of them have one key and
an absent field stands for an empty one. This holds of documents whose kinds are those that their
tags name and whose attributes are kept; every document that was read is one. A document that was
read nests no deeper than the value that it was read from, apart from the brackets of the node
itself: each field of a node that is read is one that is written, if anything was found in it.

## Main definitions

* `Folio.Document.Node.nodes`: a node and all nodes below it.
* `Folio.Document.Node.Kept`: a document as it is kept after reading.
* `Folio.Document.Node.Integral`: a document whose attributes have integers for numbers.

## Main results

* `Folio.Document.Node.ofJson_keep`: a document is read back from its value.
* `Folio.Document.Node.kept_ofJson`: a document that was read is kept.
* `Folio.Document.Node.depth_toJson_le`: how deep a document nests after it was read.
-/

namespace Folio

namespace Document

open Json

/-! ### Kinds and their tags -/

theorem NodeKind.eq_of_ofTag {tag name : String} (h : ofTag tag = unknown name) : name = tag := by
  unfold ofTag at h
  split at h <;> cases h
  rfl

/-- The tag of a kind that a tag names is a tag for the same kind. -/
theorem NodeKind.ofTag_tag_ofTag (tag : String) : ofTag (ofTag tag).tag = ofTag tag := by
  cases hkind : ofTag tag with
  | unknown name =>
    cases eq_of_ofTag hkind
    exact hkind
  | _ => rfl

theorem MarkKind.eq_of_ofTag {tag name : String} (h : ofTag tag = unknown name) : name = tag := by
  unfold ofTag at h
  split at h <;> cases h
  rfl

theorem MarkKind.ofTag_tag_ofTag (tag : String) : ofTag (ofTag tag).tag = ofTag tag := by
  cases hkind : ofTag tag with
  | unknown name =>
    cases eq_of_ofTag hkind
    exact hkind
  | _ => rfl

/-! ### Documents as they are kept -/

/-- A mark as it is kept: no unknown kind has a tag that names another one, and the attributes are
kept. -/
structure Mark.Kept (mark : Mark) : Prop where
  kind : MarkKind.ofTag mark.kind.tag = mark.kind
  attrs : (Json.object mark.attrs).Kept

instance : DecidablePred Mark.Kept := fun mark =>
  decidable_of_iff (MarkKind.ofTag mark.kind.tag = mark.kind ∧ (Json.object mark.attrs).Kept)
    ⟨fun ⟨kind, attrs⟩ => ⟨kind, attrs⟩, fun ⟨kind, attrs⟩ => ⟨kind, attrs⟩⟩

namespace Node

mutual

/-- A node and all nodes below it. -/
def nodes : Node → List Node
  | ⟨kind, attrs, content, text, marks⟩ => ⟨kind, attrs, content, text, marks⟩ :: nodesAll content

/-- Several nodes and all nodes below them. -/
def nodesAll : List Node → List Node
  | [] => []
  | node :: rest => nodes node ++ nodesAll rest

end

/-- What a node as it is kept is apart from the nodes below it. -/
structure Proper (node : Node) : Prop where
  kind : NodeKind.ofTag node.kind.tag = node.kind
  attrs : (Json.object node.attrs).Kept
  marks : ∀ mark ∈ node.marks, mark.Kept

/-- A document as it is kept after reading. -/
def Kept (root : Node) : Prop := ∀ node ∈ root.nodes, node.Proper

/-- A document whose attributes, those of its marks included, have integers for numbers. -/
def Integral (root : Node) : Prop :=
  ∀ node ∈ root.nodes, (Json.object node.attrs).Integral ∧
    ∀ mark ∈ node.marks, (Json.object mark.attrs).Integral

instance : DecidablePred Proper := fun node =>
  decidable_of_iff (NodeKind.ofTag node.kind.tag = node.kind ∧ (Json.object node.attrs).Kept ∧
      ∀ mark ∈ node.marks, mark.Kept)
    ⟨fun ⟨kind, attrs, marks⟩ => ⟨kind, attrs, marks⟩,
      fun ⟨kind, attrs, marks⟩ => ⟨kind, attrs, marks⟩⟩

instance : DecidablePred Kept := fun root =>
  inferInstanceAs (Decidable (∀ node ∈ root.nodes, node.Proper))

instance : DecidablePred Integral := fun root =>
  inferInstanceAs (Decidable (∀ node ∈ root.nodes, _ ∧ ∀ mark ∈ node.marks, _))

theorem nodes_eq (node : Node) : node.nodes = node :: nodesAll node.content := by
  cases node
  rw [nodes]

theorem forall_nodesAll {p : Node → Prop} {content : List Node} :
    (∀ node ∈ nodesAll content, p node) ↔ ∀ child ∈ content, ∀ node ∈ child.nodes, p node := by
  induction content with
  | nil => simp only [nodesAll, List.not_mem_nil, false_implies, implies_true]
  | cons child content ih =>
    rw [nodesAll, List.forall_mem_append, ih, List.forall_mem_cons]

theorem kept_iff {node : Node} :
    node.Kept ↔ node.Proper ∧ ∀ child ∈ node.content, child.Kept := by
  rw [Kept, nodes_eq, List.forall_mem_cons, forall_nodesAll]
  exact Iff.rfl

theorem integral_iff {node : Node} :
    node.Integral ↔ ((Json.object node.attrs).Integral ∧
      ∀ mark ∈ node.marks, (Json.object mark.attrs).Integral) ∧
      ∀ child ∈ node.content, child.Integral := by
  rw [Integral, nodes_eq, List.forall_mem_cons, forall_nodesAll]
  exact Iff.rfl

end Node

/-! ### The fields of a node -/

/-- The fields of a mark, present or not, in the order in which they are written. -/
def Mark.fields (mark : Mark) : List (String × Option Json) :=
  [("type", some (.string mark.kind.tag)), ("attrs", unlessEmpty .object mark.attrs)]

theorem Mark.toJson_eq (mark : Mark) : mark.toJson = .object (present mark.fields) := by
  obtain ⟨kind, attrs⟩ := mark
  cases attrs <;> rfl

namespace Node

theorem toJsonAll_eq_map (content : List Node) : toJsonAll content = content.map toJson := by
  induction content with
  | nil => rw [toJsonAll, List.map_nil]
  | cons child rest ih => rw [toJsonAll, ih, List.map_cons]

/-- The fields of a node, present or not, in the order in which they are written. -/
def fields (node : Node) : List (String × Option Json) :=
  [("type", some (.string node.kind.tag)), ("attrs", unlessEmpty .object node.attrs),
    ("content", unlessEmpty (fun content => .array (toJsonAll content)) node.content),
    ("text", node.text.map .string),
    ("marks", unlessEmpty (fun marks => .array (marks.map Mark.toJson)) node.marks)]

theorem toJson_eq (node : Node) : node.toJson = .object (present node.fields) := by
  obtain ⟨kind, attrs, content, text, marks⟩ := node
  rw [toJson]
  cases attrs <;> cases content <;> cases text <;> cases marks <;> rfl

/-- No two fields of a node have one key. -/
theorem nodup_keys (node : Node) : (node.fields.map Prod.fst).Nodup := by
  show ["type", "attrs", "content", "text", "marks"].Nodup
  decide

end Node

/-! ### Reading a document back -/

theorem tagIn?_of_get? {fields : Fields} {tag : String}
    (h : fields.get? "type" = some (.string tag)) : tagIn? fields = some tag := by
  rw [tagIn?, h]
  rfl

theorem attrsIn_of_get? {fields : Fields} {attrs : Attributes} (hattrs : (Json.object attrs).Kept)
    (h : fields.get? "attrs" = (unlessEmpty .object attrs).map keep) : attrsIn fields = attrs := by
  have hread : (Json.object attrs).keep.fields? = some attrs :=
    congrArg Json.fields? (keep_of_kept _ hattrs)
  rw [attrsIn, h, read_unlessEmpty Json.fields? hread]

/-- A mark is read back. -/
theorem Mark.ofJson?_keep {mark : Mark} (hmark : mark.Kept) :
    Mark.ofJson? mark.toJson.keep = some mark := by
  have hkeys : (mark.fields.map Prod.fst).Nodup := by
    show ["type", "attrs"].Nodup
    decide
  have hfound := get?_keep_present hkeys
  rw [Mark.toJson_eq, keep, Mark.ofJson?, tagIn?_of_get? (hfound "type"),
    attrsIn_of_get? hmark.attrs (hfound "attrs"), Option.map_some, Option.getD_some, hmark.kind]

theorem filterMap_keep_marks {marks : List Mark} (hmarks : ∀ mark ∈ marks, mark.Kept) :
    (keepItems (marks.map Mark.toJson)).filterMap Mark.ofJson? = marks := by
  induction marks with
  | nil => rfl
  | cons mark marks ih =>
    obtain ⟨hmark, hmarks⟩ := List.forall_mem_cons.1 hmarks
    rw [List.map_cons, keepItems, List.filterMap_cons, Mark.ofJson?_keep hmark, ih hmarks]

namespace Node

theorem contentOf_eq (fields : Fields) : contentOf fields = ofItems (itemsIn fields "content") := by
  induction fields with
  | nil =>
    rw [contentOf]
    exact ofItems.eq_1.symm
  | cons field fields ih =>
    obtain ⟨key, value⟩ := field
    rw [contentOf, itemsIn, get?_cons, ih]
    by_cases hkey : "content" = key
    · rw [if_pos hkey]
      cases value <;> simp [childrenIn, hkey, Json.items?, ofItems]
    · rw [if_neg hkey]
      cases value <;> simp [childrenIn, Ne.symm hkey, itemsIn]

/-- Everything of a node apart from its children is read back from its fields. -/
theorem ofFields_keep {node : Node} (hnode : node.Proper) :
    ofFields (keepFields [] (present node.fields)) node.content = node := by
  have hfound := get?_keep_present (nodup_keys node)
  have htext : ((keepFields [] (present node.fields)).get? "text").bind Json.text? = node.text := by
    rw [show Fields.get? _ "text" = (node.text.map Json.string).map keep from hfound "text"]
    cases node.text <;> rfl
  have hmarks : (itemsIn (keepFields [] (present node.fields)) "marks").filterMap Mark.ofJson? =
      node.marks := by
    rw [itemsIn_of_get? List.map_nil (hfound "marks"), filterMap_keep_marks hnode.marks]
  rw [ofFields, ← itemsIn, tagIn?_of_get? (hfound "type"),
    attrsIn_of_get? hnode.attrs (hfound "attrs"), htext, hmarks, Option.map_some, Option.getD_some,
    hnode.kind]
  cases node
  rfl

mutual

/-- **A document is read back from its value.** -/
theorem ofJson_keep : (node : Node) → node.Kept → ofJson node.toJson.keep = node
  | ⟨kind, attrs, content, text, marks⟩, hnode => by
    obtain ⟨hproper, hcontent⟩ := kept_iff.1 hnode
    have hread := ofItems_keep content hcontent
    have hfound := get?_keep_present (nodup_keys ⟨kind, attrs, content, text, marks⟩) "content"
    have hchildren : contentOf (keepFields [] (present
        (Node.fields ⟨kind, attrs, content, text, marks⟩))) = content := by
      rw [contentOf_eq, itemsIn_of_get? toJsonAll.eq_1 hfound, hread]
    rw [toJson_eq, keep, ofJson, hchildren]
    exact ofFields_keep hproper

theorem ofItems_keep : (content : List Node) → (∀ child ∈ content, child.Kept) →
    ofItems (keepItems (toJsonAll content)) = content
  | [], _ => by simp only [toJsonAll, keepItems, ofItems]
  | child :: rest, hcontent => by
    obtain ⟨hchild, hrest⟩ := List.forall_mem_cons.1 hcontent
    have hobject : child.toJson.keep.isObject = true := by
      rw [toJson_eq, keep]
      rfl
    rw [toJsonAll, keepItems, ofItems, if_pos hobject, ofJson_keep child hchild,
      ofItems_keep rest hrest]

end

/-- The value of a field that a node has. -/
theorem mem_fields {node : Node} {key : String} {value : Json}
    (h : (key, some value) ∈ node.fields) :
    value = .string node.kind.tag ∨
      (node.attrs ≠ [] ∧ value = .object node.attrs) ∨
      (node.content ≠ [] ∧ value = .array (toJsonAll node.content)) ∨
      (∃ text, value = .string text) ∨
      (node.marks ≠ [] ∧ value = .array (node.marks.map Mark.toJson)) := by
  simp only [fields, List.mem_cons, Prod.mk.injEq, Option.some.injEq, List.not_mem_nil,
    or_false] at h
  rcases h with ⟨-, h⟩ | ⟨-, h⟩ | ⟨-, h⟩ | ⟨-, h⟩ | ⟨-, h⟩
  · exact .inl h
  · exact .inr (.inl (mem_unlessEmpty h))
  · exact .inr (.inr (.inl (mem_unlessEmpty h)))
  · obtain ⟨text, -, rfl⟩ := Option.map_eq_some_iff.1 h.symm
    exact .inr (.inr (.inr (.inl ⟨text, rfl⟩)))
  · exact .inr (.inr (.inr (.inr (mem_unlessEmpty h))))

end Node

/-! ### Texts of documents -/

theorem Mark.mem_fields {mark : Mark} {key : String} {value : Json}
    (h : (key, some value) ∈ mark.fields) :
    value = .string mark.kind.tag ∨ (mark.attrs ≠ [] ∧ value = .object mark.attrs) := by
  simp only [fields, List.mem_cons, Prod.mk.injEq, Option.some.injEq, List.not_mem_nil,
    or_false] at h
  rcases h with ⟨-, h⟩ | ⟨-, h⟩
  · exact .inl h
  · exact .inr (mem_unlessEmpty h)

theorem Mark.writable_toJson {mark : Mark} (hmark : mark.Kept)
    (hintegral : (Json.object mark.attrs).Integral) : mark.toJson.Writable := by
  rw [toJson_eq, writable_object]
  rintro ⟨key, value⟩ hfield
  rcases mem_fields (mem_present.1 hfield) with rfl | ⟨-, rfl⟩
  · exact writable_string _
  · exact hmark.attrs.writable hintegral

namespace Node

mutual

/-- A document whose attributes have integers for numbers can be written. -/
theorem writable_toJson : (node : Node) → node.Kept → node.Integral → node.toJson.Writable
  | ⟨kind, attrs, content, text, marks⟩, hkept, hintegral => by
    obtain ⟨hproper, hkept⟩ := kept_iff.1 hkept
    obtain ⟨⟨hattrs, hmarks⟩, hintegral⟩ := integral_iff.1 hintegral
    have hcontent := writable_toJsonAll content hkept hintegral
    rw [toJson_eq, writable_object]
    rintro ⟨key, value⟩ hfield
    rcases mem_fields (mem_present.1 hfield) with
      rfl | ⟨-, rfl⟩ | ⟨-, rfl⟩ | ⟨text, rfl⟩ | ⟨-, rfl⟩
    · exact writable_string _
    · exact hproper.attrs.writable hattrs
    · exact writable_array.2 hcontent
    · exact writable_string text
    · refine writable_array.2 fun item hitem => ?_
      obtain ⟨mark, hmark, rfl⟩ := List.mem_map.1 hitem
      exact Mark.writable_toJson (hproper.marks mark hmark) (hmarks mark hmark)

theorem writable_toJsonAll : (content : List Node) → (∀ child ∈ content, child.Kept) →
    (∀ child ∈ content, child.Integral) → ∀ item ∈ toJsonAll content, item.Writable
  | [], _, _ => by
    rw [toJsonAll]
    exact List.forall_mem_nil _
  | child :: rest, hkept, hintegral => by
    obtain ⟨hchild, hkept⟩ := List.forall_mem_cons.1 hkept
    obtain ⟨hint, hintegral⟩ := List.forall_mem_cons.1 hintegral
    rw [toJsonAll, List.forall_mem_cons]
    exact ⟨writable_toJson child hchild hint, writable_toJsonAll rest hkept hintegral⟩

end

/-! ### Documents that were read -/

/-- **Induction along the reading of a node**: a property of objects follows from that of the
items under `content`. -/
theorem induction_content {P : Json → Prop}
    (object : ∀ fields, (∀ item ∈ itemsIn fields "content", P item) → P (.object fields))
    (other : ∀ value, value.isObject = false → P value) (value : Json) : P value := by
  cases hobject : value.isObject with
  | false => exact other value hobject
  | true =>
    match value with
    | .object fields =>
      refine object fields fun item hitem => ?_
      have : item.depth < (Json.object fields).depth :=
        Nat.lt_succ_of_lt (depth_lt_of_mem_itemsIn hitem)
      exact induction_content object other item
termination_by value.depth

theorem mem_ofItems {items : List Json} {child : Node} (h : child ∈ ofItems items) :
    ∃ item ∈ items, item.isObject = true ∧ ofJson item = child := by
  induction items with
  | nil =>
    rw [ofItems] at h
    cases h
  | cons item items ih =>
    rw [ofItems] at h
    split at h
    case isTrue hobject =>
      rcases List.mem_cons.1 h with rfl | h
      · exact ⟨item, List.mem_cons_self, hobject, rfl⟩
      · obtain ⟨found, hfound, hread⟩ := ih h
        exact ⟨found, List.mem_cons_of_mem _ hfound, hread⟩
    case isFalse =>
      obtain ⟨found, hfound, hread⟩ := ih h
      exact ⟨found, List.mem_cons_of_mem _ hfound, hread⟩

end Node

theorem attrsIn_eq_nil_or (fields : Fields) :
    attrsIn fields = [] ∨ fields.get? "attrs" = some (.object (attrsIn fields)) := by
  rw [attrsIn]
  match fields.get? "attrs" with
  | some (.object attrs) => exact .inr rfl
  | some .null | some (.bool _) | some (.number _) | some (.string _) | some (.array _) | none =>
    exact .inl rfl

theorem kept_attrsIn {fields : Fields} (hfields : (Json.object fields).Kept) :
    (Json.object (attrsIn fields)).Kept := by
  rcases attrsIn_eq_nil_or fields with h | h
  · rw [h]
    exact kept_nil.2
  · exact hfields.get? h

theorem Mark.kept_ofJson? {value : Json} (hvalue : value.Kept) {mark : Mark}
    (h : Mark.ofJson? value = some mark) : mark.Kept := by
  match value, h with
  | .object fields, h =>
    cases h
    refine ⟨?_, kept_attrsIn hvalue⟩
    cases tagIn? fields with
    | none => rfl
    | some tag => exact MarkKind.ofTag_tag_ofTag tag

/-- How deep a mark nests after it was read. -/
theorem Mark.depth_toJson_le {value : Json} {mark : Mark} (h : Mark.ofJson? value = some mark) :
    mark.toJson.depth ≤ value.depth := by
  match value, h with
  | .object fields, h =>
    cases h
    rw [toJson_eq, Json.depth, Json.depth, Nat.add_le_add_iff_right, depthFields_le]
    rintro ⟨key, value⟩ hfield
    rcases mem_fields (mem_present.1 hfield) with rfl | ⟨hattrs, rfl⟩
    · exact Nat.zero_le _
    · exact depth_le_of_get? ((attrsIn_eq_nil_or fields).resolve_left hattrs)

namespace Node

/-- A value that is no object is read as a node with nothing in it. -/
theorem ofJson_of_not_isObject {value : Json} (h : value.isObject = false) :
    ofJson value = { kind := .unknown "" } := by
  cases value with
  | object fields => cases h
  | _ => simp only [ofJson]

theorem proper_ofFields {fields : Fields} (hfields : (Json.object fields).Kept)
    (content : List Node) : (ofFields fields content).Proper := by
  refine ⟨?_, kept_attrsIn hfields, fun mark hmark => ?_⟩
  · rw [ofFields]
    cases tagIn? fields with
    | none => rfl
    | some tag => exact NodeKind.ofTag_tag_ofTag tag
  · obtain ⟨item, hitem, hread⟩ := List.mem_filterMap.1 hmark
    exact Mark.kept_ofJson? (kept_of_mem_itemsIn hfields hitem) hread

/-- **A document that was read is kept.** -/
theorem kept_ofJson (value : Json) : value.Kept → (ofJson value).Kept := by
  induction value using induction_content with
  | object fields ih =>
    intro hfields
    rw [ofJson]
    refine kept_iff.2 ⟨proper_ofFields hfields _, fun child hchild => ?_⟩
    rw [ofFields, contentOf_eq] at hchild
    obtain ⟨item, hitem, -, rfl⟩ := mem_ofItems hchild
    exact ih item hitem (kept_of_mem_itemsIn hfields hitem)
  | other value hother =>
    intro _
    rw [ofJson_of_not_isObject hother]
    exact kept_iff.2 ⟨⟨rfl, kept_nil.2, List.forall_mem_nil _⟩, List.forall_mem_nil _⟩

/-- **How deep a document nests after it was read** from an object: no deeper than the object. -/
theorem depth_toJson_le (value : Json) :
    value.isObject = true → (ofJson value).toJson.depth ≤ value.depth := by
  induction value using induction_content with
  | object fields ih =>
    intro _
    rw [ofJson, toJson_eq, Json.depth, Json.depth, Nat.add_le_add_iff_right, depthFields_le]
    rintro ⟨key, value⟩ hfield
    rcases mem_fields (mem_present.1 hfield) with
      rfl | ⟨hattrs, rfl⟩ | ⟨hcontent, rfl⟩ | ⟨text, rfl⟩ | ⟨hmarks, rfl⟩
    · exact Nat.zero_le _
    · exact depth_le_of_get? ((attrsIn_eq_nil_or fields).resolve_left hattrs)
    · rw [toJsonAll_eq_map, depth_array_le (mt List.map_eq_nil_iff.1 hcontent)]
      intro item hitem
      obtain ⟨child, hchild, rfl⟩ := List.mem_map.1 hitem
      rw [ofFields, contentOf_eq] at hchild
      obtain ⟨source, hsource, hobject, rfl⟩ := mem_ofItems hchild
      exact Nat.lt_of_le_of_lt (ih source hsource hobject) (depth_lt_of_mem_itemsIn hsource)
    · exact Nat.zero_le _
    · rw [depth_array_le (mt List.map_eq_nil_iff.1 hmarks)]
      intro item hitem
      obtain ⟨mark, hmark, rfl⟩ := List.mem_map.1 hitem
      obtain ⟨source, hsource, hread⟩ := List.mem_filterMap.1 hmark
      exact Nat.lt_of_le_of_lt (Mark.depth_toJson_le hread) (depth_lt_of_mem_itemsIn hsource)
  | other value hother => exact fun h => absurd (hother.symm.trans h) (by decide)

end Node

end Document

end Folio
