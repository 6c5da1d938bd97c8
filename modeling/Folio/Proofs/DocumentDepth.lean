import Folio.Proofs.DocumentRoundTrip

/-!
# How deep a document may be

The limit on the depth of a document counts nodes, but what is checked is how many brackets are open
at once in its text. A node has two, its own and that of its children; the brackets of attributes
and marks stand in the same text and count as well. So a text that is JSON is read exactly when its
brackets keep to the limit, and this follows from a limit on nodes only where attributes and marks
have few brackets: two fit into any node that may have children. A single node with deeply nested
attributes is not read.

## Main definitions

* `Folio.Document.Node.height`: how many nodes stand below each other.

## Main results

* `Folio.Document.Node.read_of_json`: which texts are read as documents.
* `Folio.Document.Node.depth_le_of_height`: how many brackets the nodes of a document need.
* `Folio.read_or_tooDeep`: which texts and which trees are not too deep.
-/

namespace Folio

namespace Document.Node

open Json

/-! ### Texts that are read -/

/-- **Which texts are read as documents**: of those that are JSON, the ones whose brackets keep to
the limit. -/
theorem read_of_json {room : Nat} {text : String} {value : Json}
    (h : Json.read room text = .ok value) :
    Node.read text =
      if nesting text ≤ maxBracketDepth then .ok (ofJson value) else .error .tooDeep := by
  split
  case isTrue hnesting =>
    rw [read_eq_of_nesting_le (Json.nesting_le_of_read h) hnesting] at h
    exact read_eq_ok.2 ⟨value, h, rfl⟩
  case isFalse hnesting =>
    rw [Node.read, if_pos (nestsBeyond_iff.2 (Nat.lt_of_not_le hnesting))]

/-! ### Nodes below each other -/

mutual

/-- How many nodes stand below each other, the node itself included. -/
def height : Node → Nat
  | ⟨_, _, content, _, _⟩ => heightAll content + 1

/-- How many nodes stand below each other in the largest of several nodes. -/
def heightAll : List Node → Nat
  | [] => 0
  | node :: rest => max (height node) (heightAll rest)

end

/-- A document whose nodes have attributes and marks of at most `own` brackets each. -/
def Shallow (own : Nat) (root : Node) : Prop :=
  ∀ node ∈ root.nodes, (Json.object node.attrs).depth ≤ own ∧
    ∀ mark ∈ node.marks, mark.toJson.depth < own

instance (own : Nat) : DecidablePred (Shallow own) := fun root =>
  inferInstanceAs (Decidable (∀ node ∈ root.nodes, _ ∧ ∀ mark ∈ node.marks, _))

theorem shallow_iff {own : Nat} {node : Node} :
    Shallow own node ↔ ((Json.object node.attrs).depth ≤ own ∧
      ∀ mark ∈ node.marks, mark.toJson.depth < own) ∧
      ∀ child ∈ node.content, Shallow own child := by
  rw [Shallow, nodes_eq, List.forall_mem_cons, forall_nodesAll]
  exact Iff.rfl

mutual

/-- **How many brackets the nodes of a document need**: two for each node on the way to the
innermost one, and one for this node itself, besides those of its attributes and marks. -/
theorem depth_le_of_height {own : Nat} : (root : Node) → Shallow own root →
    root.toJson.depth + 1 ≤ 2 * root.height + own
  | ⟨kind, attrs, content, text, marks⟩, hroot => by
    obtain ⟨⟨hattrs, hmarks⟩, hcontent⟩ := shallow_iff.1 hroot
    have hbelow := depth_le_of_heightAll content hcontent
    have hfields : depthFields (present (fields ⟨kind, attrs, content, text, marks⟩)) ≤
        2 * heightAll content + own := by
      refine depthFields_le.2 ?_
      rintro ⟨key, value⟩ hfield
      rcases mem_fields (mem_present.1 hfield) with
        rfl | ⟨-, rfl⟩ | ⟨hne, rfl⟩ | ⟨text, rfl⟩ | ⟨hne, rfl⟩
      · exact Nat.zero_le _
      · exact Nat.le_trans hattrs (Nat.le_add_left _ _)
      · rw [toJsonAll_eq_map] at hbelow ⊢
        exact (depth_array_le (mt List.map_eq_nil_iff.1 hne)).2 hbelow
      · exact Nat.zero_le _
      · refine (depth_array_le (mt List.map_eq_nil_iff.1 hne)).2 fun item hitem => ?_
        obtain ⟨mark, hmark, rfl⟩ := List.mem_map.1 hitem
        exact Nat.lt_of_lt_of_le (hmarks mark hmark) (Nat.le_add_left _ _)
    rw [toJson_eq, Json.depth, height]
    omega

theorem depth_le_of_heightAll {own : Nat} : (content : List Node) →
    (∀ child ∈ content, Shallow own child) →
      ∀ item ∈ toJsonAll content, item.depth < 2 * heightAll content + own
  | [], _ => by
    rw [toJsonAll]
    exact List.forall_mem_nil _
  | child :: rest, hcontent => by
    obtain ⟨hchild, hrest⟩ := List.forall_mem_cons.1 hcontent
    have hfirst := depth_le_of_height child hchild
    have hothers := depth_le_of_heightAll rest hrest
    rw [toJsonAll, heightAll, List.forall_mem_cons]
    refine ⟨by omega, fun item hitem => ?_⟩
    have := hothers item hitem
    omega

end

end Document.Node

open Document

/-- **A text that is JSON is read unless its brackets nest too deep**, in which case content is
rendered as Markdown however few nodes it has. The text of a document keeps to the limit when the
nodes on the way to any of its nodes need two brackets each and the attributes and marks of this
node no more than are left: two at the limit of nodes. -/
theorem read_or_tooDeep (text : String) :
    (∀ (room : Nat) (value : Json), Json.read room text = .ok value →
      Node.read text = if Json.nesting text ≤ maxBracketDepth then .ok (Node.ofJson value)
        else .error .tooDeep) ∧
    (∀ (room : Nat) (value : Json), Json.read room (Text.trim text) = .ok value →
      Content.ofText text =
        if looksStructured text = true ∧ Json.nesting (Text.trim text) ≤ maxBracketDepth then
          .structured (Node.ofJson value) else .markdown text) ∧
    ∀ (own : Nat) (root : Node), root.jsonText = text → root.Kept → root.Integral →
      root.Shallow own → 2 * root.height + own ≤ 2 * maxNodeDepth + 2 →
        Node.read text = .ok root := by
  refine ⟨fun _ _ => Node.read_of_json, fun room value hvalue => ?_, ?_⟩
  · rw [Content.ofText, Node.read_of_json hvalue]
    by_cases hlooks : looksStructured text = true
    · by_cases hnesting : Json.nesting (Text.trim text) ≤ maxBracketDepth
      · rw [if_pos hlooks, if_pos hnesting, if_pos ⟨hlooks, hnesting⟩]
      · rw [if_pos hlooks, if_neg hnesting, if_neg fun h => hnesting h.2]
    · rw [if_neg hlooks, if_neg fun h => hlooks h.1]
  · rintro own root rfl hkept hintegral hshallow hheight
    have hdepth := Node.depth_le_of_height root hshallow
    refine Node.read_jsonText hkept hintegral ?_
    rw [Node.nesting_jsonText, maxBracketDepth]
    omega

/-- A paragraph with a link, of which the address has four brackets of its own, and the text of a
line break. -/
theorem read_or_tooDeep_link :
    let root := Node.branch .paragraph [Node.leaf "a" [Mark.linkTo "b"]]
    let value : Json := .object [("type", .string "hardBreak")]
    Node.read root.jsonText = .ok root ∧ Node.read value.text = .ok { kind := .hardBreak } ∧
      Content.ofText value.text = .structured { kind := .hardBreak } := by
  intro root value
  have hvalue : Json.read 1 value.text = .ok value := by
    rw [Json.read_text (Json.Kept.writable (by decide) (by decide)) (by decide),
      Json.keep_of_kept value (by decide)]
  have hnesting : Json.nesting value.text ≤ maxBracketDepth := by
    rw [Json.nesting_text]
    decide
  have htrim : Text.trim value.text = value.text := by decide
  have hlooks : looksStructured value.text = true := by decide
  refine ⟨(read_or_tooDeep _).2.2 4 _ rfl (by decide) (by decide) (by decide) (by decide), ?_, ?_⟩
  · rw [(read_or_tooDeep _).1 1 value hvalue, if_pos hnesting]
    rfl
  · rw [(read_or_tooDeep _).2.1 1 value (htrim.symm ▸ hvalue), htrim, if_pos ⟨hlooks, hnesting⟩]
    rfl

/-- Empty arrays inside each other. -/
def nestedArray : Nat → Json
  | 0 => .array []
  | n + 1 => .array [nestedArray n]

theorem depth_nestedArray (n : Nat) : (nestedArray n).depth = n + 1 := by
  induction n with
  | zero => rfl
  | succ n ih =>
    rw [nestedArray, Json.depth, Json.depthItems, ih, Json.depthItems, Nat.max_zero]

theorem kept_nestedArray (n : Nat) : (nestedArray n).Kept := by
  induction n with
  | zero => decide
  | succ n ih => exact Json.kept_array.2 (List.forall_mem_singleton.2 ih)

theorem writable_nestedArray (n : Nat) : (nestedArray n).Writable := by
  induction n with
  | zero => exact Json.writable_array.2 (List.forall_mem_nil _)
  | succ n ih => exact Json.writable_array.2 (List.forall_mem_singleton.2 ih)

/-- **A single node whose attributes nest too deep is not read**, although its text is JSON. -/
theorem tooDeep_of_attributes :
    let value : Json :=
      .object [("attrs", .object [("a", nestedArray 271)]), ("type", .string "doc")]
    Json.read 274 value.text = .ok value ∧ (Node.ofJson value).height = 1 ∧
      Node.read value.text = .error .tooDeep := by
  intro value
  have hattrs : (Json.object [("a", nestedArray 271)]).Kept :=
    Json.kept_object.2 ⟨List.pairwise_singleton _ _,
      List.forall_mem_singleton.2 (kept_nestedArray 271)⟩
  have hkeys : ["attrs", "type"].Pairwise (· < ·) := by decide
  have hkept : value.Kept := Json.kept_object.2 ⟨hkeys, List.forall_mem_cons.2
    ⟨hattrs, List.forall_mem_singleton.2 (by decide)⟩⟩
  have hwritable : value.Writable := Json.writable_object.2 (List.forall_mem_cons.2
    ⟨Json.writable_object.2 (List.forall_mem_singleton.2 (writable_nestedArray 271)),
      List.forall_mem_singleton.2 (Json.writable_string "doc")⟩)
  have hdepth : value.depth = 274 := by
    simp only [value, Json.depth, Json.depthFields, Json.depthField, depth_nestedArray]
    rfl
  have hread : Json.read 274 value.text = .ok value := by
    rw [Json.read_text hwritable (Nat.le_of_eq hdepth), Json.keep_of_kept value hkept]
  refine ⟨hread, rfl, ?_⟩
  rw [Node.read_of_json hread, Json.nesting_text, hdepth]
  rfl

end Folio
