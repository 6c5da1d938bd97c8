import Folio.Proofs.DepthBound
import Mathlib.Data.List.Flatten

/-!
# Plain text and text leaves

The plain text of a node is collected by a walk with a stack of the nodes still to visit. It takes
the text of every node that it meets, and goes below all of them but text leaves. A text is meant
for text leaves only, but a node of any kind can hold one, and the compiler does not show it there.
So the plain text is the text of the text leaves exactly when no other node on the way holds a text.

## Main definitions

* `Folio.Document.Node.met`, `Folio.Document.Node.textLeaves`: the nodes that a walk meets, and the
  text leaves among them, in document order.
* `Folio.Document.Node.walkText`: the walk.

## Main results

* `Folio.Document.Node.walkText_eq`: the walk takes the plain texts of the nodes on the stack.
* `Folio.Document.Node.plainText_by_leaves`: what the plain text of a node consists of, and when it
  is that of its text leaves.
-/

namespace Folio.Document.Node

/-! ### Nodes that are met -/

mutual

/-- A node and the nodes below it, in document order. Nothing below a text leaf counts. -/
def met : Node → List Node
  | ⟨kind, attrs, content, text, marks⟩ =>
    ⟨kind, attrs, content, text, marks⟩ :: if kind = .text then [] else metAll content

/-- The nodes that several nodes lead to, one after the other. -/
def metAll : List Node → List Node
  | [] => []
  | node :: rest => node.met ++ metAll rest

end

/-- The text leaves of a node, in document order. -/
def textLeaves (node : Node) : List Node := node.met.filter (·.kind = .text)

/-- The text that a node holds itself. -/
def ownText (node : Node) : String := node.text.getD ""

/-- The texts that nodes hold themselves, one after the other. -/
def ownTexts (nodes : List Node) : String := String.join (nodes.map ownText)

theorem countAll_append (nodes others : List Node) :
    countAll (nodes ++ others) = countAll nodes + countAll others := by
  induction nodes with
  | nil => exact (Nat.zero_add _).symm
  | cons node rest ih => rw [List.cons_append, countAll, countAll, ih, Nat.add_assoc]

/-- The walk for the plain text: the nodes still to visit, and the text found so far. The children
of a node come before the nodes after it. -/
def walkText (stack : List Node) (found : String) : String :=
  match stack with
  | [] => found
  | node :: rest =>
    if node.kind = .text then walkText rest (found ++ node.ownText)
    else walkText (node.content ++ rest) (found ++ node.ownText)
termination_by countAll stack
decreasing_by
  · simp [countAll, node.count_eq]
  · simp [countAll, node.count_eq, countAll_append]

/-! ### The walk -/

theorem plainTextAll_append (nodes others : List Node) :
    plainTextAll (nodes ++ others) = plainTextAll nodes ++ plainTextAll others := by
  induction nodes with
  | nil => exact String.empty_append.symm
  | cons node rest ih => rw [List.cons_append, plainTextAll, plainTextAll, ih, String.append_assoc]

/-- **The walk takes the plain texts** of the nodes that are still to visit. -/
theorem walkText_eq (stack : List Node) (found : String) :
    walkText stack found = found ++ plainTextAll stack := by
  fun_induction walkText stack found with
  | case1 found => exact String.append_empty.symm
  | case2 found node rest hkind ih =>
    rw [ih, plainTextAll, plainText_eq, if_pos hkind, ownText, String.append_empty,
      String.append_assoc]
  | case3 found node rest hkind ih =>
    rw [ih, plainTextAll, plainText_eq, if_neg hkind, ownText, plainTextAll_append,
      String.append_assoc, String.append_assoc]

/-! ### Texts of the nodes that are met -/

mutual

/-- The plain text of a node is what the nodes hold that a walk meets. -/
theorem plainText_eq_ownTexts : (node : Node) → node.plainText = ownTexts node.met
  | ⟨kind, attrs, content, text, marks⟩ => by
    rw [plainText_eq, met, ownTexts, List.map_cons, String.join_cons, ownText]
    split
    · rfl
    · exact congrArg _ (plainTextAll_eq_ownTexts content)

theorem plainTextAll_eq_ownTexts : (nodes : List Node) →
    plainTextAll nodes = ownTexts (metAll nodes)
  | [] => rfl
  | node :: rest => by
    rw [plainTextAll, metAll, ownTexts, List.map_append, String.join_append,
      plainText_eq_ownTexts node, plainTextAll_eq_ownTexts rest, ownTexts, ownTexts]

end

/-- Some of a list of pieces make up the whole exactly when all others are empty. -/
theorem flatMap_filter_eq_iff {α β : Type} {p : α → Bool} {piece : α → List β} {xs : List α} :
    xs.flatMap piece = (xs.filter p).flatMap piece ↔
      ∀ x ∈ xs, p x = false → piece x = [] := by
  induction xs with
  | nil => simp
  | cons x xs ih =>
    rw [List.forall_mem_cons, ← ih, List.flatMap_cons]
    cases hx : p x with
    | true =>
      rw [List.filter_cons_of_pos hx, List.flatMap_cons, List.append_cancel_left_eq]
      simp
    | false =>
      rw [List.filter_cons_of_neg (by simp [hx])]
      have hless : ((xs.filter p).flatMap piece).length ≤ (xs.flatMap piece).length :=
        (List.filter_sublist.flatMap piece).length_le
      constructor
      · intro h
        -- The others are no longer than the whole, so that this piece takes no room.
        have hlength := congrArg List.length h
        rw [List.length_append] at hlength
        have hempty : piece x = [] := List.length_eq_zero_iff.1 (by omega)
        rw [hempty, List.nil_append] at h
        exact ⟨fun _ => hempty, h⟩
      · rintro ⟨hempty, h⟩
        rw [hempty rfl, List.nil_append, h]

/-- **Plain text and text leaves.** The plain text of a node is what a walk with a stack collects:
the texts of the nodes that it meets, text leaves or not. It is the text of the text leaves exactly
when no other node that is met holds a text. -/
theorem plainText_by_leaves (node : Node) :
    walkText [node] "" = node.plainText ∧
      node.plainText = ownTexts node.met ∧
      (node.plainText = ownTexts node.textLeaves ↔
        ∀ found ∈ node.met, found.kind ≠ .text → found.ownText = "") := by
  refine ⟨?_, node.plainText_eq_ownTexts, ?_⟩
  · rw [walkText_eq, plainTextAll, plainTextAll, String.empty_append, String.append_empty]
  · have htexts (nodes : List Node) :
        (ownTexts nodes).toList = nodes.flatMap fun found => found.ownText.toList := by
      rw [ownTexts, String.toList_join, List.flatMap_map]
    rw [plainText_eq_ownTexts, ← String.toList_inj, htexts, htexts, textLeaves,
      flatMap_filter_eq_iff]
    simp only [decide_eq_false_iff_not, String.toList_eq_nil_iff, ne_eq]

/-- A heading that holds a text beside its text leaf: the text of the leaf alone is shown, and the
identifier and the outline have both. -/
theorem hidden_text_of_heading :
    let node : Node := { branch .heading [leaf "Notes"] with text := some "Draft " }
    node.plainText = "Draft Notes" ∧ ownTexts node.textLeaves = "Notes" ∧
      node.plainText ≠ ownTexts node.textLeaves ∧
      compile {} node {} = ("<h1 id=\"draft-notes\">Notes</h1>\n",
        ⟨⟨["Draft Notes"]⟩, [⟨"draft-notes", "Draft Notes", 1⟩]⟩) := by
  decide +kernel

end Folio.Document.Node
