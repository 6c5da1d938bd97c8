import Folio.Proofs.DocumentJson
import Folio.Proofs.ImageAttributes
import Folio.Proofs.Occurrence
import Folio.Render.Rendered

/-!
# Documents that are stored and read again

A text is read as a document if it is JSON and no more brackets are open in it at once than a
document may have. The text of a document nests as deep as its value, so a document whose text keeps
to this limit is read back from it; white space around the text does not count, since the text
itself starts and ends with a brace. A document that was read from a text nests no deeper than the
text, so it can be stored and read again without end. There is one exception: a text without any
bracket, such as `null`, is read as an empty node, and the text of this node has one.

## Main results

* `Folio.Document.Node.read_eq_ok`: what is read from a text.
* `Folio.Document.Node.read_jsonText`: a document is read back from its text.
* `Folio.ofText_jsonText`: the text of a document is taken for one, with any white space around it.
* `Folio.Document.Node.nesting_le_of_read`: how deep a document nests that was read from a text.
* `Folio.stored_and_read`: both directions together.
-/

namespace Folio

/-! ### White space around a text -/

namespace Text

theorem dropWhile_blank {before cs : List Char} (hbefore : ∀ c ∈ before, isBlank c = true)
    (hcs : ∀ c ∈ cs.head?, isBlank c = false) : (before ++ cs).dropWhile isBlank = cs := by
  rw [List.dropWhile_append_of_pos hbefore]
  cases cs with
  | nil => rfl
  | cons c cs => rw [List.dropWhile_cons_of_neg (by rw [hcs c rfl]; decide)]

/-- White space around a text that neither starts nor ends with white space is cut away. -/
theorem trim_append {before inner after : String} {first last : Char} {middle : List Char}
    (hbefore : ∀ c ∈ before.toList, isBlank c = true)
    (hafter : ∀ c ∈ after.toList, isBlank c = true)
    (hinner : inner.toList = first :: (middle ++ [last])) (hfirst : isBlank first = false)
    (hlast : isBlank last = false) : trim (before ++ inner ++ after) = inner := by
  have hstart : ((before ++ inner ++ after).toList).dropWhile isBlank =
      inner.toList ++ after.toList := by
    rw [String.toList_append, String.toList_append, List.append_assoc]
    refine dropWhile_blank hbefore fun c hc => ?_
    rw [hinner] at hc
    cases hc
    exact hfirst
  have hreverse : (inner.toList ++ after.toList).reverse =
      after.toList.reverse ++ inner.toList.reverse := List.reverse_append
  rw [trim, hstart, dropEnd, hreverse, dropWhile_blank, List.reverse_reverse, String.ofList_toList]
  · exact fun c hc => hafter c (List.mem_reverse.1 hc)
  · intro c hc
    rw [hinner, ← List.cons_append, List.reverse_append] at hc
    cases hc
    exact hlast

theorem occursIn_cons_of_occursIn {word cs : List Char} (c : Char) (h : occursIn word cs = true) :
    occursIn word (c :: cs) = true := by
  rw [← Bool.not_eq_false] at h ⊢
  exact fun hnot => h (occursIn_cons.1 hnot).2

end Text

namespace Document

open Json

namespace Node

/-! ### Reading -/

variable {root : Node} {text : String}

/-- **What is read from a text**: the document of its value, when the text is JSON and keeps to the
limit of brackets. -/
theorem read_eq_ok :
    Node.read text = .ok root ↔
      ∃ value, Json.read maxBracketDepth text = .ok value ∧ ofJson value = root := by
  rw [Node.read]
  constructor
  · intro h
    split at h
    · cases h
    · split at h
      case h_1 value hvalue =>
        cases h
        exact ⟨value, hvalue, rfl⟩
      all_goals cases h
  · rintro ⟨value, hvalue, rfl⟩
    have hnesting : ¬ nestsBeyond maxBracketDepth text = true := by
      rw [nestsBeyond_iff, Nat.not_lt]
      exact nesting_le_of_read hvalue
    rw [if_neg hnesting, hvalue]

theorem nesting_jsonText (root : Node) : nesting root.jsonText = root.toJson.depth :=
  nesting_text root.toJson

/-- **A document is read back from its text.** -/
theorem read_jsonText (hkept : root.Kept) (hintegral : root.Integral)
    (hnesting : nesting root.jsonText ≤ maxBracketDepth) : Node.read root.jsonText = .ok root := by
  rw [nesting_jsonText] at hnesting
  exact read_eq_ok.2 ⟨root.toJson.keep, read_text (writable_toJson root hkept hintegral) hnesting,
    ofJson_keep root hkept⟩

theorem kept_of_read (h : Node.read text = .ok root) : root.Kept := by
  obtain ⟨value, hvalue, rfl⟩ := read_eq_ok.1 h
  exact kept_ofJson value (Json.kept_of_read hvalue)

/-- **How deep a document nests that was read from a text**: no deeper than the text, unless there
are no brackets in the text, which is read as an empty node then. -/
theorem nesting_le_of_read (h : Node.read text = .ok root) :
    nesting root.jsonText ≤ nesting text ∨
      (nesting text = 0 ∧ root = { kind := .unknown "" }) := by
  obtain ⟨value, hvalue, rfl⟩ := read_eq_ok.1 h
  have hdepth := depth_of_read hvalue
  rw [nesting_jsonText]
  cases hobject : value.isObject with
  | true => exact .inl (Nat.le_trans (depth_toJson_le value hobject) hdepth)
  | false =>
    rw [ofJson_of_not_isObject hobject]
    rcases Nat.eq_zero_or_pos (nesting text) with hzero | hpos
    · exact .inr ⟨hzero, rfl⟩
    · exact .inl hpos

/-! ### Telling the text of a document from other content -/

theorem textFields_cons (field : String × Json) (rest : List (String × Json)) :
    ∃ tail, textFields (field :: rest) = textField field ++ tail := by
  cases rest with
  | nil => exact ⟨"", by rw [textFields, String.append_empty]⟩
  | cons next others =>
    exact ⟨"," ++ textFields (next :: others), by rw [textFields, String.append_assoc]⟩

/-- The text of a node starts with the key of its type. -/
theorem toList_jsonText (root : Node) :
    ∃ middle, root.jsonText.toList = '\x7b' :: ("\"type\"".toList ++ middle ++ ['\x7d']) := by
  obtain ⟨tail, htail⟩ := textFields_cons ("type", .string root.kind.tag)
    (present root.fields.tail)
  have htext : root.jsonText = "\x7b" ++ (quote "type" ++ ":" ++ quote root.kind.tag ++ tail) ++
      "\x7d" := by
    rw [jsonText, toJson_eq, Json.text]
    show "\x7b" ++ textFields (("type", .string root.kind.tag) :: present root.fields.tail) ++
      "\x7d" = _
    rw [htail, textField, Json.text]
  have hkey : (quote "type").toList = "\"type\"".toList := by decide
  refine ⟨(":" ++ quote root.kind.tag ++ tail).toList, ?_⟩
  rw [htext]
  simp only [String.toList_append, hkey, List.append_assoc]
  rfl

end Node

end Document

open Document

/-- **The text of a document is taken for one**, with any white space around it. -/
theorem ofText_jsonText {root : Node} {before after : String}
    (hread : Node.read root.jsonText = .ok root)
    (hbefore : ∀ c ∈ before.toList, Text.isBlank c = true)
    (hafter : ∀ c ∈ after.toList, Text.isBlank c = true) :
    Content.ofText (before ++ root.jsonText ++ after) = .structured root := by
  obtain ⟨middle, hmiddle⟩ := Node.toList_jsonText root
  have htrim := Text.trim_append hbefore hafter hmiddle (by decide) (by decide)
  have hlooks : looksStructured (before ++ root.jsonText ++ after) = true := by
    have htype := Text.occursIn_cons_of_occursIn '\x7b'
      (Text.occursIn_of_prefix (List.prefix_append "\"type\"".toList (middle ++ ['\x7d'])))
    rw [looksStructured, htrim, hmiddle, List.append_assoc]
    exact Bool.and_eq_true_iff.2 ⟨rfl, htype⟩
  rw [Content.ofText, if_pos hlooks, htrim, hread]

/-- **A document is stored as text and read again.** From its text, and from this text with white
space around it, it is read back and rendered as the tree itself is. And a document that was read
from a text is one that this holds of: its kinds and attributes are as they are kept, and its text
nests no deeper than the text that it was read from, which is `null` or another text without
brackets otherwise, and the document empty. -/
theorem stored_and_read :
    (∀ root : Node, root.Kept → root.Integral → Json.nesting root.jsonText ≤ maxBracketDepth →
      Node.read root.jsonText = .ok root ∧
      ∀ (renderer : Renderer) (before after : String),
        (∀ c ∈ before.toList, Text.isBlank c = true) →
        (∀ c ∈ after.toList, Text.isBlank c = true) →
          renderer.render (before ++ root.jsonText ++ after) = renderer.renderNode root) ∧
    ∀ (text : String) (root : Node), Node.read text = .ok root →
      root.Kept ∧
      (Json.nesting root.jsonText ≤ Json.nesting text ∨
        (Json.nesting text = 0 ∧ root = { kind := .unknown "" })) ∧
      (root.Integral → Node.read root.jsonText = .ok root) := by
  constructor
  · intro root hkept hintegral hnesting
    have hread := Node.read_jsonText hkept hintegral hnesting
    refine ⟨hread, fun renderer before after hbefore hafter => ?_⟩
    rw [Renderer.render, ofText_jsonText hread hbefore hafter]
    rfl
  · intro text root hread
    have hkept := Node.kept_of_read hread
    have hnesting := Node.nesting_le_of_read hread
    refine ⟨hkept, hnesting, fun hintegral => Node.read_jsonText hkept hintegral ?_⟩
    rcases hnesting with hle | ⟨-, rfl⟩
    · obtain ⟨value, hvalue, -⟩ := Node.read_eq_ok.1 hread
      exact Nat.le_trans hle (Json.nesting_le_of_read hvalue)
    · decide

/-- A link is stored and read again, and so is a line break that was read with a child too many. -/
theorem stored_and_read_link :
    let link := Node.branch .paragraph [Node.leaf "a" [Mark.linkTo "b"]]
    let childless : Json := .object [("content", .array [.null]), ("type", .string "hardBreak")]
    let lineBreak : Node := { kind := .hardBreak }
    (Node.read link.jsonText = .ok link ∧
      Renderer.render {} (" " ++ link.jsonText ++ "\n") = Renderer.renderNode {} link) ∧
    Node.read childless.text = .ok lineBreak ∧ lineBreak.Kept ∧
      Node.read lineBreak.jsonText = .ok lineBreak := by
  intro link childless lineBreak
  have hnesting : Json.nesting link.jsonText ≤ maxBracketDepth := by
    rw [Node.nesting_jsonText]
    decide
  have hstored := stored_and_read.1 link (by decide) (by decide) hnesting
  have hvalue : Json.read maxBracketDepth childless.text = .ok childless := by
    rw [Json.read_text (Json.Kept.writable (by decide) (by decide)) (by decide),
      Json.keep_of_kept childless (by decide)]
  have hread : Node.read childless.text = .ok lineBreak :=
    Node.read_eq_ok.2 ⟨childless, hvalue, rfl⟩
  have hbreak := stored_and_read.2 childless.text lineBreak hread
  have hrendered := hstored.2 {} " " "\n" (by simp [Text.isBlank]) (by simp [Text.isBlank])
  exact ⟨⟨hstored.1, hrendered⟩, hread, hbreak.1, hbreak.2.2 (by decide)⟩

/-- The text `null` has no bracket, and the text of the node that is read from it has one. -/
theorem nesting_of_null :
    Node.read "null" = .ok { kind := .unknown "" } ∧ Json.nesting "null" = 0 ∧
      Json.nesting (Node.jsonText { kind := .unknown "" }) = 1 := by
  have hvalue : Json.read maxBracketDepth (Json.text .null) = .ok (Json.keep .null) :=
    Json.read_text (Json.writable_scalar (Json.parts.eq_def .null) trivial) (Nat.zero_le _)
  exact ⟨Node.read_eq_ok.2 ⟨.null, hvalue, rfl⟩, by decide, by decide⟩

end Folio
