import Folio.Json.Nesting
import Folio.Json.Writer

/-!
# How deep a written value nests

The nesting of a text is the largest number of brackets that its scan counts at once. A piece of
text that closes all that it opens can stand anywhere outside string literals: the scan leaves it
as it came, after a rise of a certain height above the brackets that were open before. Such pieces
follow each other at the larger of two heights, and a pair of brackets around a piece adds one. The
text of a value is built in this way, so it nests exactly as deep as the value.

## Main definitions

* `Folio.Json.nesting`: the most brackets that are open at once in a text.
* `Folio.Json.depth`: the most arrays and objects of a value that stand inside each other.
* `Folio.Json.Passes`: a piece of text without brackets, from one place of the scan to another.
* `Folio.Json.Rises`: a piece of text that closes what it opens, with its height.

## Main results

* `Folio.Json.nestsBeyond_iff`: a text nests beyond the limits below its nesting.
* `Folio.Json.nesting_text`: the text of a value nests as deep as the value.
-/

namespace Folio.Json

/-! ### The nesting of a text -/

/-- The most brackets that are open at once, from a state of the scan on. -/
def Scan.peak (scan : Scan) : List Char → Nat
  | [] => scan.depth
  | c :: cs => max scan.depth ((scan.next c).peak cs)

/-- The most brackets that are open at once in a text. -/
def nesting (text : String) : Nat := Scan.peak {} text.toList

theorem Scan.depth_le_peak (scan : Scan) (cs : List Char) : scan.depth ≤ scan.peak cs := by
  cases cs with
  | nil => exact Nat.le_refl _
  | cons c cs => exact Nat.le_max_left _ _

theorem Scan.exceeds_iff {limit : Nat} {scan : Scan} (hdepth : scan.depth ≤ limit)
    (cs : List Char) : Scan.exceeds limit scan cs = true ↔ limit < scan.peak cs := by
  induction cs generalizing scan with
  | nil => simp only [exceeds, Bool.false_eq_true, peak, false_iff, Nat.not_lt, hdepth]
  | cons c cs ih =>
    rw [exceeds, peak, Bool.or_eq_true, decide_eq_true_iff, gt_iff_lt]
    by_cases hnext : (scan.next c).depth ≤ limit
    · rw [ih hnext]
      omega
    · have hpeak := (scan.next c).depth_le_peak cs
      omega

/-- A text nests beyond the limits that are smaller than its nesting. -/
theorem nestsBeyond_iff {limit : Nat} {text : String} :
    nestsBeyond limit text = true ↔ limit < nesting text :=
  Scan.exceeds_iff (Nat.zero_le limit) text.toList

/-! ### Text without brackets -/

/-- The text leads the scan from one place to another without a change to what is open. -/
def Passes (start stop : Place) (cs : List Char) : Prop :=
  ∀ depth rest, Scan.peak ⟨depth, start⟩ (cs ++ rest) = Scan.peak ⟨depth, stop⟩ rest

/-- A character that neither starts a string literal nor is a bracket. -/
def Plain (c : Char) : Prop := c ∉ ['"', '\x7b', '[', '\x7d', ']']

instance (c : Char) : Decidable (Plain c) :=
  inferInstanceAs (Decidable (c ∉ ['"', '\x7b', '[', '\x7d', ']']))

/-- A character that stands for itself in a string literal. -/
def Literal (c : Char) : Prop := c ∉ ['"', '\\']

instance (c : Char) : Decidable (Literal c) :=
  inferInstanceAs (Decidable (c ∉ ['"', '\\']))

namespace Passes

variable {start middle stop : Place} {cs ds : List Char}

theorem nil (place : Place) : Passes place place [] := fun _ _ => rfl

theorem append (hcs : Passes start middle cs) (hds : Passes middle stop ds) :
    Passes start stop (cs ++ ds) := by
  intro depth rest
  rw [List.append_assoc, hcs, hds]

theorem char {c : Char} (hc : ∀ depth, Scan.next ⟨depth, start⟩ c = ⟨depth, stop⟩) :
    Passes start stop [c] := by
  intro depth rest
  rw [List.singleton_append, Scan.peak, hc]
  exact Nat.max_eq_right (Scan.depth_le_peak ⟨depth, stop⟩ rest)

theorem cons {c : Char} (hc : ∀ depth, Scan.next ⟨depth, start⟩ c = ⟨depth, middle⟩)
    (hcs : Passes middle stop cs) : Passes start stop (c :: cs) :=
  (char hc).append hcs

/-- A text passes when each of its characters does. -/
theorem of_chars (hcs : ∀ c ∈ cs, Passes start start [c]) : Passes start start cs := by
  induction cs with
  | nil => exact nil start
  | cons c cs ih =>
    obtain ⟨hc, hcs⟩ := List.forall_mem_cons.1 hcs
    exact hc.append (ih hcs)

theorem plain (hcs : ∀ c ∈ cs, Plain c) : Passes .outside .outside cs := by
  refine of_chars fun c hmem => char fun depth => ?_
  have hc := hcs c hmem
  simp only [Plain, List.mem_cons, List.not_mem_nil, or_false, not_or] at hc
  simp [Scan.next, hc]

theorem literal (hcs : ∀ c ∈ cs, Literal c) : Passes .inString .inString cs := by
  refine of_chars fun c hmem => char fun depth => ?_
  have hc := hcs c hmem
  simp only [Literal, List.mem_cons, List.not_mem_nil, or_false, not_or] at hc
  simp [Scan.next, hc]

/-- A backslash in a string literal takes the next character with it. -/
theorem escape (c : Char) (hcs : Passes .inString stop cs) :
    Passes .inString stop ('\\' :: c :: cs) :=
  cons (fun _ => rfl) (cons (fun _ => rfl) hcs)

/-- A string literal, given what stands between its quotation marks. -/
theorem quoted (hcs : Passes .inString .inString cs) :
    Passes .outside .outside ('"' :: cs ++ ['"']) :=
  cons (fun _ => rfl) (hcs.append (char fun _ => rfl))

end Passes

theorem literal_hexDigit {n : Nat} (hn : n < 16) : Literal (hexDigit n) := by
  have hdigits : ∀ n < 16, Literal (hexDigit n) := by decide
  exact hdigits n hn

theorem passes_quoteChar (c : Char) : Passes .inString .inString (quoteChar c) := by
  unfold quoteChar
  split
  case h_8 hquote hbackslash _ _ _ _ _ =>
    split
    · have hhigh := literal_hexDigit (show c.toNat / 16 < 16 by omega)
      have hlow := literal_hexDigit (show c.toNat % 16 < 16 by omega)
      refine .escape 'u' (.literal ?_)
      simp only [List.forall_mem_cons, hhigh, hlow, List.not_mem_nil, false_implies, implies_true,
        and_true]
      decide
    · refine .literal (List.forall_mem_singleton.2 ?_)
      simp only [Literal, List.mem_cons, List.not_mem_nil, or_false, not_or]
      exact ⟨hquote, hbackslash⟩
  all_goals exact .escape _ (.nil _)

theorem toList_quote (s : String) :
    (quote s).toList = '"' :: s.toList.flatMap quoteChar ++ ['"'] := by
  simp [quote]

theorem passes_quote (s : String) : Passes .outside .outside (quote s).toList := by
  have hbody : Passes .inString .inString (s.toList.flatMap quoteChar) := by
    induction s.toList with
    | nil => exact .nil _
    | cons c cs ih => exact (passes_quoteChar c).append ih
  rw [toList_quote]
  exact hbody.quoted

/-! ### Text that closes what it opens -/

/-- The text opens at most `height` brackets at once and closes them all: what follows it is
scanned as if it were not there. -/
def Rises (height : Nat) (cs : List Char) : Prop :=
  ∀ depth rest, Scan.peak ⟨depth, .outside⟩ (cs ++ rest) =
    max (depth + height) (Scan.peak ⟨depth, .outside⟩ rest)

theorem Passes.rises {cs : List Char} (hcs : Passes .outside .outside cs) : Rises 0 cs := by
  intro depth rest
  rw [hcs]
  exact (Nat.max_eq_right (Scan.depth_le_peak ⟨depth, .outside⟩ rest)).symm

namespace Rises

variable {cs ds : List Char} {height other : Nat}

theorem append (hcs : Rises height cs) (hds : Rises other ds) :
    Rises (max height other) (cs ++ ds) := by
  intro depth rest
  rw [List.append_assoc, hcs, hds]
  omega

/-- A comma or a colon between two pieces adds nothing. -/
theorem separated (c : Char) (hc : Plain c) (hcs : Rises height cs) (hds : Rises other ds) :
    Rises (max height other) (cs ++ c :: ds) := by
  have hsep : Rises 0 [c] := (Passes.plain (List.forall_mem_singleton.2 hc)).rises
  have happend := hcs.append (hsep.append hds)
  rwa [Nat.zero_max] at happend

/-- A pair of brackets adds one to the height of what is between them. -/
theorem bracket (first last : Char) (hfirst : first ∈ ['\x7b', '['])
    (hlast : last ∈ ['\x7d', ']']) (hcs : Rises height cs) :
    Rises (height + 1) (first :: cs ++ [last]) := by
  intro depth rest
  have hopen : Scan.next ⟨depth, .outside⟩ first = ⟨depth + 1, .outside⟩ := by
    simp only [List.mem_cons, List.not_mem_nil, or_false] at hfirst
    rcases hfirst with rfl | rfl <;> rfl
  have hclose : Scan.next ⟨depth + 1, .outside⟩ last = ⟨depth, .outside⟩ := by
    simp only [List.mem_cons, List.not_mem_nil, or_false] at hlast
    rcases hlast with rfl | rfl <;> rfl
  rw [List.append_assoc, List.cons_append, Scan.peak, hopen, hcs, List.singleton_append, Scan.peak,
    hclose]
  change max depth (max (depth + 1 + height) (max (depth + 1) _)) = max (depth + (height + 1)) _
  omega

end Rises

/-! ### The text of a number -/

theorem plain_of_isDigit {c : Char} (hc : c.isDigit = true) : Plain c := by
  intro hmem
  simp only [List.mem_cons, List.not_mem_nil, or_false] at hmem
  rcases hmem with rfl | rfl | rfl | rfl | rfl <;> cases hc

/-- Text without quotation marks and brackets. -/
def PlainText (s : String) : Prop := ∀ c ∈ s.toList, Plain c

instance (s : String) : Decidable (PlainText s) :=
  List.decidableBAll Plain s.toList

theorem PlainText.append {s t : String} (hs : PlainText s) (ht : PlainText t) :
    PlainText (s ++ t) := by
  rw [PlainText, String.toList_append]
  exact List.forall_mem_append.2 ⟨hs, ht⟩

theorem plainText_ofList {cs : List Char} (hcs : ∀ c ∈ cs, Plain c) :
    PlainText (String.ofList cs) := by
  rwa [PlainText, String.toList_ofList]

theorem plainText_toString (n : Nat) : PlainText (toString n) := by
  intro c hc
  rw [Nat.toString_eq_repr, Nat.toList_repr] at hc
  exact plain_of_isDigit (Nat.isDigit_of_mem_toDigits (by decide) (by decide) hc)

theorem plain_of_mem_replicate {n : Nat} {c : Char} (hc : c ∈ List.replicate n '0') :
    Plain c := by
  rw [List.eq_of_mem_replicate hc]
  decide

/-- A double is written with digits, signs, a point and the mark of an exponent. -/
theorem plainText_decimal (x : Binary64) : PlainText (numberFormat.text x) := by
  unfold DecimalFormat.text
  dsimp only
  refine .append (by split <;> decide) ?_
  have hdigits := plainText_toString x.shortest.1
  unfold PlainText at hdigits
  generalize (toString x.shortest.1).toList = ds at hdigits ⊢
  generalize x.shortest.2 = power
  generalize power + (ds.length : Int) - 1 = lead
  have htake (n : Nat) : ∀ c ∈ ds.take n, Plain c := fun c hc => hdigits c (List.mem_of_mem_take hc)
  have hdrop (n : Nat) : ∀ c ∈ ds.drop n, Plain c := fun c hc => hdigits c (List.mem_of_mem_drop hc)
  have hzeros (n : Nat) : ∀ c ∈ List.replicate n '0', Plain c := fun c => plain_of_mem_replicate
  split
  case isTrue hzero => decide
  case isFalse hzero =>
    split
    case isTrue hpositional =>
      split
      · exact .append (plainText_ofList (List.forall_mem_append.2 ⟨hdigits, hzeros _⟩)) (by decide)
      · split
        · exact .append (.append (plainText_ofList (htake _)) (by decide))
            (plainText_ofList (hdrop _))
        · exact .append (by decide)
            (plainText_ofList (List.forall_mem_append.2 ⟨hzeros _, hdigits⟩))
    case isFalse hpositional =>
      refine .append (.append (.append (plainText_ofList (htake _)) ?_) (by decide)) ?_
      · split
        · exact .append (by decide) (plainText_ofList (hdrop _))
        · decide
      · split <;> exact .append (by decide) (plainText_toString _)

/-- The text of a number has no quotation mark and no bracket. -/
theorem plainText_text (number : Number) : PlainText number.text := by
  cases number with
  | integer value =>
    rw [Number.text, Int.toString_eq_repr, Int.repr_eq_if]
    split
    · exact plainText_toString _
    · exact .append (by decide) (plainText_toString _)
  | double value => exact plainText_decimal value

/-! ### The text of a value -/

mutual

/-- The most arrays and objects of a value that stand inside each other. -/
def depth : Json → Nat
  | .array items => depthItems items + 1
  | .object fields => depthFields fields + 1
  | _ => 0

/-- The largest depth of several values. -/
def depthItems : List Json → Nat
  | [] => 0
  | item :: rest => max item.depth (depthItems rest)

/-- The largest depth of the values of several fields. -/
def depthFields : List (String × Json) → Nat
  | [] => 0
  | field :: rest => max (depthField field) (depthFields rest)

/-- The depth of the value of a field. -/
def depthField : String × Json → Nat
  | (_, value) => value.depth

end

mutual

-- The recursions follow those of the text.

theorem rises_text : (value : Json) → Rises value.depth value.text.toList
  | .null => (Passes.plain (show PlainText "null" by decide)).rises
  | .bool true => (Passes.plain (show PlainText "true" by decide)).rises
  | .bool false => (Passes.plain (show PlainText "false" by decide)).rises
  | .number n => (Passes.plain (plainText_text n)).rises
  | .string s => (passes_quote s).rises
  | .array items => by
    have hitems := rises_textItems items
    simpa [text, depth] using Rises.bracket '[' ']' (by decide) (by decide) hitems
  | .object fields => by
    have hfields := rises_textFields fields
    simpa [text, depth] using Rises.bracket '\x7b' '\x7d' (by decide) (by decide) hfields

theorem rises_textItems : (items : List Json) → Rises (depthItems items) (textItems items).toList
  | [] => (Passes.nil _).rises
  | [item] => by
    simpa [textItems, depthItems] using rises_text item
  | item :: next :: rest => by
    have hitems := Rises.separated ',' (by decide) (rises_text item)
      (rises_textItems (next :: rest))
    simpa [textItems, depthItems] using hitems

theorem rises_textFields :
    (fields : List (String × Json)) → Rises (depthFields fields) (textFields fields).toList
  | [] => (Passes.nil _).rises
  | [field] => by
    simpa [textFields, depthFields] using rises_textField field
  | field :: next :: rest => by
    have hfields := Rises.separated ',' (by decide) (rises_textField field)
      (rises_textFields (next :: rest))
    simpa [textFields, depthFields] using hfields

theorem rises_textField :
    (field : String × Json) → Rises (depthField field) (textField field).toList
  | (key, value) => by
    have hfield := Rises.separated ':' (by decide) (passes_quote key).rises
      (rises_text value)
    simpa [textField, depthField] using hfield

end

/-- **The text of a value nests as deep as the value.** -/
theorem nesting_text (value : Json) : nesting value.text = value.depth := by
  have hrises := rises_text value 0 []
  rw [List.append_nil, Nat.zero_add] at hrises
  exact hrises.trans (Nat.max_eq_left (Nat.zero_le _))

end Folio.Json
