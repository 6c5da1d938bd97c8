import Folio.Proofs.JsonReading

/-!
# The scan bounds the reader

The reader keeps a frame for every array and object that is open and has no limit of its own when
its room is large. Between two tokens it has no more frames than the tokens before have opened, and
these open no more than the scan counts, whether the text turns out to be JSON or not. In the other
direction the scan counts no bracket too many in a text that is JSON: by the grammar, brackets
outside string literals stand in pairs around what they enclose, and in a string literal a quotation
mark has a backslash before it that no other backslash takes away.

The scan may as well go over bytes. The bytes of a character beyond ASCII are not ASCII themselves,
and all that is not ASCII is passed over, where the first byte ends an escape as the character does.

## Main definitions

* `Folio.Json.bytesNestBeyond`: the scan over the bytes of a text.
* `Folio.Json.Reader.states`: the states of a reader between the tokens of a text.
* `Folio.Json.Spells`: the grammar of JSON, with the nesting of what is spelled.

## Main results

* `Folio.Json.bytesNestBeyond_eq`: bytes and characters are scanned alike.
* `Folio.Json.Reader.depth_le_peak`, `Folio.Json.Reader.exists_peak`: how many frames a reader has.
* `Folio.Json.Spells.nesting_eq`: a text nests as deep as the grammar says.
* `Folio.Json.scan_bounds_reader`: what the answer of the scan says about reading.
-/

namespace Folio.Json

/-! ### Scanning bytes -/

/-- Whether more than `limit` brackets are open at some point of the bytes of a text, each of which
counts as the character with its number. -/
def bytesNestBeyond (limit : Nat) (text : String) : Bool :=
  Scan.exceeds limit {} (text.toUTF8.data.toList.map Char.ofUInt8)

/-- The state after a character beyond ASCII: only an escape ends there. -/
def Scan.pass (scan : Scan) : Scan :=
  match scan.place with
  | .escaped => { scan with place := .inString }
  | _ => scan

theorem Scan.next_of_le {c : Char} (hc : 0x80 ≤ c.toNat) (scan : Scan) :
    scan.next c = scan.pass := by
  have hne : ∀ d : Char, d.toNat < 0x80 → c ≠ d := by
    rintro d hd rfl
    exact absurd hd (Nat.not_lt.2 hc)
  obtain ⟨depth, place⟩ := scan
  cases place with
  | escaped => rfl
  | inString =>
    simp only [next, pass, if_neg (hne '\\' (by decide)), if_neg (hne '"' (by decide))]
  | outside =>
    simp only [next, pass, hne '"' (by decide), hne '\x7b' (by decide), hne '[' (by decide),
      hne '\x7d' (by decide), hne ']' (by decide), or_self, if_false]

theorem Scan.pass_pass (scan : Scan) : scan.pass.pass = scan.pass := by
  obtain ⟨depth, place⟩ := scan
  cases place <;> rfl

/-- After one character beyond ASCII more of them make no difference. -/
theorem peak_pass {cs : List Char} (hcs : ∀ c ∈ cs, 0x80 ≤ c.toNat) (scan : Scan)
    (rest : List Char) : scan.pass.peak (cs ++ rest) = scan.pass.peak rest := by
  induction cs with
  | nil => rfl
  | cons c cs ih =>
    obtain ⟨hc, hcs⟩ := List.forall_mem_cons.1 hcs
    rw [List.cons_append, Scan.peak, Scan.next_of_le hc, Scan.pass_pass, ih hcs]
    exact Nat.max_eq_right (Scan.depth_le_peak scan.pass rest)

theorem toNat_ofUInt8 (byte : UInt8) : (Char.ofUInt8 byte).toNat = byte.toNat :=
  UInt8.toNat_toUInt32 byte

theorem map_utf8EncodeChar_of_lt {c : Char} (hc : c.toNat < 0x80) :
    (String.utf8EncodeChar c).map Char.ofUInt8 = [c] := by
  have hle : c.val.toNat ≤ 0x7f := Nat.le_of_lt_succ hc
  rw [String.utf8EncodeChar]
  simp only [if_pos hle, List.map_singleton, List.cons.injEq, and_true]
  rw [← Char.toNat_inj, toNat_ofUInt8, UInt8.toNat_ofNat']
  exact Nat.mod_eq_of_lt (Nat.lt_of_le_of_lt hle (by decide))

theorem le_of_mem_utf8EncodeChar {c : Char} (hc : 0x80 ≤ c.toNat) :
    ∀ byte ∈ String.utf8EncodeChar c, 0x80 ≤ byte.toNat := by
  rw [String.utf8EncodeChar]
  simp only [if_neg (show ¬ c.val.toNat ≤ 0x7f from Nat.not_le.2 hc)]
  repeat' split
  all_goals
    simp only [List.forall_mem_cons, List.not_mem_nil, false_implies, implies_true, and_true,
      UInt8.toNat_ofNat']
    omega

/-- The bytes of a character are scanned as the character is. -/
theorem peak_utf8EncodeChar (c : Char) (scan : Scan) (rest : List Char) :
    scan.peak ((String.utf8EncodeChar c).map Char.ofUInt8 ++ rest) = scan.peak (c :: rest) := by
  rcases Nat.lt_or_ge c.toNat 0x80 with hc | hc
  · rw [map_utf8EncodeChar_of_lt hc, List.singleton_append]
  · have hbytes : ∀ d ∈ (String.utf8EncodeChar c).map Char.ofUInt8, 0x80 ≤ d.toNat := by
      refine List.forall_mem_map.2 fun byte hbyte => ?_
      rw [toNat_ofUInt8]
      exact le_of_mem_utf8EncodeChar hc byte hbyte
    have hne : (String.utf8EncodeChar c).map Char.ofUInt8 ≠ [] :=
      mt List.map_eq_nil_iff.1 String.utf8EncodeChar_ne_nil
    obtain ⟨first, others, hsplit⟩ := List.exists_cons_of_ne_nil hne
    rw [hsplit] at hbytes ⊢
    obtain ⟨hfirst, hothers⟩ := List.forall_mem_cons.1 hbytes
    rw [List.cons_append, Scan.peak, Scan.peak, Scan.next_of_le hfirst, Scan.next_of_le hc,
      peak_pass hothers]

theorem peak_bytes (scan : Scan) (cs : List Char) :
    scan.peak ((cs.flatMap String.utf8EncodeChar).map Char.ofUInt8) = scan.peak cs := by
  induction cs generalizing scan with
  | nil => rfl
  | cons c cs ih =>
    rw [List.flatMap_cons, List.map_append, peak_utf8EncodeChar, Scan.peak, Scan.peak, ih]

/-- **Bytes and characters are scanned alike.** -/
theorem bytesNestBeyond_eq (limit : Nat) (text : String) :
    bytesNestBeyond limit text = nestsBeyond limit text := by
  have hbytes : text.toUTF8.data.toList = text.toList.flatMap String.utf8EncodeChar := by
    rw [String.toUTF8_eq_toByteArray, ← String.utf8Encode_toList, List.utf8Encode,
      List.toList_data_toByteArray]
  rw [Bool.eq_iff_iff, nestsBeyond_iff, bytesNestBeyond, Scan.exceeds_iff (Nat.zero_le limit),
    hbytes, peak_bytes]
  rfl

/-! ### The states of a reader -/

namespace Reader

/-- The states of a reader, from the one it is in to the last before it comes to an end or refuses a
token. -/
def states (room : Nat) : Reader → List Token → List Reader
  | reader, [] => [reader]
  | reader, token :: rest =>
    match reader.step room token with
    | .ok next => reader :: states room next rest
    | .error _ => [reader]

variable {room : Nat} {reader state : Reader} {tokens : List Token} {value : Json}

/-- A reader never has more frames than the tokens open. -/
theorem depth_le_peak (h : state ∈ states room reader tokens) :
    state.depth ≤ Token.peak reader.depth tokens := by
  induction tokens generalizing reader with
  | nil =>
    rw [states, List.mem_singleton] at h
    rw [h]
    exact Token.le_peak reader.depth []
  | cons token rest ih =>
    rw [states] at h
    split at h
    case h_1 next hnext =>
      rcases List.mem_cons.1 h with rfl | h
      · exact Token.le_peak state.depth (token :: rest)
      · rw [Token.peak, ← (accepts_step hnext).depth_eq]
        exact Nat.le_trans (ih h) (Nat.le_max_right _ _)
    case h_2 =>
      rw [List.mem_singleton] at h
      rw [h]
      exact Token.le_peak reader.depth (token :: rest)

/-- A reader that comes to a value had all frames that the tokens open. -/
theorem exists_peak (h : reader.run room tokens = .ok value) :
    ∃ state ∈ states room reader tokens, state.depth = Token.peak reader.depth tokens := by
  induction tokens generalizing reader with
  | nil => exact ⟨reader, List.mem_singleton_self reader, rfl⟩
  | cons token rest ih =>
    obtain ⟨next, hnext, hrun⟩ := run_cons_eq_ok h
    obtain ⟨state, hstate, hdepth⟩ := ih hrun
    rw [(accepts_step hnext).depth_eq] at hdepth
    simp only [states, hnext, Token.peak, List.mem_cons]
    rcases Nat.le_total reader.depth (Token.peak (token.move reader.depth) rest) with hle | hge
    · exact ⟨state, .inr hstate, hdepth.trans (Nat.max_eq_right hle).symm⟩
    · exact ⟨reader, .inl rfl, (Nat.max_eq_left hge).symm⟩

end Reader

/-- The states in which a text is read. -/
def readingStates (room : Nat) (text : String) : List Reader :=
  Reader.states room (.value []) (tokens text.toList)

variable {room : Nat} {text : String} {value : Json}

/-- A reader has no more arrays and objects open than the scan counts, in any text. -/
theorem depth_le_nesting {state : Reader} (h : state ∈ readingStates room text) :
    state.depth ≤ nesting text :=
  Nat.le_trans (Reader.depth_le_peak h) (peak_tokens_le text.toList 0)

/-- In a text that it reads, a reader has as many arrays and objects open as the scan counts. -/
theorem exists_depth_eq_nesting (h : read room text = .ok value) :
    ∃ state ∈ readingStates room text, state.depth = nesting text := by
  obtain ⟨state, hstate, hdepth⟩ := Reader.exists_peak h
  obtain ⟨hvalid, -⟩ := Reader.valid_of_run h
  exact ⟨state, hstate, hdepth.trans (peak_tokens hvalid 0)⟩

/-! ### The grammar -/

/-- White space between tokens. -/
def Gap (cs : List Char) : Prop := ∀ c ∈ cs, isGap c = true

/-- One digit or more. -/
def Digits (cs : List Char) : Prop := cs ≠ [] ∧ ∀ c ∈ cs, (digit? c).isSome = true

/-- What may stand between the quotation marks of a string literal. -/
inductive Quotable : List Char → Prop
  | nil : Quotable []
  | plain {c : Char} {cs : List Char} (hc : Literal c) (hcontrol : 0x20 ≤ c.toNat)
    (hcs : Quotable cs) : Quotable (c :: cs)
  | letter {c : Char} {cs : List Char} (hc : (escaped? c).isSome = true) (hcs : Quotable cs) :
    Quotable ('\\' :: c :: cs)
  /-- A code unit by its number, be it half of a surrogate pair. -/
  | unit {digits cs : List Char} (hlength : digits.length = 4)
    (hdigits : ∀ c ∈ digits, (hexDigit? c).isSome = true) (hcs : Quotable cs) :
    Quotable ('\\' :: 'u' :: (digits ++ cs))

/-- The fraction of a number, which may be missing. -/
inductive SpellsFraction : List Char → Prop
  | none : SpellsFraction []
  | some {ds : List Char} (hds : Digits ds) : SpellsFraction ('.' :: ds)

/-- The exponent of a number, which may be missing. -/
inductive SpellsExponent : List Char → Prop
  | none : SpellsExponent []
  | some {mark : Char} {sign ds : List Char} (hmark : mark ∈ ['e', 'E'])
    (hsign : sign ∈ [[], ['+'], ['-']]) (hds : Digits ds) : SpellsExponent (mark :: (sign ++ ds))

/-- A number of any size. -/
inductive SpellsNumber : List Char → Prop
  | mk {sign whole fraction exponent : List Char} (hsign : sign ∈ [[], ['-']])
    (hwhole : Digits whole) (hzero : whole.head? = some '0' → whole.length = 1)
    (hfraction : SpellsFraction fraction) (hexponent : SpellsExponent exponent) :
    SpellsNumber (sign ++ whole ++ fraction ++ exponent)

/-- What a piece of JSON is. -/
inductive Part where
  | value
  /-- A value with white space around it, such as a whole text. -/
  | spaced
  /-- The items of an array, at least one. -/
  | items
  | field
  /-- The fields of an object, at least one. -/
  | fields

/-- The grammar of JSON. The number is that of the arrays and objects of a piece that stand inside
each other. -/
inductive Spells : Part → Nat → List Char → Prop
  | word {cs : List Char} (hcs : cs ∈ ["null".toList, "true".toList, "false".toList]) :
    Spells .value 0 cs
  | number {cs : List Char} (hcs : SpellsNumber cs) : Spells .value 0 cs
  | string {cs : List Char} (hcs : Quotable cs) : Spells .value 0 ('"' :: cs ++ ['"'])
  | emptyArray {cs : List Char} (hcs : Gap cs) : Spells .value 1 ('[' :: cs ++ [']'])
  | array {depth : Nat} {cs : List Char} (hcs : Spells .items depth cs) :
    Spells .value (depth + 1) ('[' :: cs ++ [']'])
  | emptyObject {cs : List Char} (hcs : Gap cs) : Spells .value 1 ('\x7b' :: cs ++ ['\x7d'])
  | object {depth : Nat} {cs : List Char} (hcs : Spells .fields depth cs) :
    Spells .value (depth + 1) ('\x7b' :: cs ++ ['\x7d'])
  | spaced {depth : Nat} {before cs after : List Char} (hbefore : Gap before)
    (hcs : Spells .value depth cs) (hafter : Gap after) :
    Spells .spaced depth (before ++ cs ++ after)
  | lastItem {depth : Nat} {cs : List Char} (hcs : Spells .spaced depth cs) :
    Spells .items depth cs
  | moreItems {depth other : Nat} {cs ds : List Char} (hcs : Spells .spaced depth cs)
    (hds : Spells .items other ds) : Spells .items (max depth other) (cs ++ ',' :: ds)
  | field {depth : Nat} {before key after cs : List Char} (hbefore : Gap before)
    (hkey : Quotable key) (hafter : Gap after) (hcs : Spells .spaced depth cs) :
    Spells .field depth ((before ++ ('"' :: key ++ ['"']) ++ after) ++ ':' :: cs)
  | lastField {depth : Nat} {cs : List Char} (hcs : Spells .field depth cs) :
    Spells .fields depth cs
  | moreFields {depth other : Nat} {cs ds : List Char} (hcs : Spells .field depth cs)
    (hds : Spells .fields other ds) : Spells .fields (max depth other) (cs ++ ',' :: ds)

theorem Gap.passes {cs : List Char} (hcs : Gap cs) : Passes .outside .outside cs := by
  refine .plain fun c hc => ?_
  have hgap := hcs c hc
  simp only [isGap, Bool.or_eq_true, beq_iff_eq] at hgap
  rcases hgap with ((rfl | rfl) | rfl) | rfl <;> decide

theorem Digits.plain {cs : List Char} (hcs : Digits cs) : ∀ c ∈ cs, Plain c := by
  intro c hc
  obtain ⟨n, hn⟩ := Option.isSome_iff_exists.1 (hcs.2 c hc)
  exact plain_of_digit? hn

/-- A string literal closes where the scan says: each backslash takes one character with it. -/
theorem Quotable.passes {cs : List Char} (hcs : Quotable cs) : Passes .inString .inString cs := by
  induction hcs with
  | nil => exact .nil _
  | plain hc _ _ ih => exact (Passes.literal (List.forall_mem_singleton.2 hc)).append ih
  | letter _ _ ih => exact .escape _ ih
  | unit _ hdigits _ ih =>
    refine .escape 'u' (.append (.literal fun c hc => ?_) ih)
    obtain ⟨n, hn⟩ := Option.isSome_iff_exists.1 (hdigits c hc)
    exact literal_of_hexDigit? hn

theorem passes_sign {sign : List Char} (hsign : sign ∈ [[], ['+'], ['-']]) :
    Passes .outside .outside sign := by
  simp only [List.mem_cons, List.not_mem_nil, or_false] at hsign
  obtain rfl | rfl | rfl := hsign
  · exact .nil _
  · exact .plain (List.forall_mem_singleton.2 (by decide))
  · exact .plain (List.forall_mem_singleton.2 (by decide))

theorem SpellsFraction.passes {cs : List Char} (hcs : SpellsFraction cs) :
    Passes .outside .outside cs := by
  cases hcs with
  | none => exact .nil _
  | some hds => exact .plain (List.forall_mem_cons.2 ⟨by decide, hds.plain⟩)

theorem SpellsExponent.passes {cs : List Char} (hcs : SpellsExponent cs) :
    Passes .outside .outside cs := by
  cases hcs with
  | none => exact .nil _
  | @some mark sign ds hmark hsign hds =>
    have hplain : ∀ mark ∈ ['e', 'E'], Plain mark :=
      List.forall_mem_cons.2 ⟨by decide, List.forall_mem_singleton.2 (by decide)⟩
    have hfirst : Passes .outside .outside [mark] :=
      .plain (List.forall_mem_singleton.2 (hplain mark hmark))
    exact hfirst.append ((passes_sign hsign).append (.plain hds.plain))

theorem SpellsNumber.passes {cs : List Char} (hcs : SpellsNumber cs) :
    Passes .outside .outside cs := by
  obtain @⟨sign, whole, fraction, exponent, hsign, hwhole, -, hfraction, hexponent⟩ := hcs
  have hsigns : ∀ sign ∈ [[], ['-']], sign ∈ [[], ['+'], ['-']] := by decide
  have hfirst := (passes_sign (hsigns sign hsign)).append (Passes.plain hwhole.plain)
  exact (hfirst.append hfraction.passes).append hexponent.passes

namespace Spells

/-- What is spelled closes what it opens, and opens as much at once as the grammar says. -/
theorem rises {part : Part} {depth : Nat} {cs : List Char} (h : Spells part depth cs) :
    Rises depth cs := by
  induction h with
  | word hcs =>
    simp only [List.mem_cons, List.not_mem_nil, or_false] at hcs
    obtain rfl | rfl | rfl := hcs
    · exact (Passes.plain (show PlainText "null" by decide)).rises
    · exact (Passes.plain (show PlainText "true" by decide)).rises
    · exact (Passes.plain (show PlainText "false" by decide)).rises
  | number hcs => exact hcs.passes.rises
  | string hcs => exact hcs.passes.quoted.rises
  | emptyArray hcs => exact hcs.passes.rises.bracket '[' ']' (by decide) (by decide)
  | array _ ih => exact ih.bracket '[' ']' (by decide) (by decide)
  | emptyObject hcs => exact hcs.passes.rises.bracket '\x7b' '\x7d' (by decide) (by decide)
  | object _ ih => exact ih.bracket '\x7b' '\x7d' (by decide) (by decide)
  | spaced hbefore _ hafter ih =>
    have hspaced := (hbefore.passes.rises.append ih).append hafter.passes.rises
    rwa [Nat.zero_max, Nat.max_zero] at hspaced
  | lastItem _ ih => exact ih
  | moreItems _ _ ih ihrest => exact ih.separated ',' (by decide) ihrest
  | field hbefore hkey hafter _ ih =>
    have hname := (hbefore.passes.append hkey.passes.quoted).append hafter.passes
    have hfield := hname.rises.separated ':' (by decide) ih
    rwa [Nat.zero_max] at hfield
  | lastField _ ih => exact ih
  | moreFields _ _ ih ihrest => exact ih.separated ',' (by decide) ihrest

/-- **A text nests as deep as the grammar says.** -/
theorem nesting_eq {part : Part} {depth : Nat} (h : Spells part depth text.toList) :
    nesting text = depth := by
  have hrises := h.rises 0 []
  rw [List.append_nil, Nat.zero_add] at hrises
  exact hrises.trans (Nat.max_eq_left (Nat.zero_le _))

end Spells

/-- **The scan bounds the reader.** It may go over bytes as well as over characters. When it finds
no more than `limit` brackets open, no reader of the text ever has more arrays and objects open,
whether it comes to a value or not; a value that is read nests no deeper; and a reader does not
depend on its room beyond the limit. In a text that the grammar of JSON allows, and in one that is
read, it finds more exactly when more arrays and objects of the text stand inside each other. -/
theorem scan_bounds_reader (text : String) (limit : Nat) :
    bytesNestBeyond limit text = nestsBeyond limit text ∧
    (nestsBeyond limit text = false → ∀ room,
      (∀ state ∈ readingStates room text, state.depth ≤ limit) ∧
      (∀ value, read room text = .ok value → value.depth ≤ limit) ∧
      (limit ≤ room → read room text = read limit text)) ∧
    (∀ depth, Spells .spaced depth text.toList → (nestsBeyond limit text = true ↔ limit < depth)) ∧
    ∀ room value, read room text = .ok value →
      (nestsBeyond limit text = true ↔ ∃ state ∈ readingStates room text, limit < state.depth) := by
  refine ⟨bytesNestBeyond_eq limit text, fun hscan room => ?_, fun depth hspells => ?_,
    fun room value hread => ?_⟩
  · have hnesting : nesting text ≤ limit := by
      rw [← Nat.not_lt, ← nestsBeyond_iff, hscan]
      exact Bool.false_ne_true
    refine ⟨fun state hstate => Nat.le_trans (depth_le_nesting hstate) hnesting,
      fun value hread => Nat.le_trans (depth_of_read hread) hnesting, fun hroom => ?_⟩
    exact read_eq_of_nesting_le (Nat.le_trans hnesting hroom) hnesting
  · rw [nestsBeyond_iff, hspells.nesting_eq]
  · rw [nestsBeyond_iff]
    constructor
    · intro hlimit
      obtain ⟨state, hstate, hdepth⟩ := exists_depth_eq_nesting hread
      exact ⟨state, hstate, hdepth ▸ hlimit⟩
    · rintro ⟨state, hstate, hlimit⟩
      exact Nat.lt_of_lt_of_le hlimit (depth_le_nesting hstate)

/-- An object with a backslash at the end of its key and an array of two strings, one with brackets
and one with half of a surrogate pair, which no reader accepts. -/
theorem scan_bounds_reader_half :
    let item := ['"', ']', 'é', '[', '"', ',', '"', '\\', 'u', 'd', '8', '0', '0', '"']
    let text := String.ofList
      ('\x7b' :: '"' :: 'a' :: '\\' :: '\\' :: '"' :: ':' :: '[' :: item ++ [']', '\x7d'])
    nestsBeyond 1 text = true ∧ nestsBeyond 2 text = false ∧
      ∀ room, ∀ state ∈ readingStates room text, state.depth ≤ 2 := by
  intro item text
  have hkey : Quotable ['a', '\\', '\\'] :=
    .plain (by decide) (by decide) (.letter (by decide) .nil)
  have hbrackets : Quotable [']', 'é', '['] :=
    .plain (by decide) (by decide)
      (.plain (by decide) (by decide) (.plain (by decide) (by decide) .nil))
  have hhalf : Quotable ['\\', 'u', 'd', '8', '0', '0'] :=
    @Quotable.unit ['d', '8', '0', '0'] [] rfl (List.all_eq_true.1 (by decide)) .nil
  have hgap : Gap [] := List.forall_mem_nil _
  have hspace {depth : Nat} {cs : List Char} (hcs : Spells .value depth cs) :
      Spells .spaced depth cs := by
    have hspaced := Spells.spaced hgap hcs hgap
    rwa [List.nil_append, List.append_nil] at hspaced
  have hitems : Spells .items 0 item :=
    .moreItems (hspace (.string hbrackets)) (.lastItem (hspace (.string hhalf)))
  have hspells : Spells .spaced 2 text.toList := by
    rw [String.toList_ofList]
    exact hspace (.object (.lastField (.field hgap hkey hgap (hspace (.array hitems)))))
  have hshallow : nestsBeyond 2 text = false := by
    rw [← Bool.not_eq_true, (scan_bounds_reader text 2).2.2.1 2 hspells]
    decide
  refine ⟨((scan_bounds_reader text 1).2.2.1 2 hspells).2 (by decide), hshallow, fun room => ?_⟩
  exact ((scan_bounds_reader text 2).2.1 hshallow room).1

end Folio.Json
