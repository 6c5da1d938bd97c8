import Folio.Json.Reader
import Folio.Proofs.JsonNesting

/-!
# What is open while a text is read

The scan of a text and its reader count the same brackets. What a token takes of the text leads the
scan from one place outside string literals to the next, and moves what is open as the token does;
a reader that accepts the token moves in the same way. So no more arrays and objects are open in
the reader than the scan counts, and a value that was read nests no deeper than its text. The
reader looks at the room it was given only where it opens an array or an object, so that all rooms
that hold the nesting of a text are alike.

## Main definitions

* `Folio.Json.Token.move`: what is open after a token.
* `Folio.Json.Token.peak`: the most that is open at once while tokens are read.
* `Folio.Json.Reader.reach`: the deepest place in what a reader holds.

## Main results

* `Folio.Json.peak_tokens_le`, `Folio.Json.peak_tokens`: tokens open what the scan of their text
  counts, no more in any text and no less in one without invalid tokens.
* `Folio.Json.depth_of_read`: a value nests no deeper than the text it was read from.
* `Folio.Json.read_eq_of_nesting_le`: a text is read alike in every room that holds its nesting.
* `Folio.Json.nesting_le_of_read`: a text that is read in a room nests no deeper than it holds.
-/

namespace Folio.Json

/-! ### What a token takes of the text -/

/-- The scan of one text from one place is that of another from another place. -/
def Leads (start stop : Place) (cs rest : List Char) : Prop :=
  ∀ depth, Scan.peak ⟨depth, start⟩ cs = Scan.peak ⟨depth, stop⟩ rest

theorem Passes.leads {start stop : Place} {cs : List Char} (hcs : Passes start stop cs)
    (rest : List Char) : Leads start stop (cs ++ rest) rest :=
  fun depth => hcs depth rest

namespace Leads

variable {start middle stop : Place} {cs ds rest : List Char}

theorem refl (place : Place) (cs : List Char) : Leads place place cs cs := fun _ => rfl

theorem trans (hcs : Leads start middle cs ds) (hds : Leads middle stop ds rest) :
    Leads start stop cs rest :=
  fun depth => (hcs depth).trans (hds depth)

theorem plain {c : Char} (hc : Plain c) (cs : List Char) : Leads .outside .outside (c :: cs) cs :=
  (Passes.plain (List.forall_mem_singleton.2 hc)).leads cs

end Leads

/-! ### String literals -/

theorem literal_of_hexDigit? {c : Char} {n : Nat} (hc : hexDigit? c = some n) : Literal c := by
  simp only [Literal, List.mem_cons, List.not_mem_nil, or_false, not_or]
  constructor
  · rintro rfl
    simp [hexDigit?] at hc
  · rintro rfl
    simp [hexDigit?] at hc

theorem leads_hexQuad? {a b c d : Char} {n : Nat} (h : hexQuad? a b c d = some n)
    (rest : List Char) : Leads .inString .inString (a :: b :: c :: d :: rest) rest := by
  simp only [hexQuad?, Option.bind_eq_bind, Option.bind_eq_some_iff] at h
  obtain ⟨na, ha, nb, hb, nc, hc, nd, hd, -⟩ := h
  have hliteral : ∀ x ∈ [a, b, c, d], Literal x := by
    simp only [List.forall_mem_cons, List.not_mem_nil, false_implies, implies_true, and_true]
    exact ⟨literal_of_hexDigit? ha, literal_of_hexDigit? hb, literal_of_hexDigit? hc,
      literal_of_hexDigit? hd⟩
  exact (Passes.literal hliteral).leads rest

theorem leads_unicodeEscape {cs rest : List Char} {c : Char}
    (h : unicodeEscape cs = .ok (c, rest)) : Leads .inString .inString cs rest := by
  unfold unicodeEscape at h
  split at h
  case h_2 => cases h
  case h_1 a b c d rest' =>
    split at h
    case h_1 => cases h
    case h_2 unit hunit =>
      have hfirst := leads_hexQuad? hunit rest'
      split at h
      · cases h
      split at h
      case isFalse =>
        simp only [Except.ok.injEq, Prod.mk.injEq] at h
        exact h.2 ▸ hfirst
      case isTrue =>
        split at h <;> try cases h
        case h_3 _ e f g i rest'' =>
          split at h
          case h_1 => cases h
          case h_2 second hsecond =>
            split at h
            case isFalse => cases h
            case isTrue =>
              simp only [Except.ok.injEq, Prod.mk.injEq] at h
              obtain ⟨-, rfl⟩ := h
              -- The second half of a pair has a backslash and a letter of its own.
              have hmiddle :=
                (Passes.escape 'u' (.nil .inString)).leads (e :: f :: g :: i :: rest'')
              exact hfirst.trans (hmiddle.trans (leads_hexQuad? hsecond rest''))

theorem leads_stringBody {acc cs body rest : List Char}
    (h : stringBody acc cs = .ok (body, rest)) : Leads .inString .outside cs rest := by
  fun_induction stringBody acc cs with
  | case1 => cases h
  | case2 acc rest' =>
    simp only [Except.ok.injEq, Prod.mk.injEq] at h
    obtain ⟨-, rfl⟩ := h
    exact (Passes.char fun _ => rfl).leads rest'
  | case3 => cases h
  | case4 => cases h
  | case5 acc rest' c rest'' hu ih =>
    have hescape := (Passes.escape 'u' (.nil .inString)).leads rest'
    exact hescape.trans ((leads_unicodeEscape hu).trans (ih h))
  | case6 => cases h
  | case7 acc c rest' hne d hd ih =>
    exact ((Passes.escape c (.nil .inString)).leads rest').trans (ih h)
  | case8 => cases h
  | case9 acc c rest' hquote hbackslash hlt ih =>
    have hliteral : Literal c := by
      simp only [Literal, List.mem_cons, List.not_mem_nil, or_false, not_or]
      exact ⟨hquote, hbackslash⟩
    exact ((Passes.literal (List.forall_mem_singleton.2 hliteral)).leads rest').trans (ih h)

/-! ### Numbers and literals -/

theorem plain_of_digit? {c : Char} {n : Nat} (hc : digit? c = some n) : Plain c := by
  intro hmem
  simp only [List.mem_cons, List.not_mem_nil, or_false] at hmem
  rcases hmem with rfl | rfl | rfl | rfl | rfl <;> cases hc

theorem leads_takeDigits (cs : List Char) : Leads .outside .outside cs (takeDigits cs).2 := by
  fun_induction takeDigits cs with
  | case1 => exact .refl _ _
  | case2 => exact .refl _ _
  | case3 c cs d hd ds rest hrest ih =>
    rw [hrest] at ih
    exact (Leads.plain (plain_of_digit? hd) cs).trans ih

theorem leads_someDigits {cs rest : List Char} {ds : List Nat}
    (h : someDigits cs = .ok (ds, rest)) : Leads .outside .outside cs rest := by
  have hdigits := leads_takeDigits cs
  unfold someDigits at h
  split at h
  · cases h
  · cases h
  · rename_i hne hcons heq
    simp only [Except.ok.injEq, Prod.mk.injEq] at h
    rwa [heq, h.2] at hdigits

theorem leads_takeFraction {cs rest : List Char} {fraction : Option (List Nat)}
    (h : takeFraction cs = .ok (fraction, rest)) : Leads .outside .outside cs rest := by
  unfold takeFraction at h
  split at h
  case h_1 rest' =>
    cases hd : someDigits rest' with
    | error e => simp [hd, bind, Except.bind] at h
    | ok r =>
      simp only [hd, bind, Except.bind, Except.ok.injEq, Prod.mk.injEq] at h
      obtain ⟨-, rfl⟩ := h
      exact (Leads.plain (by decide) rest').trans (leads_someDigits hd)
  case h_2 =>
    simp only [Except.ok.injEq, Prod.mk.injEq] at h
    exact h.2 ▸ .refl _ _

theorem leads_takeSign (cs : List Char) : Leads .outside .outside cs (takeSign cs).2 := by
  unfold takeSign
  split
  · exact .plain (by decide) _
  · exact .plain (by decide) _
  · exact .refl _ _

theorem leads_takeExponent {cs rest : List Char} {exponent : Option (Bool × List Nat)}
    (h : takeExponent cs = .ok (exponent, rest)) : Leads .outside .outside cs rest := by
  unfold takeExponent at h
  split at h
  case h_1 c cs' =>
    split at h
    case isTrue hmark =>
      have hc : Plain c := by rcases hmark with rfl | rfl <;> decide
      cases hd : someDigits (takeSign cs').2 with
      | error e => simp [hd, bind, Except.bind] at h
      | ok r =>
        simp only [hd, bind, Except.bind, Except.ok.injEq, Prod.mk.injEq] at h
        obtain ⟨-, rfl⟩ := h
        exact (Leads.plain hc cs').trans ((leads_takeSign cs').trans (leads_someDigits hd))
    case isFalse =>
      simp only [Except.ok.injEq, Prod.mk.injEq] at h
      exact h.2 ▸ .refl _ _
  case h_2 =>
    simp only [Except.ok.injEq, Prod.mk.injEq] at h
    exact h.2 ▸ .refl _ _

theorem leads_takeNumeral {negative : Bool} {cs rest : List Char} {n : Numeral}
    (h : takeNumeral negative cs = .ok (n, rest)) : Leads .outside .outside cs rest := by
  unfold takeNumeral at h
  cases hwhole : someDigits cs with
  | error e => simp [hwhole, bind, Except.bind] at h
  | ok whole =>
    simp only [hwhole, bind, Except.bind] at h
    split at h
    · simp at h
    · cases hfraction : takeFraction whole.2 with
      | error e => simp [hfraction] at h
      | ok fraction =>
        simp only [hfraction] at h
        cases hexponent : takeExponent fraction.2 with
        | error e => simp [hexponent] at h
        | ok exponent =>
          simp only [hexponent, Except.ok.injEq, Prod.mk.injEq] at h
          obtain ⟨-, rfl⟩ := h
          exact (leads_someDigits hwhole).trans
            ((leads_takeFraction hfraction).trans (leads_takeExponent hexponent))

theorem leads_takeNumber {negative : Bool} {cs rest : List Char} {n : Number}
    (h : takeNumber negative cs = .ok (n, rest)) : Leads .outside .outside cs rest := by
  unfold takeNumber at h
  cases hnumeral : takeNumeral negative cs with
  | error e => simp [hnumeral, bind, Except.bind] at h
  | ok r =>
    simp only [hnumeral, bind, Except.bind] at h
    split at h
    · simp only [Except.ok.injEq, Prod.mk.injEq] at h
      exact h.2 ▸ leads_takeNumeral hnumeral
    · simp at h

theorem leads_takeWord {ws cs rest : List Char} (hws : ∀ w ∈ ws, Plain w)
    (h : takeWord ws cs = .ok rest) : Leads .outside .outside cs rest := by
  fun_induction takeWord ws cs with
  | case1 =>
    cases h
    exact .refl _ _
  | case2 => cases h
  | case3 w ws cs ih =>
    obtain ⟨hw, hws⟩ := List.forall_mem_cons.1 hws
    exact (Leads.plain hw cs).trans (ih hws h)
  | case4 => cases h

/-! ### Tokens -/

/-- What is open after a token, when so much was open before it. -/
def Token.move (depth : Nat) : Token → Nat
  | .openArray | .openObject => depth + 1
  | .closeArray | .closeObject => depth - 1
  | _ => depth

/-- The most that is open at once while tokens are read. -/
def Token.peak (depth : Nat) : List Token → Nat
  | [] => depth
  | token :: rest => max depth (peak (token.move depth) rest)

theorem Token.le_peak (depth : Nat) (tokens : List Token) : depth ≤ Token.peak depth tokens := by
  cases tokens with
  | nil => exact Nat.le_refl _
  | cons token rest => exact Nat.le_max_left _ _

/-- A token and the text after it, as they come of a text: either there is no token and no text is
left, or the scan goes on with what is left and with that open which the token leaves open. -/
def Takes (cs : List Char) (found : Token × List Char) : Prop :=
  (∃ opened error, found = (.invalid opened error, [])) ∨
    ∀ depth, Scan.peak ⟨depth, .outside⟩ cs =
      max depth (Scan.peak ⟨found.1.move depth, .outside⟩ found.2)

/-- A token that is no bracket takes what leads the scan to the text after it. -/
theorem Leads.takes {token : Token} {cs rest : List Char}
    (hleads : Leads .outside .outside cs rest) (hmove : ∀ depth, token.move depth = depth) :
    Takes cs (token, rest) := by
  refine .inr fun depth => ?_
  rw [hmove, hleads]
  exact (Nat.max_eq_right (Scan.depth_le_peak ⟨depth, .outside⟩ rest)).symm

theorem takes_finish {α : Type} {opened : Bool} {make : α → Token}
    {result : Except ReadError (α × List Char)} {cs : List Char}
    (hmove : ∀ value depth, (make value).move depth = depth)
    (hresult : ∀ value rest, result = .ok (value, rest) → Leads .outside .outside cs rest) :
    Takes cs (finish opened make result) := by
  match result, hresult with
  | .ok (value, rest), hresult => exact (hresult value rest rfl).takes (hmove value)
  | .error error, _ => exact .inl ⟨opened, error, rfl⟩

theorem takes_literal {value : Token} (hmove : ∀ depth, value.move depth = depth) {c : Char}
    {ws : List Char} (hws : ∀ w ∈ c :: ws, Plain w) (cs : List Char) :
    Takes (c :: cs) (literal value ws cs) := by
  obtain ⟨hc, hws⟩ := List.forall_mem_cons.1 hws
  refine takes_finish (fun _ => hmove) fun _ rest h => ?_
  cases hword : takeWord ws cs with
  | error e => simp [hword, Except.map] at h
  | ok rest' =>
    simp only [hword, Except.map, Except.ok.injEq, Prod.mk.injEq] at h
    exact h.2 ▸ (Leads.plain hc cs).trans (leads_takeWord hws hword)

/-- The token at the start of a text takes what the scan passes over. -/
theorem takes_token (c : Char) (cs : List Char) : Takes (c :: cs) (token c cs) := by
  unfold token
  split
  case h_1 | h_2 | h_3 | h_4 => exact .inr fun _ => rfl
  case h_5 | h_6 => exact (Leads.plain (by decide) cs).takes fun _ => rfl
  case h_7 => exact takes_literal (fun _ => rfl) (show PlainText "null" by decide) cs
  case h_8 => exact takes_literal (fun _ => rfl) (show PlainText "true" by decide) cs
  case h_9 => exact takes_literal (fun _ => rfl) (show PlainText "false" by decide) cs
  case h_10 =>
    refine takes_finish (fun _ _ => rfl) fun _ _ h => ?_
    exact ((Passes.char fun _ => rfl).leads cs).trans (leads_stringBody h)
  case h_11 =>
    refine takes_finish (fun _ _ => rfl) fun _ _ h => ?_
    exact (Leads.plain (by decide) cs).trans (leads_takeNumber h)
  case h_12 =>
    split
    · exact takes_finish (fun _ _ => rfl) fun _ _ h => leads_takeNumber h
    · exact .inl ⟨false, .malformed, rfl⟩

theorem leads_gap {c : Char} (hc : isGap c = true) (cs : List Char) :
    Leads .outside .outside (c :: cs) cs := by
  refine .plain ?_ cs
  simp only [isGap, Bool.or_eq_true, beq_iff_eq] at hc
  rcases hc with ((rfl | rfl) | rfl) | rfl <;> decide

/-- **The tokens of a text open no more than its scan counts**, whether it is JSON or not. -/
theorem peak_tokens_le (cs : List Char) (depth : Nat) :
    Token.peak depth (tokens cs) ≤ Scan.peak ⟨depth, .outside⟩ cs := by
  fun_induction tokens cs generalizing depth with
  | case1 => exact Nat.le_refl _
  | case2 c cs hgap ih => exact leads_gap hgap cs depth ▸ ih depth
  | case3 c cs hgap ih =>
    rcases takes_token c cs with ⟨opened, error, hinvalid⟩ | htakes
    · have hpeak := Scan.depth_le_peak ⟨depth, .outside⟩ (c :: cs)
      simpa only [hinvalid, tokens, Token.peak, Token.move, Nat.max_self] using hpeak
    · have hrest := ih ((token c cs).1.move depth)
      rw [htakes, Token.peak]
      omega

/-- A text without invalid tokens opens as much as its scan counts. -/
theorem peak_tokens {cs : List Char}
    (hvalid : ∀ opened error, .invalid opened error ∉ tokens cs) (depth : Nat) :
    Token.peak depth (tokens cs) = Scan.peak ⟨depth, .outside⟩ cs := by
  fun_induction tokens cs generalizing depth with
  | case1 => rfl
  | case2 c cs hgap ih => exact leads_gap hgap cs depth ▸ ih hvalid depth
  | case3 c cs hgap ih =>
    rcases takes_token c cs with ⟨opened, error, hinvalid⟩ | htakes
    · exact absurd List.mem_cons_self (hinvalid ▸ hvalid opened error)
    · rw [htakes, Token.peak]
      rw [ih fun opened error hmem => hvalid opened error (List.mem_cons_of_mem _ hmem)]

/-! ### The steps of a reader -/

/-- The value that a token is by itself. -/
def Token.scalar? : Token → Option Json
  | .null => some .null
  | .bool value => some (.bool value)
  | .number value => some (.number value)
  | .string value => some (.string value)
  | _ => none

theorem Token.move_of_scalar? {token : Token} {value : Json} (h : token.scalar? = some value)
    (depth : Nat) : token.move depth = depth := by
  cases token <;> first | rfl | cases h

theorem Token.depth_of_scalar? {token : Token} {value : Json} (h : token.scalar? = some value) :
    value.depth = 0 := by
  cases token <;> cases h <;> simp only [Json.depth]

namespace Reader

/-- The ways in which a reader accepts a token. -/
inductive Accepts (room : Nat) : Reader → Token → Reader → Prop
  | scalar {frames : List Frame} {token : Token} {v : Json} (hv : token.scalar? = some v) :
    Accepts room (.value frames) token (.after v frames)
  | openArray {frames : List Frame} (hroom : frames.length < room) :
    Accepts room (.value frames) .openArray (.firstItem frames)
  | openObject {frames : List Frame} (hroom : frames.length < room) :
    Accepts room (.value frames) .openObject (.firstKey frames)
  | firstItem {frames : List Frame} {token : Token} {next : Reader}
    (hvalue : Accepts room (.value (.array [] :: frames)) token next) :
    Accepts room (.firstItem frames) token next
  | emptyArray {frames : List Frame} :
    Accepts room (.firstItem frames) .closeArray (.after (.array []) frames)
  | firstKey {frames : List Frame} {key : String} :
    Accepts room (.firstKey frames) (.string key) (.colon [] key frames)
  | emptyObject {frames : List Frame} :
    Accepts room (.firstKey frames) .closeObject (.after (.object []) frames)
  | nextKey {fields : Fields} {frames : List Frame} {key : String} :
    Accepts room (.nextKey fields frames) (.string key) (.colon fields key frames)
  | colon {fields : Fields} {frames : List Frame} {key : String} :
    Accepts room (.colon fields key frames) .colon (.value (.object fields key :: frames))
  | nextItem {v : Json} {items : List Json} {frames : List Frame} :
    Accepts room (.after v (.array items :: frames)) .comma (.value (.array (v :: items) :: frames))
  | closeArray {v : Json} {items : List Json} {frames : List Frame} :
    Accepts room (.after v (.array items :: frames)) .closeArray
      (.after (.array (v :: items).reverse) frames)
  | nextField {v : Json} {fields : Fields} {key : String} {frames : List Frame} :
    Accepts room (.after v (.object fields key :: frames)) .comma
      (.nextKey (fields.insert key v) frames)
  | closeObject {v : Json} {fields : Fields} {key : String} {frames : List Frame} :
    Accepts room (.after v (.object fields key :: frames)) .closeObject
      (.after (.object (fields.insert key v)) frames)

theorem accepts_stepValue {room : Nat} {frames : List Frame} {token : Token} {next : Reader}
    (h : stepValue room frames token = .ok next) : Accepts room (.value frames) token next := by
  unfold stepValue at h
  split at h
  case h_5 =>
    split at h
    case isTrue hroom =>
      cases h
      exact .openArray hroom
    case isFalse => cases h
  case h_6 =>
    split at h
    case isTrue hroom =>
      cases h
      exact .openObject hroom
    case isFalse => cases h
  case h_7 | h_8 => cases h
  all_goals
    cases h
    exact .scalar rfl

theorem stepKey_eq_ok {fields : Fields} {frames : List Frame} {token : Token} {next : Reader}
    (h : stepKey fields frames token = .ok next) :
    ∃ key, token = .string key ∧ next = .colon fields key frames := by
  unfold stepKey at h
  split at h
  case h_1 key =>
    cases h
    exact ⟨key, rfl, rfl⟩
  case h_2 | h_3 => cases h

/-- A step accepts a token in one of these ways. -/
theorem accepts_step {room : Nat} {reader next : Reader} {token : Token}
    (h : reader.step room token = .ok next) : Accepts room reader token next := by
  unfold step at h
  split at h
  case h_1 => exact accepts_stepValue h
  case h_2 =>
    cases h
    exact .emptyArray
  case h_3 => exact .firstItem (accepts_stepValue h)
  case h_5 =>
    obtain ⟨key, rfl, rfl⟩ := stepKey_eq_ok h
    exact .firstKey
  case h_6 =>
    obtain ⟨key, rfl, rfl⟩ := stepKey_eq_ok h
    exact .nextKey
  case h_12 => cases h
  all_goals
    cases h
    constructor

variable {room : Nat} {reader next : Reader} {token : Token}

/-- A reader moves as the token does. -/
theorem Accepts.depth_eq (h : Accepts room reader token next) :
    next.depth = token.move reader.depth := by
  induction h with
  | scalar hv => exact (Token.move_of_scalar? hv _).symm
  | firstItem _ ih => exact ih
  | _ => rfl

/-- A reader opens no more than it has room for. -/
theorem Accepts.depth_le (h : Accepts room reader token next) :
    next.depth ≤ max reader.depth room := by
  induction h with
  | firstItem _ ih => exact ih
  | _ =>
    simp only [depth, List.length_cons]
    omega

theorem Accepts.valid (h : Accepts room reader token next) (opened : Bool) (error : ReadError) :
    token ≠ .invalid opened error := by
  induction h with
  | scalar hv =>
    rintro rfl
    cases hv
  | firstItem _ ih => exact ih
  | _ => exact Token.noConfusion

/-! ### What a reader holds -/

end Reader

/-- The largest depth of the values in a frame. -/
def Frame.depth : Frame → Nat
  | .array items => depthItems items
  | .object fields _ => depthFields fields

/-- The deepest place in frames, counted from outside all of them. -/
def reachIn : List Frame → Nat
  | [] => 0
  | frame :: rest => max (rest.length + 1 + frame.depth) (reachIn rest)

/-- The deepest place in what a reader holds, counted from outside all frames. -/
def Reader.reach : Reader → Nat
  | .value frames => reachIn frames
  | .firstItem frames | .firstKey frames => max (frames.length + 1) (reachIn frames)
  | .nextKey fields frames | .colon fields _ frames =>
    max (frames.length + 1 + depthFields fields) (reachIn frames)
  | .after v frames => max (frames.length + v.depth) (reachIn frames)

theorem depthItems_append (first rest : List Json) :
    depthItems (first ++ rest) = max (depthItems first) (depthItems rest) := by
  induction first with
  | nil => simp only [List.nil_append, depthItems, Nat.zero_max]
  | cons item first ih => simp only [List.cons_append, depthItems, ih, Nat.max_assoc]

theorem depthItems_reverse (items : List Json) : depthItems items.reverse = depthItems items := by
  induction items with
  | nil => rfl
  | cons item items ih =>
    simp only [List.reverse_cons, depthItems_append, ih, depthItems, Nat.max_zero]
    exact Nat.max_comm _ _

theorem depthFields_insert (fields : Fields) (key : String) (value : Json) :
    depthFields (fields.insert key value) ≤ max (depthFields fields) value.depth := by
  induction fields with
  | nil => simp [Fields.insert, depthFields, depthField]
  | cons field fields ih =>
    obtain ⟨k, v⟩ := field
    rw [Fields.insert]
    split
    · simp only [depthFields, depthField]
      omega
    · split
      · simp only [depthFields, depthField]
        omega
      · simp only [depthFields] at ih ⊢
        omega

namespace Reader

variable {room other : Nat} {reader next : Reader} {token : Token} {tokens : List Token}
  {value : Json}

/-- A step puts nothing deeper than what was there or what is open after it. -/
theorem Accepts.reach_le (h : Accepts room reader token next) :
    next.reach ≤ max (max reader.depth reader.reach) next.depth := by
  induction h with
  | scalar hv =>
    simp only [reach, Token.depth_of_scalar? hv, depth]
    omega
  | firstItem _ ih =>
    simp only [reach, reachIn, Frame.depth, depthItems, depth, List.length_cons] at ih ⊢
    omega
  | @nextField v fields key frames | @closeObject v fields key frames =>
    have hinsert := depthFields_insert fields key v
    simp only [reach, reachIn, Frame.depth, Json.depth, depth, List.length_cons]
    omega
  | _ =>
    simp only [reach, reachIn, Frame.depth, Json.depth, depthItems, depthItems_reverse,
      depthFields, depth, List.length_cons]
    omega

/-- A reader that comes to a value accepts the first token and comes to it from there. -/
theorem run_cons_eq_ok (h : reader.run room (token :: tokens) = .ok value) :
    ∃ next, reader.step room token = .ok next ∧ next.run room tokens = .ok value := by
  rw [run] at h
  split at h
  case h_1 next hnext => exact ⟨next, hnext, h⟩
  case h_2 => cases h

/-- A value that is read reaches no deeper than the reader did and than its tokens open. -/
theorem depth_of_run (h : reader.run room tokens = .ok value) :
    value.depth ≤ max reader.reach (Token.peak reader.depth tokens) := by
  induction tokens generalizing reader with
  | nil =>
    rw [run] at h
    unfold result at h
    split at h
    · cases h
      simp only [reach, reachIn, List.length_nil]
      omega
    · cases h
  | cons token tokens ih =>
    obtain ⟨next, hnext, hrun⟩ := run_cons_eq_ok h
    have hstep := accepts_step hnext
    have hvalue := ih hrun
    have hreach := hstep.reach_le
    have hpeak := Token.le_peak next.depth tokens
    rw [hstep.depth_eq] at hvalue hreach hpeak
    rw [Token.peak]
    omega

/-- A reader that comes to a value met no invalid token and opened no more than it has room for. -/
theorem valid_of_run (h : reader.run room tokens = .ok value) :
    (∀ opened error, .invalid opened error ∉ tokens) ∧
      Token.peak reader.depth tokens ≤ max reader.depth room := by
  induction tokens generalizing reader with
  | nil => exact ⟨fun _ _ => List.not_mem_nil, Nat.le_max_left _ _⟩
  | cons token tokens ih =>
    obtain ⟨next, hnext, hrun⟩ := run_cons_eq_ok h
    have hstep := accepts_step hnext
    obtain ⟨hvalid, hpeak⟩ := ih hrun
    have hdepth := hstep.depth_le
    rw [hstep.depth_eq] at hpeak hdepth
    refine ⟨fun opened error hmem => ?_, ?_⟩
    · rcases List.mem_cons.1 hmem with hinvalid | hmem
      · exact hstep.valid opened error hinvalid.symm
      · exact hvalid opened error hmem
    · rw [Token.peak]
      omega

/-! ### The room of a reader -/

theorem stepValue_room {frames : List Frame} (hroom : token.move frames.length ≤ room)
    (hother : token.move frames.length ≤ other) :
    stepValue room frames token = stepValue other frames token := by
  unfold stepValue
  split
  case h_5 | h_6 =>
    simp only [Token.move] at hroom hother
    rw [if_pos (Nat.lt_of_succ_le hroom), if_pos (Nat.lt_of_succ_le hother)]
  all_goals rfl

theorem step_room (hroom : token.move reader.depth ≤ room)
    (hother : token.move reader.depth ≤ other) :
    reader.step room token = reader.step other token := by
  unfold step
  split
  case h_1 => exact stepValue_room hroom hother
  case h_3 => exact stepValue_room hroom hother
  all_goals rfl

/-- Tokens are read alike in all rooms that hold what they open. -/
theorem run_room (hroom : Token.peak reader.depth tokens ≤ room)
    (hother : Token.peak reader.depth tokens ≤ other) :
    reader.run room tokens = reader.run other tokens := by
  induction tokens generalizing reader with
  | nil => rfl
  | cons token tokens ih =>
    rw [Token.peak] at hroom hother
    have hmove := Token.le_peak (token.move reader.depth) tokens
    have hstep : reader.step room token = reader.step other token :=
      step_room (by omega) (by omega)
    rw [run, run, hstep]
    split
    case h_1 next hnext =>
      rw [← (accepts_step hnext).depth_eq] at hroom hother
      exact ih (by omega) (by omega)
    case h_2 => rfl

end Reader

/-! ### Reading a text -/

variable {room other : Nat} {text : String} {value : Json}

/-- **A value nests no deeper than the text it was read from.** -/
theorem depth_of_read (h : read room text = .ok value) : value.depth ≤ nesting text := by
  have hrun := Reader.depth_of_run h
  have hpeak := peak_tokens_le text.toList 0
  simp only [Reader.reach, reachIn, Reader.depth, List.length_nil, Nat.zero_max] at hrun
  exact Nat.le_trans hrun hpeak

/-- A text is read alike in every room that holds its nesting. -/
theorem read_eq_of_nesting_le (hroom : nesting text ≤ room) (hother : nesting text ≤ other) :
    read room text = read other text := by
  have hpeak := peak_tokens_le text.toList 0
  exact Reader.run_room (Nat.le_trans hpeak hroom) (Nat.le_trans hpeak hother)

/-- A text that is read in a room nests no deeper than it holds. -/
theorem nesting_le_of_read (h : read room text = .ok value) : nesting text ≤ room := by
  obtain ⟨hvalid, hpeak⟩ := Reader.valid_of_run h
  rw [Reader.depth, List.length_nil, peak_tokens hvalid, Nat.zero_max] at hpeak
  exact hpeak

end Folio.Json
