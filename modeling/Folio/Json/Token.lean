import Folio.Json.NumberText

/-!
# Tokens of a JSON text

A text is cut into brackets, separators, literals, numbers and strings. Where no token can be
read, a last token says why, and whether it began as a string, so that a reader that expects
something else there can complain about that instead.

## Main definitions

* `Folio.Json.ReadError`: the text ends too early, or is not JSON.
* `Folio.Json.Token`: a token.
* `Folio.Json.tokens`: the tokens of a text.
-/

namespace Folio.Json

/-- Why a text cannot be read. -/
inductive ReadError where
  /-- The text ends where more has to follow. -/
  | endOfText
  /-- The text is not JSON. -/
  | malformed
  /-- More arrays and objects are open than the reader has room for. -/
  | tooDeep
  deriving DecidableEq, Repr

/-- A token of a JSON text. -/
inductive Token where
  | openArray
  | closeArray
  | openObject
  | closeObject
  | comma
  | colon
  | null
  | bool (value : Bool)
  | number (value : Number)
  | string (value : String)
  /-- No token; `opened` says that a quotation mark stood at its start. -/
  | invalid (opened : Bool) (error : ReadError)
  deriving DecidableEq, Repr

/-- The white space between tokens. -/
def isGap (c : Char) : Bool := c == ' ' || c == '\n' || c == '\t' || c == '\r'

/-- The value of a decimal digit. -/
def digit? (c : Char) : Option Nat :=
  if '0' ≤ c ∧ c ≤ '9' then some (c.toNat - '0'.toNat) else none

/-- The value of a hexadecimal digit. -/
def hexDigit? (c : Char) : Option Nat :=
  if '0' ≤ c ∧ c ≤ '9' then some (c.toNat - '0'.toNat)
  else if 'a' ≤ c ∧ c ≤ 'f' then some (c.toNat - 'a'.toNat + 10)
  else if 'A' ≤ c ∧ c ≤ 'F' then some (c.toNat - 'A'.toNat + 10)
  else none

/-- The value of four hexadecimal digits. -/
def hexQuad? (a b c d : Char) : Option Nat := do
  some (((← hexDigit? a) * 16 + (← hexDigit? b)) * 256 + ((← hexDigit? c) * 16 + (← hexDigit? d)))

/-- The complaint about an escape without four digits: with fewer than four bytes left the text
ends too early. -/
def quadError (rest : List Char) : ReadError :=
  if (String.ofList rest).utf8ByteSize < 4 then .endOfText else .malformed

/-- The character of a one-letter escape. -/
def escaped? : Char → Option Char
  | '"' => some '"'
  | '\\' => some '\\'
  | '/' => some '/'
  | 'b' => some '\x08'
  | 'f' => some '\x0c'
  | 'n' => some '\n'
  | 'r' => some '\r'
  | 't' => some '\t'
  | _ => none

/-- Whether a code unit is the first half of a surrogate pair. -/
def isLeading (unit : Nat) : Bool := 0xD800 ≤ unit && unit ≤ 0xDBFF

/-- Whether a code unit is the second half of a surrogate pair. -/
def isTrailing (unit : Nat) : Bool := 0xDC00 ≤ unit && unit ≤ 0xDFFF

/-- The character of a surrogate pair. -/
def pairChar (leading trailing : Nat) : Char :=
  Char.ofNat ((leading - 0xD800) * 0x400 + (trailing - 0xDC00) + 0x10000)

/-- What an escape after the letter `u` stands for, and the text after it. -/
def unicodeEscape : List Char → Except ReadError (Char × List Char)
  | a :: b :: c :: d :: rest =>
    match hexQuad? a b c d with
    | none => .error (quadError (a :: b :: c :: d :: rest))
    | some unit =>
      if isTrailing unit then .error .malformed
      else if isLeading unit then
        match rest with
        | [] => .error .endOfText
        | '\\' :: [] => .error .endOfText
        | '\\' :: 'u' :: e :: f :: g :: h :: rest' =>
          match hexQuad? e f g h with
          | none => .error (quadError (e :: f :: g :: h :: rest'))
          | some second =>
            if isTrailing second then .ok (pairChar unit second, rest') else .error .malformed
        | '\\' :: 'u' :: rest' => .error (quadError rest')
        | _ => .error .malformed
      else .ok (Char.ofNat unit, rest)
  | rest => .error (quadError rest)

theorem length_unicodeEscape {cs rest : List Char} {c : Char}
    (h : unicodeEscape cs = .ok (c, rest)) : rest.length < cs.length := by
  unfold unicodeEscape at h
  split at h
  · split at h
    · simp at h
    · split at h
      · simp at h
      · split at h
        · split at h <;> try simp at h
          split at h
          · simp at h
          · split at h
            · simp only [Except.ok.injEq, Prod.mk.injEq] at h
              obtain ⟨-, rfl⟩ := h
              simp only [List.length_cons]
              omega
            · simp at h
        · simp only [Except.ok.injEq, Prod.mk.injEq] at h
          obtain ⟨-, rfl⟩ := h
          simp only [List.length_cons]
          omega
  · simp at h

/-- The characters of a string literal after its opening quotation mark, in reverse, and the text
after its closing one. -/
def stringBody (acc : List Char) (cs : List Char) : Except ReadError (List Char × List Char) :=
  match cs with
  | [] => .error .endOfText
  | '"' :: rest => .ok (acc, rest)
  | '\\' :: rest =>
    match rest with
    | [] => .error .endOfText
    | 'u' :: rest' =>
      match _h : unicodeEscape rest' with
      | .error e => .error e
      | .ok (c, rest'') => stringBody (c :: acc) rest''
    | c :: rest' =>
      match escaped? c with
      | none => .error .malformed
      | some d => stringBody (d :: acc) rest'
  | c :: rest => if c.toNat < 0x20 then .error .malformed else stringBody (c :: acc) rest
termination_by cs.length
decreasing_by
  all_goals simp only [List.length_cons]
  · have := length_unicodeEscape _h
    omega
  all_goals omega

/-- The digits at the start of a text, and the text after them. -/
def takeDigits : List Char → List Nat × List Char
  | [] => ([], [])
  | c :: cs =>
    match digit? c with
    | none => ([], c :: cs)
    | some d =>
      let (ds, rest) := takeDigits cs
      (d :: ds, rest)

/-- At least one digit. -/
def someDigits (cs : List Char) : Except ReadError (List Nat × List Char) :=
  match takeDigits cs with
  | ([], []) => .error .endOfText
  | ([], _ :: _) => .error .malformed
  | (ds, rest) => .ok (ds, rest)

/-- The fraction at the start of a text, if a point stands there. -/
def takeFraction (cs : List Char) : Except ReadError (Option (List Nat) × List Char) :=
  match cs with
  | '.' :: rest => do
    let (ds, rest) ← someDigits rest
    .ok (some ds, rest)
  | _ => .ok (none, cs)

/-- The sign of an exponent: whether it is negative, and the text after it. -/
def takeSign : List Char → Bool × List Char
  | '+' :: rest => (false, rest)
  | '-' :: rest => (true, rest)
  | cs => (false, cs)

/-- The exponent at the start of a text, if its letter stands there. -/
def takeExponent (cs : List Char) : Except ReadError (Option (Bool × List Nat) × List Char) :=
  match cs with
  | c :: rest =>
    if c = 'e' ∨ c = 'E' then do
      let (down, rest) := takeSign rest
      let (ds, rest) ← someDigits rest
      .ok (some (down, ds), rest)
    else .ok (none, cs)
  | [] => .ok (none, [])

/-- The numeral at the start of a text, after its sign. A zero in front of other digits is no
numeral. -/
def takeNumeral (negative : Bool) (cs : List Char) : Except ReadError (Numeral × List Char) := do
  let (whole, rest) ← someDigits cs
  if whole.head? = some 0 ∧ whole.length > 1 then .error .malformed
  let (fraction, rest) ← takeFraction rest
  let (exponent, rest) ← takeExponent rest
  .ok (⟨negative, whole, fraction, exponent⟩, rest)

/-- The number at the start of a text, after its sign. -/
def takeNumber (negative : Bool) (cs : List Char) : Except ReadError (Number × List Char) := do
  let (numeral, rest) ← takeNumeral negative cs
  match numeral.value? with
  | some n => .ok (n, rest)
  | none => .error .malformed

/-- The rest of a literal, whose first letter stood before. -/
def takeWord : List Char → List Char → Except ReadError (List Char)
  | [], cs => .ok cs
  | _ :: _, [] => .error .endOfText
  | w :: ws, c :: cs => if c = w then takeWord ws cs else .error .malformed

/-- The token made of what was read, or one that says why nothing was. -/
def finish {α : Type} (opened : Bool) (make : α → Token) :
    Except ReadError (α × List Char) → Token × List Char
  | .ok (value, rest) => (make value, rest)
  | .error e => (.invalid opened e, [])

/-- A literal after its first letter. -/
def literal (value : Token) (ws cs : List Char) : Token × List Char :=
  finish false (fun _ => value) ((takeWord ws cs).map fun rest => ((), rest))

/-- The token that starts with a character, and the text after it. -/
def token (c : Char) (cs : List Char) : Token × List Char :=
  match c with
  | '[' => (.openArray, cs)
  | ']' => (.closeArray, cs)
  | '\x7b' => (.openObject, cs)
  | '\x7d' => (.closeObject, cs)
  | ',' => (.comma, cs)
  | ':' => (.colon, cs)
  | 'n' => literal .null ['u', 'l', 'l'] cs
  | 't' => literal (.bool true) ['r', 'u', 'e'] cs
  | 'f' => literal (.bool false) ['a', 'l', 's', 'e'] cs
  | '"' => finish true (fun body => .string (String.ofList body.reverse)) (stringBody [] cs)
  | '-' => finish false .number (takeNumber true cs)
  | c =>
    if (digit? c).isSome then finish false .number (takeNumber false (c :: cs))
    else (.invalid false .malformed, [])

theorem length_stringBody {acc cs body rest : List Char}
    (h : stringBody acc cs = .ok (body, rest)) : rest.length < cs.length := by
  fun_induction stringBody acc cs with
  | case1 => simp at h
  | case2 => simp_all
  | case3 => simp at h
  | case4 => simp at h
  | case5 acc rest' c rest'' hu ih =>
    have := length_unicodeEscape hu
    have := ih h
    simp only [List.length_cons]
    omega
  | case6 => simp at h
  | case7 acc c rest' hne d hd ih =>
    have := ih h
    simp only [List.length_cons]
    omega
  | case8 => simp at h
  | case9 acc c rest' h1 h2 hlt ih =>
    have := ih h
    simp only [List.length_cons]
    omega

theorem length_takeDigits (cs : List Char) :
    (takeDigits cs).1.length + (takeDigits cs).2.length = cs.length := by
  fun_induction takeDigits cs <;> simp_all +arith

theorem length_someDigits {cs rest : List Char} {ds : List Nat}
    (h : someDigits cs = .ok (ds, rest)) : rest.length < cs.length := by
  have hlen := length_takeDigits cs
  unfold someDigits at h
  rcases hd : takeDigits cs with ⟨_ | ⟨d, ds'⟩, rest'⟩
  · cases rest' <;> simp [hd] at h
  · simp only [hd, Except.ok.injEq, Prod.mk.injEq] at h
    obtain ⟨-, rfl⟩ := h
    simp only [hd, List.length_cons] at hlen
    omega

theorem length_takeFraction {cs rest : List Char} {fraction : Option (List Nat)}
    (h : takeFraction cs = .ok (fraction, rest)) : rest.length ≤ cs.length := by
  unfold takeFraction at h
  split at h
  · rename_i rest'
    cases hd : someDigits rest' with
    | error e => simp [hd, bind, Except.bind] at h
    | ok r =>
      have := length_someDigits hd
      simp only [hd, bind, Except.bind, Except.ok.injEq, Prod.mk.injEq] at h
      obtain ⟨-, rfl⟩ := h
      simp only [List.length_cons]
      omega
  · simp only [Except.ok.injEq, Prod.mk.injEq] at h
    simp [h.2]

theorem length_takeSign (cs : List Char) : (takeSign cs).2.length ≤ cs.length := by
  unfold takeSign
  split <;> simp

theorem length_takeExponent {cs rest : List Char} {exponent : Option (Bool × List Nat)}
    (h : takeExponent cs = .ok (exponent, rest)) : rest.length ≤ cs.length := by
  unfold takeExponent at h
  split at h
  · rename_i c cs'
    split at h
    · have hs := length_takeSign cs'
      cases hd : someDigits (takeSign cs').2 with
      | error e => simp [hd, bind, Except.bind] at h
      | ok r =>
        have := length_someDigits hd
        simp only [hd, bind, Except.bind, Except.ok.injEq, Prod.mk.injEq] at h
        obtain ⟨-, rfl⟩ := h
        simp only [List.length_cons]
        omega
    · simp only [Except.ok.injEq, Prod.mk.injEq] at h
      simp [h.2]
  · simp only [Except.ok.injEq, Prod.mk.injEq] at h
    simp [h.2]

theorem length_takeNumeral {negative : Bool} {cs rest : List Char} {n : Numeral}
    (h : takeNumeral negative cs = .ok (n, rest)) : rest.length < cs.length := by
  unfold takeNumeral at h
  cases h1 : someDigits cs with
  | error e => simp [h1, bind, Except.bind] at h
  | ok r1 =>
    have l1 := length_someDigits h1
    simp only [h1, bind, Except.bind] at h
    split at h
    · simp at h
    · cases h2 : takeFraction r1.2 with
      | error e => simp [h2] at h
      | ok r2 =>
        have l2 := length_takeFraction h2
        simp only [h2] at h
        cases h3 : takeExponent r2.2 with
        | error e => simp [h3] at h
        | ok r3 =>
          have l3 := length_takeExponent h3
          simp only [h3, Except.ok.injEq, Prod.mk.injEq] at h
          obtain ⟨-, rfl⟩ := h
          omega

theorem length_takeNumber {negative : Bool} {cs rest : List Char} {n : Number}
    (h : takeNumber negative cs = .ok (n, rest)) : rest.length < cs.length := by
  unfold takeNumber at h
  cases h1 : takeNumeral negative cs with
  | error e => simp [h1, bind, Except.bind] at h
  | ok r =>
    have l1 := length_takeNumeral h1
    simp only [h1, bind, Except.bind] at h
    split at h
    · simp only [Except.ok.injEq, Prod.mk.injEq] at h
      obtain ⟨-, rfl⟩ := h
      exact l1
    · simp at h

theorem length_takeWord {ws cs rest : List Char} (h : takeWord ws cs = .ok rest) :
    rest.length ≤ cs.length := by
  fun_induction takeWord ws cs with
  | case1 => simp_all
  | case2 => simp at h
  | case3 w ws cs ih => exact Nat.le_succ_of_le (ih h)
  | case4 => simp at h

theorem length_finish {α : Type} {opened : Bool} {make : α → Token}
    {result : Except ReadError (α × List Char)} {n : Nat}
    (h : ∀ value rest, result = .ok (value, rest) → rest.length ≤ n) :
    (finish opened make result).2.length ≤ n := by
  unfold finish
  split
  · exact h _ _ rfl
  · exact Nat.zero_le _

theorem length_literal (value : Token) (ws cs : List Char) :
    (literal value ws cs).2.length ≤ cs.length := by
  refine length_finish fun _ rest h => ?_
  cases hw : takeWord ws cs with
  | error e => simp [hw, Except.map] at h
  | ok rest' =>
    simp only [hw, Except.map, Except.ok.injEq, Prod.mk.injEq] at h
    exact h.2 ▸ length_takeWord hw

/-- A token takes at least its first character. -/
theorem length_token (c : Char) (cs : List Char) : (token c cs).2.length ≤ cs.length := by
  unfold token
  split
  all_goals first | exact Nat.le_refl _ | exact length_literal .. | skip
  · exact length_finish fun _ _ h => Nat.le_of_lt (length_stringBody h)
  · exact length_finish fun _ _ h => Nat.le_of_lt (length_takeNumber h)
  · split
    · exact length_finish fun _ _ h => Nat.le_of_lt_succ (length_takeNumber h)
    · exact Nat.zero_le _

/-- The tokens of a text, up to and with the first that is invalid. -/
def tokens (cs : List Char) : List Token :=
  match cs with
  | [] => []
  | c :: cs => if isGap c then tokens cs else (token c cs).1 :: tokens (token c cs).2
termination_by cs.length
decreasing_by
  · simp
  · exact Nat.lt_succ_of_le (length_token c cs)

end Folio.Json
