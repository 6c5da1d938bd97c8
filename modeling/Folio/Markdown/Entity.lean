import Folio.Markdown.EntityNames

/-!
# Character references

A reference is an ampersand, a name or a number after `#`, and a semicolon. A number that is no
character, or is zero, stands for U+FFFD.

## Main definitions

* `Folio.Markdown.reference?`: the reference at the start of a text.
-/

namespace Folio.Markdown

/-- The text after the first `n` characters, as far as it is no longer than `cs`. -/
def resume (cs rest : List Char) : List Char :=
  cs.drop (cs.length - rest.length)

theorem length_resume (cs rest : List Char) : (resume cs rest).length ≤ cs.length := by
  simp [resume]

/-- The value of a digit in a base up to sixteen. -/
def digitValue? (base : Nat) (c : Char) : Option Nat :=
  let value :=
    if '0' ≤ c ∧ c ≤ '9' then c.toNat - '0'.toNat
    else if 'a' ≤ c ∧ c ≤ 'f' then c.toNat - 'a'.toNat + 10
    else if 'A' ≤ c ∧ c ≤ 'F' then c.toNat - 'A'.toNat + 10
    else base
  if value < base then some value else none

/-- At most `limit` digits at the start of a text: how many there are, their value, and the text
after them. -/
def takeNumber (base : Nat) : (limit value count : Nat) → List Char → Nat × Nat × List Char
  | 0, value, count, cs => (count, value, cs)
  | _ + 1, value, count, [] => (count, value, [])
  | limit + 1, value, count, c :: cs =>
    match digitValue? base c with
    | some d => takeNumber base limit (value * base + d) (count + 1) cs
    | none => (count, value, c :: cs)

/-- The character with a code point, or U+FFFD. -/
def charOfCode (code : Nat) : Char :=
  if code ≠ 0 ∧ code.isValidChar then Char.ofNat code else '\ufffd'

/-- What a numeric reference stands for, given the text after `&#`, and the text after it. -/
def numericReference? (cs : List Char) : Option (List Char × List Char) :=
  let (count, value, rest) :=
    match cs with
    | 'x' :: digits | 'X' :: digits => takeNumber 16 6 0 0 digits
    | digits => takeNumber 10 7 0 0 digits
  match rest with
  | ';' :: after => if count = 0 then none else some ([charOfCode value], after)
  | _ => none

/-- What the reference at the start of a text stands for, given the text after its ampersand, and
the text after it. -/
def reference? (cs : List Char) : Option (List Char × List Char) :=
  match cs with
  | '#' :: number => numericReference? number
  | _ =>
    let name := cs.takeWhile Char.isAlphanum
    match name, cs.drop name.length with
    | c :: _, ';' :: after =>
      ((entityNames c).lookup (String.ofList name)).map fun codes => (codes.map Char.ofNat, after)
    | _, _ => none

end Folio.Markdown
