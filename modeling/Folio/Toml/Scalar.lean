import Folio.Binary64
import Folio.Text.Blank
import Folio.Toml.Value

/-!
# Numbers, truth values and dates of a TOML text

## Main definitions

* `Folio.Toml.integer?`, `Folio.Toml.isFloat`, `Folio.Toml.isDateTime`: the kinds of values that are
  written without marks.
* `Folio.Toml.scalar?`: the value of such a text.
-/

namespace Folio.Toml

open Text

/-- The value of a digit in a base up to sixteen. -/
def digitIn? (base : Nat) (c : Char) : Option Nat :=
  (hexValue? c).filter (· < base)

/-- The value of digits in a base; single underscores may stand between them. -/
def digits? (base : Nat) (cs : List Char) : Option Nat :=
  let groups := splitRuns (· == '_') [] cs
  if groups.any List.isEmpty then none
  else groups.flatten.foldlM (fun n c => (digitIn? base c).map (n * base + ·)) 0

/-- A sign at the start of a text: whether it is negative, and the text after it. -/
def sign (cs : List Char) : Bool × List Char :=
  match cs with
  | '-' :: rest => (true, rest)
  | '+' :: rest => (false, rest)
  | _ => (false, cs)

/-- The value of decimal digits without a leading zero. -/
def decimal? (cs : List Char) : Option Nat :=
  match cs with
  | '0' :: _ :: _ => none
  | _ => digits? 10 cs

/-- The value of a text as an integer. Other bases than ten have no sign. -/
def integer? (cs : List Char) : Option Int :=
  let value : Option Int :=
    match cs with
    | '0' :: 'x' :: rest => (digits? 16 rest).map Int.ofNat
    | '0' :: 'o' :: rest => (digits? 8 rest).map Int.ofNat
    | '0' :: 'b' :: rest => (digits? 2 rest).map Int.ofNat
    | _ =>
      let (negative, rest) := sign cs
      (decimal? rest).map fun n => if negative then -(n : Int) else n
  value.filter fun n => -Int.ofNat (1 <<< 127) ≤ n ∧ n < Int.ofNat (1 <<< 128)

/-- Whether a number of `count` digits with a value, times a power of ten, is in the range of the
doubles. -/
def inRange (value count : Nat) (power : Int) : Bool :=
  let place : Int := count + power
  if value = 0 || place ≤ 308 then true
  else if place ≥ 310 + count then false
  else (Binary64.ofRatio? (value * Nat.pow 10 power.toNat) (Nat.pow 10 (-power).toNat)).isSome

/-- Whether a text is a number with a fraction or an exponent, or one of the special numbers. -/
def isFloat (cs : List Char) : Bool :=
  let (_, cs) := sign cs
  if cs == "inf".toList || cs == "nan".toList then true
  else
    let isE (c : Char) : Bool := c == 'e' || c == 'E'
    let mantissa := cs.takeWhile (!isE ·)
    let exponent := cs.drop (mantissa.length + 1)
    let whole := mantissa.takeWhile (· != '.')
    let fraction := mantissa.drop (whole.length + 1)
    let hasFraction := mantissa.length > whole.length
    let hasExponent := cs.length > mantissa.length
    let (down, exponentDigits) := sign exponent
    match decimal? whole, if hasFraction then digits? 10 fraction else some 0,
      if hasExponent then digits? 10 exponentDigits else some 0 with
    | some _, some _, some e =>
      let isDigit (c : Char) : Bool := c.isDigit
      let places := (fraction.filter isDigit).length
      let all := (whole ++ fraction).filter isDigit
      let value := all.foldl (fun n c => n * 10 + (c.toNat - '0'.toNat)) 0
      let power : Int := (if down then -(e : Int) else e) - places
      (hasFraction || hasExponent) && inRange value all.length power
    | _, _, _ => false

/-- The value of exactly `n` decimal digits at the start of a text, and the text after them. -/
def fixed? (n : Nat) (cs : List Char) : Option (Nat × List Char) :=
  let digits := cs.take n
  if digits.length = n && digits.all Char.isDigit then
    some (digits.foldl (fun v c => v * 10 + (c.toNat - '0'.toNat)) 0, cs.drop n)
  else none

/-- The text after a character. -/
def after? (c : Char) : List Char → Option (List Char)
  | [] => none
  | d :: cs => if c == d then some cs else none

/-- How many days a month has. -/
def daysIn (year month : Nat) : Nat :=
  if month = 2 then
    if year % 4 = 0 && (year % 100 ≠ 0 || year % 400 = 0) then 29 else 28
  else if month = 4 || month = 6 || month = 9 || month = 11 then 30
  else 31

/-- The text after a date. -/
def date? (cs : List Char) : Option (List Char) := do
  let (year, rest) ← fixed? 4 cs
  let (month, rest) ← fixed? 2 (← after? '-' rest)
  let (day, rest) ← fixed? 2 (← after? '-' rest)
  if 1 ≤ month ∧ month ≤ 12 ∧ 1 ≤ day ∧ day ≤ daysIn year month then some rest else none

/-- The text after a time of day; seconds may be missing, and have any number of places. -/
def time? (cs : List Char) : Option (List Char) := do
  let (hour, rest) ← fixed? 2 cs
  let (minute, rest) ← fixed? 2 (← after? ':' rest)
  if hour > 23 ∨ minute > 59 then none
  match rest with
  | ':' :: rest =>
    let (second, rest) ← fixed? 2 rest
    if second > 60 then none
    match rest with
    | '.' :: places =>
      let n := (places.takeWhile Char.isDigit).length
      if n = 0 then none else some (places.drop n)
    | _ => some rest
  | _ => some rest

/-- Whether a text is an offset from universal time, or nothing. -/
def isOffset (cs : List Char) : Bool :=
  match cs with
  | [] | ['Z'] | ['z'] => true
  | c :: rest =>
    let found : Option Bool := do
      let (hour, rest) ← fixed? 2 rest
      let (minute, rest) ← fixed? 2 (← after? ':' rest)
      some (hour ≤ 23 && minute ≤ 59 && rest.isEmpty)
    (c == '+' || c == '-') && found.getD false

/-- Whether a text is a date, a time of day, or both, perhaps with an offset. -/
def isDateTime (cs : List Char) : Bool :=
  match date? cs with
  | some [] => true
  | some (c :: rest) =>
    (c == 'T' || c == 't' || c == ' ') && ((time? rest).map isOffset).getD false
  | none => time? cs == some []

/-- The value of a text that stands without marks. -/
def scalar? (cs : List Char) : Option Value :=
  if cs == "true".toList then some (.boolean true)
  else if cs == "false".toList then some (.boolean false)
  else
    match integer? cs with
    | some n => some (.integer n)
    | none =>
      if isFloat cs then some (.float (String.ofList cs))
      else if isDateTime cs then some (.dateTime (String.ofList cs))
      else none

end Folio.Toml
