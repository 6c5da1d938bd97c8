import Folio.Json.Value
import Folio.Shortest

/-!
# Numbers of a JSON text

A number is read into a 64-bit significand and a power of ten. Digits that no longer fit into the
significand are dropped; those before the point raise the power instead. Without fraction and
exponent a number that fits is an integer; every other number is the significand, as a double,
multiplied or divided by a power of ten that is itself a double.

## Main definitions

* `Folio.Json.Numeral`: the parts of a number as they stand in the text.
* `Folio.Json.Numeral.value?`: the number they denote, none beyond the range of the doubles.
* `Folio.Json.Number.text`: the text of a number.
-/

namespace Folio.Json

/-- The parts of a number in a text. -/
structure Numeral where
  /-- Whether a minus sign stands in front. -/
  negative : Bool
  /-- The digits before the point. -/
  whole : List Nat
  /-- The digits after the point, when there is one. -/
  fraction : Option (List Nat)
  /-- The sign, negative or not, and the digits of the exponent, when there is one. -/
  exponent : Option (Bool × List Nat)
  deriving DecidableEq, Repr

/-- The largest significand. -/
def maxSignificand : Nat := 1 <<< 64 - 1

/-- Appends digits to a significand while they fit: the new significand, how many digits went in
and how many were dropped. -/
def absorb (significand : Nat) : List Nat → Nat × Nat × Nat
  | [] => (significand, 0, 0)
  | d :: ds =>
    if significand * 10 + d ≤ maxSignificand then
      let (s, used, dropped) := absorb (significand * 10 + d) ds
      (s, used + 1, dropped)
    else (significand, 0, ds.length + 1)

/-- The double nearest to a power of ten up to the 308th. -/
def powerOfTen? (k : Nat) : Option Binary64 := Binary64.ofNat? (Nat.pow 10 k)

/-- Moves a double down by `10 ^ power`, at most 308 powers of ten at a time. -/
def scaleDown : Nat → Binary64 → Nat → Option Binary64
  | 0, _, _ => some .zero
  | fuel + 1, x, power =>
    if power ≤ 308 then (powerOfTen? power).bind x.div?
    else if x.isZero then some x
    else do scaleDown fuel (← x.div? (← powerOfTen? 308)) (power - 308)

/-- The double of a significand and a power of ten. -/
def scale? (significand : Nat) (power : Int) : Option Binary64 := do
  let x ← Binary64.ofNat? significand
  if power < 0 then scaleDown 4 x (-power).toNat
  else if x.isZero then some x
  else if power ≤ 308 then x.mul? (← powerOfTen? power.toNat)
  else none

/-- The value of digits in base ten. -/
def digitsValue (ds : List Nat) : Nat := ds.foldl (fun n d => n * 10 + d) 0

/-- The number that a numeral denotes. -/
def Numeral.value? (n : Numeral) : Option Number :=
  let (significand, _, dropped) := absorb 0 n.whole
  let double (s : Nat) (power : Int) : Option Number :=
    (scale? s power).map fun x => .double (x.withSign n.negative)
  match n.fraction, n.exponent with
  | none, none =>
    if dropped > 0 then double significand dropped
    else if !n.negative then some (.integer significand)
    else if 0 < significand ∧ significand ≤ 1 <<< 63 then some (.integer (-(significand : Int)))
    else double significand 0
  | fraction, exponent =>
    let (s, used, _) := absorb significand (fraction.getD [])
    let power : Int := (dropped : Int) - (used : Int)
    match exponent with
    | none => double s power
    | some (down, ds) =>
      let e : Int := digitsValue ds
      double s (if down then power - e else power + e)

/-- A double is written positionally from the fifth place after the point to the sixteenth before
it, and otherwise with a signed exponent after the letter `e`. -/
def numberFormat : DecimalFormat := ⟨-5, 15, "e", "+"⟩

/-- The text of a number. -/
def Number.text : Number → String
  | .integer value => toString value
  | .double value => numberFormat.text value

end Folio.Json
