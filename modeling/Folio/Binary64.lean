/-!
# Binary floating-point numbers of double precision

A finite double is a sign, a significand below 2^53 and an exponent of two. Arithmetic is exact
arithmetic on natural numbers followed by one rounding to the nearest double, a tie going to the
even significand. There are no infinities: an operation whose result is out of range has none.

## Main definitions

* `Folio.Binary64`: a finite double.
* `Folio.Binary64.ofRatio?`: the double nearest to a quotient.
* `Folio.Binary64.mul?`, `Folio.Binary64.div?`: product and quotient of magnitudes.
* `Folio.Binary64.toNat64`: the integer part, cut off at the largest 64-bit number.
-/

namespace Folio

/-- The finite number `significand * 2 ^ exponent`, negated when `negative` is set. -/
structure Binary64 where
  /-- The sign, which zero has too. -/
  negative : Bool
  /-- A natural number below 2^53. -/
  significand : Nat
  /-- The power of two, from -1074 to 971. -/
  exponent : Int
  deriving DecidableEq, Repr

namespace Binary64

/-- The smallest exponent. -/
def minExponent : Int := -1074

/-- The largest exponent. -/
def maxExponent : Int := 971

/-- The least significand of fifty-three bits. -/
def leadingBit : Nat := 1 <<< 52

/-- Zero, without a sign. -/
def zero : Binary64 := ⟨false, 0, minExponent⟩

/-- Whether this is zero, of either sign. -/
def isZero (x : Binary64) : Bool := x.significand == 0

/-- The number with the sign given. -/
def withSign (x : Binary64) (negative : Bool) : Binary64 := { x with negative }

/-- The quotient `num / (den * 2 ^ exponent)` rounded to the nearest integer, a tie to even. -/
def roundScaled (num den : Nat) (exponent : Int) : Nat :=
  let n := num <<< (-exponent).toNat
  let d := den <<< exponent.toNat
  let q := n / d
  let r := n % d
  if 2 * r > d || (2 * r == d && q % 2 == 1) then q + 1 else q

/-- The integer part of `num / (den * 2 ^ exponent)`. -/
def floorScaled (num den : Nat) (exponent : Int) : Nat :=
  (num <<< (-exponent).toNat) / (den <<< exponent.toNat)

/-- The exponent with which a positive quotient has fifty-three significant bits, or the smallest
exponent where that one is smaller still. -/
def exponentOf (num den : Nat) : Int :=
  let guess : Int := (Nat.log2 num : Int) - (Nat.log2 den : Int) - 52
  let fitted := if floorScaled num den guess < leadingBit then guess - 1 else guess
  if fitted < minExponent then minExponent else fitted

/-- The double nearest to `num / den`; none when that is beyond the largest double. -/
def ofRatio? (num den : Nat) : Option Binary64 :=
  if num = 0 then some zero
  else
    let exponent := exponentOf num den
    let significand := roundScaled num den exponent
    let rounded : Binary64 :=
      if significand = 2 * leadingBit then ⟨false, leadingBit, exponent + 1⟩
      else ⟨false, significand, exponent⟩
    if rounded.exponent > maxExponent then none else some rounded

/-- The double nearest to a natural number. -/
def ofNat? (n : Nat) : Option Binary64 := ofRatio? n 1

/-- The magnitude as a quotient of natural numbers. -/
def ratio (x : Binary64) : Nat × Nat :=
  (x.significand <<< x.exponent.toNat, 1 <<< (-x.exponent).toNat)

/-- The product of two magnitudes. -/
def mul? (x y : Binary64) : Option Binary64 :=
  ofRatio? (x.ratio.1 * y.ratio.1) (x.ratio.2 * y.ratio.2)

/-- The quotient of two magnitudes, of which the second is not zero. -/
def div? (x y : Binary64) : Option Binary64 :=
  ofRatio? (x.ratio.1 * y.ratio.2) (x.ratio.2 * y.ratio.1)

/-- The integer part of the magnitude, at most the largest 64-bit number. -/
def toNat64 (x : Binary64) : Nat :=
  Nat.min (x.ratio.1 / x.ratio.2) (1 <<< 64 - 1)

end Binary64

end Folio
