import Folio.Binary64

/-!
# The shortest decimal text of a double

Among the decimal numbers that round to a given double, the one with the fewest digits is chosen,
and of several the nearest to the double. For each number of digits only the two grid points next
to the double need a test: if any point of a grid lies in the interval that rounds to the double,
one of these two does.

## Main definitions

* `Folio.Binary64.shortest`: the digits and the exponent of ten.
* `Folio.DecimalFormat`: how digits and exponent become text.
-/

namespace Folio

namespace Binary64

/-- Whether the decimal number `digits * 10 ^ power` rounds to the double `x`, the sign aside. -/
def roundsTo (x : Binary64) (digits : Nat) (power : Int) : Bool :=
  match ofRatio? (digits * Nat.pow 10 power.toNat) (Nat.pow 10 (-power).toNat) with
  | some y => y.significand == x.significand && (y.isZero || y.exponent == x.exponent)
  | none => false

/-- The power of ten of the first digit of a positive quotient. -/
def leadingPower (num den : Nat) : Int :=
  if den ≤ num then ((toString (num / den)).length : Int) - 1
  else
    match (List.range 400).find? fun k => den ≤ num * Nat.pow 10 k with
    | some k => -(k : Int)
    | none => 0

/-- The grid point with `count` digits that rounds to `x` and is nearest to it. -/
def onGrid? (x : Binary64) (lead : Int) (count : Nat) : Option (Nat × Int) :=
  let (num, den) := x.ratio
  let power := lead - (count : Int) + 1
  let n := num * Nat.pow 10 (-power).toNat
  let d := den * Nat.pow 10 power.toNat
  let low := n / d
  let nearer := if 2 * (n % d) > d || (2 * (n % d) == d && low % 2 == 1) then low + 1 else low
  let other := if nearer == low then low + 1 else low
  if nearer > 0 && x.roundsTo nearer power then some (nearer, power)
  else if other > 0 && x.roundsTo other power then some (other, power)
  else none

/-- The digits without trailing zeros, and the power of ten of the last digit left. -/
def stripZeros : Nat → Nat → Int → Nat × Int
  | 0, digits, power => (digits, power)
  | fuel + 1, digits, power =>
    if digits % 10 == 0 && digits != 0 then stripZeros fuel (digits / 10) (power + 1)
    else (digits, power)

/-- The fewest digits that read back as `x`, and the power of ten of the last one. -/
def shortest (x : Binary64) : Nat × Int :=
  if x.isZero then (0, 0)
  else
    let lead := leadingPower x.ratio.1 x.ratio.2
    match (List.range 17).findSome? fun k => x.onGrid? lead (k + 1) with
    | some (digits, power) => stripZeros 20 digits power
    | none => (x.ratio.1 / x.ratio.2, 0)

end Binary64

/-- How a decimal number is written. -/
structure DecimalFormat where
  /-- The smallest power of ten of the first digit that is written positionally. -/
  leastPositional : Int
  /-- The largest such power. -/
  greatestPositional : Int
  /-- The mark before the exponent. -/
  mark : String
  /-- The sign of an exponent that is not negative. -/
  plus : String

namespace DecimalFormat

/-- The text of a double: positional with at least one digit after the point, or scientific. -/
def text (format : DecimalFormat) (x : Binary64) : String :=
  let (digits, power) := x.shortest
  let ds := (toString digits).toList
  let lead : Int := power + (ds.length : Int) - 1
  let sign := if x.negative then "-" else ""
  let body : String :=
    if x.isZero then "0.0"
    else if format.leastPositional ≤ lead && lead ≤ format.greatestPositional then
      if power ≥ 0 then String.ofList (ds ++ List.replicate power.toNat '0') ++ ".0"
      else if lead ≥ 0 then
        String.ofList (ds.take (lead.toNat + 1)) ++ "." ++ String.ofList (ds.drop (lead.toNat + 1))
      else "0." ++ String.ofList (List.replicate ((-lead).toNat - 1) '0' ++ ds)
    else
      let fraction := if ds.length > 1 then "." ++ String.ofList (ds.drop 1) else ""
      let exponent :=
        if lead < 0 then "-" ++ toString (-lead).toNat else format.plus ++ toString lead.toNat
      String.ofList (ds.take 1) ++ fraction ++ format.mark ++ exponent
  sign ++ body

end DecimalFormat

end Folio
