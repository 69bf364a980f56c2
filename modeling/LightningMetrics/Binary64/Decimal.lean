import LightningMetrics.Binary64.Rounding

set_option autoImplicit false

namespace LightningMetrics.Binary64

/-- The number `digits * 10 ^ exponent`. -/
structure Decimal where
  digits : Nat
  exponent : Int
deriving DecidableEq, Repr

/-- A positive double and the ends of the interval that rounds to it, all as numerators over
one denominator. The ends belong to the interval when the double's significand is even. -/
structure RoundingInterval where
  low : Nat
  value : Nat
  high : Nat
  denominator : Nat
  closed : Bool
deriving Repr

/-- The interval of a positive magnitude: its ends are half-way to the neighbours. -/
def RoundingInterval.ofMagnitude (magnitude : Nat) : RoundingInterval where
  low := unitsOfMagnitude (magnitude - 1) + unitsOfMagnitude magnitude
  value := 2 * unitsOfMagnitude magnitude
  high := unitsOfMagnitude magnitude + unitsOfMagnitude (magnitude + 1)
  denominator := 2 * unitsPerOne
  closed := magnitude % 2 == 0

/-- The interval in units of `10 ^ exponent`. -/
def RoundingInterval.scale (interval : RoundingInterval) (exponent : Int) : RoundingInterval :=
  if 0 ≤ exponent then
    { interval with denominator := interval.denominator * Nat.pow 10 exponent.toNat }
  else
    let factor := Nat.pow 10 (-exponent).toNat
    { interval with
      low := interval.low * factor
      value := interval.value * factor
      high := interval.high * factor }

/-- Is the whole number in the interval? -/
def RoundingInterval.holds (interval : RoundingInterval) (number : Nat) : Bool :=
  let place := number * interval.denominator
  if interval.closed then interval.low ≤ place && place ≤ interval.high
  else interval.low < place && place < interval.high

/-- The whole number in the interval that is nearest to its value, if there is one; of two that
are equally near the larger one. -/
def RoundingInterval.nearest? (interval : RoundingInterval) : Option Nat :=
  let below := interval.value / interval.denominator
  let twice := 2 * (interval.value % interval.denominator)
  match interval.holds below, interval.holds (below + 1) with
  | true, true => some (if interval.denominator ≤ twice then below + 1 else below)
  | true, false => some below
  | false, true => some (below + 1)
  | false, false => none

/-- How many digits the whole part has; not above zero where the number is below one tenth. -/
def RoundingInterval.wholeDigits (interval : RoundingInterval) : Int :=
  if interval.denominator ≤ interval.value then
    ((interval.value / interval.denominator).repr.length : Int)
  else
    1 - ((interval.denominator - 1) / interval.value).repr.length

/-- The fewest digits that lie in the interval; 17 always suffice. The power of ten above the
value comes first, so that the digits never end in a zero that could be left out. -/
def RoundingInterval.shortest (interval : RoundingInterval) : Decimal :=
  let whole := interval.wholeDigits
  let found := (List.range 18).findSome? fun (count : Nat) =>
    let exponent := whole - count
    (interval.scale exponent).nearest?.map fun digits => ⟨digits, exponent⟩
  found.getD ⟨0, 0⟩

/-- Writes a decimal by position. -/
def Decimal.text (decimal : Decimal) : String :=
  let digits := decimal.digits.repr
  if 0 ≤ decimal.exponent then
    digits ++ "".pushn '0' decimal.exponent.toNat
  else
    let places := (-decimal.exponent).toNat
    if places < digits.length then
      let whole := digits.length - places
      String.ofList (digits.toList.take whole) ++ "." ++ String.ofList (digits.toList.drop whole)
    else
      "0." ++ "".pushn '0' (places - digits.length) ++ digits

/-- The text of a double. -/
def text (value : Binary64) : String :=
  if value.isNaN then "NaN"
  else
    let sign := if value.isNegative then "-" else ""
    if value.isInfinite then sign ++ "inf"
    else if value.isZero then sign ++ "0"
    else sign ++ (RoundingInterval.ofMagnitude value.magnitude).shortest.text

end LightningMetrics.Binary64
