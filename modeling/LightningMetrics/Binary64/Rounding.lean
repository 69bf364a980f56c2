import LightningMetrics.Binary64.Basic

/-!
Arithmetic on doubles: the exact result is formed in integers and rounded once, to the nearest
double and to the even neighbour on a tie. Values are counted in units of `2 ^ -1074`, the
smallest positive double, so every finite double is a whole number of units.
-/

set_option autoImplicit false

namespace LightningMetrics.Binary64

/-- How many units make 1. -/
def unitsPerOne : Nat := 1 <<< 1074

/-- How many fractions there are for each exponent, `2 ^ 52`. -/
def fractionSize : Nat := 0x10000000000000

/-- The absolute value in units. The formula also gives the value that would follow the largest
finite double. -/
def unitsOfMagnitude (magnitude : Nat) : Nat :=
  let field := magnitude / fractionSize
  let fraction := magnitude % fractionSize
  if field = 0 then fraction else (fractionSize + fraction) <<< (field - 1)

def units (value : Binary64) : Nat :=
  unitsOfMagnitude value.magnitude

/-- The whole number nearest to a quotient, the even one on a tie. -/
def nearestEven (numerator denominator : Nat) : Nat :=
  let quotient := numerator / denominator
  let twice := 2 * (numerator % denominator)
  if twice < denominator then quotient
  else if denominator < twice then quotient + 1
  else quotient + quotient % 2

/-- The magnitude of the double nearest to `numerator / denominator` units. Rounding up to the
next power of two carries into the exponent field by itself, and what is too large becomes
infinite. -/
def magnitudeOfUnits (numerator denominator : Nat) : Nat :=
  let shift := (numerator / denominator).log2 - 52
  Nat.min infinityMagnitude
    (shift * fractionSize + nearestEven numerator (denominator <<< shift))

/-- The double nearest to a natural number. -/
def ofNat (value : Nat) : Binary64 :=
  ofMagnitude false (magnitudeOfUnits (value * unitsPerOne) 1)

/-- The value in units, with its sign. -/
def signedUnits (value : Binary64) : Int :=
  if value.isNegative then -(value.units : Int) else value.units

/-- The sum. Opposite numbers add up to +0; two negative zeros to -0. -/
def add (left right : Binary64) : Binary64 :=
  if left.isNaN || right.isNaN then nan
  else if left.isInfinite then
    if right.isInfinite && left.isNegative != right.isNegative then nan else left
  else if right.isInfinite then right
  else
    let sum := left.signedUnits + right.signedUnits
    if sum = 0 then ofMagnitude (left.isNegative && right.isNegative) 0
    else ofMagnitude (sum < 0) (magnitudeOfUnits sum.natAbs 1)

/-- The quotient. Dividing by zero gives an infinity, except that zero by zero, like infinity by
infinity, has no numeric result. -/
def div (left right : Binary64) : Binary64 :=
  let negative := left.isNegative != right.isNegative
  if left.isNaN || right.isNaN then nan
  else if left.isInfinite then
    if right.isInfinite then nan else ofMagnitude negative infinityMagnitude
  else if right.isInfinite then ofMagnitude negative 0
  else if right.isZero then
    if left.isZero then nan else ofMagnitude negative infinityMagnitude
  else ofMagnitude negative (magnitudeOfUnits (left.units * unitsPerOne) right.units)

instance : Add Binary64 := ⟨add⟩
instance : Div Binary64 := ⟨div⟩

/-- The whole part of the absolute value of a finite number. -/
def wholePart (value : Binary64) : Nat :=
  value.units / unitsPerOne

theorem magnitudeOfUnits_le (numerator denominator : Nat) :
    magnitudeOfUnits numerator denominator ≤ infinityMagnitude :=
  Nat.min_le_left _ _

theorem magnitude_ofMagnitude (negative : Bool) {magnitude : Nat}
    (small : magnitude < 0x8000000000000000) :
    (ofMagnitude negative magnitude).magnitude = magnitude := by
  unfold ofMagnitude Binary64.magnitude
  cases negative <;> simp [UInt64.toNat_ofNat'] <;> omega

theorem isNegative_ofMagnitude (negative : Bool) {magnitude : Nat}
    (small : magnitude < 0x8000000000000000) :
    (ofMagnitude negative magnitude).isNegative = negative := by
  unfold ofMagnitude isNegative
  cases negative <;> simp [UInt64.toNat_ofNat'] <;> omega

theorem magnitudeOfUnits_lt (numerator denominator : Nat) :
    magnitudeOfUnits numerator denominator < 0x8000000000000000 :=
  Nat.lt_of_le_of_lt (magnitudeOfUnits_le numerator denominator) (by decide)

/-- A rounded natural number is a number, and not a negative one. -/
theorem isNaN_ofNat (value : Nat) : (ofNat value).isNaN = false := by
  have bound := magnitudeOfUnits_le (value * unitsPerOne) 1
  simp only [isNaN, ofNat, magnitude_ofMagnitude false (magnitudeOfUnits_lt _ _)]
  simp only [decide_eq_false_iff_not]
  omega

theorem isNegative_ofNat (value : Nat) : (ofNat value).isNegative = false :=
  isNegative_ofMagnitude false (magnitudeOfUnits_lt _ _)

end LightningMetrics.Binary64
