/-!
Double-precision numbers as their IEEE 754 bit patterns, so that their order is the integer
order of keys read off the bits. There are two orders: the numeric one, in which both zeros are
equal and a NaN is incomparable, and the total one, which tells all bit patterns apart
(`totalKey_injective`).
-/

set_option autoImplicit false

namespace LightningMetrics

/-- A double. Bit 63 is the sign, bits 52 to 62 the exponent field, the rest the fraction. -/
structure Binary64 where
  bits : UInt64
deriving DecidableEq, Repr, Inhabited

namespace Binary64

/-- The magnitude of the infinities; every larger magnitude is a NaN. -/
def infinityMagnitude : Nat := 0x7ff0000000000000

/-- The bits without the sign. Magnitudes of numbers are ordered like their values. -/
def magnitude (value : Binary64) : Nat :=
  value.bits.toNat % 0x8000000000000000

def isNegative (value : Binary64) : Bool :=
  0x8000000000000000 ≤ value.bits.toNat

def isNaN (value : Binary64) : Bool :=
  infinityMagnitude < value.magnitude

def isInfinite (value : Binary64) : Bool :=
  value.magnitude == infinityMagnitude

def isZero (value : Binary64) : Bool :=
  value.magnitude == 0

/-- The double with this sign and magnitude. -/
def ofMagnitude (negative : Bool) (magnitude : Nat) : Binary64 :=
  ⟨UInt64.ofNat (if negative then 0x8000000000000000 + magnitude else magnitude)⟩

def zero : Binary64 := ⟨0⟩

def infinity : Binary64 := ⟨0x7ff0000000000000⟩

def negativeInfinity : Binary64 := ⟨0xfff0000000000000⟩

/-- The quiet NaN that operations without a numeric result give. -/
def nan : Binary64 := ⟨0x7ff8000000000000⟩

/-- The signed magnitude: numbers compare like their keys, and both zeros have key 0. -/
def numericKey (value : Binary64) : Int :=
  if value.isNegative then -(value.magnitude : Int) else value.magnitude

/-- The place in the total order: negative NaNs, negative numbers, -0, +0, positive numbers,
positive NaNs. -/
def totalKey (value : Binary64) : Int :=
  if value.isNegative then -(value.magnitude : Int) - 1 else value.magnitude

/-- Numeric comparison. A NaN is neither below nor above anything. -/
def lt (left right : Binary64) : Bool :=
  !left.isNaN && !right.isNaN && decide (left.numericKey < right.numericKey)

def le (left right : Binary64) : Bool :=
  !left.isNaN && !right.isNaN && decide (left.numericKey ≤ right.numericKey)

def totalLe (left right : Binary64) : Bool :=
  left.totalKey ≤ right.totalKey

/-- The smaller number. A NaN gives way to the other operand, and so does the left one of two
equals, which shows when they are zeros of different signs. -/
def min (left right : Binary64) : Binary64 :=
  if right.isNaN then left else if left.lt right then left else right

/-- The larger number, with the same rules. -/
def max (left right : Binary64) : Binary64 :=
  if right.isNaN then left else if right.lt left then left else right

theorem bits_toNat (value : Binary64) :
    value.bits.toNat =
      (if value.isNegative then 0x8000000000000000 else 0) + value.magnitude := by
  have bound : value.bits.toNat < 2 ^ 64 := value.bits.toNat_lt
  unfold isNegative magnitude
  split <;> rename_i sign <;> simp at sign <;> omega

/-- The total order separates all bit patterns. -/
theorem totalKey_injective {left right : Binary64} (same : left.totalKey = right.totalKey) :
    left = right := by
  have leftBits := left.bits_toNat
  have rightBits := right.bits_toNat
  have equal : left.bits = right.bits := by
    apply UInt64.toNat_inj.mp
    rw [leftBits, rightBits]
    unfold totalKey at same
    split at same <;> split at same <;> simp_all <;> omega
  cases left
  cases right
  simp_all

theorem lt_eq_true {left right : Binary64} :
    left.lt right = true ↔
      left.isNaN = false ∧ right.isNaN = false ∧ left.numericKey < right.numericKey := by
  simp [lt, and_assoc]

theorem lt_irrefl (value : Binary64) : value.lt value = false := by
  simp [lt]

end Binary64

end LightningMetrics
