import Mathlib.Algebra.Order.Group.Nat
import Mathlib.Algebra.Order.Ring.Nat
import Mathlib.Order.Monotone.Basic
import Mathlib.Tactic.GCongr
import Mathlib.Tactic.Positivity
import Mathlib.Tactic.Ring
import LightningMetrics.Binary64.Rounding

/-!
Quotients of words as doubles. They are numbers, and each of the three roundings in one (numerator,
denominator, quotient) is off by at most one part in `2 ^ 53`. So the comparison of two such
quotients agrees with that of the exact fractions up to one part in `2 ^ 50`.
-/

set_option autoImplicit false

namespace LightningMetrics.Binary64

/-- Rounding to a whole number is off by at most a half. -/
theorem nearestEven_distance (numerator : Nat) {denominator : Nat} (positive : 0 < denominator) :
    2 * numerator ≤ 2 * (nearestEven numerator denominator * denominator) + denominator ∧
      2 * (nearestEven numerator denominator * denominator) ≤ 2 * numerator + denominator := by
  have division := Nat.div_add_mod' numerator denominator
  have remainder := Nat.mod_lt numerator positive
  have next : (numerator / denominator + 1) * denominator =
      numerator / denominator * denominator + denominator := Nat.succ_mul _ _
  unfold nearestEven
  dsimp only
  split
  · omega
  · split
    · omega
    · rcases Nat.mod_two_eq_zero_or_one (numerator / denominator) with even | odd
      · rw [even, Nat.add_zero]
        omega
      · rw [odd]
        omega

theorem nearestEven_bounds (numerator denominator : Nat) :
    numerator / denominator ≤ nearestEven numerator denominator ∧
      nearestEven numerator denominator ≤ numerator / denominator + 1 := by
  unfold nearestEven
  dsimp only
  split
  · omega
  · split <;> omega

/-- A significand of 53 bits, or the power of two after the last of them, at its place. -/
theorem unitsOfMagnitude_normal (shift : Nat) {significand : Nat}
    (low : fractionSize ≤ significand) (high : significand ≤ 2 * fractionSize) :
    unitsOfMagnitude (shift * fractionSize + significand) = significand * 2 ^ shift := by
  unfold unitsOfMagnitude
  unfold fractionSize at *
  dsimp only
  by_cases carries : significand = 2 * 0x10000000000000
  · have field : (shift * 0x10000000000000 + significand) / 0x10000000000000 = shift + 2 := by omega
    have fraction : (shift * 0x10000000000000 + significand) % 0x10000000000000 = 0 := by omega
    rw [field, fraction, if_neg (by omega), Nat.shiftLeft_eq, carries,
      show shift + 2 - 1 = shift + 1 by omega, Nat.pow_succ]
    omega
  · have field : (shift * 0x10000000000000 + significand) / 0x10000000000000 = shift + 1 := by omega
    have fraction : (shift * 0x10000000000000 + significand) % 0x10000000000000 =
        significand - 0x10000000000000 := by omega
    rw [field, fraction, if_neg (by omega), Nat.shiftLeft_eq,
      show shift + 1 - 1 = shift by omega,
      show 0x10000000000000 + (significand - 0x10000000000000) = significand by omega]

theorem unitsOfMagnitude_mono : Monotone unitsOfMagnitude := by
  refine monotone_nat_of_le_succ fun magnitude => ?_
  unfold unitsOfMagnitude fractionSize
  dsimp only
  by_cases carries : magnitude % 0x10000000000000 = 0x10000000000000 - 1
  · have field : (magnitude + 1) / 0x10000000000000 = magnitude / 0x10000000000000 + 1 := by omega
    have fraction : (magnitude + 1) % 0x10000000000000 = 0 := by omega
    rw [field, fraction, if_neg (Nat.succ_ne_zero _), Nat.add_sub_cancel, Nat.add_zero]
    by_cases small : magnitude / 0x10000000000000 = 0
    · rw [if_pos small, small, Nat.shiftLeft_zero]
      omega
    · obtain ⟨exponent, same⟩ := Nat.exists_eq_succ_of_ne_zero small
      rw [if_neg small, same, Nat.succ_sub_one, Nat.shiftLeft_eq, Nat.shiftLeft_eq, Nat.pow_succ]
      have room : 0x10000000000000 + magnitude % 0x10000000000000 ≤ 0x10000000000000 * 2 := by
        omega
      calc (0x10000000000000 + magnitude % 0x10000000000000) * 2 ^ exponent
          ≤ 0x10000000000000 * 2 * 2 ^ exponent := Nat.mul_le_mul_right _ room
        _ = 0x10000000000000 * (2 ^ exponent * 2) := by ring
  · have field : (magnitude + 1) / 0x10000000000000 = magnitude / 0x10000000000000 := by omega
    have fraction : (magnitude + 1) % 0x10000000000000 = magnitude % 0x10000000000000 + 1 := by
      omega
    rw [field, fraction]
    split
    · omega
    · rw [Nat.shiftLeft_eq, Nat.shiftLeft_eq]
      exact Nat.mul_le_mul_right _ (by omega)

/-- Where the quotient has 53 bits above the unit `denominator * 2 ^ shift`, it lies between two
powers of two of that unit. -/
theorem binade {numerator denominator shift : Nat} (positive : 0 < denominator)
    (places : (numerator / denominator).log2 = shift + 52) :
    2 ^ 52 * (denominator * 2 ^ shift) ≤ numerator ∧
      numerator < 2 ^ 53 * (denominator * 2 ^ shift) := by
  have nonzero : numerator / denominator ≠ 0 := by
    intro zero
    rw [zero, Nat.log2_zero] at places
    omega
  have above := Nat.log2_self_le nonzero
  have below := Nat.lt_log2_self (n := numerator / denominator)
  rw [places] at above below
  constructor
  · calc 2 ^ 52 * (denominator * 2 ^ shift) = 2 ^ (shift + 52) * denominator := by ring
      _ ≤ numerator / denominator * denominator := Nat.mul_le_mul_right _ above
      _ ≤ numerator := Nat.div_mul_le_self _ _
  · calc numerator < 2 ^ (shift + 52 + 1) * denominator :=
          (Nat.div_lt_iff_lt_mul positive).mp below
      _ = 2 ^ 53 * (denominator * 2 ^ shift) := by ring

/-- Two numbers that differ by at most one part in `2 ^ 53` of the second. -/
structure Near (value exact : Nat) : Prop where
  below : (2 ^ 53 - 1) * exact ≤ 2 ^ 53 * value
  above : 2 ^ 53 * value ≤ (2 ^ 53 + 1) * exact

/-- A quotient in the range of the normal doubles is rounded to one that is near to it. -/
theorem near_magnitudeOfUnits {numerator denominator : Nat} (positive : 0 < denominator)
    (normal : 52 ≤ (numerator / denominator).log2) (small : (numerator / denominator).log2 ≤ 2000) :
    magnitudeOfUnits numerator denominator < infinityMagnitude ∧
      Near (unitsOfMagnitude (magnitudeOfUnits numerator denominator) * denominator) numerator := by
  have size : fractionSize = 2 ^ 52 := rfl
  have top : infinityMagnitude = 2047 * 2 ^ 52 := rfl
  obtain ⟨shift, places⟩ := Nat.exists_eq_add_of_le' normal
  obtain ⟨least, most⟩ := binade positive places
  let unit := denominator * 2 ^ shift
  have unitPositive : 0 < unit := Nat.mul_pos positive (Nat.two_pow_pos _)
  have low : 2 ^ 52 ≤ numerator / unit := (Nat.le_div_iff_mul_le unitPositive).mpr least
  have high : numerator / unit < 2 ^ 53 := (Nat.div_lt_iff_lt_mul unitPositive).mpr most
  have around := nearestEven_bounds numerator unit
  have magnitude : magnitudeOfUnits numerator denominator =
      shift * fractionSize + nearestEven numerator unit := by
    unfold magnitudeOfUnits
    dsimp only
    rw [places, Nat.add_sub_cancel, Nat.shiftLeft_eq]
    change Nat.min _ (shift * fractionSize + nearestEven numerator unit) = _
    apply Nat.min_eq_right
    rw [top, size]
    omega
  have units : unitsOfMagnitude (magnitudeOfUnits numerator denominator) * denominator =
      nearestEven numerator unit * unit := by
    rw [magnitude, unitsOfMagnitude_normal shift (by omega) (by omega)]
    change _ = nearestEven numerator unit * (denominator * 2 ^ shift)
    ring
  have distance := nearestEven_distance numerator unitPositive
  refine ⟨?_, ?_, ?_⟩
  · rw [magnitude, top, size]
    omega
  · rw [units]
    change 2 ^ 52 * unit ≤ numerator at least
    omega
  · rw [units]
    change 2 ^ 52 * unit ≤ numerator at least
    omega

theorem units_ofMagnitude {magnitude : Nat} (small : magnitude < 0x8000000000000000) :
    (ofMagnitude false magnitude).units = unitsOfMagnitude magnitude := by
  unfold units
  rw [magnitude_ofMagnitude false small]

/-- How many places of a binary number stand for parts of 1. -/
def unitPlaces : Nat := 1074

theorem unitsPerOne_eq : unitsPerOne = 2 ^ unitPlaces := Nat.one_shiftLeft unitPlaces

theorem unitPlaces_bounds : 118 ≤ unitPlaces ∧ unitPlaces ≤ 1900 := by decide

theorem unitsPerOne_pos : 0 < unitsPerOne := by
  rw [unitsPerOne_eq]
  exact Nat.two_pow_pos _

theorem near_ofNat {value : Nat} (word : value < 2 ^ 64) :
    (ofNat value).magnitude < infinityMagnitude ∧
      Near (ofNat value).units (value * unitsPerOne) := by
  unfold ofNat
  rw [units_ofMagnitude (magnitudeOfUnits_lt _ _),
    magnitude_ofMagnitude false (magnitudeOfUnits_lt _ _)]
  by_cases zero : value = 0
  · rw [zero, Nat.zero_mul]
    exact ⟨by decide, by decide, by decide⟩
  · have places : (value * unitsPerOne / 1).log2 = value.log2 + unitPlaces := by
      rw [Nat.div_one, unitsPerOne_eq,
        Nat.log2_eq_iff (Nat.mul_ne_zero zero (Nat.ne_of_gt (Nat.two_pow_pos _)))]
      constructor
      · rw [Nat.pow_add]
        exact Nat.mul_le_mul_right _ (Nat.log2_self_le zero)
      · rw [Nat.add_right_comm, Nat.pow_add]
        exact Nat.mul_lt_mul_of_pos_right Nat.lt_log2_self (Nat.two_pow_pos _)
    have short : value.log2 < 64 := (Nat.log2_lt zero).mpr word
    have many := unitPlaces_bounds
    have near := near_magnitudeOfUnits Nat.one_pos
      (show 52 ≤ (value * unitsPerOne / 1).log2 by omega) (by omega)
    rwa [Nat.mul_one] at near

section Quotient

variable {numerator denominator : Nat}

theorem units_ofNat_bounds {value : Nat} (positive : 0 < value) (word : value < 2 ^ 64) :
    unitsPerOne ≤ 2 * (ofNat value).units ∧ (ofNat value).units ≤ 2 ^ 65 * unitsPerOne := by
  obtain ⟨below, above⟩ := (near_ofNat word).2
  have least : unitsPerOne ≤ value * unitsPerOne := Nat.le_mul_of_pos_left _ positive
  have most : value * unitsPerOne ≤ 2 ^ 64 * unitsPerOne := Nat.mul_le_mul_right _ word.le
  omega

theorem isZero_ofNat {value : Nat} (positive : 0 < value) (word : value < 2 ^ 64) :
    (ofNat value).isZero = false := by
  have bounds := units_ofNat_bounds positive word
  have one := unitsPerOne_pos
  unfold isZero
  rw [beq_eq_false_iff_ne]
  intro zero
  have unitless : (ofNat value).units = 0 := by
    unfold units
    rw [zero]
    rfl
  omega

theorem isInfinite_ofNat {value : Nat} (word : value < 2 ^ 64) :
    (ofNat value).isInfinite = false := by
  unfold isInfinite
  rw [beq_eq_false_iff_ne]
  exact (near_ofNat word).1.ne

theorem ofNat_div_ofNat (word : numerator < 2 ^ 64) (positive : 0 < denominator)
    (small : denominator < 2 ^ 64) :
    ofNat numerator / ofNat denominator = ofMagnitude false
      (magnitudeOfUnits ((ofNat numerator).units * unitsPerOne) (ofNat denominator).units) := by
  change div _ _ = _
  unfold div
  simp only [isNaN_ofNat, isNegative_ofNat, isInfinite_ofNat word, isInfinite_ofNat small,
    isZero_ofNat positive small, bne_self_eq_false, Bool.or_false, Bool.false_eq_true, ↓reduceIte]

theorem isNaN_div (word : numerator < 2 ^ 64) (positive : 0 < denominator)
    (small : denominator < 2 ^ 64) :
    (ofNat numerator / ofNat denominator).isNaN = false := by
  rw [ofNat_div_ofNat word positive small]
  unfold isNaN
  rw [magnitude_ofMagnitude false (magnitudeOfUnits_lt _ _), decide_eq_false_iff_not, Nat.not_lt]
  exact magnitudeOfUnits_le _ _

/-- The quotient of the units has enough places for a normal double, and not too many. -/
theorem log2_units_bounds (nonzero : 0 < numerator) (word : numerator < 2 ^ 64)
    (positive : 0 < denominator) (small : denominator < 2 ^ 64) :
    52 ≤ ((ofNat numerator).units * unitsPerOne / (ofNat denominator).units).log2 ∧
      ((ofNat numerator).units * unitsPerOne / (ofNat denominator).units).log2 ≤ 2000 := by
  obtain ⟨least, most⟩ := units_ofNat_bounds positive small
  obtain ⟨above, below⟩ := units_ofNat_bounds nonzero word
  have one := unitsPerOne_pos
  have divisor : 0 < (ofNat denominator).units := by omega
  have wide : 2 ^ 118 ≤ unitsPerOne := by
    rw [unitsPerOne_eq]
    exact Nat.pow_le_pow_right (by decide) unitPlaces_bounds.1
  have normal : 2 ^ 52 * (ofNat denominator).units ≤ (ofNat numerator).units * unitsPerOne :=
    calc 2 ^ 52 * (ofNat denominator).units ≤ 2 ^ 117 * unitsPerOne := by omega
      _ ≤ (ofNat numerator).units * unitsPerOne := Nat.mul_le_mul_right _ (by omega)
  have bounded : (ofNat numerator).units * unitsPerOne <
      2 ^ (unitPlaces + 67) * (ofNat denominator).units :=
    calc (ofNat numerator).units * unitsPerOne
        ≤ 2 ^ 65 * unitsPerOne * (2 * (ofNat denominator).units) := Nat.mul_le_mul below least
      _ = 2 ^ 66 * unitsPerOne * (ofNat denominator).units := by ring
      _ < 2 ^ (unitPlaces + 67) * (ofNat denominator).units := by
        refine Nat.mul_lt_mul_of_pos_right ?_ divisor
        rw [unitsPerOne_eq, ← Nat.pow_add]
        exact Nat.pow_lt_pow_right (by decide) (by omega)
  have large : 2 ^ 52 ≤ (ofNat numerator).units * unitsPerOne / (ofNat denominator).units :=
    (Nat.le_div_iff_mul_le divisor).mpr normal
  have nonzero : (ofNat numerator).units * unitsPerOne / (ofNat denominator).units ≠ 0 := by
    omega
  have places := (Nat.log2_lt nonzero).mpr ((Nat.div_lt_iff_lt_mul divisor).mpr bounded)
  have many := unitPlaces_bounds
  exact ⟨(Nat.le_log2 nonzero).mpr large, by omega⟩

theorem near_div (word : numerator < 2 ^ 64) (positive : 0 < denominator)
    (small : denominator < 2 ^ 64) :
    Near ((ofNat numerator / ofNat denominator).units * (ofNat denominator).units)
      ((ofNat numerator).units * unitsPerOne) := by
  rw [ofNat_div_ofNat word positive small, units_ofMagnitude (magnitudeOfUnits_lt _ _)]
  have bounds := units_ofNat_bounds positive small
  have one := unitsPerOne_pos
  have divisor : 0 < (ofNat denominator).units := by omega
  rcases Nat.eq_zero_or_pos numerator with zero | nonzero
  · have unitless : (ofNat 0).units = 0 := rfl
    have nothing : magnitudeOfUnits 0 (ofNat denominator).units = 0 := by
      unfold magnitudeOfUnits nearestEven
      simp [divisor]
    rw [zero, unitless, Nat.zero_mul, nothing, show unitsOfMagnitude 0 = 0 from rfl, Nat.zero_mul]
    exact ⟨by decide, by decide⟩
  · obtain ⟨normal, bounded⟩ := log2_units_bounds nonzero word positive small
    exact (near_magnitudeOfUnits divisor normal bounded).2

theorem isNegative_div (word : numerator < 2 ^ 64) (positive : 0 < denominator)
    (small : denominator < 2 ^ 64) :
    (ofNat numerator / ofNat denominator).isNegative = false := by
  rw [ofNat_div_ofNat word positive small]
  exact isNegative_ofMagnitude false (magnitudeOfUnits_lt _ _)

end Quotient

theorem lt_iff_numericKey {left right : Binary64} (first : left.isNaN = false)
    (second : right.isNaN = false) :
    left.lt right = true ↔ left.numericKey < right.numericKey := by
  simp [lt_eq_true, first, second]

theorem numericKey_of_nonnegative {value : Binary64} (nonnegative : value.isNegative = false) :
    value.numericKey = value.magnitude := by
  unfold numericKey
  rw [nonnegative]
  rfl

/-- The exact fractions behind two rounded quotients, one of which is not larger than the other.
Three roundings on each side cost three factors each. -/
theorem fraction_le_of_near {down up whole unit : Nat} {a b c d A B C D Q R : Nat}
    (unitPositive : 0 < unit) (divisorPositive : 0 < B)
    (first : down * (a * unit) ≤ whole * A) (second : down * (d * unit) ≤ whole * D)
    (third : down * (A * unit) ≤ whole * (Q * B)) (order : Q ≤ R)
    (fourth : whole * (R * D) ≤ up * (C * unit)) (fifth : whole * C ≤ up * (c * unit))
    (sixth : whole * B ≤ up * (b * unit)) :
    down ^ 3 * (a * d) ≤ up ^ 3 * (c * b) := by
  refine Nat.le_of_mul_le_mul_left ?_ (show 0 < unit ^ 3 * B by positivity)
  calc unit ^ 3 * B * (down ^ 3 * (a * d))
      = down * (a * unit) * (down * (d * unit)) * (down * unit * B) := by ring
    _ ≤ whole * A * (whole * D) * (down * unit * B) := by gcongr
    _ = whole ^ 2 * D * B * (down * (A * unit)) := by ring
    _ ≤ whole ^ 2 * D * B * (whole * (Q * B)) := by gcongr
    _ ≤ whole ^ 2 * D * B * (whole * (R * B)) := by gcongr
    _ = whole ^ 2 * B ^ 2 * (whole * (R * D)) := by ring
    _ ≤ whole ^ 2 * B ^ 2 * (up * (C * unit)) := by gcongr
    _ = whole * B ^ 2 * up * unit * (whole * C) := by ring
    _ ≤ whole * B ^ 2 * up * unit * (up * (c * unit)) := by gcongr
    _ = B * up ^ 2 * unit ^ 2 * c * (whole * B) := by ring
    _ ≤ B * up ^ 2 * unit ^ 2 * c * (up * (b * unit)) := by gcongr
    _ = unit ^ 3 * B * (up ^ 3 * (c * b)) := by ring

/-- Where one quotient is not below another, its exact fraction is not below the other's by more
than one part in `2 ^ 50`. -/
theorem fraction_le_of_not_lt {a b c d : Nat} (positiveB : 0 < b) (positiveD : 0 < d)
    (wordA : a < 2 ^ 64) (wordB : b < 2 ^ 64) (wordC : c < 2 ^ 64) (wordD : d < 2 ^ 64)
    (order : (ofNat c / ofNat d).lt (ofNat a / ofNat b) = false) :
    (2 ^ 50 - 1) * (a * d) ≤ 2 ^ 50 * (c * b) := by
  have keys : ¬ (ofNat c / ofNat d).numericKey < (ofNat a / ofNat b).numericKey := by
    rw [← lt_iff_numericKey (isNaN_div wordC positiveD wordD) (isNaN_div wordA positiveB wordB),
      order]
    exact Bool.false_ne_true
  rw [numericKey_of_nonnegative (isNegative_div wordC positiveD wordD),
    numericKey_of_nonnegative (isNegative_div wordA positiveB wordB)] at keys
  have units : (ofNat a / ofNat b).units ≤ (ofNat c / ofNat d).units :=
    unitsOfMagnitude_mono (by omega)
  have one := unitsPerOne_pos
  have divisor : 0 < (ofNat b).units := by
    have bounds := units_ofNat_bounds positiveB wordB
    omega
  have exact := fraction_le_of_near one divisor (near_ofNat wordA).2.below
    (near_ofNat wordD).2.below (near_div wordA positiveB wordB).below units
    (near_div wordC positiveD wordD).above (near_ofNat wordC).2.above (near_ofNat wordB).2.above
  omega

end LightningMetrics.Binary64
