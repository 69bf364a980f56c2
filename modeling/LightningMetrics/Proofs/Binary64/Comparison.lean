import LightningMetrics.Proofs.Binary64.Quotients

set_option autoImplicit false

namespace LightningMetrics.Binary64

theorem le_eq_true {left right : Binary64} :
    left.le right = true ↔
      left.isNaN = false ∧ right.isNaN = false ∧ left.numericKey ≤ right.numericKey := by
  simp [le, and_assoc]

theorem le_trans {left middle right : Binary64} (first : left.le middle = true)
    (second : middle.le right = true) : left.le right = true := by
  rw [le_eq_true] at *
  exact ⟨first.1, second.2.1, Int.le_trans first.2.2 second.2.2⟩

theorem numericKey_bounds {value : Binary64} (number : value.isNaN = false) :
    -(infinityMagnitude : Int) ≤ value.numericKey ∧ value.numericKey ≤ infinityMagnitude := by
  unfold isNaN at number
  rw [decide_eq_false_iff_not] at number
  unfold numericKey
  split <;> omega

theorem eq_of_numericKey_eq {left right : Binary64} (first : left.isNegative = false)
    (second : right.isNegative = false) (same : left.numericKey = right.numericKey) :
    left = right := by
  apply totalKey_injective
  simp only [numericKey, totalKey, first, second, Bool.false_eq_true, ↓reduceIte] at *
  exact same

/-- A whole number below `2 ^ 52` is too far from the next one to be rounded to the same. -/
theorem units_ofNat_lt {smaller larger : Nat} (below : smaller < larger)
    (exact : smaller < 2 ^ 52) (word : larger < 2 ^ 64) :
    (ofNat smaller).units < (ofNat larger).units := by
  have rounded := (near_ofNat (Nat.lt_trans below word)).2.above
  have roundedNext := (near_ofNat word).2.below
  have one := unitsPerOne_pos
  have bounded : smaller * unitsPerOne ≤ (2 ^ 52 - 1) * unitsPerOne :=
    Nat.mul_le_mul_right _ (by omega)
  have apart : smaller * unitsPerOne + unitsPerOne ≤ larger * unitsPerOne := by
    rw [← Nat.succ_mul]
    exact Nat.mul_le_mul_right _ below
  omega

theorem numericKey_ofNat_lt {smaller larger : Nat} (below : smaller < larger)
    (exact : smaller < 2 ^ 52) (word : larger < 2 ^ 64) :
    (ofNat smaller).numericKey < (ofNat larger).numericKey := by
  rw [numericKey_of_nonnegative (isNegative_ofNat _),
    numericKey_of_nonnegative (isNegative_ofNat _), Int.ofNat_lt]
  by_contra above
  have reversed := unitsOfMagnitude_mono (Nat.le_of_not_lt above)
  have apart := units_ofNat_lt below exact word
  unfold units at apart
  omega

theorem le_ofNat_iff {left right : Nat} (first : left < 2 ^ 64) (second : right < 2 ^ 64)
    (exact : left < 2 ^ 52 ∨ right < 2 ^ 52) :
    (ofNat left).le (ofNat right) = true ↔ left ≤ right := by
  rw [le_eq_true]
  constructor
  · intro order
    by_contra above
    have apart := numericKey_ofNat_lt (Nat.lt_of_not_le above) (by omega) first
    omega
  · intro order
    refine ⟨isNaN_ofNat left, isNaN_ofNat right, ?_⟩
    rcases Nat.eq_or_lt_of_le order with same | below
    · rw [same]
    · exact Int.le_of_lt (numericKey_ofNat_lt below (by omega) second)

end LightningMetrics.Binary64
