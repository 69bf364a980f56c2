import Mathlib.Algebra.Group.Nat.Defs
import Mathlib.Data.List.TakeWhile
import LightningMetrics.Fee.AmountLabel

set_option autoImplicit false

namespace LightningMetrics.Fee

/-- The satoshis that the number part of a label stands for. -/
def readAmount (digits : List Char) : Nat :=
  let whole := digits.takeWhile (· != '.')
  let fraction := (digits.dropWhile (· != '.')).drop 1
  Nat.ofDigitChars 10 whole 0 * satsPerBitcoin +
    Nat.ofDigitChars 10 fraction 0 * 10 ^ (8 - fraction.length)

theorem ne_point_of_mem_toDigits (number : Nat) :
    ∀ char ∈ Nat.toDigits 10 number, (char != '.') = true := by
  intro char member
  have digit := Nat.isDigit_of_mem_toDigits (by omega) (by omega) member
  rw [bne_iff_ne]
  rintro rfl
  revert digit
  decide

theorem dropTrailingZeros_append (digits : List Char) :
    ∃ count, dropTrailingZeros digits ++ List.replicate count '0' = digits := by
  have zeros : ∀ char ∈ digits.reverse.takeWhile (· == '0'), char = '0' := by
    intro char member
    simpa using List.mem_takeWhile_imp member
  have run := List.eq_replicate_iff.mpr ⟨rfl, zeros⟩
  refine ⟨(digits.reverse.takeWhile (· == '0')).length, ?_⟩
  calc dropTrailingZeros digits ++ List.replicate _ '0'
      = dropTrailingZeros digits ++ (digits.reverse.takeWhile (· == '0')).reverse := by
        rw [run, List.reverse_replicate, List.length_replicate]
    _ = (digits.reverse.takeWhile (· == '0') ++ digits.reverse.dropWhile (· == '0')).reverse :=
        List.reverse_append.symm
    _ = digits := by rw [List.takeWhile_append_dropWhile, List.reverse_reverse]

theorem ofDigitChars_dropTrailingZeros (digits : List Char) :
    Nat.ofDigitChars 10 (dropTrailingZeros digits) 0 *
      10 ^ (digits.length - (dropTrailingZeros digits).length) = Nat.ofDigitChars 10 digits 0 := by
  obtain ⟨count, restored⟩ := dropTrailingZeros_append digits
  have places : digits.length - (dropTrailingZeros digits).length = count := by
    have lengths := congrArg List.length restored
    rw [List.length_append, List.length_replicate] at lengths
    omega
  rw [places]
  conv => rhs; rw [← restored]
  rw [Nat.ofDigitChars_append, Nat.ofDigitChars_replicate_zero, Nat.mul_comm]

theorem ofDigitChars_padded (width number : Nat) :
    Nat.ofDigitChars 10 (padded width number) 0 = number := by
  simp only [padded]
  rw [Nat.ofDigitChars_append, Nat.ofDigitChars_replicate_zero, Nat.mul_zero,
    Nat.ofDigitChars_ten_toDigits]

theorem length_padded {width number : Nat} (positive : 0 < width) (fits : number < 10 ^ width) :
    (padded width number).length = width := by
  have short : (Nat.toDigits 10 number).length ≤ width :=
    (Nat.length_toDigits_le_iff (by omega) positive).mpr fits
  simp only [padded]
  rw [List.length_append, List.length_replicate]
  omega

/-- Reading undoes writing. -/
theorem readAmount_amountDigits (amount : Nat) : readAmount (amountDigits amount) = amount := by
  have split := Nat.div_add_mod amount satsPerBitcoin
  have whole := ne_point_of_mem_toDigits (amount / satsPerBitcoin)
  simp only [amountDigits]
  by_cases round : amount % satsPerBitcoin = 0
  · rw [if_pos round]
    simp only [readAmount]
    rw [List.takeWhile_eq_self_iff.mpr whole, List.dropWhile_eq_nil_iff.mpr whole,
      List.drop_nil, Nat.ofDigitChars_nil, Nat.zero_mul, Nat.add_zero,
      Nat.ofDigitChars_ten_toDigits, Nat.mul_comm]
    omega
  · rw [if_neg round]
    have length : (padded 8 (amount % satsPerBitcoin)).length = 8 :=
      length_padded (by omega) (Nat.mod_lt amount (by decide))
    have value := ofDigitChars_dropTrailingZeros (padded 8 (amount % satsPerBitcoin))
    rw [length, ofDigitChars_padded] at value
    simp only [readAmount]
    rw [List.takeWhile_append_of_pos whole, List.dropWhile_append_of_pos whole,
      List.takeWhile_cons_of_neg (by decide), List.dropWhile_cons_of_neg (by decide),
      List.append_nil, List.drop_one, List.tail_cons, value, Nat.ofDigitChars_ten_toDigits,
      Nat.mul_comm]
    exact split

theorem amountLabel_injective : Function.Injective amountLabel := by
  intro left right same
  have digits : amountDigits left.toNat = amountDigits right.toNat := by
    have lists := congrArg String.toList same
    simp only [amountLabel, String.toList_ofList] at lists
    exact List.append_cancel_right lists
  have read := congrArg readAmount digits
  rw [readAmount_amountDigits, readAmount_amountDigits] at read
  exact UInt64.toNat_inj.mp read

end LightningMetrics.Fee
