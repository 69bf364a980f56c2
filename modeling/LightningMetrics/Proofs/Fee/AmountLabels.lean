import Mathlib.Algebra.Field.Rat
import Mathlib.Algebra.Order.Ring.Nat
import Mathlib.Algebra.Order.Ring.Unbundled.Rat
import Mathlib.Data.List.Induction
import Mathlib.Data.Rat.Cast.CharZero
import Mathlib.Tactic.FieldSimp
import Mathlib.Tactic.NormNum
import Mathlib.Tactic.Ring
import LightningMetrics.Proofs.Fee.AmountReading

set_option autoImplicit false

namespace LightningMetrics.Fee

/-- A decimal number: the digits before the point and those after it. Where there are none after it
there is no point. -/
structure DecimalNumber where
  whole : List Char
  fraction : List Char
deriving DecidableEq

namespace DecimalNumber

def text (number : DecimalNumber) : List Char :=
  number.whole ++ if number.fraction = [] then [] else '.' :: number.fraction

/-- What stands before the first point, and what stands after it. -/
def ofText (text : List Char) : DecimalNumber where
  whole := text.takeWhile (· != '.')
  fraction := (text.dropWhile (· != '.')).drop 1

/-- The number itself. -/
def value (number : DecimalNumber) : ℚ :=
  Nat.ofDigitChars 10 number.whole 0 +
    Nat.ofDigitChars 10 number.fraction 0 / 10 ^ number.fraction.length

/-- The label of an amount that is written as this number. -/
def label (number : DecimalNumber) : String :=
  String.ofList (number.text ++ " BTC".toList)

/-- Written in digits of which none is superfluous, with at most eight after the point. -/
structure Canonical (number : DecimalNumber) : Prop where
  wholeDigits : ∀ char ∈ number.whole, char.isDigit = true
  wholeStated : number.whole ≠ []
  noLeadingZero : number.whole.head? = some '0' → number.whole = ['0']
  fractionDigits : ∀ char ∈ number.fraction, char.isDigit = true
  fractionShort : number.fraction.length ≤ 8
  noTrailingZero : number.fraction.getLast? ≠ some '0'

instance (number : DecimalNumber) : Decidable number.Canonical :=
  decidable_of_iff
    (number.whole.all Char.isDigit = true ∧ number.whole ≠ [] ∧
      (number.whole.head? = some '0' → number.whole = ['0']) ∧
      number.fraction.all Char.isDigit = true ∧ number.fraction.length ≤ 8 ∧
      number.fraction.getLast? ≠ some '0')
    ⟨fun ⟨wholeDigits, stated, leading, fractionDigits, short, trailing⟩ =>
        ⟨List.all_eq_true.mp wholeDigits, stated, leading, List.all_eq_true.mp fractionDigits,
          short, trailing⟩,
      fun canonical => ⟨List.all_eq_true.mpr canonical.wholeDigits, canonical.wholeStated,
        canonical.noLeadingZero, List.all_eq_true.mpr canonical.fractionDigits,
        canonical.fractionShort, canonical.noTrailingZero⟩⟩

end DecimalNumber

/-- Reads a label: a canonical number of bitcoin and the unit after a blank, for an amount that is a
word. Any other text is refused. -/
def readLabel? (label : String) : Option UInt64 :=
  let number := DecimalNumber.ofText (label.toList.takeWhile (· != ' '))
  let amount := readAmount number.text
  if number.Canonical ∧ number.label = label ∧ amount < 0x10000000000000000 then
    some (UInt64.ofNat amount)
  else none

section Digits

variable {digits : List Char}

theorem digitChar_of_isDigit {char : Char} (digit : char.isDigit = true) :
    char.toNat - '0'.toNat < 10 ∧ Nat.digitChar (char.toNat - '0'.toNat) = char := by
  have zero : '0'.toNat = 48 := rfl
  simp only [Char.isDigit, Bool.and_eq_true, decide_eq_true_eq, UInt32.le_iff_toNat_le] at digit
  obtain ⟨above, below⟩ := digit
  change 48 ≤ char.toNat at above
  change char.toNat ≤ 57 at below
  rw [zero]
  refine ⟨by omega, Char.toNat_inj.mp ?_⟩
  rw [Nat.toNat_digitChar_of_lt_ten (by omega)]
  omega

theorem toDigits_append_digits (all : ∀ char ∈ digits, char.isDigit = true) {number : Nat}
    (positive : 0 < number) :
    Nat.toDigits 10 number ++ digits = Nat.toDigits 10 (Nat.ofDigitChars 10 digits number) := by
  induction digits generalizing number with
  | nil => rw [List.append_nil, Nat.ofDigitChars_nil]
  | cons char rest ih =>
      obtain ⟨digit, later⟩ := List.forall_mem_cons.mp all
      obtain ⟨small, rebuilt⟩ := digitChar_of_isDigit digit
      have next : Nat.toDigits 10 number ++ [char] =
          Nat.toDigits 10 (10 * number + (char.toNat - '0'.toNat)) := by
        rw [← Nat.toDigits_append_toDigits (by decide) positive small,
          Nat.toDigits_of_lt_base small, rebuilt]
      rw [Nat.ofDigitChars_cons, ← ih later (by omega), ← next, List.append_assoc]
      rfl

/-- Digits without a superfluous zero in front are those that their value is written with. -/
theorem toDigits_ofDigitChars (all : ∀ char ∈ digits, char.isDigit = true) (stated : digits ≠ [])
    (noLeadingZero : digits.head? = some '0' → digits = ['0']) :
    Nat.toDigits 10 (Nat.ofDigitChars 10 digits 0) = digits := by
  cases digits with
  | nil => exact absurd rfl stated
  | cons char rest =>
      obtain ⟨digit, later⟩ := List.forall_mem_cons.mp all
      obtain ⟨small, rebuilt⟩ := digitChar_of_isDigit digit
      by_cases zero : char = '0'
      · rw [noLeadingZero (congrArg some zero)]
        rfl
      · have positive : 0 < char.toNat - '0'.toNat := by
          refine Nat.pos_of_ne_zero fun nothing => zero ?_
          rw [← rebuilt, nothing]
          rfl
        rw [Nat.ofDigitChars_cons, Nat.mul_zero, Nat.zero_add,
          ← toDigits_append_digits later positive, Nat.toDigits_of_lt_base small, rebuilt]
        rfl

theorem ofDigitChars_lt (all : ∀ char ∈ digits, char.isDigit = true) :
    Nat.ofDigitChars 10 digits 0 < 10 ^ digits.length := by
  induction digits using List.reverseRecOn with
  | nil => decide
  | append_singleton rest char ih =>
      obtain ⟨earlier, digit⟩ := List.forall_mem_append.mp all
      obtain ⟨small, -⟩ := digitChar_of_isDigit (digit char (List.mem_singleton_self char))
      have below := ih earlier
      rw [Nat.ofDigitChars_append, Nat.ofDigitChars_cons, Nat.ofDigitChars_nil, List.length_append,
        List.length_singleton, Nat.pow_succ]
      omega

/-- In as many places as they have, digits are those that their value is written with. -/
theorem padded_ofDigitChars (all : ∀ char ∈ digits, char.isDigit = true) (stated : digits ≠ []) :
    padded digits.length (Nat.ofDigitChars 10 digits 0) = digits := by
  induction digits with
  | nil => exact absurd rfl stated
  | cons char rest ih =>
      obtain ⟨digit, later⟩ := List.forall_mem_cons.mp all
      by_cases zero : char = '0'
      · subst zero
        cases rest with
        | nil => decide
        | cons second others =>
            have below := ofDigitChars_lt later
            have shorter := (Nat.length_toDigits_le_iff (b := 10) (by decide)
              (List.length_pos_of_ne_nil (List.cons_ne_nil second others))).mpr below
            have padding := ih later (List.cons_ne_nil _ _)
            have value : Nat.ofDigitChars 10 ('0' :: second :: others) 0 =
                Nat.ofDigitChars 10 (second :: others) 0 := Nat.ofDigitChars_cons
            rw [value]
            conv => rhs; rw [← padding]
            simp only [padded]
            rw [List.length_cons, Nat.succ_sub shorter, List.replicate_succ, List.cons_append]
      · have written := toDigits_ofDigitChars all stated fun first =>
          absurd (Option.some.inj first) zero
        simp only [padded]
        rw [written, Nat.sub_self]
        rfl

theorem toDigits_of_head?_eq_zero {number : Nat}
    (zero : (Nat.toDigits 10 number).head? = some '0') : Nat.toDigits 10 number = ['0'] := by
  cases written : Nat.toDigits 10 number with
  | nil => exact absurd written Nat.toDigits_ne_nil
  | cons char rest =>
      rw [written, List.head?_cons, Option.some.injEq] at zero
      subst zero
      cases rest with
      | nil => rfl
      | cons second others =>
          -- The digits after the zero have the same value, and are one digit too few for it.
          have all : ∀ char ∈ Nat.toDigits 10 number, char.isDigit = true :=
            fun char => Nat.isDigit_of_mem_toDigits (by decide) (by decide)
          have value := Nat.ofDigitChars_ten_toDigits (n := number)
          rw [written] at all value
          have below := ofDigitChars_lt (List.forall_mem_cons.mp all).2
          have same : Nat.ofDigitChars 10 (second :: others) 0 = number :=
            Nat.ofDigitChars_cons.symm.trans value
          rw [same, ← Nat.length_toDigits_le_iff (by decide) (by simp), written] at below
          simp at below

theorem dropTrailingZeros_append_zeros (noTrailingZero : digits.getLast? ≠ some '0')
    (count : Nat) : dropTrailingZeros (digits ++ List.replicate count '0') = digits := by
  have zeros : ∀ char ∈ List.replicate count '0', (char == '0') = true := by
    intro char member
    rw [List.eq_of_mem_replicate member]
    rfl
  unfold dropTrailingZeros
  rw [List.reverse_append, List.reverse_replicate, List.dropWhile_append_of_pos zeros]
  rw [List.getLast?_eq_head?_reverse] at noTrailingZero
  cases backwards : digits.reverse with
  | nil =>
      rw [List.reverse_eq_nil_iff.mp backwards]
      rfl
  | cons last rest =>
      rw [backwards] at noTrailingZero
      have solid : (last == '0') = false := by simpa using noTrailingZero
      rw [List.dropWhile_cons, solid, if_neg Bool.false_ne_true, ← backwards, List.reverse_reverse]

theorem getLast?_dropTrailingZeros (digits : List Char) :
    (dropTrailingZeros digits).getLast? ≠ some '0' := by
  unfold dropTrailingZeros
  rw [List.getLast?_reverse]
  intro zero
  have kept := List.head?_dropWhile_not (· == '0') digits.reverse
  rw [zero] at kept
  simp at kept

end Digits

namespace DecimalNumber

theorem ne_of_isDigit {digits : List Char} {other : Char}
    (all : ∀ char ∈ digits, char.isDigit = true) (noDigit : other.isDigit = false) :
    ∀ char ∈ digits, (char != other) = true := by
  intro char member
  rw [bne_iff_ne]
  rintro rfl
  rw [all char member] at noDigit
  cases noDigit

/-- The parts are found again. -/
theorem Canonical.ofText_text {number : DecimalNumber} (canonical : number.Canonical) :
    ofText number.text = number := by
  have noPoint : '.'.isDigit = false := rfl
  have whole := ne_of_isDigit canonical.wholeDigits noPoint
  obtain ⟨before, after⟩ := number
  unfold ofText text
  dsimp only at whole ⊢
  by_cases ended : after = []
  · rw [if_pos ended, List.append_nil, List.takeWhile_eq_self_iff.mpr whole,
      List.dropWhile_eq_nil_iff.mpr whole, List.drop_nil, ended]
  · rw [if_neg ended, List.takeWhile_append_of_pos whole, List.dropWhile_append_of_pos whole,
      List.takeWhile_cons_of_neg (by decide), List.dropWhile_cons_of_neg (by decide),
      List.append_nil, List.drop_one, List.tail_cons]

theorem Canonical.takeWhile_label {number : DecimalNumber} (canonical : number.Canonical) :
    number.label.toList.takeWhile (· != ' ') = number.text := by
  have solid : ∀ char ∈ number.text, (char != ' ') = true := by
    refine List.forall_mem_append.mpr ⟨ne_of_isDigit canonical.wholeDigits rfl, ?_⟩
    split
    · exact nofun
    · exact List.forall_mem_cons.mpr ⟨rfl, ne_of_isDigit canonical.fractionDigits rfl⟩
  rw [label, String.toList_ofList, List.takeWhile_append_of_pos solid,
    show " BTC".toList = ' ' :: "BTC".toList from rfl, List.takeWhile_cons_of_neg (by decide),
    List.append_nil]

theorem Canonical.readAmount_text {number : DecimalNumber} (canonical : number.Canonical) :
    readAmount number.text = Nat.ofDigitChars 10 number.whole 0 * satsPerBitcoin +
      Nat.ofDigitChars 10 number.fraction 0 * 10 ^ (8 - number.fraction.length) := by
  have parts := canonical.ofText_text
  have whole := congrArg whole parts
  have fraction := congrArg fraction parts
  unfold ofText at whole fraction
  dsimp only at whole fraction
  simp only [readAmount]
  rw [whole, fraction]

theorem Canonical.value_mul {number : DecimalNumber} (canonical : number.Canonical) :
    number.value * 100000000 = readAmount number.text := by
  have short := canonical.fractionShort
  have places : (10 : ℚ) ^ number.fraction.length * 10 ^ (8 - number.fraction.length) =
      100000000 := by
    rw [← pow_add, Nat.add_sub_cancel' short]
    norm_num
  have unit : (10 : ℚ) ^ number.fraction.length ≠ 0 := pow_ne_zero _ (by norm_num)
  rw [canonical.readAmount_text, value, satsPerBitcoin]
  push_cast
  rw [add_mul, ← places]
  field_simp

theorem Canonical.dropTrailingZeros_padded {number : DecimalNumber} (canonical : number.Canonical)
    (stated : number.fraction ≠ []) :
    dropTrailingZeros (padded 8 (Nat.ofDigitChars 10 number.fraction 0 *
      10 ^ (8 - number.fraction.length))) = number.fraction := by
  have short := canonical.fractionShort
  let filled := number.fraction ++ List.replicate (8 - number.fraction.length) '0'
  have length : filled.length = 8 := by
    rw [List.length_append, List.length_replicate]
    omega
  have digits : ∀ char ∈ filled, char.isDigit = true := by
    refine List.forall_mem_append.mpr ⟨canonical.fractionDigits, fun char member => ?_⟩
    rw [List.eq_of_mem_replicate member]
    rfl
  have value : Nat.ofDigitChars 10 filled 0 =
      Nat.ofDigitChars 10 number.fraction 0 * 10 ^ (8 - number.fraction.length) := by
    rw [Nat.ofDigitChars_append, Nat.ofDigitChars_replicate_zero, Nat.mul_comm]
  have places := padded_ofDigitChars digits (List.append_ne_nil_of_left_ne_nil stated _)
  rw [length, value] at places
  rw [places]
  exact dropTrailingZeros_append_zeros canonical.noTrailingZero _

/-- A canonical number is the one that its amount is written as. -/
theorem Canonical.amountDigits_readAmount {number : DecimalNumber} (canonical : number.Canonical) :
    amountDigits (readAmount number.text) = number.text := by
  have written := toDigits_ofDigitChars canonical.wholeDigits canonical.wholeStated
    canonical.noLeadingZero
  have short := canonical.fractionShort
  have part : Nat.ofDigitChars 10 number.fraction 0 * 10 ^ (8 - number.fraction.length) <
      satsPerBitcoin := by
    calc _ < 10 ^ number.fraction.length * 10 ^ (8 - number.fraction.length) :=
          Nat.mul_lt_mul_of_pos_right (ofDigitChars_lt canonical.fractionDigits)
            (Nat.pow_pos (by decide))
      _ = 10 ^ 8 := by rw [← Nat.pow_add, Nat.add_sub_cancel' short]
      _ = satsPerBitcoin := by decide
  have positive : 0 < satsPerBitcoin := by decide
  rw [canonical.readAmount_text]
  unfold amountDigits text
  dsimp only
  rw [Nat.mul_comm _ satsPerBitcoin, Nat.mul_add_div positive, Nat.div_eq_of_lt part, Nat.add_zero,
    Nat.mul_add_mod, Nat.mod_eq_of_lt part, written]
  by_cases round : number.fraction = []
  · rw [if_pos round, round, Nat.ofDigitChars_nil, Nat.zero_mul, if_pos rfl, List.append_nil]
  · have dropped := canonical.dropTrailingZeros_padded round
    rw [if_neg round, if_neg, dropped]
    intro nothing
    rw [nothing] at dropped
    exact round (dropped.symm.trans (by decide))

/-- The number of bitcoin that an amount is. -/
def ofAmount (amount : Nat) : DecimalNumber where
  whole := Nat.toDigits 10 (amount / satsPerBitcoin)
  fraction := dropTrailingZeros (padded 8 (amount % satsPerBitcoin))

theorem fraction_ofAmount_eq_nil_iff (amount : Nat) :
    (ofAmount amount).fraction = [] ↔ amount % satsPerBitcoin = 0 := by
  unfold ofAmount
  dsimp only
  constructor
  · intro absent
    have value := ofDigitChars_dropTrailingZeros (padded 8 (amount % satsPerBitcoin))
    rw [absent, Nat.ofDigitChars_nil, Nat.zero_mul, ofDigitChars_padded] at value
    exact value.symm
  · intro round
    rw [round]
    decide

theorem text_ofAmount (amount : Nat) : (ofAmount amount).text = amountDigits amount := by
  have absentIff := fraction_ofAmount_eq_nil_iff amount
  unfold text amountDigits
  dsimp only
  by_cases round : amount % satsPerBitcoin = 0
  · rw [if_pos (absentIff.mpr round), if_pos round, List.append_nil]
    rfl
  · rw [if_neg (absentIff.not.mpr round), if_neg round]
    rfl

theorem canonical_ofAmount (amount : Nat) : (ofAmount amount).Canonical := by
  have digits (number : Nat) : ∀ char ∈ Nat.toDigits 10 number, char.isDigit = true :=
    fun char => Nat.isDigit_of_mem_toDigits (by decide) (by decide)
  have filled : ∀ char ∈ padded 8 (amount % satsPerBitcoin), char.isDigit = true := by
    refine List.forall_mem_append.mpr ⟨fun char member => ?_, digits _⟩
    rw [List.eq_of_mem_replicate member]
    rfl
  have length : (padded 8 (amount % satsPerBitcoin)).length = 8 :=
    length_padded (by decide) (Nat.mod_lt amount (by decide))
  obtain ⟨count, restored⟩ := dropTrailingZeros_append (padded 8 (amount % satsPerBitcoin))
  rw [← restored] at filled length
  rw [List.length_append] at length
  exact {
    wholeDigits := digits _
    wholeStated := Nat.toDigits_ne_nil
    noLeadingZero := toDigits_of_head?_eq_zero
    fractionDigits := (List.forall_mem_append.mp filled).1
    fractionShort := by
      change (dropTrailingZeros _).length ≤ 8
      omega
    noTrailingZero := getLast?_dropTrailingZeros _ }

end DecimalNumber

theorem label_ofAmount (amount : UInt64) :
    (DecimalNumber.ofAmount amount.toNat).label = amountLabel amount := by
  rw [DecimalNumber.label, DecimalNumber.text_ofAmount, amountLabel]

/-- A canonical number that is worth an amount stands on the label of this amount. -/
theorem label_of_canonical {number : DecimalNumber} (canonical : number.Canonical)
    {amount : UInt64} (worth : number.value * 100000000 = amount.toNat) :
    number.label = amountLabel amount := by
  have read : readAmount number.text = amount.toNat := by
    rw [canonical.value_mul] at worth
    exact_mod_cast worth
  rw [DecimalNumber.label, amountLabel, ← read, canonical.amountDigits_readAmount]

/-- The reader of labels accepts exactly the label of an amount for this amount. -/
theorem readLabel?_eq_some_iff (label : String) (amount : UInt64) :
    readLabel? label = some amount ↔ label = amountLabel amount := by
  unfold readLabel?
  dsimp only
  constructor
  · intro read
    split at read
    · next accepted =>
        obtain ⟨canonical, same, fits⟩ := accepted
        cases read
        refine same.symm.trans (label_of_canonical canonical ?_)
        rw [canonical.value_mul, UInt64.toNat_ofNat_of_lt' fits]
    · cases read
  · rintro rfl
    have canonical := DecimalNumber.canonical_ofAmount amount.toNat
    rw [← label_ofAmount, canonical.takeWhile_label, canonical.ofText_text,
      DecimalNumber.text_ofAmount, readAmount_amountDigits,
      if_pos ⟨canonical, rfl, amount.toNat_lt⟩, UInt64.ofNat_toNat]

/-- The label of an amount is a canonical decimal number of bitcoin and the unit. Times a hundred
million the number is the amount exactly; it has a fraction unless the amount is whole bitcoin, and
then one of at most eight digits that does not end in a zero. The reader of labels finds the amount
in its label and accepts no other text for it, no other amount has this label, and a canonical
number that is worth the amount stands on the label of this amount alone. -/
theorem amountLabel_canonical (amount : UInt64) :
    (∃ number : DecimalNumber, number.Canonical ∧ amountLabel amount = number.label ∧
      number.value * 100000000 = amount.toNat ∧
      (number.fraction = [] ↔ 100000000 ∣ amount.toNat)) ∧
    (∀ label, readLabel? label = some amount ↔ label = amountLabel amount) ∧
    (∀ other, amountLabel other = amountLabel amount ↔ other = amount) ∧
    ∀ number : DecimalNumber, number.Canonical → number.value * 100000000 = amount.toNat →
      ∀ other, amountLabel other = number.label ↔ other = amount := by
  have canonical := DecimalNumber.canonical_ofAmount amount.toNat
  refine ⟨⟨_, canonical, (label_ofAmount amount).symm, ?_, ?_⟩,
    fun label => readLabel?_eq_some_iff label amount, fun other => ?_, ?_⟩
  · rw [canonical.value_mul, DecimalNumber.text_ofAmount, readAmount_amountDigits]
  · rw [DecimalNumber.fraction_ofAmount_eq_nil_iff, satsPerBitcoin, Nat.dvd_iff_mod_eq_zero]
  · exact amountLabel_injective.eq_iff
  · intro number stated worth other
    rw [label_of_canonical stated worth]
    exact amountLabel_injective.eq_iff

/-- One bitcoin and 2,400,000 satoshis; the label with another zero at the end is refused. -/
theorem amountLabel_canonical_of_three_places :
    let number : DecimalNumber := ⟨"1".toList, "024".toList⟩
    number.Canonical ∧ number.value * 100000000 = (102400000 : UInt64).toNat ∧
      amountLabel 102400000 = "1.024 BTC" ∧ readLabel? "1.024 BTC" = some 102400000 ∧
      readLabel? "1.0240 BTC" ≠ some 102400000 := by
  intro number
  obtain ⟨-, reads, -, alone⟩ := amountLabel_canonical 102400000
  have canonical : number.Canonical := by decide +kernel
  have worth : number.value * 100000000 = (102400000 : UInt64).toNat := by
    have read : readAmount number.text = (102400000 : UInt64).toNat := by decide +kernel
    rw [canonical.value_mul, read]
  have label : amountLabel 102400000 = "1.024 BTC" :=
    ((alone number canonical worth 102400000).mpr rfl).trans (by decide +kernel)
  refine ⟨canonical, worth, label, (reads _).mpr label.symm, ?_⟩
  rw [ne_eq, reads, label]
  decide +kernel

end LightningMetrics.Fee
