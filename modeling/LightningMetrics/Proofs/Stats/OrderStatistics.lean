import Mathlib.Data.List.GetD
import LightningMetrics.Proofs.Binary64.Comparison
import LightningMetrics.Stats.Sample

set_option autoImplicit false

namespace LightningMetrics.Stats

/-- How many of the values are strictly below this one in the total order. -/
def countBelow (values : List Binary64) (value : Binary64) : Nat :=
  values.countP fun other => other.totalKey < value.totalKey

/-- How many of the values are strictly above this one in the total order. -/
def countAbove (values : List Binary64) (value : Binary64) : Nat :=
  values.countP fun other => value.totalKey < other.totalKey

/-- One of the values, with less than `rank` of them below it and room for `rank` of them that are
not above it. -/
structure IsOrderStatistic (values : List Binary64) (rank : Nat) (value : Binary64) : Prop where
  observed : value ∈ values
  below : countBelow values value < rank
  above : rank + countAbove values value ≤ values.length

section Ranks

variable {values others : List Binary64} {rank : Nat}

theorem length_le_of_totalKey_lt {low high : Binary64} (apart : low.totalKey < high.totalKey)
    (values : List Binary64) : values.length ≤ countBelow values high + countAbove values low := by
  unfold countBelow countAbove
  induction values with
  | nil => exact Nat.zero_le _
  | cons value rest ih =>
      simp only [List.countP_cons, List.length_cons, decide_eq_true_eq]
      split <;> split <;> omega

/-- The rank determines the value, bit for bit. -/
theorem IsOrderStatistic.unique {one other : Binary64} (first : IsOrderStatistic values rank one)
    (second : IsOrderStatistic values rank other) : one = other := by
  have ranked {low high : Binary64} (lower : IsOrderStatistic values rank low)
      (higher : IsOrderStatistic values rank high) : ¬ low.totalKey < high.totalKey := by
    intro apart
    have covered := length_le_of_totalKey_lt apart values
    have below := higher.below
    have above := lower.above
    omega
  apply Binary64.totalKey_injective
  have forth := ranked first second
  have back := ranked second first
  omega

theorem IsOrderStatistic.perm {value : Binary64} (statistic : IsOrderStatistic values rank value)
    (same : values.Perm others) : IsOrderStatistic others rank value := by
  refine ⟨same.mem_iff.mp statistic.observed, ?_, ?_⟩
  · rw [countBelow, ← same.countP_eq]
    exact statistic.below
  · rw [countAbove, ← same.countP_eq, ← same.length_eq]
    exact statistic.above

theorem isOrderStatistic_of_ascending {earlier later : List Binary64} {value : Binary64}
    (ascending : (earlier ++ value :: later).Pairwise fun left right =>
      left.totalKey ≤ right.totalKey) :
    IsOrderStatistic (earlier ++ value :: later) (earlier.length + 1) value := by
  obtain ⟨-, onwards, before⟩ := List.pairwise_append.mp ascending
  have noneBelow : countBelow (value :: later) value = 0 := by
    apply List.countP_eq_zero.mpr
    intro other member
    rw [decide_eq_true_eq, Int.not_lt]
    rcases List.mem_cons.mp member with rfl | further
    · exact Int.le_refl _
    · exact List.rel_of_pairwise_cons onwards further
  have noneAbove : countAbove (earlier ++ [value]) value = 0 := by
    apply List.countP_eq_zero.mpr
    intro other member
    rw [decide_eq_true_eq, Int.not_lt]
    rcases List.mem_append.mp member with ahead | own
    · exact before other ahead value List.mem_cons_self
    · rw [List.mem_singleton.mp own]
  refine ⟨List.mem_append_right _ List.mem_cons_self, ?_, ?_⟩
  · have ahead : countBelow earlier value ≤ earlier.length := List.countP_le_length
    unfold countBelow at *
    rw [List.countP_append, noneBelow]
    omega
  · have further : countAbove later value ≤ later.length := List.countP_le_length
    unfold countAbove at *
    rw [List.append_cons, List.countP_append, noneAbove]
    simp only [List.length_append, List.length_singleton]
    omega

theorem ascending_mergeSort (values : List Binary64) :
    (values.mergeSort Binary64.totalLe).Pairwise fun left right =>
      left.totalKey ≤ right.totalKey := by
  have sorted : (values.mergeSort Binary64.totalLe).Pairwise fun left right =>
      Binary64.totalLe left right = true := by
    apply List.pairwise_mergeSort
    · intro left middle right first second
      unfold Binary64.totalLe at *
      rw [decide_eq_true_eq] at *
      omega
    · intro left right
      unfold Binary64.totalLe
      rw [Bool.or_eq_true, decide_eq_true_eq, decide_eq_true_eq]
      omega
  exact sorted.imp of_decide_eq_true

theorem isOrderStatistic_mergeSort {index : Nat} (within : index < values.length) :
    IsOrderStatistic values (index + 1)
      ((values.mergeSort Binary64.totalLe).getD index .zero) := by
  have order := List.mergeSort_perm values Binary64.totalLe
  have ascending := ascending_mergeSort values
  generalize values.mergeSort Binary64.totalLe = sorted at *
  have inside : index < sorted.length := order.length_eq ▸ within
  have split : sorted.take index ++ sorted[index] :: sorted.drop (index + 1) = sorted := by
    rw [← List.drop_eq_getElem_cons, List.take_append_drop]
  rw [List.getD_eq_getElem _ _ inside]
  rw [← split] at ascending
  have statistic := isOrderStatistic_of_ascending ascending
  rw [split, List.length_take_of_le (Nat.le_of_lt inside)] at statistic
  exact statistic.perm order

end Ranks

section Median

variable {values others : List Binary64}

theorem median_of_odd (odd : values.length % 2 = 1) :
    IsOrderStatistic values (values.length / 2 + 1) (Sample.median values) := by
  unfold Sample.median
  rw [if_neg (by omega)]
  exact isOrderStatistic_mergeSort (by omega)

theorem median_of_even (nonempty : values ≠ []) (even : values.length % 2 = 0) :
    ∃ lower upper, IsOrderStatistic values (values.length / 2) lower ∧
      IsOrderStatistic values (values.length / 2 + 1) upper ∧
      Sample.median values = (lower + upper) / Binary64.ofNat 2 := by
  have positive := List.length_pos_iff.mpr nonempty
  have before : values.length / 2 - 1 + 1 = values.length / 2 := by omega
  have lower : IsOrderStatistic values (values.length / 2 - 1 + 1) _ :=
    isOrderStatistic_mergeSort (by omega)
  rw [before] at lower
  refine ⟨_, _, lower, isOrderStatistic_mergeSort (by omega), ?_⟩
  unfold Sample.median
  exact if_pos even

theorem median_perm (same : values.Perm others) :
    Sample.median others = Sample.median values := by
  have size := same.length_eq
  by_cases empty : values = []
  · rw [empty] at same
    rw [empty, same.nil_eq]
  have someOthers : others ≠ [] := fun absent => empty (absent ▸ same).eq_nil
  rcases Nat.mod_two_eq_zero_or_one values.length with even | odd
  · obtain ⟨lower, upper, first, second, half⟩ := median_of_even empty even
    obtain ⟨lower', upper', first', second', half'⟩ := median_of_even someOthers (size ▸ even)
    rw [← size] at first' second'
    rw [half, half', first'.unique (first.perm same), second'.unique (second.perm same)]
  · have middle := median_of_odd (size ▸ odd)
    rw [← size] at middle
    exact middle.unique ((median_of_odd odd).perm same)

end Median

section Extremes

variable {values : List Binary64}

/-- Choosing between numbers by a key, one after the other, comes to one with the least key. -/
theorem foldl_least {choose : Binary64 → Binary64 → Binary64} {key : Binary64 → Int}
    (chooses : ∀ held value, held.isNaN = false → value.isNaN = false →
      choose held value = if key held < key value then held else value)
    (values : List Binary64) (held : Binary64)
    (numbers : ∀ value ∈ held :: values, value.isNaN = false) :
    values.foldl choose held ∈ held :: values ∧
      ∀ value ∈ held :: values, key (values.foldl choose held) ≤ key value := by
  induction values generalizing held with
  | nil => simp
  | cons next rest ih =>
      have step := chooses held next (numbers held (by simp)) (numbers next (by simp))
      have either : choose held next = held ∨ choose held next = next := by
        rw [step]
        split <;> simp
      have least : key (choose held next) ≤ key held ∧ key (choose held next) ≤ key next := by
        rw [step]
        split <;> omega
      have onwards : ∀ value ∈ choose held next :: rest, value.isNaN = false := by
        intro value member
        apply numbers
        rcases List.mem_cons.mp member with rfl | later
        · rcases either with same | same <;> simp [same]
        · simp [later]
      obtain ⟨among, lowest⟩ := ih (choose held next) onwards
      rw [List.foldl_cons]
      constructor
      · rcases List.mem_cons.mp among with first | later
        · rw [first]
          rcases either with same | same <;> simp [same]
        · simp [later]
      · have first := lowest (choose held next) List.mem_cons_self
        intro value member
        rcases List.mem_cons.mp member with rfl | member
        · omega
        · rcases List.mem_cons.mp member with rfl | later
          · omega
          · exact lowest value (List.mem_cons_of_mem _ later)

/-- Where the choice begins with something above every number, it comes to one of the values. -/
theorem foldl_least_of_start {choose : Binary64 → Binary64 → Binary64} (key : Binary64 → Int)
    {start : Binary64}
    (chooses : ∀ held value, held.isNaN = false → value.isNaN = false →
      choose held value = if key held < key value then held else value)
    (number : start.isNaN = false)
    (top : ∀ value, value.isNaN = false → key value ≤ key start)
    (nonempty : values ≠ []) (numbers : ∀ value ∈ values, value.isNaN = false) :
    values.foldl choose start ∈ values ∧
      ∀ value ∈ values, key (values.foldl choose start) ≤ key value := by
  cases values with
  | nil => exact absurd rfl nonempty
  | cons first rest =>
      have firstNumber := numbers first List.mem_cons_self
      have begins : choose start first = first := by
        rw [chooses start first number firstNumber, if_neg]
        exact Int.not_lt.mpr (top first firstNumber)
      rw [List.foldl_cons, begins]
      exact foldl_least chooses rest first numbers

theorem foldl_min_of_numbers (nonempty : values ≠ [])
    (numbers : ∀ value ∈ values, value.isNaN = false) :
    values.foldl Binary64.min .infinity ∈ values ∧
      ∀ value ∈ values, (values.foldl Binary64.min .infinity).numericKey ≤ value.numericKey := by
  apply foldl_least_of_start Binary64.numericKey _ (by decide) _ nonempty numbers
  · intro held value heldNumber valueNumber
    unfold Binary64.min
    rw [valueNumber, if_neg Bool.false_ne_true]
    simp only [Binary64.lt_iff_numericKey heldNumber valueNumber]
  · exact fun value number => (Binary64.numericKey_bounds number).2

theorem foldl_max_of_numbers (nonempty : values ≠ [])
    (numbers : ∀ value ∈ values, value.isNaN = false) :
    values.foldl Binary64.max .negativeInfinity ∈ values ∧
      ∀ value ∈ values,
        value.numericKey ≤ (values.foldl Binary64.max .negativeInfinity).numericKey := by
  have chooses (held value : Binary64) (heldNumber : held.isNaN = false)
      (valueNumber : value.isNaN = false) :
      held.max value = if -held.numericKey < -value.numericKey then held else value := by
    unfold Binary64.max
    rw [valueNumber, if_neg Bool.false_ne_true]
    simp only [Binary64.lt_iff_numericKey valueNumber heldNumber, Int.neg_lt_neg_iff]
  have top (value : Binary64) (number : value.isNaN = false) :
      -value.numericKey ≤ -Binary64.negativeInfinity.numericKey :=
    Int.neg_le_neg (Binary64.numericKey_bounds number).1
  obtain ⟨among, highest⟩ := foldl_least_of_start (fun value => -value.numericKey) chooses
    (by decide) top nonempty numbers
  exact ⟨among, fun value member => Int.neg_le_neg_iff.mp (highest value member)⟩

end Extremes

theorem foldl_observe (values : List Binary64) (sample : Sample) :
    (values.foldl Sample.observe sample).min = values.foldl Binary64.min sample.min ∧
      (values.foldl Sample.observe sample).max = values.foldl Binary64.max sample.max ∧
      (values.foldl Sample.observe sample).sum = values.foldl (· + ·) sample.sum := by
  induction values generalizing sample with
  | nil => exact ⟨rfl, rfl, rfl⟩
  | cons value rest ih => exact ih (sample.observe value)

theorem report_of_nil (capacity : Nat) : (Sample.ofList capacity []).report = .zero := by
  simp [Sample.ofList, Sample.report]

/-- The report on observations is that on their list, whatever capacity was asked for. -/
theorem report_of_values (capacity : Nat) {values : List Binary64} (nonempty : values ≠ []) :
    (Sample.ofList capacity values).report =
      { min := values.foldl Binary64.min .infinity
        max := values.foldl Binary64.max .negativeInfinity
        mean := values.foldl (· + ·) .zero / Binary64.ofNat values.length
        median := Sample.median values } := by
  obtain ⟨least, greatest, total⟩ := foldl_observe values (Sample.withCapacity capacity)
  have kept := Sample.values_ofList capacity values
  have size : (Sample.ofList capacity values).values.size = values.length := by
    rw [← Array.length_toList, kept]
  have present : (Sample.ofList capacity values).values.isEmpty = false := by
    rw [Array.isEmpty_eq_false_iff, ne_eq, ← Array.toList_eq_nil_iff, kept]
    exact nonempty
  unfold Sample.report
  rw [present, if_neg Bool.false_ne_true, kept, size]
  unfold Sample.ofList
  rw [least, greatest, total]
  rfl

/-- The capacity is no more than a hint. -/
theorem report_ofList_capacity (capacity otherCapacity : Nat) (values : List Binary64) :
    (Sample.ofList capacity values).report = (Sample.ofList otherCapacity values).report := by
  by_cases empty : values = []
  · rw [empty, report_of_nil, report_of_nil]
  · rw [report_of_values _ empty, report_of_values _ empty]

theorem median_report (capacity : Nat) {values : List Binary64} (nonempty : values ≠ []) :
    (Sample.ofList capacity values).report.median = Sample.median values := by
  rw [report_of_values capacity nonempty]

theorem median_report_perm {values others : List Binary64} (same : values.Perm others)
    (capacity otherCapacity : Nat) :
    (Sample.ofList otherCapacity others).report.median =
      (Sample.ofList capacity values).report.median := by
  by_cases empty : values = []
  · subst empty
    have absent := same.nil_eq
    subst absent
    rw [report_of_nil, report_of_nil]
  · have someOthers : others ≠ [] := fun absent => empty (absent ▸ same).eq_nil
    rw [median_report _ empty, median_report _ someOthers, median_perm same]

theorem extremes_report (capacity : Nat) {values : List Binary64} (nonempty : values ≠ [])
    (numbers : ∀ value ∈ values, value.isNaN = false) :
    let report := (Sample.ofList capacity values).report
    report.min ∈ values ∧ report.max ∈ values ∧
      ∀ value ∈ values, report.min.le value = true ∧ value.le report.max = true := by
  intro report
  obtain ⟨leastAmong, least⟩ := foldl_min_of_numbers nonempty numbers
  obtain ⟨greatestAmong, greatest⟩ := foldl_max_of_numbers nonempty numbers
  have shown := report_of_values capacity nonempty
  change report = _ at shown
  rw [shown]
  refine ⟨leastAmong, greatestAmong, fun value member => ?_⟩
  rw [Binary64.le_eq_true, Binary64.le_eq_true]
  exact ⟨⟨numbers _ leastAmong, numbers value member, least value member⟩,
    numbers value member, numbers _ greatestAmong, greatest value member⟩

/-- The minimum and the maximum are the same numbers in whatever order the values came. -/
theorem extremes_report_perm {values others : List Binary64} (same : values.Perm others)
    (capacity otherCapacity : Nat) (numbers : ∀ value ∈ values, value.isNaN = false) :
    let report := (Sample.ofList capacity values).report
    let other := (Sample.ofList otherCapacity others).report
    other.min.numericKey = report.min.numericKey ∧
      other.max.numericKey = report.max.numericKey := by
  intro report other
  by_cases empty : values = []
  · subst empty
    have absent := same.nil_eq
    subst absent
    have shown : report = other := (report_of_nil _).trans (report_of_nil _).symm
    rw [shown]
    exact ⟨rfl, rfl⟩
  · have someOthers : others ≠ [] := fun absent => empty (absent ▸ same).eq_nil
    have otherNumbers : ∀ value ∈ others, value.isNaN = false :=
      fun value member => numbers value (same.mem_iff.mpr member)
    obtain ⟨least, greatest, between⟩ := extremes_report capacity empty numbers
    obtain ⟨least', greatest', between'⟩ :=
      extremes_report otherCapacity someOthers otherNumbers
    have atLeast := (Binary64.le_eq_true.mp (between _ (same.mem_iff.mpr least')).1).2.2
    have atLeast' := (Binary64.le_eq_true.mp (between' _ (same.mem_iff.mp least)).1).2.2
    have atMost := (Binary64.le_eq_true.mp (between _ (same.mem_iff.mpr greatest')).2).2.2
    have atMost' := (Binary64.le_eq_true.mp (between' _ (same.mem_iff.mp greatest)).2).2.2
    exact ⟨Int.le_antisymm atLeast' atLeast, Int.le_antisymm atMost atMost'⟩

/-- No observations report four zeros. Of an odd number the median is one, with at most half of the
others strictly below it and at most half strictly above; of an even number it is half the sum of
the two in the middle; and it depends neither on the order of the observations nor on the capacity.
Where all are numbers the minimum and the maximum are observations with all others between them, and
as numbers they do not depend on the order either. -/
theorem report_order_statistics (values : List Binary64) (capacity : Nat) :
    let report := (Sample.ofList capacity values).report
    (values = [] → report = ⟨.zero, .zero, .zero, .zero⟩) ∧
    (values.length % 2 = 1 →
      report.median ∈ values ∧
        countBelow values report.median ≤ (values.length - 1) / 2 ∧
        countAbove values report.median ≤ (values.length - 1) / 2) ∧
    (values ≠ [] → values.length % 2 = 0 →
      ∃ lower upper, IsOrderStatistic values (values.length / 2) lower ∧
        IsOrderStatistic values (values.length / 2 + 1) upper ∧
        report.median = (lower + upper) / Binary64.ofNat 2) ∧
    (values ≠ [] → (∀ value ∈ values, value.isNaN = false) →
      report.min ∈ values ∧ report.max ∈ values ∧
        ∀ value ∈ values, report.min.le value = true ∧ value.le report.max = true) ∧
    ∀ others otherCapacity, values.Perm others →
      let other := (Sample.ofList otherCapacity others).report
      other.median = report.median ∧
        ((∀ value ∈ values, value.isNaN = false) →
          other.min.numericKey = report.min.numericKey ∧
            other.max.numericKey = report.max.numericKey) := by
  intro report
  refine ⟨?_, fun odd => ?_, fun nonempty even => ?_, extremes_report capacity,
    fun others otherCapacity same => ⟨median_report_perm same capacity otherCapacity,
      extremes_report_perm same capacity otherCapacity⟩⟩
  · rintro rfl
    exact report_of_nil capacity
  · have nonempty : values ≠ [] := by
      rintro rfl
      cases odd
    have middle := median_of_odd odd
    rw [← median_report capacity nonempty] at middle
    have below := middle.below
    have above := middle.above
    change countBelow values report.median < _ at below
    change _ + countAbove values report.median ≤ _ at above
    exact ⟨middle.observed, by omega, by omega⟩
  · obtain ⟨lower, upper, first, second, half⟩ := median_of_even nonempty even
    exact ⟨lower, upper, first, second, (median_report capacity nonempty).trans half⟩

/-- Of a negative NaN, the two zeros and 1 the zeros are in the middle. Of the zeros and 1 alone the
median is the positive zero, and the minimum one of the zeros. -/
theorem report_order_statistics_of_signed_zeros :
    let one : Binary64 := ⟨0x3ff0000000000000⟩
    let negativeZero : Binary64 := ⟨0x8000000000000000⟩
    let negativeNaN : Binary64 := ⟨0xfff8000000000000⟩
    let numbers := [one, .zero, negativeZero]
    let values := [one, negativeNaN, .zero, negativeZero]
    let report := (Sample.ofList 3 numbers).report
    numbers.length % 2 = 1 ∧ report.median = .zero ∧
      numbers ≠ [] ∧ (∀ value ∈ numbers, value.isNaN = false) ∧ report.min ∈ numbers ∧
      report.min.le .zero = true ∧ report.min.le negativeZero = true ∧
      values ≠ [] ∧ values.length % 2 = 0 ∧
      (Sample.ofList 0 values).report.median = (negativeZero + .zero) / Binary64.ofNat 2 ∧
      values.Perm (negativeNaN :: numbers) ∧
      (Sample.ofList 7 (negativeNaN :: numbers)).report.median =
        (Sample.ofList 0 values).report.median := by
  intro one negativeZero negativeNaN numbers values report
  obtain ⟨-, odd, -, extremes, -⟩ := report_order_statistics numbers 3
  obtain ⟨-, -, even, -, perm⟩ := report_order_statistics values 0
  have oddSize : numbers.length % 2 = 1 := by decide
  have evenSize : values.length % 2 = 0 := by decide
  have someNumbers : numbers ≠ [] := List.cons_ne_nil _ _
  have nonempty : values ≠ [] := List.cons_ne_nil _ _
  have areNumbers : ∀ value ∈ numbers, value.isNaN = false := by
    intro value member
    simp only [numbers, List.mem_cons, List.not_mem_nil, or_false] at member
    rcases member with rfl | rfl | rfl <;> decide
  have same : values.Perm (negativeNaN :: numbers) := .swap _ _ _
  obtain ⟨least, -, between⟩ := extremes someNumbers areNumbers
  have middle : report.median = .zero := by
    obtain ⟨among, below, above⟩ := odd oddSize
    have size : numbers.length = 3 := rfl
    rw [size] at below above
    have found : IsOrderStatistic numbers 2 report.median :=
      ⟨among, Nat.lt_succ_of_le below, Nat.add_le_add_left above 2⟩
    exact found.unique ⟨by simp [numbers], by decide, by decide⟩
  have half : (Sample.ofList 0 values).report.median =
      (negativeZero + .zero) / Binary64.ofNat 2 := by
    obtain ⟨lower, upper, first, second, sum⟩ := even nonempty evenSize
    have lowerMiddle : IsOrderStatistic values (values.length / 2) negativeZero :=
      ⟨by simp [values], by decide, by decide⟩
    have upperMiddle : IsOrderStatistic values (values.length / 2 + 1) .zero :=
      ⟨by simp [values], by decide, by decide⟩
    rw [sum, first.unique lowerMiddle, second.unique upperMiddle]
  exact ⟨oddSize, middle, someNumbers, areNumbers, least,
    (between .zero (by simp [numbers])).1, (between negativeZero (by simp [numbers])).1,
    nonempty, evenSize, half, same, (perm _ 7 same).1⟩

end LightningMetrics.Stats
