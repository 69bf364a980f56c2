import Mathlib.Algebra.GroupWithZero.Nat
import Mathlib.Algebra.Order.Group.Nat
import Mathlib.Tactic.Ring
import LightningMetrics.Proofs.Fee.Liquidity
import LightningMetrics.Proofs.Fee.SeriesAmounts

set_option autoImplicit false

namespace LightningMetrics.Fee

variable {fee? : UInt64 → Option UInt64} {limit : Nat}

/-- The first `count` doublings of `amount` are those within `limit` that are words. -/
structure Doublings (amount : Nat) (limit count : Nat) (amounts : List Nat) : Prop where
  amounts_eq : amounts = (List.range count).map fun power => amount * 2 ^ power
  lt_count_iff : ∀ power, power < count ↔
    amount ≠ 0 ∧ amount * 2 ^ power ≤ limit ∧ amount * 2 ^ power < 2 ^ 64

namespace Doublings

variable {amount count : Nat} {amounts : List Nat}

theorem nil (undeliverable : ¬ (amount ≠ 0 ∧ amount ≤ limit)) : Doublings amount limit 0 [] where
  amounts_eq := rfl
  lt_count_iff power := by
    refine iff_of_false (Nat.not_lt_zero _) fun ⟨positive, within, _⟩ =>
      undeliverable ⟨positive, ?_⟩
    exact Nat.le_trans (Nat.le_mul_of_pos_right _ (Nat.two_pow_pos power)) within

theorem singleton (positive : amount ≠ 0) (within : amount ≤ limit) (word : amount < 2 ^ 64)
    (last : 2 ^ 63 ≤ amount) : Doublings amount limit 1 [amount] where
  amounts_eq := by simp
  lt_count_iff power := by
    cases power with
    | zero =>
        rw [Nat.pow_zero, Nat.mul_one]
        exact iff_of_true Nat.one_pos ⟨positive, within, word⟩
    | succ power =>
        refine iff_of_false (by omega) fun ⟨_, _, below⟩ => ?_
        have twice : 2 ≤ 2 ^ (power + 1) := Nat.le_self_pow (Nat.succ_ne_zero power) 2
        have above := Nat.mul_le_mul last twice
        omega

/-- The amount, and then the doublings of its double. -/
theorem cons (positive : amount ≠ 0) (within : amount ≤ limit) (word : amount < 2 ^ 64)
    (doublings : Doublings (2 * amount) limit count amounts) :
    Doublings amount limit (count + 1) (amount :: amounts) where
  amounts_eq := by
    rw [List.range_succ_eq_map, List.map_cons, List.map_map, doublings.amounts_eq, Nat.pow_zero,
      Nat.mul_one]
    refine congrArg (amount :: ·) (List.map_congr_left fun power _ => ?_)
    rw [Function.comp_apply, Nat.pow_succ]
    ring
  lt_count_iff power := by
    cases power with
    | zero =>
        rw [Nat.pow_zero, Nat.mul_one]
        exact iff_of_true (Nat.succ_pos count) ⟨positive, within, word⟩
    | succ power =>
        have double : amount * 2 ^ (power + 1) = 2 * amount * 2 ^ power := by ring
        have same : 2 * amount ≠ 0 ↔ amount ≠ 0 := by omega
        rw [Nat.succ_lt_succ_iff, doublings.lt_count_iff, double, same]

theorem count_le (doublings : Doublings amount limit count amounts) : count ≤ 64 := by
  by_contra more
  obtain ⟨positive, _, word⟩ := (doublings.lt_count_iff 64).mp (by omega)
  omega

end Doublings

theorem doublings_seriesFrom (deliverable : ∀ amount, (fee? amount).isSome ↔ amount.toNat ≤ limit)
    (amount : UInt64) :
    ∃ count, Doublings amount.toNat limit count
      ((seriesFrom fee? amount).map fun point => point.1.toNat) := by
  induction amount using seriesFrom.induct fee? with
  | case1 =>
      rw [seriesFrom_zero]
      exact ⟨0, .nil fun due => due.1 rfl⟩
  | case2 amount positive refused =>
      rw [seriesFrom_of_none positive refused]
      refine ⟨0, .nil fun due => ?_⟩
      have given := (deliverable amount).mpr due.2
      rw [refused] at given
      cases given
  | case3 amount positive fee given ih =>
      have nonzero : amount.toNat ≠ 0 := fun zero => positive (UInt64.toNat_inj.mp zero)
      have within := (deliverable amount).mp (given ▸ rfl)
      rw [seriesFrom_of_some positive given, List.map_cons]
      cases doubled : double? amount with
      | none =>
          have last := double?_eq_none_iff.mp doubled
          exact ⟨1, .singleton nonzero within amount.toNat_lt last⟩
      | some next =>
          obtain ⟨count, doublings⟩ := ih next doubled
          rw [double?_eq_some doubled] at doublings
          exact ⟨count + 1, doublings.cons nonzero within amount.toNat_lt⟩

theorem fee_of_mem_seriesFrom (fee? : UInt64 → Option UInt64) (amount : UInt64) :
    ∀ point ∈ seriesFrom fee? amount, ∃ fee, fee? point.1 = some fee ∧
      point.2 = Binary64.ofNat fee.toNat / Binary64.ofNat point.1.toNat := by
  induction amount using seriesFrom.induct fee? with
  | case1 =>
      rw [seriesFrom_zero]
      exact List.forall_mem_nil _
  | case2 amount positive refused =>
      rw [seriesFrom_of_none positive refused]
      exact List.forall_mem_nil _
  | case3 amount positive fee given ih =>
      rw [seriesFrom_of_some positive given]
      refine List.forall_mem_cons.mpr ⟨⟨fee, given, rfl⟩, ?_⟩
      cases doubled : double? amount with
      | none => exact List.forall_mem_nil _
      | some next => exact ih next doubled

/-- The amounts of the series are the doublings of the base amount that the channels with a policy
carry and that are words. They are all there, in ascending order, at most 64 of them, none for the
base amount 0; and each comes with the fee that is given for it, per satoshi. -/
theorem inboundSeries_deliverable_doublings (base : UInt64) (policies : ChannelMap RoutingPolicy)
    (balances : ChannelMap UInt64) :
    let series := inboundSeries base policies balances
    let limit := usableLiquidity policies balances.toList
    (∃ count ≤ 64,
      series.map (fun point => point.1.toNat) =
        (List.range count).map (fun power => base.toNat * 2 ^ power) ∧
      ∀ power, power < count ↔ base.toNat ≠ 0 ∧ base.toNat * 2 ^ power ≤ limit ∧
        base.toNat * 2 ^ power < 2 ^ 64) ∧
    (series.map fun point => point.1.toNat).Pairwise (· < ·) ∧
    ∀ point ∈ series, ∃ fee, inboundFee? point.1 policies balances = some fee ∧
      point.2 = Binary64.ofNat fee.toNat / Binary64.ofNat point.1.toNat := by
  intro series limit
  have deliverable (amount : UInt64) :
      (inboundFee? amount policies balances).isSome ↔ amount.toNat ≤ limit := by
    rw [isSome_inboundFee_iff_route]
    exact (sending_route policies balances.toList amount).complete_iff (nodup_channels balances)
  obtain ⟨count, doublings⟩ := doublings_seriesFrom deliverable base
  refine ⟨⟨count, doublings.count_le, doublings.amounts_eq, doublings.lt_count_iff⟩, ?_,
    fee_of_mem_seriesFrom _ base⟩
  exact List.pairwise_map.mpr (seriesFrom_ascending (inboundFee? · policies balances) base)

/-- Two channels carry more than a word together, so the series ends with the last word. -/
theorem inboundSeries_up_to_last_word :
    let charging (base rate : UInt64) : RoutingPolicy := ⟨0, 0, 0, base, rate, false⟩
    let policies := ChannelMap.ofEntries [(1, charging 1000 1000), (2, charging 0 10)]
    let balances := ChannelMap.ofEntries [(1, largestWord), (2, largestWord), (3, 1)]
    let series := inboundSeries 0x4000000000000000 policies balances
    usableLiquidity policies balances.toList = 2 ^ 65 - 2 ∧
      series.map (fun point => point.1.toNat) = [2 ^ 62, 2 ^ 63] ∧
      (series.map fun point => point.1.toNat).Pairwise (· < ·) ∧
      ∀ point ∈ series, ∃ fee, inboundFee? point.1 policies balances = some fee ∧
        point.2 = Binary64.ofNat fee.toNat / Binary64.ofNat point.1.toNat := by
  intro charging policies balances series
  have deliverable := inboundSeries_deliverable_doublings 0x4000000000000000 policies balances
  exact ⟨by decide +kernel, by decide +kernel, deliverable.2.1, deliverable.2.2⟩

end LightningMetrics.Fee
