import Mathlib.Algebra.BigOperators.Group.List.Basic
import Mathlib.Algebra.Group.Nat.Defs
import Mathlib.Algebra.GroupWithZero.Nat
import LightningMetrics.Fee.Estimate

set_option autoImplicit false

namespace LightningMetrics

/-- The number, or the largest word where it is larger than that. -/
def clipped (value : Nat) : Nat :=
  min largestWord.toNat value

theorem clipped_of_le {value : Nat} (fits : value ≤ largestWord.toNat) : clipped value = value :=
  Nat.min_eq_right fits

theorem clipped_toNat (word : UInt64) : clipped word.toNat = word.toNat :=
  clipped_of_le (Nat.le_of_lt_succ word.toNat_lt)

/-- It does not matter whether the parts were cut off before they are added. -/
theorem clipped_add_clipped (left right : Nat) :
    clipped (clipped left + clipped right) = clipped (left + right) := by
  unfold clipped
  omega

theorem toNat_saturatingAdd (left right : UInt64) :
    (saturatingAdd left right).toNat = clipped (left.toNat + right.toNat) := by
  have leftBound := left.toNat_lt
  have rightBound := right.toNat_lt
  have largest : largestWord.toNat = 18446744073709551615 := rfl
  unfold saturatingAdd clipped
  by_cases wraps : left + right < left
  · rw [if_pos wraps]
    rw [UInt64.lt_iff_toNat_lt, UInt64.toNat_add] at wraps
    omega
  · rw [if_neg wraps]
    rw [UInt64.lt_iff_toNat_lt, UInt64.toNat_add] at wraps
    rw [UInt64.toNat_add]
    omega

theorem toNat_saturate (value : BitVec 128) :
    (saturate value).toNat = clipped value.toNat := by
  have largest : largestWord.toNat = 18446744073709551615 := rfl
  unfold saturate clipped
  by_cases fits : value.toNat ≤ largestWord.toNat
  · rw [if_pos fits, Nat.min_eq_right fits]
    exact UInt64.toNat_ofNat_of_lt' (Nat.lt_succ_of_le fits)
  · rw [if_neg fits, Nat.min_eq_left (Nat.le_of_not_le fits)]

theorem toNat_product (amount rate : UInt64) :
    (amount.toBitVec.zeroExtend 128 * rate.toBitVec.zeroExtend 128).toNat =
      amount.toNat * rate.toNat := by
  have bound : amount.toNat * rate.toNat < 2 ^ 64 * 2 ^ 64 :=
    Nat.mul_lt_mul'' amount.toNat_lt rate.toNat_lt
  rw [BitVec.toNat_mul, BitVec.toNat_setWidth_of_le (by omega),
    BitVec.toNat_setWidth_of_le (by omega)]
  exact Nat.mod_eq_of_lt bound

namespace RoutingPolicy

/-- What the policy charges for forwarding an amount, in satoshis, whatever its size. -/
def exactFee (policy : RoutingPolicy) (amount : Nat) : Nat :=
  policy.feeBaseMsat.toNat / 1000 + amount * policy.feeRate.toNat / 1000000

theorem toNat_proportionalFee (rate amount : UInt64) :
    (proportionalFee rate amount).toNat =
      clipped (amount.toNat * rate.toNat / 1000000) := by
  unfold proportionalFee
  rw [toNat_saturate, BitVec.toNat_udiv, toNat_product]
  rfl

theorem toNat_forwardingFee (policy : RoutingPolicy) (amount : UInt64) :
    (policy.forwardingFee amount).toNat = clipped (policy.exactFee amount.toNat) := by
  have base : (policy.feeBaseMsat / 1000).toNat = clipped (policy.feeBaseMsat.toNat / 1000) :=
    (clipped_toNat _).symm.trans (congrArg clipped (UInt64.toNat_div ..))
  unfold forwardingFee exactFee
  rw [toNat_saturatingAdd, toNat_proportionalFee, base, clipped_add_clipped]

end RoutingPolicy

namespace Fee

/-- The fees of a route come to the exact sum of them, as far as this has its place in a word. -/
theorem Route.toNat_fee (route : Route) {exact : Shard → Nat}
    (fees : ∀ shard ∈ route.shards, shard.fee.toNat = clipped (exact shard)) :
    route.fee.toNat = clipped ((route.shards.map exact).sum) := by
  suffices total : ∀ (shards : List Shard) (start : UInt64) (sum : Nat),
      (∀ shard ∈ shards, shard.fee.toNat = clipped (exact shard)) → start.toNat = clipped sum →
        (shards.foldl (fun total shard => saturatingAdd total shard.fee) start).toNat =
          clipped (sum + (shards.map exact).sum) by
    have whole := total route.shards 0 0 fees rfl
    rwa [Nat.zero_add] at whole
  intro shards
  induction shards with
  | nil => exact fun start sum _ begun => begun
  | cons shard rest ih =>
      intro start sum fees begun
      have added : (saturatingAdd start shard.fee).toNat = clipped (sum + exact shard) := by
        rw [toNat_saturatingAdd, begun, fees shard List.mem_cons_self, clipped_add_clipped]
      rw [List.foldl_cons, List.map_cons, List.sum_cons, ← Nat.add_assoc]
      exact ih _ _ (fun other member => fees other (List.mem_cons_of_mem _ member)) added

end Fee

end LightningMetrics
