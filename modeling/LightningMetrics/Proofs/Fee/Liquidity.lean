import Mathlib.Algebra.BigOperators.Group.List.Basic
import LightningMetrics.Proofs.Fee.Rounds
import LightningMetrics.Proofs.Fee.Splits

set_option autoImplicit false

namespace LightningMetrics.Fee

/-- What the channels with a policy carry together, in satoshis and without the bound of a word. -/
def usableLiquidity (policies : ChannelMap RoutingPolicy) (liquidity : Liquidity) : Nat :=
  ((liquidity.filter fun entry => entry.1 ∈ policies).map fun entry => entry.2.toNat).sum

variable {policies : ChannelMap RoutingPolicy} {liquidity : Liquidity} {remaining : UInt64}
  {shard : Shard}

theorem usableLiquidity_cons (entry : UInt64 × UInt64) (liquidity : Liquidity) :
    usableLiquidity policies (entry :: liquidity) =
      (if entry.1 ∈ policies then entry.2.toNat else 0) + usableLiquidity policies liquidity := by
  unfold usableLiquidity
  by_cases known : entry.1 ∈ policies
  · simp [known]
  · simp [known]

/-- One step of the scan: the later shard replaces the earlier one if it is cheaper. -/
theorem cheaper_some_cases (held shard : Shard) :
    shard.specificFee.lt held.specificFee = true ∧ cheaper (some held) shard = some shard ∨
      shard.specificFee.lt held.specificFee = false ∧ cheaper (some held) shard = some held := by
  unfold cheaper
  dsimp only
  cases shard.specificFee.lt held.specificFee with
  | true => exact .inl ⟨rfl, if_pos rfl⟩
  | false => exact .inr ⟨rfl, if_neg Bool.false_ne_true⟩

theorem cheapest_eq_none_iff {shards : List Shard} : cheapest shards = none ↔ shards = [] := by
  have kept (held : Shard) : ∀ shards : List Shard, shards.foldl cheaper (some held) ≠ none := by
    intro shards
    induction shards generalizing held with
    | nil => exact nofun
    | cons shard rest ih =>
        rw [List.foldl_cons]
        rcases cheaper_some_cases held shard with ⟨-, step⟩ | ⟨-, step⟩
        · rw [step]
          exact ih shard
        · rw [step]
          exact ih held
  cases shards with
  | nil => exact iff_of_true rfl rfl
  | cons shard rest => exact iff_of_false (kept shard rest) (List.cons_ne_nil _ _)

theorem shard?_eq_none_iff (policies : ChannelMap RoutingPolicy) (remaining : UInt64)
    (entry : UInt64 × UInt64) :
    shard? policies remaining entry = none ↔
      (if entry.1 ∈ policies then entry.2.toNat else 0) = 0 := by
  have word : entry.2 = 0 ↔ entry.2.toNat = 0 := UInt64.toNat_inj.symm
  unfold shard?
  by_cases drained : entry.2 = 0
  · rw [if_pos drained, word.mp drained, ite_self]
    exact iff_of_true rfl rfl
  · rw [if_neg drained, Option.map_eq_none_iff]
    by_cases known : entry.1 ∈ policies
    · rw [if_pos known, ← word, Std.TreeMap.getElem?_eq_some_getElem known]
      exact iff_of_false (Option.some_ne_none _) drained
    · rw [if_neg known]
      exact iff_of_true (Std.TreeMap.getElem?_eq_none known) rfl

theorem candidates_eq_nil_iff :
    candidates policies liquidity remaining = [] ↔ usableLiquidity policies liquidity = 0 := by
  induction liquidity with
  | nil => exact iff_of_true rfl rfl
  | cons entry liquidity ih =>
      rw [usableLiquidity_cons, Nat.add_eq_zero_iff, ← ih,
        ← shard?_eq_none_iff policies remaining]
      unfold candidates
      rw [List.filterMap_cons]
      cases shard? policies remaining entry with
      | none => exact (and_iff_right rfl).symm
      | some shard => exact iff_of_false (List.cons_ne_nil _ _) fun drained => nomatch drained.1

theorem spend_of_notMem (unlisted : shard.channel ∉ liquidity.map Prod.fst) :
    spend liquidity shard = liquidity := by
  unfold spend
  refine (List.map_congr_left fun entry member => ?_).trans (List.map_id' liquidity)
  have other : entry.1 ≠ shard.channel := by
    intro own
    exact unlisted (own ▸ List.mem_map_of_mem member)
  exact if_neg other

theorem usableLiquidity_spend (distinct : (liquidity.map Prod.fst).Nodup) {balance : UInt64}
    {policy : RoutingPolicy} (charged : Charged policies liquidity shard balance policy) :
    usableLiquidity policies (spend liquidity shard) + shard.amount.toNat =
      usableLiquidity policies liquidity := by
  obtain ⟨entry, known, -, -, within⟩ := charged
  have usable : shard.channel ∈ policies :=
    Std.TreeMap.mem_iff_isSome_getElem?.mpr (known ▸ rfl)
  have left : (balance - shard.amount).toNat = balance.toNat - shard.amount.toNat :=
    UInt64.toNat_sub_of_le _ _ (UInt64.le_iff_toNat_le.mpr within)
  induction liquidity with
  | nil => cases entry
  | cons first rest ih =>
      rw [List.map_cons, List.nodup_cons] at distinct
      change usableLiquidity policies ((if first.1 = shard.channel then
        (first.1, first.2 - shard.amount) else first) :: spend rest shard) + _ = _
      rcases List.mem_cons.mp entry with rfl | later
      · rw [if_pos rfl, spend_of_notMem distinct.1, usableLiquidity_cons, usableLiquidity_cons,
          if_pos usable, if_pos usable, left]
        dsimp only
        omega
      · have other : first.1 ≠ shard.channel := by
          intro own
          exact distinct.1 (own ▸ List.mem_map_of_mem later)
        have spent := ih distinct.2 later
        rw [if_neg other, usableLiquidity_cons, usableLiquidity_cons]
        omega

/-- Shards sent one after the other, each of them any that is offered at that point, until nothing
remains or nothing is offered. The last index is what could not be sent. -/
inductive Sending (policies : ChannelMap RoutingPolicy) :
    Liquidity → UInt64 → List Shard → UInt64 → Prop
  | complete (liquidity : Liquidity) : Sending policies liquidity 0 [] 0
  | stuck {liquidity : Liquidity} {remaining : UInt64} (positive : remaining ≠ 0)
      (exhausted : candidates policies liquidity remaining = []) :
      Sending policies liquidity remaining [] remaining
  | round {liquidity : Liquidity} {remaining undelivered : UInt64} {shard : Shard}
      {shards : List Shard} (positive : remaining ≠ 0)
      (offered : shard ∈ candidates policies liquidity remaining)
      (rest : Sending policies (spend liquidity shard) (remaining - shard.amount) shards
        undelivered) :
      Sending policies liquidity remaining (shard :: shards) undelivered

/-- Whichever shards are sent, what could not be sent is what the amount has above the usable
liquidity. -/
theorem Sending.undelivered_eq {undelivered : UInt64} {shards : List Shard}
    (sending : Sending policies liquidity remaining shards undelivered)
    (distinct : (liquidity.map Prod.fst).Nodup) :
    undelivered.toNat = remaining.toNat - usableLiquidity policies liquidity := by
  induction sending with
  | complete liquidity => exact (Nat.zero_sub _).symm
  | stuck positive exhausted =>
      rw [candidates_eq_nil_iff.mp exhausted, Nat.sub_zero]
  | round positive offered rest ih =>
      obtain ⟨balance, policy, charged, below, -⟩ := charged_of_mem_candidates positive offered
      have spent := usableLiquidity_spend distinct charged
      rw [ih (by rwa [map_fst_spend]),
        UInt64.toNat_sub_of_le _ _ (UInt64.le_iff_toNat_le.mpr below)]
      omega

theorem sending_route (policies : ChannelMap RoutingPolicy) (liquidity : Liquidity)
    (remaining : UInt64) :
    Sending policies liquidity remaining (route policies liquidity remaining).shards
      (route policies liquidity remaining).undelivered := by
  induction liquidity, remaining using route.induct policies with
  | case1 liquidity =>
      rw [route_zero]
      exact .complete liquidity
  | case2 liquidity remaining positive none =>
      rw [route_of_none positive none]
      exact .stuck positive (cheapest_eq_none_iff.mp none)
  | case3 liquidity remaining positive shard found ih =>
      rw [route_of_some positive found]
      exact .round positive (cheapest_mem found) ih

theorem Sending.complete_iff {undelivered : UInt64} {shards : List Shard}
    (sending : Sending policies liquidity remaining shards undelivered)
    (distinct : (liquidity.map Prod.fst).Nodup) :
    undelivered = 0 ↔ remaining.toNat ≤ usableLiquidity policies liquidity := by
  have rest := sending.undelivered_eq distinct
  rw [← UInt64.toNat_inj, UInt64.toNat_zero]
  omega

theorem isSome_inboundFee_iff_route (amount : UInt64) (policies : ChannelMap RoutingPolicy)
    (balances : ChannelMap UInt64) :
    (inboundFee? amount policies balances).isSome ↔
      (route policies balances.toList amount).undelivered = 0 := by
  unfold inboundFee?
  dsimp only
  by_cases delivered : (route policies balances.toList amount).undelivered = 0
  · simp [delivered]
  · simp [delivered]

/-- A fee is given for an amount exactly when the channels with a policy carry that much together.
The same holds of every other way to send it: no order of the shards fails where the liquidity
suffices, and none succeeds where it does not. -/
theorem isSome_inboundFee_iff (amount : UInt64) (policies : ChannelMap RoutingPolicy)
    (balances : ChannelMap UInt64) :
    ((inboundFee? amount policies balances).isSome ↔
      amount.toNat ≤ usableLiquidity policies balances.toList) ∧
    ∀ shards undelivered, Sending policies balances.toList amount shards undelivered →
      (undelivered = 0 ↔ amount.toNat ≤ usableLiquidity policies balances.toList) := by
  have distinct := nodup_channels balances
  refine ⟨?_, fun shards undelivered sending => sending.complete_iff distinct⟩
  rw [isSome_inboundFee_iff_route]
  exact (sending_route policies balances.toList amount).complete_iff distinct

/-- The dearer channel is drained first here, and the third has no policy. -/
theorem isSome_inboundFee_of_dearer_first :
    let charging (base rate : UInt64) : RoutingPolicy := ⟨0, 0, 0, base, rate, false⟩
    let policies := ChannelMap.ofEntries [(1, charging 20000 10000), (2, charging 250000 6000)]
    let balances := ChannelMap.ofEntries [(1, 10000), (2, 10000), (3, 500)]
    Sending policies balances.toList 15000 [⟨2, 10000, 310⟩, ⟨1, 5000, 70⟩] 0 ∧
      15000 ≤ usableLiquidity policies balances.toList ∧
      (inboundFee? 15000 policies balances).isSome ∧
      ¬ (inboundFee? 20001 policies balances).isSome := by
  intro charging policies balances
  have sending : Sending policies balances.toList 15000 [⟨2, 10000, 310⟩, ⟨1, 5000, 70⟩] 0 :=
    .round (by decide) (by decide +kernel) <| .round (by decide) (by decide +kernel) <|
      .complete _
  have fits := ((isSome_inboundFee_iff 15000 policies balances).2 _ _ sending).mp rfl
  refine ⟨sending, fits, (isSome_inboundFee_iff 15000 policies balances).1.mpr fits, ?_⟩
  rw [(isSome_inboundFee_iff 20001 policies balances).1]
  decide +kernel

end LightningMetrics.Fee
