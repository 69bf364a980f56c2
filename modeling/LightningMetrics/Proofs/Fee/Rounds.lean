import Mathlib.Algebra.GroupWithZero.Nat
import Mathlib.Algebra.Order.BigOperators.Group.List
import Mathlib.Algebra.Order.Group.Nat
import Mathlib.Data.List.Infix
import Mathlib.Data.List.Nodup
import LightningMetrics.Fee.Estimate

set_option autoImplicit false

namespace LightningMetrics.Fee

variable {policies : ChannelMap RoutingPolicy} {liquidity : Liquidity} {remaining : UInt64}
  {shard : Shard}

theorem route_zero : route policies liquidity 0 = ⟨[], 0⟩ := by
  rw [route]
  exact dif_pos rfl

theorem route_of_none (positive : remaining ≠ 0)
    (unoffered : cheapest (candidates policies liquidity remaining) = none) :
    route policies liquidity remaining = ⟨[], remaining⟩ := by
  rw [route, dif_neg positive, unoffered]

theorem route_of_some (positive : remaining ≠ 0)
    (found : cheapest (candidates policies liquidity remaining) = some shard) :
    route policies liquidity remaining =
      ⟨shard :: (route policies (spend liquidity shard) (remaining - shard.amount)).shards,
        (route policies (spend liquidity shard) (remaining - shard.amount)).undelivered⟩ := by
  rw [route, dif_neg positive]
  split
  · next unoffered => cases found.symm.trans unoffered
  · next other same =>
      cases found.symm.trans same
      rfl

/-- What is sent over a channel that holds `balance` under `policy`. -/
structure Charged (policies : ChannelMap RoutingPolicy) (liquidity : Liquidity) (shard : Shard)
    (balance : UInt64) (policy : RoutingPolicy) : Prop where
  entry : (shard.channel, balance) ∈ liquidity
  known : policies[shard.channel]? = some policy
  fee : shard.fee = policy.forwardingFee shard.amount
  positive : 0 < shard.amount.toNat
  within : shard.amount.toNat ≤ balance.toNat

/-- A candidate takes all that its channel carries, or all that remains to be sent. -/
theorem charged_of_mem_candidates (positive : remaining ≠ 0)
    (member : shard ∈ candidates policies liquidity remaining) :
    ∃ balance policy, Charged policies liquidity shard balance policy ∧
      shard.amount.toNat ≤ remaining.toNat ∧
      (shard.amount = balance ∨ shard.amount = remaining) := by
  obtain ⟨sends, below⟩ := candidate_amount positive member
  obtain ⟨⟨channel, balance⟩, entry, made⟩ := List.mem_filterMap.mp member
  unfold shard? at made
  split at made
  · cases made
  · obtain ⟨policy, known, rfl⟩ := Option.map_eq_some_iff.mp made
    dsimp only at sends below ⊢
    by_cases fits : remaining ≤ balance
    · rw [if_pos fits] at sends below ⊢
      exact ⟨balance, policy, ⟨entry, known, rfl, sends, UInt64.le_iff_toNat_le.mp fits⟩, below,
        .inr rfl⟩
    · rw [if_neg fits] at sends below ⊢
      exact ⟨balance, policy, ⟨entry, known, rfl, sends, Nat.le_refl _⟩, below, .inl rfl⟩

theorem mem_spend {channel balance : UInt64} (member : (channel, balance) ∈ spend liquidity shard) :
    channel ≠ shard.channel ∧ (channel, balance) ∈ liquidity ∨
      channel = shard.channel ∧ ∃ before, (channel, before) ∈ liquidity ∧
        balance = before - shard.amount := by
  obtain ⟨⟨other, before⟩, entry, same⟩ := List.mem_map.mp member
  by_cases own : other = shard.channel
  · rw [if_pos own] at same
    cases same
    exact .inr ⟨own, before, entry, rfl⟩
  · rw [if_neg own] at same
    cases same
    exact .inl ⟨own, entry⟩

theorem map_fst_spend (liquidity : Liquidity) (shard : Shard) :
    (spend liquidity shard).map Prod.fst = liquidity.map Prod.fst := by
  unfold spend
  rw [List.map_map]
  refine List.map_congr_left fun entry _ => ?_
  by_cases own : entry.1 = shard.channel
  · simp only [Function.comp_apply, if_pos own]
  · simp only [Function.comp_apply, if_neg own]

theorem balance_unique (distinct : (liquidity.map Prod.fst).Nodup) {channel one other : UInt64}
    (first : (channel, one) ∈ liquidity) (second : (channel, other) ∈ liquidity) : one = other :=
  congrArg Prod.snd (List.inj_on_of_nodup_map distinct first second rfl)

/-- How a route sends `remaining` over channels that carry `liquidity`. -/
structure Carries (policies : ChannelMap RoutingPolicy) (liquidity : Liquidity)
    (remaining : UInt64) (route : Route) : Prop where
  distinct : (route.shards.map Shard.channel).Nodup
  charged : ∀ shard ∈ route.shards, ∃ balance policy,
    Charged policies liquidity shard balance policy
  total : (route.shards.map (·.amount.toNat)).sum + route.undelivered.toNat = remaining.toNat
  /-- Every shard but the last takes all that its channel carries. -/
  drained : ∀ shard ∈ route.shards.dropLast, (shard.channel, shard.amount) ∈ liquidity

theorem carries_nil : Carries policies liquidity remaining ⟨[], remaining⟩ where
  distinct := .nil
  charged := nofun
  total := Nat.zero_add _
  drained := nofun

theorem Carries.shards_eq_nil {route : Route} (carries : Carries policies liquidity remaining route)
    (complete : remaining.toNat = 0) : route.shards = [] := by
  refine List.eq_nil_iff_forall_not_mem.mpr fun shard member => ?_
  obtain ⟨_, _, charged⟩ := carries.charged shard member
  have part : shard.amount.toNat ≤ (route.shards.map (·.amount.toNat)).sum :=
    List.le_sum_of_mem (List.mem_map_of_mem member)
  have positive := charged.positive
  have total := carries.total
  omega

/-- A shard that drains its channel leaves the others as they were, so what comes after it travels
over the others. -/
theorem Charged.of_spend (distinct : (liquidity.map Prod.fst).Nodup)
    (drains : (shard.channel, shard.amount) ∈ liquidity) {later : Shard} {balance : UInt64}
    {policy : RoutingPolicy}
    (charged : Charged policies (spend liquidity shard) later balance policy) :
    later.channel ≠ shard.channel ∧ Charged policies liquidity later balance policy := by
  rcases mem_spend charged.entry with ⟨other, entry⟩ | ⟨own, before, entry, rest⟩
  · exact ⟨other, { charged with entry := entry }⟩
  · have whole : before = shard.amount := balance_unique distinct (own ▸ entry) drains
    have positive := charged.positive
    have within := charged.within
    rw [rest, whole, UInt64.sub_self] at within
    exact absurd (Nat.lt_of_lt_of_le positive within) (Nat.lt_irrefl 0)

theorem Carries.cons (distinct : (liquidity.map Prod.fst).Nodup) {balance : UInt64}
    {policy : RoutingPolicy} (charged : Charged policies liquidity shard balance policy)
    (below : shard.amount.toNat ≤ remaining.toNat)
    (ends : shard.amount = balance ∨ shard.amount = remaining) {rest : Route}
    (carries : Carries policies (spend liquidity shard) (remaining - shard.amount) rest) :
    Carries policies liquidity remaining ⟨shard :: rest.shards, rest.undelivered⟩ := by
  have left : (remaining - shard.amount).toNat = remaining.toNat - shard.amount.toNat :=
    UInt64.toNat_sub_of_le _ _ (UInt64.le_iff_toNat_le.mpr below)
  have total : ((shard :: rest.shards).map (·.amount.toNat)).sum + rest.undelivered.toNat =
      remaining.toNat := by
    have later := carries.total
    rw [List.map_cons, List.sum_cons]
    omega
  rcases ends with drains | completes
  · have entry : (shard.channel, shard.amount) ∈ liquidity := drains ▸ charged.entry
    have onwards (later : Shard) (member : later ∈ rest.shards) :
        later.channel ≠ shard.channel ∧ ∃ balance policy,
          Charged policies liquidity later balance policy := by
      obtain ⟨_, _, before⟩ := carries.charged later member
      obtain ⟨other, now⟩ := before.of_spend distinct entry
      exact ⟨other, _, _, now⟩
    refine ⟨List.nodup_cons.mpr ⟨?_, carries.distinct⟩, ?_, total, ?_⟩
    · intro used
      obtain ⟨later, member, same⟩ := List.mem_map.mp used
      exact (onwards later member).1 same
    · exact List.forall_mem_cons.mpr ⟨⟨_, _, charged⟩, fun later member => (onwards later member).2⟩
    · intro drained member
      cases shards : rest.shards with
      | nil =>
          rw [shards] at member
          cases member
      | cons next others =>
          rw [shards, List.dropLast_cons_cons] at member
          rcases List.mem_cons.mp member with rfl | member
          · exact entry
          · have before := carries.drained drained (shards ▸ member)
            have among : drained ∈ rest.shards :=
              shards ▸ List.mem_of_mem_dropLast member
            rcases mem_spend before with ⟨_, entry⟩ | ⟨own, _⟩
            · exact entry
            · exact absurd own (onwards drained among).1
  · -- Nothing remains for another round.
    have finished := carries.shards_eq_nil (by rw [left, completes, Nat.sub_self])
    rw [finished] at total ⊢
    exact ⟨List.nodup_singleton _, List.forall_mem_cons.mpr ⟨⟨_, _, charged⟩, nofun⟩, total, nofun⟩

theorem carries_route (distinct : (liquidity.map Prod.fst).Nodup) :
    Carries policies liquidity remaining (route policies liquidity remaining) := by
  induction liquidity, remaining using route.induct policies with
  | case1 liquidity =>
      rw [route_zero]
      exact carries_nil
  | case2 liquidity remaining positive none =>
      rw [route_of_none positive none]
      exact carries_nil
  | case3 liquidity remaining positive shard found ih =>
      rw [route_of_some positive found]
      obtain ⟨_, _, charged, below, ends⟩ :=
        charged_of_mem_candidates positive (cheapest_mem found)
      exact .cons distinct charged below ends (ih (by rwa [map_fst_spend]))

end LightningMetrics.Fee
