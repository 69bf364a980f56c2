import LightningMetrics.Proofs.Fee.ExactFee
import LightningMetrics.Proofs.Fee.Rounds

set_option autoImplicit false

namespace LightningMetrics.Fee

/-- The channels that carry a part of the amount. -/
def usedChannels (balances : ChannelMap UInt64) (parts : UInt64 → Nat) : List UInt64 :=
  balances.keys.filter fun channel => decide (0 < parts channel)

/-- The amount, split into what each channel is to carry. -/
structure Split (policies : ChannelMap RoutingPolicy) (balances : ChannelMap UInt64)
    (amount : UInt64) (parts : UInt64 → Nat) : Prop where
  usable : ∀ channel, 0 < parts channel → channel ∈ policies ∧ channel ∈ balances
  within : ∀ channel balance, balances[channel]? = some balance →
    parts channel ≤ balance.toNat
  total : ((usedChannels balances parts).map parts).sum = amount.toNat

/-- Does the split use the channel without draining it? -/
def IsPartlyDrained (balances : ChannelMap UInt64) (parts : UInt64 → Nat) (channel : UInt64) :
    Prop :=
  0 < parts channel ∧ ∃ balance, balances[channel]? = some balance ∧ parts channel < balance.toNat

/-- The exact fees of a split, one for each channel that it uses. -/
def splitFee (policies : ChannelMap RoutingPolicy) (balances : ChannelMap UInt64)
    (parts : UInt64 → Nat) : Nat :=
  ((usedChannels balances parts).map fun channel =>
    (policies[channel]?.map (·.exactFee (parts channel))).getD 0).sum

/-- What a route sends over a channel. -/
def Route.parts (route : Route) (channel : UInt64) : Nat :=
  ((route.shards.find? (·.channel == channel)).map (·.amount.toNat)).getD 0

theorem nodup_channels (balances : ChannelMap UInt64) : (balances.toList.map Prod.fst).Nodup := by
  refine List.pairwise_map.mpr (Std.TreeMap.distinct_keys_toList.imp fun apart same => ?_)
  rw [same] at apart
  exact apart Std.ReflCmp.compare_self

theorem nodup_usedChannels (balances : ChannelMap UInt64) (parts : UInt64 → Nat) :
    (usedChannels balances parts).Nodup := by
  unfold usedChannels
  rw [← Std.TreeMap.map_fst_toList_eq_keys]
  exact (nodup_channels balances).filter _

namespace Carries

variable {policies : ChannelMap RoutingPolicy} {balances : ChannelMap UInt64} {amount : UInt64}
  {route : Route}

/-- No two shards travel over one channel, so a shard is what its channel carries. -/
theorem parts_channel {liquidity : Liquidity}
    (carries : Carries policies liquidity amount route) {shard : Shard}
    (member : shard ∈ route.shards) : route.parts shard.channel = shard.amount.toNat := by
  unfold Route.parts
  cases found : route.shards.find? (·.channel == shard.channel) with
  | none =>
      have apart := List.find?_eq_none.mp found shard member
      exact absurd (beq_self_eq_true _) apart
  | some other =>
      have same : other.channel = shard.channel := by simpa using List.find?_some found
      rw [List.inj_on_of_nodup_map carries.distinct (List.mem_of_find?_eq_some found) member same]
      rfl

theorem exists_shard {channel : UInt64} (used : 0 < route.parts channel) :
    ∃ shard ∈ route.shards, shard.channel = channel := by
  unfold Route.parts at used
  cases found : route.shards.find? (·.channel == channel) with
  | none =>
      rw [found] at used
      cases used
  | some shard =>
      exact ⟨shard, List.mem_of_find?_eq_some found, by simpa using List.find?_some found⟩

theorem charged_channel (carries : Carries policies balances.toList amount route)
    {shard : Shard} (member : shard ∈ route.shards) :
    ∃ balance policy, balances[shard.channel]? = some balance ∧
      policies[shard.channel]? = some policy ∧ shard.fee = policy.forwardingFee shard.amount ∧
      0 < shard.amount.toNat ∧ shard.amount.toNat ≤ balance.toNat := by
  obtain ⟨balance, policy, charged⟩ := carries.charged shard member
  exact ⟨balance, policy, Std.TreeMap.mem_toList_iff_getElem?_eq_some.mp charged.entry,
    charged.known, charged.fee, charged.positive, charged.within⟩

theorem usedChannels_perm (carries : Carries policies balances.toList amount route) :
    (usedChannels balances route.parts).Perm (route.shards.map Shard.channel) := by
  refine (List.perm_ext_iff_of_nodup (nodup_usedChannels _ _) carries.distinct).mpr ?_
  intro channel
  unfold usedChannels
  rw [List.mem_filter, decide_eq_true_eq, Std.TreeMap.mem_keys, List.mem_map]
  constructor
  · rintro ⟨_, used⟩
    exact exists_shard used
  · rintro ⟨shard, member, rfl⟩
    obtain ⟨_, _, known, _, _, positive, _⟩ := carries.charged_channel member
    rw [carries.parts_channel member]
    exact ⟨Std.TreeMap.mem_iff_isSome_getElem?.mpr (known ▸ rfl), positive⟩

theorem sum_usedChannels (carries : Carries policies balances.toList amount route)
    (value : UInt64 → Nat) :
    ((usedChannels balances route.parts).map value).sum =
      (route.shards.map fun shard => value shard.channel).sum := by
  rw [(carries.usedChannels_perm.map value).sum_eq, List.map_map]
  rfl

theorem split (carries : Carries policies balances.toList amount route)
    (delivered : route.undelivered = 0) : Split policies balances amount route.parts where
  usable channel used := by
    obtain ⟨shard, member, rfl⟩ := exists_shard used
    obtain ⟨_, _, carrying, known, _⟩ := carries.charged_channel member
    exact ⟨Std.TreeMap.mem_iff_isSome_getElem?.mpr (known ▸ rfl),
      Std.TreeMap.mem_iff_isSome_getElem?.mpr (carrying ▸ rfl)⟩
  within channel balance held := by
    rcases Nat.eq_zero_or_pos (route.parts channel) with unused | used
    · rw [unused]
      exact Nat.zero_le _
    · obtain ⟨shard, member, rfl⟩ := exists_shard used
      obtain ⟨_, _, carrying, _, _, _, within⟩ := carries.charged_channel member
      cases held.symm.trans carrying
      rwa [carries.parts_channel member]
  total := by
    have total := carries.total
    rw [delivered] at total
    rw [carries.sum_usedChannels, ← total]
    exact congrArg List.sum (List.map_congr_left fun shard member => carries.parts_channel member)

/-- A channel that is left partly drained is that of the last shard. -/
theorem getLast?_of_isPartlyDrained (carries : Carries policies balances.toList amount route)
    {channel : UInt64} (partly : IsPartlyDrained balances route.parts channel) :
    route.shards.getLast?.map Shard.channel = some channel := by
  obtain ⟨used, balance, held, below⟩ := partly
  obtain ⟨shard, member, rfl⟩ := exists_shard used
  obtain ⟨others, last, split⟩ :=
    (List.eq_nil_or_concat' route.shards).resolve_left (List.ne_nil_of_mem member)
  rw [split, List.mem_append, List.mem_singleton] at member
  rcases member with earlier | rfl
  · have whole := carries.drained shard (by rwa [split, List.dropLast_concat])
    cases held.symm.trans (Std.TreeMap.mem_toList_iff_getElem?_eq_some.mp whole)
    rw [carries.parts_channel (split ▸ List.mem_append_left _ earlier)] at below
    exact absurd below (Nat.lt_irrefl _)
  · rw [split, List.getLast?_concat]
    rfl

theorem toNat_fee (carries : Carries policies balances.toList amount route) :
    route.fee.toNat = clipped (splitFee policies balances route.parts) := by
  unfold splitFee
  rw [carries.sum_usedChannels]
  refine route.toNat_fee fun shard member => ?_
  obtain ⟨_, policy, _, known, fee, _⟩ := carries.charged_channel member
  rw [fee, policy.toNat_forwardingFee, carries.parts_channel member, known]
  rfl

end Carries

/-- A fee that is given is that of a split of the amount over channels with a balance and a policy,
within their balances, of which at most one is left partly drained. It is the exact sum of what the
channels charge, each of them once, or the largest word where that is smaller; and no shard takes
more than its channel holds or forms a product that has no place in a double word. -/
theorem inboundFee_of_split (amount : UInt64) (policies : ChannelMap RoutingPolicy)
    (balances : ChannelMap UInt64) (fee : UInt64)
    (given : inboundFee? amount policies balances = some fee) :
    let sent := route policies balances.toList amount
    Split policies balances amount sent.parts ∧
      (∀ one other, IsPartlyDrained balances sent.parts one →
        IsPartlyDrained balances sent.parts other → one = other) ∧
      fee.toNat = min 18446744073709551615 (splitFee policies balances sent.parts) ∧
      ∀ shard ∈ sent.shards, ∃ balance policy, balances[shard.channel]? = some balance ∧
        policies[shard.channel]? = some policy ∧ shard.amount.toNat ≤ balance.toNat ∧
        (shard.amount.toBitVec.zeroExtend 128 * policy.feeRate.toBitVec.zeroExtend 128).toNat =
          shard.amount.toNat * policy.feeRate.toNat ∧
        shard.fee.toNat = min 18446744073709551615 (policy.exactFee shard.amount.toNat) := by
  intro sent
  have carries : Carries policies balances.toList amount sent :=
    carries_route (nodup_channels balances)
  obtain ⟨delivered, same⟩ := Option.ite_none_right_eq_some.mp given
  cases same
  refine ⟨carries.split delivered, fun one other first second => ?_, carries.toNat_fee,
    fun shard member => ?_⟩
  · have last := carries.getLast?_of_isPartlyDrained first
    rw [carries.getLast?_of_isPartlyDrained second] at last
    exact (Option.some.inj last).symm
  · obtain ⟨balance, policy, held, known, charged, _, within⟩ := carries.charged_channel member
    exact ⟨balance, policy, held, known, within, toNat_product shard.amount policy.feeRate,
      charged ▸ policy.toNat_forwardingFee shard.amount⟩

/-- Of 15000 satoshis the cheaper channel carries what it holds, and the other is left partly
drained. -/
theorem inboundFee_of_split_over_two_channels :
    let charging (base rate : UInt64) : RoutingPolicy := ⟨0, 0, 0, base, rate, false⟩
    let policies := ChannelMap.ofEntries [(1, charging 20000 10000), (2, charging 250000 6000)]
    let balances := ChannelMap.ofEntries [(1, 10000), (2, 10000), (3, 500)]
    let parts := (route policies balances.toList 15000).parts
    inboundFee? 15000 policies balances = some 400 ∧
      Split policies balances 15000 parts ∧ parts 1 = 10000 ∧ parts 2 = 5000 ∧
      IsPartlyDrained balances parts 2 ∧ ¬ IsPartlyDrained balances parts 1 ∧
      400 = min 18446744073709551615 (splitFee policies balances parts) := by
  intro charging policies balances parts
  have given : inboundFee? 15000 policies balances = some 400 := by decide +kernel
  obtain ⟨split, single, fee, _⟩ := inboundFee_of_split 15000 policies balances 400 given
  have partly : IsPartlyDrained balances parts 2 :=
    ⟨by decide +kernel, 10000, by decide +kernel, by decide +kernel⟩
  exact ⟨given, split, by decide +kernel, by decide +kernel, partly,
    fun other => absurd (single 1 2 other partly) (by decide), fee⟩

end LightningMetrics.Fee
