import Mathlib.Algebra.BigOperators.Group.List.Basic
import Mathlib.Algebra.BigOperators.Ring.Finset
import Mathlib.Algebra.BigOperators.Ring.List
import Mathlib.Algebra.Order.BigOperators.Group.List
import Mathlib.Algebra.Order.Field.Basic
import Mathlib.Algebra.Order.Field.Rat
import Mathlib.Tactic.Linarith
import LightningMetrics.Proofs.Fee.Ranking

/-!
How the inbound fee compares with the fees of other ways to split the amount. It is not a lower
bound of them: a round compares what the channels charge for what then remains, so a channel whose
base fee pays off only for a large part is passed over, and what rounding takes off small parts is
not looked for. It is a lower bound up to these two effects: of the unrounded fees, with a base fee
counted for each started shard of the size that the rounds compared.
-/

set_option autoImplicit false

namespace LightningMetrics

namespace RoutingPolicy

/-- What the policy charges for an amount in `count` shards, unrounded and in millionths of a
satoshi. -/
def unroundedFee (policy : RoutingPolicy) (count amount : Nat) : Nat :=
  count * (policy.feeBaseMsat.toNat / 1000 * 1000000) + amount * policy.feeRate.toNat

/-- What rounding down takes off the fee for an amount, in millionths of a satoshi. -/
def roundedOff (policy : RoutingPolicy) (amount : Nat) : Nat :=
  amount * policy.feeRate.toNat % 1000000

theorem unroundedFee_one (policy : RoutingPolicy) (amount : Nat) :
    policy.unroundedFee 1 amount =
      1000000 * policy.exactFee amount + policy.roundedOff amount := by
  unfold unroundedFee exactFee roundedOff
  omega

theorem forwardingFee_le_unroundedFee (policy : RoutingPolicy) (amount : UInt64) :
    1000000 * (policy.forwardingFee amount).toNat ≤ policy.unroundedFee 1 amount.toNat := by
  have cut : clipped (policy.exactFee amount.toNat) ≤ policy.exactFee amount.toNat :=
    Nat.min_le_right _ _
  rw [policy.unroundedFee_one, policy.toNat_forwardingFee]
  omega

/-- With enough shards a part costs, per satoshi, at least what a smaller amount costs in one. -/
theorem unroundedFee_mul_le (policy : RoutingPolicy) {count amount part : Nat}
    (enough : part ≤ count * amount) :
    policy.unroundedFee 1 amount * part ≤ policy.unroundedFee count part * amount := by
  unfold unroundedFee
  generalize policy.feeBaseMsat.toNat / 1000 * 1000000 = base
  calc (1 * base + amount * policy.feeRate.toNat) * part
      = base * part + amount * part * policy.feeRate.toNat := by ring
    _ ≤ base * (count * amount) + amount * part * policy.feeRate.toNat := by gcongr
    _ = (count * base + part * policy.feeRate.toNat) * amount := by ring

end RoutingPolicy

namespace Fee

/-- The prices of `channels` are not below the costs of the shards that are sent while they are
unused, and what the shards send is to be sent over these channels. -/
structure Priced (cost : Shard → ℚ) (price : UInt64 → ℚ) (parts : UInt64 → Nat)
    (shards : List Shard) (channels : List UInt64) : Prop where
  distinct : channels.Nodup
  positive : ∀ shard ∈ shards, 0 < shard.amount.toNat
  covered : (shards.map (·.amount.toNat)).sum ≤ (channels.map parts).sum
  drained : ∀ shard ∈ shards.dropLast, parts shard.channel ≤ shard.amount.toNat
  dearer : ∀ sent shard later, shards = sent ++ shard :: later → ∀ channel ∈ channels,
    channel ∉ sent.map Shard.channel → cost shard ≤ price channel * shard.amount.toNat

section Prices

theorem sum_le_add_filter (parts : UInt64 → Nat) (used : UInt64) (channels : List UInt64)
    (distinct : channels.Nodup) :
    (channels.map parts).sum ≤
      parts used + ((channels.filter (· ≠ used)).map parts).sum := by
  induction channels with
  | nil => exact Nat.zero_le _
  | cons channel channels ih =>
      obtain ⟨apart, distinct⟩ := List.nodup_cons.mp distinct
      by_cases same : channel = used
      · subst same
        have others : channels.filter (· ≠ channel) = channels :=
          List.filter_eq_self.mpr fun other member =>
            decide_eq_true (ne_of_mem_of_not_mem member apart)
        rw [List.filter_cons_of_neg (by simp), others, List.map_cons, List.sum_cons]
      · have rest := ih distinct
        rw [List.filter_cons_of_pos (by simpa using same), List.map_cons, List.sum_cons,
          List.map_cons, List.sum_cons]
        omega

variable {cost : Shard → ℚ} {price : UInt64 → ℚ} {parts : UInt64 → Nat}

/-- After a shard the rest is to be sent over the other channels. -/
theorem Priced.tail {shard : Shard} {shards : List Shard} {channels : List UInt64}
    (priced : Priced cost price parts (shard :: shards) channels) :
    Priced cost price parts shards (channels.filter (· ≠ shard.channel)) where
  distinct := priced.distinct.filter _
  positive later member := priced.positive later (List.mem_cons_of_mem _ member)
  covered := by
    cases shards with
    | nil => exact Nat.zero_le _
    | cons next shards =>
        have taken := priced.drained shard List.mem_cons_self
        have covered := priced.covered
        have others := sum_le_add_filter parts shard.channel channels priced.distinct
        rw [List.map_cons, List.sum_cons] at covered
        omega
  drained later member := by
    refine priced.drained later ?_
    cases shards with
    | nil => cases member
    | cons next shards => exact List.mem_cons_of_mem _ member
  dearer sent later rest parts channel member unused := by
    obtain ⟨member, other⟩ := List.mem_filter.mp member
    refine priced.dearer (shard :: sent) later rest (congrArg (shard :: ·) parts) channel member ?_
    rw [List.map_cons, List.mem_cons, not_or]
    exact ⟨of_decide_eq_true other, unused⟩

theorem sum_above (floor : ℚ) (channels : List UInt64) :
    (channels.map fun channel => (price channel - floor) * parts channel).sum =
      (channels.map fun channel => price channel * parts channel).sum -
        floor * (channels.map parts).sum := by
  induction channels with
  | nil => simp
  | cons channel channels ih =>
      simp only [List.map_cons, List.sum_cons, Nat.cast_add]
      rw [ih]
      ring

/-- The induction is on the shards. What is compared is the part of all costs and prices above
`floor`, the highest cost per satoshi of the shards before: the prices of the channels that are left
are not below it, so it does not matter which of them the remaining satoshis are sent over. -/
theorem Priced.cost_le_above {shards : List Shard} {channels : List UInt64}
    (priced : Priced cost price parts shards channels) (floor : ℚ)
    (above : ∀ channel ∈ channels, floor ≤ price channel) :
    (shards.map cost).sum - floor * (shards.map (·.amount.toNat)).sum ≤
      (channels.map fun channel => price channel * parts channel).sum -
        floor * (channels.map parts).sum := by
  induction shards generalizing channels floor with
  | nil =>
      rw [← sum_above, List.map_nil, List.map_nil, List.sum_nil, List.sum_nil, Nat.cast_zero,
        mul_zero, sub_zero]
      refine List.sum_nonneg fun value member => ?_
      obtain ⟨channel, listed, rfl⟩ := List.mem_map.mp member
      exact mul_nonneg (sub_nonneg.mpr (above channel listed)) (Nat.cast_nonneg _)
  | cons shard shards ih =>
      have positive : (0 : ℚ) < shard.amount.toNat :=
        Nat.cast_pos.mpr (priced.positive shard List.mem_cons_self)
      let top := max floor (cost shard / shard.amount.toNat)
      have higher : ∀ channel ∈ channels, top ≤ price channel := by
        intro channel member
        refine max_le (above channel member) ((div_le_iff₀ positive).mpr ?_)
        exact priced.dearer [] shard shards rfl channel member List.not_mem_nil
      have own : cost shard ≤ top * shard.amount.toNat :=
        (div_le_iff₀ positive).mp (le_max_right _ _)
      have later := ih priced.tail top fun channel member =>
        higher channel (List.mem_of_mem_filter member)
      have fewer : ((channels.filter (· ≠ shard.channel)).map fun channel =>
          (price channel - top) * parts channel).sum ≤
            (channels.map fun channel => (price channel - top) * parts channel).sum := by
        refine (List.filter_sublist.map _).sum_le_sum fun value member => ?_
        obtain ⟨channel, listed, rfl⟩ := List.mem_map.mp member
        exact mul_nonneg (sub_nonneg.mpr (higher channel listed)) (Nat.cast_nonneg _)
      rw [sum_above, sum_above] at fewer
      have rises : (top - floor) * ((shard :: shards).map (·.amount.toNat)).sum ≤
          (top - floor) * (channels.map parts).sum :=
        mul_le_mul_of_nonneg_left (Nat.cast_le.mpr priced.covered)
          (sub_nonneg.mpr (le_max_left _ _))
      rw [List.map_cons, List.sum_cons, Nat.cast_add] at rises
      rw [List.map_cons, List.sum_cons, List.map_cons, List.sum_cons, Nat.cast_add]
      linarith

theorem Priced.cost_le {shards : List Shard} {channels : List UInt64}
    (priced : Priced cost price parts shards channels)
    (nonnegative : ∀ channel ∈ channels, 0 ≤ price channel) :
    (shards.map cost).sum ≤ (channels.map fun channel => price channel * parts channel).sum := by
  have above := priced.cost_le_above 0 nonnegative
  rwa [zero_mul, zero_mul, sub_zero, sub_zero] at above

end Prices

/-- In how many shards of at most `size` a part can be sent. -/
def instalments (size part : Nat) : Nat :=
  (part + size - 1) / size

theorem le_instalments_mul {size : Nat} (positive : 0 < size) (part : Nat) :
    part ≤ instalments size part * size := by
  have division := Nat.div_add_mod' (part + size - 1) size
  have remainder := Nat.mod_lt (part + size - 1) positive
  unfold instalments
  omega

theorem instalments_eq_one {size part : Nat} (used : 0 < part) (fits : part ≤ size) :
    instalments size part = 1 := by
  unfold instalments
  rw [Nat.div_eq_iff (by omega)]
  omega

/-- What the last shard carries. -/
def Route.lastAmount (route : Route) : Nat :=
  (route.shards.getLast?.map (·.amount.toNat)).getD 0

/-- As long as a channel is unused, the rounds compare its price for at least this much, or for all
that it holds. -/
def Route.leastOffer (route : Route) (channel : UInt64) : Nat :=
  max (route.parts channel) route.lastAmount

/-- The fee of a channel's part before rounding, in millionths of a satoshi, where it is sent in
shards of at most the given size and the base fee is charged for each of them. -/
def unroundedPartFee (policies : ChannelMap RoutingPolicy) (size parts : UInt64 → Nat)
    (channel : UInt64) : Nat :=
  (policies[channel]?.map fun policy =>
    policy.unroundedFee (instalments (size channel) (parts channel)) (parts channel)).getD 0

/-- The fees of a split before rounding. -/
def unroundedSplitFee (policies : ChannelMap RoutingPolicy) (balances : ChannelMap UInt64)
    (size parts : UInt64 → Nat) : Nat :=
  ((usedChannels balances parts).map (unroundedPartFee policies size parts)).sum

/-- What rounding down takes off the fees of a split, in millionths of a satoshi. -/
def splitRoundedOff (policies : ChannelMap RoutingPolicy) (balances : ChannelMap UInt64)
    (parts : UInt64 → Nat) : Nat :=
  ((usedChannels balances parts).map fun channel =>
    (policies[channel]?.map (·.roundedOff (parts channel))).getD 0).sum

theorem RanksFirst.not_cheaper {policies : UInt64 → Option RoutingPolicy} {held : UInt64 → Nat}
    {remaining : Nat} {shard other : Shard} (positive : 0 < remaining)
    (first : RanksFirst policies held remaining shard)
    (offered : Offered policies held remaining other) :
    other.specificFee.lt shard.specificFee = false := by
  by_cases same : other = shard
  · rw [same]
    exact Binary64.lt_irrefl _
  · have ownNumber := first.offered.isNaN_specificFee positive
    have otherNumber := offered.isNaN_specificFee positive
    have ranked := first.precedes other offered same
    rw [Shard.precedes_iff ownNumber otherNumber] at ranked
    rw [← Bool.not_eq_true, Binary64.lt_iff_numericKey otherNumber ownNumber]
    omega

/-- Shards that suffice for a part still do if they are as large as a round would compare them. -/
theorem part_le_mul_min {part count size remaining held : Nat} (used : 0 < part)
    (within : part ≤ held) (compared : size ≤ remaining) (enough : part ≤ count * size) :
    part ≤ count * min remaining held := by
  rcases Nat.le_total remaining held with less | less
  · rw [Nat.min_eq_left less]
    exact Nat.le_trans enough (Nat.mul_le_mul_left _ compared)
  · rw [Nat.min_eq_right less]
    have counted : 0 < count := by
      rw [Nat.pos_iff_ne_zero]
      rintro rfl
      omega
    exact Nat.le_trans within (Nat.le_mul_of_pos_left _ counted)

/-- The shard that ranks first is not dearer per satoshi than what a channel that still holds its
part charges for it, if the channel sends it in shards no larger than what remains. -/
theorem RanksFirst.fee_le {policies : UInt64 → Option RoutingPolicy} {held : UInt64 → Nat}
    {remaining : Nat} {shard : Shard} {channel : UInt64} {policy : RoutingPolicy}
    {part count size : Nat} (first : RanksFirst policies held remaining shard)
    (positive : 0 < remaining) (word : remaining < 2 ^ 64)
    (known : policies channel = some policy) (used : 0 < part)
    (within : part ≤ held channel) (compared : size ≤ remaining)
    (enough : part ≤ count * size) :
    (2 ^ 50 - 1) * (1000000 * shard.fee.toNat) * part ≤
      2 ^ 50 * policy.unroundedFee count part * shard.amount.toNat := by
  let offer : Nat := min remaining (held channel)
  have offerPositive : 0 < offer := by omega
  let other : Shard := ⟨channel, UInt64.ofNat offer, policy.forwardingFee (UInt64.ofNat offer)⟩
  have fits : offer < UInt64.size := Nat.lt_of_le_of_lt (Nat.min_le_left _ _) word
  have amount : other.amount.toNat = offer := UInt64.toNat_ofNat_of_lt' fits
  have offered : Offered policies held remaining other :=
    ⟨Nat.lt_of_lt_of_le used within, amount, policy, known, rfl⟩
  have own := first.offered.amount_eq
  have holds := first.offered.holds
  have compare := Binary64.fraction_le_of_not_lt (by omega) (amount ▸ offerPositive)
    shard.fee.toNat_lt shard.amount.toNat_lt other.fee.toNat_lt other.amount.toNat_lt
    (first.not_cheaper positive offered)
  have charge := policy.forwardingFee_le_unroundedFee (UInt64.ofNat offer)
  change 1000000 * other.fee.toNat ≤ policy.unroundedFee 1 other.amount.toNat at charge
  have shares : part ≤ count * offer := part_le_mul_min used within compared enough
  have price := policy.unroundedFee_mul_le shares
  rw [amount] at compare charge
  refine Nat.le_of_mul_le_mul_right ?_ offerPositive
  calc (2 ^ 50 - 1) * (1000000 * shard.fee.toNat) * part * offer
      = 1000000 * part * ((2 ^ 50 - 1) * (shard.fee.toNat * offer)) := by ring
    _ ≤ 1000000 * part * (2 ^ 50 * (other.fee.toNat * shard.amount.toNat)) := by gcongr
    _ = 2 ^ 50 * shard.amount.toNat * part * (1000000 * other.fee.toNat) := by ring
    _ ≤ 2 ^ 50 * shard.amount.toNat * part * policy.unroundedFee 1 offer := by gcongr
    _ = 2 ^ 50 * shard.amount.toNat * (policy.unroundedFee 1 offer * part) := by ring
    _ ≤ 2 ^ 50 * shard.amount.toNat * (policy.unroundedFee count part * offer) := by gcongr
    _ = 2 ^ 50 * policy.unroundedFee count part * shard.amount.toNat * offer := by ring

theorem foldl_heldAfter_of_notMem {channel : UInt64} (shards : List Shard)
    (held : UInt64 → Nat) (unused : channel ∉ shards.map Shard.channel) :
    shards.foldl heldAfter held channel = held channel := by
  induction shards generalizing held with
  | nil => rfl
  | cons shard shards ih =>
      rw [List.map_cons, List.mem_cons, not_or] at unused
      rw [List.foldl_cons, ih _ unused.2]
      exact if_neg unused.1

namespace Carries

variable {policies : ChannelMap RoutingPolicy} {balances : ChannelMap UInt64} {amount : UInt64}
  {route : Route}

theorem lastAmount_pos (carries : Carries policies balances.toList amount route) {shard : Shard}
    (member : shard ∈ route.shards) : 0 < route.lastAmount := by
  unfold Route.lastAmount
  cases last : route.shards.getLast? with
  | none =>
      rw [List.getLast?_eq_none_iff.mp last] at member
      cases member
  | some shard =>
      obtain ⟨_, _, charged⟩ := carries.charged shard (List.mem_of_getLast? last)
      exact charged.positive

theorem leastOffer_le (carries : Carries policies balances.toList amount route)
    {sent later : List Shard} {shard : Shard} (shards : route.shards = sent ++ shard :: later)
    {channel : UInt64} (unused : channel ∉ sent.map Shard.channel) :
    route.leastOffer channel ≤ ((shard :: later).map (·.amount.toNat)).sum := by
  refine max_le ?_ ?_
  · rcases Nat.eq_zero_or_pos (route.parts channel) with none | some
    · rw [none]
      exact Nat.zero_le _
    · obtain ⟨own, member, rfl⟩ := exists_shard some
      rw [carries.parts_channel member]
      rw [shards, List.mem_append] at member
      rcases member with earlier | member
      · exact absurd (List.mem_map_of_mem earlier) unused
      · exact List.le_sum_of_mem (List.mem_map_of_mem member)
  · unfold Route.lastAmount
    rw [shards, List.getLast?_append_of_ne_nil _ (List.cons_ne_nil shard later)]
    cases last : (shard :: later).getLast? with
    | none => exact Nat.zero_le _
    | some shard => exact List.le_sum_of_mem (List.mem_map_of_mem (List.mem_of_getLast? last))

end Carries

section Splits

variable {policies : ChannelMap RoutingPolicy} {balances : ChannelMap UInt64} {amount : UInt64}
  {parts : UInt64 → Nat}

theorem Split.used (split : Split policies balances amount parts) {channel : UInt64}
    (member : channel ∈ usedChannels balances parts) :
    0 < parts channel ∧ parts channel ≤ heldIn balances channel ∧
      ∃ policy, policies[channel]? = some policy := by
  have used : 0 < parts channel := of_decide_eq_true (List.mem_filter.mp member).2
  obtain ⟨known, listed⟩ := split.usable channel used
  refine ⟨used, ?_, _, Std.TreeMap.getElem?_eq_some_getElem known⟩
  unfold heldIn
  rw [Std.TreeMap.getElem?_eq_some_getElem listed]
  exact split.within channel _ (Std.TreeMap.getElem?_eq_some_getElem listed)

theorem Split.of_channels (channels : List UInt64)
    (others : ∀ channel, channel ∉ channels → parts channel = 0)
    (usable : ∀ channel ∈ channels, channel ∈ policies ∧ channel ∈ balances ∧
      parts channel ≤ heldIn balances channel)
    (total : ((usedChannels balances parts).map parts).sum = amount.toNat) :
    Split policies balances amount parts where
  usable channel used := by
    have named : channel ∈ channels := by
      by_contra unnamed
      rw [others channel unnamed] at used
      exact Nat.lt_irrefl 0 used
    exact ⟨(usable channel named).1, (usable channel named).2.1⟩
  within channel balance held := by
    by_cases named : channel ∈ channels
    · have within := (usable channel named).2.2
      unfold heldIn at within
      rwa [held] at within
    · rw [others channel named]
      exact Nat.zero_le _
  total := total

/-- The price per satoshi at which a channel sends its part, in parts of `2 ^ -50` of a millionth
of a satoshi. -/
def pricePerSatoshi (policies : ChannelMap RoutingPolicy) (size parts : UInt64 → Nat)
    (channel : UInt64) : ℚ :=
  ((2 ^ 50 * unroundedPartFee policies size parts channel : Nat) : ℚ) / parts channel

/-- The channels of a split are not cheaper than the shards of a route that are sent before. -/
theorem priced_route (delivered : (route policies balances.toList amount).undelivered = 0)
    (split : Split policies balances amount parts) :
    Priced (fun shard => (((2 ^ 50 - 1) * (1000000 * shard.fee.toNat) : Nat) : ℚ))
      (pricePerSatoshi policies (route policies balances.toList amount).leastOffer parts) parts
      (route policies balances.toList amount).shards (usedChannels balances parts) := by
  have carries : Carries policies balances.toList amount (route policies balances.toList amount) :=
    carries_route (nodup_channels balances)
  have total := carries.total
  rw [delivered, UInt64.toNat_zero, Nat.add_zero] at total
  refine ⟨nodup_usedChannels balances parts, ?_, (total.trans split.total.symm).le, ?_, ?_⟩
  · intro shard member
    obtain ⟨_, _, charged⟩ := carries.charged shard member
    exact charged.positive
  · intro shard member
    have entry := carries.drained shard member
    exact split.within _ _ (Std.TreeMap.mem_toList_iff_getElem?_eq_some.mp entry)
  · intro sent shard later shards channel member unused
    obtain ⟨used, within, policy, known⟩ := split.used member
    have among : shard ∈ (route policies balances.toList amount).shards :=
      shards ▸ List.mem_append_right sent List.mem_cons_self
    obtain ⟨_, _, charged⟩ := carries.charged shard among
    have sends := charged.positive
    have size : 0 < (route policies balances.toList amount).leastOffer channel :=
      Nat.lt_of_lt_of_le (carries.lastAmount_pos among) (le_max_right _ _)
    have compared := carries.leastOffer_le shards unused
    have word := amount.toNat_lt
    rw [shards, List.map_append, List.sum_append] at total
    rw [List.map_cons, List.sum_cons] at total compared
    have fee := (ranksFirst_of_route (lists_toList balances) sent shard later shards).fee_le
      (by omega) (by omega) known used
      (by rwa [foldl_heldAfter_of_notMem sent _ unused]) (by omega)
      (le_instalments_mul size (parts channel))
    have positive : (0 : ℚ) < parts channel := Nat.cast_pos.mpr used
    unfold pricePerSatoshi unroundedPartFee
    rw [div_mul_eq_mul_div, le_div_iff₀ positive, known]
    exact_mod_cast fee

theorem sum_map_cast_mul {ι : Type} (factor : Nat) (values : ι → Nat) (indices : List ι) :
    (indices.map fun index => ((factor * values index : Nat) : ℚ)).sum =
      ((factor * (indices.map values).sum : Nat) : ℚ) := by
  rw [← List.sum_map_mul_left, Nat.cast_list_sum, List.map_map]
  rfl

/-- The shards of a route together cost no more than the unrounded fees of a split, up to what the
comparison of doubles leaves open. -/
theorem sum_fees_le (delivered : (route policies balances.toList amount).undelivered = 0)
    (split : Split policies balances amount parts) :
    (2 ^ 50 - 1) *
        (1000000 * ((route policies balances.toList amount).shards.map (·.fee.toNat)).sum) ≤
      2 ^ 50 * unroundedSplitFee policies balances
        (route policies balances.toList amount).leastOffer parts := by
  let size := (route policies balances.toList amount).leastOffer
  have priced := (priced_route delivered split).cost_le fun channel _ =>
    div_nonneg (Nat.cast_nonneg _) (Nat.cast_nonneg _)
  have paid : ∀ channel ∈ usedChannels balances parts,
      pricePerSatoshi policies size parts channel * parts channel =
        ((2 ^ 50 * unroundedPartFee policies size parts channel : Nat) : ℚ) := by
    intro channel member
    exact div_mul_cancel₀ _ (Nat.cast_ne_zero.mpr (split.used member).1.ne')
  rw [List.map_congr_left paid, sum_map_cast_mul, sum_map_cast_mul, List.sum_map_mul_left]
    at priced
  exact Nat.cast_le.mp priced

/-- Where the rounds compared prices for parts as large as those of a split, each base fee counts
once. -/
theorem unroundedSplitFee_eq {size : UInt64 → Nat}
    (compared : ∀ channel policy, policies[channel]? = some policy →
      1000 ≤ policy.feeBaseMsat.toNat → parts channel ≤ size channel)
    (split : Split policies balances amount parts) :
    unroundedSplitFee policies balances size parts =
      1000000 * splitFee policies balances parts + splitRoundedOff policies balances parts := by
  unfold unroundedSplitFee splitFee splitRoundedOff
  rw [← List.sum_map_mul_left, ← List.sum_map_add]
  refine congrArg List.sum (List.map_congr_left fun channel member => ?_)
  obtain ⟨used, -, policy, known⟩ := split.used member
  unfold unroundedPartFee
  rw [known, Option.map_some, Option.map_some, Option.map_some, Option.getD_some,
    Option.getD_some, Option.getD_some, ← policy.unroundedFee_one]
  by_cases free : policy.feeBaseMsat.toNat < 1000
  · unfold RoutingPolicy.unroundedFee
    rw [Nat.div_eq_of_lt free, Nat.zero_mul, Nat.mul_zero]
  · rw [instalments_eq_one used (compared channel policy known (by omega))]

end Splits

theorem Route.fee_le_sum (route : Route) :
    route.fee.toNat ≤ (route.shards.map (·.fee.toNat)).sum := by
  rw [route.toNat_fee fun shard _ => (clipped_toNat shard.fee).symm]
  exact Nat.min_le_right _ _

/-- A fee that is given, up to one part in `2 ^ 50` of it, is at most the unrounded fees of every
split of the amount, where each channel sends its part in shards no larger than the larger of what
the estimate sends over it and the last shard, and charges its base fee for each. So it is at most
the fees of a split in which no channel with a base fee has a larger part than that, but for what
rounding takes off these fees. -/
theorem inboundFee_le_of_split (amount : UInt64) (policies : ChannelMap RoutingPolicy)
    (balances : ChannelMap UInt64) (fee : UInt64)
    (given : inboundFee? amount policies balances = some fee) (parts : UInt64 → Nat)
    (split : Split policies balances amount parts) :
    let sent := route policies balances.toList amount
    (2 ^ 50 - 1) * (1000000 * fee.toNat) ≤
        2 ^ 50 * unroundedSplitFee policies balances sent.leastOffer parts ∧
      ((∀ channel policy, policies[channel]? = some policy → 1000 ≤ policy.feeBaseMsat.toNat →
          parts channel ≤ sent.leastOffer channel) →
        1000000 * fee.toNat < 2 ^ 50 →
          fee.toNat ≤ splitFee policies balances parts +
            splitRoundedOff policies balances parts / 1000000) := by
  intro sent
  obtain ⟨delivered, same⟩ := Option.ite_none_right_eq_some.mp given
  cases same
  have total := Route.fee_le_sum sent
  have bound := sum_fees_le delivered split
  change (2 ^ 50 - 1) * (1000000 * (sent.shards.map (·.fee.toNat)).sum) ≤
    2 ^ 50 * unroundedSplitFee policies balances sent.leastOffer parts at bound
  change sent.undelivered = 0 at delivered
  have general : (2 ^ 50 - 1) * (1000000 * sent.fee.toNat) ≤
      2 ^ 50 * unroundedSplitFee policies balances sent.leastOffer parts := by
    omega
  refine ⟨general, fun compared small => ?_⟩
  change 1000000 * sent.fee.toNat < 2 ^ 50 at small
  change sent.fee.toNat ≤ _
  rw [unroundedSplitFee_eq compared split] at general
  omega

/-- One channel could carry all of 10000 satoshis, and the estimate sends them over it. No split
over both is cheaper. -/
theorem inboundFee_le_of_split_over_both_channels :
    let charging (base rate : UInt64) : RoutingPolicy := ⟨0, 0, 0, base, rate, false⟩
    let policies := ChannelMap.ofEntries [(1, charging 20000 10000), (2, charging 250000 6000)]
    let balances := ChannelMap.ofEntries [(1, 10000), (2, 10000)]
    let parts (channel : UInt64) : Nat :=
      if channel = 1 then 4000 else if channel = 2 then 6000 else 0
    inboundFee? 10000 policies balances = some 120 ∧ Split policies balances 10000 parts ∧
      parts 2 ≤ (route policies balances.toList 10000).leastOffer 2 ∧
      120 ≤ splitFee policies balances parts +
        splitRoundedOff policies balances parts / 1000000 := by
  intro charging policies balances parts
  have given : inboundFee? 10000 policies balances = some 120 := by decide +kernel
  have split : Split policies balances 10000 parts :=
    .of_channels [1, 2] (fun channel other => by simp_all [parts])
      (List.forall_mem_cons.mpr ⟨by decide +kernel,
        List.forall_mem_singleton.mpr (by decide +kernel)⟩)
      (by decide +kernel)
  obtain ⟨-, bound⟩ := inboundFee_le_of_split 10000 policies balances 120 given parts split
  have least (channel : UInt64) :
      10000 ≤ (route policies balances.toList 10000).leastOffer channel :=
    Nat.le_trans (by decide +kernel) (le_max_right _ _)
  have compared (channel : UInt64) :
      parts channel ≤ (route policies balances.toList 10000).leastOffer channel := by
    have part : parts channel ≤ 10000 := by
      simp only [parts]
      split_ifs <;> omega
    exact Nat.le_trans part (least channel)
  exact ⟨given, split, compared 2, bound (fun channel _ _ _ => compared channel) (by decide)⟩

/-- Two splits that cost less than the estimate. In the first the estimate fills the channel without
a base fee and then pays the base fee of the other for the rest, and that channel could carry
everything for it; in the second, two parts of 9 satoshis are each charged nothing at a tenth. -/
theorem split_undercuts_inboundFee :
    let charging (base rate : UInt64) : RoutingPolicy := ⟨0, 0, 0, base, rate, false⟩
    let policies := ChannelMap.ofEntries [(3, charging 0 1000), (7, charging 3000 0)]
    let balances := ChannelMap.ofEntries [(7, 10000), (3, 2000)]
    let whole (channel : UInt64) : Nat := if channel = 7 then 3000 else 0
    let tenths := ChannelMap.ofEntries [(1, charging 0 100000), (2, charging 0 100000)]
    let small := ChannelMap.ofEntries [(1, 20), (2, 20)]
    let halves (channel : UInt64) : Nat := if channel = 1 ∨ channel = 2 then 9 else 0
    (inboundFee? 3000 policies balances = some 5 ∧ Split policies balances 3000 whole ∧
      splitFee policies balances whole = 3) ∧
    (inboundFee? 18 tenths small = some 1 ∧ Split tenths small 18 halves ∧
      splitFee tenths small halves = 0) := by
  intro charging policies balances whole tenths small halves
  refine ⟨⟨by decide +kernel, ?_, by decide +kernel⟩, by decide +kernel, ?_, by decide +kernel⟩
  · exact .of_channels [7] (fun channel other => by simp_all [whole])
      (List.forall_mem_singleton.mpr (by decide +kernel)) (by decide +kernel)
  · exact .of_channels [1, 2] (fun channel other => by simp_all [halves])
      (List.forall_mem_cons.mpr ⟨by decide +kernel,
        List.forall_mem_singleton.mpr (by decide +kernel)⟩)
      (by decide +kernel)

end Fee

end LightningMetrics
