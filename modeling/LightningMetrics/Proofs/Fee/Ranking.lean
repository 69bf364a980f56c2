import Mathlib.Algebra.BigOperators.Group.List.Basic
import Mathlib.Algebra.Group.Nat.Defs
import Mathlib.Data.List.Basic
import LightningMetrics.Proofs.Binary64.Quotients
import LightningMetrics.Proofs.Fee.Liquidity

set_option autoImplicit false

namespace LightningMetrics

/-- The shard ranks before the other: it is cheaper per satoshi or, where neither is, of a lower
channel. -/
def Shard.Precedes (one other : Shard) : Prop :=
  one.specificFee.lt other.specificFee = true ∨
    one.specificFee.lt other.specificFee = false ∧
      other.specificFee.lt one.specificFee = false ∧ one.channel < other.channel

theorem Shard.isNaN_specificFee {shard : Shard} (positive : 0 < shard.amount.toNat) :
    shard.specificFee.isNaN = false :=
  Binary64.isNaN_div shard.fee.toNat_lt positive shard.amount.toNat_lt

theorem Shard.precedes_iff {one other : Shard} (first : one.specificFee.isNaN = false)
    (second : other.specificFee.isNaN = false) :
    one.Precedes other ↔
      one.specificFee.numericKey < other.specificFee.numericKey ∨
        one.specificFee.numericKey = other.specificFee.numericKey ∧
          one.channel.toNat < other.channel.toNat := by
  unfold Precedes
  rw [← Bool.not_eq_true, ← Bool.not_eq_true, Binary64.lt_iff_numericKey first second,
    Binary64.lt_iff_numericKey second first, UInt64.lt_iff_toNat_lt]
  omega

namespace Fee

/-- The scan over channels in ascending order finds the shard that ranks first: it keeps an earlier
shard unless a later one is cheaper, and the channel of a later one is higher. -/
theorem precedes_of_cheapest {shards : List Shard}
    (numbers : ∀ shard ∈ shards, shard.specificFee.isNaN = false)
    (ascending : shards.Pairwise fun earlier later => earlier.channel < later.channel)
    {best : Shard} (found : cheapest shards = some best) :
    ∀ other ∈ shards, other ≠ best → best.Precedes other := by
  induction shards using List.reverseRecOn generalizing best with
  | nil => cases found
  | append_singleton shards last ih =>
      obtain ⟨among, -, higher⟩ := List.pairwise_append.mp ascending
      have lastNumber : last.specificFee.isNaN = false := numbers last (by simp)
      have earlierNumbers : ∀ shard ∈ shards, shard.specificFee.isNaN = false :=
        fun shard member => numbers shard (List.mem_append_left _ member)
      have scan : cheaper (cheapest shards) last = some best := by
        rw [← found]
        unfold cheapest
        rw [List.foldl_append, List.foldl_cons, List.foldl_nil]
      intro other member different
      rw [List.mem_append, List.mem_singleton] at member
      cases earlier : cheapest shards with
      | none =>
          rw [earlier] at scan
          cases scan
          rw [cheapest_eq_none_iff.mp earlier] at member
          exact absurd (member.resolve_left List.not_mem_nil) different
      | some held =>
          have heldMember := cheapest_mem earlier
          have heldNumber := earlierNumbers held heldMember
          have below : held.channel.toNat < last.channel.toNat :=
            UInt64.lt_iff_toNat_lt.mp (higher held heldMember last (List.mem_singleton_self last))
          rw [earlier] at scan
          rcases cheaper_some_cases held last with ⟨cheaper, step⟩ | ⟨kept, step⟩
          · cases step.symm.trans scan
            have otherMember := member.resolve_right different
            rw [Binary64.lt_iff_numericKey lastNumber heldNumber] at cheaper
            rw [Shard.precedes_iff lastNumber (earlierNumbers other otherMember)]
            by_cases same : other = held
            · rw [same]
              omega
            · have ranked := ih earlierNumbers among earlier other otherMember same
              rw [Shard.precedes_iff heldNumber (earlierNumbers other otherMember)] at ranked
              omega
          · cases step.symm.trans scan
            rcases member with otherMember | rfl
            · exact ih earlierNumbers among earlier other otherMember different
            · rw [← Bool.not_eq_true, Binary64.lt_iff_numericKey lastNumber heldNumber] at kept
              rw [Shard.precedes_iff heldNumber lastNumber]
              omega

/-- What a channel with a policy offers as long as it holds something. -/
structure Offered (policies : UInt64 → Option RoutingPolicy) (held : UInt64 → Nat)
    (remaining : Nat) (shard : Shard) : Prop where
  holds : 0 < held shard.channel
  amount_eq : shard.amount.toNat = min remaining (held shard.channel)
  charged : ∃ policy, policies shard.channel = some policy ∧
    shard.fee = policy.forwardingFee shard.amount

/-- The shard that ranks before all others that are offered. -/
structure RanksFirst (policies : UInt64 → Option RoutingPolicy) (held : UInt64 → Nat)
    (remaining : Nat) (shard : Shard) : Prop where
  offered : Offered policies held remaining shard
  precedes : ∀ other, Offered policies held remaining other → other ≠ shard → shard.Precedes other

/-- What the channels hold after a shard. -/
def heldAfter (held : UInt64 → Nat) (shard : Shard) (channel : UInt64) : Nat :=
  if channel = shard.channel then held channel - shard.amount.toNat else held channel

/-- Rounds that each send the shard that ranks first, with the fees so far. They end with the fees
when nothing remains, and without a result when nothing is offered. -/
inductive RankedRounds (policies : UInt64 → Option RoutingPolicy) :
    UInt64 → (UInt64 → Nat) → Nat → Option UInt64 → Prop
  | delivered (fees : UInt64) (held : UInt64 → Nat) :
      RankedRounds policies fees held 0 (some fees)
  | stuck {fees : UInt64} {held : UInt64 → Nat} {remaining : Nat} (positive : 0 < remaining)
      (exhausted : ∀ shard, ¬ Offered policies held remaining shard) :
      RankedRounds policies fees held remaining none
  | round {fees : UInt64} {held : UInt64 → Nat} {remaining : Nat} {shard : Shard}
      {outcome : Option UInt64} (positive : 0 < remaining)
      (first : RanksFirst policies held remaining shard)
      (rest : RankedRounds policies (saturatingAdd fees shard.fee) (heldAfter held shard)
        (remaining - shard.amount.toNat) outcome) :
      RankedRounds policies fees held remaining outcome

section Reference

variable {policies : UInt64 → Option RoutingPolicy} {held : UInt64 → Nat} {remaining : Nat}

theorem Offered.isNaN_specificFee {shard : Shard} (positive : 0 < remaining)
    (offered : Offered policies held remaining shard) : shard.specificFee.isNaN = false := by
  have amount := offered.amount_eq
  have holds := offered.holds
  exact Shard.isNaN_specificFee (by omega)

theorem RanksFirst.unique {one other : Shard} (positive : 0 < remaining)
    (first : RanksFirst policies held remaining one)
    (second : RanksFirst policies held remaining other) : one = other := by
  by_contra different
  have oneNumber := first.offered.isNaN_specificFee positive
  have otherNumber := second.offered.isNaN_specificFee positive
  have forth := first.precedes other second.offered (Ne.symm different)
  have back := second.precedes one first.offered different
  rw [Shard.precedes_iff oneNumber otherNumber] at forth
  rw [Shard.precedes_iff otherNumber oneNumber] at back
  omega

theorem RanksFirst.channel_le {shard other : Shard}
    (first : RanksFirst policies held remaining shard)
    (offered : Offered policies held remaining other)
    (tied : shard.specificFee.lt other.specificFee = false) : shard.channel ≤ other.channel := by
  by_cases same : other = shard
  · rw [same]
    exact UInt64.le_refl _
  · rcases first.precedes other offered same with cheaper | ⟨_, _, below⟩
    · rw [tied] at cheaper
      cases cheaper
    · exact UInt64.le_of_lt below

theorem RankedRounds.unique {fees : UInt64} {one other : Option UInt64}
    (first : RankedRounds policies fees held remaining one)
    (second : RankedRounds policies fees held remaining other) : one = other := by
  induction first with
  | delivered fees held =>
      cases second with
      | delivered => rfl
      | stuck positive _ => exact absurd positive (Nat.lt_irrefl 0)
      | round positive _ _ => exact absurd positive (Nat.lt_irrefl 0)
  | stuck positive exhausted =>
      cases second with
      | delivered => exact absurd positive (Nat.lt_irrefl 0)
      | stuck _ _ => rfl
      | round _ first _ => exact absurd first.offered (exhausted _)
  | round positive first _ ih =>
      cases second with
      | delivered => exact absurd positive (Nat.lt_irrefl 0)
      | stuck _ exhausted => exact absurd first.offered (exhausted _)
      | round _ other rest =>
          cases first.unique positive other
          exact ih rest

end Reference

/-- The channels are listed once, in ascending order, with what they hold. -/
structure Lists (liquidity : Liquidity) (held : UInt64 → Nat) : Prop where
  ascending : liquidity.Pairwise fun earlier later => earlier.1 < later.1
  entry : ∀ {channel balance : UInt64}, (channel, balance) ∈ liquidity →
    held channel = balance.toNat
  listed : ∀ channel, 0 < held channel → ∃ balance, (channel, balance) ∈ liquidity

/-- What the channels of a table hold. -/
def heldIn (balances : ChannelMap UInt64) (channel : UInt64) : Nat :=
  (balances[channel]?.map UInt64.toNat).getD 0

theorem lists_toList (balances : ChannelMap UInt64) : Lists balances.toList (heldIn balances) where
  ascending := Std.TreeMap.ordered_keys_toList.imp Std.compare_eq_lt.mp
  entry {channel balance} member := by
    unfold heldIn
    rw [Std.TreeMap.mem_toList_iff_getElem?_eq_some.mp member]
    rfl
  listed channel holds := by
    unfold heldIn at holds
    cases found : balances[channel]? with
    | none =>
        rw [found] at holds
        cases holds
    | some balance => exact ⟨balance, Std.TreeMap.mem_toList_iff_getElem?_eq_some.mpr found⟩

section Rounds

variable {policies : ChannelMap RoutingPolicy} {liquidity : Liquidity} {held : UInt64 → Nat}
  {remaining : UInt64} {shard : Shard}

theorem Lists.spend (lists : Lists liquidity held) {balance : UInt64}
    (entry : (shard.channel, balance) ∈ liquidity)
    (within : shard.amount.toNat ≤ balance.toNat) :
    Lists (spend liquidity shard) (heldAfter held shard) where
  ascending := by
    have keys := List.pairwise_map.mpr lists.ascending
    rw [← map_fst_spend liquidity shard] at keys
    exact List.pairwise_map.mp keys
  entry {channel left} member := by
    unfold heldAfter
    rcases mem_spend member with ⟨other, before⟩ | ⟨own, before, listed, rest⟩
    · rw [if_neg other]
      exact lists.entry before
    · rw [if_pos own, lists.entry listed, rest]
      have same : before.toNat = balance.toNat := by
        rw [← lists.entry listed, ← lists.entry entry, own]
      rw [UInt64.toNat_sub_of_le _ _ (UInt64.le_iff_toNat_le.mpr (same ▸ within))]
  listed channel holds := by
    unfold heldAfter at holds
    by_cases own : channel = shard.channel
    · subst own
      exact ⟨balance - shard.amount, List.mem_map.mpr ⟨_, entry, if_pos rfl⟩⟩
    · rw [if_neg own] at holds
      obtain ⟨left, listed⟩ := lists.listed channel holds
      exact ⟨left, List.mem_map.mpr ⟨_, listed, if_neg own⟩⟩

/-- The scan meets exactly the shards that are offered. -/
theorem mem_candidates_iff (lists : Lists liquidity held) (positive : remaining ≠ 0) :
    shard ∈ candidates policies liquidity remaining ↔
      Offered (fun channel => policies[channel]?) held remaining.toNat shard := by
  constructor
  · intro member
    obtain ⟨balance, policy, charged, below, ends⟩ := charged_of_mem_candidates positive member
    have holds := lists.entry charged.entry
    have sends := charged.positive
    have within := charged.within
    refine ⟨by omega, ?_, policy, charged.known, charged.fee⟩
    rcases ends with drains | completes
    · rw [← drains] at holds
      omega
    · rw [← completes] at below ⊢
      omega
  · intro offered
    obtain ⟨policy, known, fee⟩ := offered.charged
    obtain ⟨balance, entry⟩ := lists.listed shard.channel offered.holds
    have holds := offered.holds
    have amount := offered.amount_eq
    rw [lists.entry entry] at holds amount
    refine List.mem_filterMap.mpr ⟨_, entry, ?_⟩
    unfold shard?
    have nonzero : balance ≠ 0 := by
      rintro rfl
      exact absurd holds (Nat.lt_irrefl 0)
    have taken : (if remaining ≤ balance then remaining else balance) = shard.amount := by
      apply UInt64.toNat_inj.mp
      by_cases fits : remaining ≤ balance
      · rw [if_pos fits, amount]
        exact (Nat.min_eq_left (UInt64.le_iff_toNat_le.mp fits)).symm
      · rw [if_neg fits, amount]
        exact (Nat.min_eq_right (Nat.le_of_lt (UInt64.not_le.mp fits))).symm
    dsimp only at known ⊢
    rw [if_neg nonzero, known, Option.map_some, taken, ← fee]

theorem candidates_ascending (lists : Lists liquidity held) :
    (candidates policies liquidity remaining).Pairwise fun earlier later =>
      earlier.channel < later.channel := by
  have channel {entry : UInt64 × UInt64} {shard : Shard}
      (made : shard? policies remaining entry = some shard) : shard.channel = entry.1 := by
    unfold shard? at made
    split at made
    · cases made
    · obtain ⟨policy, -, rfl⟩ := Option.map_eq_some_iff.mp made
      rfl
  refine lists.ascending.filterMap _ fun earlier later below one first other second => ?_
  rw [channel first, channel second]
  exact below

theorem ranksFirst_of_cheapest (lists : Lists liquidity held) (positive : remaining ≠ 0)
    (found : cheapest (candidates policies liquidity remaining) = some shard) :
    RanksFirst (fun channel => policies[channel]?) held remaining.toNat shard where
  offered := (mem_candidates_iff lists positive).mp (cheapest_mem found)
  precedes other offered different := by
    have numbers (shard : Shard) (member : shard ∈ candidates policies liquidity remaining) :
        shard.specificFee.isNaN = false :=
      Shard.isNaN_specificFee (candidate_amount positive member).1
    exact precedes_of_cheapest numbers (candidates_ascending lists) found other
      ((mem_candidates_iff lists positive).mpr offered) different

theorem rankedRounds_route (lists : Lists liquidity held) (fees : UInt64) :
    RankedRounds (fun channel => policies[channel]?) fees held remaining.toNat
      (if (route policies liquidity remaining).undelivered = 0 then
        some ((route policies liquidity remaining).shards.foldl
          (fun total shard => saturatingAdd total shard.fee) fees)
      else none) := by
  induction liquidity, remaining using route.induct policies generalizing held fees with
  | case1 liquidity =>
      rw [route_zero]
      exact .delivered fees held
  | case2 liquidity remaining positive none =>
      rw [route_of_none positive none, if_neg positive]
      refine .stuck (Nat.pos_of_ne_zero fun zero => positive (UInt64.toNat_inj.mp zero)) ?_
      intro shard offered
      rw [← mem_candidates_iff lists positive, cheapest_eq_none_iff.mp none] at offered
      cases offered
  | case3 liquidity remaining positive shard found ih =>
      obtain ⟨balance, policy, charged, below, -⟩ :=
        charged_of_mem_candidates positive (cheapest_mem found)
      have rest := ih (lists.spend charged.entry charged.within) (saturatingAdd fees shard.fee)
      rw [UInt64.toNat_sub_of_le _ _ (UInt64.le_iff_toNat_le.mpr below)] at rest
      rw [route_of_some positive found]
      exact .round (Nat.pos_of_ne_zero fun zero => positive (UInt64.toNat_inj.mp zero))
        (ranksFirst_of_cheapest lists positive found) rest

theorem ranksFirst_of_route (lists : Lists liquidity held) (sent : List Shard) :
    ∀ (shard : Shard) (later : List Shard),
      (route policies liquidity remaining).shards = sent ++ shard :: later →
        RanksFirst (fun channel => policies[channel]?) (sent.foldl heldAfter held)
          (remaining.toNat - (sent.map (·.amount.toNat)).sum) shard := by
  induction liquidity, remaining using route.induct policies generalizing held sent with
  | case1 liquidity =>
      intro shard later parts
      rw [route_zero] at parts
      exact absurd parts.symm (List.append_ne_nil_of_right_ne_nil _ (List.cons_ne_nil _ _))
  | case2 liquidity remaining positive none =>
      intro shard later parts
      rw [route_of_none positive none] at parts
      exact absurd parts.symm (List.append_ne_nil_of_right_ne_nil _ (List.cons_ne_nil _ _))
  | case3 liquidity remaining positive first found ih =>
      intro shard later parts
      rw [route_of_some positive found] at parts
      cases sent with
      | nil =>
          cases (List.cons.inj parts).1
          exact ranksFirst_of_cheapest lists positive found
      | cons head sent =>
          obtain ⟨rfl, rest⟩ := List.cons.inj parts
          obtain ⟨balance, policy, charged, below, -⟩ :=
            charged_of_mem_candidates positive (cheapest_mem found)
          have ranked := ih (lists.spend charged.entry charged.within) sent shard later rest
          rwa [UInt64.toNat_sub_of_le _ _ (UInt64.le_iff_toNat_le.mpr below), Nat.sub_sub]
            at ranked

end Rounds

theorem rankedRounds_inboundFee (amount : UInt64) (policies : ChannelMap RoutingPolicy)
    (balances : ChannelMap UInt64) :
    RankedRounds (fun channel => policies[channel]?) 0 (heldIn balances) amount.toNat
      (inboundFee? amount policies balances) :=
  rankedRounds_route (lists_toList balances) 0

/-- The fee is the outcome of rounds that each send, of all shards offered by channels that hold
something and have a policy, the one that ranks first by fee per satoshi and then by channel; there
is none exactly if nothing is offered while something remains. So at every point of every route the
shard that is sent ranks first, with ties going to the lowest channel; and it does not matter how
the tables of policies and balances came about, only what they hold. -/
theorem inboundFee_follows_ranking (amount : UInt64) (policies : ChannelMap RoutingPolicy)
    (balances : ChannelMap UInt64) :
    (∀ outcome, inboundFee? amount policies balances = outcome ↔
      RankedRounds (fun channel => policies[channel]?) 0 (heldIn balances) amount.toNat outcome) ∧
    (∀ sent shard later,
      (route policies balances.toList amount).shards = sent ++ shard :: later →
        let held := sent.foldl heldAfter (heldIn balances)
        let remaining := amount.toNat - (sent.map (·.amount.toNat)).sum
        RanksFirst (fun channel => policies[channel]?) held remaining shard ∧
          ∀ other, Offered (fun channel => policies[channel]?) held remaining other →
            shard.specificFee.lt other.specificFee = false → shard.channel ≤ other.channel) ∧
    ∀ (otherPolicies : ChannelMap RoutingPolicy) (otherBalances : ChannelMap UInt64),
      (∀ channel : UInt64, otherPolicies[channel]? = policies[channel]?) →
      (∀ channel : UInt64, otherBalances[channel]? = balances[channel]?) →
        inboundFee? amount otherPolicies otherBalances = inboundFee? amount policies balances := by
  have rounds := rankedRounds_inboundFee amount policies balances
  refine ⟨fun outcome => ⟨?_, rounds.unique⟩, ?_, ?_⟩
  · rintro rfl
    exact rounds
  · intro sent shard later parts
    have first := ranksFirst_of_route (lists_toList balances) sent shard later parts
    exact ⟨first, fun other offered tied => first.channel_le offered tied⟩
  · intro otherPolicies otherBalances samePolicies sameBalances
    have others := rankedRounds_inboundFee amount otherPolicies otherBalances
    have held : heldIn otherBalances = heldIn balances := by
      funext channel
      unfold heldIn
      rw [sameBalances]
    rw [funext samePolicies, held] at others
    exact others.unique rounds

/-- Both channels would carry their part of 3000 satoshis for a thousandth; the lower one sends,
also where the table of policies was filled in another order and an entry replaced. -/
theorem inboundFee_follows_ranking_on_a_tie :
    let charging (base rate : UInt64) : RoutingPolicy := ⟨0, 0, 0, base, rate, false⟩
    let policies := ChannelMap.ofEntries [(3, charging 0 1000), (7, charging 3000 0)]
    let refilled := ChannelMap.ofEntries
      [(7, charging 9 9), (3, charging 0 1000), (7, charging 3000 0)]
    let balances := ChannelMap.ofEntries [(7, 10000), (3, 2000)]
    let other : Shard := ⟨7, 3000, 3⟩
    (route policies balances.toList 3000).shards = [⟨3, 2000, 2⟩, ⟨7, 1000, 3⟩] ∧
      Offered (fun channel => policies[channel]?) (heldIn balances) 3000 other ∧
      (Shard.mk 3 2000 2).specificFee.lt other.specificFee = false ∧ (3 : UInt64) ≤ 7 ∧
      inboundFee? 3000 policies balances = some 5 ∧
      inboundFee? 3000 refilled balances = some 5 := by
  intro charging policies refilled balances other
  have parts : (route policies balances.toList 3000).shards =
      [] ++ ⟨3, 2000, 2⟩ :: [⟨7, 1000, 3⟩] := by decide +kernel
  have offered : Offered (fun channel => policies[channel]?) (heldIn balances) 3000 other :=
    ⟨by decide +kernel, by decide +kernel, charging 3000 0, by decide +kernel, by decide +kernel⟩
  have tied : (Shard.mk 3 2000 2).specificFee.lt other.specificFee = false := by decide +kernel
  obtain ⟨-, ranked, extensional⟩ := inboundFee_follows_ranking 3000 policies balances
  have fee : inboundFee? 3000 policies balances = some 5 := by decide +kernel
  have lookups (channel : UInt64) : refilled[channel]? = policies[channel]? := by
    simp only [refilled, policies, ChannelMap.ofEntries, List.foldl_cons, List.foldl_nil,
      Std.TreeMap.getElem?_insert]
    grind
  exact ⟨parts, offered, tied, (ranked [] _ _ parts).2 other offered tied, fee,
    (extensional refilled balances lookups fun _ => rfl).trans fee⟩

end Fee

end LightningMetrics
