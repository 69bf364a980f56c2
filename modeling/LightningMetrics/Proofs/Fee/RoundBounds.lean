import LightningMetrics.Proofs.Binary64.Comparison
import LightningMetrics.Proofs.Fee.Ranking

set_option autoImplicit false

namespace LightningMetrics.Fee

/-- The channels that hold something and have a policy. -/
def usableChannels (policies : ChannelMap RoutingPolicy) (liquidity : Liquidity) : List UInt64 :=
  (liquidity.filter fun entry => entry.2 ≠ 0 ∧ entry.1 ∈ policies).map Prod.fst

/-- What the channels hold after these shards. -/
def liquidityAfter (liquidity : Liquidity) (sent : List Shard) : Liquidity :=
  sent.foldl spend liquidity

/-- What remains of an amount after these shards. -/
def remainingAfter (remaining : UInt64) (sent : List Shard) : UInt64 :=
  sent.foldl (fun remaining shard => remaining - shard.amount) remaining

/-- A shard takes no more than what remains and what its channel holds, and all of one of them; and
its fee is divided by one satoshi or more. -/
structure Exhausts (liquidity : Liquidity) (remaining : UInt64) (shard : Shard) : Prop where
  withinAmount : shard.amount ≤ remaining
  /-- The channel, or else the amount, is left with nothing. -/
  drains : ∃ balance, (shard.channel, balance) ∈ liquidity ∧ shard.amount ≤ balance ∧
    (balance - shard.amount = 0 ∨ remaining - shard.amount = 0)
  divisor : (Binary64.ofNat 1).le (.ofNat shard.amount.toNat) = true
  number : shard.specificFee.isNaN = false

section Rounds

variable {policies : ChannelMap RoutingPolicy} {liquidity : Liquidity}
  {remaining undelivered : UInt64} {shard : Shard} {shards : List Shard}

theorem exhausts_of_mem_candidates (positive : remaining ≠ 0)
    (offered : shard ∈ candidates policies liquidity remaining) :
    Exhausts liquidity remaining shard := by
  obtain ⟨balance, policy, charged, below, ends⟩ := charged_of_mem_candidates positive offered
  have one : 1 ≤ shard.amount.toNat := charged.positive
  refine ⟨UInt64.le_iff_toNat_le.mpr below,
    ⟨balance, charged.entry, UInt64.le_iff_toNat_le.mpr charged.within, ?_⟩, ?_,
    Shard.isNaN_specificFee charged.positive⟩
  · rcases ends with drains | completes
    · exact .inl (by rw [drains, UInt64.sub_self])
    · exact .inr (by rw [completes, UInt64.sub_self])
  · exact (Binary64.le_ofNat_iff (by omega) shard.amount.toNat_lt (.inl (by omega))).mpr one

/-- Whichever shards are sent, no channel is used twice and none but the last keeps anything. -/
theorem Sending.carries (sending : Sending policies liquidity remaining shards undelivered)
    (distinct : (liquidity.map Prod.fst).Nodup) :
    Carries policies liquidity remaining ⟨shards, undelivered⟩ := by
  induction sending with
  | complete liquidity => exact carries_nil
  | stuck positive exhausted => exact carries_nil
  | round positive offered rest ih =>
      obtain ⟨_, _, charged, below, ends⟩ := charged_of_mem_candidates positive offered
      exact .cons distinct charged below ends (ih (by rwa [map_fst_spend]))

/-- Every round takes a channel of its own from those that could be used at the start. -/
theorem Carries.length_le {route : Route} (carries : Carries policies liquidity remaining route) :
    route.shards.length ≤ (usableChannels policies liquidity).length := by
  have used : route.shards.map Shard.channel ⊆ usableChannels policies liquidity := by
    intro channel member
    obtain ⟨shard, among, rfl⟩ := List.mem_map.mp member
    obtain ⟨balance, policy, charged⟩ := carries.charged shard among
    have positive := charged.positive
    have within := charged.within
    have holds : balance ≠ 0 := by
      rintro rfl
      exact absurd (Nat.lt_of_lt_of_le positive within) (Nat.lt_irrefl 0)
    have known : shard.channel ∈ policies :=
      Std.TreeMap.mem_iff_isSome_getElem?.mpr (charged.known ▸ rfl)
    refine List.mem_map.mpr ⟨_, List.mem_filter.mpr ⟨charged.entry, ?_⟩, rfl⟩
    exact decide_eq_true ⟨holds, known⟩
  have fewer := (List.subperm_of_subset carries.distinct used).length_le
  rwa [List.length_map] at fewer

theorem Sending.later {sent later : List Shard}
    (sending : Sending policies liquidity remaining (sent ++ later) undelivered) :
    Sending policies (liquidityAfter liquidity sent) (remainingAfter remaining sent) later
      undelivered := by
  induction sent generalizing liquidity remaining with
  | nil => exact sending
  | cons shard sent ih =>
      cases sending with
      | round positive offered rest => exact ih rest

theorem Sending.first
    (sending : Sending policies liquidity remaining (shard :: shards) undelivered) :
    remaining ≠ 0 ∧ shard ∈ candidates policies liquidity remaining := by
  cases sending with
  | round positive offered rest => exact ⟨positive, offered⟩

theorem route_after {sent later : List Shard}
    (parts : (route policies liquidity remaining).shards = sent ++ later) :
    (route policies (liquidityAfter liquidity sent) (remainingAfter remaining sent)).shards =
      later := by
  induction sent generalizing liquidity remaining with
  | nil => exact parts
  | cons shard sent ih =>
      apply ih
      by_cases positive : remaining = 0
      · subst positive
        rw [route_zero] at parts
        cases parts
      · cases found : cheapest (candidates policies liquidity remaining) with
        | none =>
            rw [route_of_none positive found] at parts
            cases parts
        | some first =>
            rw [route_of_some positive found] at parts
            obtain ⟨rfl, rest⟩ := List.cons.inj parts
            exact rest

theorem head?_route :
    (route policies liquidity remaining).shards.head? =
      if remaining = 0 then none else cheapest (candidates policies liquidity remaining) := by
  by_cases positive : remaining = 0
  · subst positive
    rw [route_zero]
    rfl
  · rw [if_neg positive]
    cases found : cheapest (candidates policies liquidity remaining) with
    | none =>
        rw [route_of_none positive found]
        rfl
    | some shard =>
        rw [route_of_some positive found]
        rfl

end Rounds

/-- A route picks the cheapest shard that is offered for as long as something remains and anything
is offered. Whichever shards are picked, it is done after as many rounds at most as there are
channels with a positive balance and a policy; each round picks a channel that was not picked
before; and each shard that is offered in any of them uses up its channel or the amount, is no more
than either, and has its fee divided by at least one. -/
theorem rounds_use_up_channels (amount : UInt64) (policies : ChannelMap RoutingPolicy)
    (balances : ChannelMap UInt64) :
    (Sending policies balances.toList amount (route policies balances.toList amount).shards
        (route policies balances.toList amount).undelivered ∧
      ∀ sent later, (route policies balances.toList amount).shards = sent ++ later →
        let remaining := remainingAfter amount sent
        later.head? = if remaining = 0 then none
          else cheapest (candidates policies (liquidityAfter balances.toList sent) remaining)) ∧
    ∀ shards undelivered, Sending policies balances.toList amount shards undelivered →
      shards.length ≤ (usableChannels policies balances.toList).length ∧
      ∀ sent later, shards = sent ++ later →
        let liquidity := liquidityAfter balances.toList sent
        let remaining := remainingAfter amount sent
        (remaining ≠ 0 → ∀ shard ∈ candidates policies liquidity remaining,
          Exhausts liquidity remaining shard) ∧
        ∀ shard ∈ later.head?, remaining ≠ 0 ∧ shard ∈ candidates policies liquidity remaining ∧
          shard.channel ∉ sent.map Shard.channel := by
  have distinct := nodup_channels balances
  refine ⟨⟨sending_route policies balances.toList amount, ?_⟩, ?_⟩
  · intro sent later parts remaining
    rw [← route_after parts]
    exact head?_route
  · intro shards undelivered sending
    have carries := sending.carries distinct
    refine ⟨carries.length_le, ?_⟩
    intro sent later parts liquidity remaining
    refine ⟨fun positive shard => exhausts_of_mem_candidates positive, ?_⟩
    intro shard next
    obtain ⟨others, rfl⟩ := List.head?_eq_some_iff.mp next
    subst parts
    obtain ⟨positive, offered⟩ := sending.later.first
    refine ⟨positive, offered, ?_⟩
    have channels := carries.distinct
    rw [List.map_append, List.map_cons, List.nodup_append] at channels
    intro used
    exact channels.2.2 _ used _ List.mem_cons_self rfl

/-- Of four channels one is drained and one has no policy, so that there are two rounds at most, also
where they do not pick what is cheapest: the second of these completes the amount over a channel
that was not picked before. -/
theorem rounds_use_up_channels_of_dearer_first :
    let charging (base rate : UInt64) : RoutingPolicy := ⟨0, 0, 0, base, rate, false⟩
    let policies := ChannelMap.ofEntries
      [(1, charging 20000 10000), (2, charging 250000 6000), (4, charging 0 0)]
    let balances := ChannelMap.ofEntries [(1, 10000), (2, 10000), (3, 500), (4, 0)]
    let shards : List Shard := [⟨2, 10000, 310⟩, ⟨1, 5000, 70⟩]
    Sending policies balances.toList 15000 shards 0 ∧
      usableChannels policies balances.toList = [1, 2] ∧
      shards.length ≤ 2 ∧
      remainingAfter 15000 [⟨2, 10000, 310⟩] = 5000 ∧
      Exhausts (liquidityAfter balances.toList [⟨2, 10000, 310⟩]) 5000 ⟨1, 5000, 70⟩ ∧
      (route policies balances.toList 15000).shards = [⟨1, 10000, 120⟩, ⟨2, 5000, 280⟩] ∧
      cheapest (candidates policies (liquidityAfter balances.toList [⟨1, 10000, 120⟩]) 5000) =
        some ⟨2, 5000, 280⟩ := by
  intro charging policies balances shards
  obtain ⟨⟨_, picks⟩, bounds⟩ := rounds_use_up_channels 15000 policies balances
  have sending : Sending policies balances.toList 15000 shards 0 :=
    .round (by decide) (by decide +kernel) <| .round (by decide) (by decide +kernel) <|
      .complete _
  have usable : usableChannels policies balances.toList = [1, 2] := by decide +kernel
  have sent : (route policies balances.toList 15000).shards =
      [⟨1, 10000, 120⟩, ⟨2, 5000, 280⟩] := by decide +kernel
  obtain ⟨fewer, points⟩ := bounds shards 0 sending
  obtain ⟨exhausting, next⟩ := points [⟨2, 10000, 310⟩] [⟨1, 5000, 70⟩] rfl
  obtain ⟨positive, offered, _⟩ := next ⟨1, 5000, 70⟩ rfl
  rw [usable] at fewer
  exact ⟨sending, usable, fewer, rfl, exhausting positive _ offered, sent,
    (picks [⟨1, 10000, 120⟩] [⟨2, 5000, 280⟩] sent).symm⟩

end LightningMetrics.Fee
