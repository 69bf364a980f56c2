import Mathlib.Logic.Relation
import LightningMetrics.Proofs.Channel.LastEntry
import LightningMetrics.Proofs.Fee.Ranking

set_option autoImplicit false

namespace LightningMetrics

/-- What a policy charges shows no more of it than the whole satoshis of the base fee and the
rate. -/
theorem RoutingPolicy.forwardingFee_congr {policy other : RoutingPolicy}
    (base : policy.feeBaseMsat / 1000 = other.feeBaseMsat / 1000)
    (rate : policy.feeRate = other.feeRate) (amount : UInt64) :
    policy.forwardingFee amount = other.forwardingFee amount := by
  unfold forwardingFee
  rw [base, rate]

namespace Fee

/-- What counts of a channel that can be used. -/
structure UsableChannel where
  held : Nat
  /-- The base fee in whole satoshis. -/
  feeBaseSat : UInt64
  /-- Parts per million of the forwarded amount. -/
  feeRate : UInt64
deriving DecidableEq, Repr

/-- A channel can be used if it holds something and has a policy. -/
def usable? (policies : UInt64 → Option RoutingPolicy) (held : UInt64 → Nat) (channel : UInt64) :
    Option UsableChannel :=
  if held channel = 0 then none
  else (policies channel).map fun policy =>
    ⟨held channel, policy.feeBaseMsat / 1000, policy.feeRate⟩

section TwoRuns

variable {policies otherPolicies : UInt64 → Option RoutingPolicy} {held otherHeld : UInt64 → Nat}
  {remaining : Nat} {shard : Shard}

/-- A shard is offered by a channel that can be used, and its fee depends on no more than what
counts of it. -/
theorem Offered.congr
    (agree : usable? policies held shard.channel = usable? otherPolicies otherHeld shard.channel)
    (offered : Offered policies held remaining shard) :
    Offered otherPolicies otherHeld remaining shard := by
  obtain ⟨policy, known, fee⟩ := offered.charged
  unfold usable? at agree
  rw [if_neg (Nat.pos_iff_ne_zero.mp offered.holds), known, Option.map_some] at agree
  by_cases drained : otherHeld shard.channel = 0
  · rw [if_pos drained] at agree
    cases agree
  · rw [if_neg drained] at agree
    obtain ⟨other, otherKnown, same⟩ := Option.map_eq_some_iff.mp agree.symm
    rw [UsableChannel.mk.injEq] at same
    obtain ⟨sameHeld, sameBase, sameRate⟩ := same
    refine ⟨Nat.pos_of_ne_zero drained, sameHeld ▸ offered.amount_eq, other, otherKnown, ?_⟩
    rw [fee]
    exact RoutingPolicy.forwardingFee_congr sameBase.symm sameRate.symm shard.amount

/-- What can be used after a shard is what could be used before, less the shard. -/
theorem usable?_heldAfter (policies : UInt64 → Option RoutingPolicy) (held : UInt64 → Nat)
    (shard : Shard) (channel : UInt64) :
    usable? policies (heldAfter held shard) channel =
      (usable? policies held channel).bind fun usable =>
        if channel = shard.channel then
          if usable.held - shard.amount.toNat = 0 then none
          else some { usable with held := usable.held - shard.amount.toNat }
        else some usable := by
  unfold usable? heldAfter
  by_cases own : channel = shard.channel
  · simp only [if_pos own]
    by_cases drained : held channel = 0
    · rw [if_pos drained, drained, Nat.zero_sub, if_pos rfl]
      rfl
    · rw [if_neg drained]
      cases policies channel with
      | none => exact ite_self none
      | some policy => rfl
  · simp only [if_neg own]
    exact (Option.bind_fun_some _).symm

theorem RanksFirst.congr
    (agree : ∀ channel, usable? policies held channel = usable? otherPolicies otherHeld channel)
    (first : RanksFirst policies held remaining shard) :
    RanksFirst otherPolicies otherHeld remaining shard where
  offered := first.offered.congr (agree shard.channel)
  precedes other offered := first.precedes other (offered.congr (agree other.channel).symm)

/-- Rounds go the same way wherever the same channels can be used: they send the same shard, after
which the same channels can be used again. -/
theorem RankedRounds.congr {fees : UInt64} {outcome : Option UInt64}
    (rounds : RankedRounds policies fees held remaining outcome)
    (agree : ∀ channel, usable? policies held channel = usable? otherPolicies otherHeld channel) :
    RankedRounds otherPolicies fees otherHeld remaining outcome := by
  induction rounds generalizing otherHeld with
  | delivered fees held => exact .delivered fees otherHeld
  | stuck positive exhausted =>
      refine .stuck positive fun shard offered => exhausted shard ?_
      exact offered.congr (agree shard.channel).symm
  | round positive first rest ih =>
      refine .round positive (first.congr agree) (ih fun channel => ?_)
      rw [usable?_heldAfter, usable?_heldAfter, agree]

end TwoRuns

/-- The entries that the tables of policies and balances are filled from. -/
structure Entries where
  policies : List (UInt64 × RoutingPolicy)
  balances : List (UInt64 × UInt64)

namespace Entries

/-- What the last balance of a channel comes to. -/
def held (entries : Entries) (channel : UInt64) : Nat :=
  ((lastOf? entries.balances channel).map UInt64.toNat).getD 0

/-- What counts of a channel, if it can be used. -/
def usable? (entries : Entries) : UInt64 → Option UsableChannel :=
  Fee.usable? (lastOf? entries.policies) entries.held

/-- The fee for receiving an amount over the tables that are filled from the entries. -/
def fee? (entries : Entries) (amount : UInt64) : Option UInt64 :=
  inboundFee? amount (.ofEntries entries.policies) (.ofEntries entries.balances)

theorem rankedRounds_fee? (entries : Entries) (amount : UInt64) :
    RankedRounds (lastOf? entries.policies) 0 entries.held amount.toNat
      (entries.fee? amount) := by
  have rounds := rankedRounds_inboundFee amount (.ofEntries entries.policies)
    (.ofEntries entries.balances)
  have held : heldIn (.ofEntries entries.balances) = entries.held := by
    funext channel
    rw [heldIn, ChannelMap.getElem?_ofEntries, Entries.held]
  rwa [funext (ChannelMap.getElem?_ofEntries entries.policies), held] at rounds

/-- Only the channels with a balance need to be looked at, so the agreement can be computed. -/
theorem usable?_eq_iff (one other : Entries) :
    (∀ channel, one.usable? channel = other.usable? channel) ↔
      (((one.balances ++ other.balances).map Prod.fst).all fun channel =>
        one.usable? channel == other.usable? channel) = true := by
  have unlisted (entries : Entries) {channel : UInt64}
      (missing : channel ∉ entries.balances.map Prod.fst) : entries.usable? channel = none := by
    unfold usable? Fee.usable? Entries.held
    rw [lastOf?_eq_none_iff.mpr missing]
    rfl
  simp only [List.all_eq_true, beq_iff_eq]
  refine ⟨fun agree channel _ => agree channel, fun agree channel => ?_⟩
  by_cases listed : channel ∈ (one.balances ++ other.balances).map Prod.fst
  · exact agree channel listed
  · rw [List.map_append, List.mem_append, not_or] at listed
    rw [unlisted one listed.1, unlisted other listed.2]

/-- Changes to the entries that show in no channel that can be used. -/
inductive Immaterial : Entries → Entries → Prop where
  /-- Two policies of different channels change places. -/
  | policyOrder {earlier later : List (UInt64 × RoutingPolicy)} {balances : List (UInt64 × UInt64)}
      {entry other : UInt64 × RoutingPolicy} (apart : entry.1 ≠ other.1) :
      Immaterial ⟨earlier ++ entry :: other :: later, balances⟩
        ⟨earlier ++ other :: entry :: later, balances⟩
  /-- Two balances of different channels change places. -/
  | balanceOrder {policies : List (UInt64 × RoutingPolicy)} {earlier later : List (UInt64 × UInt64)}
      {entry other : UInt64 × UInt64} (apart : entry.1 ≠ other.1) :
      Immaterial ⟨policies, earlier ++ entry :: other :: later⟩
        ⟨policies, earlier ++ other :: entry :: later⟩
  /-- A policy that a later one replaces is left out. -/
  | policyReplaced {earlier later : List (UInt64 × RoutingPolicy)}
      {balances : List (UInt64 × UInt64)} {entry : UInt64 × RoutingPolicy}
      (replaced : entry.1 ∈ later.map Prod.fst) :
      Immaterial ⟨earlier ++ entry :: later, balances⟩ ⟨earlier ++ later, balances⟩
  /-- A balance that a later one replaces is left out. -/
  | balanceReplaced {policies : List (UInt64 × RoutingPolicy)}
      {earlier later : List (UInt64 × UInt64)} {entry : UInt64 × UInt64}
      (replaced : entry.1 ∈ later.map Prod.fst) :
      Immaterial ⟨policies, earlier ++ entry :: later⟩ ⟨policies, earlier ++ later⟩
  /-- A policy of a channel without a balance is left out. -/
  | policyWithoutBalance {earlier later : List (UInt64 × RoutingPolicy)}
      {balances : List (UInt64 × UInt64)} {entry : UInt64 × RoutingPolicy}
      (unlisted : entry.1 ∉ balances.map Prod.fst) :
      Immaterial ⟨earlier ++ entry :: later, balances⟩ ⟨earlier ++ later, balances⟩
  /-- A balance of a channel without a policy is left out. -/
  | balanceWithoutPolicy {policies : List (UInt64 × RoutingPolicy)}
      {earlier later : List (UInt64 × UInt64)} {entry : UInt64 × UInt64}
      (unlisted : entry.1 ∉ policies.map Prod.fst) :
      Immaterial ⟨policies, earlier ++ entry :: later⟩ ⟨policies, earlier ++ later⟩
  /-- A channel that holds nothing is left out of the balances. -/
  | zeroBalance {policies : List (UInt64 × RoutingPolicy)} {earlier later : List (UInt64 × UInt64)}
      {channel : UInt64} (alone : channel ∉ (earlier ++ later).map Prod.fst) :
      Immaterial ⟨policies, earlier ++ (channel, 0) :: later⟩ ⟨policies, earlier ++ later⟩
  /-- A policy is replaced by one that has no other base fee in whole satoshis and no other rate. -/
  | otherTerms {earlier later : List (UInt64 × RoutingPolicy)} {balances : List (UInt64 × UInt64)}
      {channel : UInt64} {policy other : RoutingPolicy}
      (base : policy.feeBaseMsat / 1000 = other.feeBaseMsat / 1000)
      (rate : policy.feeRate = other.feeRate) :
      Immaterial ⟨earlier ++ (channel, policy) :: later, balances⟩
        ⟨earlier ++ (channel, other) :: later, balances⟩

theorem Immaterial.usable?_eq {one other : Entries} (change : Immaterial one other)
    (channel : UInt64) : one.usable? channel = other.usable? channel := by
  unfold usable? Fee.usable? Entries.held
  cases change with
  | policyOrder apart => rw [lastOf?_swap apart]
  | balanceOrder apart => rw [lastOf?_swap apart]
  | policyReplaced replaced => rw [lastOf?_replaced replaced]
  | balanceReplaced replaced => rw [lastOf?_replaced replaced]
  | @policyWithoutBalance earlier later balances entry unlisted =>
      dsimp only
      by_cases own : entry.1 = channel
      · rw [lastOf?_eq_none_iff.mpr (own ▸ unlisted)]
        rfl
      · rw [lastOf?_of_ne own]
  | @balanceWithoutPolicy policies earlier later entry unlisted =>
      dsimp only
      by_cases own : entry.1 = channel
      · have unknown : lastOf? policies channel = none :=
          lastOf?_eq_none_iff.mpr (own ▸ unlisted)
        rw [unknown, Option.map_none, Option.map_none, ite_self, ite_self]
      · rw [lastOf?_of_ne own]
  | @zeroBalance policies earlier later emptied alone =>
      dsimp only
      by_cases own : emptied = channel
      · subst own
        rw [lastOf?_eq_none_iff.mpr alone]
        rw [List.map_append, List.mem_append, not_or] at alone
        rw [lastOf?_append, lastOf?_cons, lastOf?_eq_none_iff.mpr alone.2, if_pos rfl]
        rfl
      · rw [lastOf?_of_ne own]
  | @otherTerms earlier later balances changed policy other base rate =>
      dsimp only
      rw [lastOf?_append, lastOf?_append, lastOf?_cons, lastOf?_cons]
      by_cases own : changed = channel
      · rw [if_pos own, if_pos own]
        cases lastOf? later channel with
        | some last => rfl
        | none => simp only [Option.none_or, Option.some_or, Option.map_some, base, rate]
      · rw [if_neg own, if_neg own]

end Entries

/-- The fee of an amount is that of the ranked rounds over the last entries of each channel. It
depends only on the channels that hold something and have a policy: it is the same for any two lists
of entries from which the same channels can be used, with the same balance, the same base fee in
whole satoshis and the same rate. So no change to the entries that shows in no such channel, and no
number of such changes in either direction, has an influence. -/
theorem fee_of_usable_channels (amount : UInt64) :
    (∀ entries : Entries, RankedRounds (lastOf? entries.policies) 0 entries.held amount.toNat
      (entries.fee? amount)) ∧
    (∀ one other : Entries, (∀ channel, one.usable? channel = other.usable? channel) →
      one.fee? amount = other.fee? amount) ∧
    ∀ one other : Entries, Relation.EqvGen Entries.Immaterial one other →
      one.fee? amount = other.fee? amount := by
  have usable (one other : Entries)
      (agree : ∀ channel, one.usable? channel = other.usable? channel) :
      one.fee? amount = other.fee? amount :=
    ((one.rankedRounds_fee? amount).congr agree).unique (other.rankedRounds_fee? amount)
  refine ⟨fun entries => entries.rankedRounds_fee? amount, usable, fun one other changes => ?_⟩
  induction changes with
  | rel one other change => exact usable one other change.usable?_eq
  | refl one => rfl
  | symm one other _ ih => exact ih.symm
  | trans one middle other _ _ first second => exact first.trans second

/-- Channel 3 has an earlier balance, channel 5 no policy, channel 9 no balance and channel 11 an
empty one; the policies stand the other way round, and one has other limits and is switched off. -/
theorem fee_of_usable_channels_among_others :
    let charging (base rate : UInt64) : RoutingPolicy := ⟨0, 0, 0, base, rate, false⟩
    let plain : Entries := ⟨[(3, charging 0 1000), (7, charging 3000 0)], [(3, 2000), (7, 10000)]⟩
    let others : Entries :=
      ⟨[(7, ⟨40, 1, 2, 3999, 0, true⟩), (9, charging 0 0), (11, charging 0 0),
          (3, charging 0 1000)],
        [(3, 1), (5, 10000), (11, 0), (7, 10000), (3, 2000)]⟩
    let emptied : Entries := ⟨plain.policies, plain.balances ++ [(8, 0)]⟩
    (∀ channel, plain.usable? channel = others.usable? channel) ∧
      Relation.EqvGen Entries.Immaterial plain emptied ∧
      plain.fee? 3000 = some 5 ∧ others.fee? 3000 = some 5 ∧ emptied.fee? 3000 = some 5 := by
  intro charging plain others emptied
  obtain ⟨-, usable, changes⟩ := fee_of_usable_channels 3000
  have agree : ∀ channel, plain.usable? channel = others.usable? channel :=
    (Entries.usable?_eq_iff plain others).mpr (by decide +kernel)
  have change : Relation.EqvGen Entries.Immaterial plain emptied :=
    .symm _ _ (.rel _ _ (.zeroBalance (by decide)))
  have fee : plain.fee? 3000 = some 5 := by decide +kernel
  exact ⟨agree, change, fee, (usable plain others agree).symm.trans fee,
    (changes plain emptied change).symm.trans fee⟩

end Fee

end LightningMetrics
