import Std.Data.TreeMap
import LightningMetrics.Binary64.Rounding
import LightningMetrics.Channel.Basic

/-!
The fee a sender pays on the last hop towards our node. A multi-path sender who knows the remote
liquidity of every channel sends one shard after the other through the channel that is cheapest
per satoshi at that point, until the amount is delivered or no channel is left.

`route` gives the shards themselves, so that the fee, the amounts per channel and the number of
rounds are all read off one value.
-/

set_option autoImplicit false

namespace LightningMetrics

/-- A table by channel id, in ascending order. -/
abbrev ChannelMap (α : Type) := Std.TreeMap UInt64 α

/-- The table of a list of entries, where a later entry replaces an earlier one. -/
def ChannelMap.ofEntries {α : Type} (entries : List (UInt64 × α)) : ChannelMap α :=
  entries.foldl (fun table entry => table.insert entry.1 entry.2) ∅

/-- The largest word. -/
def largestWord : UInt64 := 0xffffffffffffffff

/-- The sum, or the largest word where the sum has no place. -/
def saturatingAdd (left right : UInt64) : UInt64 :=
  if left + right < left then largestWord else left + right

/-- A double word as a word, or the largest word where it has no place. -/
def saturate (value : BitVec 128) : UInt64 :=
  if value.toNat ≤ largestWord.toNat then UInt64.ofNat value.toNat else largestWord

/-- The share of `amount` that a rate in parts per million takes, rounded down. The product is
formed in a double word. -/
def proportionalFee (rate amount : UInt64) : UInt64 :=
  saturate (amount.toBitVec.zeroExtend 128 * rate.toBitVec.zeroExtend 128 / 1000000#128)

/-- What the policy charges for forwarding an amount, in satoshis. -/
def RoutingPolicy.forwardingFee (policy : RoutingPolicy) (amount : UInt64) : UInt64 :=
  saturatingAdd (policy.feeBaseMsat / 1000) (proportionalFee policy.feeRate amount)

/-- A part of a payment that travels over one channel. -/
structure Shard where
  channel : UInt64
  amount : UInt64
  fee : UInt64
deriving DecidableEq, Repr

/-- Fee per satoshi. -/
def Shard.specificFee (shard : Shard) : Binary64 :=
  Binary64.ofNat shard.fee.toNat / Binary64.ofNat shard.amount.toNat

namespace Fee

/-- What each channel can still carry, in ascending order of channel ids. -/
abbrev Liquidity := List (UInt64 × UInt64)

/-- The shard a channel would carry next. A drained channel carries none, and neither does one
without a policy. -/
def shard? (policies : ChannelMap RoutingPolicy) (remaining : UInt64)
    (entry : UInt64 × UInt64) : Option Shard :=
  if entry.2 = 0 then none
  else policies[entry.1]?.map fun policy =>
    let amount := if remaining ≤ entry.2 then remaining else entry.2
    ⟨entry.1, amount, policy.forwardingFee amount⟩

def candidates (policies : ChannelMap RoutingPolicy) (liquidity : Liquidity)
    (remaining : UInt64) : List Shard :=
  liquidity.filterMap (shard? policies remaining)

/-- Keeps the earlier shard unless the later one is strictly cheaper. -/
def cheaper (best : Option Shard) (shard : Shard) : Option Shard :=
  match best with
  | none => some shard
  | some held => if shard.specificFee.lt held.specificFee then some shard else some held

/-- The first of the shards that are cheapest per satoshi. -/
def cheapest (shards : List Shard) : Option Shard :=
  shards.foldl cheaper none

/-- What is left after a shard. -/
def spend (liquidity : Liquidity) (shard : Shard) : Liquidity :=
  liquidity.map fun entry =>
    if entry.1 = shard.channel then (entry.1, entry.2 - shard.amount) else entry

theorem cheapest_mem {shards : List Shard} {best : Shard} (found : cheapest shards = some best) :
    best ∈ shards := by
  have general : ∀ (rest : List Shard) (held : Option Shard),
      rest.foldl cheaper held = some best → held = some best ∨ best ∈ rest := by
    intro rest
    induction rest with
    | nil => intro held same; exact Or.inl same
    | cons shard rest ih =>
        intro held same
        rcases ih _ same with kept | later
        · cases held with
          | none => simp_all [cheaper]
          | some other =>
              simp only [cheaper] at kept
              split at kept <;> simp_all
        · exact Or.inr (List.mem_cons_of_mem _ later)
  rcases general shards none found with absurd | member
  · cases absurd
  · exact member

/-- A candidate moves something, and no more than what remains. -/
theorem candidate_amount {policies : ChannelMap RoutingPolicy} {liquidity : Liquidity}
    {remaining : UInt64} {shard : Shard} (positive : remaining ≠ 0)
    (member : shard ∈ candidates policies liquidity remaining) :
    0 < shard.amount.toNat ∧ shard.amount.toNat ≤ remaining.toNat := by
  simp only [candidates, List.mem_filterMap, shard?] at member
  obtain ⟨entry, -, made⟩ := member
  split at made
  · cases made
  · rename_i nonzero
    obtain ⟨policy, -, rfl⟩ := Option.map_eq_some_iff.mp made
    have first : 0 < remaining.toNat :=
      Nat.pos_of_ne_zero fun zero => positive (UInt64.toNat_inj.mp zero)
    have second : 0 < entry.2.toNat :=
      Nat.pos_of_ne_zero fun zero => nonzero (UInt64.toNat_inj.mp zero)
    by_cases fits : remaining ≤ entry.2
    · simp only [fits, ↓reduceIte]
      exact ⟨first, Nat.le_refl _⟩
    · simp only [fits, ↓reduceIte]
      exact ⟨second, Nat.le_of_lt (UInt64.not_le.mp fits)⟩

/-- How an amount travels: the shards in the order they are sent, and what no channel could
carry. -/
structure Route where
  shards : List Shard
  undelivered : UInt64
deriving DecidableEq, Repr

/-- Sends `remaining` shard by shard. -/
def route (policies : ChannelMap RoutingPolicy) (liquidity : Liquidity)
    (remaining : UInt64) : Route :=
  if _ : remaining = 0 then ⟨[], 0⟩
  else
    match _ : cheapest (candidates policies liquidity remaining) with
    | none => ⟨[], remaining⟩
    | some shard =>
        let rest := route policies (spend liquidity shard) (remaining - shard.amount)
        { rest with shards := shard :: rest.shards }
termination_by remaining.toNat
decreasing_by
  have bounds := candidate_amount ‹_› (cheapest_mem ‹_›)
  rw [UInt64.toNat_sub_of_le _ _ (UInt64.le_iff_toNat_le.mpr bounds.2)]
  omega

/-- The fees of the shards together. -/
def Route.fee (route : Route) : UInt64 :=
  route.shards.foldl (fun total shard => saturatingAdd total shard.fee) 0

/-- The fee for receiving `amount` satoshis, or nothing if the channels with a policy cannot
carry it. The policies are those our peers have enabled. -/
def inboundFee? (amount : UInt64) (policies : ChannelMap RoutingPolicy)
    (balances : ChannelMap UInt64) : Option UInt64 :=
  let route := route policies balances.toList amount
  if route.undelivered = 0 then some route.fee else none

end Fee

end LightningMetrics
