import LightningMetrics.Fee.Estimate

set_option autoImplicit false

namespace LightningMetrics

/-- Twice the amount, if that is a word. -/
def double? (amount : UInt64) : Option UInt64 :=
  if amount.toNat < 0x8000000000000000 then some (amount * 2) else none

theorem double?_eq_some {amount doubled : UInt64} (fits : double? amount = some doubled) :
    doubled.toNat = 2 * amount.toNat := by
  unfold double? at fits
  split at fits
  · cases fits
    rw [UInt64.toNat_mul, show (2 : UInt64).toNat = 2 from rfl]
    omega
  · cases fits

theorem double?_eq_none_iff {amount : UInt64} :
    double? amount = none ↔ 0x8000000000000000 ≤ amount.toNat := by
  unfold double?
  split <;> simp <;> omega

namespace Fee

/-- The points from `amount` on, with the fee of each amount given by `fee?`. -/
def seriesFrom (fee? : UInt64 → Option UInt64) (amount : UInt64) : List (UInt64 × Binary64) :=
  if _ : amount = 0 then []
  else
    match fee? amount with
    | none => []
    | some fee =>
        (amount, Binary64.ofNat fee.toNat / Binary64.ofNat amount.toNat) ::
          match _ : double? amount with
          | none => []
          | some next => seriesFrom fee? next
termination_by 0x10000000000000000 - amount.toNat
decreasing_by
  have twice := double?_eq_some ‹_›
  have positive : 0 < amount.toNat :=
    Nat.pos_of_ne_zero fun zero => ‹¬ amount = 0› (UInt64.toNat_inj.mp zero)
  have bound := amount.toNat_lt
  omega

/-- The proportional fees of `base` and its doublings, up to the first amount that our remote
liquidity cannot carry. -/
def inboundSeries (base : UInt64) (policies : ChannelMap RoutingPolicy)
    (balances : ChannelMap UInt64) : List (UInt64 × Binary64) :=
  seriesFrom (fun amount => inboundFee? amount policies balances) base

end Fee

end LightningMetrics
