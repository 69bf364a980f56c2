import LightningMetrics.Fee.Series

set_option autoImplicit false

namespace LightningMetrics.Fee

variable {fee? : UInt64 → Option UInt64} {amount : UInt64}

theorem seriesFrom_zero : seriesFrom fee? 0 = [] := by
  rw [seriesFrom]
  exact dif_pos rfl

theorem seriesFrom_of_none (positive : amount ≠ 0) (refused : fee? amount = none) :
    seriesFrom fee? amount = [] := by
  rw [seriesFrom, dif_neg positive, refused]

theorem seriesFrom_of_some {fee : UInt64} (positive : amount ≠ 0) (given : fee? amount = some fee) :
    seriesFrom fee? amount =
      (amount, Binary64.ofNat fee.toNat / Binary64.ofNat amount.toNat) ::
        (double? amount).elim [] (seriesFrom fee?) := by
  rw [seriesFrom, dif_neg positive, given]
  dsimp only
  congr 1
  split
  · next refused => rw [refused]; rfl
  · next doubled => rw [doubled]; rfl

theorem le_of_mem_seriesFrom (fee? : UInt64 → Option UInt64) (amount : UInt64) :
    ∀ point ∈ seriesFrom fee? amount, amount.toNat ≤ point.1.toNat := by
  induction amount using seriesFrom.induct fee? with
  | case1 =>
      rw [seriesFrom_zero]
      exact nofun
  | case2 amount positive refused =>
      rw [seriesFrom_of_none positive refused]
      exact nofun
  | case3 amount positive fee given ih =>
      rw [seriesFrom_of_some positive given]
      intro point member
      rcases List.mem_cons.mp member with rfl | later
      · exact Nat.le_refl _
      · cases doubled : double? amount with
        | none =>
            rw [doubled] at later
            cases later
        | some next =>
            rw [doubled] at later
            have above := ih next doubled point later
            have twice := double?_eq_some doubled
            omega

theorem seriesFrom_ascending (fee? : UInt64 → Option UInt64) (amount : UInt64) :
    (seriesFrom fee? amount).Pairwise fun earlier later =>
      earlier.1.toNat < later.1.toNat := by
  induction amount using seriesFrom.induct fee? with
  | case1 =>
      rw [seriesFrom_zero]
      exact .nil
  | case2 amount positive refused =>
      rw [seriesFrom_of_none positive refused]
      exact .nil
  | case3 amount positive fee given ih =>
      rw [seriesFrom_of_some positive given]
      cases doubled : double? amount with
      | none => exact List.pairwise_singleton _ _
      | some next =>
          refine .cons (fun point member => ?_) (ih next doubled)
          have above := le_of_mem_seriesFrom fee? next point member
          have twice := double?_eq_some doubled
          have nonzero : amount.toNat ≠ 0 := fun zero => positive (UInt64.toNat_inj.mp zero)
          change amount.toNat < point.1.toNat
          omega

theorem nodup_amounts (base : UInt64) (policies : ChannelMap RoutingPolicy)
    (balances : ChannelMap UInt64) :
    ((inboundSeries base policies balances).map Prod.fst).Nodup := by
  have ascending := seriesFrom_ascending (inboundFee? · policies balances) base
  refine List.pairwise_map.mpr (ascending.imp fun below same => ?_)
  rw [same] at below
  exact Nat.lt_irrefl _ below

end LightningMetrics.Fee
