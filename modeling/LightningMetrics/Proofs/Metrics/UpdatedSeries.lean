import Mathlib.Algebra.BigOperators.Group.List.Lemmas
import Mathlib.Algebra.GroupWithZero.Nat
import Mathlib.Data.List.Dedup
import Mathlib.Data.List.Induction
import LightningMetrics.Metrics.Family

set_option autoImplicit false

namespace LightningMetrics.SeriesMap

variable {α β γ : Type}

/-- Series after a list of uses, each with what it brings. -/
def updateAll (fresh : α) (change : β → α → α) (series : SeriesMap α)
    (uses : List (List String × β)) : SeriesMap α :=
  uses.foldl (fun reached use => reached.update use.1 fresh (change use.2)) series

theorem updateAll_concat (fresh : α) (change : β → α → α) (series : SeriesMap α)
    (uses : List (List String × β)) (use : List String × β) :
    series.updateAll fresh change (uses ++ [use]) =
      (series.updateAll fresh change uses).update use.1 fresh (change use.2) :=
  List.foldl_append

theorem mem_update {series : SeriesMap α} {labels other : List String} {fresh : α}
    {change : α → α} :
    other ∈ series.update labels fresh change ↔ labels = other ∨ other ∈ series := by
  unfold update
  rw [Std.TreeMap.mem_insert, Std.LawfulEqCmp.compare_eq_iff_eq]

theorem getD_update (series : SeriesMap α) (labels other : List String) (fresh : α)
    (change : α → α) :
    (series.update labels fresh change).getD other fresh =
      if labels = other then change (series.getD other fresh) else series.getD other fresh := by
  unfold update
  rw [Std.TreeMap.getD_insert]
  by_cases own : labels = other
  · rw [if_pos own, if_pos (Std.LawfulEqCmp.compare_eq_iff_eq.mpr own), own]
  · rw [if_neg own, if_neg (mt Std.LawfulEqCmp.compare_eq_iff_eq.mp own)]

/-- What the uses of these labels bring, in their order. -/
def broughtTo (labels : List String) (uses : List (List String × β)) : List β :=
  (uses.filter fun use => use.1 = labels).map Prod.snd

theorem broughtTo_concat (labels : List String) (uses : List (List String × β))
    (use : List String × β) :
    broughtTo labels (uses ++ [use]) =
      if use.1 = labels then broughtTo labels uses ++ [use.2] else broughtTo labels uses := by
  unfold broughtTo
  by_cases own : use.1 = labels <;> simp [own]

theorem length_broughtTo (labels : List String) (uses : List (List String × β)) :
    (broughtTo labels uses).length = (uses.map Prod.fst).countP fun used => used = labels := by
  unfold broughtTo
  rw [List.length_map, ← List.countP_eq_length_filter, List.countP_map]
  rfl

section FromEmpty

variable {fresh : α} {change : β → α → α} {uses : List (List String × β)}

theorem mem_updateAll {labels : List String} :
    labels ∈ (∅ : SeriesMap α).updateAll fresh change uses ↔ labels ∈ uses.map Prod.fst := by
  induction uses using List.reverseRecOn with
  | nil => exact iff_of_false Std.TreeMap.not_mem_emptyc (List.not_mem_nil)
  | append_singleton uses use ih =>
      rw [updateAll_concat, mem_update, ih, List.map_append, List.mem_append, List.map_singleton,
        List.mem_singleton, or_comm, eq_comm]

theorem getD_updateAll (labels : List String) :
    ((∅ : SeriesMap α).updateAll fresh change uses).getD labels fresh =
      (broughtTo labels uses).foldl (fun value use => change use value) fresh := by
  induction uses using List.reverseRecOn with
  | nil => exact Std.TreeMap.getD_emptyc
  | append_singleton uses use ih =>
      rw [updateAll_concat, getD_update, broughtTo_concat, ih]
      by_cases own : use.1 = labels
      · rw [if_pos own, if_pos own, List.foldl_append]
        rfl
      · rw [if_neg own, if_neg own]

theorem getElem?_updateAll (labels : List String) :
    ((∅ : SeriesMap α).updateAll fresh change uses)[labels]? =
      if labels ∈ uses.map Prod.fst then
        some ((broughtTo labels uses).foldl (fun value use => change use value) fresh)
      else none := by
  by_cases used : labels ∈ uses.map Prod.fst
  · rw [if_pos used, ← getD_updateAll]
    exact Std.TreeMap.getElem?_eq_some_getD (mem_updateAll.mpr used)
  · rw [if_neg used]
    exact Std.TreeMap.getElem?_eq_none (mt mem_updateAll.mp used)

theorem toList_updateAll_perm :
    ((∅ : SeriesMap α).updateAll fresh change uses).toList.Perm
      ((uses.map Prod.fst).dedup.map fun labels =>
        (labels, (broughtTo labels uses).foldl (fun value use => change use value) fresh)) := by
  have separate : Function.Injective fun labels : List String =>
      (labels, (broughtTo labels uses).foldl (fun value use => change use value) fresh) :=
    fun _ _ same => (Prod.mk.inj same).1
  have distinct : ((∅ : SeriesMap α).updateAll fresh change uses).toList.Nodup := by
    have keys := Std.TreeMap.nodup_keys (t := (∅ : SeriesMap α).updateAll fresh change uses)
    rw [← Std.TreeMap.map_fst_toList_eq_keys] at keys
    exact keys.of_map
  rw [List.perm_ext_iff_of_nodup distinct ((List.nodup_dedup _).map separate)]
  rintro ⟨labels, value⟩
  rw [Std.TreeMap.mem_toList_iff_getElem?_eq_some, getElem?_updateAll]
  constructor
  · intro held
    split at held
    · rename_i used
      cases held
      exact List.mem_map_of_mem (List.mem_dedup.mpr used)
    · cases held
  · intro member
    obtain ⟨_, used, same⟩ := List.mem_map.mp member
    cases same
    exact if_pos (List.mem_dedup.mp used)

theorem sum_counts :
    (((∅ : SeriesMap Nat).updateAll 0 (fun _ count => count + 1) uses).toList.map Prod.snd).sum =
      uses.length := by
  have counted (brought : List β) :
      brought.foldl (fun count _ => count + 1) 0 = brought.length := by
    rw [List.foldl_add_const, Nat.zero_add, Nat.one_mul]
  rw [(toList_updateAll_perm.map Prod.snd).sum_nat, List.map_map]
  simp only [Function.comp_def, counted, length_broughtTo]
  exact (List.sum_map_count_dedup_eq_length (uses.map Prod.fst)).trans (List.length_map _)

theorem keys_updateAll (other : γ) (alter : β → γ → γ) :
    ((∅ : SeriesMap α).updateAll fresh change uses).keys =
      ((∅ : SeriesMap γ).updateAll other alter uses).keys := by
  apply List.Perm.eq_of_pairwise _ Std.TreeMap.ordered_keys Std.TreeMap.ordered_keys
  · rw [List.perm_ext_iff_of_nodup Std.TreeMap.nodup_keys Std.TreeMap.nodup_keys]
    intro labels
    rw [Std.TreeMap.mem_keys, Std.TreeMap.mem_keys, mem_updateAll, mem_updateAll]
  · intro one another _ _ below above
    rw [Std.OrientedCmp.gt_iff_lt.symm, above] at below
    cases below

theorem toList_updateAll_of_perm {others : List (List String × β)} (permuted : others.Perm uses)
    (alike : ∀ one other : List β, one.Perm other →
      one.foldl (fun value use => change use value) fresh =
        other.foldl (fun value use => change use value) fresh) :
    ((∅ : SeriesMap α).updateAll fresh change others).toList =
      ((∅ : SeriesMap α).updateAll fresh change uses).toList := by
  apply Std.TreeMap.Equiv.toList_eq
  apply Std.TreeMap.Equiv.of_forall_constGet?_eq
  intro labels
  have brought : (broughtTo labels others).Perm (broughtTo labels uses) := (permuted.filter _).map _
  rw [getElem?_updateAll, getElem?_updateAll, alike _ _ brought]
  simp only [(permuted.map Prod.fst).mem_iff]

end FromEmpty

end LightningMetrics.SeriesMap
