import LightningMetrics.Proofs.Binary64.Comparison
import LightningMetrics.Proofs.Metrics.UseOrder

set_option autoImplicit false

namespace LightningMetrics.Histogram

/-- Each bound is at most the next ones. -/
def IsAscending (bounds : List Binary64) : Prop :=
  bounds.Pairwise fun earlier later => earlier.le later = true

theorem runningTotals_add (below extra : Nat) (buckets : List (Binary64 × Nat)) :
    runningTotals (below + extra) buckets =
      (runningTotals below buckets).map fun bucket => (bucket.1, bucket.2 + extra) := by
  induction buckets generalizing below with
  | nil => rfl
  | cons bucket rest ih =>
      obtain ⟨bound, count⟩ := bucket
      simp only [runningTotals, List.map_cons]
      rw [show below + extra + count = below + count + extra by omega, ih]

theorem map_fst_runningTotals (below : Nat) (buckets : List (Binary64 × Nat)) :
    (runningTotals below buckets).map Prod.fst = buckets.map Prod.fst := by
  induction buckets generalizing below with
  | nil => rfl
  | cons bucket rest ih => simp only [runningTotals, List.map_cons, ih]

/-- An observation is in the running totals of the bounds that it does not exceed. -/
theorem runningTotals_countIn {buckets : List (Binary64 × Nat)}
    (ascending : IsAscending (buckets.map Prod.fst)) (value : Binary64) (below : Nat) :
    runningTotals below (countIn value buckets) =
      (runningTotals below buckets).map fun bucket =>
        (bucket.1, bucket.2 + if value.le bucket.1 then 1 else 0) := by
  induction buckets generalizing below with
  | nil => rfl
  | cons bucket rest ih =>
      obtain ⟨bound, count⟩ := bucket
      obtain ⟨above, onwards⟩ := List.pairwise_cons.mp ascending
      by_cases inside : value.le bound = true
      · -- All later bounds are above this one, so the observation counts there too.
        have later : ∀ bucket ∈ runningTotals (below + count) rest,
            value.le bucket.1 = true := by
          intro bucket member
          apply Binary64.le_trans inside
          apply above
          rw [← map_fst_runningTotals (below + count)]
          exact List.mem_map_of_mem member
        simp only [countIn, inside, ↓reduceIte, runningTotals, List.map_cons, Nat.add_assoc]
        rw [← Nat.add_assoc, runningTotals_add]
        congr 1
        apply List.map_congr_left
        intro bucket member
        rw [later bucket member, if_pos rfl]
      · simp only [countIn, inside, Bool.false_eq_true, ↓reduceIte, runningTotals, List.map_cons,
          Nat.add_zero]
        rw [ih onwards]

theorem cumulative_empty (bounds : List Binary64) :
    (empty bounds).cumulative = bounds.map fun bound => (bound, 0) := by
  change runningTotals 0 (bounds.map fun bound => (bound, 0)) = _
  induction bounds with
  | nil => rfl
  | cons bound rest ih => simp only [List.map_cons, runningTotals, Nat.add_zero, ih]

theorem bounds_empty (bounds : List Binary64) : (empty bounds).buckets.map Prod.fst = bounds := by
  unfold empty
  rw [List.map_map]
  exact List.map_id' bounds

theorem cumulative_observe {histogram : Histogram}
    (ascending : IsAscending (histogram.buckets.map Prod.fst)) (value : Binary64) :
    (histogram.observe value).cumulative =
      histogram.cumulative.map fun bucket =>
        (bucket.1, bucket.2 + if value.le bucket.1 then 1 else 0) :=
  runningTotals_countIn ascending value 0

theorem observeAll_concat (histogram : Histogram) (values : List Binary64) (value : Binary64) :
    histogram.observeAll (values ++ [value]) = (histogram.observeAll values).observe value :=
  List.foldl_append

theorem bounds_observeAll (histogram : Histogram) (values : List Binary64) :
    (histogram.observeAll values).buckets.map Prod.fst = histogram.buckets.map Prod.fst := by
  induction values using List.reverseRecOn with
  | nil => rfl
  | append_singleton values value ih => rw [observeAll_concat, bounds_observe, ih]

theorem cumulative_observeAll {bounds : List Binary64} (ascending : IsAscending bounds)
    (values : List Binary64) :
    ((empty bounds).observeAll values).cumulative =
      bounds.map fun bound => (bound, values.countP fun value => value.le bound) := by
  induction values using List.reverseRecOn with
  | nil => exact cumulative_empty bounds
  | append_singleton values value ih =>
      have kept : IsAscending (((empty bounds).observeAll values).buckets.map Prod.fst) := by
        rw [bounds_observeAll, bounds_empty]
        exact ascending
      rw [observeAll_concat, cumulative_observe kept, ih, List.map_map]
      apply List.map_congr_left
      intro bound _
      rw [List.countP_append, List.countP_singleton]
      rfl

end LightningMetrics.Histogram
