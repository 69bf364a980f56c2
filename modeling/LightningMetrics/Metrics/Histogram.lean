import LightningMetrics.Binary64.Rounding

set_option autoImplicit false

namespace LightningMetrics

/-- Counts per bucket. A bucket is named by its upper bound, which belongs to it, and holds the
observations above the bounds before it. -/
structure Histogram where
  buckets : List (Binary64 × Nat)
  count : Nat
  sum : Binary64
deriving DecidableEq, Repr

namespace Histogram

/-- No observations, with these bounds in ascending order. -/
def empty (bounds : List Binary64) : Histogram :=
  ⟨bounds.map fun bound => (bound, 0), 0, .zero⟩

/-- Counts an observation in the first bucket whose bound it does not exceed. -/
def countIn (value : Binary64) : List (Binary64 × Nat) → List (Binary64 × Nat)
  | [] => []
  | (bound, count) :: rest =>
      if value.le bound then (bound, count + 1) :: rest else (bound, count) :: countIn value rest

/-- Adds an observation. One above all bounds is in no bucket, but in the count and the sum. -/
def observe (histogram : Histogram) (value : Binary64) : Histogram where
  buckets := countIn value histogram.buckets
  count := histogram.count + 1
  sum := histogram.sum + value

/-- The running totals of the counts, starting from `below`. -/
def runningTotals (below : Nat) : List (Binary64 × Nat) → List (Binary64 × Nat)
  | [] => []
  | (bound, count) :: rest => (bound, below + count) :: runningTotals (below + count) rest

/-- For each bound the number of observations that do not exceed it. -/
def cumulative (histogram : Histogram) : List (Binary64 × Nat) :=
  runningTotals 0 histogram.buckets

@[simp] theorem count_observe (histogram : Histogram) (value : Binary64) :
    (histogram.observe value).count = histogram.count + 1 := rfl

theorem bounds_countIn (value : Binary64) (buckets : List (Binary64 × Nat)) :
    (countIn value buckets).map Prod.fst = buckets.map Prod.fst := by
  induction buckets with
  | nil => rfl
  | cons bucket rest ih =>
      obtain ⟨bound, count⟩ := bucket
      by_cases inside : value.le bound = true <;> simp [countIn, inside, ih]

/-- Observing keeps the bounds. -/
theorem bounds_observe (histogram : Histogram) (value : Binary64) :
    (histogram.observe value).buckets.map Prod.fst = histogram.buckets.map Prod.fst :=
  bounds_countIn value histogram.buckets

end Histogram

end LightningMetrics
