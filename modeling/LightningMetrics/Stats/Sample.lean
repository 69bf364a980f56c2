import LightningMetrics.Binary64.Rounding

set_option autoImplicit false

namespace LightningMetrics.Stats

structure Report where
  min : Binary64
  max : Binary64
  mean : Binary64
  median : Binary64
deriving DecidableEq, Repr

/-- What a set of no observations reports. -/
def Report.zero : Report := ⟨.zero, .zero, .zero, .zero⟩

/-- A set of observations, with what can be kept up to date while it grows. -/
structure Sample where
  min : Binary64
  max : Binary64
  sum : Binary64
  values : Array Binary64
deriving Repr

namespace Sample

/-- No observations yet. The capacity is a hint, not followed beyond some thousands, and changes
no report. -/
def withCapacity (capacity : Nat) : Sample :=
  ⟨.infinity, .negativeInfinity, .zero, Array.emptyWithCapacity (Nat.min capacity 4096)⟩

/-- Adds an observation. A NaN changes neither the minimum nor the maximum. -/
def observe (sample : Sample) (value : Binary64) : Sample where
  min := sample.min.min value
  max := sample.max.max value
  sum := sample.sum + value
  values := sample.values.push value

def ofList (capacity : Nat) (values : List Binary64) : Sample :=
  values.foldl observe (withCapacity capacity)

/-- The middle value in the total order of doubles, or half the sum of the middle two. -/
def median (values : List Binary64) : Binary64 :=
  let sorted := values.mergeSort Binary64.totalLe
  let middle := values.length / 2
  if values.length % 2 = 0 then
    (sorted.getD (middle - 1) .zero + sorted.getD middle .zero) / Binary64.ofNat 2
  else
    sorted.getD middle .zero

def report (sample : Sample) : Report :=
  if sample.values.isEmpty then Report.zero
  else
    { min := sample.min
      max := sample.max
      mean := sample.sum / Binary64.ofNat sample.values.size
      median := median sample.values.toList }

@[simp] theorem values_withCapacity (capacity : Nat) : (withCapacity capacity).values = #[] := by
  simp [withCapacity]

theorem values_foldl_observe (values : List Binary64) (sample : Sample) :
    (values.foldl observe sample).values.toList = sample.values.toList ++ values := by
  induction values generalizing sample with
  | nil => simp
  | cons value rest ih => simp [ih, observe]

/-- Every observation is kept, in the order it came. -/
theorem values_ofList (capacity : Nat) (values : List Binary64) :
    (ofList capacity values).values.toList = values := by
  simp [ofList, values_foldl_observe]

end Sample

end LightningMetrics.Stats
