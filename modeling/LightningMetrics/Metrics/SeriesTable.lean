import Std.Data.TreeMap
import LightningMetrics.Metrics.Fingerprint

/-!
The series of a family with several labels. A series is found by the fingerprint of its label
values and keeps the values of its first use, also where others with that fingerprint follow.
-/

set_option autoImplicit false

namespace LightningMetrics

structure LabelledSeries (α : Type) where
  /-- The label values of the first use, in the order of the family's label names. -/
  labels : List String
  value : α
deriving Repr

abbrev SeriesTable (α : Type) := Std.TreeMap UInt64 (LabelledSeries α)

namespace SeriesTable

variable {α : Type}

/-- Changes one series, which starts from `fresh` if it is new. -/
def update (table : SeriesTable α) (labels : List String) (fresh : α) (change : α → α) :
    SeriesTable α :=
  let held := table.getD (fingerprint labels) ⟨labels, fresh⟩
  table.insert (fingerprint labels) ⟨held.labels, change held.value⟩

/-- The series itself keeps its labels, or takes those given if it is new. -/
theorem getElem?_update_self (table : SeriesTable α) (labels : List String) (fresh : α)
    (change : α → α) :
    (table.update labels fresh change)[fingerprint labels]? =
      some ⟨(table.getD (fingerprint labels) ⟨labels, fresh⟩).labels,
        change (table.getD (fingerprint labels) ⟨labels, fresh⟩).value⟩ := by
  simp [update]

/-- Series with other fingerprints are left alone. -/
theorem getElem?_update_of_ne (table : SeriesTable α) (labels : List String) (fresh : α)
    (change : α → α) (key : UInt64) (other : fingerprint labels ≠ key) :
    (table.update labels fresh change)[key]? = table[key]? := by
  simp [update, Std.TreeMap.getElem?_insert, other]

/-- All series in the order of their label values. -/
def toSeries (table : SeriesTable α) : List (List String × α) :=
  (table.values.map fun series => (series.labels, series.value)).mergeSort
    fun left right => (compare left.1 right.1).isLE

end SeriesTable

end LightningMetrics
