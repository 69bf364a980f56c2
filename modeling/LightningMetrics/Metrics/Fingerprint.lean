/-!
The fingerprint by which a family with several labels finds a series: a 64-bit hash of the bytes of
the label values run together. Nothing marks where a value ends, so characters may move from one
value to the next and the fingerprint stays (`fingerprint_move`).
-/

set_option autoImplicit false

namespace LightningMetrics

/-- The bytes of label values, one value right after the other. -/
def labelBytes (labels : List String) : List UInt8 :=
  labels.flatMap fun label => label.toList.flatMap String.utf8EncodeChar

/-- Takes one byte into a hash. -/
def absorb (hash : UInt64) (byte : UInt8) : UInt64 :=
  (hash ^^^ byte.toUInt64) * 0x100000001b3

/-- The FNV-1a hash of label values. -/
def fingerprint (labels : List String) : UInt64 :=
  (labelBytes labels).foldl absorb 0xcbf29ce484222325

theorem fingerprint_eq_of_labelBytes {first second : List String}
    (same : labelBytes first = labelBytes second) : fingerprint first = fingerprint second := by
  rw [fingerprint, fingerprint, same]

/-- What stands at the end of one value may as well stand at the start of the next. -/
theorem fingerprint_move (before after : List String) (first moved second : String) :
    fingerprint (before ++ (first ++ moved) :: second :: after) =
      fingerprint (before ++ first :: (moved ++ second) :: after) := by
  apply fingerprint_eq_of_labelBytes
  simp only [labelBytes, List.flatMap_append, List.flatMap_cons, String.toList_append,
    List.append_assoc]

end LightningMetrics
