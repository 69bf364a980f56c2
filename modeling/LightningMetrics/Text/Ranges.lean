set_option autoImplicit false

namespace LightningMetrics.Text

/-- Is the code point in one of the inclusive ranges? -/
def inRanges (ranges : List (Nat × Nat)) (code : Nat) : Bool :=
  ranges.any fun range => range.1 ≤ code && code ≤ range.2

end LightningMetrics.Text
