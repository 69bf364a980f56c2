set_option autoImplicit false

namespace LightningMetrics.Text

/-- The White_Space property. It holds U+0085 and U+00A0, but neither U+001C nor U+200B. -/
def isBlank (char : Char) : Bool :=
  let code := char.toNat
  (0x9 ≤ code && code ≤ 0xd) || code == 0x20 || code == 0x85 || code == 0xa0 || code == 0x1680 ||
    (0x2000 ≤ code && code ≤ 0x200a) || code == 0x2028 || code == 0x2029 || code == 0x202f ||
    code == 0x205f || code == 0x3000

/-- Drops the blanks at the end. -/
def trimEnd (text : List Char) : List Char :=
  (text.reverse.dropWhile isBlank).reverse

/-- Drops the blanks at both ends. -/
def trim (text : List Char) : List Char :=
  trimEnd (text.dropWhile isBlank)

theorem dropWhile_isBlank_eq_nil_iff (text : List Char) :
    text.dropWhile isBlank = [] ↔ ∀ char ∈ text, isBlank char = true := by
  induction text with
  | nil => simp
  | cons char rest ih => by_cases blank : isBlank char = true <;> simp [blank, ih]

theorem trimEnd_eq_nil_iff (text : List Char) :
    trimEnd text = [] ↔ ∀ char ∈ text, isBlank char = true := by
  rw [trimEnd, List.reverse_eq_nil_iff, dropWhile_isBlank_eq_nil_iff]
  simp

/-- Nothing is left of a text exactly when it holds blanks only. -/
theorem trim_eq_nil_iff (text : List Char) :
    trim text = [] ↔ ∀ char ∈ text, isBlank char = true := by
  induction text with
  | nil => simp [trim, trimEnd]
  | cons char rest ih =>
      by_cases blank : isBlank char = true
      · simpa [trim, blank] using ih
      · simp [trim, blank, trimEnd_eq_nil_iff]

end LightningMetrics.Text
