set_option autoImplicit false

namespace LightningMetrics.Text

/-- The number written by a non-empty text of decimal digits, which may start with zeros. -/
def numeral? (text : List Char) : Option Nat :=
  if text ≠ [] ∧ text.all Char.isDigit then some (Nat.ofDigitChars 10 text 0) else none

/-- A numeral that is at most `largest`. -/
def numeralUpTo? (largest : Nat) (text : List Char) : Option Nat :=
  (numeral? text).filter (· ≤ largest)

/-- A numeral that is a word, with at most one plus sign in front. -/
def word? (text : List Char) : Option UInt64 :=
  let digits :=
    match text with
    | '+' :: digits => digits
    | _ => text
  (numeralUpTo? 0xffffffffffffffff digits).map UInt64.ofNat

/-- The value of a hexadecimal digit, in either case. -/
def hexValue? (char : Char) : Option Nat :=
  if '0' ≤ char ∧ char ≤ '9' then some (char.toNat - '0'.toNat)
  else if 'a' ≤ char ∧ char ≤ 'f' then some (char.toNat - 'a'.toNat + 10)
  else if 'A' ≤ char ∧ char ≤ 'F' then some (char.toNat - 'A'.toNat + 10)
  else none

/-- The number that hexadecimal digits write, the most significant one first. -/
def ofHexDigits (digits : List Nat) : Nat :=
  digits.foldl (fun number digit => 16 * number + digit) 0

theorem numeral?_toDigits (number : Nat) : numeral? (Nat.toDigits 10 number) = some number := by
  have digits : (Nat.toDigits 10 number).all Char.isDigit = true := by
    simp only [List.all_eq_true]
    exact fun char member => Nat.isDigit_of_mem_toDigits (by decide) (by decide) member
  simp [numeral?, digits, Nat.toDigits_ne_nil]

end LightningMetrics.Text
