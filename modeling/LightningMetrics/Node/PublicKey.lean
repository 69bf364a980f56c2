import LightningMetrics.Text.Numeral

/-!
Node identities: points of the curve `y² = x³ + 7` over the field of `fieldOrder` elements, read
from hexadecimal text in any of the standard encodings and written compressed. A value is a
point of the curve by construction, so two keys are equal exactly when they are the same point.
-/

set_option autoImplicit false

namespace LightningMetrics

namespace Curve

/-- The order of the field of coordinates, `2 ^ 256 - 2 ^ 32 - 977`. -/
def fieldOrder : Nat :=
  0xfffffffffffffffffffffffffffffffffffffffffffffffffffffffefffffc2f

def square (element : Nat) : Nat :=
  element * element % fieldOrder

/-- `base ^ exponent` in the field, for exponents of at most 256 bits: one squaring for each bit,
the highest one first. -/
def power (base exponent : Nat) : Nat :=
  (List.range 256).reverse.foldl (fun root place =>
    if exponent.testBit place then square root * base % fieldOrder else square root) 1

/-- `x³ + 7` in the field. -/
def rightSide (x : Nat) : Nat :=
  (square x * x + 7) % fieldOrder

def OnCurve (x y : Nat) : Prop :=
  x < fieldOrder ∧ y < fieldOrder ∧ square y = rightSide x

instance (x y : Nat) : Decidable (OnCurve x y) :=
  inferInstanceAs (Decidable (_ ∧ _ ∧ _))

end Curve

/-- A point of the curve. -/
structure PublicKey where
  x : Nat
  y : Nat
  onCurve : Curve.OnCurve x y
deriving DecidableEq

namespace PublicKey

open Curve

/-- The point with these coordinates, if it is on the curve. -/
def ofCoordinates? (x y : Nat) : Option PublicKey :=
  if onCurve : OnCurve x y then some ⟨x, y, onCurve⟩ else none

/-- The point with this `x` whose `y` has the wanted parity. The field order is 3 modulo 4, so a
square root is a power. -/
def ofX? (x : Nat) (odd : Bool) : Option PublicKey :=
  let root := power (rightSide x) ((fieldOrder + 1) / 4)
  let y := if (root % 2 == 1) == odd then root else (fieldOrder - root) % fieldOrder
  ofCoordinates? x y

/-- Reads a key. 33 bytes are a compressed point, tagged 2 for an even and 3 for an odd `y`. 65
bytes hold both coordinates, tagged 4, or 6 and 7 where the tag repeats the parity of `y`. -/
def ofText? (text : String) : Option PublicKey := do
  let digits ← text.toList.mapM Text.hexValue?
  let tag := Text.ofHexDigits (digits.take 2)
  let x := Text.ofHexDigits ((digits.drop 2).take 64)
  if digits.length = 66 then
    if tag = 2 then ofX? x false
    else if tag = 3 then ofX? x true
    else none
  else if digits.length = 130 then
    let y := Text.ofHexDigits (digits.drop 66)
    if tag = 4 ∨ (tag = 6 ∧ y % 2 = 0) ∨ (tag = 7 ∧ y % 2 = 1) then ofCoordinates? x y
    else none
  else none

/-- The lower-case compressed form: 66 hexadecimal digits. -/
def text (key : PublicKey) : String :=
  let digits := String.ofList (Nat.toDigits 16 key.x)
  (if key.y % 2 = 0 then "02" else "03") ++ "".pushn '0' (64 - digits.length) ++ digits

/-- What a text that is no key is called. -/
def malformed : String := "malformed public key"

end PublicKey

end LightningMetrics
