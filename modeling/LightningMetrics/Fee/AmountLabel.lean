set_option autoImplicit false

namespace LightningMetrics.Fee

def satsPerBitcoin : Nat := 100000000

/-- The decimal digits of `number`, filled up with leading zeros to `width` places. -/
def padded (width number : Nat) : List Char :=
  let digits := Nat.toDigits 10 number
  List.replicate (width - digits.length) '0' ++ digits

/-- Drops the zeros at the end. -/
def dropTrailingZeros (digits : List Char) : List Char :=
  (digits.reverse.dropWhile (· == '0')).reverse

/-- The number part of a label. -/
def amountDigits (amount : Nat) : List Char :=
  let whole := Nat.toDigits 10 (amount / satsPerBitcoin)
  let fraction := amount % satsPerBitcoin
  if fraction = 0 then whole
  else whole ++ '.' :: dropTrailingZeros (padded 8 fraction)

/-- The label of an amount, such as `0.001 BTC`. -/
def amountLabel (amount : UInt64) : String :=
  String.ofList (amountDigits amount.toNat ++ " BTC".toList)

end LightningMetrics.Fee
