import LightningMetrics.Text.DisplayTable
import LightningMetrics.Text.Ranges

set_option autoImplicit false

namespace LightningMetrics.Text

/-- Shown by number: unprintable characters and combining marks. The space is shown as it is. -/
def isHidden (char : Char) : Bool :=
  inRanges hiddenRanges char.toNat || inRanges combiningRanges char.toNat

/-- The lower-case hexadecimal digits of a number, without leading zeros. -/
def hexDigits (value : Nat) : List Char :=
  Nat.toDigits 16 value

/-- One character inside the quotes. -/
def quoteChar (char : Char) : List Char :=
  if char = '\x00' then ['\\', '0']
  else if char = '\t' then ['\\', 't']
  else if char = '\r' then ['\\', 'r']
  else if char = '\n' then ['\\', 'n']
  else if char = '\\' then ['\\', '\\']
  else if char = '"' then ['\\', '"']
  else if isHidden char then ['\\', 'u', '\x7b'] ++ hexDigits char.toNat ++ ['\x7d']
  else [char]

/-- The text in double quotes. -/
def quoted (text : String) : String :=
  String.ofList ('"' :: text.toList.flatMap quoteChar ++ ['"'])

end LightningMetrics.Text
