import LightningMetrics.Text.Fields
import LightningMetrics.Text.Numeral

/-!
Internet addresses and their texts. A version 4 address has four octets in dotted decimal. A
version 6 address has eight groups in hexadecimal; it is written in its canonical form, where `::`
stands for the longest run of zero groups.
-/

set_option autoImplicit false

namespace LightningMetrics.Net

open Text (cut? fields hexValue? numeralUpTo? ofHexDigits)

structure Ipv4Address where
  first : UInt8
  second : UInt8
  third : UInt8
  fourth : UInt8
deriving DecidableEq, Repr

namespace Ipv4Address

/-- An octet has no leading zeros, which could be taken for octal. -/
def octet? (text : List Char) : Option UInt8 :=
  if text.head? = some '0' ∧ text ≠ ['0'] then none
  else (numeralUpTo? 255 text).map UInt8.ofNat

def ofText? (text : List Char) : Option Ipv4Address :=
  match fields '.' text with
  | [first, second, third, fourth] =>
      return ⟨← octet? first, ← octet? second, ← octet? third, ← octet? fourth⟩
  | _ => none

def text (address : Ipv4Address) : String :=
  ".".intercalate ([address.first, address.second, address.third, address.fourth].map toString)

/-- The address as the last two groups of a version 6 address. -/
def groups (address : Ipv4Address) : List UInt16 :=
  [address.first.toUInt16 * 256 + address.second.toUInt16,
    address.third.toUInt16 * 256 + address.fourth.toUInt16]

/-- The address whose last two groups these are. -/
def ofGroups (high low : UInt16) : Ipv4Address :=
  ⟨(high / 256).toUInt8, high.toUInt8, (low / 256).toUInt8, low.toUInt8⟩

end Ipv4Address

structure Ipv6Address where
  groups : List UInt16
  length_groups : groups.length = 8
deriving DecidableEq, Repr

namespace Ipv6Address

/-- One to four hexadecimal digits. -/
def group? (text : List Char) : Option UInt16 :=
  if text = [] ∨ 4 < text.length then none
  else (text.mapM hexValue?).map fun digits => UInt16.ofNat (ofHexDigits digits)

/-- The groups that the fields stand for. If `dotted`, the last one may be a version 4 address,
which stands for two. -/
def groups? (dotted : Bool) : List (List Char) → Option (List UInt16)
  | [] => some []
  | [last] =>
      match if dotted then Ipv4Address.ofText? last else none with
      | some address => some address.groups
      | none => (group? last).map ([·])
  | field :: rest => return (← group? field) :: (← groups? dotted rest)

/-- The groups on one side of `::`, where there may be none. -/
def side? (dotted : Bool) (text : List Char) : Option (List UInt16) :=
  if text = [] then some [] else groups? dotted (fields ':' text)

/-- The groups of both sides, with zeros between them to make eight. -/
def around (left right : List UInt16) : List UInt16 :=
  left ++ List.replicate (8 - (left.length + right.length)) 0 ++ right

theorem length_around {left right : List UInt16} (fits : left.length + right.length < 8) :
    (around left right).length = 8 := by
  simp only [around, List.length_append, List.length_replicate]
  omega

/-- Eight groups, or fewer around one `::` that stands for at least one zero group. -/
def ofText? (text : List Char) : Option Ipv6Address :=
  match cut? [':', ':'] text with
  | none => do
      let groups ← groups? true (fields ':' text)
      if full : groups.length = 8 then some ⟨groups, full⟩ else none
  | some (before, after) => do
      let left ← side? false before
      let right ← side? true after
      if fits : left.length + right.length < 8 then
        some ⟨around left right, length_around fits⟩
      else none

/-- How many zero groups follow one another from this place on. -/
def zerosFrom (groups : List UInt16) (start : Nat) : Nat :=
  ((groups.drop start).takeWhile (· == 0)).length

/-- Where the longest run of zero groups starts; of equally long ones the first. -/
def longestRun (groups : List UInt16) : Nat :=
  (List.range groups.length).foldl (fun best start =>
    if zerosFrom groups best < zerosFrom groups start then start else best) 0

def groupsText (groups : List UInt16) : String :=
  ":".intercalate (groups.map fun group => String.ofList (Nat.toDigits 16 group.toNat))

/-- The canonical text. A version 4 address mapped into version 6 keeps its dotted form, and a
single zero group is written out. -/
def text (address : Ipv6Address) : String :=
  match address.groups with
  | [0, 0, 0, 0, 0, 0xffff, high, low] => "::ffff:" ++ (Ipv4Address.ofGroups high low).text
  | groups =>
      let start := longestRun groups
      let count := zerosFrom groups start
      if 1 < count then
        groupsText (groups.take start) ++ "::" ++ groupsText (groups.drop (start + count))
      else groupsText groups

end Ipv6Address

end LightningMetrics.Net
