import LightningMetrics.Net.IpAddress

set_option autoImplicit false

namespace LightningMetrics.Net

inductive SocketAddress where
  | v4 (address : Ipv4Address) (port : UInt16)
  | v6 (address : Ipv6Address) (scope : UInt32) (port : UInt16)
deriving DecidableEq, Repr

namespace SocketAddress

open Text (cut? numeralUpTo?)

def port? (text : List Char) : Option UInt16 :=
  (numeralUpTo? 65535 text).map UInt16.ofNat

/-- What stands in the brackets: an address, and its scope or zero. -/
def scoped? (text : List Char) : Option (Ipv6Address × UInt32) :=
  match cut? ['%'] text with
  | none => (Ipv6Address.ofText? text).map fun address => (address, 0)
  | some (before, after) => do
      let scope ← numeralUpTo? 0xffffffff after
      return (← Ipv6Address.ofText? before, UInt32.ofNat scope)

def ofText? (text : List Char) : Option SocketAddress :=
  match text with
  | '[' :: rest => do
      let (inside, after) ← cut? [']', ':'] rest
      let (address, scope) ← scoped? inside
      return .v6 address scope (← port? after)
  | _ => do
      let (before, after) ← cut? [':'] text
      return .v4 (← Ipv4Address.ofText? before) (← port? after)

def text : SocketAddress → String
  | v4 address port => address.text ++ ":" ++ toString port
  | v6 address scope port =>
      let zone := if scope = 0 then "" else "%" ++ toString scope
      "[" ++ address.text ++ zone ++ "]:" ++ toString port

end SocketAddress

end LightningMetrics.Net
