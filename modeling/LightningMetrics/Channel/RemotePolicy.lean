import LightningMetrics.Fee.Estimate
import LightningMetrics.MonitorError

set_option autoImplicit false

namespace LightningMetrics

/-- The end of the channel opposite to `ours`. Our key at the first end decides, also where it is
at both. -/
def ChannelEdge.peer? (edge : ChannelEdge) (ours : PublicKey) : Option Endpoint :=
  if edge.first.node = ours then some edge.second
  else if edge.second.node = ours then some edge.first
  else none

/-- The policy of an end, unless it is switched off. -/
def Endpoint.enabledPolicy? (endpoint : Endpoint) : Option RoutingPolicy :=
  endpoint.policy.filter fun policy => !policy.disabled

/-- Adds the peer's policy of one more channel. -/
def addRemotePolicy (ours : PublicKey) (policies : ChannelMap RoutingPolicy)
    (edge : ChannelEdge) : Except MonitorError (ChannelMap RoutingPolicy) :=
  match edge.peer? ours with
  | none => .error (.foreignChannel ours.text edge.channel)
  | some peer =>
      match peer.enabledPolicy? with
      | none => .ok policies
      | some policy => .ok (policies.insert edge.channel policy)

/-- The enabled policies of our peers by channel id, a later one replacing an earlier one. A
channel that is not ours is an error. -/
def remotePolicies (ours : PublicKey) (edges : List ChannelEdge) :
    Except MonitorError (ChannelMap RoutingPolicy) :=
  edges.foldlM (addRemotePolicy ours) ∅

end LightningMetrics
