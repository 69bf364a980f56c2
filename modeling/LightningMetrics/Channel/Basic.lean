import LightningMetrics.Node.PublicKey

set_option autoImplicit false

namespace LightningMetrics

/-- The fees and limits one end of a channel advertises for forwarding over it. -/
structure RoutingPolicy where
  timeLockDelta : UInt32
  minHtlcMsat : UInt64
  maxHtlcMsat : UInt64
  feeBaseMsat : UInt64
  /-- Parts per million of the forwarded amount. -/
  feeRate : UInt64
  disabled : Bool
deriving DecidableEq, Repr, Inhabited

/-- One end of a channel, with the policy it advertises, if any. -/
structure Endpoint where
  node : PublicKey
  policy : Option RoutingPolicy
deriving DecidableEq

structure ChannelEdge where
  channel : UInt64
  first : Endpoint
  second : Endpoint
deriving DecidableEq

/-- One of our channels, with what the peer holds in it. -/
structure ChannelBalance where
  channel : UInt64
  remoteSat : UInt64
deriving DecidableEq, Repr

/-- The identity and the state of the node we are connected to. -/
structure NodeSummary where
  identity : PublicKey
  nodeAlias : String
  activeChannels : UInt32
deriving DecidableEq

end LightningMetrics
