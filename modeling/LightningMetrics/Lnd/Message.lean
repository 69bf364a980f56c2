import LightningMetrics.Htlc.Event

set_option autoImplicit false

namespace LightningMetrics.Lnd

structure InfoMessage where
  identity : String
  nodeAlias : String
  activeChannels : UInt32
deriving DecidableEq, Repr

structure ChannelMessage where
  channel : UInt64
  remoteBalance : Int64
deriving DecidableEq, Repr

structure PolicyMessage where
  timeLockDelta : UInt32
  minHtlc : Int64
  feeBaseMsat : Int64
  feeRate : Int64
  disabled : Bool
  maxHtlcMsat : UInt64
deriving DecidableEq, Repr

structure EdgeMessage where
  channel : UInt64
  firstNode : String
  secondNode : String
  firstPolicy : Option PolicyMessage
  secondPolicy : Option PolicyMessage
deriving DecidableEq, Repr

/-- The payload of an HTLC event. -/
inductive HtlcPayload where
  | forward
  | forwardFail
  | settle
  | linkFail (detail : Int32)
  | subscribed
  | finalHtlc
deriving DecidableEq, Repr

structure HtlcMessage where
  key : HtlcKey
  time : UInt64
  direction : Int32
  payload : Option HtlcPayload
deriving DecidableEq, Repr

structure PaymentMessage where
  hash : String
  status : Int32
  attempts : UInt64
deriving DecidableEq, Repr

end LightningMetrics.Lnd
