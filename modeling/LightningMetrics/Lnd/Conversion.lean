import LightningMetrics.Channel.Basic
import LightningMetrics.Lnd.Message
import LightningMetrics.Node.Error
import LightningMetrics.Payment.Basic

set_option autoImplicit false

namespace LightningMetrics.Lnd

/-- A signed amount as a word. Amounts are never negative in practice; one that is counts as
none. -/
def nonNegative (amount : Int64) : UInt64 :=
  if amount < 0 then 0 else amount.toUInt64

def readKey (text : String) : Except NodeError PublicKey :=
  match PublicKey.ofText? text with
  | some key => .ok key
  | none => .error ⟨.decode, "invalid pubkey " ++ text ++ ": " ++ PublicKey.malformed⟩

def InfoMessage.summary (message : InfoMessage) : Except NodeError NodeSummary :=
  return ⟨← readKey message.identity, message.nodeAlias, message.activeChannels⟩

def ChannelMessage.balance (message : ChannelMessage) : ChannelBalance :=
  ⟨message.channel, nonNegative message.remoteBalance⟩

def PolicyMessage.policy (message : PolicyMessage) : RoutingPolicy where
  timeLockDelta := message.timeLockDelta
  minHtlcMsat := nonNegative message.minHtlc
  maxHtlcMsat := message.maxHtlcMsat
  feeBaseMsat := nonNegative message.feeBaseMsat
  feeRate := nonNegative message.feeRate
  disabled := message.disabled

/-- The first end's key is read first. -/
def EdgeMessage.edge (message : EdgeMessage) : Except NodeError ChannelEdge := do
  let first ← readKey message.firstNode
  let second ← readKey message.secondNode
  return {
    channel := message.channel
    first := ⟨first, message.firstPolicy.map PolicyMessage.policy⟩
    second := ⟨second, message.secondPolicy.map PolicyMessage.policy⟩ }

/-- What the numbers in a message are read as. -/
structure Enumerations where
  direction : Int32 → HtlcDirection
  /-- The name of a failure at our own node. -/
  failureName : Int32 → String
  paymentStatus : Int32 → PaymentStatus

def HtlcPayload.stage (enums : Enumerations) : HtlcPayload → HtlcStage
  | forward => .forwarded
  | forwardFail => .failedBack
  | settle => .settled
  | linkFail detail => .failedHere (enums.failureName detail)
  | subscribed => .subscribed
  | finalHtlc => .finalized

def HtlcMessage.event (enums : Enumerations) (message : HtlcMessage) : HtlcEvent where
  key := message.key
  time := message.time
  direction := enums.direction message.direction
  stage := (message.payload.map (HtlcPayload.stage enums)).getD .other

def PaymentMessage.payment (enums : Enumerations) (message : PaymentMessage) : Payment :=
  ⟨message.hash, enums.paymentStatus message.status, message.attempts⟩

/-- The member that a number names, where they are numbered from zero. -/
def member {α : Type} (members : List α) (unknown : α) (number : Int32) : α :=
  if number < 0 then unknown else members.getD number.toInt.toNat unknown

def directions : List HtlcDirection := [.unknown, .send, .receive, .forward]

/-- The names of the failures at our own node. -/
def failureDetails : List String :=
  ["UNKNOWN", "NO_DETAIL", "ONION_DECODE", "LINK_NOT_ELIGIBLE", "ON_CHAIN_TIMEOUT",
    "HTLC_EXCEEDS_MAX", "INSUFFICIENT_BALANCE", "INCOMPLETE_FORWARD", "HTLC_ADD_FAILED",
    "FORWARDS_DISABLED", "INVOICE_CANCELED", "INVOICE_UNDERPAID", "INVOICE_EXPIRY_TOO_SOON",
    "INVOICE_NOT_OPEN", "MPP_INVOICE_TIMEOUT", "ADDRESS_MISMATCH", "SET_TOTAL_MISMATCH",
    "SET_TOTAL_TOO_LOW", "SET_OVERPAID", "UNKNOWN_INVOICE", "INVALID_KEYSEND", "MPP_IN_PROGRESS",
    "CIRCULAR_ROUTE"]

def paymentStatuses : List PaymentStatus := [.unknown, .inFlight, .succeeded, .failed, .initiated]

/-- The enumerations as the node numbers them today. -/
def Enumerations.current : Enumerations where
  direction := member directions .unknown
  failureName := member failureDetails "UNKNOWN"
  paymentStatus := member paymentStatuses .unknown

end LightningMetrics.Lnd
