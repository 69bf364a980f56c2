import LightningMetrics.Lnd.Conversion
import LightningMetrics.Lnd.Status
import LightningMetrics.Net.Uri
import LightningMetrics.Node.Answers
import LightningMetrics.Streaming.Pump

/-!
The client of an LND node: connecting, the calls with their deadline, and the subscriptions. What
the node does with a call is a `Reply`; the client turns it into the terms of this library, and
each failure into an error that names the call.
-/

set_option autoImplicit false

namespace LightningMetrics.Lnd

/-- What comes of a call: an answer of type `ω`, a failure, or nothing within any deadline. -/
inductive Reply (ω : Type) where
  | answer (message : ω)
  | failure (status : Status)
  | silence

/-- What comes of a subscription once it is open. -/
structure StreamScript (ω : Type) where
  items : List (Streaming.StreamItem ω)
  /-- Does the stream stay open after its items? -/
  staysOpen : Bool

/-- Does what is sent reach the node? -/
inductive Link where
  | up
  | down
deriving DecidableEq, Repr

/-- What comes of a call over a link. -/
def Link.carry {ω : Type} (link : Link) (reply : Reply ω) : Reply ω :=
  match link with
  | .up => reply
  | .down => .failure .unreachable

/-- Where the node is, what identifies us to it, and how many milliseconds a call may take. -/
structure Connection where
  address : String
  macaroonPath : String
  certificatePath : String
  timeout : Nat
deriving DecidableEq, Repr

namespace Connection

/-- Prepares for talking to the node: both files must be readable and the address have the form
of one. Nothing is sent yet. -/
def prepare (connection : Connection) (readable : String → Bool) : Except NodeError Unit :=
  if !readable connection.certificatePath then
    .error ⟨.connection, "failed to read file " ++ connection.certificatePath⟩
  else if !readable connection.macaroonPath then
    .error ⟨.connection, "failed to read file " ++ connection.macaroonPath⟩
  else if !Net.Uri.isValid connection.address then
    .error ⟨.connection, "invalid address " ++ connection.address⟩
  else .ok ()

/-- What comes of a call that is made by this connection. A call to an address without a scheme
fails before the link is tried. -/
def carry {ω : Type} (connection : Connection) (link : Link) (reply : Reply ω) : Reply ω :=
  if Net.Uri.isAbsolute connection.address then link.carry reply else .failure .hostless

end Connection

/-- A number of milliseconds in seconds where it is at least one, with the places it needs. -/
def durationText (milliseconds : Nat) : String :=
  if milliseconds = 0 then "0ns"
  else if milliseconds < 1000 then toString milliseconds ++ "ms"
  else
    let digits := (toString (1000 + milliseconds % 1000)).toList.drop 1
    let places := (digits.reverse.dropWhile (· == '0')).reverse
    let fraction := if places = [] then [] else '.' :: places
    toString (milliseconds / 1000) ++ String.ofList fraction ++ "s"

/-- The calls that are bounded by a deadline. -/
inductive Query where
  | getInfo
  | listChannels
  | getNodeInfo
  | describeGraph
deriving DecidableEq, Repr

namespace Query

def name : Query → String
  | getInfo => "getinfo"
  | listChannels => "listchannels"
  | getNodeInfo => "getnodeinfo"
  | describeGraph => "describegraph"

def errorKind : Query → NodeError.Kind
  | getInfo => .getInfo
  | listChannels => .listChannels
  | getNodeInfo => .getNodeInfo
  | describeGraph => .describeGraph

/-- The result of a query: its answer read by `read`, or why there is none. -/
def result {ω α : Type} (query : Query) (timeout : Nat) (read : ω → Except NodeError α)
    (reply : Reply ω) : Except NodeError α :=
  match reply with
  | .answer message => read message
  | .failure status => .error ⟨query.errorKind, status.text⟩
  | .silence =>
      .error ⟨.deadline, query.name ++ " did not answer within " ++ durationText timeout⟩

end Query

def infoResult (timeout : Nat) : Reply InfoMessage → Except NodeError NodeSummary :=
  Query.getInfo.result timeout InfoMessage.summary

def channelsResult (timeout : Nat) :
    Reply (List ChannelMessage) → Except NodeError (List ChannelBalance) :=
  Query.listChannels.result timeout fun messages => .ok (messages.map ChannelMessage.balance)

def nodeInfoResult (timeout : Nat) :
    Reply (List EdgeMessage) → Except NodeError (List ChannelEdge) :=
  Query.getNodeInfo.result timeout (·.mapM EdgeMessage.edge)

def graphResult (timeout : Nat) :
    Reply (List EdgeMessage) → Except NodeError (List ChannelEdge) :=
  Query.describeGraph.result timeout (·.mapM EdgeMessage.edge)

/-- How many events a subscription holds for its consumer. -/
def streamCapacity : Nat := 256

/-- Payments are reported once, when they are final: each report holds all attempts. -/
def withoutInFlightUpdates : Bool := true

/-- Opens a subscription. Subscriptions have no deadline, and one that is never answered is not
told from one that stays open and brings nothing. -/
def openStream {ω : Type} (reply : Reply (StreamScript ω)) : Except NodeError (StreamScript ω) :=
  match reply with
  | .answer script => .ok script
  | .failure status => .error ⟨.subscribe, status.text⟩
  | .silence => .ok ⟨[], true⟩

/-- What a consumer that takes everything gets out of a stream of HTLC events. -/
def StreamScript.htlcEvents (enums : Enumerations) (script : StreamScript HtlcMessage) :
    List HtlcEvent × Option NodeError :=
  Streaming.delivered (fun message => .ok (message.event enums)) script.items

/-- What a consumer that takes everything gets out of a stream of payments. -/
def StreamScript.payments (enums : Enumerations) (script : StreamScript PaymentMessage) :
    List Payment × Option NodeError :=
  Streaming.delivered (fun message => .ok (message.payment enums)) script.items

end LightningMetrics.Lnd
