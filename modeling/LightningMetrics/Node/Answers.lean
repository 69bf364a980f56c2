import LightningMetrics.Channel.Basic
import LightningMetrics.Node.Error
import LightningMetrics.Payment.Basic
import LightningMetrics.Streaming.Feed

set_option autoImplicit false

namespace LightningMetrics

inductive NodeCall where
  | getInfo
  | listChannels
  | getNodeInfo (key : PublicKey) (includeChannels : Bool)
  | describeGraph
  | subscribeHtlcEvents
  | trackPayments
deriving DecidableEq

/-- The answers of the node at one time. A subscription is answered with a newly opened feed. -/
structure NodeAnswers where
  info : Except NodeError NodeSummary
  channels : Except NodeError (List ChannelBalance)
  nodeInfo : PublicKey → Bool → Except NodeError (List ChannelEdge)
  graph : Except NodeError (List ChannelEdge)
  htlcEvents : Except NodeError (Streaming.Feed HtlcEvent)
  payments : Except NodeError (Streaming.Feed Payment)

namespace NodeAnswers

/-- Without more being said the node fails on every query with `error` and accepts both
subscriptions with feeds of this capacity. -/
def failing (error : NodeError) (capacity : Nat) : NodeAnswers where
  info := .error error
  channels := .error error
  nodeInfo := fun _ _ => .error error
  graph := .error error
  htlcEvents := .ok (.opened capacity)
  payments := .ok (.opened capacity)

end NodeAnswers

/-- Refuses a node whose identity is not the expected one. -/
def validateIdentity (expected : Option PublicKey) (summary : NodeSummary) :
    Except MonitorError Unit :=
  match expected with
  | none => .ok ()
  | some key =>
      if key = summary.identity then .ok ()
      else
        .error (.node ⟨.validation, "the configured node id " ++ key.text ++
          " does not match the node's identity " ++ summary.identity.text ++ " (" ++
          summary.nodeAlias ++ ")"⟩)

end LightningMetrics
