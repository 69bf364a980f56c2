import LightningMetrics.Htlc.Event
import LightningMetrics.Node.Error

set_option autoImplicit false

namespace LightningMetrics

inductive MonitorError where
  /-- The node failed; the message is the node error's own. -/
  | node (error : NodeError)
  | registry (detail : String)
  | io (detail : String)
  /-- The node ended an event stream without an error. -/
  | streamTerminated (stream : String)
  | streamExited (stream : String) (source : NodeError)
  | unknownEventType (key : HtlcKey)
  | unlabeledFailure (key : HtlcKey)
  | alreadyStarted (stream : String)
  /-- A channel of ours, as the node claims, has our key at neither end. -/
  | foreignChannel (node : String) (channel : UInt64)
  | configuration (detail : String)
deriving DecidableEq, Repr

namespace MonitorError

/-- The text of a failure of the metric library itself. -/
def registryText (detail : String) : String :=
  "Error: " ++ detail

def message : MonitorError → String
  | .node error => error.message
  | .registry detail => "Metrics registry error: " ++ registryText detail
  | .io detail => "I/O error: " ++ detail
  | .streamTerminated stream => stream ++ " event stream terminated"
  | .streamExited stream source => stream ++ " stream exited: " ++ source.message
  | .unknownEventType key => "Unknown event type for htlc " ++ key.text
  | .unlabeledFailure key => "Htlc " ++ key.text ++ " failed without a usable failure reason"
  | .alreadyStarted stream => stream ++ " already started"
  | .foreignChannel stranger channel =>
      "Node " ++ stranger ++ " is not an endpoint of channel " ++ toString channel
  | .configuration detail => "Invalid configuration: " ++ detail

/-- The text of the error underneath, where there is one. A node error is shown as it is and has
none. -/
def source? : MonitorError → Option String
  | .streamExited _ source => some source.message
  | .registry detail => some (registryText detail)
  | .io detail => some detail
  | _ => none

/-- Only a deadline on a call of the node counts as a timeout, and not one that ended a stream. -/
def isTimeout : MonitorError → Bool
  | .node error => error.isTimeout
  | _ => false

end MonitorError

end LightningMetrics
