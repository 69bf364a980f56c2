set_option autoImplicit false

namespace LightningMetrics

/-- The step of the conversation that failed. -/
inductive NodeError.Kind where
  | connection
  | getInfo
  | listChannels
  | getNodeInfo
  | describeGraph
  | subscribe
  | stream
  | decode
  | validation
  | deadline
deriving DecidableEq, Repr

/-- A failure at the node, with a description of its cause. -/
structure NodeError where
  kind : NodeError.Kind
  detail : String
deriving DecidableEq, Repr

namespace NodeError

def Kind.title : Kind → String
  | connection => "Connection error"
  | getInfo => "GetInfo error"
  | listChannels => "ListChannels error"
  | getNodeInfo => "GetNodeInfo error"
  | describeGraph => "DescribeGraph error"
  | subscribe => "Subscribe error"
  | stream => "Stream error"
  | decode => "Decode error"
  | validation => "Validation error"
  | deadline => "Deadline exceeded"

def message (error : NodeError) : String :=
  error.kind.title ++ ": " ++ error.detail

/-- Did the call fail only because its deadline elapsed? -/
def isTimeout (error : NodeError) : Bool :=
  error.kind == .deadline

end NodeError

end LightningMetrics
