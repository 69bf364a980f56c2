import LightningMetrics.Exporter.Http
import LightningMetrics.Net.SocketAddress
import LightningMetrics.Text.Quoted

set_option autoImplicit false

namespace LightningMetrics

/-- How to reach the node. -/
structure NodeSettings where
  host : String
  macaroonPath : String
  certificatePath : String
  /-- The identity that the node must have, if that matters. -/
  identity : Option PublicKey
  /-- How many seconds a single call may take. -/
  timeout : UInt64
deriving DecidableEq

structure LogSettings where
  /-- A filter directive. -/
  level : String
  directory : Option String
  /-- How many rotated files are kept. -/
  files : UInt64
deriving DecidableEq, Repr

structure Config where
  node : NodeSettings
  listenAddress : Net.SocketAddress
  /-- The first amount of the fee series, in satoshis. -/
  inboundFeeBase : UInt64
  health : Exporter.HealthEndpoint
  log : LogSettings
deriving DecidableEq

namespace Config

/-- What the first rule that is broken says. -/
def fault? (config : Config) : Option String :=
  if Text.trim config.node.host.toList = [] then some "lnd host must be set"
  else if config.node.timeout = 0 then some "lnd rpc timeout must be greater than zero"
  else if config.inboundFeeBase = 0 then
    some "inbound fee base amount must be greater than zero"
  else if config.health.active ∧ config.health.path.toList.head? ≠ some '/' then
    some ("health path " ++ Text.quoted config.health.path ++ " must start with '/'")
  else if config.health.active ∧ config.health.path = Exporter.metricsPath then
    some "health path conflicts with the metrics endpoint"
  else if config.log.files = 0 then some "at least one log file must be retained"
  else none

def validate (config : Config) : Except MonitorError Unit :=
  match config.fault? with
  | some fault => .error (.configuration fault)
  | none => .ok ()

end Config

end LightningMetrics
