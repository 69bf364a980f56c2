import LightningMetrics.Config.CommandLine
import LightningMetrics.Exporter.Aggregator
import LightningMetrics.Lnd.Client
import LightningMetrics.Logging.Filter

set_option autoImplicit false

namespace LightningMetrics.Exporter

open Lnd (Connection HtlcMessage InfoMessage Link PaymentMessage Reply StreamScript)
open Streaming (Delivery)

/-- Prepares the connection, asks the node who it is, and checks that it is the one expected. -/
def connect (connection : Connection) (readable : String → Bool) (identity : Option PublicKey)
    (reply : Reply InfoMessage) : Except MonitorError NodeSummary := do
  (connection.prepare readable).mapError .node
  let summary ← (Lnd.infoResult connection.timeout reply).mapError .node
  validateIdentity identity summary
  return summary

/-- What the program finds around it. -/
structure World where
  environment : String → Option String
  /-- Can the file be read? -/
  readable : String → Bool
  /-- Why no log files can be written in a directory, where that is so. -/
  logFault? : String → Option String
  /-- Why no server can listen on an address, where that is so. -/
  listenFault? : Net.SocketAddress → Option String
  link : Link
  info : Reply InfoMessage
  htlcEvents : Reply (StreamScript HtlcMessage)
  payments : Reply (StreamScript PaymentMessage)

inductive Ending where
  /-- The command line gave no configuration. -/
  | refused (refusal : Refusal)
  /-- The configuration is of no use, as standard error tells. -/
  | misconfigured (error : MonitorError)
  /-- A fatal error, which the log tells if its filter lets it. -/
  | failed (error : MonitorError) (logged : Bool)
  /-- No fatal error came. -/
  | serving
deriving DecidableEq, Repr

namespace Ending

/-- The exit code, once there is one. -/
def exitCode? : Ending → Option Nat
  | refused refusal => some refusal.exitCode
  | misconfigured _ => some 1
  | failed _ _ => some 1
  | serving => none

/-- The line on standard error. -/
def complaint? : Ending → Option String
  | misconfigured error => some error.message
  | _ => none

/-- The error that the log shows. -/
def logged? : Ending → Option String
  | failed error true => some error.message
  | _ => none

end Ending

/-- The last event of the log. -/
def farewell : Logging.LogEvent :=
  ⟨"lnmon", .error, ["message", "err"]⟩

/-- The variable that overrides the filter of the configuration, unless it holds no filter. -/
def filterVariable : String := "RUST_LOG"

/-- The filter of the log: that of the environment, or else that of the configuration. -/
def logFilter (log : LogSettings) (environment : String → Option String) :
    Except MonitorError Logging.Filter :=
  match (environment filterVariable).bind fun text => (Logging.Filter.ofText text).toOption with
  | some filter => .ok filter
  | none =>
      (Logging.Filter.ofText log.level).mapError fun error =>
        .configuration ("invalid log level " ++ Text.quoted log.level ++ ": " ++ error.message)

/-- Sets up the log. -/
def openLog (log : LogSettings) (world : World) : Except MonitorError Logging.Filter := do
  let filter ← logFilter log world.environment
  match log.directory.bind fun directory => (world.logFault? directory).map ((directory, ·)) with
  | some (directory, fault) =>
      .error (.configuration ("cannot open log directory " ++ directory ++ ": " ++ fault))
  | none => return filter

/-- How many fatal errors wait for the program; it needs the first only. -/
def sinkCapacity : Nat := 10

/-- What the producer of a stream hands over, from the first event to the last closed channel. -/
def deliveries {α : Type} (staysOpen : Bool) (delivered : List α × Option NodeError) :
    List (Delivery α) :=
  let closing := [.closeErrors, .closeEvents]
  delivered.1.map .event ++
    match delivered.2 with
    | some error => .error error :: closing
    | none => if staysOpen then [] else closing

/-- Takes in what one stream brings, with the tasks running after each delivery. -/
def Aggregator.follow {α : Type}
    (deliver? : Delivery α → Aggregator → Option (Streaming.Receipt × Aggregator))
    (brought : List (Delivery α)) (exporter : Aggregator) : Aggregator :=
  brought.foldl (fun exporter delivery =>
    match deliver? delivery exporter with
    | none => exporter
    | some (_, next) => next.run .quit) exporter

namespace World

/-- The subscription to HTLC events, as it comes over the link. -/
def htlcStream (world : World) (connection : Connection) :
    Except NodeError (StreamScript HtlcMessage) :=
  Lnd.openStream (connection.carry world.link world.htlcEvents)

/-- The subscription to payments, as it comes over the link. -/
def paymentStream (world : World) (connection : Connection) :
    Except NodeError (StreamScript PaymentMessage) :=
  Lnd.openStream (connection.carry world.link world.payments)

/-- The answers to the subscriptions; nothing else is asked while the program starts. -/
def answers (world : World) (connection : Connection) : NodeAnswers :=
  { NodeAnswers.failing ⟨.connection, "not asked"⟩ Lnd.streamCapacity with
    htlcEvents := (world.htlcStream connection).map fun _ => .opened Lnd.streamCapacity
    payments := (world.paymentStream connection).map fun _ => .opened Lnd.streamCapacity }

/-- Follows the stream of HTLC events and then that of payments. -/
def follow (world : World) (connection : Connection) (exporter : Aggregator) : Aggregator :=
  let htlcs := ((world.htlcStream connection).map fun script =>
    deliveries script.staysOpen (script.htlcEvents .current)).toOption.getD []
  let payments := ((world.paymentStream connection).map fun script =>
    deliveries script.staysOpen (script.payments .current)).toOption.getD []
  (exporter.follow (Aggregator.deliverHtlc? 0) htlcs).follow (Aggregator.deliverPayment? 0)
    payments

end World

/-- Connects, starts the monitors, and waits for the first fatal error. -/
def serve (config : Config) (world : World) : Except MonitorError Unit := do
  let connection : Connection :=
    ⟨config.node.host, config.node.macaroonPath, config.node.certificatePath,
      1000 * config.node.timeout.toNat⟩
  let _ ← connect connection world.readable config.node.identity
    (connection.carry world.link world.info)
  let exporter ← Aggregator.create config.inboundFeeBase sinkCapacity
  let ((_, started), running) := exporter.start .quit (world.answers connection)
  started
  match world.listenFault? config.listenAddress with
  | some fault => .error (.io fault)
  | none =>
      match (world.follow connection running).sink.queue with
      | error :: _ => .error error
      | [] => .ok ()

/-- The whole program. -/
def run (arguments : List String) (world : World) : Ending :=
  match CommandLine.parse arguments world.environment with
  | .error refusal => .refused refusal
  | .ok config =>
      match (do config.validate; openLog config.log world) with
      | .error error => .misconfigured error
      | .ok filter =>
          match serve config world with
          | .error error => .failed error (filter.shows farewell)
          | .ok () => .serving

end LightningMetrics.Exporter
