import LightningMetrics.Htlc.Tracker
import LightningMetrics.Node.Answers
import LightningMetrics.Payment.Metrics
import LightningMetrics.Streaming.Worker

set_option autoImplicit false

namespace LightningMetrics.Exporter

open Streaming (Feed Handler Verdict Worker)

/-- Every task has an active table of its own; the metrics are shared. The first rejected event
ends the task. -/
def htlcHandler : Handler HtlcEvent HtlcTracker where
  begin := HtlcTracker.restart
  handle tracker event :=
    match tracker.process event with
    | .ok next => (next, .accept)
    | .error error => (tracker, .fail error)

def paymentHandler : Handler Payment PaymentMetrics where
  begin := id
  handle metrics payment := (metrics.record payment, .accept)

def htlcWorker : Worker HtlcEvent HtlcTracker :=
  .create "htlc" .empty

def paymentWorker : Worker Payment PaymentMetrics :=
  .create "payments" .empty

/-- What a subscription is asked for with. The node is given a clone of it, and gives up whatever it
has set up for the subscription once the context is cancelled. -/
structure Context where
  cancelled : Bool
deriving DecidableEq, Repr

namespace Context

def opened : Context :=
  ⟨false⟩

def cancel (context : Context) : Context :=
  { context with cancelled := true }

/-- From here on it is the feed's to say whether the context is cancelled. -/
def handTo {α : Type} (context : Context) (feed : Feed α) : Feed α :=
  { feed with cancelled := context.cancelled }

/-- The context that the feed was handed. -/
def ofFeed {α : Type} (feed : Feed α) : Context :=
  ⟨feed.cancelled⟩

end Context

/-- Starts a worker on a subscription, which is asked for with a context of its own. Where the node
refuses it the context is cancelled and given back. -/
def startOn {α σ : Type} (handler : Handler α σ) (answer : Except NodeError (Feed α))
    (worker : Worker α σ) : Except MonitorError Unit × Worker α σ × Option Context :=
  let context := Context.opened
  match answer with
  | .error error => (.error (.node error), worker, some context.cancel)
  | .ok feed =>
      let (result, worker) := worker.spawn handler (context.handTo feed)
      (result, worker, none)

end LightningMetrics.Exporter
