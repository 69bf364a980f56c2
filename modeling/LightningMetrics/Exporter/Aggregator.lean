import LightningMetrics.Exporter.Collectors
import LightningMetrics.Exporter.Monitors

/-!
The whole exporter: the polled metrics, the two stream monitors, and the error sink they share.

Tasks run only where the scheduler is given the chance: in `run`, and while a stop waits for a
task. They then run in the order in which they were woken, each until it waits or has ended.
-/

set_option autoImplicit false

namespace LightningMetrics.Exporter

open Streaming (Branch Delivery Feed Receipt Sink Worker)

/-- The streams that are monitored. -/
inductive StreamKind where
  | htlc
  | payments
deriving DecidableEq, Repr

/-- What the task of each stream chooses between branches that are both ready, turn by turn. -/
abbrev Choices := StreamKind → List Branch

/-- Wherever a task has a choice it takes the signal. -/
def Choices.quit : Choices :=
  fun _ => []

structure Aggregator where
  /-- The first amount of the fee series. -/
  base : UInt64
  fees : SeriesTable Binary64
  stats : PolicyStats
  htlcs : Worker HtlcEvent HtlcTracker
  payments : Worker Payment PaymentMetrics
  /-- The contexts of the subscriptions that the node refused. -/
  refused : List (StreamKind × Context)
  /-- Streams whose task has something to look at, in the order in which they were woken. -/
  woken : List StreamKind
  sink : Sink MonitorError

namespace Aggregator

/-- An exporter that has not been started. The base amount must not be zero. -/
def create (base : UInt64) (sinkCapacity : Nat) : Except MonitorError Aggregator :=
  if base = 0 then
    .error (.configuration "inbound fee base amount must be greater than zero")
  else
    .ok
      { base
        fees := ∅
        stats := .zero
        htlcs := htlcWorker
        payments := paymentWorker
        refused := []
        woken := []
        sink := .opened sinkCapacity }

/-- Has the task of a stream not ended? -/
def isLive (exporter : Aggregator) : StreamKind → Bool
  | .htlc => exporter.htlcs.isLive
  | .payments => exporter.payments.isLive

/-- Lets the task of a stream look again, after those that were woken before it. -/
def wake (kind : StreamKind) (exporter : Aggregator) : Aggregator :=
  if exporter.isLive kind && !exporter.woken.contains kind then
    { exporter with woken := exporter.woken ++ [kind] }
  else exporter

/-- Runs the task of one stream. -/
def runOne (choices : Choices) (exporter : Aggregator) (kind : StreamKind) : Aggregator :=
  match kind with
  | .htlc =>
      let (htlcs, sink) := exporter.htlcs.run htlcHandler (choices kind) exporter.sink
      { exporter with htlcs, sink }
  | .payments =>
      let (payments, sink) := exporter.payments.run paymentHandler (choices kind) exporter.sink
      { exporter with payments, sink }

/-- Runs every task that was woken, in that order. The others wait anyway. -/
def run (choices : Choices) (exporter : Aggregator) : Aggregator :=
  { exporter.woken.foldl (runOne choices) exporter with woken := [] }

/-- Delivers to a feed of the HTLC stream; nothing if there is no such feed. -/
def deliverHtlc? (number : Nat) (delivery : Delivery HtlcEvent) (exporter : Aggregator) :
    Option (Receipt × Aggregator) :=
  (exporter.htlcs.deliver? number delivery).map fun (receipt, htlcs) =>
    let next := { exporter with htlcs }
    (receipt, if receipt.isNews && htlcs.isConsuming number then next.wake .htlc else next)

/-- Delivers to a feed of the payment stream; nothing if there is no such feed. -/
def deliverPayment? (number : Nat) (delivery : Delivery Payment) (exporter : Aggregator) :
    Option (Receipt × Aggregator) :=
  (exporter.payments.deliver? number delivery).map fun (receipt, payments) =>
    let next := { exporter with payments }
    (receipt,
      if receipt.isNews && payments.isConsuming number then next.wake .payments else next)

/-- Gives a stream the signal to quit. -/
def signal (kind : StreamKind) (exporter : Aggregator) : Aggregator :=
  match kind with
  | .htlc => wake kind { exporter with htlcs := exporter.htlcs.signal }
  | .payments => wake kind { exporter with payments := exporter.payments.signal }

def release (kind : StreamKind) (exporter : Aggregator) : Aggregator :=
  match kind with
  | .htlc => { exporter with htlcs := exporter.htlcs.release }
  | .payments => { exporter with payments := exporter.payments.release }

/-- Stops one monitor. While its task is waited for, all that were woken run. -/
def stopOne (choices : Choices) (kind : StreamKind) (exporter : Aggregator) : Aggregator :=
  let signalled := exporter.signal kind
  let waited := if signalled.isLive kind then signalled.run choices else signalled
  waited.release kind

/-- Stops both monitors, one after the other. -/
def stop (choices later : Choices) (exporter : Aggregator) : Aggregator :=
  (exporter.stopOne choices .payments).stopOne later .htlc

/-- Keeps the context of a subscription that the node refused, if there is one. -/
def keep (kind : StreamKind) (context : Option Context) (exporter : Aggregator) : Aggregator :=
  { exporter with refused := exporter.refused ++ context.toList.map (kind, ·) }

@[simp] theorem keep_none (kind : StreamKind) (exporter : Aggregator) :
    exporter.keep kind none = exporter := by
  simp [keep]

/-- Starts one monitor on the node's answer to its subscription. -/
def startOne (answers : NodeAnswers) (kind : StreamKind) (exporter : Aggregator) :
    Except MonitorError Unit × Aggregator :=
  match kind with
  | .htlc =>
      match startOn htlcHandler answers.htlcEvents exporter.htlcs with
      | (.ok (), htlcs, _) => (.ok (), wake kind { exporter with htlcs })
      | (result, htlcs, context) => (result, keep kind context { exporter with htlcs })
  | .payments =>
      match startOn paymentHandler answers.payments exporter.payments with
      | (.ok (), payments, _) => (.ok (), wake kind { exporter with payments })
      | (result, payments, context) => (result, keep kind context { exporter with payments })

/-- Starts both monitors. If the second cannot be started the first is stopped again. -/
def start (choices : Choices) (answers : NodeAnswers) (exporter : Aggregator) :
    Queried Unit × Aggregator :=
  match exporter.startOne answers .htlc with
  | (.error error, failed) => (([.subscribeHtlcEvents], .error error), failed)
  | (.ok (), started) =>
      let calls := [.subscribeHtlcEvents, .trackPayments]
      match started.startOne answers .payments with
      | (.error error, failed) => ((calls, .error error), failed.stopOne choices .htlc)
      | (.ok (), running) => ((calls, .ok ()), running)

/-- Hands a failed query to the sink. A timeout is expected under load and not worth it. -/
def escalate {α : Type} (result : Except MonitorError α) (sink : Sink MonitorError) :
    Sink MonitorError :=
  match result with
  | .ok _ => sink
  | .error error => if error.isTimeout then sink else Sink.report sink error

/-- Polls the node for the inbound fees. A failure leaves the gauges as they are. -/
def refreshFees (answers : NodeAnswers) (exporter : Aggregator) : List NodeCall × Aggregator :=
  let (calls, result) := queryFees exporter.base answers
  let fees :=
    match result with
    | .ok series => feeGauges series
    | .error _ => exporter.fees
  (calls, { exporter with fees, sink := escalate result exporter.sink })

/-- Polls the node for the graph. A failure leaves the gauges as they are. -/
def refreshStats (answers : NodeAnswers) (exporter : Aggregator) :
    List NodeCall × Aggregator :=
  let (calls, result) := queryStats answers
  let stats :=
    match result with
    | .ok stats => stats
    | .error _ => exporter.stats
  (calls, { exporter with stats, sink := escalate result exporter.sink })

/-- Polls the node for everything, one query after the other, whatever came of the first. -/
def refresh (answers : NodeAnswers) (exporter : Aggregator) : List NodeCall × Aggregator :=
  let (feeCalls, withFees) := exporter.refreshFees answers
  let (statsCalls, refreshed) := withFees.refreshStats answers
  (feeCalls ++ statsCalls, refreshed)

def families (exporter : Aggregator) : List Family :=
  feeFamily exporter.fees :: statsFamilies exporter.stats ++
    exporter.htlcs.state.metrics.families ++ exporter.payments.state.families

/-- All metrics as they stand, in the text format. -/
def text (exporter : Aggregator) : String :=
  Exposition.text exporter.families

/-- Polls the node for everything and shows all metrics. -/
def render (answers : NodeAnswers) (exporter : Aggregator) :
    List NodeCall × String × Aggregator :=
  let (calls, refreshed) := exporter.refresh answers
  (calls, refreshed.text, refreshed)

end Aggregator

end LightningMetrics.Exporter
