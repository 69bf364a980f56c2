import Mathlib.Data.List.Nodup
import LightningMetrics.Exporter.Aggregator
import LightningMetrics.Proofs.Streaming.Reach

set_option autoImplicit false

namespace LightningMetrics.Exporter

open Streaming

namespace StreamKind

/-- What the stream brings. -/
abbrev Event : StreamKind → Type
  | htlc => HtlcEvent
  | payments => Payment

/-- What the events of the stream are gathered in. -/
abbrev State : StreamKind → Type
  | htlc => HtlcTracker
  | payments => PaymentMetrics

def handler : (kind : StreamKind) → Handler kind.Event kind.State
  | htlc => htlcHandler
  | payments => paymentHandler

def name : StreamKind → String
  | htlc => "htlc"
  | payments => "payments"

def empty : (kind : StreamKind) → kind.State
  | htlc => HtlcTracker.empty
  | payments => PaymentMetrics.empty

/-- The call that subscribes to the stream. -/
def call : StreamKind → NodeCall
  | htlc => .subscribeHtlcEvents
  | payments => .trackPayments

/-- The answer of the node to the subscription. -/
def answer (answers : NodeAnswers) : (kind : StreamKind) → Except NodeError (Feed kind.Event)
  | htlc => answers.htlcEvents
  | payments => answers.payments

end StreamKind

/-- A node at one time. A subscription that it accepts is newly opened. -/
structure Node where
  answers : NodeAnswers
  opens : ∀ (kind : StreamKind) (feed : Feed kind.Event),
    kind.answer answers = .ok feed → ∃ capacity, feed = .opened capacity

/-- A node that fails on every query and accepts the subscriptions that are `offered`. -/
def Node.offering (error : NodeError) (capacity : Nat) (offered : StreamKind → Bool) : Node where
  answers :=
    { NodeAnswers.failing error capacity with
      htlcEvents := if offered .htlc then .ok (.opened capacity) else .error error
      payments := if offered .payments then .ok (.opened capacity) else .error error }
  opens kind feed answer := by
    refine ⟨capacity, ?_⟩
    cases kind <;>
      simp only [StreamKind.answer] at answer <;>
      split at answer <;> cases answer <;> rfl

/-- What can be done to an exporter, at any time and with any node. -/
inductive Operation where
  | start (choices : Choices) (node : Node)
  /-- The one monitor is waited for with the first choices, and then the other. -/
  | stop (choices later : Choices)
  | refresh (node : Node)
  | run (choices : Choices)
  /-- The task of one stream runs and the other does not. -/
  | runOne (choices : Choices) (kind : StreamKind)
  | deliver (kind : StreamKind) (number : Nat) (delivery : Delivery kind.Event)
  | drainSink

/-- Does the operation start or stop the monitors? -/
def Operation.controls : Operation → Bool
  | .start _ _ | .stop _ _ => true
  | _ => false

namespace Aggregator

variable (exporter : Aggregator) {kind other : StreamKind}

/-- The worker of a stream. -/
def worker : (kind : StreamKind) → Worker kind.Event kind.State
  | .htlc => exporter.htlcs
  | .payments => exporter.payments

/-- The exporter with another worker for a stream. -/
def withWorker : (kind : StreamKind) → Worker kind.Event kind.State → Aggregator
  | .htlc, htlcs => { exporter with htlcs }
  | .payments, payments => { exporter with payments }

/-- Delivers to a feed of a stream; nothing happens if there is no such feed. -/
def deliver : (kind : StreamKind) → Nat → Delivery kind.Event → Aggregator
  | .htlc, number, delivery => ((exporter.deliverHtlc? number delivery).map Prod.snd).getD exporter
  | .payments, number, delivery =>
      ((exporter.deliverPayment? number delivery).map Prod.snd).getD exporter

def perform : Operation → Aggregator
  | .start choices node => (exporter.start choices node.answers).2
  | .stop choices later => exporter.stop choices later
  | .refresh node => (exporter.refresh node.answers).2
  | .run choices => exporter.run choices
  | .runOne choices kind => exporter.runOne choices kind
  | .deliver kind number delivery => exporter.deliver kind number delivery
  | .drainSink => { exporter with sink := (Sink.drain exporter.sink).2 }

def performAll (operations : List Operation) : Aggregator :=
  operations.foldl perform exporter

theorem performAll_concat (operations : List Operation) (last : Operation) :
    exporter.performAll (operations ++ [last]) = (exporter.performAll operations).perform last :=
  List.foldl_append

theorem isLive_eq (kind : StreamKind) : exporter.isLive kind = (exporter.worker kind).isLive := by
  cases kind <;> rfl

theorem worker_withWorker (worker : Worker kind.Event kind.State) :
    (exporter.withWorker kind worker).worker kind = worker := by
  cases kind <;> rfl

theorem worker_withWorker_of_ne (apart : kind ≠ other) (worker : Worker other.Event other.State) :
    (exporter.withWorker other worker).worker kind = exporter.worker kind := by
  cases kind <;> cases other <;> first | rfl | exact absurd rfl apart

theorem woken_withWorker (worker : Worker kind.Event kind.State) :
    (exporter.withWorker kind worker).woken = exporter.woken := by
  cases kind <;> rfl

theorem refused_withWorker (worker : Worker kind.Event kind.State) :
    (exporter.withWorker kind worker).refused = exporter.refused := by
  cases kind <;> rfl

/-! ### Waking -/

theorem worker_wake (kind other : StreamKind) :
    (exporter.wake other).worker kind = exporter.worker kind := by
  unfold wake
  split <;> cases kind <;> rfl

theorem refused_wake (kind : StreamKind) : (exporter.wake kind).refused = exporter.refused := by
  unfold wake
  split <;> rfl

theorem mem_woken_wake (kind other : StreamKind) :
    kind ∈ (exporter.wake other).woken ↔
      kind ∈ exporter.woken ∨ kind = other ∧ (exporter.worker other).isLive = true := by
  unfold wake
  rw [isLive_eq]
  cases live : (exporter.worker other).isLive with
  | false => simp
  | true =>
      by_cases already : other ∈ exporter.woken
      · simp only [already, List.contains_eq_mem, decide_true, Bool.not_true, Bool.and_false,
          Bool.false_eq_true, ↓reduceIte, and_true, iff_self_or]
        rintro rfl
        exact already
      · simp [already]

theorem nodup_wake (distinct : exporter.woken.Nodup) (kind : StreamKind) :
    (exporter.wake kind).woken.Nodup := by
  unfold wake
  by_cases wakes : (exporter.isLive kind && !exporter.woken.contains kind) = true
  · rw [if_pos wakes]
    have absent : kind ∉ exporter.woken := by simpa using (Bool.and_eq_true_iff.mp wakes).2
    exact List.nodup_append.mpr ⟨distinct, List.nodup_singleton kind, fun one member two same => by
      rw [List.mem_singleton.mp same]
      rintro rfl
      exact absent member⟩
  · rw [if_neg wakes]
    exact distinct

/-! ### Running -/

theorem worker_runOne (choices : Choices) (kind other : StreamKind) :
    (exporter.runOne choices other).worker kind =
      if kind = other then (exporter.worker kind).ran kind.handler (choices kind)
      else exporter.worker kind := by
  cases kind <;> cases other
  · exact exporter.htlcs.fst_run htlcHandler (choices .htlc) exporter.sink
  · rfl
  · rfl
  · exact exporter.payments.fst_run paymentHandler (choices .payments) exporter.sink

theorem woken_runOne (choices : Choices) (kind : StreamKind) :
    (exporter.runOne choices kind).woken = exporter.woken := by
  cases kind <;> rfl

/-- Of streams that are run one after the other, none twice, each is run as if it were alone. -/
theorem worker_foldl_runOne (choices : Choices) (kinds : List StreamKind) (distinct : kinds.Nodup) :
    (kinds.foldl (runOne choices) exporter).worker kind =
      if kind ∈ kinds then (exporter.worker kind).ran kind.handler (choices kind)
      else exporter.worker kind := by
  induction kinds generalizing exporter with
  | nil => rfl
  | cons next rest ih =>
      obtain ⟨apart, distinct⟩ := List.nodup_cons.mp distinct
      rw [List.foldl_cons, ih _ distinct, worker_runOne]
      by_cases now : kind = next
      · subst now
        rw [if_neg apart, if_pos rfl, if_pos List.mem_cons_self]
      · rw [if_neg now]
        simp [now]

theorem worker_run (distinct : exporter.woken.Nodup) (choices : Choices) :
    (exporter.run choices).worker kind =
      if kind ∈ exporter.woken then (exporter.worker kind).ran kind.handler (choices kind)
      else exporter.worker kind := by
  rw [← exporter.worker_foldl_runOne choices exporter.woken distinct]
  cases kind <;> rfl

theorem refused_run (choices : Choices) : (exporter.run choices).refused = exporter.refused := by
  suffices kept : ∀ (kinds : List StreamKind) (exporter : Aggregator),
      (kinds.foldl (runOne choices) exporter).refused = exporter.refused from kept _ _
  intro kinds
  induction kinds with
  | nil => exact fun _ => rfl
  | cons kind rest ih =>
      intro exporter
      rw [List.foldl_cons, ih]
      cases kind <;> rfl

/-! ### Stopping -/

theorem signal_eq (kind : StreamKind) :
    exporter.signal kind = (exporter.withWorker kind (exporter.worker kind).signal).wake kind := by
  cases kind <;> rfl

theorem release_eq (kind : StreamKind) :
    exporter.release kind = exporter.withWorker kind (exporter.worker kind).release := by
  cases kind <;> rfl

theorem worker_stopOne (distinct : exporter.woken.Nodup) (choices : Choices) (kind : StreamKind) :
    (exporter.stopOne choices kind).worker kind =
      (exporter.worker kind).stopped kind.handler (choices kind) := by
  have signalled : (exporter.signal kind).worker kind = (exporter.worker kind).signal := by
    rw [signal_eq, worker_wake, worker_withWorker]
  have distinct' : (exporter.signal kind).woken.Nodup := by
    rw [signal_eq]
    apply nodup_wake
    rwa [woken_withWorker]
  unfold stopOne
  dsimp only
  rw [release_eq, worker_withWorker, isLive_eq, signalled]
  unfold Worker.stopped
  cases live : (exporter.worker kind).signal.isLive with
  | true =>
      have woken : kind ∈ (exporter.signal kind).woken := by
        rw [signal_eq, mem_woken_wake, worker_withWorker]
        exact .inr ⟨rfl, live⟩
      rw [if_pos rfl, worker_run _ distinct', if_pos woken, signalled]
  | false =>
      rw [if_neg Bool.false_ne_true, signalled, Worker.ran_of_still live]

/-- While one monitor is stopped the task of the other may run. -/
theorem worker_stopOne_of_ne (distinct : exporter.woken.Nodup) (choices : Choices)
    (apart : kind ≠ other) :
    (exporter.worker kind).Proceeds kind.handler
      ((exporter.stopOne choices other).worker kind) := by
  have signalled : (exporter.signal other).worker kind = exporter.worker kind := by
    rw [signal_eq, worker_wake, worker_withWorker_of_ne _ apart]
  have distinct' : (exporter.signal other).woken.Nodup := by
    rw [signal_eq]
    apply nodup_wake
    rwa [woken_withWorker]
  unfold stopOne
  dsimp only
  rw [release_eq, worker_withWorker_of_ne _ apart]
  split
  · rw [worker_run _ distinct', signalled]
    split
    · exact .ran (choices kind)
    · exact .idle
  · rw [signalled]
    exact .idle

theorem nodup_stopOne (distinct : exporter.woken.Nodup) (choices : Choices) (kind : StreamKind) :
    (exporter.stopOne choices kind).woken.Nodup := by
  unfold stopOne
  dsimp only
  rw [release_eq, woken_withWorker]
  split
  · exact List.nodup_nil
  · rw [signal_eq]
    apply nodup_wake
    rwa [woken_withWorker]

theorem refused_stopOne (choices : Choices) (kind : StreamKind) :
    (exporter.stopOne choices kind).refused = exporter.refused := by
  have signalled : (exporter.signal kind).refused = exporter.refused := by
    rw [signal_eq, refused_wake, refused_withWorker]
  unfold stopOne
  dsimp only
  rw [release_eq, refused_withWorker]
  split
  · rw [refused_run, signalled]
  · exact signalled

/-! ### Delivering and polling -/

theorem deliver_cases (kind : StreamKind) (number : Nat) (delivery : Delivery kind.Event) :
    let next := exporter.withWorker kind ((exporter.worker kind).handed number delivery)
    exporter.deliver kind number delivery = next ∨
      exporter.deliver kind number delivery = next.wake kind := by
  cases kind with
  | htlc =>
      simp only [deliver, deliverHtlc?, worker, withWorker, Worker.handed]
      cases exporter.htlcs.deliver? number delivery with
      | none => exact .inl rfl
      | some result =>
          simp only [Option.map_some, Option.getD_some]
          split
          · exact .inr rfl
          · exact .inl rfl
  | payments =>
      simp only [deliver, deliverPayment?, worker, withWorker, Worker.handed]
      cases exporter.payments.deliver? number delivery with
      | none => exact .inl rfl
      | some result =>
          simp only [Option.map_some, Option.getD_some]
          split
          · exact .inr rfl
          · exact .inl rfl

theorem worker_deliver (kind : StreamKind) (number : Nat) (delivery : Delivery kind.Event) :
    (exporter.deliver kind number delivery).worker kind =
      (exporter.worker kind).handed number delivery := by
  rcases exporter.deliver_cases kind number delivery with same | woken
  · rw [same, worker_withWorker]
  · rw [woken, worker_wake, worker_withWorker]

theorem worker_deliver_of_ne (apart : kind ≠ other) (number : Nat)
    (delivery : Delivery other.Event) :
    (exporter.deliver other number delivery).worker kind = exporter.worker kind := by
  rcases exporter.deliver_cases other number delivery with same | woken
  · rw [same, worker_withWorker_of_ne _ apart]
  · rw [woken, worker_wake, worker_withWorker_of_ne _ apart]

theorem worker_refresh (answers : NodeAnswers) (kind : StreamKind) :
    (exporter.refresh answers).2.worker kind = exporter.worker kind := by
  cases kind <;> rfl

/-! ### Between starts and stops -/

/-- No operation but a start or a stop does more to a worker than let it proceed. -/
theorem worker_perform (distinct : exporter.woken.Nodup) {operation : Operation}
    (proceeds : operation.controls = false) (kind : StreamKind) :
    (exporter.worker kind).Proceeds kind.handler ((exporter.perform operation).worker kind) := by
  cases operation with
  | start | stop => cases proceeds
  | refresh node =>
      have same : (exporter.perform (.refresh node)).worker kind = exporter.worker kind :=
        exporter.worker_refresh node.answers kind
      rw [same]
      exact .idle
  | run choices =>
      change Worker.Proceeds _ _ ((exporter.run choices).worker kind)
      rw [worker_run _ distinct]
      split
      · exact .ran (choices kind)
      · exact .idle
  | runOne choices own =>
      change Worker.Proceeds _ _ ((exporter.runOne choices own).worker kind)
      rw [worker_runOne]
      split
      · exact .ran (choices kind)
      · exact .idle
  | deliver own number delivery =>
      change Worker.Proceeds _ _ ((exporter.deliver own number delivery).worker kind)
      by_cases same : kind = own
      · subst same
        rw [worker_deliver]
        exact .handed number delivery
      · rw [worker_deliver_of_ne _ same]
        exact .idle
  | drainSink =>
      have same : (exporter.perform .drainSink).worker kind = exporter.worker kind := by
        cases kind <;> rfl
      rw [same]
      exact .idle

theorem nodup_perform (distinct : exporter.woken.Nodup) {operation : Operation}
    (proceeds : operation.controls = false) : (exporter.perform operation).woken.Nodup := by
  cases operation with
  | start | stop => cases proceeds
  | refresh _ | drainSink => exact distinct
  | run _ => exact List.nodup_nil
  | runOne choices own =>
      change (exporter.runOne choices own).woken.Nodup
      rw [woken_runOne]
      exact distinct
  | deliver own number delivery =>
      have distinct' : (exporter.withWorker own
          ((exporter.worker own).handed number delivery)).woken.Nodup := by
        rw [woken_withWorker]
        exact distinct
      change (exporter.deliver own number delivery).woken.Nodup
      rcases exporter.deliver_cases own number delivery with same | woken
      · rw [same]
        exact distinct'
      · rw [woken]
        exact nodup_wake _ distinct' own

theorem refused_perform {operation : Operation} (proceeds : operation.controls = false) :
    (exporter.perform operation).refused = exporter.refused := by
  cases operation with
  | start | stop => cases proceeds
  | refresh | drainSink => rfl
  | run choices => exact exporter.refused_run choices
  | runOne choices kind => cases kind <;> rfl
  | deliver kind number delivery =>
      change (exporter.deliver kind number delivery).refused = exporter.refused
      rcases exporter.deliver_cases kind number delivery with same | woken
      · rw [same, refused_withWorker]
      · rw [woken, refused_wake, refused_withWorker]

/-! ### Starting -/

/-- The exporter whose worker was handed a feed of the stream with a new context. -/
def handing (kind : StreamKind) (feed : Feed kind.Event) : Aggregator :=
  exporter.withWorker kind
    ((exporter.worker kind).spawn kind.handler (Context.opened.handTo feed)).2

/-- The exporter with a task that was started on a feed of the stream, and woken. -/
def attending (kind : StreamKind) (feed : Feed kind.Event) : Aggregator :=
  (exporter.handing kind feed).wake kind

/-- The exporter after the node refused a subscription to the stream. -/
def refusing (kind : StreamKind) : Aggregator :=
  exporter.keep kind (some Context.opened.cancel)

theorem worker_refusing (kind other : StreamKind) :
    (exporter.refusing other).worker kind = exporter.worker kind := by
  cases kind <;> rfl

theorem worker_attending (feed : Feed kind.Event) :
    (exporter.attending kind feed).worker kind =
      ((exporter.worker kind).spawn kind.handler (Context.opened.handTo feed)).2 := by
  unfold attending handing
  rw [worker_wake, worker_withWorker]

theorem worker_attending_of_ne (apart : kind ≠ other) (feed : Feed other.Event) :
    (exporter.attending other feed).worker kind = exporter.worker kind := by
  unfold attending handing
  rw [worker_wake, worker_withWorker_of_ne _ apart]

theorem payments_attending (feed : Feed HtlcEvent) :
    (exporter.attending .htlc feed).worker .payments = exporter.worker .payments := by
  have apart : StreamKind.payments ≠ .htlc := by decide
  exact exporter.worker_attending_of_ne apart feed

/-- What a start of one monitor can come to: the node refuses the subscription, or the worker turns
it away, or a task is started on it and woken. -/
theorem startOne_cases (answers : NodeAnswers) (kind : StreamKind) :
    (∃ error, kind.answer answers = .error error ∧
      exporter.startOne answers kind = (.error (.node error), exporter.refusing kind)) ∨
    (∃ feed current, kind.answer answers = .ok feed ∧
      (exporter.worker kind).started = some current ∧
      exporter.startOne answers kind =
        (.error (.alreadyStarted (exporter.worker kind).name), exporter.handing kind feed)) ∨
    ∃ feed, kind.answer answers = .ok feed ∧ (exporter.worker kind).started = none ∧
      exporter.startOne answers kind = (.ok (), exporter.attending kind feed) := by
  cases answered : kind.answer answers with
  | error error =>
      refine .inl ⟨error, rfl, ?_⟩
      cases kind <;>
        simp only [StreamKind.answer] at answered <;>
        simp only [startOne, startOn, answered, refusing]
  | ok feed =>
      refine .inr ?_
      cases started : (exporter.worker kind).started with
      | some current =>
          refine .inl ⟨feed, current, rfl, rfl, ?_⟩
          have turned := Worker.spawn_of_started started kind.handler (Context.opened.handTo feed)
          cases kind <;>
            simp only [StreamKind.answer] at answered <;>
            simp only [worker, StreamKind.handler] at turned <;>
            simp only [startOne, startOn, answered, turned, handing, worker, withWorker, keep_none,
              StreamKind.handler]
      | none =>
          refine .inr ⟨feed, rfl, rfl, ?_⟩
          have taken := Worker.spawn_of_free started kind.handler (Context.opened.handTo feed)
          cases kind <;>
            simp only [StreamKind.answer] at answered <;>
            simp only [worker, StreamKind.handler] at taken <;>
            simp only [startOne, startOn, answered, taken, attending, handing, worker, withWorker,
              StreamKind.handler]

/-- What a start can come to. The node refuses the HTLC subscription, or the HTLC worker turns it
away; or the payments cannot be started and the HTLC monitor is stopped again; or both run. -/
inductive Outcome (choices : Choices) (answers : NodeAnswers) (exporter : Aggregator) :
    Queried Unit × Aggregator → Prop where
  | refused {error : NodeError} (answer : answers.htlcEvents = .error error) :
      Outcome choices answers exporter
        (([.subscribeHtlcEvents], .error (.node error)), exporter.refusing .htlc)
  | turnedAway {feed : Feed HtlcEvent} {current : Nat} (answer : answers.htlcEvents = .ok feed)
      (started : (exporter.worker .htlc).started = some current) :
      Outcome choices answers exporter
        (([.subscribeHtlcEvents], .error (.alreadyStarted (exporter.worker .htlc).name)),
          exporter.handing .htlc feed)
  | rolledBack {feed : Feed HtlcEvent} {error : MonitorError} {failed : Aggregator}
      (answer : answers.htlcEvents = .ok feed) (free : (exporter.worker .htlc).started = none)
      (attempt : (exporter.attending .htlc feed).startOne answers .payments =
        (.error error, failed)) :
      Outcome choices answers exporter
        (([.subscribeHtlcEvents, .trackPayments], .error error), failed.stopOne choices .htlc)
  | running {feed : Feed HtlcEvent} {payments : Feed Payment}
      (answer : answers.htlcEvents = .ok feed) (free : (exporter.worker .htlc).started = none)
      (paymentAnswer : answers.payments = .ok payments)
      (paymentFree : (exporter.worker .payments).started = none) :
      Outcome choices answers exporter
        (([.subscribeHtlcEvents, .trackPayments], .ok ()),
          (exporter.attending .htlc feed).attending .payments payments)

theorem start_outcome (choices : Choices) (answers : NodeAnswers) :
    Outcome choices answers exporter (exporter.start choices answers) := by
  unfold start
  rcases exporter.startOne_cases answers .htlc with
    ⟨error, answer, refused⟩ | ⟨feed, current, answer, started, turned⟩ |
    ⟨feed, answer, free, taken⟩
  · rw [refused]
    exact .refused answer
  · rw [turned]
    exact .turnedAway answer started
  · rw [taken]
    dsimp only
    have same := exporter.payments_attending feed
    rcases (exporter.attending .htlc feed).startOne_cases answers .payments with
      ⟨error, _, failed⟩ | ⟨payments, current, _, _, failed⟩ |
      ⟨payments, paymentAnswer, paymentFree, running⟩
    · rw [failed]
      exact .rolledBack answer free failed
    · rw [failed]
      exact .rolledBack answer free failed
    · rw [running]
      rw [same] at paymentFree
      exact .running answer free paymentAnswer paymentFree

/-! ### Orderly exporters -/

/-- Every worker is where a session of its own could have led it, no stream is woken twice, and what
the node refused is over. -/
structure Orderly (exporter : Aggregator) : Prop where
  reached : ∀ kind, (exporter.worker kind).IsReached kind.handler kind.name kind.empty
  distinct : exporter.woken.Nodup
  settled : ∀ entry ∈ exporter.refused, entry.2.cancelled = true

variable {exporter}

theorem orderly_create {base : UInt64} {sinkCapacity : Nat}
    (created : Aggregator.create base sinkCapacity = .ok exporter) : exporter.Orderly := by
  unfold Aggregator.create at created
  split at created
  · cases created
  · cases created
    refine ⟨fun kind => ?_, List.nodup_nil, nofun⟩
    cases kind <;> exact .create _ _ _

theorem Orderly.withWorker (orderly : exporter.Orderly) {worker : Worker kind.Event kind.State}
    (reached : worker.IsReached kind.handler kind.name kind.empty) :
    (exporter.withWorker kind worker).Orderly := by
  refine ⟨fun other => ?_, ?_, ?_⟩
  · by_cases same : other = kind
    · subst same
      rw [worker_withWorker]
      exact reached
    · rw [worker_withWorker_of_ne _ same]
      exact orderly.reached other
  · rw [woken_withWorker]
    exact orderly.distinct
  · rw [refused_withWorker]
    exact orderly.settled

theorem Orderly.wake (orderly : exporter.Orderly) (kind : StreamKind) :
    (exporter.wake kind).Orderly := by
  refine ⟨fun other => ?_, exporter.nodup_wake orderly.distinct kind, ?_⟩
  · rw [worker_wake]
    exact orderly.reached other
  · rw [refused_wake]
    exact orderly.settled

theorem Orderly.refusing (orderly : exporter.Orderly) (kind : StreamKind) :
    (exporter.refusing kind).Orderly := by
  refine ⟨fun other => ?_, orderly.distinct, fun entry member => ?_⟩
  · rw [worker_refusing]
    exact orderly.reached other
  · rcases List.mem_append.mp member with before | now
    · exact orderly.settled entry before
    · cases List.mem_singleton.mp now
      rfl

theorem Orderly.stopOne (orderly : exporter.Orderly) (choices : Choices) (kind : StreamKind) :
    (exporter.stopOne choices kind).Orderly := by
  refine ⟨fun other => ?_, exporter.nodup_stopOne orderly.distinct choices kind,
    exporter.refused_stopOne choices kind ▸ orderly.settled⟩
  by_cases same : other = kind
  · subst same
    rw [worker_stopOne _ orderly.distinct]
    exact (orderly.reached other).stopped (choices other)
  · exact (orderly.reached other).proceeds
      (exporter.worker_stopOne_of_ne orderly.distinct choices same)

theorem Orderly.attending (orderly : exporter.Orderly) (kind : StreamKind) (capacity : Nat) :
    (exporter.attending kind (.opened capacity)).Orderly :=
  (orderly.withWorker ((orderly.reached kind).spawn capacity)).wake kind

theorem Orderly.startOne (orderly : exporter.Orderly) (node : Node) (kind : StreamKind) :
    (exporter.startOne node.answers kind).2.Orderly := by
  rcases exporter.startOne_cases node.answers kind with
    ⟨error, _, refused⟩ | ⟨feed, current, answered, _, turned⟩ | ⟨feed, answered, _, taken⟩
  · rw [refused]
    exact orderly.refusing kind
  · obtain ⟨capacity, rfl⟩ := node.opens kind feed answered
    rw [turned]
    exact orderly.withWorker ((orderly.reached kind).spawn capacity)
  · obtain ⟨capacity, rfl⟩ := node.opens kind feed answered
    rw [taken]
    exact orderly.attending kind capacity

theorem Orderly.start (orderly : exporter.Orderly) (choices : Choices) (node : Node) :
    (exporter.start choices node.answers).2.Orderly := by
  have outcome := exporter.start_outcome choices node.answers
  generalize exporter.start choices node.answers = result at outcome ⊢
  cases outcome with
  | refused _ => exact orderly.refusing .htlc
  | turnedAway answer _ =>
      obtain ⟨capacity, rfl⟩ := node.opens .htlc _ answer
      exact orderly.withWorker ((orderly.reached .htlc).spawn capacity)
  | rolledBack answer _ attempt =>
      obtain ⟨capacity, rfl⟩ := node.opens .htlc _ answer
      have failed := (orderly.attending .htlc capacity).startOne node .payments
      rw [attempt] at failed
      exact failed.stopOne choices .htlc
  | running answer _ paymentAnswer _ =>
      obtain ⟨capacity, rfl⟩ := node.opens .htlc _ answer
      obtain ⟨capacity', rfl⟩ := node.opens .payments _ paymentAnswer
      exact (orderly.attending .htlc capacity).attending .payments capacity'

theorem Orderly.perform (orderly : exporter.Orderly) (operation : Operation) :
    (exporter.perform operation).Orderly := by
  cases operation with
  | start choices node => exact orderly.start choices node
  | stop choices later => exact (orderly.stopOne choices .payments).stopOne later .htlc
  | _ =>
      refine ⟨fun kind => ?_, exporter.nodup_perform orderly.distinct rfl, ?_⟩
      · exact (orderly.reached kind).proceeds (exporter.worker_perform orderly.distinct rfl kind)
      · rw [refused_perform _ rfl]
        exact orderly.settled

theorem Orderly.performAll (orderly : exporter.Orderly) (operations : List Operation) :
    (exporter.performAll operations).Orderly := by
  induction operations generalizing exporter with
  | nil => exact orderly
  | cons operation rest ih => exact ih (orderly.perform operation)

end Aggregator

end LightningMetrics.Exporter
