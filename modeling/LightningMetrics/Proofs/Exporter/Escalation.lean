import LightningMetrics.Proofs.Exporter.HtlcMonitoring
import LightningMetrics.Proofs.Exporter.Operations
import LightningMetrics.Proofs.Exporter.PolledGauges
import LightningMetrics.Proofs.Streaming.Handover

set_option autoImplicit false

namespace LightningMetrics

/-- Does the node fail on this call? -/
def NodeAnswers.refuses (answers : NodeAnswers) : NodeCall → Bool
  | .getInfo => !answers.info.isOk
  | .listChannels => !answers.channels.isOk
  | .getNodeInfo key includeChannels => !(answers.nodeInfo key includeChannels).isOk
  | .describeGraph => !answers.graph.isOk
  | .subscribeHtlcEvents => !answers.htlcEvents.isOk
  | .trackPayments => !answers.payments.isOk

namespace Exporter

open Streaming

/-- The error of a failed query, unless it is that the deadline of a call has passed. -/
def escalated {β : Type} : Except MonitorError β → List MonitorError
  | .ok _ => []
  | .error (.node ⟨.deadline, _⟩) => []
  | .error error => [error]

/-- What a poll of the node hands over: the failure of the fees before that of the graph. -/
def escalations (base : UInt64) (answers : NodeAnswers) : List MonitorError :=
  escalated (queryFees base answers).2 ++ escalated (queryStats answers).2

theorem deadline_notMem_escalated {β : Type} (result : Except MonitorError β) (detail : String) :
    .node ⟨.deadline, detail⟩ ∉ escalated result := by
  intro member
  unfold escalated at member
  split at member
  · cases member
  · cases member
  · next timely =>
      exact timely detail (List.mem_singleton.mp member).symm

/-- The calls of the fee query: it goes on to the next one only with an answer. -/
theorem calls_queryFees (base : UInt64) (answers : NodeAnswers) :
    (queryFees base answers).1 =
      match answers.info with
      | .error _ => [.getInfo]
      | .ok info =>
          match answers.channels with
          | .error _ => [.getInfo, .listChannels]
          | .ok _ => [.getInfo, .listChannels, .getNodeInfo info.identity true] := by
  unfold queryFees
  cases answers.info with
  | error error => rfl
  | ok info =>
      cases answers.channels with
      | error error => rfl
      | ok channels =>
          dsimp only
          cases answers.nodeInfo info.identity true with
          | error error => rfl
          | ok edges =>
              dsimp only
              cases remotePolicies info.identity edges <;> rfl

theorem answered_queryFees (base : UInt64) (answers : NodeAnswers) :
    ∀ call ∈ (queryFees base answers).1.dropLast, answers.refuses call = false := by
  rw [calls_queryFees]
  cases info : answers.info with
  | error error => exact nofun
  | ok summary =>
      have told : answers.refuses .getInfo = false := by
        rw [NodeAnswers.refuses, info]
        rfl
      dsimp only
      cases channels : answers.channels with
      | error error =>
          intro call member
          rw [List.mem_singleton.mp member]
          exact told
      | ok balances =>
          have listed : answers.refuses .listChannels = false := by
            rw [NodeAnswers.refuses, channels]
            rfl
          intro call member
          rcases List.mem_cons.mp member with rfl | member
          · exact told
          · rw [List.mem_singleton.mp member]
            exact listed

theorem calls_queryStats (answers : NodeAnswers) : (queryStats answers).1 = [.describeGraph] := by
  unfold queryStats
  cases answers.graph <;> rfl

namespace Aggregator

variable (exporter : Aggregator) {kind : StreamKind}

theorem escalate_eq {β : Type} (result : Except MonitorError β) (sink : Sink MonitorError) :
    escalate result sink = Sink.reportAll sink (escalated result) := by
  cases result with
  | ok value => rfl
  | error error =>
      cases error with
      | node cause =>
          obtain ⟨kind, detail⟩ := cause
          cases kind <;> rfl
      | _ => rfl

theorem refresh_withSink (answers : NodeAnswers) (sink : Sink MonitorError) :
    { exporter with sink }.refresh answers =
      ((exporter.refresh answers).1,
        { (exporter.refresh answers).2 with
          sink := Sink.reportAll sink (escalations exporter.base answers) }) := by
  simp only [refresh, refreshFees, refreshStats, escalate_eq, escalations, Sink.reportAll_append]

/-! ### What is handed over -/

/-- What the task of a stream hands over when it is run. -/
def reportsOf (choices : Choices) (kind : StreamKind) : List MonitorError :=
  Happening.reports
    (((exporter.worker kind).runHappenings kind.handler (choices kind)).map Prod.snd)

/-- What is handed over while a monitor is stopped: all tasks that were woken run, if its own has to
be waited for. -/
def reportsOfStop (choices : Choices) (kind : StreamKind) : List MonitorError :=
  let signalled := exporter.signal kind
  if signalled.isLive kind then signalled.woken.flatMap (signalled.reportsOf choices) else []

/-- What is handed over while the monitors are started: what the tasks report that run while the
first is stopped again. -/
def reportsOfStart (choices : Choices) (answers : NodeAnswers) : List MonitorError :=
  match exporter.startOne answers .htlc with
  | (.error _, _) => []
  | (.ok (), started) =>
      match started.startOne answers .payments with
      | (.error _, failed) => failed.reportsOfStop choices .htlc
      | (.ok (), _) => []

/-- What an operation hands over to the sink: the failures of a poll, or what the tasks report that
run meanwhile. -/
def handed : Operation → List MonitorError
  | .start choices node => exporter.reportsOfStart choices node.answers
  | .stop choices later =>
      exporter.reportsOfStop choices .payments ++
        (exporter.stopOne choices .payments).reportsOfStop later .htlc
  | .refresh node => escalations exporter.base node.answers
  | .run choices => exporter.woken.flatMap (exporter.reportsOf choices)
  | .runOne choices kind => exporter.reportsOf choices kind
  | .deliver _ _ _ | .drainSink => []

/-- What is handed over by one operation after the other. -/
def handedAll (exporter : Aggregator) : List Operation → List MonitorError
  | [] => []
  | operation :: rest => exporter.handed operation ++ (exporter.perform operation).handedAll rest

theorem sink_withWorker (worker : Worker kind.Event kind.State) :
    (exporter.withWorker kind worker).sink = exporter.sink := by
  cases kind <;> rfl

theorem sink_wake (kind : StreamKind) : (exporter.wake kind).sink = exporter.sink := by
  unfold wake
  split <;> rfl

theorem sink_runOne (choices : Choices) (kind : StreamKind) :
    (exporter.runOne choices kind).sink =
      Sink.reportAll exporter.sink (exporter.reportsOf choices kind) := by
  cases kind with
  | htlc => exact exporter.htlcs.sink_run_eq htlcHandler (choices .htlc) exporter.sink
  | payments => exact exporter.payments.sink_run_eq paymentHandler (choices .payments) exporter.sink

theorem reportsOf_runOne_of_ne {other : StreamKind} (apart : kind ≠ other) (choices : Choices) :
    (exporter.runOne choices other).reportsOf choices kind = exporter.reportsOf choices kind := by
  unfold reportsOf
  rw [worker_runOne, if_neg apart]

theorem sink_foldl_runOne (choices : Choices) (kinds : List StreamKind) (distinct : kinds.Nodup) :
    (kinds.foldl (runOne choices) exporter).sink =
      Sink.reportAll exporter.sink (kinds.flatMap (exporter.reportsOf choices)) := by
  induction kinds generalizing exporter with
  | nil => rfl
  | cons next rest ih =>
      obtain ⟨apart, distinct⟩ := List.nodup_cons.mp distinct
      have same : rest.flatMap ((exporter.runOne choices next).reportsOf choices) =
          rest.flatMap (exporter.reportsOf choices) := by
        refine List.flatMap_congr fun kind member => exporter.reportsOf_runOne_of_ne ?_ choices
        rintro rfl
        exact apart member
      rw [List.foldl_cons, ih _ distinct, sink_runOne, same, List.flatMap_cons,
        Sink.reportAll_append]

theorem sink_run (distinct : exporter.woken.Nodup) (choices : Choices) :
    (exporter.run choices).sink =
      Sink.reportAll exporter.sink (exporter.woken.flatMap (exporter.reportsOf choices)) :=
  exporter.sink_foldl_runOne choices exporter.woken distinct

theorem sink_stopOne (distinct : exporter.woken.Nodup) (choices : Choices) (kind : StreamKind) :
    (exporter.stopOne choices kind).sink =
      Sink.reportAll exporter.sink (exporter.reportsOfStop choices kind) := by
  have signalled : (exporter.signal kind).sink = exporter.sink := by
    rw [signal_eq, sink_wake, sink_withWorker]
  have distinct' : (exporter.signal kind).woken.Nodup := by
    rw [signal_eq]
    apply nodup_wake
    rwa [woken_withWorker]
  unfold stopOne reportsOfStop
  dsimp only
  rw [release_eq, sink_withWorker]
  split
  · rw [sink_run _ distinct', signalled]
  · exact signalled

theorem sink_startOne (answers : NodeAnswers) (kind : StreamKind) :
    (exporter.startOne answers kind).2.sink = exporter.sink := by
  rcases exporter.startOne_cases answers kind with
    ⟨_, _, refused⟩ | ⟨_, _, _, _, turned⟩ | ⟨_, _, _, taken⟩
  · rw [refused]
    rfl
  · rw [turned]
    exact exporter.sink_withWorker _
  · rw [taken]
    exact (sink_wake _ _).trans (exporter.sink_withWorker _)

theorem sink_deliver (kind : StreamKind) (number : Nat) (delivery : Delivery kind.Event) :
    (exporter.deliver kind number delivery).sink = exporter.sink := by
  rcases exporter.deliver_cases kind number delivery with same | woken
  · rw [same, sink_withWorker]
  · rw [woken, sink_wake, sink_withWorker]

variable {exporter}

/-- A start reports nothing, unless it has to stop the first of the monitors again. -/
theorem Orderly.reportsOfStart_cases (orderly : exporter.Orderly) (choices : Choices)
    (node : Node) :
    (exporter.start choices node.answers).2.sink = exporter.sink ∧
        exporter.reportsOfStart choices node.answers = [] ∨
      ∃ failed : Aggregator, failed.Orderly ∧ failed.sink = exporter.sink ∧
        (exporter.start choices node.answers).2 = failed.stopOne choices .htlc ∧
        exporter.reportsOfStart choices node.answers = failed.reportsOfStop choices .htlc := by
  have started := orderly.startOne node .htlc
  have same := exporter.sink_startOne node.answers .htlc
  unfold Aggregator.start reportsOfStart
  generalize exporter.startOne node.answers .htlc = result at started same ⊢
  obtain ⟨outcome, next⟩ := result
  cases outcome with
  | error error => exact .inl ⟨same, rfl⟩
  | ok done =>
      have failed := started.startOne node .payments
      have same' := next.sink_startOne node.answers .payments
      dsimp only at same failed same' ⊢
      generalize next.startOne node.answers .payments = result at failed same' ⊢
      obtain ⟨outcome, last⟩ := result
      cases outcome with
      | ok done => exact .inl ⟨same'.trans same, rfl⟩
      | error error => exact .inr ⟨last, failed, same'.trans same, rfl, rfl⟩

theorem Orderly.sink_start (orderly : exporter.Orderly) (choices : Choices) (node : Node) :
    (exporter.start choices node.answers).2.sink =
      Sink.reportAll exporter.sink (exporter.reportsOfStart choices node.answers) := by
  rcases orderly.reportsOfStart_cases choices node with
    ⟨same, silent⟩ | ⟨failed, orderly', same, rolledBack, reports⟩
  · rw [same, silent]
    rfl
  · rw [rolledBack, reports, failed.sink_stopOne orderly'.distinct, same]

/-- What an operation does to the sink is to hand over its errors, unless it drains it. -/
theorem Orderly.sink_perform (orderly : exporter.Orderly) {operation : Operation}
    (keeps : operation ≠ .drainSink) :
    (exporter.perform operation).sink =
      Sink.reportAll exporter.sink (exporter.handed operation) := by
  cases operation with
  | drainSink => exact absurd rfl keeps
  | refresh node => exact congrArg (·.2.sink) (exporter.refresh_withSink node.answers exporter.sink)
  | run choices => exact exporter.sink_run orderly.distinct choices
  | runOne choices kind => exact exporter.sink_runOne choices kind
  | deliver kind number delivery => exact exporter.sink_deliver kind number delivery
  | stop choices later =>
      have stopped := orderly.stopOne choices .payments
      change ((exporter.stopOne choices .payments).stopOne later .htlc).sink = _
      rw [sink_stopOne _ stopped.distinct, sink_stopOne _ orderly.distinct,
        ← Sink.reportAll_append]
      rfl
  | start choices node => exact orderly.sink_start choices node

theorem Orderly.sink_performAll (orderly : exporter.Orderly) {operations : List Operation}
    (keeps : .drainSink ∉ operations) :
    (exporter.performAll operations).sink =
      Sink.reportAll exporter.sink (exporter.handedAll operations) := by
  induction operations generalizing exporter with
  | nil => rfl
  | cons operation rest ih =>
      obtain ⟨now, later⟩ := List.ne_and_not_mem_of_not_mem_cons keeps
      change ((exporter.perform operation).performAll rest).sink = _
      rw [ih (orderly.perform operation) later, orderly.sink_perform now.symm, handedAll,
        Sink.reportAll_append]

theorem isOpen_create {base : UInt64} {sinkCapacity : Nat}
    (created : create base sinkCapacity = .ok exporter) :
    exporter.sink.IsOpen sinkCapacity ∧ exporter.sink.queue = [] := by
  unfold create at created
  split at created
  · cases created
  · cases created
    exact ⟨⟨rfl, rfl, rfl⟩, rfl⟩

theorem Orderly.isOpen_performAll (orderly : exporter.Orderly) {capacity : Nat}
    (isOpen : exporter.sink.IsOpen capacity) (operations : List Operation) :
    (exporter.performAll operations).sink.IsOpen capacity := by
  induction operations generalizing exporter with
  | nil => exact isOpen
  | cons operation rest ih =>
      refine ih (orderly.perform operation) ?_
      by_cases drains : operation = .drainSink
      · subst drains
        exact ⟨isOpen.capacity, isOpen.senderOpen, isOpen.receiverOpen⟩
      · rw [orderly.sink_perform drains]
        exact isOpen.reportAll _

/-! ### Deadlines -/

/-- The task of a stream never reports that a deadline has passed. -/
theorem deadline_notMem_reports (kind : StreamKind) (steps : List (Step kind.Event))
    (step : Step kind.Event) (detail : String) :
    .node ⟨.deadline, detail⟩ ∉ Happening.reports
      ((((Session.create kind.name kind.empty 0).steps kind.handler steps).2.happenings kind.handler
        step).map Prod.snd) := by
  intro reported
  rcases Session.reports_cases kind.handler kind.name kind.empty 0 steps step reported with
    ⟨_, other⟩ | other | ⟨state, event, failed⟩
  · cases other
  · cases other
  · cases kind with
    | payments => cases failed
    | htlc =>
        rcases handle_htlcHandler_cases state event with ⟨accepted, _⟩ | ⟨_, fails, _, refused⟩
        · cases accepted.symm.trans failed
        · cases fails.symm.trans failed
          rcases (HtlcTracker.process_error refused).2 with other | other <;> cases other

theorem Orderly.deadline_notMem_reportsOf (orderly : exporter.Orderly) (choices : Choices)
    (kind : StreamKind) (detail : String) :
    .node ⟨.deadline, detail⟩ ∉ exporter.reportsOf choices kind := by
  obtain ⟨steps, reached⟩ := orderly.reached kind
  unfold reportsOf
  rw [← reached]
  exact deadline_notMem_reports kind steps (.run (choices kind)) detail

theorem Orderly.deadline_notMem_reportsOfStop (orderly : exporter.Orderly) (choices : Choices)
    (kind : StreamKind) (detail : String) :
    .node ⟨.deadline, detail⟩ ∉ exporter.reportsOfStop choices kind := by
  unfold reportsOfStop
  dsimp only
  split
  · intro member
    obtain ⟨other, _, reported⟩ := List.mem_flatMap.mp member
    refine absurd reported ?_
    unfold reportsOf
    rw [signal_eq, worker_wake]
    by_cases own : other = kind
    · -- A run of a worker that was told to quit is what a stop of it makes happen.
      subst own
      obtain ⟨steps, reached⟩ := orderly.reached other
      rw [worker_withWorker, ← reached]
      exact deadline_notMem_reports other steps (.stop (choices other)) detail
    · rw [worker_withWorker_of_ne _ own]
      exact orderly.deadline_notMem_reportsOf choices other detail
  · exact nofun

theorem Orderly.deadline_notMem_reportsOfStart (orderly : exporter.Orderly) (choices : Choices)
    (node : Node) (detail : String) :
    .node ⟨.deadline, detail⟩ ∉ exporter.reportsOfStart choices node.answers := by
  rcases orderly.reportsOfStart_cases choices node with
    ⟨_, silent⟩ | ⟨failed, orderly', _, _, reports⟩
  · rw [silent]
    exact nofun
  · rw [reports]
    exact orderly'.deadline_notMem_reportsOfStop choices .htlc detail

theorem Orderly.deadline_notMem_handed (orderly : exporter.Orderly) (operation : Operation)
    (detail : String) : .node ⟨.deadline, detail⟩ ∉ exporter.handed operation := by
  cases operation with
  | deliver | drainSink => exact nofun
  | runOne choices kind => exact orderly.deadline_notMem_reportsOf choices kind detail
  | refresh node =>
      intro member
      rcases List.mem_append.mp member with fees | stats
      · exact deadline_notMem_escalated _ _ fees
      · exact deadline_notMem_escalated _ _ stats
  | run choices =>
      intro member
      obtain ⟨kind, _, reported⟩ := List.mem_flatMap.mp member
      exact orderly.deadline_notMem_reportsOf choices kind detail reported
  | stop choices later =>
      intro member
      rcases List.mem_append.mp member with payments | htlcs
      · exact orderly.deadline_notMem_reportsOfStop choices .payments detail payments
      · have stopped := orderly.stopOne choices .payments
        exact stopped.deadline_notMem_reportsOfStop later .htlc detail htlcs
  | start choices node => exact orderly.deadline_notMem_reportsOfStart choices node detail

theorem Orderly.deadline_notMem_handedAll (orderly : exporter.Orderly)
    (operations : List Operation) (detail : String) :
    .node ⟨.deadline, detail⟩ ∉ exporter.handedAll operations := by
  induction operations generalizing exporter with
  | nil => exact nofun
  | cons operation rest ih =>
      intro member
      rcases List.mem_append.mp member with now | later
      · exact orderly.deadline_notMem_handed operation detail now
      · exact ih (orderly.perform operation) later

/-! ### The errors that wait -/

/-- What a refresh does against a node that answers so. -/
structure Polls (exporter : Aggregator) (answers : NodeAnswers) : Prop where
  /-- Whatever waits in the sink, and if it is full, a refresh hands over the failure of the fees,
  then that of the graph, and nothing else; and does the rest as it does it here. -/
  handsOver : ∀ sink, { exporter with sink }.refresh answers =
    ((exporter.refresh answers).1,
      { (exporter.refresh answers).2 with
        sink := Sink.reportAll sink
          (escalated (queryFees exporter.base answers).2 ++ escalated (queryStats answers).2) })
  /-- The graph is asked for after the fees, whatever came of them. -/
  calls : (exporter.refresh answers).1 = (queryFees exporter.base answers).1 ++ [.describeGraph]
  stats : (exporter.refresh answers).2.stats = (statsAnswer? answers).getD exporter.stats
  /-- With a call that fails the query for the fees makes no other. -/
  stops : ∀ call ∈ (queryFees exporter.base answers).1.dropLast, answers.refuses call = false

theorem polls (exporter : Aggregator) (answers : NodeAnswers) : exporter.Polls answers where
  handsOver := exporter.refresh_withSink answers
  calls := congrArg ((queryFees exporter.base answers).1 ++ ·) (calls_queryStats answers)
  stats := (exporter.refresh_snapshot answers).2.2
  stops := answered_queryFees exporter.base answers

/-- Whatever has been done to an exporter since it was created or last drained, what waits in its
sink is what refreshes and tasks have handed over since, as far as there was room and in that order.
The first error is among it, no deadline is, and a refresh polls the node however full the sink
is. -/
theorem first_errors_wait_in_order {base : UInt64} {sinkCapacity : Nat}
    (created : create base sinkCapacity = .ok exporter) (earlier later : List Operation)
    (fresh : earlier = [] ∨ ∃ before, earlier = before ++ [.drainSink])
    (undrained : .drainSink ∉ later) :
    let drained := exporter.performAll earlier
    let now := drained.performAll later
    let handed := drained.handedAll later
    now.sink.queue = handed.take sinkCapacity ∧
      (0 < sinkCapacity → now.sink.queue.head? = handed.head?) ∧
      (∀ detail, .node ⟨.deadline, detail⟩ ∉ handed) ∧
      (∀ operation, operation ≠ .drainSink →
        (now.perform operation).sink = Sink.reportAll now.sink (now.handed operation)) ∧
      ∀ answers, now.Polls answers := by
  intro drained now handed
  obtain ⟨isOpen, empty⟩ := isOpen_create created
  have orderly : drained.Orderly := (orderly_create created).performAll earlier
  have drainedOpen : drained.sink.IsOpen sinkCapacity :=
    (orderly_create created).isOpen_performAll isOpen earlier
  have nothing : drained.sink.queue = [] := by
    rcases fresh with rfl | ⟨before, rfl⟩
    · exact empty
    · change (exporter.performAll (before ++ [.drainSink])).sink.queue = []
      rw [performAll_concat]
      rfl
  have waits : now.sink.queue = handed.take sinkCapacity := by
    have within : drained.sink.queue.length ≤ sinkCapacity := by
      rw [nothing]
      exact Nat.zero_le _
    change (drained.performAll later).sink.queue = _
    rw [orderly.sink_performAll undrained, drainedOpen.queue_reportAll within, nothing]
    rfl
  refine ⟨waits, fun room => ?_, orderly.deadline_notMem_handedAll later,
    fun operation keeps => (orderly.performAll later).sink_perform keeps, now.polls⟩
  rw [waits, List.head?_take, if_neg (Nat.ne_of_gt room)]

/-- The fees fail and the graph runs into a deadline, and then a stream fails: of the two errors
that are handed over there is room for the first. -/
theorem first_errors_wait_in_order_of_late_exit :
    let boom : NodeError := ⟨.getInfo, "boom"⟩
    let gone : NodeError := ⟨.stream, "gone"⟩
    let node : Node :=
      { answers := { NodeAnswers.failing boom 1 with graph := .error ⟨.deadline, "10s"⟩ }
        opens := fun kind feed answer => ⟨1, by cases kind <;> cases answer <;> rfl⟩ }
    let later : List Operation := [.start .quit node,
      .deliver .htlc 0 (.error gone), .refresh node, .run .quit]
    ∃ exporter, create 1000 1 = .ok exporter ∧ .drainSink ∉ later ∧
      exporter.handedAll later = [.node boom, .streamExited "htlc" gone] ∧
      (exporter.performAll later).sink.queue = [.node boom] ∧
      (exporter.performAll later).Polls node.answers := by
  intro boom gone node later
  let exporter : Aggregator :=
    { base := 1000, fees := ∅, stats := .zero, htlcs := htlcWorker, payments := paymentWorker
      refused := [], woken := [], sink := .opened 1 }
  have created : create 1000 1 = .ok exporter := if_neg (by decide)
  have undrained : .drainSink ∉ later := by simp [later]
  have handed : exporter.handedAll later = [.node boom, .streamExited "htlc" gone] := by
    decide +kernel
  clear_value exporter
  obtain ⟨waits, _, _, _, polls⟩ := first_errors_wait_in_order created [] later (.inl rfl) undrained
  exact ⟨exporter, created, undrained, handed, waits.trans (congrArg (List.take 1) handed),
    polls node.answers⟩

end Aggregator

end Exporter

end LightningMetrics
