import LightningMetrics.Proofs.Exporter.HtlcMonitoring
import LightningMetrics.Proofs.Exporter.Startup
import LightningMetrics.Proofs.Streaming.FirstRun

/-!
What a start that succeeds is worth. A stop gives a worker the signal to quit for good, and so does
a start that fails at the payments, which stops the HTLC monitor again. A later start is told that
it succeeded, and yet a task of a worker that was given the signal ends at its first run without
having handled an event.
-/

set_option autoImplicit false

namespace LightningMetrics.Exporter

open Streaming

/-- Does the operation give the worker of the stream the signal to quit? -/
def Operation.Signals (kind : StreamKind) (exporter : Aggregator) : Operation → Prop
  | .stop _ _ => True
  | .start choices node =>
      kind = .htlc ∧ (exporter.start choices node.answers).1.1 =
        [.subscribeHtlcEvents, .trackPayments] ∧
      (exporter.start choices node.answers).1.2 ≠ .ok ()
  | _ => False

namespace Aggregator

variable {exporter : Aggregator} {kind other : StreamKind}

/-- Was the worker of the stream given the signal to quit by one of the operations? -/
def Signalled (kind : StreamKind) (created : Aggregator) (operations : List Operation) : Prop :=
  ∃ before operation after, operations = before ++ operation :: after ∧
    operation.Signals kind (created.performAll before)

theorem quit_handing (kind other : StreamKind) (feed : Feed other.Event) :
    ((exporter.handing other feed).worker kind).quit = (exporter.worker kind).quit := by
  unfold handing
  by_cases same : kind = other
  · subst same
    rw [worker_withWorker, Worker.quit_spawn]
  · rw [worker_withWorker_of_ne _ same]

theorem quit_attending (kind other : StreamKind) (feed : Feed other.Event) :
    ((exporter.attending other feed).worker kind).quit = (exporter.worker kind).quit := by
  rw [attending, worker_wake, quit_handing]

theorem quit_stopOne (distinct : exporter.woken.Nodup) (choices : Choices)
    (kind other : StreamKind) :
    ((exporter.stopOne choices other).worker kind).quit = true ↔
      (exporter.worker kind).quit = true ∨ kind = other := by
  by_cases same : kind = other
  · subst same
    rw [worker_stopOne _ distinct]
    have signalled :=
      (Worker.ran_frame kind.handler (choices kind) (exporter.worker kind).signal).2.1
    exact iff_of_true signalled (.inr rfl)
  · rw [or_iff_left same, (exporter.worker_stopOne_of_ne distinct choices same).quit]

theorem quit_start (orderly : exporter.Orderly) (together : exporter.Together) (choices : Choices)
    (node : Node) (kind : StreamKind) :
    ((exporter.start choices node.answers).2.worker kind).quit = true ↔
      (exporter.worker kind).quit = true ∨
        Operation.Signals kind exporter (.start choices node) := by
  have outcome := exporter.start_outcome choices node.answers
  change _ ↔ _ ∨ kind = .htlc ∧ (exporter.start choices node.answers).1.1 =
    [.subscribeHtlcEvents, .trackPayments] ∧ (exporter.start choices node.answers).1.2 ≠ .ok ()
  generalize exporter.start choices node.answers = result at outcome ⊢
  cases outcome with
  | refused _ => simp [worker_refusing]
  | @turnedAway feed _ _ _ =>
      rw [quit_handing]
      simp
  | @rolledBack feed error failed answer free attempt =>
      obtain ⟨_, _, _, rfl⟩ := together.refused_of_attempt free attempt
      obtain ⟨capacity, rfl⟩ := node.opens .htlc feed answer
      rw [quit_stopOne ((orderly.attending .htlc capacity).refusing .payments).distinct,
        worker_refusing, quit_attending]
      simp
  | running _ _ _ _ =>
      rw [quit_attending, quit_attending]
      simp

theorem quit_perform (orderly : exporter.Orderly) (together : exporter.Together)
    (operation : Operation) (kind : StreamKind) :
    ((exporter.perform operation).worker kind).quit = true ↔
      (exporter.worker kind).quit = true ∨ operation.Signals kind exporter := by
  cases operation with
  | start choices node => exact quit_start orderly together choices node kind
  | stop choices later =>
      have distinct := orderly.distinct
      change
        (((exporter.stopOne choices .payments).stopOne later .htlc).worker kind).quit = true ↔ _
      rw [quit_stopOne (exporter.nodup_stopOne distinct choices .payments), quit_stopOne distinct]
      refine iff_of_true ?_ (.inr trivial)
      cases kind with
      | htlc => exact .inr rfl
      | payments => exact .inl (.inr rfl)
  | _ =>
      rw [(exporter.worker_perform orderly.distinct rfl kind).quit]
      exact (or_iff_left id).symm

theorem quit_create {base : UInt64} {sinkCapacity : Nat}
    (created : Aggregator.create base sinkCapacity = .ok exporter) (kind : StreamKind) :
    (exporter.worker kind).quit = false := by
  unfold Aggregator.create at created
  split at created
  · cases created
  · cases created
    cases kind <;> rfl

theorem quit_performAll (orderly : exporter.Orderly) (together : exporter.Together)
    (unsignalled : (exporter.worker kind).quit = false) (operations : List Operation) :
    ((exporter.performAll operations).worker kind).quit = true ↔
      exporter.Signalled kind operations := by
  induction operations using List.reverseRecOn with
  | nil =>
      refine iff_of_false ?_ ?_
      · exact Bool.eq_false_iff.mp unsignalled
      · rintro ⟨before, operation, after, split, _⟩
        exact absurd split.symm (by simp)
  | append_singleton operations last ih =>
      have next := quit_perform (orderly.performAll operations)
        (together.performAll orderly operations) last kind
      rw [performAll_concat, next, ih]
      exact (exists_cut_concat operations last fun before operation _ =>
        operation.Signals kind (exporter.performAll before)).symm

/-! ### The first run after a start -/

/-- The stream has a task on its feed `number` that has not run, with these events to handle from
this state on. -/
structure Holds (exporter : Aggregator) (kind : StreamKind) (number capacity : Nat)
    (events : List kind.Event) (quit : Bool) (state : kind.State) : Prop where
  started : (exporter.worker kind).started = some number
  found : (exporter.worker kind).feeds[number]? = some (.holding capacity events)
  quit : (exporter.worker kind).quit = quit
  state : (exporter.worker kind).state = state
  woken : kind ∈ exporter.woken

variable {number capacity : Nat} {events : List kind.Event} {quit : Bool} {state : kind.State}

theorem holds_attending (free : (exporter.worker kind).started = none) (capacity : Nat) :
    (exporter.attending kind (.opened capacity)).Holds kind (exporter.worker kind).feeds.length
      capacity [] (exporter.worker kind).quit
      (kind.handler.begin (exporter.worker kind).state) := by
  have spawned := Worker.spawn_of_free free kind.handler (Context.opened.handTo (.opened capacity))
  have found : ((exporter.worker kind).spawn kind.handler
      (Context.opened.handTo (.opened capacity))).2.feeds[(exporter.worker kind).feeds.length]? =
        some (.holding capacity []) := by
    rw [spawned]
    exact List.getElem?_concat_length
  have started : ((exporter.worker kind).spawn kind.handler
      (Context.opened.handTo (.opened capacity))).2.started =
        some (exporter.worker kind).feeds.length := by
    rw [spawned]
  refine ⟨?_, ?_, ?_, ?_, ?_⟩
  · rw [worker_attending, started]
  · rw [worker_attending, found]
  · rw [quit_attending]
  · rw [worker_attending, spawned]
  · unfold attending handing
    rw [mem_woken_wake, worker_withWorker]
    have current := Worker.current?_eq_some_iff.mpr ⟨started, found⟩
    exact .inr ⟨rfl, Worker.isLive_of_current? current⟩

/-- What happens to the other stream alone leaves a stream as it is, as long as it stays woken. -/
theorem Holds.of_same {next : Aggregator} (holds : exporter.Holds kind number capacity events quit
    state) (same : next.worker kind = exporter.worker kind) (woken : kind ∈ next.woken) :
    next.Holds kind number capacity events quit state :=
  ⟨same ▸ holds.started, same ▸ holds.found, same ▸ holds.quit, same ▸ holds.state, woken⟩

theorem Holds.attending (holds : exporter.Holds kind number capacity events quit state)
    (apart : kind ≠ other) (feed : Feed other.Event) :
    (exporter.attending other feed).Holds kind number capacity events quit state := by
  refine holds.of_same (exporter.worker_attending_of_ne apart feed) ?_
  unfold Aggregator.attending handing
  rw [mem_woken_wake, woken_withWorker]
  exact .inl holds.woken

theorem woken_deliver {own : StreamKind} (woken : kind ∈ exporter.woken) (number : Nat)
    (delivery : Delivery own.Event) : kind ∈ (exporter.deliver own number delivery).woken := by
  rcases exporter.deliver_cases own number delivery with same | wakes
  · rw [same, woken_withWorker]
    exact woken
  · rw [wakes, mem_woken_wake, woken_withWorker]
    exact .inl woken

/-- Where there is room one more event waits for the task. -/
theorem Holds.deliver (holds : exporter.Holds kind number capacity events quit state)
    (room : events.length < capacity) (event : kind.Event) :
    (exporter.deliver kind number (.event event)).Holds kind number capacity (events ++ [event])
      quit state := by
  have frame := Worker.handed_frame number (.event event) (exporter.worker kind)
  have inside := (List.getElem?_eq_some_iff.mp holds.found).1
  refine ⟨?_, ?_, ?_, ?_, woken_deliver holds.woken number (.event event)⟩
  · rw [worker_deliver, frame.2.1]
    exact holds.started
  · rw [worker_deliver]
    unfold Worker.handed Worker.deliver?
    rw [holds.found, Option.map_some, Feed.deliver_holding room event]
    exact List.getElem?_set_self inside
  · rw [worker_deliver, frame.1]
    exact holds.quit
  · rw [worker_deliver, frame.2.2]
    exact holds.state

/-- The deliveries of events to one feed. -/
def sends (kind : StreamKind) (number : Nat) (events : List kind.Event) : List Operation :=
  events.map fun event => .deliver kind number (.event event)

theorem Holds.sends (holds : exporter.Holds kind number capacity events quit state)
    (more : List kind.Event) (room : (events ++ more).length ≤ capacity) :
    (exporter.performAll (sends kind number more)).Holds kind number capacity (events ++ more)
      quit state := by
  induction more generalizing exporter events with
  | nil =>
      rw [List.append_nil]
      exact holds
  | cons event rest ih =>
      have fits : events.length < capacity := by
        rw [List.length_append, List.length_cons] at room
        omega
      rw [List.append_cons] at room ⊢
      exact ih (holds.deliver fits event) room

theorem Holds.sends_other (holds : exporter.Holds kind number capacity events quit state)
    (apart : kind ≠ other) (own : Nat) (more : List other.Event) :
    (exporter.performAll (Aggregator.sends other own more)).Holds kind number capacity events quit
      state := by
  induction more generalizing exporter with
  | nil => exact holds
  | cons event rest ih =>
      refine ih (holds.of_same ?_ ?_)
      · exact exporter.worker_deliver_of_ne apart own (.event event)
      · exact woken_deliver holds.woken own (.event event)

theorem Holds.run (holds : exporter.Holds kind number capacity events quit state)
    (distinct : exporter.woken.Nodup) (choices : Choices) :
    ((exporter.run choices).worker kind).state =
        ((Feed.holding capacity events).run kind.handler quit (choices kind) state).2 ∧
      ((exporter.run choices).worker kind).feeds[number]? =
        some ((Feed.holding capacity events).run kind.handler quit (choices kind) state).1 := by
  have current := Worker.current?_eq_some_iff.mpr ⟨holds.started, holds.found⟩
  have inside := (List.getElem?_eq_some_iff.mp holds.found).1
  rw [worker_run _ distinct, if_pos holds.woken, Worker.ran_of_live current rfl, holds.quit,
    holds.state]
  exact ⟨rfl, List.getElem?_set_self inside⟩

theorem holds_start {choices : Choices} {answers : NodeAnswers}
    (succeeded : (exporter.start choices answers).1.2 = .ok ())
    (answer : kind.answer answers = .ok (.opened capacity)) :
    (exporter.start choices answers).2.Holds kind (exporter.worker kind).feeds.length capacity []
      (exporter.worker kind).quit (kind.handler.begin (exporter.worker kind).state) := by
  have outcome := exporter.start_outcome choices answers
  generalize exporter.start choices answers = result at outcome succeeded ⊢
  cases outcome with
  | refused | turnedAway | rolledBack => cases succeeded
  | @running feed payments htlcAnswer free paymentAnswer paymentFree =>
      cases kind with
      | htlc =>
          cases htlcAnswer.symm.trans answer
          have apart : StreamKind.htlc ≠ .payments := by decide
          exact (holds_attending free capacity).attending apart payments
      | payments =>
          cases paymentAnswer.symm.trans answer
          have same := exporter.payments_attending feed
          have holds := holds_attending (same ▸ paymentFree) capacity
          rw [same] at holds
          exact holds

end Aggregator

theorem handle_htlcHandler_of_error {tracker : HtlcTracker} {event : HtlcEvent}
    {error : MonitorError} (rejected : tracker.process event = .error error) :
    (htlcHandler.handle tracker event).1 = tracker := by
  unfold htlcHandler
  dsimp only
  rw [rejected]

theorem allAccepted_htlcHandler {events : List HtlcEvent}
    (accepted : ∀ event ∈ events, event.isAccepted = true) (tracker : HtlcTracker) :
    AllAccepted (htlcHandler.answers tracker events) := by
  induction events generalizing tracker with
  | nil =>
      intro note member
      exact absurd member List.not_mem_nil
  | cons event rest ih =>
      intro note member
      rcases List.mem_cons.mp member with rfl | later
      · rcases handle_htlcHandler_cases tracker event with ⟨accept, _⟩ | ⟨_, _, refused, _⟩
        · exact accept
        · rw [accepted event List.mem_cons_self] at refused
          cases refused
      · exact ih (fun other there => accepted other (List.mem_cons_of_mem _ there)) _ note later

/-- The first run of an HTLC task feeds its tracker the events up to the first that is rejected, and
only that one ends it. -/
theorem run_holding_htlcHandler (choices : List Branch) (capacity : Nat) (events : List HtlcEvent)
    (tracker : HtlcTracker) :
    let result := (Feed.holding capacity events).run htlcHandler false choices tracker
    result.2 = tracker.run (events.takeWhile HtlcEvent.isAccepted) ∧
      (result.1.isLive = true ↔ ∀ event ∈ events, event.isAccepted = true) ∧
      (result.1.cancelled = false ↔ ∀ event ∈ events, event.isAccepted = true) := by
  intro result
  have split : events.takeWhile HtlcEvent.isAccepted ++ events.dropWhile HtlcEvent.isAccepted =
      events := List.takeWhile_append_dropWhile
  have taken : ∀ event ∈ events.takeWhile HtlcEvent.isAccepted, event.isAccepted = true :=
    fun event member => List.mem_takeWhile_imp member
  have accepted := allAccepted_htlcHandler taken tracker
  cases left : events.dropWhile HtlcEvent.isAccepted with
  | nil =>
      rw [left, List.append_nil] at split
      rw [split] at taken accepted ⊢
      have ran : result = (Feed.holding capacity [], htlcHandler.after tracker events) :=
        Feed.run_holding_of_accepted htlcHandler choices capacity accepted
      rw [ran, after_htlcHandler]
      exact ⟨rfl, iff_of_true rfl taken, iff_of_true rfl taken⟩
  | cons event rest =>
      have refused : event.isAccepted = false := by
        have head := List.head?_dropWhile_not HtlcEvent.isAccepted events
        rw [left] at head
        simpa using head
      have among : ¬ ∀ other ∈ events, other.isAccepted = true := by
        intro all
        have fine := all event (by rw [← split, left]; simp)
        rw [refused] at fine
        cases fine
      rcases handle_htlcHandler_cases (htlcHandler.after tracker
        (events.takeWhile HtlcEvent.isAccepted)) event with
        ⟨_, fine⟩ | ⟨error, failed, _, processed⟩
      · rw [refused] at fine
        cases fine
      · have ran := Feed.run_holding_of_failed htlcHandler choices capacity accepted failed rest
        rw [← left, split, handle_htlcHandler_of_error processed, after_htlcHandler] at ran
        change result = _ at ran
        rw [ran]
        exact ⟨rfl, iff_of_false nofun among, iff_of_false nofun among⟩

theorem run_holding_paymentHandler (choices : List Branch) (capacity : Nat)
    (payments : List Payment) (metrics : PaymentMetrics) :
    (Feed.holding capacity payments).run paymentHandler false choices metrics =
      (Feed.holding capacity [], payments.foldl PaymentMetrics.record metrics) := by
  have accepted : AllAccepted (paymentHandler.answers metrics payments) := by
    intro note member
    obtain ⟨_, verdict⟩ := paymentHandler.exists_of_mem_answers member
    exact verdict
  exact Feed.run_holding_of_accepted paymentHandler choices capacity accepted

namespace Aggregator

/-- The exporter is started; what the streams then bring is sent to the feeds that the start has
opened, and the tasks run once. -/
def firstRun (exporter : Aggregator) (choices next : Choices) (node : Node)
    (events : List HtlcEvent) (payments : List Payment) : Aggregator :=
  (exporter.start choices node.answers).2.performAll
    (sends .htlc exporter.htlcs.feeds.length events ++
      sends .payments exporter.payments.feeds.length payments ++ [Operation.run next])

theorem holds_sent (exporter : Aggregator) {choices : Choices} {node : Node}
    (succeeded : (exporter.start choices node.answers).1.2 = .ok ())
    {capacity paymentCapacity : Nat}
    (answer : node.answers.htlcEvents = .ok (.opened capacity))
    (paymentAnswer : node.answers.payments = .ok (.opened paymentCapacity))
    (events : List HtlcEvent) (payments : List Payment) (room : events.length ≤ capacity)
    (paymentRoom : payments.length ≤ paymentCapacity) :
    let sent := (exporter.start choices node.answers).2.performAll
      (sends .htlc exporter.htlcs.feeds.length events ++
        sends .payments exporter.payments.feeds.length payments)
    sent.Holds .htlc exporter.htlcs.feeds.length capacity events
        (exporter.worker .htlc).quit exporter.htlcs.state.restart ∧
      sent.Holds .payments exporter.payments.feeds.length paymentCapacity payments
        (exporter.worker .payments).quit exporter.payments.state := by
  intro sent
  have apart : StreamKind.htlc ≠ .payments := by decide
  have split : sent = ((exporter.start choices node.answers).2.performAll
      (sends .htlc exporter.htlcs.feeds.length events)).performAll
        (sends .payments exporter.payments.feeds.length payments) :=
    List.foldl_append
  have htlcs : StreamKind.htlc.answer node.answers = .ok (.opened capacity) := answer
  have paid : StreamKind.payments.answer node.answers = .ok (.opened paymentCapacity) :=
    paymentAnswer
  rw [split]
  exact ⟨((holds_start succeeded htlcs).sends events room).sends_other apart _ payments,
    ((holds_start succeeded paid).sends_other apart.symm _ events).sends payments paymentRoom⟩

theorem firstRun_eq (exporter : Aggregator) (choices next : Choices) (node : Node)
    (events : List HtlcEvent) (payments : List Payment) :
    exporter.firstRun choices next node events payments =
      ((exporter.start choices node.answers).2.performAll
        (sends .htlc exporter.htlcs.feeds.length events ++
          sends .payments exporter.payments.feeds.length payments)).run next :=
  performAll_concat _ _ _

/-- After a start that succeeds, whatever was done before, the first run of the HTLC monitor feeds a
fresh active table the events that were sent to the new subscription, and keeps the metrics; only an
event that is rejected ends it. That is so unless the worker was ever given the signal to quit, by a
stop or by a start that failed at the payments: then the task ends without having handled an event,
and its context is cancelled. The payment monitor is ended so by a stop alone. -/
theorem monitors_after_start {base : UInt64} {sinkCapacity : Nat} {created : Aggregator}
    (new : Aggregator.create base sinkCapacity = .ok created) (operations : List Operation)
    (choices next : Choices) (node : Node)
    (succeeded : ((created.performAll operations).start choices node.answers).1.2 = .ok ())
    {capacity paymentCapacity : Nat}
    (answer : node.answers.htlcEvents = .ok (.opened capacity))
    (paymentAnswer : node.answers.payments = .ok (.opened paymentCapacity))
    (events : List HtlcEvent) (payments : List Payment) (room : events.length ≤ capacity)
    (paymentRoom : payments.length ≤ paymentCapacity) :
    let exporter := created.performAll operations
    let after := exporter.firstRun choices next node events payments
    (¬ created.Signalled .htlc operations →
      after.htlcs.state =
        exporter.htlcs.state.restart.run (events.takeWhile HtlcEvent.isAccepted) ∧
      ∃ feed, after.htlcs.feeds[exporter.htlcs.feeds.length]? = some feed ∧
        (feed.isLive = true ↔ ∀ event ∈ events, event.isAccepted = true) ∧
        (feed.cancelled = false ↔ ∀ event ∈ events, event.isAccepted = true)) ∧
    (created.Signalled .htlc operations →
      after.htlcs.state = exporter.htlcs.state.restart ∧
      ∃ feed, after.htlcs.feeds[exporter.htlcs.feeds.length]? = some feed ∧
        feed.life = .ended .quit ∧ feed.cancelled = true) ∧
    (¬ created.Signalled .payments operations →
      after.payments.state = payments.foldl PaymentMetrics.record exporter.payments.state ∧
      ∃ feed, after.payments.feeds[exporter.payments.feeds.length]? = some feed ∧
        feed.isLive = true ∧ feed.cancelled = false) ∧
    (created.Signalled .payments operations →
      after.payments.state = exporter.payments.state ∧
      ∃ feed, after.payments.feeds[exporter.payments.feeds.length]? = some feed ∧
        feed.life = .ended .quit ∧ feed.cancelled = true) := by
  intro exporter after
  have orderly : exporter.Orderly := (orderly_create new).performAll operations
  have quits (kind : StreamKind) :
      (exporter.worker kind).quit = true ↔ created.Signalled kind operations :=
    quit_performAll (orderly_create new) (together_create new) (quit_create new kind) operations
  have quiet (kind : StreamKind) (unsignalled : ¬ created.Signalled kind operations) :
      (exporter.worker kind).quit = false := by
    rw [← quits kind] at unsignalled
    exact Bool.eq_false_iff.mpr unsignalled
  obtain ⟨htlcs, paid⟩ :=
    exporter.holds_sent succeeded answer paymentAnswer events payments room paymentRoom
  have htlcRun := htlcs.run ((orderly.start choices node).performAll _).distinct next
  have paymentRun := paid.run ((orderly.start choices node).performAll _).distinct next
  rw [← firstRun_eq] at htlcRun paymentRun
  refine ⟨fun unsignalled => ?_, fun signalled => ?_, fun unsignalled => ?_, fun signalled => ?_⟩
  · rw [quiet .htlc unsignalled] at htlcRun
    obtain ⟨state, live, context⟩ :=
      run_holding_htlcHandler (next .htlc) capacity events exporter.htlcs.state.restart
    exact ⟨htlcRun.1.trans state, _, htlcRun.2, live, context⟩
  · rw [(quits .htlc).mpr signalled, Feed.run_holding_of_quit] at htlcRun
    exact ⟨htlcRun.1, _, htlcRun.2, rfl, rfl⟩
  · rw [quiet .payments unsignalled] at paymentRun
    have ran := run_holding_paymentHandler (next .payments) paymentCapacity payments
      exporter.payments.state
    exact ⟨paymentRun.1.trans (congrArg Prod.snd ran), _,
      paymentRun.2.trans (congrArg (fun result => some result.1) ran), rfl, rfl⟩
  · rw [(quits .payments).mpr signalled, Feed.run_holding_of_quit] at paymentRun
    exact ⟨paymentRun.1, _, paymentRun.2, rfl, rfl⟩

/-- The payments are refused at first, so the HTLC monitor has been stopped when both are accepted:
the settlement is not counted and its context is cancelled, while the payment is recorded. Without
the refusal the settlement is counted. -/
theorem monitors_after_start_of_roll_back :
    let gone : NodeError := ⟨.subscribe, "gone"⟩
    let refusing := Node.offering gone 1 fun kind => kind == .htlc
    let accepting := Node.offering gone 1 fun _ => true
    let settled := HtlcTracker.between 12 3 50 .settled
    let paid : Payment := ⟨"f0", .succeeded, 2⟩
    ∃ created, Aggregator.create 1 1 = .ok created ∧
      (let failed := created.performAll [.start .quit refusing]
      let after := failed.firstRun .quit .quit accepting [settled] [paid]
      created.Signalled .htlc [.start .quit refusing] ∧
        (failed.start .quit accepting.answers).1.2 = .ok () ∧
        after.htlcs.state = failed.htlcs.state.restart ∧
        (∃ feed, after.htlcs.feeds[failed.htlcs.feeds.length]? = some feed ∧
          feed.life = .ended .quit ∧ feed.cancelled = true) ∧
        after.payments.state = failed.payments.state.record paid) ∧
      let after := created.firstRun .quit .quit accepting [settled] [paid]
      (created.start .quit accepting.answers).1.2 = .ok () ∧
        after.htlcs.state = HtlcTracker.empty.run [settled] ∧
        ∃ feed, after.htlcs.feeds[created.htlcs.feeds.length]? = some feed ∧
          feed.cancelled = false := by
  intro gone refusing accepting settled paid
  let created : Aggregator :=
    { base := 1, fees := ∅, stats := .zero, htlcs := htlcWorker, payments := paymentWorker,
      refused := [], woken := [], sink := .opened 1 }
  have new : Aggregator.create 1 1 = .ok created := rfl
  have accepted : ∀ event ∈ [settled], event.isAccepted = true := by decide +kernel
  have unsignalled (kind : StreamKind) : ¬ created.Signalled kind [] := by
    rintro ⟨before, operation, after, split, _⟩
    exact absurd split.symm (by simp)
  have paidOn : ¬ created.Signalled .payments [.start .quit refusing] := by
    rintro ⟨before, operation, after, split, signals⟩
    obtain ⟨rfl, rfl, rfl⟩ : before = [] ∧ operation = .start .quit refusing ∧ after = [] := by
      cases before <;> simp_all
    cases signals.1
  have signalled : created.Signalled .htlc [.start .quit refusing] :=
    ⟨[], _, [], rfl, rfl, rfl, nofun⟩
  refine ⟨created, new, ?_, ?_⟩
  · have succeeded : ((created.performAll [.start .quit refusing]).start .quit
        accepting.answers).1.2 = .ok () := by decide +kernel
    obtain ⟨_, silent, recorded, _⟩ := monitors_after_start new [.start .quit refusing] .quit .quit
      accepting succeeded rfl rfl [settled] [paid] (by decide) (by decide)
    exact ⟨signalled, succeeded, (silent signalled).1, (silent signalled).2, (recorded paidOn).1⟩
  · have same : created.performAll [] = created := rfl
    have fresh : created.htlcs.state.restart = HtlcTracker.empty := rfl
    have runs := monitors_after_start new [] .quit .quit accepting
    rw [same] at runs
    have succeeded : (created.start .quit accepting.answers).1.2 = .ok () := rfl
    obtain ⟨counts, _⟩ := runs succeeded rfl rfl [settled] [paid] (by decide) (by decide)
    obtain ⟨state, feed, found, _, context⟩ := counts (unsignalled .htlc)
    rw [List.takeWhile_eq_self_iff.mpr accepted, fresh] at state
    exact ⟨succeeded, state, feed, found, context.mpr accepted⟩

/-- The roll-back of a start that has failed silences the HTLC monitor of the next start, which
succeeds. -/
theorem roll_back_silences_htlcs :
    ¬ ∀ (created : Aggregator) (refusing accepting : Node) (event : HtlcEvent),
      Aggregator.create 1 1 = .ok created →
      (∃ error, refusing.answers.payments = .error error) →
      (created.start .quit refusing.answers).1.2 ≠ .ok () →
      let failed := (created.start .quit refusing.answers).2
      (failed.start .quit accepting.answers).1.2 = .ok () →
        let after := failed.firstRun .quit .quit accepting [event] []
        after.htlcs.state.metrics.resolvedTotal =
            (HtlcTracker.empty.run [event]).metrics.resolvedTotal ∧
          ∀ feed, after.htlcs.feeds[failed.htlcs.feeds.length]? = some feed →
            feed.cancelled = false := by
  intro retries
  have counted := (retries _ (.offering ⟨.subscribe, "gone"⟩ 1 fun kind => kind == .htlc)
    (.offering ⟨.subscribe, "gone"⟩ 1 fun _ => true) (HtlcTracker.between 12 3 50 .settled) rfl
    ⟨_, rfl⟩ nofun (by decide +kernel)).1
  exact absurd counted (by decide +kernel)

end Aggregator

end LightningMetrics.Exporter
