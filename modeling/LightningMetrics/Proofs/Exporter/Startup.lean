import LightningMetrics.Proofs.Exporter.Operations

set_option autoImplicit false

namespace LightningMetrics.Exporter.Aggregator

open Streaming

variable {exporter : Aggregator} {kind other : StreamKind}

/-- Both workers count as started, or neither does. -/
def Together (exporter : Aggregator) : Prop :=
  (exporter.worker .htlc).started.isSome = (exporter.worker .payments).started.isSome

theorem together_create {base : UInt64} {sinkCapacity : Nat}
    (created : Aggregator.create base sinkCapacity = .ok exporter) : exporter.Together := by
  unfold Aggregator.create at created
  split at created
  · cases created
  · cases created
    rfl

theorem Together.of_same {next : Aggregator} (together : exporter.Together)
    (same : ∀ kind, (next.worker kind).started = (exporter.worker kind).started) :
    next.Together := by
  unfold Together
  rw [same, same]
  exact together

theorem started_stopOne (distinct : exporter.woken.Nodup) (choices : Choices)
    (kind other : StreamKind) :
    ((exporter.stopOne choices other).worker kind).started =
      if kind = other then none else (exporter.worker kind).started := by
  by_cases same : kind = other
  · subst same
    rw [if_pos rfl, worker_stopOne _ distinct]
    rfl
  · rw [if_neg same]
    exact (exporter.worker_stopOne_of_ne distinct choices same).started

theorem Together.payments_free (together : exporter.Together)
    (free : (exporter.worker .htlc).started = none) :
    (exporter.worker .payments).started = none := by
  have taskless : (exporter.worker .payments).started.isSome = false := by
    rw [← together, free]
    rfl
  exact Option.not_isSome_iff_eq_none.mp (Bool.eq_false_iff.mp taskless)

/-- Where the HTLC monitor was free so was that of payments, so it is the node that refused. -/
theorem Together.refused_of_attempt (together : exporter.Together) {answers : NodeAnswers}
    {feed : Feed HtlcEvent} {error : MonitorError} {failed : Aggregator}
    (free : (exporter.worker .htlc).started = none)
    (attempt : (exporter.attending .htlc feed).startOne answers .payments =
      (.error error, failed)) :
    ∃ refusal, answers.payments = .error refusal ∧ error = .node refusal ∧
      failed = (exporter.attending .htlc feed).refusing .payments := by
  have paymentFree := together.payments_free free
  have same := exporter.payments_attending feed
  rcases (exporter.attending .htlc feed).startOne_cases answers .payments with
    ⟨refusal, answer, refused⟩ | ⟨_, current, _, started, _⟩ | ⟨_, _, _, running⟩
  · rw [refused] at attempt
    cases attempt
    exact ⟨refusal, answer, rfl, rfl⟩
  · rw [same, paymentFree] at started
    cases started
  · rw [running] at attempt
    cases attempt

/-- A start leaves both monitors as they were, or free, or started. -/
theorem Together.start (together : exporter.Together) (orderly : exporter.Orderly)
    (choices : Choices) (node : Node) : (exporter.start choices node.answers).2.Together := by
  have outcome := exporter.start_outcome choices node.answers
  generalize exporter.start choices node.answers = result at outcome ⊢
  cases outcome with
  | refused _ => exact together.of_same fun kind => by rw [worker_refusing]
  | turnedAway _ started =>
      refine together.of_same fun kind => ?_
      cases kind with
      | htlc => rw [handing, worker_withWorker, Worker.spawn_of_started started]
      | payments => rfl
  | @rolledBack feed error failed answer free attempt =>
      obtain ⟨_, _, _, rfl⟩ := together.refused_of_attempt free attempt
      obtain ⟨capacity, rfl⟩ := node.opens .htlc _ answer
      have distinct := ((orderly.attending .htlc capacity).refusing .payments).distinct
      unfold Together
      rw [started_stopOne distinct, started_stopOne distinct, worker_refusing, worker_refusing,
        payments_attending, together.payments_free free]
      rfl
  | @running feed payments _ free _ paymentFree =>
      have same := exporter.payments_attending feed
      have htlcs : (((exporter.attending .htlc feed).attending .payments payments).worker
          .htlc).started.isSome = true := by
        have apart : StreamKind.htlc ≠ .payments := by decide
        rw [worker_attending_of_ne _ apart, worker_attending, Worker.spawn_of_free free]
        rfl
      have both : (((exporter.attending .htlc feed).attending .payments payments).worker
          .payments).started.isSome = true := by
        rw [worker_attending, same, Worker.spawn_of_free paymentFree]
        rfl
      exact htlcs.trans both.symm

theorem Together.perform (together : exporter.Together) (orderly : exporter.Orderly)
    (operation : Operation) : (exporter.perform operation).Together := by
  cases operation with
  | start choices node => exact together.start orderly choices node
  | stop choices later =>
      have distinct := orderly.distinct
      have distinct' := exporter.nodup_stopOne distinct choices .payments
      change ((exporter.stopOne choices .payments).stopOne later .htlc).Together
      unfold Together
      rw [started_stopOne distinct', started_stopOne distinct', started_stopOne distinct]
      rfl
  | _ =>
      exact together.of_same fun kind =>
        (exporter.worker_perform orderly.distinct rfl kind).started

theorem Together.performAll (together : exporter.Together) (orderly : exporter.Orderly)
    (operations : List Operation) : (exporter.performAll operations).Together := by
  induction operations generalizing exporter with
  | nil => exact together
  | cons operation rest ih =>
      exact ih (together.perform orderly operation) (orderly.perform operation)

theorem Together.start_ok_iff (together : exporter.Together) (choices : Choices)
    (answers : NodeAnswers) :
    (exporter.start choices answers).1.2 = .ok () ↔
      (exporter.worker .htlc).started = none ∧ (exporter.worker .payments).started = none ∧
        (∃ feed, answers.htlcEvents = .ok feed) ∧ ∃ feed, answers.payments = .ok feed := by
  have outcome := exporter.start_outcome choices answers
  generalize exporter.start choices answers = result at outcome ⊢
  cases outcome with
  | refused answer =>
      refine iff_of_false nofun ?_
      rintro ⟨_, _, ⟨feed, accepted⟩, _⟩
      rw [answer] at accepted
      cases accepted
  | turnedAway _ started =>
      refine iff_of_false nofun ?_
      rintro ⟨free, _⟩
      rw [started] at free
      cases free
  | rolledBack _ free attempt =>
      refine iff_of_false nofun ?_
      rintro ⟨_, _, _, feed, accepted⟩
      obtain ⟨refusal, answer, _⟩ := together.refused_of_attempt free attempt
      rw [answer] at accepted
      cases accepted
  | running answer free paymentAnswer paymentFree =>
      exact iff_of_true rfl ⟨free, paymentFree, ⟨_, answer⟩, ⟨_, paymentAnswer⟩⟩

/-- A start of free monitors that fails leaves them free, and stops where the node refused. -/
theorem start_failed_of_free (orderly : exporter.Orderly) (choices : Choices) (node : Node)
    (failed : (exporter.start choices node.answers).1.2 ≠ .ok ())
    (free : (exporter.worker .htlc).started = none) :
    ((exporter.start choices node.answers).2.worker .htlc).started = none ∧
      ∀ refusal, node.answers.htlcEvents = .error refusal →
        (exporter.start choices node.answers).1.1 = [.subscribeHtlcEvents] := by
  have outcome := exporter.start_outcome choices node.answers
  generalize exporter.start choices node.answers = result at outcome failed ⊢
  cases outcome with
  | refused _ => exact ⟨free, fun _ _ => rfl⟩
  | turnedAway _ started =>
      rw [started] at free
      cases free
  | @rolledBack feed _ stopped answer _ attempt =>
      obtain ⟨capacity, rfl⟩ := node.opens .htlc feed answer
      have distinct : stopped.woken.Nodup := by
        have next := (orderly.attending .htlc capacity).startOne node .payments
        rw [attempt] at next
        exact next.distinct
      refine ⟨?_, fun refusal refused => ?_⟩
      · rw [started_stopOne distinct]
        rfl
      · rw [answer] at refused
        cases refused
  | running => exact absurd rfl failed

/-- A start of monitors that were started turns the new subscription away, or the node does, and it
does nothing else. -/
theorem start_failed_of_started (choices : Choices) (node : Node)
    (started : (exporter.worker .htlc).started.isSome = true) :
    ∃ feeds contexts, (exporter.start choices node.answers).2 =
        { exporter with
          htlcs := { exporter.htlcs with feeds := exporter.htlcs.feeds ++ feeds }
          refused := exporter.refused ++ contexts } ∧
      (∀ feed ∈ feeds, feed.isLive = false ∧ feed.cancelled = true) ∧
      ∀ entry ∈ contexts, entry.2.cancelled = true := by
  have outcome := exporter.start_outcome choices node.answers
  generalize exporter.start choices node.answers = result at outcome ⊢
  cases outcome with
  | refused _ =>
      refine ⟨[], [(.htlc, Context.opened.cancel)], ?_,
        fun feed member => absurd member List.not_mem_nil, fun entry member => ?_⟩
      · rw [List.append_nil]
        rfl
      · rw [List.mem_singleton.mp member]
        rfl
  | @turnedAway feed current answer taken =>
      obtain ⟨capacity, rfl⟩ := node.opens .htlc feed answer
      refine ⟨[(Feed.opened capacity).reject], [], ?_, fun other member => ?_,
        fun entry member => absurd member List.not_mem_nil⟩
      · rw [handing, Worker.spawn_of_started taken, List.append_nil]
        rfl
      · rw [List.mem_singleton.mp member]
        exact ⟨rfl, rfl⟩
  | rolledBack _ free _ =>
      rw [free] at started
      cases started
  | running _ free _ _ =>
      rw [free] at started
      cases started

/-! ### Contexts -/

/-- Every context that was opened for a stream: those of the feeds that its worker was handed, and
those of the subscriptions that the node refused. -/
def contexts (exporter : Aggregator) (kind : StreamKind) : List Context :=
  (exporter.worker kind).feeds.map Context.ofFeed ++
    (exporter.refused.filter (·.1 == kind)).map Prod.snd

theorem length_contexts (exporter : Aggregator) (kind : StreamKind) :
    (exporter.contexts kind).length = (exporter.worker kind).feeds.length +
      exporter.refused.countP (·.1 == kind) := by
  simp [contexts, List.countP_eq_length_filter]

theorem length_contexts_handing (exporter : Aggregator) (kind other : StreamKind)
    (feed : Feed other.Event) :
    ((exporter.handing other feed).contexts kind).length =
      (exporter.contexts kind).length + if kind = other then 1 else 0 := by
  rw [length_contexts, length_contexts, handing, refused_withWorker]
  by_cases same : kind = other
  · subst same
    rw [worker_withWorker, Worker.length_feeds_spawn, if_pos rfl]
    omega
  · rw [worker_withWorker_of_ne _ same, if_neg same, Nat.add_zero]

theorem length_contexts_refusing (exporter : Aggregator) (kind other : StreamKind) :
    ((exporter.refusing other).contexts kind).length =
      (exporter.contexts kind).length + if kind = other then 1 else 0 := by
  have counted : (exporter.refusing other).refused.countP (·.1 == kind) =
      exporter.refused.countP (·.1 == kind) + if kind = other then 1 else 0 := by
    change (exporter.refused ++ [(other, _)]).countP _ = _
    rw [List.countP_append, List.countP_singleton]
    cases kind <;> cases other <;> rfl
  rw [length_contexts, length_contexts, worker_refusing, counted, Nat.add_assoc]

theorem contexts_wake (exporter : Aggregator) (kind other : StreamKind) :
    (exporter.wake other).contexts kind = exporter.contexts kind := by
  rw [contexts, worker_wake, refused_wake, contexts]

theorem length_contexts_attending (exporter : Aggregator) (kind other : StreamKind)
    (feed : Feed other.Event) :
    ((exporter.attending other feed).contexts kind).length =
      (exporter.contexts kind).length + if kind = other then 1 else 0 := by
  rw [attending, contexts_wake, length_contexts_handing]

theorem length_contexts_stopOne (distinct : exporter.woken.Nodup) (choices : Choices)
    (kind other : StreamKind) :
    ((exporter.stopOne choices other).contexts kind).length = (exporter.contexts kind).length := by
  rw [length_contexts, length_contexts, refused_stopOne]
  by_cases same : kind = other
  · subst same
    rw [worker_stopOne _ distinct, Worker.length_feeds_stopped]
  · rw [(exporter.worker_stopOne_of_ne distinct choices same).length_feeds]

/-- Each subscription that a start asks for is asked for with a context of its own. -/
theorem Orderly.length_contexts_start (orderly : exporter.Orderly) (choices : Choices)
    (node : Node) (kind : StreamKind) :
    ((exporter.start choices node.answers).2.contexts kind).length =
      (exporter.contexts kind).length +
        (exporter.start choices node.answers).1.1.count kind.call := by
  have outcome := exporter.start_outcome choices node.answers
  generalize exporter.start choices node.answers = result at outcome ⊢
  cases outcome with
  | refused _ =>
      rw [length_contexts_refusing]
      cases kind <;> rfl
  | turnedAway _ _ =>
      rw [length_contexts_handing]
      cases kind <;> rfl
  | @rolledBack feed error failed answer _ attempt =>
      obtain ⟨capacity, rfl⟩ := node.opens .htlc feed answer
      have orderly' := (orderly.attending .htlc capacity).startOne node .payments
      rw [attempt] at orderly'
      rw [length_contexts_stopOne orderly'.distinct]
      rcases (exporter.attending .htlc (.opened capacity)).startOne_cases node.answers
          .payments with ⟨_, _, asked⟩ | ⟨_, _, _, _, asked⟩ | ⟨_, _, _, asked⟩
      · cases attempt.symm.trans asked
        rw [length_contexts_refusing, length_contexts_attending]
        cases kind <;> rfl
      · cases attempt.symm.trans asked
        rw [length_contexts_handing, length_contexts_attending]
        cases kind <;> rfl
      · cases attempt.symm.trans asked
  | running _ _ _ _ =>
      rw [length_contexts_attending, length_contexts_attending]
      cases kind <;> rfl

theorem Orderly.cancelled_of_free (orderly : exporter.Orderly)
    (free : (exporter.worker kind).started = none) {context : Context}
    (member : context ∈ exporter.contexts kind) : context.cancelled = true := by
  rcases List.mem_append.mp member with fed | refused
  · obtain ⟨feed, there, rfl⟩ := List.mem_map.mp fed
    exact ((orderly.reached kind).over_of_free free there).2
  · obtain ⟨entry, there, rfl⟩ := List.mem_map.mp refused
    exact orderly.settled entry (List.mem_of_mem_filter there)

/-- Whatever is done to an exporter, in whatever order and with whatever answers of the node, its
workers are started together. A start succeeds exactly where neither was started and the node
accepts both subscriptions, and it opens one context for each that it asks for. Where it fails and
nothing was started nothing is, no task is alive and every context is cancelled, also that of a
subscription that the node refused, and the node is not asked for payments once it has refused the
HTLC events. Where it fails and the monitors were started already all that is new is over. -/
theorem start_all_or_nothing {base : UInt64} {sinkCapacity : Nat} {created : Aggregator}
    (new : Aggregator.create base sinkCapacity = .ok created) (operations : List Operation) :
    let exporter := created.performAll operations
    (exporter.htlcs.started.isSome ↔ exporter.payments.started.isSome) ∧
    ∀ (choices : Choices) (node : Node),
      let attempt := exporter.start choices node.answers
      let after := attempt.2
      (attempt.1.2 = .ok () ↔
        exporter.htlcs.started = none ∧ exporter.payments.started = none ∧
          (∃ feed, node.answers.htlcEvents = .ok feed) ∧
          ∃ feed, node.answers.payments = .ok feed) ∧
      (∀ kind, (after.contexts kind).length =
        (exporter.contexts kind).length + attempt.1.1.count kind.call) ∧
      (attempt.1.2 ≠ .ok () → exporter.htlcs.started = none →
        after.htlcs.started = none ∧ after.payments.started = none ∧
        (∀ kind, (∀ feed ∈ (after.worker kind).feeds, feed.isLive = false) ∧
          ∀ context ∈ after.contexts kind, context.cancelled = true) ∧
        ∀ refusal, node.answers.htlcEvents = .error refusal →
          attempt.1.1 = [.subscribeHtlcEvents]) ∧
      (attempt.1.2 ≠ .ok () → exporter.htlcs.started.isSome →
        ∃ feeds contexts,
          after = { exporter with
            htlcs := { exporter.htlcs with feeds := exporter.htlcs.feeds ++ feeds }
            refused := exporter.refused ++ contexts } ∧
          (∀ feed ∈ feeds, feed.isLive = false ∧ feed.cancelled = true) ∧
          ∀ entry ∈ contexts, entry.2.cancelled = true) := by
  intro exporter
  have orderly : exporter.Orderly := (orderly_create new).performAll operations
  have together : exporter.Together :=
    (together_create new).performAll (orderly_create new) operations
  refine ⟨Bool.eq_iff_iff.mp together, fun choices node => ?_⟩
  intro attempt after
  refine ⟨together.start_ok_iff choices node.answers, orderly.length_contexts_start choices node,
    fun failed free => ?_, fun _ started => start_failed_of_started choices node started⟩
  obtain ⟨htlcs, calls⟩ := start_failed_of_free orderly choices node failed free
  have orderly' : after.Orderly := orderly.start choices node
  have together' : after.Together := together.start orderly choices node
  have payments := together'.payments_free htlcs
  refine ⟨htlcs, payments, fun kind => ?_, calls⟩
  have unattended : (after.worker kind).started = none := by
    cases kind with
    | htlc => exact htlcs
    | payments => exact payments
  exact ⟨fun feed member => ((orderly'.reached kind).over_of_free unattended member).1,
    fun context member => orderly'.cancelled_of_free unattended member⟩

/-- The node refuses the payments after it has accepted the HTLC events. Then it accepts both, and
the next start after that comes too late. -/
theorem start_all_or_nothing_of_refused_payments :
    let gone : NodeError := ⟨.subscribe, "gone"⟩
    let refusing := Node.offering gone 1 fun kind => kind == .htlc
    let accepting := Node.offering gone 1 fun _ => true
    ∃ created, Aggregator.create 1 1 = .ok created ∧
      (let attempt := created.start .quit refusing.answers
      attempt.1.2 = .error (.node gone) ∧ created.htlcs.started = none ∧
        attempt.2.htlcs.started = none ∧ attempt.2.htlcs.feeds.length = 1 ∧
        attempt.2.contexts .htlc = [⟨true⟩] ∧ attempt.2.contexts .payments = [⟨true⟩]) ∧
      let running := created.performAll
        [.start .quit refusing, .start .quit accepting]
      let attempt := running.start .quit accepting.answers
      attempt.1.2 = .error (.alreadyStarted "htlc") ∧ running.htlcs.started = some 1 ∧
        ∃ feeds, attempt.2.htlcs.feeds = running.htlcs.feeds ++ feeds ∧
          ∀ feed ∈ feeds, feed.isLive = false ∧ feed.cancelled = true := by
  intro gone refusing accepting
  obtain ⟨created, new⟩ : ∃ created, Aggregator.create 1 1 = .ok created := ⟨_, rfl⟩
  obtain ⟨_, starts⟩ := start_all_or_nothing new []
  obtain ⟨_, late⟩ := start_all_or_nothing new
    [.start .quit refusing, .start .quit accepting]
  cases new
  refine ⟨_, rfl, ?_, ?_⟩
  · intro attempt
    have failed : attempt.1.2 = .error (.node gone) := rfl
    obtain ⟨_, counts, nothing, _⟩ := starts .quit refusing
    obtain ⟨free, _, ended, _⟩ := nothing (failed ▸ nofun) rfl
    exact ⟨failed, rfl, free, by decide +kernel, by decide +kernel, by decide +kernel⟩
  · intro running attempt
    have started : running.htlcs.started = some 1 := by decide +kernel
    have failed : attempt.1.2 = .error (.alreadyStarted "htlc") := by decide +kernel
    obtain ⟨_, _, _, tooLate⟩ := late .quit accepting
    obtain ⟨feeds, _, same, ended, _⟩ := tooLate (failed ▸ nofun) (by rw [started]; rfl)
    exact ⟨failed, started, feeds, congrArg (fun next => next.htlcs.feeds) same, ended⟩

end LightningMetrics.Exporter.Aggregator
