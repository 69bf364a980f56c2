import LightningMetrics.Exporter.Monitors
import LightningMetrics.Proofs.Htlc.History
import LightningMetrics.Proofs.Streaming.Contexts
import LightningMetrics.Proofs.Streaming.Replay
import LightningMetrics.Proofs.Streaming.Reporting

set_option autoImplicit false

namespace LightningMetrics.Exporter

open Streaming

/-- The HTLC monitor, not yet started, with the sink that it reports to. A start is a spawn on the
subscription that the node has opened for it. -/
def htlcMonitor (sinkCapacity : Nat) : Session HtlcEvent HtlcTracker :=
  ⟨htlcWorker, .opened sinkCapacity⟩

theorem after_htlcHandler (tracker : HtlcTracker) (events : List HtlcEvent) :
    htlcHandler.after tracker events = tracker.run events := by
  have fed (tracker : HtlcTracker) (event : HtlcEvent) :
      (htlcHandler.handle tracker event).1 = tracker.feed event := by
    unfold htlcHandler HtlcTracker.feed
    dsimp only
    cases tracker.process event <;> rfl
  unfold Handler.after HtlcTracker.run
  simp only [fed]

/-- The task goes on after an event that trackers accept, and fails with the error of one that
they reject. -/
theorem handle_htlcHandler_cases (tracker : HtlcTracker) (event : HtlcEvent) :
    (htlcHandler.handle tracker event).2 = .accept ∧ event.isAccepted = true ∨
      ∃ error, (htlcHandler.handle tracker event).2 = .fail error ∧ event.isAccepted = false ∧
        tracker.process event = .error error := by
  have accepted := tracker.isOk_process event
  unfold htlcHandler
  dsimp only
  cases processed : tracker.process event with
  | ok next =>
      rw [processed] at accepted
      exact .inl ⟨rfl, accepted.symm⟩
  | error error =>
      rw [processed] at accepted
      exact .inr ⟨error, rfl, accepted.symm, rfl⟩

theorem verdict_of_handled {monitor : Session HtlcEvent HtlcTracker}
    {steps : List (Step HtlcEvent)} {number : Nat} {event : HtlcEvent} {verdict : Verdict}
    (handled : .handled event verdict ∈ ofFeed number (monitor.history htlcHandler steps)) :
    verdict = .accept ∧ event.isAccepted = true ∨
      ∃ error, verdict = .fail error ∧ event.isAccepted = false ∧
        (∀ tracker : HtlcTracker, tracker.process event = .error error) ∧
        (error = .unknownEventType event.key ∨ error = .unlabeledFailure event.key) := by
  obtain ⟨tracker, rfl⟩ := monitor.answered_of_handled htlcHandler steps handled
  rcases handle_htlcHandler_cases tracker event with accepted | ⟨error, failed, refused, processed⟩
  · exact .inl accepted
  · exact .inr ⟨error, failed, refused, HtlcTracker.process_error processed⟩

/-- While the monitor has started one task at most its tracker is a fresh one that was fed what the
task has handled. -/
theorem state_htlcMonitor (sinkCapacity : Nat) (steps : List (Step HtlcEvent)) {number : Nat}
    (only : ServesOnly number ((htlcMonitor sinkCapacity).history htlcHandler steps)) :
    ((htlcMonitor sinkCapacity).steps htlcHandler steps).2.worker.state =
      HtlcTracker.empty.run ((Happening.notes (ofFeed number
        ((htlcMonitor sinkCapacity).history htlcHandler steps))).map Prod.fst) := by
  have faithful := Session.faithful_history htlcHandler "htlc" HtlcTracker.empty sinkCapacity steps
  obtain ⟨begun, unbegun⟩ := faithful.state_of_servesOnly only htlcHandler HtlcTracker.empty
  refine (Session.replay_steps htlcHandler _ steps).trans ?_
  by_cases spawned : .spawned ∈ ofFeed number ((htlcMonitor sinkCapacity).history htlcHandler steps)
  · exact (begun spawned).trans (after_htlcHandler _ _)
  · obtain ⟨kept, unhandled⟩ := unbegun spawned
    refine kept.trans ?_
    exact (congrArg (fun notes => HtlcTracker.empty.run (notes.map Prod.fst)) unhandled).symm

/-- An event that a tracker rejects is the last that the task handles, and its end. -/
theorem ended_of_rejected {monitor : Session HtlcEvent HtlcTracker}
    {steps : List (Step HtlcEvent)} {name : String} {number : Nat}
    (faithful : (monitor.steps htlcHandler steps).2.Faithful name
      (monitor.history htlcHandler steps))
    {before after : List HtlcEvent} {event : HtlcEvent} {tracker : HtlcTracker}
    {error : MonitorError}
    (taken : (Happening.notes (ofFeed number (monitor.history htlcHandler steps))).map Prod.fst =
      before ++ event :: after)
    (rejected : tracker.process event = .error error) :
    after = [] ∧ .ended (.handlerError error) ∈ ofFeed number (monitor.history htlcHandler steps) ∧
      ∃ feed, (monitor.steps htlcHandler steps).2.worker.feeds[number]? = some feed ∧
        feed.isLive = false := by
  have unaccepted : event.isAccepted = false := by
    rw [← tracker.isOk_process event, rejected]
    rfl
  -- A verdict of acceptance would have been on an event that trackers accept.
  have notAmong {notes : List (HtlcEvent × Verdict)} (accepted : AllAccepted notes)
      (among : ∀ note ∈ notes,
        note ∈ Happening.notes (ofFeed number (monitor.history htlcHandler steps))) :
      event ∉ notes.map Prod.fst := by
    intro member
    obtain ⟨⟨_, verdict⟩, noted, rfl⟩ := List.mem_map.mp member
    have accept : verdict = .accept := accepted _ noted
    subst accept
    rcases verdict_of_handled (Happening.mem_notes.mp (among _ noted)) with
      ⟨_, fine⟩ | ⟨_, failed, _⟩
    · rw [unaccepted] at fine
      cases fine
    · cases failed
  rcases faithful.accepted_or_faulted number with
    accepted | ⟨exit, verdict, feed, ended, gives, fault, found, still⟩
  · refine absurd ?_ (notAmong accepted fun _ member => member)
    rw [taken]
    exact List.mem_append_right _ List.mem_cons_self
  · obtain ⟨accepted, last, _, allAccepted, notes, _⟩ := fault
    rw [notes, List.map_append] at taken
    rcases (exists_cut_concat (accepted.map Prod.fst) last fun _ here later =>
      here = event ∧ later = after).mp ⟨before, event, after, taken, rfl, rfl⟩ with
      ⟨earlier, _, later, split, rfl, _⟩ | ⟨rfl, rfl⟩
    · refine absurd ?_ (notAmong allAccepted fun note member => ?_)
      · rw [split]
        exact List.mem_append_right _ List.mem_cons_self
      · rw [notes]
        exact List.mem_append_left _ member
    have handled : .handled last verdict ∈ ofFeed number (monitor.history htlcHandler steps) := by
      rw [← Happening.mem_notes, notes]
      exact List.mem_append_right _ (List.mem_singleton_self _)
    refine ⟨rfl, ?_, feed, found, still⟩
    rcases verdict_of_handled handled with ⟨_, fine⟩ | ⟨error', rfl, _, refuses, _⟩
    · rw [unaccepted] at fine
      cases fine
    · have same : error' = error := by
        have both := (refuses tracker).symm.trans rejected
        cases both
        rfl
      cases gives
      exact same ▸ ended

/-- What comes after the end of the task does not reach the tracker. -/
theorem state_htlcMonitor_of_ended (sinkCapacity : Nat) (steps later : List (Step HtlcEvent))
    {number : Nat} {exit : Exit}
    (only : ServesOnly number ((htlcMonitor sinkCapacity).history htlcHandler steps))
    (onlyLater : ServesOnly number
      ((htlcMonitor sinkCapacity).history htlcHandler (steps ++ later)))
    (ended : .ended exit ∈ ofFeed number ((htlcMonitor sinkCapacity).history htlcHandler steps)) :
    ((htlcMonitor sinkCapacity).steps htlcHandler (steps ++ later)).2.worker.state =
      ((htlcMonitor sinkCapacity).steps htlcHandler steps).2.worker.state := by
  have faithful := Session.faithful_history htlcHandler "htlc" HtlcTracker.empty sinkCapacity
    (steps ++ later)
  have history := (htlcMonitor sinkCapacity).history_append htlcHandler steps later
  change Session.Faithful "htlc" _ ((htlcMonitor sinkCapacity).history htlcHandler
    (steps ++ later)) at faithful
  rw [history] at faithful
  rw [state_htlcMonitor sinkCapacity _ onlyLater, state_htlcMonitor sinkCapacity _ only, history,
    faithful.notes_of_ended ended]

/-- No error of a tracker reads like the end of a stream, so where that is reported the stream has
ended. -/
theorem ended_of_terminated {monitor : Session HtlcEvent HtlcTracker}
    {steps : List (Step HtlcEvent)} {name : String} {number : Nat}
    (faithful : (monitor.steps htlcHandler steps).2.Faithful name
      (monitor.history htlcHandler steps))
    (reported : .reported (.streamTerminated name) ∈
      ofFeed number (monitor.history htlcHandler steps)) :
    .ended .streamEnded ∈ ofFeed number (monitor.history htlcHandler steps) := by
  obtain ⟨conduct, run, _⟩ := faithful.feeds number
  refine run.ended_of_terminated reported fun event handled => ?_
  rcases verdict_of_handled handled with ⟨accept, _⟩ | ⟨_, same, _, _, reason⟩
  · cases accept
  · cases same
    rcases reason with impossible | impossible <;> cases impossible

/-- Whatever is done to a monitor of which at most one start has succeeded, at every moment its
metrics are those of a fresh tracker that was fed the first of the events whose send was accepted.
An event that is rejected is the last of them: the monitor reports that error and no other, the
subscription is cancelled, and nothing that is done later changes the metrics. If the stream has
ended the tracker was fed all of the events. -/
theorem htlc_monitor_refines_tracker (sinkCapacity number : Nat) (steps : List (Step HtlcEvent)) :
    let start := htlcMonitor sinkCapacity
    let session := (start.steps htlcHandler steps).2
    let past := start.history htlcHandler steps
    let own := ofFeed number past
    let taken := (Happening.notes own).map Prod.fst
    ServesOnly number past →
      taken <+: Happening.sent own ∧
      session.worker.state.metrics = (HtlcTracker.empty.run taken).metrics ∧
      (∀ before event after (tracker : HtlcTracker) error, taken = before ++ event :: after →
        tracker.process event = .error error →
          after = [] ∧
          (error = .unknownEventType event.key ∨ error = .unlabeledFailure event.key) ∧
          Happening.reports own = [error] ∧
          (start.HasStep htlcHandler steps fun before step =>
            (before.step htlcHandler step).2.sink = Sink.report before.sink error) ∧
          (∃ feed, session.worker.feeds[number]? = some feed ∧ feed.cancelled = true) ∧
          ∀ later, ServesOnly number (start.history htlcHandler (steps ++ later)) →
            (start.steps htlcHandler (steps ++ later)).2.worker.state.metrics =
              session.worker.state.metrics) ∧
      (.reported (.streamTerminated "htlc") ∈ own → taken = Happening.sent own) := by
  intro start session past own taken only
  have faithful : session.Faithful "htlc" past :=
    Session.faithful_history htlcHandler "htlc" .empty sinkCapacity steps
  have state : session.worker.state = HtlcTracker.empty.run taken :=
    state_htlcMonitor sinkCapacity steps only
  obtain ⟨conduct, run, shows⟩ := faithful.feeds number
  refine ⟨run.balanced.order, congrArg HtlcTracker.metrics state, ?_, fun terminated => ?_⟩
  · intro before event after tracker error split rejected
    obtain ⟨last, ended, feed, found, still⟩ := ended_of_rejected faithful split rejected
    have reports : Happening.reports own = [error] :=
      (run.singleCause shows.paused).ofExit _ ended
    have reported : .reported error ∈ own := by
      rw [← Happening.mem_reports, reports]
      exact List.mem_singleton_self error
    have tracked := Session.tracked_steps htlcHandler "htlc" HtlcTracker.empty sinkCapacity steps
      number feed found
    exact ⟨last, (HtlcTracker.process_error rejected).2, reports,
      start.handed_of_reported htlcHandler steps reported,
      ⟨feed, found, tracked.cancelled.mpr (.inr still)⟩,
      fun later onlyLater => congrArg HtlcTracker.metrics
        (state_htlcMonitor_of_ended sinkCapacity steps later only onlyLater ended)⟩
  · exact (run.balanced.settled_of_ended (ended_of_terminated faithful terminated)).2

/-- A stop that handles one of the two events that wait, once the errors are closed, and then
quits. -/
example :
    let opening := HtlcTracker.between 12 3 50 .forwarded
    let steps : List (Step HtlcEvent) := [.spawn 2, .deliver 0 (.event opening),
      .deliver 0 (.event (HtlcTracker.between 12 3 90 .settled)), .deliver 0 .closeErrors,
      .stop [.quit, .events, .quit]]
    (Happening.notes (ofFeed 0 ((htlcMonitor 1).history htlcHandler steps))).map Prod.fst =
      [opening] := by
  decide +kernel

/-- The second of three events is a failure without a reason. The third was accepted by the channel
and is never handled, and neither a stop nor a later event changes the metrics. -/
theorem htlc_monitor_stops_at_unlabeled_failure :
    let opening := HtlcTracker.between 12 3 50 .forwarded
    let blank := HtlcTracker.between 12 3 70 (.failedHere " ")
    let steps : List (Step HtlcEvent) := [.spawn 3, .deliver 0 (.event opening),
      .deliver 0 (.event blank), .deliver 0 (.event (HtlcTracker.between 12 3 90 .settled)),
      .run []]
    let later : List (Step HtlcEvent) := [.deliver 0 (.event opening), .stop []]
    let start := htlcMonitor 1
    let own := ofFeed 0 (start.history htlcHandler steps)
    ServesOnly 0 (start.history htlcHandler steps) ∧
      (Happening.notes own).map Prod.fst = [opening, blank] ∧
      HtlcTracker.empty.process blank = .error (.unlabeledFailure blank.key) ∧
      (start.steps htlcHandler steps).2.worker.state.metrics =
        (HtlcTracker.empty.run [opening, blank]).metrics ∧
      Happening.reports own = [.unlabeledFailure blank.key] ∧
      ServesOnly 0 (start.history htlcHandler (steps ++ later)) ∧
      (start.steps htlcHandler (steps ++ later)).2.worker.state.metrics =
        (start.steps htlcHandler steps).2.worker.state.metrics := by
  intro opening blank steps later start own
  have onlyFirst {past : List (Nat × Happening HtlcEvent)} (first : ∀ entry ∈ past, entry.1 = 0) :
      ServesOnly 0 past := fun _ spawned => first _ (mem_ofFeed.mp spawned)
  have only : ServesOnly 0 (start.history htlcHandler steps) := onlyFirst (by decide +kernel)
  have onlyLater : ServesOnly 0 (start.history htlcHandler (steps ++ later)) :=
    onlyFirst (by decide +kernel)
  have taken : (Happening.notes own).map Prod.fst = [opening, blank] := by decide +kernel
  have rejected : HtlcTracker.empty.process blank = .error (.unlabeledFailure blank.key) := by rfl
  obtain ⟨_, metrics, rejects, _⟩ := htlc_monitor_refines_tracker 1 0 steps only
  obtain ⟨_, _, reports, _, _, kept⟩ := rejects [opening] blank [] _ _ taken rejected
  exact ⟨only, taken, rejected, metrics.trans (congrArg _ (congrArg _ taken)), reports, onlyLater,
    kept later onlyLater⟩

end LightningMetrics.Exporter
