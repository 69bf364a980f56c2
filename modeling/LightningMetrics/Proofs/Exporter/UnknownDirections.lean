import LightningMetrics.Proofs.Exporter.HtlcMonitoring

set_option autoImplicit false

namespace LightningMetrics

namespace HtlcTracker

variable {event : HtlcEvent}

theorem process_of_unknown_resolution (unknown : event.direction = .unknown)
    (resolves : event.isResolution = true) (tracker : HtlcTracker) :
    tracker.process event = .error (.unknownEventType event.key) := by
  obtain ⟨detail, stage⟩ := Option.isSome_iff_exists.mp resolves
  have refused : event.resolution detail = .error (.unknownEventType event.key) := by
    unfold HtlcEvent.resolution
    rw [unknown]
    rfl
  have taken : tracker.active.step event = .error (.unknownEventType event.key) := by
    unfold ActiveTable.step
    rw [stage]
    dsimp only
    rw [refused]
  unfold process
  rw [taken]

theorem feed_of_unknown_resolution (unknown : event.direction = .unknown)
    (resolves : event.isResolution = true) (tracker : HtlcTracker) :
    tracker.feed event = tracker := by
  unfold feed
  rw [process_of_unknown_resolution unknown resolves]

/-- What resolves nothing is accepted, and a forward of unknown direction opens an entry as any
other does. -/
theorem process_of_unknown_forward (unknown : event.direction = .unknown)
    (idle : event.isResolution = false) (tracker : HtlcTracker) :
    tracker.process event = .ok
      { tracker with
        active :=
          if event.stage = .forwarded then tracker.active.insertIfNew event.key event.time
          else tracker.active } := by
  have towards : event.direction ≠ .receive := by
    rw [unknown]
    exact nofun
  have opened : tracker.active.forward event =
      tracker.active.insertIfNew event.key event.time := if_neg towards
  obtain ⟨_, taken⟩ | ⟨_, _, stage, _⟩ | ⟨_, _, stage, _⟩ := tracker.active.step_cases event
  · unfold process
    rw [taken, opened]
  all_goals
    rw [HtlcEvent.isResolution, stage] at idle
    cases idle

theorem opens_of_openingOf? {key : HtlcKey} {events : List HtlcEvent}
    (opening : openingOf? key events = some event) : event ∈ events ∧ event.opens key = true := by
  unfold openingOf? at opening
  have kept := List.mem_of_find?_eq_some opening
  have opens := List.find?_some opening
  exact ⟨(List.rtakeWhile_suffix _ events).subset kept, opens⟩

theorem forward_of_active {key : HtlcKey} {events : List HtlcEvent} {time : UInt64}
    (active : (empty.run events).active[key]? = some time) :
    ∃ opening ∈ events, openingOf? key events = some opening ∧ opening.key = key ∧
      opening.time = time ∧ opening.stage = .forwarded ∧
      (opening.direction = .send ∨ opening.direction = .forward ∨
        opening.direction = .unknown) := by
  rw [getElem?_active_run] at active
  obtain ⟨opening, found, time⟩ := Option.map_eq_some_iff.mp active
  obtain ⟨member, opens⟩ := opens_of_openingOf? found
  simp only [HtlcEvent.opens, Bool.and_eq_true, beq_iff_eq, bne_iff_ne] at opens
  obtain ⟨⟨own, forwarded⟩, towards⟩ := opens
  refine ⟨opening, member, found, own, time, forwarded, ?_⟩
  cases direction : opening.direction with
  | receive => exact absurd direction towards
  | send => exact .inl rfl
  | forward => exact .inr (.inl rfl)
  | unknown => exact .inr (.inr rfl)

end HtlcTracker

namespace Exporter

open Streaming

/-- A monitor that handles an event that trackers reject reports its error and no other, and is
over with it. -/
theorem over_of_handled_rejected (sinkCapacity number : Nat) (steps : List (Step HtlcEvent))
    {event : HtlcEvent} {verdict : Verdict} {error : MonitorError}
    (rejected : HtlcTracker.empty.process event = .error error)
    (handled : .handled event verdict ∈
      ofFeed number ((htlcMonitor sinkCapacity).history htlcHandler steps)) :
    let start := htlcMonitor sinkCapacity
    let own := ofFeed number (start.history htlcHandler steps)
    verdict = .fail error ∧ .ended (.handlerError error) ∈ own ∧
      Happening.reports own = [error] ∧
      (start.HasStep htlcHandler steps fun before step =>
        (before.step htlcHandler step).2.sink = Sink.report before.sink error) ∧
      ∃ feed, (start.steps htlcHandler steps).2.worker.feeds[number]? = some feed ∧
        feed.isLive = false ∧ feed.cancelled = true := by
  intro start own
  have faithful : (start.steps htlcHandler steps).2.Faithful "htlc"
      (start.history htlcHandler steps) :=
    Session.faithful_history htlcHandler "htlc" .empty sinkCapacity steps
  have noted : event ∈ (Happening.notes own).map Prod.fst :=
    List.mem_map_of_mem (Happening.mem_notes.mpr handled)
  obtain ⟨before, after, taken⟩ := List.append_of_mem noted
  obtain ⟨_, ended, feed, found, still⟩ := ended_of_rejected faithful taken rejected
  obtain ⟨conduct, run, shows⟩ := faithful.feeds number
  have reports : Happening.reports own = [error] := (run.singleCause shows.paused).ofExit _ ended
  have reported : .reported error ∈ own := by
    rw [← Happening.mem_reports, reports]
    exact List.mem_singleton_self error
  have tracked := Session.tracked_steps htlcHandler "htlc" HtlcTracker.empty sinkCapacity steps
    number feed found
  refine ⟨?_, ended, reports, start.handed_of_reported htlcHandler steps reported,
    feed, found, still, tracked.cancelled.mpr (.inr still)⟩
  rcases verdict_of_handled handled with ⟨_, accepted⟩ | ⟨reason, failed, _, refuses, _⟩
  · rw [← HtlcTracker.empty.isOk_process event, rejected] at accepted
    cases accepted
  · have same := (refuses HtlcTracker.empty).symm.trans rejected
    cases same
    exact failed

/-- A subscription that brought an event that trackers reject does not outlive the next run. -/
theorem over_of_sent_rejected (sinkCapacity number : Nat) (steps : List (Step HtlcEvent))
    (choices : List Branch) {event : HtlcEvent} {error : MonitorError}
    (rejected : HtlcTracker.empty.process event = .error error)
    (sent : event ∈ Happening.sent
      (ofFeed number ((htlcMonitor sinkCapacity).history htlcHandler steps))) :
    ∃ feed, ((htlcMonitor sinkCapacity).steps htlcHandler
        (steps ++ [.run choices])).2.worker.feeds[number]? = some feed ∧
      feed.isLive = false ∧ feed.cancelled = true := by
  have faithful := Session.faithful_history htlcHandler "htlc" HtlcTracker.empty sinkCapacity steps
  have tracked := Session.tracked_steps htlcHandler "htlc" HtlcTracker.empty sinkCapacity
    (steps ++ [.run choices]) number
  change Session.Faithful "htlc" ((htlcMonitor sinkCapacity).steps htlcHandler steps).2
    ((htlcMonitor sinkCapacity).history htlcHandler steps) at faithful
  change ∀ feed, ((htlcMonitor sinkCapacity).steps htlcHandler
    (steps ++ [.run choices])).2.worker.feeds[number]? = some feed →
      Session.Tracked htlcHandler (htlcMonitor sinkCapacity) (steps ++ [.run choices]) number feed
    at tracked
  have known : number < ((htlcMonitor sinkCapacity).steps htlcHandler
      steps).2.worker.feeds.length := by
    by_contra unknown
    rw [faithful.ofFeed_of_unknown (Nat.not_lt.mp unknown)] at sent
    cases sent
  have known' := Session.lt_length_step htlcHandler _ known (.run choices)
  obtain ⟨feed, found⟩ : ∃ feed, (((htlcMonitor sinkCapacity).steps htlcHandler steps).2.step
      htlcHandler (.run choices)).2.worker.feeds[number]? = some feed :=
    ⟨_, List.getElem?_eq_getElem known'⟩
  have still : feed.isLive = false := by
    by_contra live
    rw [Bool.not_eq_false] at live
    obtain ⟨accepted, handled⟩ := faithful.accepted_of_live_run htlcHandler choices found live
    have noted : event ∈ (Happening.notes (ofFeed number
        ((htlcMonitor sinkCapacity).history htlcHandler steps ++
          ((htlcMonitor sinkCapacity).steps htlcHandler steps).2.happenings htlcHandler
            (.run choices)))).map Prod.fst := by
      rw [handled, ofFeed_append, Happening.sent_append]
      exact List.mem_append_left _ sent
    rw [← Session.history_concat] at noted accepted
    obtain ⟨⟨_, verdict⟩, member, rfl⟩ := List.mem_map.mp noted
    have accept : verdict = .accept := accepted _ member
    have failed := (over_of_handled_rejected sinkCapacity number (steps ++ [.run choices]) rejected
      (Happening.mem_notes.mp member)).1
    rw [accept] at failed
    cases failed
  rw [← Session.steps_concat] at found
  exact ⟨feed, found, still, (tracked feed found).cancelled.mpr (.inr still)⟩

/-- A resolution of unknown direction is rejected in every state of the tracker and changes nothing;
a monitor that handles one reports it and is over, and none outlives the run after its send. A
forward of unknown direction is accepted: it changes no metric, and opens an entry where there is
none. So every active HTLC was opened by a forward that was sent, forwarded or of unknown
direction. -/
theorem unknown_directions (event : HtlcEvent) (unknown : event.direction = .unknown) :
    (event.isResolution = true →
      (∀ tracker : HtlcTracker,
        tracker.process event = .error (.unknownEventType event.key) ∧
        tracker.feed event = tracker) ∧
      ∀ (sinkCapacity number : Nat) (steps : List (Step HtlcEvent)),
        let start := htlcMonitor sinkCapacity
        let own := ofFeed number (start.history htlcHandler steps)
        let finished (feeds : List (Feed HtlcEvent)) := ∃ feed, feeds[number]? = some feed ∧
          feed.isLive = false ∧ feed.cancelled = true
        (∀ verdict, .handled event verdict ∈ own →
          .ended (.handlerError (.unknownEventType event.key)) ∈ own ∧
          Happening.reports own = [.unknownEventType event.key] ∧
          (start.HasStep htlcHandler steps fun before step =>
            (before.step htlcHandler step).2.sink =
              Sink.report before.sink (.unknownEventType event.key)) ∧
          finished (start.steps htlcHandler steps).2.worker.feeds) ∧
        (event ∈ Happening.sent own → ∀ choices,
          finished (start.steps htlcHandler (steps ++ [.run choices])).2.worker.feeds)) ∧
    (event.isResolution = false → ∀ tracker : HtlcTracker,
      tracker.process event = .ok
        { tracker with
          active :=
            if event.stage = .forwarded then tracker.active.insertIfNew event.key event.time
            else tracker.active }) ∧
    ∀ (events : List HtlcEvent) (key : HtlcKey) (time : UInt64),
      (HtlcTracker.empty.run events).active[key]? = some time →
        ∃ opening ∈ events, HtlcTracker.openingOf? key events = some opening ∧
          opening.key = key ∧ opening.time = time ∧ opening.stage = .forwarded ∧
          (opening.direction = .send ∨ opening.direction = .forward ∨
            opening.direction = .unknown) := by
  refine ⟨fun resolves => ⟨fun tracker => ?_, ?_⟩, fun idle tracker => ?_, ?_⟩
  · exact ⟨HtlcTracker.process_of_unknown_resolution unknown resolves tracker,
      HtlcTracker.feed_of_unknown_resolution unknown resolves tracker⟩
  · intro sinkCapacity number steps start own finished
    have rejected := HtlcTracker.process_of_unknown_resolution unknown resolves HtlcTracker.empty
    constructor
    · intro verdict handled
      obtain ⟨_, ended, reports, handed, feed⟩ :=
        over_of_handled_rejected sinkCapacity number steps rejected handled
      exact ⟨ended, reports, handed, feed⟩
    · intro sent choices
      exact over_of_sent_rejected sinkCapacity number steps choices rejected sent
  · exact HtlcTracker.process_of_unknown_forward unknown idle tracker
  · intro events key time active
    exact HtlcTracker.forward_of_active active

/-- A settlement of unknown direction that comes right after its forward. -/
theorem unknown_directions_of_settlement :
    let opening := HtlcTracker.between 12 3 50 .forwarded
    let settled : HtlcEvent := { HtlcTracker.between 12 3 70 .settled with direction := .unknown }
    let steps : List (Step HtlcEvent) :=
      [.spawn 2, .deliver 0 (.event opening), .deliver 0 (.event settled), .run []]
    let own := ofFeed 0 ((htlcMonitor 1).history htlcHandler steps)
    settled.direction = .unknown ∧ settled.isResolution = true ∧
      (HtlcTracker.empty.run [opening]).feed settled = HtlcTracker.empty.run [opening] ∧
      .handled settled (.fail (.unknownEventType settled.key)) ∈ own ∧
      Happening.reports own = [.unknownEventType settled.key] ∧
      ∃ feed, ((htlcMonitor 1).steps htlcHandler steps).2.worker.feeds[0]? = some feed ∧
        feed.isLive = false ∧ feed.cancelled = true := by
  intro opening settled steps own
  have handled : .handled settled (.fail (.unknownEventType settled.key)) ∈ own := by
    decide +kernel
  obtain ⟨rejected, monitored⟩ := (unknown_directions settled rfl).1 rfl
  obtain ⟨ends, _⟩ := monitored 1 0 steps
  obtain ⟨_, reports, _, finished⟩ := ends _ handled
  exact ⟨rfl, rfl, (rejected _).2, handled, reports, finished⟩

/-- A forward of unknown direction is accepted, opens an entry that no sent or forwarded HTLC has
opened, and leaves the monitor alive with nothing to report. -/
theorem unknown_forward_opens_entry :
    (¬ ∀ (tracker : HtlcTracker) (event : HtlcEvent), event.direction = .unknown →
      (event.stage = .forwarded ∨ event.isResolution = true) →
        tracker.process event = .error (.unknownEventType event.key)) ∧
    (¬ ∀ (events : List HtlcEvent) (key : HtlcKey),
      key ∈ (HtlcTracker.empty.run events).active → ∃ opening ∈ events, opening.key = key ∧
        (opening.direction = .send ∨ opening.direction = .forward)) ∧
    ¬ ∀ (event : HtlcEvent), event.direction = .unknown →
      (event.stage = .forwarded ∨ event.isResolution = true) →
        Happening.reports (ofFeed 0 ((htlcMonitor 1).history htlcHandler
          [.spawn 1, .deliver 0 (.event event), .run []])) =
            [.unknownEventType event.key] := by
  let stray : HtlcEvent := { HtlcTracker.between 12 3 50 .forwarded with direction := .unknown }
  refine ⟨fun rejects => ?_, fun known => ?_, fun reports => ?_⟩
  · have rejected := rejects .empty stray rfl (.inl rfl)
    cases rejected
  · have active : stray.key ∈ (HtlcTracker.empty.run [stray]).active := by decide +kernel
    obtain ⟨opening, member, _, towards⟩ := known _ _ active
    rw [List.mem_singleton.mp member] at towards
    rcases towards with impossible | impossible <;> cases impossible
  · have reported := reports stray rfl (.inl rfl)
    exact absurd reported (by decide +kernel)

end Exporter

end LightningMetrics
