import LightningMetrics.Htlc.Tracker

set_option autoImplicit false

namespace LightningMetrics

namespace HtlcEvent

/-- Does the event tell of a settlement or a failure? -/
def isResolution (event : HtlcEvent) : Bool :=
  event.stage.resolution?.isSome

/-- Is the event accepted by a tracker that has seen nothing? -/
def isAccepted (event : HtlcEvent) : Bool :=
  (HtlcTracker.empty.process event).isOk

/-- Does the event open an entry for `key` where there is none? -/
def opens (event : HtlcEvent) (key : HtlcKey) : Bool :=
  event.key == key && event.stage == .forwarded && event.direction != .receive

/-- Does the event close the entry for `key`? -/
def closes (event : HtlcEvent) (key : HtlcKey) : Bool :=
  event.key == key && event.isResolution && event.isAccepted && event.direction != .receive

/-- The labels of the latency series of an event: how the HTLC ended, the two channels, and the
direction. -/
def latencyLabels (event : HtlcEvent) : List String :=
  [if event.stage = .settled then "settled" else "failed",
    toString event.key.incoming.channel,
    toString event.key.outgoing.channel,
    match event.direction with
    | .send => "send"
    | .receive => "receive"
    | .forward => "forward"
    | .unknown => ""]

theorem closes_eq_false_of_opens {event : HtlcEvent} {key : HtlcKey}
    (opens : event.opens key = true) : event.closes key = false := by
  simp only [HtlcEvent.opens, Bool.and_eq_true, beq_iff_eq] at opens
  obtain ⟨⟨_, forwarded⟩, _⟩ := opens
  simp [closes, isResolution, forwarded, HtlcStage.resolution?]

theorem opens_eq_false_of_resolution {event : HtlcEvent} {detail : Option String}
    (stage : event.stage.resolution? = some detail) (key : HtlcKey) :
    event.opens key = false := by
  cases known : event.stage <;> simp_all [HtlcStage.resolution?, opens]

theorem latencyLabels_resolution {event : HtlcEvent} {detail : Option String}
    {resolution : Resolution} (stage : event.stage.resolution? = some detail)
    (resolved : event.resolution detail = .ok resolution) :
    resolution.latencyLabels = event.latencyLabels := by
  have ended : event.stage = .settled ↔ detail = none := by
    cases known : event.stage <;>
      simp only [known, HtlcStage.resolution?, reduceCtorEq] at stage
    all_goals
      cases stage
      simp
  unfold HtlcEvent.resolution at resolved
  cases towards : event.direction <;>
    simp only [towards, HtlcDirection.known?, reduceCtorEq] at resolved
  all_goals
    cases detail with
    | none =>
        cases resolved
        simp [Resolution.latencyLabels, latencyLabels, ended.mpr rfl, towards, Outcome.text,
          KnownDirection.text]
    | some description =>
        have failed : event.stage ≠ .settled := fun settled => by simpa using ended.mp settled
        dsimp only at resolved
        split at resolved
        · cases resolved
        · cases resolved
          simp [Resolution.latencyLabels, latencyLabels, failed, towards, Outcome.text,
            KnownDirection.text]

end HtlcEvent

namespace ActiveTable

theorem step_cases (active : ActiveTable) (event : HtlcEvent) :
    (event.isResolution = false ∧
      active.step event =
        .ok (if event.stage = .forwarded then active.forward event else active, none)) ∨
    (∃ detail error, event.stage.resolution? = some detail ∧
      event.resolution detail = .error error ∧ active.step event = .error error) ∨
    ∃ detail resolution, event.stage.resolution? = some detail ∧
      event.resolution detail = .ok resolution ∧
      active.step event =
        .ok ((active.resolve event resolution).1, some (active.resolve event resolution).2) := by
  cases stage : event.stage.resolution? with
  | none => exact .inl ⟨by simp [HtlcEvent.isResolution, stage], by simp [step, stage]⟩
  | some detail =>
      cases resolved : event.resolution detail with
      | error error =>
          exact .inr (.inl ⟨detail, error, rfl, resolved, by simp [step, stage, resolved]⟩)
      | ok resolution =>
          exact .inr (.inr ⟨detail, resolution, rfl, resolved, by simp [step, stage, resolved]⟩)

theorem isOk_step (active other : ActiveTable) (event : HtlcEvent) :
    (active.step event).isOk = (other.step event).isOk := by
  obtain ⟨_, taken⟩ | ⟨detail, error, stage, refused, taken⟩ |
    ⟨detail, resolution, stage, resolved, taken⟩ := active.step_cases event
  · obtain ⟨_, takenToo⟩ | ⟨_, _, stage, _, _⟩ | ⟨_, _, stage, _, _⟩ := other.step_cases event
    · rw [taken, takenToo]
      rfl
    all_goals simp_all [HtlcEvent.isResolution]
  · simp [step, stage, refused]
  · simp [step, stage, resolved, Except.isOk, Except.toBool]

theorem getElem?_forward (active : ActiveTable) (event : HtlcEvent) (key : HtlcKey) :
    (active.forward event)[key]? =
      if event.key = key ∧ event.direction ≠ .receive then some (active[key]?.getD event.time)
      else active[key]? := by
  unfold forward
  by_cases received : event.direction = .receive
  · simp [received]
  · rw [if_neg received, Std.TreeMap.getElem?_insertIfNew]
    by_cases same : event.key = key
    · subst same
      cases entry : active[event.key]? with
      | none =>
          have absent : ¬ event.key ∈ active := by simp [Std.TreeMap.mem_iff_isSome_getElem?, entry]
          simp [absent, received]
      | some start =>
          have present : event.key ∈ active := by simp [Std.TreeMap.mem_iff_isSome_getElem?, entry]
          simp [present]
    · simp [same]

theorem getElem?_resolve (active : ActiveTable) (event : HtlcEvent) (resolution : Resolution)
    (key : HtlcKey) :
    (active.resolve event resolution).1[key]? =
      if event.key = key ∧ event.direction ≠ .receive then none else active[key]? := by
  unfold resolve
  by_cases received : event.direction = .receive
  · simp [received]
  · rw [if_neg received, Std.TreeMap.get?_eq_getElem?]
    by_cases same : event.key = key
    · subst same
      cases entry : active[event.key]? <;> simp [entry, received]
    · cases entry : active[event.key]? <;> simp [Std.TreeMap.getElem?_erase, same]

theorem resolution_resolve (active : ActiveTable) (event : HtlcEvent) (resolution : Resolution) :
    (active.resolve event resolution).2.resolution = resolution := by
  unfold resolve
  split
  · rfl
  · split <;> rfl

/-- What one event resolves. -/
def resolved? (active : ActiveTable) (event : HtlcEvent) : Option ResolvedHtlc :=
  match active.step event with
  | .ok (_, resolved) => resolved
  | .error _ => none

end ActiveTable

namespace HtlcTracker

/-- Takes in one event; a rejected one is passed over. -/
def feed (tracker : HtlcTracker) (event : HtlcEvent) : HtlcTracker :=
  match tracker.process event with
  | .ok next => next
  | .error _ => tracker

/-- Takes in events one after the other, going on after rejected ones. -/
def run (tracker : HtlcTracker) (events : List HtlcEvent) : HtlcTracker :=
  events.foldl feed tracker

/-- The time in flight that an event lets the tracker observe, under the labels of its
resolution. -/
def observation? (tracker : HtlcTracker) (event : HtlcEvent) : Option (List String × UInt64) := do
  let resolved ← tracker.active.resolved? event
  let nanos ← resolved.inFlight
  return (resolved.resolution.latencyLabels, nanos)

/-- The times in flight that are observed while the events are taken in. -/
def observations (tracker : HtlcTracker) : List HtlcEvent → List (List String × UInt64)
  | [] => []
  | event :: rest => (tracker.observation? event).toList ++ (tracker.feed event).observations rest

theorem isOk_process_eq_step (tracker : HtlcTracker) (event : HtlcEvent) :
    (tracker.process event).isOk = (tracker.active.step event).isOk := by
  unfold process
  split <;> simp_all [Except.isOk, Except.toBool]

theorem isOk_process (tracker : HtlcTracker) (event : HtlcEvent) :
    (tracker.process event).isOk = event.isAccepted := by
  rw [HtlcEvent.isAccepted, isOk_process_eq_step, isOk_process_eq_step]
  exact ActiveTable.isOk_step _ _ event

/-- Why a resolution is refused: the direction is unknown, or the failure has no usable reason. -/
theorem resolution_error {event : HtlcEvent} {detail : Option String} {error : MonitorError}
    (refused : event.resolution detail = .error error) :
    error = .unknownEventType event.key ∨ error = .unlabeledFailure event.key := by
  unfold HtlcEvent.resolution at refused
  cases towards : event.direction.known? with
  | none =>
      rw [towards] at refused
      cases refused
      exact .inl rfl
  | some direction =>
      rw [towards] at refused
      dsimp only at refused
      cases detail with
      | none => cases refused
      | some description =>
          dsimp only at refused
          split at refused
          · cases refused
            exact .inr rfl
          · cases refused

theorem process_error {tracker : HtlcTracker} {event : HtlcEvent} {error : MonitorError}
    (refused : tracker.process event = .error error) :
    (∀ other : HtlcTracker, other.process event = .error error) ∧
      (error = .unknownEventType event.key ∨ error = .unlabeledFailure event.key) := by
  obtain ⟨_, taken⟩ | ⟨detail, other, stage, resolved, taken⟩ |
    ⟨detail, resolution, stage, resolved, taken⟩ := tracker.active.step_cases event
  · simp only [process, taken] at refused
    cases refused
  · simp only [process, taken] at refused
    cases refused
    refine ⟨fun tracker => ?_, resolution_error resolved⟩
    simp only [process, ActiveTable.step, stage, resolved]
  · simp only [process, taken] at refused
    cases refused

theorem isAccepted_of_step_ok {event : HtlcEvent} {active : ActiveTable}
    {result : ActiveTable × Option ResolvedHtlc} (taken : active.step event = .ok result) :
    event.isAccepted = true := by
  rw [HtlcEvent.isAccepted, isOk_process_eq_step, ActiveTable.isOk_step _ active, taken]
  rfl

theorem isAccepted_of_step_error {event : HtlcEvent} {active : ActiveTable}
    {error : MonitorError} (refused : active.step event = .error error) :
    event.isAccepted = false := by
  rw [HtlcEvent.isAccepted, isOk_process_eq_step, ActiveTable.isOk_step _ active, refused]
  rfl

theorem feed_of_error {tracker : HtlcTracker} {event : HtlcEvent} {error : MonitorError}
    (refused : tracker.active.step event = .error error) : tracker.feed event = tracker := by
  simp [feed, process, refused]

theorem active_feed_of_ok {tracker : HtlcTracker} {event : HtlcEvent} {active : ActiveTable}
    {resolved : Option ResolvedHtlc} (taken : tracker.active.step event = .ok (active, resolved)) :
    (tracker.feed event).active = active := by
  cases resolved <;> simp [feed, process, taken]

/-- One event changes the entry of a key only by opening or closing it, and an entry that is open
keeps its time. -/
theorem getElem?_active_feed (tracker : HtlcTracker) (event : HtlcEvent) (key : HtlcKey) :
    (tracker.feed event).active[key]? =
      if event.closes key then none
      else if event.opens key then some (tracker.active[key]?.getD event.time)
      else tracker.active[key]? := by
  obtain ⟨other, taken⟩ | ⟨detail, error, stage, refused, taken⟩ |
    ⟨detail, resolution, stage, resolved, taken⟩ := tracker.active.step_cases event
  · have keeps : event.closes key = false := by simp [HtlcEvent.closes, other]
    rw [active_feed_of_ok taken, keeps]
    by_cases forwarded : event.stage = .forwarded
    · rw [if_pos forwarded, ActiveTable.getElem?_forward]
      simp [HtlcEvent.opens, forwarded]
    · simp [HtlcEvent.opens, forwarded]
  · have keeps : event.closes key = false := by
      simp [HtlcEvent.closes, isAccepted_of_step_error taken]
    have opensNot := HtlcEvent.opens_eq_false_of_resolution stage key
    rw [feed_of_error taken, keeps, opensNot]
    simp
  · have opensNot := HtlcEvent.opens_eq_false_of_resolution stage key
    rw [active_feed_of_ok taken, opensNot, ActiveTable.getElem?_resolve]
    simp [HtlcEvent.closes, HtlcEvent.isResolution, stage, isAccepted_of_step_ok taken]

theorem observation?_eq (tracker : HtlcTracker) (event : HtlcEvent) :
    tracker.observation? event =
      if event.closes event.key then
        tracker.active[event.key]?.map fun start =>
          (event.latencyLabels, elapsed start event.time)
      else none := by
  obtain ⟨other, taken⟩ | ⟨detail, error, stage, refused, taken⟩ |
    ⟨detail, resolution, stage, resolved, taken⟩ := tracker.active.step_cases event
  · have keeps : event.closes event.key = false := by simp [HtlcEvent.closes, other]
    simp [observation?, ActiveTable.resolved?, taken, keeps]
  · have keeps : event.closes event.key = false := by
      simp [HtlcEvent.closes, isAccepted_of_step_error taken]
    simp [observation?, ActiveTable.resolved?, taken, keeps]
  · have accepted := isAccepted_of_step_ok taken
    have labels := HtlcEvent.latencyLabels_resolution stage resolved
    by_cases received : event.direction = .receive
    · have keeps : event.closes event.key = false := by simp [HtlcEvent.closes, received]
      simp [observation?, ActiveTable.resolved?, taken, keeps, ActiveTable.resolve, received]
    · have closes : event.closes event.key = true := by
        simp [HtlcEvent.closes, HtlcEvent.isResolution, stage, accepted, received]
      rw [closes]
      cases entry : tracker.active[event.key]? <;>
        simp [observation?, ActiveTable.resolved?, taken, ActiveTable.resolve, received, entry,
          labels]

theorem resolutionTime_feed (tracker : HtlcTracker) (event : HtlcEvent) :
    (tracker.feed event).metrics.resolutionTime =
      match tracker.observation? event with
      | none => tracker.metrics.resolutionTime
      | some (labels, nanos) =>
          tracker.metrics.resolutionTime.update labels (.empty resolutionBounds)
            (·.observe (secondsOfNanos nanos)) := by
  unfold feed process observation? ActiveTable.resolved?
  cases tracker.active.step event with
  | error error => rfl
  | ok result =>
      obtain ⟨active, resolved⟩ := result
      cases resolved with
      | none => rfl
      | some resolved => cases times : resolved.inFlight <;> simp [HtlcMetrics.record, times]

end HtlcTracker

end LightningMetrics
