import LightningMetrics.Htlc.Tracker

set_option autoImplicit false

namespace LightningMetrics.HtlcTracker

/-- Changes to the parts of a tracker, one after the other. What was changed before a refusal stays
changed. -/
abbrev Changes (α : Type) := ExceptT MonitorError (StateM HtlcTracker) α

namespace Changes

/-- The answer and the tracker that some changes leave. -/
def on {α : Type} (changes : Changes α) (tracker : HtlcTracker) :
    Except MonitorError α × HtlcTracker :=
  changes.run.run tracker

variable {α : Type} (tracker : HtlcTracker) (change : HtlcTracker → HtlcTracker)

@[simp]
theorem on_pure (value : α) : (pure value : Changes α).on tracker = (.ok value, tracker) :=
  rfl

@[simp]
theorem on_throw (error : MonitorError) :
    (throw error : Changes α).on tracker = (.error error, tracker) :=
  rfl

@[simp]
theorem on_modify : (modify change : Changes Unit).on tracker = (.ok (), change tracker) :=
  rfl

@[simp]
theorem on_modify_bind (rest : Unit → Changes α) :
    ((modify change : Changes Unit) >>= rest).on tracker = (rest ()).on (change tracker) :=
  rfl

@[simp]
theorem on_get_bind (rest : HtlcTracker → Changes α) :
    ((get : Changes HtlcTracker) >>= rest).on tracker = (rest tracker).on tracker :=
  rfl

end Changes

/-- Closes the entry of a resolved HTLC, and observes its time in flight if there is one. -/
def closeInPlace (event : HtlcEvent) (resolution : Resolution) : Changes Unit := do
  match (← get).active.get? event.key with
  | none => return
  | some start =>
      modify fun tracker => { tracker with active := tracker.active.erase event.key }
      modify fun tracker => { tracker with
        metrics.resolutionTime := tracker.metrics.resolutionTime.update resolution.latencyLabels
          (.empty resolutionBounds) (·.observe (secondsOfNanos (elapsed start event.time))) }

/-- Records a resolution part by part: first the counter, then the entry, then the latency. -/
def recordInPlace (event : HtlcEvent) (detail : Option String) : Changes Unit := do
  match event.resolution detail with
  | .error error => throw error
  | .ok resolution =>
      modify fun tracker => { tracker with
        metrics.resolved := tracker.metrics.resolved.update resolution.counterLabels 0 (· + 1) }
      if event.direction ≠ .receive then closeInPlace event resolution

/-- Takes in one event part by part. -/
def processInPlace (event : HtlcEvent) : Changes Unit :=
  match event.stage with
  | .forwarded =>
      if event.direction = .receive then return
      else modify fun tracker =>
        { tracker with active := tracker.active.insertIfNew event.key event.time }
  | .settled => recordInPlace event none
  | .failedBack => recordInPlace event (some externalReason)
  | .failedHere detail => recordInPlace event (some detail)
  | .subscribed | .finalized | .other => return

/-- The answer to an event that is taken in part by part, and the tracker after it. -/
def handle (tracker : HtlcTracker) (event : HtlcEvent) :
    Except MonitorError Unit × HtlcTracker :=
  (processInPlace event).on tracker

/-- Takes in events one after the other, going on after refused ones: the answers, and the tracker
after all of them. -/
def handleAll (tracker : HtlcTracker) :
    List HtlcEvent → List (HtlcEvent × Except MonitorError Unit) × HtlcTracker
  | [] => ([], tracker)
  | event :: rest =>
      let (answer, next) := tracker.handle event
      let (answers, final) := next.handleAll rest
      ((event, answer) :: answers, final)

/-- A resolution changes the same part by part as at once, and what can fail comes before every
change. -/
theorem on_recordInPlace (tracker : HtlcTracker) (event : HtlcEvent) (detail : Option String) :
    (recordInPlace event detail).on tracker =
      match event.resolution detail with
      | .error error => (.error error, tracker)
      | .ok resolution =>
          (.ok (), ⟨(tracker.active.resolve event resolution).1,
            tracker.metrics.record (tracker.active.resolve event resolution).2⟩) := by
  unfold recordInPlace
  cases event.resolution detail with
  | error error => rfl
  | ok resolution =>
      unfold ActiveTable.resolve
      by_cases received : event.direction = .receive
      · simp [received, HtlcMetrics.record]
      · cases entry : tracker.active[event.key]? <;>
          simp [received, closeInPlace, entry, HtlcMetrics.record]

/-- Part by part an event is handled as it is at once. In particular a refusal comes before every
change. -/
theorem handle_eq (tracker : HtlcTracker) (event : HtlcEvent) :
    tracker.handle event =
      match tracker.process event with
      | .ok next => (.ok (), next)
      | .error error => (.error error, tracker) := by
  unfold handle processInPlace process ActiveTable.step
  cases stage : event.stage with
  | forwarded =>
      unfold ActiveTable.forward
      by_cases received : event.direction = .receive <;> simp [HtlcStage.resolution?, received]
  | settled | failedBack | failedHere detail =>
      simp only [HtlcStage.resolution?]
      rw [on_recordInPlace]
      cases event.resolution _ <;> rfl
  | subscribed | finalized | other => simp [HtlcStage.resolution?]

end LightningMetrics.HtlcTracker
