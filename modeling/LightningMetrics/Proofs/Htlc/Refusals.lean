import LightningMetrics.Htlc.InPlace
import LightningMetrics.Proofs.Htlc.Interleaving

set_option autoImplicit false

namespace LightningMetrics

theorem normalizeReason_eq_nil_iff (detail : List Char) :
    normalizeReason detail = [] ↔ ∀ char ∈ detail, Text.isBlank char = true := by
  unfold normalizeReason
  rw [Text.lowercase_eq_nil_iff, List.map_eq_nil_iff, Text.trim_eq_nil_iff]

namespace HtlcEvent

/-- Why an event is refused. -/
inductive Refused (event : HtlcEvent) : MonitorError → Prop where
  | unknownDirection (resolves : event.stage = .settled ∨ event.stage = .failedBack ∨
        ∃ detail, event.stage = .failedHere detail) (unknown : event.direction = .unknown) :
      event.Refused (.unknownEventType event.key)
  | blankReason {detail : String} (failed : event.stage = .failedHere detail)
        (known : event.direction ≠ .unknown)
        (blank : ∀ char ∈ detail.toList, Text.isBlank char = true) :
      event.Refused (.unlabeledFailure event.key)

/-- The direction is looked at before the description. -/
theorem resolution_eq_error_iff (event : HtlcEvent) (detail : Option String)
    (error : MonitorError) :
    event.resolution detail = .error error ↔
      event.direction = .unknown ∧ error = .unknownEventType event.key ∨
        event.direction ≠ .unknown ∧ error = .unlabeledFailure event.key ∧
          ∃ description, detail = some description ∧
            ∀ char ∈ description.toList, Text.isBlank char = true := by
  have known (towards : KnownDirection) (here : event.direction.known? = some towards) :
      event.direction ≠ .unknown := by
    intro unknown
    rw [unknown] at here
    cases here
  unfold resolution
  cases towards : event.direction.known? with
  | none =>
      have unknown : event.direction = .unknown := by
        cases direction : event.direction <;> simp_all [HtlcDirection.known?]
      rw [unknown]
      constructor
      · intro refused
        cases refused
        exact .inl ⟨rfl, rfl⟩
      · rintro (⟨_, rfl⟩ | ⟨known, _⟩)
        · rfl
        · exact absurd rfl known
  | some direction =>
      have towards := known direction towards
      cases detail with
      | none => simp [towards]
      | some description =>
          simp only [Option.some.injEq, exists_eq_left', ← normalizeReason_eq_nil_iff, towards,
            ne_eq, not_false_eq_true, false_and, true_and, false_or]
          cases normalizeReason description.toList with
          | nil => simp only [Except.error.injEq, and_true, eq_comm]
          | cons first rest => simp only [reduceCtorEq, and_false]

end HtlcEvent

namespace HtlcTracker

theorem process_eq_error_iff_resolution (tracker : HtlcTracker) (event : HtlcEvent)
    (error : MonitorError) :
    tracker.process event = .error error ↔
      ∃ detail, event.stage.resolution? = some detail ∧
        event.resolution detail = .error error := by
  obtain ⟨idle, taken⟩ | ⟨detail, refusal, stage, refused, taken⟩ |
    ⟨detail, resolution, stage, resolved, taken⟩ := tracker.active.step_cases event
  · have unresolved : event.stage.resolution? = none := by
      simpa [HtlcEvent.isResolution] using idle
    simp [process, taken, unresolved]
  · simp [process, taken, stage, refused]
  · simp [process, taken, stage, resolved]

/-- What a tracker refuses does not depend on what it has seen. -/
theorem process_eq_error_iff (tracker : HtlcTracker) (event : HtlcEvent) (error : MonitorError) :
    tracker.process event = .error error ↔ event.Refused error := by
  rw [process_eq_error_iff_resolution]
  simp only [HtlcEvent.resolution_eq_error_iff]
  constructor
  · rintro ⟨detail, stage, ⟨unknown, rfl⟩ | ⟨known, rfl, description, rfl, blank⟩⟩
    · refine .unknownDirection ?_ unknown
      cases told : event.stage <;> simp_all [HtlcStage.resolution?]
    · cases told : event.stage with
      | failedHere text =>
          rw [told] at stage
          cases stage
          exact .blankReason told known blank
      | failedBack =>
          rw [told] at stage
          cases stage
          have labelled : externalReason.toList.all Text.isBlank = false := by decide +kernel
          rw [List.all_eq_true.mpr blank] at labelled
          cases labelled
      | _ =>
          rw [told] at stage
          cases stage
  · intro refused
    cases refused with
    | unknownDirection resolves unknown =>
        rcases resolves with told | told | ⟨detail, told⟩ <;> rw [told] <;>
          exact ⟨_, rfl, .inl ⟨unknown, rfl⟩⟩
    | blankReason failed known blank =>
        rw [failed]
        exact ⟨_, rfl, .inr ⟨known, rfl, _, rfl, blank⟩⟩

theorem handle_eq_feed (tracker : HtlcTracker) (event : HtlcEvent) :
    tracker.handle event =
      ((tracker.process event).map fun _ => (), tracker.feed event) := by
  rw [handle_eq, feed]
  cases tracker.process event <;> rfl

theorem handleAll_eq (tracker : HtlcTracker) (events : List HtlcEvent) :
    tracker.handleAll events = (tracker.answers events, tracker.run events) := by
  induction events generalizing tracker with
  | nil => rfl
  | cons event rest ih =>
      rw [handleAll, handle_eq_feed]
      dsimp only
      rw [ih]
      rfl

/-- Without its refused events a list has the same answers to the rest, and leaves the same
tracker. -/
theorem handleAll_accepted (tracker : HtlcTracker) (events : List HtlcEvent) :
    let accepted := (tracker.answers events).filter fun answer => answer.2.isOk
    tracker.handleAll (accepted.map Prod.fst) = (accepted, tracker.run events) := by
  induction events generalizing tracker with
  | nil => rfl
  | cons event rest ih =>
      cases processed : tracker.process event with
      | error error =>
          have unchanged : tracker.feed event = tracker := by rw [feed, processed]
          have refused : (tracker.answers (event :: rest)).filter (fun answer => answer.2.isOk) =
              (tracker.answers rest).filter fun answer => answer.2.isOk := by
            rw [answers, unchanged, processed]
            rfl
          have left : tracker.run (event :: rest) = tracker.run rest := by
            rw [run, List.foldl_cons, unchanged, run]
          dsimp only
          rw [refused, ih, left]
      | ok next =>
          have changed : tracker.feed event = next := by rw [feed, processed]
          have taken : (tracker.answers (event :: rest)).filter (fun answer => answer.2.isOk) =
              (event, .ok ()) :: (next.answers rest).filter fun answer => answer.2.isOk := by
            rw [answers, changed, processed]
            rfl
          dsimp only
          rw [taken, List.map_cons, handleAll, handle_eq, processed]
          dsimp only
          rw [ih, run, run, List.foldl_cons, changed]

/-- An event is refused for its own sake alone, and then nothing is changed, although the tracker
is changed part by part. Taking the refused events out of a list of events therefore changes
neither the answers to the others nor the tracker that is left, with its table, its counts and the
sums of its histograms. -/
theorem refused_events_leave_no_trace (tracker : HtlcTracker) :
    (∀ event error, (tracker.handle event).1 = .error error ↔ event.Refused error) ∧
    (∀ event, tracker.handle event =
      match tracker.process event with
      | .ok next => (.ok (), next)
      | .error error => (.error error, tracker)) ∧
    ∀ events,
      let handled := tracker.handleAll events
      let accepted := handled.1.filter fun answer => answer.2.isOk
      handled.1.map Prod.fst = events ∧ handled.2 = tracker.run events ∧
        tracker.handleAll (accepted.map Prod.fst) = (accepted, handled.2) := by
  refine ⟨?_, tracker.handle_eq, ?_⟩
  · intro event error
    rw [← tracker.process_eq_error_iff, handle_eq]
    cases tracker.process event <;> simp
  · intro events
    have told : (tracker.answers events).map Prod.fst = events := by
      rw [answers_eq, List.map_map]
      exact List.map_id events
    rw [handleAll_eq]
    exact ⟨told, rfl, tracker.handleAll_accepted events⟩

/-- A settlement of unknown direction and a failure without a description, between a forward and its
settlement. -/
theorem refused_events_leave_no_trace_between :
    let unknown : HtlcEvent := { between 12 3 60 .settled with direction := .unknown }
    let blank := between 12 3 70 (.failedHere " \t\u2003")
    let events := [between 12 3 50 .forwarded, unknown, blank, between 12 3 90 .settled]
    let others := [between 12 3 50 .forwarded, between 12 3 90 .settled]
    unknown.Refused (.unknownEventType unknown.key) ∧
      blank.Refused (.unlabeledFailure blank.key) ∧
      empty.handle unknown = (.error (.unknownEventType unknown.key), empty) ∧
      empty.handleAll others = (others.map fun event => (event, .ok ()), empty.run events) := by
  intro unknown blank events others
  obtain ⟨refused, atOnce, run⟩ := refused_events_leave_no_trace empty
  have unknownRefused : unknown.Refused (.unknownEventType unknown.key) :=
    .unknownDirection (.inl rfl) rfl
  have blankRefused : blank.Refused (.unlabeledFailure blank.key) :=
    .blankReason rfl (by decide) (List.all_eq_true.mp (by decide +kernel))
  obtain ⟨_, final, others'⟩ := run events
  have accepted : ((empty.handleAll events).1.filter fun answer => answer.2.isOk) =
      others.map fun event => (event, .ok ()) := by
    decide +kernel
  refine ⟨unknownRefused, blankRefused, (atOnce unknown).trans ?_, ?_⟩
  · have processed : empty.process unknown = .error (.unknownEventType unknown.key) :=
      (empty.process_eq_error_iff _ _).mpr unknownRefused
    rw [processed]
  · rw [accepted, final] at others'
    exact others'

end HtlcTracker

end LightningMetrics
