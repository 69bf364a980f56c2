import LightningMetrics.Proofs.Htlc.History
import LightningMetrics.Proofs.Htlc.Labels
import LightningMetrics.Proofs.Metrics.SeriesTotals

/-!
The HTLC metrics beside the events. Every accepted resolution is counted once, and every entry of
the active table that was opened is either still open or one observation of a latency. Which series
a resolution is counted in depends on the fingerprint of its labels: it is the series of the first
resolution with that fingerprint.
-/

set_option autoImplicit false

namespace LightningMetrics

namespace ActiveTable

theorem size_forward (active : ActiveTable) (event : HtlcEvent) :
    (active.forward event).size = active.size +
      if !active.contains event.key && (active.forward event).contains event.key then 1 else 0 := by
  unfold forward
  by_cases received : event.direction = .receive
  · simp [received]
  · rw [if_neg received, Std.TreeMap.size_insertIfNew]
    cases present : active.contains event.key <;>
      simp [present, ← Std.TreeMap.contains_iff_mem]

theorem size_resolve (active : ActiveTable) (event : HtlcEvent) (resolution : Resolution) :
    (active.resolve event resolution).1.size +
      (active.resolve event resolution).2.inFlight.toList.length = active.size := by
  unfold resolve
  by_cases received : event.direction = .receive
  · simp [received]
  · rw [if_neg received, Std.TreeMap.get?_eq_getElem?]
    cases entry : active[event.key]? with
    | none => rfl
    | some start =>
        have present : active.contains event.key = true := by
          rw [Std.TreeMap.contains_eq_isSome_getElem?, entry]
          rfl
        have filled : active.size ≠ 0 := by
          have nonempty := Std.TreeMap.isEmpty_eq_false_of_contains present
          rw [Std.TreeMap.isEmpty_eq_size_eq_zero] at nonempty
          simpa using nonempty
        simp only [Std.TreeMap.size_erase, present, ↓reduceIte, Option.toList_some,
          List.length_singleton]
        omega

end ActiveTable

namespace HtlcTracker

/-- The accepted resolutions among the events. -/
def counted (events : List HtlcEvent) : List HtlcEvent :=
  events.filter HtlcEvent.isCounted

/-- The uses that the events make of the counters. -/
def counterUses (events : List HtlcEvent) : List (List String × Unit) :=
  (counted events).map fun event => (event.counterLabels, ())

theorem resolved_feed (tracker : HtlcTracker) (event : HtlcEvent) :
    (tracker.feed event).metrics.resolved =
      if event.isCounted then tracker.metrics.resolved.update event.counterLabels 0 (· + 1)
      else tracker.metrics.resolved := by
  obtain ⟨other, taken⟩ | ⟨detail, error, stage, refused, taken⟩ |
    ⟨detail, resolution, stage, resolved, taken⟩ := tracker.active.step_cases event
  · have uncounted : event.isCounted = false := by simp [HtlcEvent.isCounted, other]
    rw [uncounted]
    simp [feed, process, taken]
  · have uncounted : event.isCounted = false := by
      simp [HtlcEvent.isCounted, isAccepted_of_step_error taken]
    rw [feed_of_error taken, uncounted]
    rfl
  · have counts : event.isCounted = true :=
      (HtlcEvent.isCounted_iff event).mpr ⟨detail, resolution, stage, resolved⟩
    have labels : (tracker.active.resolve event resolution).2.resolution.counterLabels =
        event.counterLabels := by
      rw [ActiveTable.resolution_resolve, HtlcEvent.counterLabels_resolution stage resolved]
    rw [counts]
    simp only [feed, process, taken, HtlcMetrics.record, labels, ↓reduceIte]

theorem resolved_run (events : List HtlcEvent) :
    (empty.run events).metrics.resolved =
      (∅ : SeriesTable Nat).updateAll 0 (fun _ count => count + 1) (counterUses events) := by
  induction events using List.reverseRecOn with
  | nil => rfl
  | append_singleton events event ih =>
      rw [run_concat, resolved_feed, ih]
      unfold counterUses counted
      rw [List.filter_append, List.map_append]
      cases counts : event.isCounted with
      | false => simp [counts]
      | true => simp [counts, SeriesTable.updateAll_concat]

theorem sound_resolved_run (events : List HtlcEvent) :
    (empty.run events).metrics.resolved.Sound := by
  rw [resolved_run]
  exact SeriesTable.sound_empty.updateAll _ _ _

/-- Where a run shows the counter of some labels: under those of the first accepted resolution with
their fingerprint. -/
def counterShownAs (events : List HtlcEvent) (labels : List String) : List String :=
  SeriesTable.firstLabels (counterUses events) labels

/-- The counters whose labels `holds` selects count the resolutions that are shown under such
labels. -/
theorem sumOver_resolved (events : List HtlcEvent) (holds : List String → Bool) :
    (empty.run events).metrics.resolved.sumOver id holds =
      (counted events).countP fun event => holds (counterShownAs events event.counterLabels) := by
  rw [resolved_run]
  refine (SeriesTable.sumOver_updateAll holds ?_ ?_ (counterUses events)).trans List.countP_map
  · rfl
  · exact fun _ _ => rfl

/-- Was this entry opened by this event? -/
def opensEntry (tracker : HtlcTracker) (event : HtlcEvent) : Bool :=
  event.stage == .forwarded && !tracker.active.contains event.key &&
    (tracker.feed event).active.contains event.key

/-- The forwards that open an entry while the events are taken in. -/
def openings (tracker : HtlcTracker) : List HtlcEvent → List HtlcEvent
  | [] => []
  | event :: rest =>
      (if tracker.opensEntry event then [event] else []) ++ (tracker.feed event).openings rest

/-- One event opens an entry, or closes one and observes it, or leaves the table as it is. -/
theorem size_active_feed (tracker : HtlcTracker) (event : HtlcEvent) :
    (tracker.feed event).active.size + (tracker.observation? event).toList.length =
      tracker.active.size + (if tracker.opensEntry event then [event] else []).length := by
  obtain ⟨other, taken⟩ | ⟨detail, error, stage, refused, taken⟩ |
    ⟨detail, resolution, stage, resolved, taken⟩ := tracker.active.step_cases event
  · have idle : tracker.observation? event = none := by
      simp [observation?, ActiveTable.resolved?, taken]
    unfold opensEntry
    rw [active_feed_of_ok taken, idle]
    by_cases forwarded : event.stage = .forwarded
    · rw [if_pos forwarded, tracker.active.size_forward event, forwarded]
      cases tracker.active.contains event.key <;>
        cases (tracker.active.forward event).contains event.key <;> rfl
    · simp [forwarded]
  · have idle : tracker.observation? event = none := by
      simp [observation?, ActiveTable.resolved?, taken]
    have opens : tracker.opensEntry event = false := by
      rw [opensEntry, feed_of_error taken]
      cases tracker.active.contains event.key <;> simp
    rw [feed_of_error taken, idle, opens]
    rfl
  · have opens : tracker.opensEntry event = false := by
      unfold opensEntry
      cases known : event.stage <;> simp_all [HtlcStage.resolution?]
    have timed : (tracker.observation? event).toList.length =
        (tracker.active.resolve event resolution).2.inFlight.toList.length := by
      cases inFlight : (tracker.active.resolve event resolution).2.inFlight <;>
        simp [observation?, ActiveTable.resolved?, taken, inFlight]
    rw [active_feed_of_ok taken, opens, timed]
    exact tracker.active.size_resolve event resolution

/-- Every entry that was opened is still open, or was observed when it was closed. -/
theorem size_active_run (tracker : HtlcTracker) (events : List HtlcEvent) :
    (tracker.run events).active.size + (tracker.observations events).length =
      tracker.active.size + (tracker.openings events).length := by
  induction events generalizing tracker with
  | nil => rfl
  | cons event rest ih =>
      have now := tracker.size_active_feed event
      have later := ih (tracker.feed event)
      change ((tracker.feed event).run rest).active.size + _ = _
      rw [observations, openings, List.length_append, List.length_append]
      omega

/-- What is observed is the latency of an accepted resolution, and of none that was received. -/
theorem counted_of_observation {tracker : HtlcTracker} {event : HtlcEvent}
    {observation : List String × UInt64}
    (observed : tracker.observation? event = some observation) :
    event.isCounted = true ∧ observation.1 = event.latencyLabels ∧
      event.direction ≠ .receive := by
  rw [observation?_eq] at observed
  cases closes : event.closes event.key with
  | false =>
      rw [closes] at observed
      cases observed
  | true =>
      rw [closes, if_pos rfl] at observed
      obtain ⟨start, _, rfl⟩ := Option.map_eq_some_iff.mp observed
      simp only [HtlcEvent.closes, Bool.and_eq_true, bne_iff_ne] at closes
      obtain ⟨⟨⟨_, resolves⟩, accepted⟩, towards⟩ := closes
      refine ⟨?_, rfl, towards⟩
      rw [HtlcEvent.isCounted, resolves, accepted]
      rfl

theorem exists_counted_of_mem_observations {tracker : HtlcTracker} {events : List HtlcEvent}
    {observation : List String × UInt64} (member : observation ∈ tracker.observations events) :
    ∃ event ∈ counted events, event.latencyLabels = observation.1 ∧
      event.direction ≠ .receive := by
  induction events generalizing tracker with
  | nil => cases member
  | cons event rest ih =>
      rcases List.mem_append.mp member with now | later
      · rw [Option.mem_toList] at now
        obtain ⟨counts, labels, towards⟩ := counted_of_observation now
        exact ⟨event, List.mem_filter.mpr ⟨List.mem_cons_self, counts⟩, labels.symm, towards⟩
      · obtain ⟨event, there, found⟩ := ih later
        obtain ⟨member, counts⟩ := List.mem_filter.mp there
        exact ⟨event, List.mem_filter.mpr ⟨List.mem_cons_of_mem _ member, counts⟩, found⟩

/-- There are no more observations than accepted resolutions, under whatever labels. -/
theorem countP_observations_le (tracker : HtlcTracker) (events : List HtlcEvent)
    (holds : List String → Bool) :
    ((tracker.observations events).countP fun observation => holds observation.1) ≤
      (counted events).countP fun event => holds event.latencyLabels := by
  induction events generalizing tracker with
  | nil => exact Nat.le_refl _
  | cons event rest ih =>
      have later := ih (tracker.feed event)
      rw [observations, List.countP_append]
      have now : ((tracker.observation? event).toList.countP fun observation =>
          holds observation.1) ≤ (counted [event]).countP fun event =>
            holds event.latencyLabels := by
        cases observed : tracker.observation? event with
        | none => exact Nat.zero_le _
        | some observation =>
            obtain ⟨counts, labels, _⟩ := counted_of_observation observed
            have alone : counted [event] = [event] :=
              List.filter_eq_self.mpr (by simpa using counts)
            rw [alone, Option.toList_some, List.countP_singleton, List.countP_singleton, labels]
      have split : counted (event :: rest) = counted [event] ++ counted rest :=
        List.filter_append [event] rest
      rw [split, List.countP_append]
      omega

/-- The latency series whose labels `holds` selects have one sample for each observation that is
shown under such labels. -/
theorem sumOver_resolutionTime (events : List HtlcEvent) (holds : List String → Bool) :
    (empty.run events).metrics.resolutionTime.sumOver Histogram.count holds =
      (empty.observations events).countP fun observation =>
        holds (shownLabels events observation.1) := by
  rw [resolutionTime_run]
  refine SeriesTable.sumOver_updateAll holds ?_ ?_ (empty.observations events)
  · rfl
  · exact fun nanos histogram => histogram.count_observe (secondsOfNanos nanos)

/-- No accepted resolution with other labels shares the fingerprint of these. -/
def Unshared (labelsOf : HtlcEvent → List String) (events : List HtlcEvent)
    (labels : List String) : Prop :=
  ∀ event ∈ counted events, fingerprint (labelsOf event) = fingerprint labels →
    labelsOf event = labels

/-- What the counter of some labels shows. -/
def countShown (tracker : HtlcTracker) (labels : List String) : Nat :=
  (tracker.metrics.resolved.shown? labels).getD 0

/-- The number of samples that the latency series of some labels shows. -/
def samplesShown (tracker : HtlcTracker) (labels : List String) : Nat :=
  ((tracker.metrics.resolutionTime.shown? labels).map Histogram.count).getD 0

theorem countShown_run (events : List HtlcEvent) (labels : List String) :
    (empty.run events).countShown labels =
      (counted events).countP fun event => counterShownAs events event.counterLabels = labels := by
  have shown := (sound_resolved_run events).sumOver_eq_shown id labels
  rw [sumOver_resolved] at shown
  rw [countShown, shown, Option.map_id_apply]

/-- A counter shows its own resolutions and no others exactly if there are none, or its fingerprint
is its own. -/
theorem countShown_run_own_iff (events : List HtlcEvent) (labels : List String) :
    (empty.run events).countShown labels =
        ((counted events).countP fun event => event.counterLabels = labels) ↔
      (∀ event ∈ counted events, event.counterLabels ≠ labels) ∨
        Unshared HtlcEvent.counterLabels events labels := by
  have uses := SeriesTable.countP_firstLabels_eq_iff (counterUses events) labels
  unfold counterUses at uses
  rw [List.countP_map, List.countP_map] at uses
  rw [countShown_run]
  refine uses.trans ?_
  unfold Unshared
  simp only [List.forall_mem_map]

/-- The samples of a latency series whose fingerprint is its own are among the resolutions that the
counters of all reasons show, where the fingerprints of these are their own. -/
theorem samplesShown_run_le (events : List HtlcEvent) (labels : List String)
    (latency : Unshared HtlcEvent.latencyLabels events labels)
    (counters : ∀ event ∈ counted events, event.latencyLabels = labels →
      Unshared HtlcEvent.counterLabels events event.counterLabels) :
    (empty.run events).samplesShown labels ≤
      (empty.run events).metrics.resolved.sumOver id fun counter => counter.dropLast = labels := by
  have shown := (sound_resolutionTime_run events).sumOver_eq_shown Histogram.count labels
  rw [sumOver_resolutionTime] at shown
  rw [samplesShown, ← shown, sumOver_resolved]
  calc (empty.observations events).countP (fun observation =>
        shownLabels events observation.1 = labels)
      ≤ (empty.observations events).countP (fun observation => observation.1 = labels) := by
        refine List.countP_mono_left fun observation member here => ?_
        rw [decide_eq_true_iff] at here ⊢
        obtain ⟨event, counts, own, _⟩ := exists_counted_of_mem_observations member
        have place := SeriesTable.fingerprint_firstLabels (empty.observations events) observation.1
        change fingerprint (shownLabels events observation.1) = _ at place
        rw [here, ← own] at place
        rw [← own]
        exact latency event counts place.symm
    _ ≤ (counted events).countP (fun event => event.latencyLabels = labels) :=
        countP_observations_le empty events fun other => other = labels
    _ ≤ (counted events).countP (fun event =>
          (counterShownAs events event.counterLabels).dropLast = labels) := by
        refine List.countP_mono_left fun event member own => ?_
        rw [decide_eq_true_iff] at own ⊢
        have unshared := counters event member own
        have used : (event.counterLabels, ()) ∈ counterUses events := List.mem_map_of_mem member
        have shownOwn : counterShownAs events event.counterLabels = event.counterLabels := by
          refine (SeriesTable.firstLabels_eq_iff ?_ used).mpr rfl
          intro use there same
          obtain ⟨other, counts, rfl⟩ := List.mem_map.mp there
          exact unshared other counts same
        rw [shownOwn, HtlcEvent.counterLabels, List.dropLast_concat, own]

theorem shape_of_mem_resolved {events : List HtlcEvent} {labels : List String} {value : Nat}
    (member : (labels, value) ∈ (empty.run events).metrics.resolved.toSeries) :
    ∃ outcome incoming outgoing direction reason,
      labels = [outcome, incoming, outgoing, direction, reason] ∧
      (outcome = "settled" ↔ reason = "") := by
  rw [resolved_run] at member
  obtain ⟨_, used, rfl⟩ := SeriesTable.exists_use_of_mem_updateAll member
  obtain ⟨event, there, rfl⟩ := List.mem_map.mp used
  refine ⟨_, _, _, _, _, rfl, ?_⟩
  rw [← HtlcEvent.settled_iff_reasonLabel (List.mem_filter.mp there).2]
  by_cases settled : event.stage = .settled <;> simp [settled]

theorem shape_of_mem_resolutionTime {events : List HtlcEvent} {labels : List String}
    {histogram : Histogram}
    (member : (labels, histogram) ∈ (empty.run events).metrics.resolutionTime.toSeries) :
    ∃ outcome incoming outgoing direction,
      labels = [outcome, incoming, outgoing, direction] ∧ direction ≠ "receive" := by
  rw [resolutionTime_run] at member
  obtain ⟨_, used, rfl⟩ := SeriesTable.exists_use_of_mem_updateAll member
  obtain ⟨event, _, labels, towards⟩ := exists_counted_of_mem_observations used
  refine ⟨_, _, _, _, labels.symm, ?_⟩
  cases known : event.direction with
  | receive => exact absurd known towards
  | unknown | send | forward => simp

/-- How the counters, the latencies and the table of active HTLCs stand to each other and to the
events of a run. Each accepted resolution is counted once, in the series of the first one with its
fingerprint; so a counter is exact where no other labels share its fingerprint, and there its
latencies are among the resolutions. -/
theorem accounts_of_run (events : List HtlcEvent) :
    let tracker := empty.run events
    (∀ labels, tracker.countShown labels = (counted events).countP fun event =>
      counterShownAs events event.counterLabels = labels) ∧
    (∀ labels, tracker.countShown labels =
        ((counted events).countP fun event => event.counterLabels = labels) ↔
      (∀ event ∈ counted events, event.counterLabels ≠ labels) ∨
        Unshared HtlcEvent.counterLabels events labels) ∧
    tracker.metrics.resolvedTotal = (counted events).length ∧
    (∀ labels value, (labels, value) ∈ tracker.metrics.resolved.toSeries →
      ∃ outcome incoming outgoing direction reason,
        labels = [outcome, incoming, outgoing, direction, reason] ∧
        (outcome = "settled" ↔ reason = "")) ∧
    (∀ labels, Unshared HtlcEvent.latencyLabels events labels →
      (∀ event ∈ counted events, event.latencyLabels = labels →
        Unshared HtlcEvent.counterLabels events event.counterLabels) →
      tracker.samplesShown labels ≤
        tracker.metrics.resolved.sumOver id fun counter => counter.dropLast = labels) ∧
    (∀ labels histogram, (labels, histogram) ∈ tracker.metrics.resolutionTime.toSeries →
      ∃ outcome incoming outgoing direction,
        labels = [outcome, incoming, outgoing, direction] ∧ direction ≠ "receive") ∧
    tracker.metrics.observedTotal + tracker.active.size = (empty.openings events).length := by
  intro tracker
  refine ⟨countShown_run events, countShown_run_own_iff events, ?_,
    fun _ _ => shape_of_mem_resolved, samplesShown_run_le events,
    fun _ _ => shape_of_mem_resolutionTime, ?_⟩
  · refine (SeriesTable.foldl_eq_sumOver id tracker.metrics.resolved).trans ?_
    rw [sumOver_resolved]
    exact congrFun List.countP_true _
  · have observed : tracker.metrics.observedTotal = (empty.observations events).length := by
      refine (SeriesTable.foldl_eq_sumOver Histogram.count tracker.metrics.resolutionTime).trans ?_
      rw [sumOver_resolutionTime]
      exact congrFun List.countP_true _
    have balance := size_active_run empty events
    have before : empty.active.size = 0 := rfl
    rw [observed]
    change _ + (empty.run events).active.size = _
    omega

/-- Two HTLCs of one channel pair, of which one is closed and was timed. -/
theorem accounts_of_timed_failure :
    let events := [between 12 3 50 .forwarded, between 12 3 90 .failedBack,
      between 12 3 95 .settled, between 12 4 99 .forwarded]
    let labels := ["failed", "12", "3", "forward"]
    Unshared HtlcEvent.latencyLabels events labels ∧
      (empty.run events).samplesShown labels = 1 ∧
      (empty.run events).samplesShown labels ≤
        (empty.run events).metrics.resolved.sumOver id (fun counter => counter.dropLast = labels) ∧
      (empty.run events).countShown ["settled", "12", "3", "forward", ""] = 1 ∧
      (empty.run events).metrics.observedTotal + (empty.run events).active.size = 2 := by
  intro events labels
  obtain ⟨_, shows, _, _, latencies, _, balance⟩ := accounts_of_run events
  have latency : Unshared HtlcEvent.latencyLabels events labels := by
    unfold Unshared
    decide +kernel
  have counters : ∀ event ∈ counted events, event.latencyLabels = labels →
      Unshared HtlcEvent.counterLabels events event.counterLabels := by
    unfold Unshared
    decide +kernel
  have settled : Unshared HtlcEvent.counterLabels events
      ["settled", "12", "3", "forward", ""] := by
    unfold Unshared
    decide +kernel
  refine ⟨latency, by decide +kernel, latencies labels latency counters, ?_, ?_⟩
  · exact ((shows _).mpr (.inr settled)).trans (by decide +kernel)
  · exact balance.trans (by decide +kernel)

/-- The labels of channels 12 and 3 and those of channels 1 and 23 run together to the same text. So
the second resolution is counted in the series of the first, and where it was timed its latency has
no counter beside it. -/
theorem resolution_joins_other_counter :
    (¬ ∀ (events : List HtlcEvent) (labels : List String),
      (empty.run events).countShown labels =
        (counted events).countP fun event => event.counterLabels = labels) ∧
    ¬ ∀ (events : List HtlcEvent) (labels : List String),
      (empty.run events).samplesShown labels ≤
        (empty.run events).metrics.resolved.sumOver id fun counter =>
          counter.dropLast = labels := by
  refine ⟨fun own => ?_, fun bounded => ?_⟩
  · have counts := own [between 12 3 0 .failedBack, between 1 23 0 .failedBack]
      ["failed", "1", "23", "forward", "failed_back"]
    exact absurd counts (by decide +kernel)
  · have samples := bounded [between 12 3 0 .failedBack, between 1 23 0 .forwarded,
      between 1 23 9 .failedBack] ["failed", "1", "23", "forward"]
    exact absurd samples (by decide +kernel)

end HtlcTracker

end LightningMetrics
