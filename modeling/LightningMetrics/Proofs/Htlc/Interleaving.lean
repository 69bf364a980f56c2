import LightningMetrics.Proofs.Htlc.Accounting
import LightningMetrics.Proofs.Metrics.UseOrder

set_option autoImplicit false

namespace LightningMetrics

namespace HtlcTracker

/-- The events of one HTLC. -/
def ofKey (key : HtlcKey) (events : List HtlcEvent) : List HtlcEvent :=
  events.filter fun event => event.key == key

/-- Both lists have the same events of every HTLC in the same order. -/
def Interleaves (first second : List HtlcEvent) : Prop :=
  ∀ key, ofKey key first = ofKey key second

theorem ofKey_concat (key : HtlcKey) (events : List HtlcEvent) (event : HtlcEvent) :
    ofKey key (events ++ [event]) =
      if event.key == key then ofKey key events ++ [event] else ofKey key events := by
  unfold ofKey
  cases own : event.key == key <;> simp [own]

/-- Only the keys that occur need to be looked at. -/
theorem interleaves_iff (first second : List HtlcEvent) :
    Interleaves first second ↔
      ∀ event ∈ first ++ second, ofKey event.key first = ofKey event.key second := by
  constructor
  · intro same event _
    exact same event.key
  · intro same key
    by_cases occurs : ∃ event ∈ first ++ second, event.key = key
    · obtain ⟨event, member, rfl⟩ := occurs
      exact same event member
    · push Not at occurs
      have nothing (events : List HtlcEvent) (among : ∀ event ∈ events, event ∈ first ++ second) :
          ofKey key events = [] := by
        apply List.filter_eq_nil_iff.mpr
        intro event member
        simpa using occurs event (among event member)
      rw [nothing first fun _ => List.mem_append_left second,
        nothing second fun _ => List.mem_append_right first]

instance (first second : List HtlcEvent) : Decidable (Interleaves first second) :=
  decidable_of_iff _ (interleaves_iff first second).symm

/-- Lists that agree on what belongs to each key are the same but for their order. -/
theorem perm_of_filter_key {α κ : Type} [DecidableEq α] [DecidableEq κ] (keyOf : α → κ)
    {first second : List α}
    (same : ∀ key, (first.filter fun item => keyOf item == key) =
      second.filter fun item => keyOf item == key) : first.Perm second := by
  apply List.perm_iff_count.mpr
  intro item
  have own (items : List α) :
      (items.filter fun other => keyOf other == keyOf item).count item = items.count item :=
    List.count_filter (beq_self_eq_true (keyOf item))
  rw [← own first, ← own second, same]

theorem Interleaves.perm {first second : List HtlcEvent} (same : Interleaves first second) :
    first.Perm second :=
  perm_of_filter_key HtlcEvent.key same

theorem not_opens_closes_of_ne {event : HtlcEvent} {key : HtlcKey} (other : event.key ≠ key) :
    event.opens key = false ∧ event.closes key = false := by
  simp [HtlcEvent.opens, HtlcEvent.closes, other]

theorem openingOf?_ofKey (key : HtlcKey) (events : List HtlcEvent) :
    openingOf? key (ofKey key events) = openingOf? key events := by
  induction events using List.reverseRecOn with
  | nil => rfl
  | append_singleton events event ih =>
      rw [ofKey_concat, openingOf?_concat]
      by_cases own : event.key = key
      · rw [if_pos (beq_iff_eq.mpr own), openingOf?_concat, ih]
      · obtain ⟨opens, closes⟩ := not_opens_closes_of_ne own
        rw [if_neg (by simpa using own), opens, closes, ih]
        simp

theorem Interleaves.getElem?_active {first second : List HtlcEvent}
    (same : Interleaves first second) (key : HtlcKey) :
    (empty.run first).active[key]? = (empty.run second).active[key]? := by
  rw [getElem?_active_run, getElem?_active_run, ← openingOf?_ofKey key first,
    ← openingOf?_ofKey key second, same key]

/-- What the tracker answers to each event: nothing, or why it rejects it. -/
def answers (tracker : HtlcTracker) :
    List HtlcEvent → List (HtlcEvent × Except MonitorError Unit)
  | [] => []
  | event :: rest =>
      (event, (tracker.process event).map fun _ => ()) :: (tracker.feed event).answers rest

/-- No answer depends on what was seen before. -/
theorem answers_eq (tracker : HtlcTracker) (events : List HtlcEvent) :
    tracker.answers events =
      events.map fun event => (event, (empty.process event).map fun _ => ()) := by
  have answer (event : HtlcEvent) (tracker : HtlcTracker) :
      (tracker.process event).map (fun _ => ()) = (empty.process event).map fun _ => () := by
    have alike := (tracker.isOk_process event).trans (empty.isOk_process event).symm
    cases processed : tracker.process event with
    | ok next =>
        rw [processed] at alike
        cases started : empty.process event with
        | ok other => rfl
        | error error =>
            rw [started] at alike
            cases alike
    | error error =>
        rw [(process_error processed).1 empty]
  induction events generalizing tracker with
  | nil => rfl
  | cons event rest ih =>
      rw [answers, ih, List.map_cons, answer]

theorem Interleaves.answers {first second : List HtlcEvent} (same : Interleaves first second)
    (key : HtlcKey) :
    ((empty.answers first).filter fun answer => answer.1.key == key) =
      (empty.answers second).filter fun answer => answer.1.key == key := by
  have own (events : List HtlcEvent) :
      ((empty.answers events).filter fun answer => answer.1.key == key) =
        (ofKey key events).map fun event => (event, (empty.process event).map fun _ => ()) := by
    rw [answers_eq, List.filter_map]
    rfl
  rw [own, own, same key]

/-- The observations, each with the key of its HTLC. -/
def keyedObservations (tracker : HtlcTracker) :
    List HtlcEvent → List (HtlcKey × List String × UInt64)
  | [] => []
  | event :: rest =>
      (tracker.observation? event).toList.map (event.key, ·) ++
        (tracker.feed event).keyedObservations rest

theorem map_keyedObservations (tracker : HtlcTracker) (events : List HtlcEvent) :
    (tracker.keyedObservations events).map Prod.snd = tracker.observations events := by
  induction events generalizing tracker with
  | nil => rfl
  | cons event rest ih =>
      rw [keyedObservations, observations, List.map_append, ih, List.map_map]
      exact congrArg (· ++ _) (List.map_id (tracker.observation? event).toList)

/-- Of what one HTLC is tagged with, its own key finds all and another finds nothing. -/
theorem filter_tagged {β : Type} (own key : HtlcKey) (items : List β) :
    ((items.map (own, ·)).filter fun tagged => tagged.1 == key) =
      if own = key then items.map (own, ·) else [] := by
  rw [List.filter_map]
  by_cases same : own = key
  · rw [if_pos same, List.filter_eq_self.mpr]
    intro _ _
    exact beq_iff_eq.mpr same
  · rw [if_neg same, List.filter_eq_nil_iff.mpr, List.map_nil]
    intro _ _
    simpa using same

/-- The observations of an HTLC are those that its own events make, as far as its entry goes. -/
theorem keyedObservations_ofKey (key : HtlcKey) (events : List HtlcEvent) :
    ∀ tracker alone : HtlcTracker, tracker.active[key]? = alone.active[key]? →
      ((tracker.keyedObservations events).filter fun observed => observed.1 == key) =
        alone.keyedObservations (ofKey key events) := by
  induction events with
  | nil =>
      intro tracker alone _
      rfl
  | cons event rest ih =>
      intro tracker alone entry
      have entryAfter := tracker.getElem?_active_feed event key
      rw [keyedObservations, List.filter_append, filter_tagged]
      by_cases own : event.key = key
      · have observes : tracker.observation? event = alone.observation? event := by
          rw [observation?_eq, observation?_eq, own, entry]
        have split : ofKey key (event :: rest) = event :: ofKey key rest :=
          List.filter_cons_of_pos (beq_iff_eq.mpr own)
        have later := ih (tracker.feed event) (alone.feed event) (by
          rw [entryAfter, getElem?_active_feed, entry])
        rw [if_pos own, split, keyedObservations, observes, later]
      · obtain ⟨opens, closes⟩ := not_opens_closes_of_ne own
        have split : ofKey key (event :: rest) = ofKey key rest :=
          List.filter_cons_of_neg (by simpa using own)
        have later := ih (tracker.feed event) alone (by
          rw [entryAfter, opens, closes]
          exact entry)
        rw [if_neg own, split, later]
        rfl

theorem Interleaves.observations {first second : List HtlcEvent}
    (same : Interleaves first second) :
    (empty.observations first).Perm (empty.observations second) := by
  rw [← map_keyedObservations, ← map_keyedObservations]
  apply List.Perm.map
  apply perm_of_filter_key Prod.fst
  intro key
  rw [keyedObservations_ofKey key first empty empty rfl,
    keyedObservations_ofKey key second empty empty rfl, same key]

theorem Interleaves.counterUses {first second : List HtlcEvent}
    (same : Interleaves first second) : (counterUses first).Perm (counterUses second) :=
  (same.perm.filter _).map _

/-- The histogram of some times in flight; a series without any does not exist. -/
def histogramOf (nanos : List UInt64) : Option Histogram :=
  if nanos.isEmpty then none
  else some ((Histogram.empty resolutionBounds).observeAll (nanos.map secondsOfNanos))

/-- The times in flight that went into the latency series at a fingerprint. -/
def latenciesAt (events : List HtlcEvent) (place : UInt64) : List UInt64 :=
  SeriesTable.broughtTo place (empty.observations events)

/-- The times in flight that went into the latency series that is shown under some labels. -/
def latenciesUnder (events : List HtlcEvent) (labels : List String) : List UInt64 :=
  SeriesTable.broughtUnder (empty.observations events) labels

theorem resolutionTime_run_at (events : List HtlcEvent) (place : UInt64) :
    (empty.run events).metrics.resolutionTime[place]?.map LabelledSeries.value =
      histogramOf (latenciesAt events place) := by
  rw [resolutionTime_run, SeriesTable.getElem?_updateAll]
  unfold histogramOf latenciesAt Histogram.observeAll
  rw [List.foldl_map]
  cases used : (empty.observations events).find? fun use => fingerprint use.1 = place with
  | none =>
      rw [SeriesTable.broughtTo_of_unused used]
      rfl
  | some first =>
      rw [if_neg (by simpa using SeriesTable.broughtTo_ne_nil used)]
      rfl

theorem resolutionTime_run_shown (events : List HtlcEvent) (labels : List String) :
    (empty.run events).metrics.resolutionTime.shown? labels =
      histogramOf (latenciesUnder events labels) := by
  rw [resolutionTime_run, SeriesTable.shown?_updateAll]
  unfold histogramOf latenciesUnder Histogram.observeAll
  rw [List.foldl_map]

theorem histogramOf_of_perm {first second : List UInt64} (permuted : first.Perm second) :
    (histogramOf first).map (fun histogram => (histogram.buckets, histogram.count)) =
      (histogramOf second).map fun histogram => (histogram.buckets, histogram.count) := by
  obtain ⟨buckets, count⟩ := Histogram.observeAll_of_perm (permuted.map secondsOfNanos)
    (.empty resolutionBounds)
  unfold histogramOf
  rw [permuted.isEmpty_eq]
  cases second.isEmpty with
  | true => rfl
  | false => exact congrArg some (Prod.ext buckets count)

/-- Two lists of events that tell each HTLC the same, whatever they tell in between, lead to the
same active HTLCs with the same times and to the same answers. Each counter has the same value, and
each latency series was brought the same times, so that only its sum can differ. The counters are
shown alike exactly if each resolution is counted under the same labels in both, and so are the
latencies: the labels are those of the first use of a fingerprint, which the order decides. -/
theorem interleavings_agree (first second : List HtlcEvent) (same : Interleaves first second) :
    let one := empty.run first
    let other := empty.run second
    one.active.toList = other.active.toList ∧
    (∀ key, ((empty.answers first).filter fun answer => answer.1.key == key) =
      (empty.answers second).filter fun answer => answer.1.key == key) ∧
    (∀ place : UInt64, one.metrics.resolved[place]?.map LabelledSeries.value =
      other.metrics.resolved[place]?.map LabelledSeries.value) ∧
    (∀ place : UInt64,
      one.metrics.resolutionTime[place]?.map LabelledSeries.value =
        histogramOf (latenciesAt first place) ∧
      other.metrics.resolutionTime[place]?.map LabelledSeries.value =
        histogramOf (latenciesAt second place) ∧
      (latenciesAt first place).Perm (latenciesAt second place) ∧
      (histogramOf (latenciesAt first place)).map
          (fun histogram => (histogram.buckets, histogram.count)) =
        (histogramOf (latenciesAt second place)).map
          fun histogram => (histogram.buckets, histogram.count)) ∧
    (one.metrics.resolved.toSeries = other.metrics.resolved.toSeries ↔
      ∀ event ∈ counted first, counterShownAs first event.counterLabels =
        counterShownAs second event.counterLabels) ∧
    (∀ labels,
      one.metrics.resolutionTime.shown? labels = histogramOf (latenciesUnder first labels) ∧
      other.metrics.resolutionTime.shown? labels =
        histogramOf (latenciesUnder second labels)) ∧
    ((∀ labels, (latenciesUnder first labels).Perm (latenciesUnder second labels)) ↔
      ∀ observed ∈ empty.observations first,
        shownLabels first observed.1 = shownLabels second observed.1) := by
  intro one other
  have places (place : UInt64) : (latenciesAt first place).Perm (latenciesAt second place) :=
    SeriesTable.broughtTo_of_perm same.observations place
  have counting : ∀ uses others : List Unit, uses.Perm others →
      uses.foldl (fun count _ => count + 1) 0 = others.foldl (fun count _ => count + 1) 0 := by
    intro uses others permuted
    apply permuted.foldl_eq'
    intro _ _ _ _ count
    rfl
  refine ⟨?_, same.answers, ?_, ?_, ?_, ?_, ?_⟩
  · have equivalent := Std.TreeMap.Equiv.of_forall_constGet?_eq same.getElem?_active
    exact equivalent.toList_eq
  · intro place
    have values := SeriesTable.view_updateAll_of_perm same.counterUses (fun count => count)
      counting place
    rw [← resolved_run, ← resolved_run] at values
    exact values
  · intro place
    exact ⟨resolutionTime_run_at first place, resolutionTime_run_at second place, places place,
      histogramOf_of_perm (places place)⟩
  · have shown := SeriesTable.toSeries_updateAll_eq_iff same.counterUses counting
    rw [← resolved_run, ← resolved_run] at shown
    refine shown.trans ?_
    unfold SeriesTable.ShowAlike counterUses
    exact List.forall_mem_map
  · intro labels
    exact ⟨resolutionTime_run_shown first labels, resolutionTime_run_shown second labels⟩
  · exact SeriesTable.broughtUnder_perm_iff same.observations

/-- Two HTLCs between one pair of channels, told in turn and one after the other. They share their
series, and the labels do not depend on which is first. -/
theorem interleavings_agree_of_shared_channels :
    let late (time : UInt64) (stage : HtlcStage) : HtlcEvent :=
      ⟨⟨⟨12, 5⟩, ⟨3, 6⟩⟩, time, .forward, stage⟩
    let first := [between 12 3 50 .forwarded, late 60 .forwarded, between 12 3 90 .settled,
      late 75 .settled]
    let second := [late 60 .forwarded, late 75 .settled, between 12 3 50 .forwarded,
      between 12 3 90 .settled]
    let labels := ["settled", "12", "3", "forward"]
    Interleaves first second ∧
      (empty.run first).active.toList = (empty.run second).active.toList ∧
      (empty.run first).metrics.resolved.toSeries = (empty.run second).metrics.resolved.toSeries ∧
      latenciesUnder first labels = [40, 15] ∧ latenciesUnder second labels = [15, 40] ∧
      (latenciesUnder first labels).Perm (latenciesUnder second labels) := by
  intro late first second labels
  have same : Interleaves first second := by decide +kernel
  obtain ⟨active, _, _, _, counters, _, latencies⟩ := interleavings_agree first second same
  have countedAlike : ∀ event ∈ counted first, counterShownAs first event.counterLabels =
      counterShownAs second event.counterLabels := by decide +kernel
  have observedAlike : ∀ observed ∈ empty.observations first,
      shownLabels first observed.1 = shownLabels second observed.1 := by decide +kernel
  refine ⟨same, active, counters.mpr countedAlike, by decide +kernel, by decide +kernel, ?_⟩
  exact latencies.mpr observedAlike labels

/-- The labels of channels 12 and 3 and those of channels 1 and 23 run together to the same text, so
two HTLCs of these channels are shown under the labels of the one that is resolved first. -/
theorem order_decides_shared_labels :
    (¬ ∀ first second : List HtlcEvent, Interleaves first second → ∀ labels,
      (empty.run first).countShown labels = (empty.run second).countShown labels) ∧
    ¬ ∀ first second : List HtlcEvent, Interleaves first second → ∀ labels,
      (latenciesUnder first labels).Perm (latenciesUnder second labels) := by
  constructor
  · intro alike
    have counts := alike [between 12 3 0 .failedBack, between 1 23 0 .failedBack]
      [between 1 23 0 .failedBack, between 12 3 0 .failedBack] (by decide +kernel)
      ["failed", "12", "3", "forward", "failed_back"]
    exact absurd counts (by decide +kernel)
  · intro alike
    have latencies := alike
      [between 12 3 0 .forwarded, between 12 3 5 .failedBack, between 1 23 0 .forwarded,
        between 1 23 9 .failedBack]
      [between 1 23 0 .forwarded, between 1 23 9 .failedBack, between 12 3 0 .forwarded,
        between 12 3 5 .failedBack] (by decide +kernel) ["failed", "12", "3", "forward"]
    have untimed : latenciesUnder
        [between 1 23 0 .forwarded, between 1 23 9 .failedBack, between 12 3 0 .forwarded,
          between 12 3 5 .failedBack] ["failed", "12", "3", "forward"] = [] := by
      decide +kernel
    rw [untimed] at latencies
    exact absurd latencies.eq_nil (by decide +kernel)

end HtlcTracker

end LightningMetrics
