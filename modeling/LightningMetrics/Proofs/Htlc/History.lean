import Mathlib.Data.List.DropRight
import LightningMetrics.Proofs.Htlc.Processing
import LightningMetrics.Proofs.Metrics.ShownSeries

set_option autoImplicit false

namespace LightningMetrics.HtlcTracker

/-- The first forward of `key` after its last accepted resolution. -/
def openingOf? (key : HtlcKey) (events : List HtlcEvent) : Option HtlcEvent :=
  (events.rtakeWhile fun event => !event.closes key).find? (·.opens key)

@[simp] theorem run_nil (tracker : HtlcTracker) : tracker.run [] = tracker := rfl

theorem run_concat (tracker : HtlcTracker) (events : List HtlcEvent) (event : HtlcEvent) :
    tracker.run (events ++ [event]) = (tracker.run events).feed event := by
  simp [run, List.foldl_append]

theorem openingOf?_concat (key : HtlcKey) (events : List HtlcEvent) (event : HtlcEvent) :
    openingOf? key (events ++ [event]) =
      if event.closes key then none
      else (openingOf? key events).or (if event.opens key then some event else none) := by
  unfold openingOf?
  rw [List.rtakeWhile_concat]
  cases closes : event.closes key <;> simp [List.find?_append, List.find?_singleton]

/-- The stored time is that of the first forward since the last accepted resolution. -/
theorem getElem?_active_run (events : List HtlcEvent) (key : HtlcKey) :
    (empty.run events).active[key]? = (openingOf? key events).map (·.time) := by
  induction events using List.reverseRecOn with
  | nil => simp [openingOf?, empty]
  | append_singleton events event ih =>
      rw [run_concat, getElem?_active_feed, openingOf?_concat, ih]
      cases event.closes key <;> cases event.opens key <;>
        cases openingOf? key events <;> rfl

/-- There is an opening exactly where a forward is not followed by an accepted resolution. -/
theorem isSome_openingOf?_iff (key : HtlcKey) (events : List HtlcEvent) :
    (openingOf? key events).isSome ↔
      ∃ before opening after, events = before ++ opening :: after ∧
        opening.opens key = true ∧ ∀ later ∈ after, later.closes key = false := by
  induction events using List.reverseRecOn with
  | nil => simp [openingOf?]
  | append_singleton events event ih =>
      rw [openingOf?_concat]
      constructor
      · intro found
        cases closes : event.closes key with
        | true => simp [closes] at found
        | false =>
            cases opening : openingOf? key events with
            | some first =>
                obtain ⟨before, first, after, rfl, opens, open_⟩ := ih.mp (by simp [opening])
                refine ⟨before, first, after ++ [event], by simp, opens, ?_⟩
                intro later member
                rcases List.mem_append.mp member with member | member
                · exact open_ later member
                · rw [List.mem_singleton.mp member]
                  exact closes
            | none =>
                have opens : event.opens key = true := by
                  cases opens : event.opens key <;> simp_all
                exact ⟨events, event, [], rfl, opens, by simp⟩
      · rintro ⟨before, opening, after, split, opens, stays⟩
        rcases List.eq_nil_or_concat after with rfl | ⟨rest, last, rfl⟩
        · obtain ⟨rfl, same⟩ := List.append_inj' split rfl
          cases same
          rw [HtlcEvent.closes_eq_false_of_opens opens, opens]
          simp
        · have split' : events ++ [event] = (before ++ opening :: rest) ++ [last] := by
            simpa using split
          obtain ⟨rfl, same⟩ := List.append_inj' split' rfl
          cases same
          have closes := stays event (by simp)
          have found := ih.mpr ⟨before, opening, rest, rfl, opens,
            fun later member => stays later (by simp [member])⟩
          rw [closes]
          simp [found]

theorem observations_concat (tracker : HtlcTracker) (events : List HtlcEvent)
    (event : HtlcEvent) :
    tracker.observations (events ++ [event]) =
      tracker.observations events ++ ((tracker.run events).observation? event).toList := by
  induction events generalizing tracker with
  | nil => simp [observations]
  | cons first rest ih => simp [observations, ih, run]

theorem resolutionTime_run (events : List HtlcEvent) :
    (empty.run events).metrics.resolutionTime =
      (∅ : SeriesTable Histogram).updateAll (.empty resolutionBounds)
        (fun nanos histogram => histogram.observe (secondsOfNanos nanos))
        (empty.observations events) := by
  induction events using List.reverseRecOn with
  | nil => rfl
  | append_singleton events event ih =>
      rw [run_concat, resolutionTime_feed, observations_concat, ih]
      cases (empty.run events).observation? event <;>
        simp [SeriesTable.updateAll, List.foldl_append]

theorem sound_resolutionTime_run (events : List HtlcEvent) :
    (empty.run events).metrics.resolutionTime.Sound := by
  rw [resolutionTime_run]
  exact SeriesTable.sound_empty.updateAll _ _ _

theorem toNat_elapsed (start finish : UInt64) :
    (elapsed start finish).toNat = finish.toNat - start.toNat := by
  unfold elapsed
  split
  · rename_i order
    exact UInt64.toNat_sub_of_le finish start order
  · rename_i order
    have order' : finish.toNat < start.toNat := by
      simpa [UInt64.le_iff_toNat_le] using order
    simp
    omega

/-- The labels under which a run shows an observation for `labels`: those of the first
observation with this fingerprint, or `labels` themselves. -/
def shownLabels (events : List HtlcEvent) (labels : List String) : List String :=
  ((SeriesTable.firstUse? (empty.observations events) labels).map Prod.fst).getD labels

theorem shownAs_resolutionTime_run (events : List HtlcEvent) (labels : List String) :
    (empty.run events).metrics.resolutionTime.shownAs labels = shownLabels events labels := by
  rw [resolutionTime_run, SeriesTable.shownAs_updateAll]
  rfl

/-- One more observation of `nanos` in the latency series shown under `labels`, and none
elsewhere. -/
def ObservesOnce (before after : HtlcTracker) (labels : List String) (nanos : UInt64) : Prop :=
  before.metrics.resolutionTime.Adds after.metrics.resolutionTime labels
    (.empty resolutionBounds) (·.observe (secondsOfNanos nanos))

theorem resolutionTime_run_concat_of_idle (events : List HtlcEvent) (event : HtlcEvent)
    (idle : event.closes event.key = false ∨ (empty.run events).active[event.key]? = none) :
    (empty.run (events ++ [event])).metrics.resolutionTime =
      (empty.run events).metrics.resolutionTime := by
  rw [run_concat, resolutionTime_feed, observation?_eq]
  rcases idle with keeps | absent
  · simp [keeps]
  · simp [absent]

theorem resolutionTime_run_concat_of_closes (events : List HtlcEvent) (event : HtlcEvent)
    (start : UInt64) (closes : event.closes event.key = true)
    (active : (empty.run events).active[event.key]? = some start) :
    (empty.run (events ++ [event])).metrics.resolutionTime =
      (empty.run events).metrics.resolutionTime.update event.latencyLabels
        (.empty resolutionBounds) (·.observe (secondsOfNanos (elapsed start event.time))) := by
  rw [run_concat, resolutionTime_feed, observation?_eq, closes, active]
  rfl

/-- What a run of events leaves in the table, and what each next event observes. The observation
is shown once, under the labels that were first observed with its fingerprint, which need not be
its own. -/
theorem history_of_run (events : List HtlcEvent) :
    (∀ (tracker : HtlcTracker) (event : HtlcEvent),
      (tracker.process event).isOk = event.isAccepted) ∧
    (∀ key : HtlcKey, key ∈ (empty.run events).active ↔
      ∃ before opening after, events = before ++ opening :: after ∧
        opening.opens key = true ∧ ∀ later ∈ after, later.closes key = false) ∧
    (∀ key : HtlcKey,
      (empty.run events).active[key]? = (openingOf? key events).map (·.time)) ∧
    (∀ (event : HtlcEvent) (start : UInt64), event.closes event.key = true →
      (empty.run events).active[event.key]? = some start →
        (empty.run (events ++ [event])).active[event.key]? = none ∧
        (elapsed start event.time).toNat = event.time.toNat - start.toNat ∧
        ObservesOnce (empty.run events) (empty.run (events ++ [event]))
          (shownLabels events event.latencyLabels) (elapsed start event.time) ∧
        (ObservesOnce (empty.run events) (empty.run (events ++ [event]))
            event.latencyLabels (elapsed start event.time) ↔
          shownLabels events event.latencyLabels = event.latencyLabels)) ∧
    (∀ event : HtlcEvent,
      event.closes event.key = false ∨ (empty.run events).active[event.key]? = none →
        (empty.run (events ++ [event])).metrics.resolutionTime =
          (empty.run events).metrics.resolutionTime) := by
  refine ⟨isOk_process, ?_, getElem?_active_run events, ?_,
    resolutionTime_run_concat_of_idle events⟩
  · intro key
    rw [Std.TreeMap.mem_iff_isSome_getElem?, getElem?_active_run, Option.isSome_map]
    exact isSome_openingOf?_iff key events
  · intro event start closes active
    have sound := sound_resolutionTime_run events
    have update := resolutionTime_run_concat_of_closes events event start closes active
    refine ⟨?_, toNat_elapsed start event.time, ?_, ?_⟩
    · rw [run_concat, getElem?_active_feed, closes]
      rfl
    · rw [ObservesOnce, update, ← shownAs_resolutionTime_run]
      exact sound.adds_update _ _ _
    · rw [ObservesOnce, update, ← shownAs_resolutionTime_run]
      exact sound.adds_update_own_iff _ _ _

/-- An event of an HTLC that was forwarded from one channel to another. -/
def between (incoming outgoing time : UInt64) (stage : HtlcStage) : HtlcEvent :=
  ⟨⟨⟨incoming, 1⟩, ⟨outgoing, 2⟩⟩, time, .forward, stage⟩

/-- A replayed forward, and a settlement that the node dates before it. -/
theorem history_of_replayed_forward :
    (between 12 3 90 .forwarded).closes (between 12 3 90 .forwarded).key = false ∧
      (empty.run [between 12 3 50 .forwarded, between 12 3 90 .forwarded]).metrics.resolutionTime =
        (empty.run [between 12 3 50 .forwarded]).metrics.resolutionTime ∧
      (between 12 3 40 .settled).closes (between 12 3 40 .settled).key = true ∧
      (empty.run [between 12 3 50 .forwarded, between 12 3 90 .forwarded]).active[
        (between 12 3 40 .settled).key]? = some 50 ∧
      (elapsed 50 40).toNat = 40 - 50 ∧
      ObservesOnce (empty.run [between 12 3 50 .forwarded, between 12 3 90 .forwarded])
        (empty.run [between 12 3 50 .forwarded, between 12 3 90 .forwarded,
          between 12 3 40 .settled])
        ["settled", "12", "3", "forward"] (elapsed 50 40) := by
  have keeps : (between 12 3 90 .forwarded).closes (between 12 3 90 .forwarded).key = false := by
    decide +kernel
  have idle := (history_of_run [between 12 3 50 .forwarded]).2.2.2.2
    (between 12 3 90 .forwarded) (Or.inl keeps)
  have closes : (between 12 3 40 .settled).closes (between 12 3 40 .settled).key = true := by
    decide +kernel
  have active : (empty.run [between 12 3 50 .forwarded, between 12 3 90 .forwarded]).active[
      (between 12 3 40 .settled).key]? = some 50 := by decide +kernel
  have told := (history_of_run [between 12 3 50 .forwarded, between 12 3 90 .forwarded]).2.2.2.1
    (between 12 3 40 .settled) 50 closes active
  exact ⟨keeps, idle, closes, active, told.2.1, told.2.2.2.mpr (by decide +kernel)⟩

/-- The labels of channels 12 and 3 and those of channels 1 and 23 run together to the same text,
so the second observation is not shown under its own labels. -/
theorem observation_joins_other_series :
    ¬ ∀ (events : List HtlcEvent) (event : HtlcEvent) (start : UInt64),
      event.closes event.key = true →
      (empty.run events).active[event.key]? = some start →
        ObservesOnce (empty.run events) (empty.run (events ++ [event]))
          event.latencyLabels (elapsed start event.time) := by
  intro own
  have shown := own
    [between 12 3 0 .forwarded, between 12 3 5000000000 .failedBack, between 1 23 0 .forwarded]
    (between 1 23 50000000000 (.failedHere "no route")) 0
    (by decide +kernel) (by decide +kernel) ["failed", "1", "23", "forward"]
  have hidden : (empty.run ([between 12 3 0 .forwarded,
      between 12 3 5000000000 .failedBack, between 1 23 0 .forwarded] ++
      [between 1 23 50000000000 (.failedHere "no route")])).metrics.resolutionTime.shown?
        ["failed", "1", "23", "forward"] = none := by decide +kernel
  rw [hidden, if_pos (by decide +kernel)] at shown
  cases shown

end LightningMetrics.HtlcTracker
