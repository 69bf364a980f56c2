import Mathlib.Data.List.Induction
import Mathlib.Data.List.Nodup
import LightningMetrics.Exporter.Aggregator
import LightningMetrics.Proofs.Fee.AmountReading
import LightningMetrics.Proofs.Fee.SeriesAmounts
import LightningMetrics.Proofs.Metrics.UseOrder

set_option autoImplicit false

namespace LightningMetrics

namespace SeriesTable

theorem Sound.nodup_fingerprints {α : Type} {table : SeriesTable α} (sound : table.Sound) :
    (table.toSeries.map fun series => fingerprint series.1).Nodup := by
  have keys : (table.toList.map fun entry => (entry.2.labels, entry.2.value)).map
      (fun series => fingerprint series.1) = table.toList.map Prod.fst := by
    rw [List.map_map]
    apply List.map_congr_left
    intro entry member
    exact sound entry.1 entry.2 (Std.TreeMap.mem_toList_iff_getElem?_eq_some.mp member)
  rw [(table.toSeries_perm.map _).nodup_iff, keys]
  exact List.pairwise_map.mpr (Std.TreeMap.distinct_keys_toList.imp fun apart same => by
    rw [same] at apart
    exact apart Std.ReflCmp.compare_self)

/-- Setting values one after the other leaves, for each fingerprint, the labels of the first and
the value of the last that have it. -/
theorem mem_toSeries_setAll {α : Type} (fresh : α) (uses : List (List String × α))
    (labels : List String) (value : α) :
    (labels, value) ∈ ((∅ : SeriesTable α).updateAll fresh (fun given _ => given) uses).toSeries ↔
      ∃ place first last,
        (uses.filter fun use => fingerprint use.1 = place).head? = some first ∧
          (uses.filter fun use => fingerprint use.1 = place).getLast? = some last ∧
          (labels, value) = (first.1, last.2) := by
  rw [mem_toSeries]
  apply exists_congr
  intro place
  rw [getElem?_updateAll, ← List.head?_filter]
  unfold broughtTo
  generalize (uses.filter fun use => decide (fingerprint use.1 = place)) = placed
  cases placed using List.reverseRecOn with
  | nil => simp
  | append_singleton before last =>
      rw [List.map_append, List.foldl_append, List.getLast?_append]
      cases before <;> simp [eq_comm]

end SeriesTable

namespace Exporter

/-- The fee series that the node's answers come to, where all three calls succeed and every
channel that the node lists is its own. -/
def feeAnswer? (base : UInt64) (answers : NodeAnswers) : Option (List (UInt64 × Binary64)) := do
  let info ← answers.info.toOption
  let channels ← answers.channels.toOption
  let edges ← (answers.nodeInfo info.identity true).toOption
  let policies ← (remotePolicies info.identity edges).toOption
  return Fee.inboundSeries base policies (balancesOf channels)

/-- The statistics that the node's answers come to, where it describes its graph. -/
def statsAnswer? (answers : NodeAnswers) : Option PolicyStats :=
  answers.graph.toOption.map PolicyStats.ofEdges

/-- What the last poll that succeeded came to. -/
def latest? {β : Type} (answer? : NodeAnswers → Option β) (history : List NodeAnswers) : Option β :=
  (history.filterMap answer?).getLast?

theorem toOption_queryFees (base : UInt64) (answers : NodeAnswers) :
    (queryFees base answers).2.toOption = feeAnswer? base answers := by
  unfold queryFees feeAnswer?
  cases answers.info with
  | error error => rfl
  | ok info =>
      cases answers.channels with
      | error error => rfl
      | ok channels =>
          dsimp only
          cases nodeInfo : answers.nodeInfo info.identity true with
          | error error => simp [Except.toOption, nodeInfo]
          | ok edges =>
              cases policies : remotePolicies info.identity edges <;>
                simp [Except.toOption, nodeInfo, policies]

theorem toOption_queryStats (answers : NodeAnswers) :
    (queryStats answers).2.toOption = statsAnswer? answers := by
  unfold queryStats statsAnswer?
  cases answers.graph <;> rfl

theorem latest?_concat {β : Type} (answer? : NodeAnswers → Option β)
    (history : List NodeAnswers) (answers : NodeAnswers) :
    latest? answer? (history ++ [answers]) = (answer? answers).or (latest? answer? history) := by
  unfold latest?
  rw [List.filterMap_append]
  cases given : answer? answers with
  | none => simp [given]
  | some value => simp [given]

theorem exists_of_latest? {β : Type} {answer? : NodeAnswers → Option β}
    {history : List NodeAnswers} {value : β} (last : latest? answer? history = some value) :
    ∃ answers ∈ history, answer? answers = some value :=
  List.mem_filterMap.mp (List.mem_of_getLast? last)

theorem nodup_feeAnswer {base : UInt64} {answers : NodeAnswers} {points : List (UInt64 × Binary64)}
    (given : feeAnswer? base answers = some points) : (points.map Prod.fst).Nodup := by
  simp only [feeAnswer?, Option.bind_eq_bind, Option.bind_eq_some_iff, pure, Option.some.injEq]
    at given
  obtain ⟨info, _, channels, _, edges, _, policies, _, rfl⟩ := given
  exact Fee.nodup_amounts base policies (balancesOf channels)

/-- The sample that a point asks for. -/
def feeSample (point : UInt64 × Binary64) : List String × Binary64 :=
  ([Fee.amountLabel point.1], point.2)

/-- The points whose labels have one fingerprint, in their order. -/
def pointsAt (place : UInt64) (points : List (UInt64 × Binary64)) : List (UInt64 × Binary64) :=
  points.filter fun point => fingerprint (feeSample point).1 = place

/-- Different labels of the points have different fingerprints. -/
def KeptApart (points : List (UInt64 × Binary64)) : Prop :=
  ∀ one ∈ points, ∀ other ∈ points,
    fingerprint [Fee.amountLabel one.1] = fingerprint [Fee.amountLabel other.1] →
      Fee.amountLabel one.1 = Fee.amountLabel other.1

instance (points : List (UInt64 × Binary64)) : Decidable (KeptApart points) :=
  inferInstanceAs (Decidable (∀ one ∈ points, ∀ other ∈ points, _ → _))

theorem feeGauges_eq (points : List (UInt64 × Binary64)) :
    feeGauges points =
      (∅ : SeriesTable Binary64).updateAll .zero (fun rate _ => rate) (points.map feeSample) := by
  unfold feeGauges SeriesTable.updateAll feeSample
  rw [List.foldl_map]

theorem sound_feeGauges (points : List (UInt64 × Binary64)) : (feeGauges points).Sound := by
  rw [feeGauges_eq]
  exact SeriesTable.sound_empty.updateAll _ _ _

theorem mem_feeGauges (points : List (UInt64 × Binary64)) (labels : List String)
    (rate : Binary64) :
    (labels, rate) ∈ (feeGauges points).toSeries ↔
      ∃ place first last, (pointsAt place points).head? = some first ∧
        (pointsAt place points).getLast? = some last ∧
        labels = [Fee.amountLabel first.1] ∧ rate = last.2 := by
  rw [feeGauges_eq, SeriesTable.mem_toSeries_setAll]
  have placed (place : UInt64) :
      ((points.map feeSample).filter fun use => fingerprint use.1 = place) =
        (pointsAt place points).map feeSample := by
    rw [List.filter_map, pointsAt, Function.comp_def]
  apply exists_congr
  intro place
  rw [placed, List.head?_map, List.getLast?_map]
  simp only [Option.map_eq_some_iff, Prod.mk.injEq]
  constructor
  · rintro ⟨_, _, ⟨first, head, rfl⟩, ⟨last, end', rfl⟩, labels, rate⟩
    exact ⟨first, last, head, end', labels, rate⟩
  · rintro ⟨first, last, head, end', labels, rate⟩
    exact ⟨_, _, ⟨first, head, rfl⟩, ⟨last, end', rfl⟩, labels, rate⟩

/-- The points of different amounts ask for different labels, so only the fingerprints of these
can fall together. -/
theorem nodup_fingerprints_iff {points : List (UInt64 × Binary64)}
    (distinct : (points.map Prod.fst).Nodup) :
    (points.map fun point => fingerprint (feeSample point).1).Nodup ↔ KeptApart points := by
  constructor
  · intro apart one member other there same
    rw [List.inj_on_of_nodup_map apart member there same]
  · intro apart
    refine List.Nodup.map_on (fun one member other there same => ?_) (.of_map _ distinct)
    have amounts := Fee.amountLabel_injective (apart one member other there same)
    exact List.inj_on_of_nodup_map distinct member there amounts

theorem pointsAt_of_nodup {points : List (UInt64 × Binary64)}
    (apart : (points.map fun point => fingerprint (feeSample point).1).Nodup)
    {point : UInt64 × Binary64} (member : point ∈ points) :
    pointsAt (fingerprint (feeSample point).1) points = [point] := by
  obtain ⟨before, after, rfl⟩ := List.append_of_mem member
  rw [List.map_append, List.map_cons, List.nodup_middle, List.nodup_cons, List.mem_append,
    not_or] at apart
  obtain ⟨⟨notBefore, notAfter⟩, _⟩ := apart
  have others {part : List (UInt64 × Binary64)}
      (elsewhere : fingerprint (feeSample point).1 ∉
        part.map fun other => fingerprint (feeSample other).1) :
      pointsAt (fingerprint (feeSample point).1) part = [] := by
    refine List.filter_eq_nil_iff.mpr fun other there same => elsewhere ?_
    rw [← of_decide_eq_true same]
    exact List.mem_map_of_mem there
  unfold pointsAt at others ⊢
  rw [List.filter_append, List.filter_cons, if_pos (decide_eq_true rfl), others notBefore,
    others notAfter]
  rfl

/-- The gauges of a series have a sample for each of its points exactly if the fingerprints keep
their labels apart. -/
theorem toSeries_feeGauges_perm_iff {points : List (UInt64 × Binary64)}
    (distinct : (points.map Prod.fst).Nodup) :
    (feeGauges points).toSeries.Perm (points.map feeSample) ↔ KeptApart points := by
  have shownApart := (sound_feeGauges points).nodup_fingerprints
  rw [← nodup_fingerprints_iff distinct]
  constructor
  · intro permuted
    rw [(permuted.map _).nodup_iff, List.map_map] at shownApart
    exact shownApart
  · intro apart
    have asked : (points.map feeSample).Nodup := by
      apply List.Nodup.of_map fun sample => fingerprint sample.1
      rw [List.map_map]
      exact apart
    refine (List.perm_ext_iff_of_nodup (.of_map _ shownApart) asked).mpr ?_
    rintro ⟨labels, rate⟩
    rw [mem_feeGauges, List.mem_map]
    constructor
    · rintro ⟨place, first, last, head, end', rfl, rfl⟩
      obtain ⟨member, here⟩ := List.mem_filter.mp (List.mem_of_head? head)
      rw [decide_eq_true_iff] at here
      subst here
      rw [pointsAt_of_nodup apart member] at end'
      cases end'
      exact ⟨first, member, rfl⟩
    · rintro ⟨point, member, same⟩
      cases same
      have alone := pointsAt_of_nodup apart member
      exact ⟨_, point, point, by rw [alone]; rfl, by rw [alone]; rfl, rfl, rfl⟩

/-- The gauges of the graph, each by its name. -/
def graphGauges (stats : PolicyStats) : List (String × Binary64) :=
  [("lnd_graph_timelock_delta_min", stats.timeLockDelta.min),
    ("lnd_graph_timelock_delta_max", stats.timeLockDelta.max),
    ("lnd_graph_timelock_delta_avg", stats.timeLockDelta.mean),
    ("lnd_graph_timelock_delta_median", stats.timeLockDelta.median),
    ("lnd_graph_min_htlc_msat_min", stats.minHtlc.min),
    ("lnd_graph_min_htlc_msat_max", stats.minHtlc.max),
    ("lnd_graph_min_htlc_msat_avg", stats.minHtlc.mean),
    ("lnd_graph_min_htlc_msat_median", stats.minHtlc.median),
    ("lnd_graph_max_htlc_msat_min", stats.maxHtlc.min),
    ("lnd_graph_max_htlc_msat_max", stats.maxHtlc.max),
    ("lnd_graph_max_htlc_msat_avg", stats.maxHtlc.mean),
    ("lnd_graph_max_htlc_msat_median", stats.maxHtlc.median),
    ("lnd_graph_fee_base_msat_min", stats.feeBase.min),
    ("lnd_graph_fee_base_msat_max", stats.feeBase.max),
    ("lnd_graph_fee_base_msat_avg", stats.feeBase.mean),
    ("lnd_graph_fee_base_msat_median", stats.feeBase.median),
    ("lnd_graph_fee_rate_msat_min", stats.feeRate.min),
    ("lnd_graph_fee_rate_msat_max", stats.feeRate.max),
    ("lnd_graph_fee_rate_msat_avg", stats.feeRate.mean),
    ("lnd_graph_fee_rate_msat_median", stats.feeRate.median)]

/-- What a family shows: its name, the names of its labels, and its series. -/
def Family.shape (family : Family) : String × List String × FamilySeries :=
  (family.name, family.labelNames, family.series)

theorem shape_statsFamilies (stats : PolicyStats) :
    (statsFamilies stats).map Family.shape =
      (graphGauges stats).map fun gauge => (gauge.1, [], .gauges [([], gauge.2)]) :=
  rfl

namespace Aggregator

/-- Refreshes the polled metrics again and again, under changing answers of the node. -/
def refreshes (exporter : Aggregator) (history : List NodeAnswers) : Aggregator :=
  history.foldl (fun exporter answers => (exporter.refresh answers).2) exporter

theorem refresh_snapshot (exporter : Aggregator) (answers : NodeAnswers) :
    (exporter.refresh answers).2.base = exporter.base ∧
      (exporter.refresh answers).2.fees =
        (feeAnswer? exporter.base answers).elim exporter.fees feeGauges ∧
      (exporter.refresh answers).2.stats = (statsAnswer? answers).getD exporter.stats := by
  rw [← toOption_queryFees, ← toOption_queryStats]
  simp only [refresh, refreshFees, refreshStats]
  refine ⟨trivial, ?_, ?_⟩
  · cases (queryFees exporter.base answers).2 <;> rfl
  · cases (queryStats answers).2 <;> rfl

theorem refreshes_snapshot (exporter : Aggregator) (history : List NodeAnswers) :
    (exporter.refreshes history).base = exporter.base ∧
      (exporter.refreshes history).fees =
        (latest? (feeAnswer? exporter.base) history).elim exporter.fees feeGauges ∧
      (exporter.refreshes history).stats =
        (latest? statsAnswer? history).getD exporter.stats := by
  induction history using List.reverseRecOn with
  | nil => exact ⟨rfl, rfl, rfl⟩
  | append_singleton history answers ih =>
      obtain ⟨base, fees, stats⟩ := ih
      obtain ⟨base', fees', stats'⟩ := (exporter.refreshes history).refresh_snapshot answers
      have last : exporter.refreshes (history ++ [answers]) =
          ((exporter.refreshes history).refresh answers).2 := by
        unfold refreshes
        rw [List.foldl_append]
        rfl
      rw [last, latest?_concat, latest?_concat]
      refine ⟨?_, ?_, ?_⟩
      · rw [base', base]
      · rw [fees', fees, base]
        cases feeAnswer? exporter.base answers <;> rfl
      · rw [stats', stats]
        cases statsAnswer? answers <;> rfl

theorem create_eq_ok {base : UInt64} {sinkCapacity : Nat} {exporter : Aggregator}
    (created : create base sinkCapacity = .ok exporter) :
    exporter.base = base ∧ exporter.fees = ∅ ∧ exporter.stats = .zero := by
  unfold create at created
  by_cases zero : base = 0
  · rw [if_pos zero] at created
    cases created
  · rw [if_neg zero] at created
    cases created
    exact ⟨rfl, rfl, rfl⟩

theorem refreshes_created {base : UInt64} {sinkCapacity : Nat} {exporter : Aggregator}
    (created : create base sinkCapacity = .ok exporter) (history : List NodeAnswers) :
    (exporter.refreshes history).base = base ∧
      (exporter.refreshes history).fees =
        feeGauges ((latest? (feeAnswer? base) history).getD []) ∧
      (exporter.refreshes history).stats = (latest? statsAnswer? history).getD .zero := by
  obtain ⟨rfl, noFees, noStats⟩ := create_eq_ok created
  obtain ⟨base, fees, stats⟩ := exporter.refreshes_snapshot history
  rw [noFees] at fees
  rw [noStats] at stats
  refine ⟨base, fees.trans ?_, stats⟩
  cases latest? (feeAnswer? exporter.base) history <;> rfl

theorem nodup_latest_fees (base : UInt64) (history : List NodeAnswers) :
    (((latest? (feeAnswer? base) history).getD []).map Prod.fst).Nodup := by
  cases last : latest? (feeAnswer? base) history with
  | none => exact List.nodup_nil
  | some points =>
      obtain ⟨answers, _, given⟩ := exists_of_latest? last
      exact nodup_feeAnswer given

end Aggregator

end Exporter

end LightningMetrics
