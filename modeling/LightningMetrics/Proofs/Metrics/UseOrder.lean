import LightningMetrics.Metrics.Histogram
import LightningMetrics.Proofs.Metrics.SeriesTotals

/-!
What the order of its uses makes of a table of labelled series. A series holds what the uses with
its fingerprint make of a fresh value, so only the labels, which are those of the first such use,
and what a value itself owes to the order can differ. The buckets and the number of observations
of a histogram owe nothing to it.
-/

set_option autoImplicit false

namespace LightningMetrics

variable {α β : Type}

namespace Histogram

/-- Observes values one after the other. -/
def observeAll (histogram : Histogram) (values : List Binary64) : Histogram :=
  values.foldl observe histogram

theorem countIn_comm (first second : Binary64) (buckets : List (Binary64 × Nat)) :
    countIn first (countIn second buckets) = countIn second (countIn first buckets) := by
  induction buckets with
  | nil => rfl
  | cons bucket rest ih =>
      obtain ⟨bound, count⟩ := bucket
      cases below : first.le bound <;> cases belowToo : second.le bound <;>
        simp [countIn, below, belowToo, ih]

theorem buckets_observeAll (histogram : Histogram) (values : List Binary64) :
    (histogram.observeAll values).buckets =
      values.foldl (fun buckets value => countIn value buckets) histogram.buckets := by
  unfold observeAll
  induction values generalizing histogram with
  | nil => rfl
  | cons value rest ih => exact ih (histogram.observe value)

theorem count_observeAll (histogram : Histogram) (values : List Binary64) :
    (histogram.observeAll values).count = histogram.count + values.length := by
  unfold observeAll
  induction values generalizing histogram with
  | nil => rfl
  | cons value rest ih =>
      have later := ih (histogram.observe value)
      rw [count_observe] at later
      rw [List.foldl_cons, later, List.length_cons]
      omega

/-- Only the sum of a histogram can tell in which order it was filled. -/
theorem observeAll_of_perm {first second : List Binary64} (permuted : first.Perm second)
    (histogram : Histogram) :
    (histogram.observeAll first).buckets = (histogram.observeAll second).buckets ∧
      (histogram.observeAll first).count = (histogram.observeAll second).count := by
  constructor
  · rw [buckets_observeAll, buckets_observeAll]
    apply permuted.foldl_eq'
    intro one _ other _ buckets
    exact countIn_comm other one buckets
  · rw [count_observeAll, count_observeAll, permuted.length_eq]

end Histogram

namespace SeriesTable

/-- What the uses with this fingerprint bring, in their order. -/
def broughtTo (place : UInt64) (uses : List (List String × β)) : List β :=
  (uses.filter fun use => fingerprint use.1 = place).map Prod.snd

theorem broughtTo_concat (place : UInt64) (uses : List (List String × β))
    (use : List String × β) :
    broughtTo place (uses ++ [use]) =
      if fingerprint use.1 = place then broughtTo place uses ++ [use.2]
      else broughtTo place uses := by
  unfold broughtTo
  by_cases here : fingerprint use.1 = place <;> simp [here]

theorem broughtTo_of_unused {place : UInt64} {uses : List (List String × β)}
    (unused : (uses.find? fun use => fingerprint use.1 = place) = none) :
    broughtTo place uses = [] := by
  have apart := List.find?_eq_none.mp unused
  unfold broughtTo
  rw [List.filter_eq_nil_iff.mpr apart]
  rfl

theorem broughtTo_ne_nil {place : UInt64} {uses : List (List String × β)}
    {first : List String × β}
    (used : (uses.find? fun use => fingerprint use.1 = place) = some first) :
    broughtTo place uses ≠ [] := by
  have here : fingerprint first.1 = place := by simpa using List.find?_some used
  unfold broughtTo
  rw [Ne, List.map_eq_nil_iff, List.filter_eq_nil_iff]
  intro unused
  exact unused first (List.mem_of_find?_eq_some used) (decide_eq_true here)

/-- In a table that began empty a series has the labels of its first use, and holds what its uses
have made of a fresh value. -/
theorem getElem?_updateAll (fresh : α) (change : β → α → α) (uses : List (List String × β))
    (place : UInt64) :
    ((∅ : SeriesTable α).updateAll fresh change uses)[place]? =
      (uses.find? fun use => fingerprint use.1 = place).map fun first =>
        ⟨first.1, (broughtTo place uses).foldl (fun value use => change use value) fresh⟩ := by
  induction uses using List.reverseRecOn with
  | nil => simp [updateAll]
  | append_singleton uses use ih =>
      rw [updateAll_concat, getElem?_update, broughtTo_concat, List.find?_append,
        List.find?_singleton]
      by_cases here : fingerprint use.1 = place
      · subst here
        rw [if_pos rfl, if_pos rfl, if_pos (decide_eq_true rfl), List.foldl_append]
        unfold shownAs
        rw [ih]
        cases used : uses.find? fun other => fingerprint other.1 = fingerprint use.1 with
        | none =>
            rw [broughtTo_of_unused used]
            rfl
        | some first => rfl
      · have apart : ¬ decide (fingerprint use.1 = place) = true := by simpa using here
        rw [if_neg here, if_neg here, if_neg apart, ih, Option.or_none]

theorem broughtTo_of_perm {first second : List (List String × β)} (permuted : first.Perm second)
    (place : UInt64) : (broughtTo place first).Perm (broughtTo place second) :=
  (permuted.filter _).map _

theorem isSome_find?_of_perm {first second : List (List String × β)}
    (permuted : first.Perm second) (place : UInt64) :
    (first.find? fun use => fingerprint use.1 = place).isSome =
      (second.find? fun use => fingerprint use.1 = place).isSome := by
  rw [Bool.eq_iff_iff, List.find?_isSome, List.find?_isSome]
  constructor
  · rintro ⟨use, member, here⟩
    exact ⟨use, permuted.mem_iff.mp member, here⟩
  · rintro ⟨use, member, here⟩
    exact ⟨use, permuted.mem_iff.mpr member, here⟩

/-- Whatever `view` sees of a value alike for reordered uses, it sees alike of every series. -/
theorem view_updateAll_of_perm {γ : Type} {fresh : α} {change : β → α → α}
    {first second : List (List String × β)} (permuted : first.Perm second) (view : α → γ)
    (alike : ∀ one other : List β, one.Perm other →
      view (one.foldl (fun value use => change use value) fresh) =
        view (other.foldl (fun value use => change use value) fresh)) (place : UInt64) :
    ((∅ : SeriesTable α).updateAll fresh change first)[place]?.map (fun series =>
        view series.value) =
      ((∅ : SeriesTable α).updateAll fresh change second)[place]?.map fun series =>
        view series.value := by
  have values := alike _ _ (broughtTo_of_perm permuted place)
  have present := isSome_find?_of_perm permuted place
  rw [getElem?_updateAll, getElem?_updateAll]
  cases used : first.find? fun use => fingerprint use.1 = place with
  | none =>
      rw [used] at present
      rw [Option.not_isSome_iff_eq_none.mp (Bool.eq_false_iff.mp present.symm)]
      rfl
  | some own =>
      rw [used] at present
      obtain ⟨other, usedToo⟩ := Option.isSome_iff_exists.mp present.symm
      rw [usedToo]
      exact congrArg some values

/-- What the uses bring that are shown under these labels. -/
def broughtUnder (uses : List (List String × β)) (labels : List String) : List β :=
  (uses.filter fun use => firstLabels uses use.1 = labels).map Prod.snd

theorem map_firstUse?_of_mem {uses : List (List String × β)} {use : List String × β}
    (member : use ∈ uses) {labels : List String} (shared : fingerprint use.1 = fingerprint labels) :
    (firstUse? uses labels).map Prod.fst = some (firstLabels uses use.1) := by
  have used : (firstUse? uses labels).isSome := by
    unfold firstUse?
    rw [List.find?_isSome]
    exact ⟨use, member, decide_eq_true shared⟩
  obtain ⟨first, found⟩ := Option.isSome_iff_exists.mp used
  rw [← firstLabels_congr member shared]
  unfold firstLabels
  rw [found]
  rfl

theorem broughtUnder_eq (uses : List (List String × β)) (labels : List String) :
    broughtUnder uses labels =
      if (firstUse? uses labels).map Prod.fst = some labels then
        broughtTo (fingerprint labels) uses
      else [] := by
  have place {use : List String × β} (shown : firstLabels uses use.1 = labels) :
      fingerprint use.1 = fingerprint labels := by
    rw [← shown, fingerprint_firstLabels]
  unfold broughtUnder broughtTo
  by_cases own : (firstUse? uses labels).map Prod.fst = some labels
  · rw [if_pos own]
    congr 1
    apply List.filter_congr
    intro use member
    rw [decide_eq_decide]
    constructor
    · exact place
    · intro shared
      have shown := map_firstUse?_of_mem member shared
      rw [own] at shown
      exact (Option.some.inj shown).symm
  · rw [if_neg own, List.map_eq_nil_iff, List.filter_eq_nil_iff]
    intro use member shown
    rw [decide_eq_true_iff] at shown
    have first := map_firstUse?_of_mem member (place shown)
    rw [shown] at first
    exact own first

theorem shown?_updateAll (fresh : α) (change : β → α → α) (uses : List (List String × β))
    (labels : List String) :
    ((∅ : SeriesTable α).updateAll fresh change uses).shown? labels =
      if (broughtUnder uses labels).isEmpty then none
      else some ((broughtUnder uses labels).foldl (fun value use => change use value) fresh) := by
  have sound : ((∅ : SeriesTable α).updateAll fresh change uses).Sound :=
    sound_empty.updateAll _ _ _
  have held := getElem?_updateAll fresh change uses (fingerprint labels)
  apply Option.ext
  intro value
  rw [sound.shown?_eq_some_iff, held, broughtUnder_eq]
  unfold firstUse?
  cases used : uses.find? fun use => fingerprint use.1 = fingerprint labels with
  | none => simp
  | some first =>
      have brought := broughtTo_ne_nil used
      by_cases own : first.1 = labels
      · simp [own, brought]
      · simp [own]

/-- Both orders of the uses show every use under the same labels. -/
def ShowAlike (first second : List (List String × β)) : Prop :=
  ∀ use ∈ first, firstLabels first use.1 = firstLabels second use.1

/-- Reordered uses bring the same to every series that is shown exactly if they show every use
alike. -/
theorem broughtUnder_perm_iff {first second : List (List String × β)}
    (permuted : first.Perm second) :
    (∀ labels, (broughtUnder first labels).Perm (broughtUnder second labels)) ↔
      ShowAlike first second := by
  constructor
  · intro same use member
    have brought : use.2 ∈ broughtUnder first (firstLabels first use.1) := by
      apply List.mem_map_of_mem
      exact List.mem_filter.mpr ⟨member, decide_eq_true rfl⟩
    have broughtToo := (same _).mem_iff.mp brought
    obtain ⟨other, there, _⟩ := List.mem_map.mp broughtToo
    obtain ⟨otherMember, shown⟩ := List.mem_filter.mp there
    rw [decide_eq_true_iff] at shown
    -- The other use is shown where this one is, so the two have one fingerprint.
    have shared : fingerprint other.1 = fingerprint use.1 := by
      rw [← fingerprint_firstLabels second other.1, shown, fingerprint_firstLabels]
    rw [← shown]
    exact (firstLabels_congr otherMember shared).symm
  · intro alike labels
    have kept : (first.filter fun use => firstLabels first use.1 = labels) =
        first.filter fun use => firstLabels second use.1 = labels := by
      apply List.filter_congr
      intro use member
      rw [alike use member]
    unfold broughtUnder
    rw [kept]
    exact (permuted.filter _).map _

theorem toSeries_congr {one other : SeriesTable α}
    (same : ∀ place : UInt64, one[place]? = other[place]?) : one.toSeries = other.toSeries := by
  have equivalent := Std.TreeMap.Equiv.of_forall_constGet?_eq same
  unfold toSeries
  rw [equivalent.values_eq]

theorem ShowAlike.map_find? {first second : List (List String × β)}
    (alike : ShowAlike first second) (permuted : first.Perm second) (place : UInt64) :
    (first.find? fun use => fingerprint use.1 = place).map Prod.fst =
      (second.find? fun use => fingerprint use.1 = place).map Prod.fst := by
  cases used : first.find? fun use => fingerprint use.1 = place with
  | none =>
      have unused := isSome_find?_of_perm permuted place
      rw [used] at unused
      rw [Option.not_isSome_iff_eq_none.mp (Bool.eq_false_iff.mp unused.symm)]
  | some own =>
      have member := List.mem_of_find?_eq_some used
      have here : fingerprint own.1 = place := by simpa using List.find?_some used
      subst here
      rw [← used]
      change (firstUse? first own.1).map Prod.fst = (firstUse? second own.1).map Prod.fst
      rw [map_firstUse?_of_mem member rfl, map_firstUse?_of_mem (permuted.mem_iff.mp member) rfl,
        alike own member]

section

variable {fresh : α} {change : β → α → α}

theorem exists_mem_toSeries_updateAll {uses : List (List String × β)} {use : List String × β}
    (member : use ∈ uses) :
    ∃ value, (firstLabels uses use.1, value) ∈
      ((∅ : SeriesTable α).updateAll fresh change uses).toSeries := by
  have sound : ((∅ : SeriesTable α).updateAll fresh change uses).Sound :=
    sound_empty.updateAll _ _ _
  have labels := labels_updateAll fresh change uses use.1
  rw [map_firstUse?_of_mem member rfl] at labels
  obtain ⟨⟨shown, value⟩, held, same⟩ := Option.map_eq_some_iff.mp labels
  dsimp only at same
  subst same
  refine ⟨value, (sound.mem_toSeries _ value).mpr ?_⟩
  rw [fingerprint_firstLabels]
  exact held

theorem eq_firstLabels_of_mem_toSeries {uses : List (List String × β)} {use : List String × β}
    (member : use ∈ uses) {labels : List String} {value : α}
    (shown : (labels, value) ∈ ((∅ : SeriesTable α).updateAll fresh change uses).toSeries)
    (shared : fingerprint use.1 = fingerprint labels) : labels = firstLabels uses use.1 := by
  have sound : ((∅ : SeriesTable α).updateAll fresh change uses).Sound :=
    sound_empty.updateAll _ _ _
  have own := labels_updateAll fresh change uses labels
  rw [(sound.mem_toSeries labels value).mp shown, map_firstUse?_of_mem member shared] at own
  exact Option.some.inj own

/-- Where the order makes no difference to the values, reordered uses show the same series exactly
if they show every use alike. -/
theorem toSeries_updateAll_eq_iff {first second : List (List String × β)}
    (permuted : first.Perm second)
    (alike : ∀ one other : List β, one.Perm other →
      one.foldl (fun value use => change use value) fresh =
        other.foldl (fun value use => change use value) fresh) :
    ((∅ : SeriesTable α).updateAll fresh change first).toSeries =
        ((∅ : SeriesTable α).updateAll fresh change second).toSeries ↔
      ShowAlike first second := by
  constructor
  · intro same use member
    obtain ⟨value, shown⟩ := exists_mem_toSeries_updateAll member
    rw [same] at shown
    exact eq_firstLabels_of_mem_toSeries (permuted.mem_iff.mp member) shown
      (fingerprint_firstLabels first use.1).symm
  · intro showAlike
    apply toSeries_congr
    intro place
    have values := view_updateAll_of_perm permuted (fun value => value) alike place
    have labels := showAlike.map_find? permuted place
    rw [getElem?_updateAll, getElem?_updateAll] at values ⊢
    cases used : first.find? fun use => fingerprint use.1 = place with
    | none =>
        rw [used] at labels
        rw [Option.map_eq_none_iff.mp labels.symm, Option.map_none, Option.map_none]
    | some own =>
        rw [used] at labels values
        obtain ⟨other, usedToo, named⟩ := Option.map_eq_some_iff.mp labels.symm
        rw [usedToo] at values ⊢
        simp only [Option.map_some, Option.some.injEq] at values
        rw [Option.map_some, Option.map_some, named, values]

end

end SeriesTable

end LightningMetrics
