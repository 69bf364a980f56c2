import Mathlib.Algebra.BigOperators.Group.List.Basic
import Mathlib.Algebra.GroupWithZero.Nat
import LightningMetrics.Proofs.Metrics.ShownSeries

set_option autoImplicit false

namespace LightningMetrics

variable {α β : Type}

/-- What a series contributes to a sum over the series whose labels `holds` selects. -/
def LabelledSeries.share (size : α → Nat) (holds : List String → Bool)
    (series : LabelledSeries α) : Nat :=
  if holds series.labels then size series.value else 0

namespace SeriesTable

/-- The sum of the sizes of all series whose labels `holds` selects. -/
def sumOver (size : α → Nat) (holds : List String → Bool) (table : SeriesTable α) : Nat :=
  ((table.toSeries.filter fun entry => holds entry.1).map fun entry => size entry.2).sum

theorem nodup_toList (table : SeriesTable α) : table.toList.Nodup :=
  Std.TreeMap.distinct_keys_toList.imp fun apart same => by
    rw [same] at apart
    exact apart Std.ReflCmp.compare_self

/-- The entry of one key, and the entries of all others. -/
theorem toList_split (table : SeriesTable α) (key : UInt64) :
    table.toList.Perm ((table[key]?.map (key, ·)).toList ++
      table.toList.filter fun entry => decide ¬(key == entry.1) = true) := by
  refine (List.perm_ext_iff_of_nodup table.nodup_toList ?_).mpr ?_
  · refine List.nodup_append.mpr ⟨?_, table.nodup_toList.filter _, ?_⟩
    · cases table[key]? <;> simp
    · intro own there other member same
      subst same
      cases held : table[key]? with
      | none => simp [held] at there
      | some series =>
          simp only [held, Option.map_some, Option.toList_some, List.mem_singleton] at there
          subst there
          simp at member
  · rintro ⟨place, series⟩
    rw [List.mem_append, List.mem_filter, Std.TreeMap.mem_toList_iff_getElem?_eq_some]
    by_cases same : key = place
    · subst same
      simp [Option.map_eq_some_iff]
    · simp [same]

theorem sumOver_eq (size : α → Nat) (holds : List String → Bool) (table : SeriesTable α) :
    table.sumOver size holds = (table.toList.map fun entry => entry.2.share size holds).sum := by
  have shares (entries : List (UInt64 × LabelledSeries α)) :
      (((entries.map fun entry => (entry.2.labels, entry.2.value)).filter
        fun entry => holds entry.1).map fun entry => size entry.2).sum =
        (entries.map fun entry => entry.2.share size holds).sum := by
    induction entries with
    | nil => rfl
    | cons entry rest ih =>
        unfold LabelledSeries.share at ih ⊢
        cases chosen : holds entry.2.labels <;> simp [chosen, ih]
  rw [← shares]
  exact ((table.toSeries_perm.filter _).map _).sum_nat

theorem sumOver_insert (size : α → Nat) (holds : List String → Bool) (table : SeriesTable α)
    (key : UInt64) (series : LabelledSeries α) :
    sumOver size holds (table.insert key series) +
        (table[key]?.map (LabelledSeries.share size holds)).getD 0 =
      table.sumOver size holds + series.share size holds := by
  have after := ((Std.TreeMap.toList_insert_perm (t := table) (k := key) (v := series)).map
    fun entry => entry.2.share size holds).sum_nat
  have before := ((table.toList_split key).map fun entry => entry.2.share size holds).sum_nat
  rw [List.map_append, List.sum_append] at before
  rw [List.map_cons, List.sum_cons] at after
  rw [sumOver_eq, sumOver_eq, after, before]
  cases table[key]? with
  | none => simp; omega
  | some held => simp; omega

theorem foldl_eq_sumOver (size : α → Nat) (table : SeriesTable α) :
    table.foldl (fun total _ series => total + size series.value) 0 =
      table.sumOver size fun _ => true := by
  rw [sumOver_eq, Std.TreeMap.foldl_eq_foldl_toList, List.sum_eq_foldl, List.foldl_map]
  rfl

/-- What is shown under some labels is the sum over the series that has them. -/
theorem Sound.sumOver_eq_shown {table : SeriesTable α} (sound : table.Sound) (size : α → Nat)
    (labels : List String) :
    table.sumOver size (fun other => other = labels) = ((table.shown? labels).map size).getD 0 := by
  have split := ((table.toList_split (fingerprint labels)).map fun entry =>
    entry.2.share size fun other => other = labels).sum_nat
  have others : ((table.toList.filter fun entry =>
      decide ¬(fingerprint labels == entry.1) = true).map fun entry =>
        entry.2.share size fun other => other = labels).sum = 0 := by
    refine List.sum_eq_zero fun share member => ?_
    obtain ⟨⟨place, series⟩, there, rfl⟩ := List.mem_map.mp member
    obtain ⟨held, apart⟩ := List.mem_filter.mp there
    have stands := sound place series (Std.TreeMap.mem_toList_iff_getElem?_eq_some.mp held)
    have other : series.labels ≠ labels := by
      rintro rfl
      simp [stands] at apart
    simp [LabelledSeries.share, other]
  have shown (value : α) := sound.shown?_eq_some_iff labels value
  rw [sumOver_eq, split, List.map_append, List.sum_append, others, Nat.add_zero]
  cases held : table[fingerprint labels]? with
  | none =>
      cases there : table.shown? labels with
      | none => rfl
      | some value =>
          rw [shown, held] at there
          cases there
  | some series =>
      by_cases own : series.labels = labels
      · have there : table.shown? labels = some series.value := by
          rw [shown, held, ← own]
        rw [there]
        simp [LabelledSeries.share, own]
      · cases there : table.shown? labels with
        | none => simp [LabelledSeries.share, own]
        | some value =>
            rw [shown, held] at there
            cases there
            exact absurd rfl own

/-- A use that adds one to the size of its series is counted where that series is shown. -/
theorem sumOver_update {size : α → Nat} {fresh : α} {change : α → α} (holds : List String → Bool)
    (table : SeriesTable α) (labels : List String) (nothing : size fresh = 0)
    (counts : ∀ value, size (change value) = size value + 1) :
    (table.update labels fresh change).sumOver size holds =
      table.sumOver size holds + if holds (table.shownAs labels) then 1 else 0 := by
  have inserted := table.sumOver_insert size holds (fingerprint labels)
    ⟨(table.getD (fingerprint labels) ⟨labels, fresh⟩).labels,
      change (table.getD (fingerprint labels) ⟨labels, fresh⟩).value⟩
  change (table.update labels fresh change).sumOver size holds + _ = _ at inserted
  rw [Std.TreeMap.getD_eq_getD_getElem?] at inserted
  unfold shownAs
  cases held : table[fingerprint labels]? with
  | none =>
      rw [held] at inserted
      simpa [LabelledSeries.share, counts, nothing] using inserted
  | some series =>
      rw [held] at inserted
      simp only [Option.getD_some, Option.map_some, LabelledSeries.share, counts] at inserted ⊢
      by_cases chosen : holds series.labels = true
      · rw [if_pos chosen, if_pos chosen] at inserted
        rw [if_pos chosen]
        omega
      · rw [if_neg chosen, if_neg chosen] at inserted
        rw [if_neg chosen]
        exact inserted

/-- The labels under which a table that began empty shows a use: those of the first use with its
fingerprint. -/
def firstLabels (uses : List (List String × β)) (labels : List String) : List String :=
  ((firstUse? uses labels).map Prod.fst).getD labels

theorem firstLabels_append {uses : List (List String × β)} {use : List String × β}
    (member : use ∈ uses) (later : List (List String × β)) :
    firstLabels (uses ++ later) use.1 = firstLabels uses use.1 := by
  unfold firstLabels firstUse?
  rw [List.find?_append]
  cases found : uses.find? fun other => fingerprint other.1 = fingerprint use.1 with
  | some first => rfl
  | none =>
      have missing := List.find?_eq_none.mp found use member
      simp at missing

theorem firstLabels_concat (uses : List (List String × β)) (use : List String × β) :
    firstLabels (uses ++ [use]) use.1 = firstLabels uses use.1 := by
  unfold firstLabels firstUse?
  rw [List.find?_append]
  cases uses.find? fun other => fingerprint other.1 = fingerprint use.1 <;> simp

theorem fingerprint_firstLabels (uses : List (List String × β)) (labels : List String) :
    fingerprint (firstLabels uses labels) = fingerprint labels := by
  unfold firstLabels
  cases found : firstUse? uses labels with
  | none => rfl
  | some first => simpa using List.find?_some found

theorem firstLabels_congr {uses : List (List String × β)} {use : List String × β}
    (member : use ∈ uses) {labels : List String}
    (same : fingerprint use.1 = fingerprint labels) :
    firstLabels uses labels = firstLabels uses use.1 := by
  unfold firstLabels firstUse?
  rw [same]
  cases found : uses.find? fun other => fingerprint other.1 = fingerprint labels with
  | some first => rfl
  | none =>
      have missing := List.find?_eq_none.mp found use member
      simp [same] at missing

theorem exists_use_of_firstLabels {uses : List (List String × β)} {use : List String × β}
    (member : use ∈ uses) : ∃ first ∈ uses, first.1 = firstLabels uses use.1 := by
  unfold firstLabels
  cases found : firstUse? uses use.1 with
  | none => exact ⟨use, member, rfl⟩
  | some first => exact ⟨first, List.mem_of_find?_eq_some found, rfl⟩

/-- Labels that share their fingerprint with no others show their own uses, and no others. -/
theorem firstLabels_eq_iff {uses : List (List String × β)} {labels : List String}
    (unshared : ∀ use ∈ uses, fingerprint use.1 = fingerprint labels → use.1 = labels)
    {use : List String × β} (member : use ∈ uses) :
    firstLabels uses use.1 = labels ↔ use.1 = labels := by
  constructor
  · rintro rfl
    exact unshared use member (fingerprint_firstLabels uses use.1).symm
  · rintro rfl
    unfold firstLabels
    cases found : firstUse? uses use.1 with
    | none => rfl
    | some first =>
        exact unshared first (List.mem_of_find?_eq_some found)
          (by simpa using List.find?_some found)

/-- As many uses are shown under some labels as there are uses of them exactly if nothing uses them,
or their fingerprint is theirs alone. -/
theorem countP_firstLabels_eq_iff (uses : List (List String × β)) (labels : List String) :
    (uses.countP fun use => firstLabels uses use.1 = labels) =
        (uses.countP fun use => use.1 = labels) ↔
      (∀ use ∈ uses, use.1 ≠ labels) ∨
        ∀ use ∈ uses, fingerprint use.1 = fingerprint labels → use.1 = labels := by
  constructor
  · intro same
    by_cases unused : ∀ use ∈ uses, use.1 ≠ labels
    · exact .inl unused
    · push Not at unused
      obtain ⟨own, ownMember, rfl⟩ := unused
      refine .inr fun use member shared => ?_
      by_cases first : firstLabels uses own.1 = own.1
      · -- All uses of this fingerprint are shown here, and the counts leave room for no others.
        have shown : firstLabels uses use.1 = own.1 :=
          (firstLabels_congr ownMember shared.symm).trans first
        have among : uses.filter (fun use => use.1 = own.1) =
            uses.filter (fun use => firstLabels uses use.1 = own.1) := by
          refine (List.monotone_filter_right uses fun other holds => ?_).eq_of_length ?_
          · rw [decide_eq_true_iff] at holds ⊢
            rw [holds, first]
          · rw [← List.countP_eq_length_filter, ← List.countP_eq_length_filter, same]
        have kept : use ∈ uses.filter (fun use => use.1 = own.1) := by
          rw [among, List.mem_filter]
          exact ⟨member, decide_eq_true shown⟩
        exact of_decide_eq_true (List.mem_filter.mp kept).2
      · have unshown : (uses.countP fun use => firstLabels uses use.1 = own.1) = 0 := by
          refine List.countP_eq_zero.mpr fun other there here => first ?_
          rw [decide_eq_true_iff] at here
          have shared := fingerprint_firstLabels uses other.1
          rw [here] at shared
          exact (firstLabels_congr there shared.symm).trans here
        have used : 0 < uses.countP fun use => use.1 = own.1 :=
          List.countP_pos_iff.mpr ⟨own, ownMember, decide_eq_true rfl⟩
        omega
  · rintro (unused | unshared)
    · have elsewhere (use : List String × β) (member : use ∈ uses) :
          firstLabels uses use.1 ≠ labels := by
        obtain ⟨first, there, shown⟩ := exists_use_of_firstLabels member
        rw [← shown]
        exact unused first there
      rw [List.countP_eq_zero.mpr (by simpa using elsewhere),
        List.countP_eq_zero.mpr (by simpa using unused)]
    · refine List.countP_congr fun use member => ?_
      rw [decide_eq_true_iff, decide_eq_true_iff]
      exact firstLabels_eq_iff unshared member

theorem sumOver_updateAll {size : α → Nat} {fresh : α} {change : β → α → α}
    (holds : List String → Bool) (nothing : size fresh = 0)
    (counts : ∀ use value, size (change use value) = size value + 1)
    (uses : List (List String × β)) :
    ((∅ : SeriesTable α).updateAll fresh change uses).sumOver size holds =
      uses.countP fun use => holds (firstLabels uses use.1) := by
  induction uses using List.reverseRecOn with
  | nil =>
      have nothingHeld : (∅ : SeriesTable α).toList = [] :=
        List.isEmpty_iff.mp (Std.TreeMap.isEmpty_toList.trans Std.TreeMap.isEmpty_emptyc)
      change sumOver size holds ∅ = 0
      rw [sumOver_eq, nothingHeld]
      rfl
  | append_singleton uses use ih =>
      have earlier : (uses.countP fun other => holds (firstLabels (uses ++ [use]) other.1)) =
          uses.countP fun other => holds (firstLabels uses other.1) :=
        List.countP_congr fun other member => by rw [firstLabels_append member]
      rw [updateAll_concat, sumOver_update holds _ _ nothing (counts use.2), ih, shownAs_updateAll,
        List.countP_append, earlier, List.countP_singleton, firstLabels_concat]
      rfl

theorem exists_use_of_mem_updateAll {fresh : α} {change : β → α → α}
    {uses : List (List String × β)} {labels : List String} {value : α}
    (member : (labels, value) ∈ ((∅ : SeriesTable α).updateAll fresh change uses).toSeries) :
    ∃ use ∈ uses, use.1 = labels := by
  have sound : ((∅ : SeriesTable α).updateAll fresh change uses).Sound :=
    sound_empty.updateAll fresh change uses
  have first := labels_updateAll fresh change uses labels
  rw [(sound.mem_toSeries labels value).mp member] at first
  obtain ⟨use, found, same⟩ := Option.map_eq_some_iff.mp first.symm
  exact ⟨use, List.mem_of_find?_eq_some found, same⟩

end SeriesTable

end LightningMetrics
