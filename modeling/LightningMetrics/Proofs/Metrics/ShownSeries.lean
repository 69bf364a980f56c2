import Mathlib.Data.List.Induction
import LightningMetrics.Metrics.SeriesTable

set_option autoImplicit false

namespace LightningMetrics.SeriesTable

variable {α β : Type}

/-- Every series stands at the fingerprint of the labels that it shows. -/
def Sound (table : SeriesTable α) : Prop :=
  ∀ (key : UInt64) series, table[key]? = some series → fingerprint series.labels = key

/-- The value shown under these labels. -/
def shown? (table : SeriesTable α) (labels : List String) : Option α :=
  (table.toSeries.find? fun entry => entry.1 = labels).map Prod.snd

/-- The labels under which a use of `labels` is shown. -/
def shownAs (table : SeriesTable α) (labels : List String) : List String :=
  (table[fingerprint labels]?.map LabelledSeries.labels).getD labels

/-- What is shown under `labels` changes, starting from `fresh` if there is nothing yet. All
other labels show what they did. -/
def Adds (before after : SeriesTable α) (labels : List String) (fresh : α) (change : α → α) :
    Prop :=
  ∀ other, after.shown? other =
    if other = labels then some (change ((before.shown? labels).getD fresh))
    else before.shown? other

theorem values_eq_map_toList (table : SeriesTable α) :
    table.values = table.toList.map Prod.snd := by
  change table.inner.inner.values = (Std.DTreeMap.Internal.Impl.Const.toList _).map Prod.snd
  rw [Std.DTreeMap.Internal.Impl.values_eq_map_snd,
    Std.DTreeMap.Internal.Impl.Const.toList_eq_toListModel_map, List.map_map]
  rfl

theorem toSeries_perm (table : SeriesTable α) :
    table.toSeries.Perm (table.toList.map fun entry => (entry.2.labels, entry.2.value)) := by
  unfold toSeries
  refine (List.mergeSort_perm _ _).trans ?_
  rw [values_eq_map_toList, List.map_map]
  exact .rfl

theorem mem_values (table : SeriesTable α) (series : LabelledSeries α) :
    series ∈ table.values ↔ ∃ key : UInt64, table[key]? = some series := by
  rw [values_eq_map_toList, List.mem_map]
  constructor
  · rintro ⟨⟨key, _⟩, member, rfl⟩
    exact ⟨key, Std.TreeMap.mem_toList_iff_getElem?_eq_some.mp member⟩
  · rintro ⟨key, held⟩
    exact ⟨(key, series), Std.TreeMap.mem_toList_iff_getElem?_eq_some.mpr held, rfl⟩

theorem mem_toSeries (table : SeriesTable α) (labels : List String) (value : α) :
    (labels, value) ∈ table.toSeries ↔ ∃ key : UInt64, table[key]? = some ⟨labels, value⟩ := by
  unfold toSeries
  rw [List.mem_mergeSort, List.mem_map]
  constructor
  · rintro ⟨⟨_, _⟩, member, same⟩
    cases same
    exact (mem_values table _).mp member
  · intro held
    exact ⟨⟨labels, value⟩, (mem_values table _).mpr held, rfl⟩

theorem Sound.mem_toSeries {table : SeriesTable α} (sound : table.Sound) (labels : List String)
    (value : α) :
    (labels, value) ∈ table.toSeries ↔ table[fingerprint labels]? = some ⟨labels, value⟩ := by
  rw [SeriesTable.mem_toSeries]
  constructor
  · rintro ⟨key, held⟩
    rw [sound key _ held]
    exact held
  · exact fun held => ⟨_, held⟩

/-- What is shown under some labels is what stands at their fingerprint, if it is theirs. -/
theorem Sound.shown?_eq_some_iff {table : SeriesTable α} (sound : table.Sound)
    (labels : List String) (value : α) :
    table.shown? labels = some value ↔ table[fingerprint labels]? = some ⟨labels, value⟩ := by
  unfold shown?
  rw [Option.map_eq_some_iff]
  constructor
  · rintro ⟨⟨shownLabels, _⟩, found, rfl⟩
    have same : shownLabels = labels := by simpa using List.find?_some found
    subst same
    exact (sound.mem_toSeries _ _).mp (List.mem_of_find?_eq_some found)
  · intro held
    have member := (sound.mem_toSeries labels value).mpr held
    have present : (table.toSeries.find? fun entry => entry.1 = labels).isSome := by
      rw [List.find?_isSome]
      exact ⟨_, member, by simp⟩
    obtain ⟨⟨shownLabels, other⟩, found⟩ := Option.isSome_iff_exists.mp present
    have same : shownLabels = labels := by simpa using List.find?_some found
    subst same
    have heldToo := (sound.mem_toSeries _ _).mp (List.mem_of_find?_eq_some found)
    rw [held, Option.some.injEq, LabelledSeries.mk.injEq] at heldToo
    exact ⟨_, found, heldToo.2.symm⟩

theorem sound_empty : (∅ : SeriesTable α).Sound := by
  intro key series held
  simp at held

/-- The labels that the updated series keeps are those under which the use is shown. -/
theorem getElem?_update (table : SeriesTable α) (labels : List String) (fresh : α)
    (change : α → α) (key : UInt64) :
    (table.update labels fresh change)[key]? =
      if fingerprint labels = key then
        some ⟨table.shownAs labels,
          change ((table[fingerprint labels]?.map LabelledSeries.value).getD fresh)⟩
      else table[key]? := by
  by_cases here : fingerprint labels = key
  · subst here
    rw [if_pos rfl, getElem?_update_self, Std.TreeMap.getD_eq_getD_getElem?]
    unfold shownAs
    cases table[fingerprint labels]? <;> rfl
  · rw [if_neg here, getElem?_update_of_ne table labels fresh change key here]

theorem Sound.fingerprint_shownAs {table : SeriesTable α} (sound : table.Sound)
    (labels : List String) : fingerprint (table.shownAs labels) = fingerprint labels := by
  unfold shownAs
  cases held : table[fingerprint labels]? with
  | none => rfl
  | some series => exact sound _ series held

theorem Sound.update {table : SeriesTable α} (sound : table.Sound) (labels : List String)
    (fresh : α) (change : α → α) : (table.update labels fresh change).Sound := by
  intro key series held
  rw [getElem?_update] at held
  split at held
  · rename_i here
    cases held
    rw [sound.fingerprint_shownAs, here]
  · exact sound key series held

/-- An update is shown once, under the labels of the first use of the fingerprint. -/
theorem Sound.adds_update {table : SeriesTable α} (sound : table.Sound) (labels : List String)
    (fresh : α) (change : α → α) :
    table.Adds (table.update labels fresh change) (table.shownAs labels) fresh change := by
  intro other
  have soundAfter := sound.update labels fresh change
  have shownValue : (table[fingerprint labels]?.map LabelledSeries.value).getD fresh =
      (table.shown? (table.shownAs labels)).getD fresh := by
    cases held : table[fingerprint labels]? with
    | none =>
        have own : table.shownAs labels = labels := by simp [shownAs, held]
        cases shown : table.shown? labels with
        | none => rw [own, shown]; rfl
        | some value =>
            have impossible := (sound.shown?_eq_some_iff labels value).mp shown
            rw [held] at impossible
            cases impossible
    | some series =>
        have first : table.shownAs labels = series.labels := by simp [shownAs, held]
        have place : fingerprint series.labels = fingerprint labels := sound _ series held
        have shown : table.shown? series.labels = some series.value :=
          (sound.shown?_eq_some_iff _ _).mpr (by rw [place, held])
        rw [first, shown]
        rfl
  apply Option.ext
  intro value
  rw [soundAfter.shown?_eq_some_iff, getElem?_update, shownValue]
  by_cases same : other = table.shownAs labels
  · subst same
    rw [sound.fingerprint_shownAs, if_pos rfl, if_pos rfl]
    simp
  · rw [if_neg same]
    by_cases place : fingerprint labels = fingerprint other
    · -- The fingerprint is taken by the labels of its first use, so `other` shows nothing.
      rw [if_pos place]
      constructor
      · intro held
        cases held
        exact absurd rfl same
      · intro shown
        have held := (sound.shown?_eq_some_iff other value).mp shown
        exact absurd (by simp [shownAs, place, held]) same
    · rw [if_neg place, sound.shown?_eq_some_iff]

theorem shownAs_update (table : SeriesTable α) (labels : List String) (fresh : α)
    (change : α → α) :
    (table.update labels fresh change).shownAs labels = table.shownAs labels := by
  rw [shownAs, getElem?_update, if_pos rfl]
  rfl

theorem Adds.trans {before between after : SeriesTable α} {labels : List String} {fresh : α}
    {change again : α → α} (first : before.Adds between labels fresh change)
    (second : between.Adds after labels fresh again) :
    before.Adds after labels fresh (again ∘ change) := by
  intro other
  rw [second other, first other, first labels, if_pos rfl]
  split <;> rfl

/-- Exactly when the first use of the fingerprint had the same labels is an update shown under
its own. -/
theorem Sound.adds_update_own_iff {table : SeriesTable α} (sound : table.Sound)
    (labels : List String) (fresh : α) (change : α → α) :
    table.Adds (table.update labels fresh change) labels fresh change ↔
      table.shownAs labels = labels := by
  constructor
  · intro adds
    by_contra other
    have elsewhere := sound.adds_update labels fresh change labels
    rw [if_neg (Ne.symm other), adds labels, if_pos rfl] at elsewhere
    have held := (sound.shown?_eq_some_iff labels _).mp elsewhere.symm
    exact other (by simp [shownAs, held])
  · intro own
    have adds := sound.adds_update labels fresh change
    rwa [own] at adds

/-- A table after a list of uses, each with what it brings. -/
def updateAll (fresh : α) (change : β → α → α) (table : SeriesTable α)
    (uses : List (List String × β)) : SeriesTable α :=
  uses.foldl (fun reached use => reached.update use.1 fresh (change use.2)) table

theorem updateAll_concat (fresh : α) (change : β → α → α) (table : SeriesTable α)
    (uses : List (List String × β)) (use : List String × β) :
    table.updateAll fresh change (uses ++ [use]) =
      (table.updateAll fresh change uses).update use.1 fresh (change use.2) :=
  List.foldl_append

theorem Sound.updateAll {table : SeriesTable α} (sound : table.Sound) (fresh : α)
    (change : β → α → α) (uses : List (List String × β)) :
    (table.updateAll fresh change uses).Sound := by
  induction uses generalizing table with
  | nil => exact sound
  | cons use rest ih => exact ih (sound.update use.1 fresh (change use.2))

/-- The first of the uses with a fingerprint. -/
def firstUse? (uses : List (List String × β)) (labels : List String) :
    Option (List String × β) :=
  uses.find? fun use => fingerprint use.1 = fingerprint labels

theorem labels_updateAll (fresh : α) (change : β → α → α) (uses : List (List String × β))
    (labels : List String) :
    ((∅ : SeriesTable α).updateAll fresh change uses)[fingerprint labels]?.map
      LabelledSeries.labels = (firstUse? uses labels).map Prod.fst := by
  induction uses using List.reverseRecOn with
  | nil => simp [updateAll, firstUse?]
  | append_singleton uses use ih =>
      rw [updateAll_concat, getElem?_update]
      unfold firstUse? at ih ⊢
      rw [List.find?_append]
      by_cases here : fingerprint use.1 = fingerprint labels
      · rw [if_pos here]
        simp only [shownAs, here, ih, List.find?_singleton, decide_true, ↓reduceIte]
        cases uses.find? fun use => fingerprint use.1 = fingerprint labels <;> rfl
      · rw [if_neg here, ih]
        simp [here]

theorem shownAs_updateAll (fresh : α) (change : β → α → α) (uses : List (List String × β))
    (labels : List String) :
    ((∅ : SeriesTable α).updateAll fresh change uses).shownAs labels =
      ((firstUse? uses labels).map Prod.fst).getD labels := by
  rw [shownAs, labels_updateAll]

end LightningMetrics.SeriesTable
