import Mathlib.Data.List.Induction
import LightningMetrics.Fee.Estimate

set_option autoImplicit false

namespace LightningMetrics

variable {α : Type}

/-- The last of the entries of a channel. -/
def lastOf? (entries : List (UInt64 × α)) (channel : UInt64) : Option α :=
  (entries.filter fun entry => entry.1 = channel).getLast?.map Prod.snd

theorem lastOf?_append (earlier later : List (UInt64 × α)) (channel : UInt64) :
    lastOf? (earlier ++ later) channel =
      (lastOf? later channel).or (lastOf? earlier channel) := by
  unfold lastOf?
  rw [List.filter_append, List.getLast?_append]
  cases (later.filter fun entry => entry.1 = channel).getLast? <;> rfl

theorem lastOf?_singleton (entry : UInt64 × α) (channel : UInt64) :
    lastOf? [entry] channel = if entry.1 = channel then some entry.2 else none := by
  unfold lastOf?
  by_cases own : entry.1 = channel <;> simp [own]

theorem lastOf?_cons (entry : UInt64 × α) (later : List (UInt64 × α)) (channel : UInt64) :
    lastOf? (entry :: later) channel =
      (lastOf? later channel).or (if entry.1 = channel then some entry.2 else none) := by
  rw [← lastOf?_singleton]
  exact lastOf?_append [entry] later channel

theorem lastOf?_eq_none_iff {entries : List (UInt64 × α)} {channel : UInt64} :
    lastOf? entries channel = none ↔ channel ∉ entries.map Prod.fst := by
  unfold lastOf?
  rw [Option.map_eq_none_iff, List.getLast?_eq_none_iff, List.filter_eq_nil_iff, List.mem_map]
  constructor
  · rintro unlisted ⟨entry, member, own⟩
    exact unlisted entry member (decide_eq_true own)
  · intro unlisted entry member own
    exact unlisted ⟨entry, member, of_decide_eq_true own⟩

theorem lastOf?_eq_some_iff {entries : List (UInt64 × α)} {channel : UInt64} {value : α} :
    lastOf? entries channel = some value ↔
      ∃ earlier later, entries = earlier ++ (channel, value) :: later ∧
        channel ∉ later.map Prod.fst := by
  constructor
  · intro last
    induction entries using List.reverseRecOn with
    | nil => cases last
    | append_singleton entries entry ih =>
        rw [lastOf?_append, lastOf?_singleton] at last
        by_cases own : entry.1 = channel
        · rw [if_pos own] at last
          cases last
          exact ⟨entries, [], by rw [← own], List.not_mem_nil⟩
        · rw [if_neg own, Option.none_or] at last
          obtain ⟨earlier, later, rfl, unlisted⟩ := ih last
          refine ⟨earlier, later ++ [entry], List.append_assoc _ _ _, ?_⟩
          rw [List.map_append, List.mem_append, not_or]
          exact ⟨unlisted, fun member => own (List.mem_singleton.mp member).symm⟩
  · rintro ⟨earlier, later, rfl, unlisted⟩
    rw [lastOf?_append, lastOf?_cons, lastOf?_eq_none_iff.mpr unlisted, if_pos rfl]
    rfl

/-- The entry that is last among those that some items give comes of the last item that gives one
for the channel. -/
theorem lastOf?_filterMap_eq_some_iff {β : Type} {given? : β → Option (UInt64 × α)}
    {items : List β} {channel : UInt64} {value : α} :
    lastOf? (items.filterMap given?) channel = some value ↔
      ∃ earlier item later, items = earlier ++ item :: later ∧
        given? item = some (channel, value) ∧
        ∀ other ∈ later, ∀ held, given? other ≠ some (channel, held) := by
  have unlistedIff (later : List β) : channel ∉ (later.filterMap given?).map Prod.fst ↔
      ∀ other ∈ later, ∀ held, given? other ≠ some (channel, held) := by
    rw [List.mem_map]
    constructor
    · intro unlisted other member held given
      exact unlisted ⟨_, List.mem_filterMap.mpr ⟨other, member, given⟩, rfl⟩
    · rintro others ⟨⟨_, held⟩, listed, rfl⟩
      obtain ⟨other, member, given⟩ := List.mem_filterMap.mp listed
      exact others other member held given
  rw [lastOf?_eq_some_iff]
  constructor
  · rintro ⟨entries, others, split, unlisted⟩
    obtain ⟨before, after, rfl, -, rest⟩ := List.filterMap_eq_append_iff.mp split
    obtain ⟨between, item, later, rfl, -, given, rfl⟩ := List.filterMap_eq_cons_iff.mp rest
    exact ⟨before ++ between, item, later, (List.append_assoc _ _ _).symm, given,
      (unlistedIff later).mp unlisted⟩
  · rintro ⟨earlier, item, later, rfl, given, others⟩
    refine ⟨earlier.filterMap given?, later.filterMap given?, ?_, (unlistedIff later).mpr others⟩
    rw [List.filterMap_append, List.filterMap_cons_some given]

section Edits

variable {earlier later : List (UInt64 × α)} {entry other : UInt64 × α}

theorem lastOf?_swap (apart : entry.1 ≠ other.1) (channel : UInt64) :
    lastOf? (earlier ++ entry :: other :: later) channel =
      lastOf? (earlier ++ other :: entry :: later) channel := by
  simp only [lastOf?_append, lastOf?_cons]
  cases lastOf? later channel with
  | some value => rfl
  | none =>
      by_cases own : entry.1 = channel
      · rw [if_pos own, if_neg fun same => apart (own.trans same.symm)]
        rfl
      · rw [if_neg own, Option.or_none]
        rfl

theorem lastOf?_replaced (replaced : entry.1 ∈ later.map Prod.fst) (channel : UInt64) :
    lastOf? (earlier ++ entry :: later) channel = lastOf? (earlier ++ later) channel := by
  simp only [lastOf?_append, lastOf?_cons]
  by_cases own : entry.1 = channel
  · cases last : lastOf? later channel with
    | some value => rfl
    | none => exact absurd (own ▸ replaced) (lastOf?_eq_none_iff.mp last)
  · rw [if_neg own, Option.or_none]

theorem lastOf?_of_ne {channel : UInt64} (apart : entry.1 ≠ channel) :
    lastOf? (earlier ++ entry :: later) channel = lastOf? (earlier ++ later) channel := by
  simp only [lastOf?_append, lastOf?_cons]
  rw [if_neg apart, Option.or_none]

end Edits

theorem ChannelMap.getElem?_ofEntries (entries : List (UInt64 × α)) (channel : UInt64) :
    (ChannelMap.ofEntries entries)[channel]? = lastOf? entries channel := by
  unfold ofEntries
  induction entries using List.reverseRecOn with
  | nil => rfl
  | append_singleton entries entry ih =>
      rw [List.foldl_append, List.foldl_cons, List.foldl_nil, Std.TreeMap.getElem?_insert, ih,
        lastOf?_append, lastOf?_singleton]
      by_cases own : entry.1 = channel
      · rw [if_pos (Std.compare_eq_iff_eq.mpr own), if_pos own, Option.some_or]
      · rw [if_neg (Std.compare_eq_iff_eq.not.mpr own), if_neg own, Option.none_or]

theorem ChannelMap.mem_ofEntries {entries : List (UInt64 × α)} {channel : UInt64} :
    channel ∈ ChannelMap.ofEntries entries ↔ channel ∈ entries.map Prod.fst := by
  rw [Std.TreeMap.mem_iff_isSome_getElem?, ChannelMap.getElem?_ofEntries,
    Option.isSome_iff_ne_none, ne_eq, lastOf?_eq_none_iff, not_not]

end LightningMetrics
