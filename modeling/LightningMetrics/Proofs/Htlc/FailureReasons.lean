import Mathlib.Logic.Relation
import LightningMetrics.Proofs.Htlc.Accounting
import LightningMetrics.Proofs.Htlc.Refusals
import LightningMetrics.Proofs.Text.LoweredForms

set_option autoImplicit false

namespace LightningMetrics

open Text

/-- What stands in a reason for a character: an underscore for a space. -/
def unspaced (char : Char) : Char :=
  if char = ' ' then '_' else char

theorem normalizeReason_eq (detail : List Char) :
    normalizeReason detail = lowercase ((trim detail).map unspaced) :=
  rfl

theorem unspaced_ne (char : Char) : unspaced char ≠ ' ' := by
  unfold unspaced
  split
  · decide
  · assumption

theorem isBlank_unspaced {char : Char} (solid : isBlank char = false) :
    isBlank (unspaced char) = false := by
  unfold unspaced
  split
  · decide
  · exact solid

theorem unspaced_toLower (char : Char) : unspaced char.toLower = (unspaced char).toLower := by
  by_cases capital : char ∈ asciiCapitals
  · have capitals : (asciiCapitals.all fun char =>
        unspaced char.toLower == (unspaced char).toLower) = true := by decide
    exact beq_iff_eq.mp (List.all_eq_true.mp capitals char capital)
  · rw [toLower_of_not_mem capital]
    by_cases space : char = ' '
    · rw [space]
      decide
    · rw [unspaced, if_neg space, toLower_of_not_mem capital]

theorem space_not_mem_normalizeReason (detail : List Char) : ' ' ∉ normalizeReason detail := by
  intro member
  obtain ⟨char, _, space⟩ := List.mem_map.mp (mem_of_mem_lowercase (by decide) member)
  exact unspaced_ne char space

theorem solidEnds_normalizeReason (detail : List Char) : SolidEnds (normalizeReason detail) :=
  ((solidEnds_trim detail).map fun _ => isBlank_unspaced).lowercase

theorem map_unspaced_of_not_mem {text : List Char} (spaceless : ' ' ∉ text) :
    text.map unspaced = text := by
  refine (List.map_congr_left fun char member => if_neg fun space => ?_).trans (List.map_id text)
  exact spaceless (space ▸ member)

theorem normalizeReason_eq_self {text : List Char} (spaceless : ' ' ∉ text) (solid : SolidEnds text)
    (lowered : lowercase text = text) : normalizeReason text = text := by
  rw [normalizeReason_eq, solid.trim_eq, map_unspaced_of_not_mem spaceless, lowered]

theorem lowercase_normalizeReason (detail : List Char) :
    lowercase (normalizeReason detail) = normalizeReason detail := by
  rw [normalizeReason_eq, lowercase_lowercase]

theorem normalizeReason_map_toLower (detail : List Char) :
    normalizeReason (detail.map Char.toLower) = normalizeReason detail := by
  have swapped (text : List Char) :
      (text.map Char.toLower).map unspaced = (text.map unspaced).map Char.toLower := by
    rw [List.map_map, List.map_map]
    exact List.map_congr_left fun char _ => unspaced_toLower char
  rw [normalizeReason_eq, normalizeReason_eq, trim_map isBlank_toLower, swapped,
    lowercase_map_toLower]

/-- Descriptions that differ in one of the respects that a reason does not tell: the blanks around
them, the case of ASCII letters, or an underscore for a space inside. -/
inductive SameCause : List Char → List Char → Prop where
  | surrounded {before after : List Char} (blankBefore : ∀ char ∈ before, isBlank char = true)
      (blankAfter : ∀ char ∈ after, isBlank char = true) (detail : List Char) :
      SameCause (before ++ detail ++ after) detail
  | letterCase {detail other : List Char}
      (same : detail.map Char.toLower = other.map Char.toLower) : SameCause detail other
  | underscore {earlier later : List Char} (before : ∃ char ∈ earlier, isBlank char = false)
      (after : ∃ char ∈ later, isBlank char = false) :
      SameCause (earlier ++ ' ' :: later) (earlier ++ '_' :: later)

theorem SameCause.normalizeReason_eq {detail other : List Char} (same : SameCause detail other) :
    normalizeReason detail = normalizeReason other := by
  cases same with
  | surrounded blankBefore blankAfter =>
      unfold normalizeReason
      rw [trim_surrounded blankBefore blankAfter]
  | letterCase same =>
      rw [← normalizeReason_map_toLower detail, same, normalizeReason_map_toLower]
  | underscore before after =>
      unfold normalizeReason
      rw [trim_inside before after, trim_inside before after, List.map_append, List.map_append,
        List.map_cons, List.map_cons]
      rfl

/-- Any number of such differences makes none to the reason. -/
theorem normalizeReason_eq_of_eqvGen {detail other : List Char}
    (same : Relation.EqvGen SameCause detail other) :
    normalizeReason detail = normalizeReason other := by
  induction same with
  | rel _ _ same => exact same.normalizeReason_eq
  | refl _ => rfl
  | symm _ _ _ ih => exact ih.symm
  | trans _ _ _ _ _ first second => exact first.trans second

namespace HtlcEvent

variable {event other : HtlcEvent} {detail : String}

/-- A description is good for a resolution unless the direction is unknown or it is blank. -/
theorem exists_resolution_iff (event : HtlcEvent) (detail : String) :
    (∃ resolution, event.resolution (some detail) = .ok resolution) ↔
      event.direction ≠ .unknown ∧ normalizeReason detail.toList ≠ [] := by
  rw [ne_eq (normalizeReason _), normalizeReason_eq_nil_iff]
  cases resolved : event.resolution (some detail) with
  | error error =>
      refine iff_of_false (by simp) ?_
      rintro ⟨known, labelled⟩
      rcases (resolution_eq_error_iff _ _ _).mp resolved with
        ⟨unknown, _⟩ | ⟨_, _, _, described, blank⟩
      · exact known unknown
      · cases described
        exact labelled blank
  | ok resolution =>
      have accepted (error : MonitorError) : event.resolution (some detail) ≠ .error error := by
        simp [resolved]
      have known : event.direction ≠ .unknown := fun unknown =>
        accepted _ ((resolution_eq_error_iff _ _ _).mpr (.inl ⟨unknown, rfl⟩))
      refine iff_of_true ⟨resolution, rfl⟩ ⟨known, fun blank => ?_⟩
      exact accepted _ ((resolution_eq_error_iff _ _ _).mpr (.inr ⟨known, rfl, _, rfl, blank⟩))

theorem isCounted_iff_of_failedHere (failed : event.stage = .failedHere detail) :
    event.isCounted = true ↔
      event.direction ≠ .unknown ∧ normalizeReason detail.toList ≠ [] := by
  rw [isCounted_iff, ← exists_resolution_iff, failed]
  simp [HtlcStage.resolution?]

/-- Two failures at our own node, over the same channels in the same direction, whose descriptions
tell of the same cause. -/
structure SameFailure (event other : HtlcEvent) : Prop where
  incoming : event.key.incoming.channel = other.key.incoming.channel
  outgoing : event.key.outgoing.channel = other.key.outgoing.channel
  direction : event.direction = other.direction
  cause : ∃ detail otherDetail, event.stage = .failedHere detail ∧
    other.stage = .failedHere otherDetail ∧
    Relation.EqvGen SameCause detail.toList otherDetail.toList

theorem SameFailure.isCounted_eq (same : SameFailure event other) :
    event.isCounted = other.isCounted := by
  obtain ⟨_, _, failed, otherFailed, cause⟩ := same.cause
  rw [Bool.eq_iff_iff, isCounted_iff_of_failedHere failed,
    isCounted_iff_of_failedHere otherFailed, same.direction, normalizeReason_eq_of_eqvGen cause]

theorem SameFailure.counterLabels_eq (same : SameFailure event other) :
    event.counterLabels = other.counterLabels := by
  obtain ⟨_, _, failed, otherFailed, cause⟩ := same.cause
  simp only [counterLabels, latencyLabels, reasonLabel, failed, otherFailed, same.incoming,
    same.outgoing, same.direction, normalizeReason_eq_of_eqvGen cause, reduceCtorEq, ↓reduceIte]

end HtlcEvent

namespace ActiveTable

/-- The reason under which an event has an HTLC fail. -/
def reason? (active : ActiveTable) (event : HtlcEvent) : Option String := do
  let resolved ← active.resolved? event
  match resolved.resolution.outcome with
  | .settled => none
  | .failed reason => some reason

theorem reason?_eq_some_iff {event : HtlcEvent} {detail : String}
    (failed : event.stage = .failedHere detail) (active : ActiveTable) (reason : String) :
    active.reason? event = some reason ↔
      (event.direction ≠ .unknown ∧ normalizeReason detail.toList ≠ []) ∧
        String.ofList (normalizeReason detail.toList) = reason := by
  rw [← event.exists_resolution_iff]
  have described : event.stage.resolution? = some (some detail) := by rw [failed]; rfl
  cases resolved : event.resolution (some detail) with
  | error error => simp [reason?, resolved?, step, described, resolved]
  | ok resolution =>
      rcases HtlcEvent.outcome_resolution resolved with ⟨settled, _⟩ | ⟨_, same, _, outcome⟩
      · cases settled
      · cases same
        simp [reason?, resolved?, step, described, resolved, resolution_resolve, outcome]

end ActiveTable

/-- A text that is fit for a reason label: something in lower case, with no space in it and no blank
at its ends. -/
structure IsReasonLabel (reason : String) : Prop where
  something : reason ≠ ""
  unspaced : ' ' ∉ reason.toList
  solidEnds : SolidEnds reason.toList
  lowered : lowercase reason.toList = reason.toList

theorem isReasonLabel_normalizeReason {detail : List Char}
    (labelled : normalizeReason detail ≠ []) :
    IsReasonLabel (String.ofList (normalizeReason detail)) where
  something := by simpa using labelled
  unspaced := by
    rw [String.toList_ofList]
    exact space_not_mem_normalizeReason detail
  solidEnds := by
    rw [String.toList_ofList]
    exact solidEnds_normalizeReason detail
  lowered := by
    rw [String.toList_ofList]
    exact lowercase_normalizeReason detail

theorem ActiveTable.isReasonLabel_of_reason? {active : ActiveTable} {event : HtlcEvent}
    {detail reason : String} (failed : event.stage = .failedHere detail)
    (recorded : active.reason? event = some reason) : IsReasonLabel reason := by
  obtain ⟨⟨_, labelled⟩, rfl⟩ := (reason?_eq_some_iff failed _ _).mp recorded
  exact isReasonLabel_normalizeReason labelled

theorem ActiveTable.reason?_of_isReasonLabel {event : HtlcEvent} {reason : String}
    (failed : event.stage = .failedHere reason) (known : event.direction ≠ .unknown)
    (label : IsReasonLabel reason) (active : ActiveTable) :
    active.reason? event = some reason := by
  have own : normalizeReason reason.toList = reason.toList :=
    normalizeReason_eq_self label.unspaced label.solidEnds label.lowered
  rw [reason?_eq_some_iff failed, own, String.ofList_toList]
  exact ⟨⟨known, by simpa using label.something⟩, rfl⟩

namespace HtlcTracker

theorem resolved_feed_of_sameFailure {tracker other : HtlcTracker} {event same : HtlcEvent}
    (counters : tracker.metrics.resolved = other.metrics.resolved)
    (cause : event = same ∨ event.SameFailure same) :
    (tracker.feed event).metrics.resolved = (other.feed same).metrics.resolved := by
  rw [resolved_feed, resolved_feed, counters]
  rcases cause with rfl | cause
  · rfl
  · rw [cause.isCounted_eq, cause.counterLabels_eq]

theorem resolved_run_of_sameFailure {tracker other : HtlcTracker} {events others : List HtlcEvent}
    (counters : tracker.metrics.resolved = other.metrics.resolved)
    (causes : List.Forall₂ (fun event same => event = same ∨ event.SameFailure same)
      events others) :
    (tracker.run events).metrics.resolved = (other.run others).metrics.resolved := by
  induction causes generalizing tracker other with
  | nil => exact counters
  | cons cause _ ih => exact ih (resolved_feed_of_sameFailure counters cause)

theorem adds_run_of_counted {event : HtlcEvent} (counts : event.isCounted = true)
    (events : List HtlcEvent) :
    let before := (empty.run events).metrics.resolved
    before.Adds (empty.run (events ++ [event])).metrics.resolved
      (before.shownAs event.counterLabels) 0 (· + 1) := by
  intro before
  rw [run_concat, resolved_feed, if_pos counts]
  exact (sound_resolved_run events).adds_update event.counterLabels 0 (· + 1)

/-- Two failures of the same cause are counted in one series. -/
theorem adds_run_of_sameFailure {event other : HtlcEvent} (same : event.SameFailure other)
    (counts : event.isCounted = true) (events : List HtlcEvent) :
    let before := (empty.run events).metrics.resolved
    before.Adds (empty.run (events ++ [event, other])).metrics.resolved
      (before.shownAs event.counterLabels) 0 (· + 2) := by
  intro before
  have first := adds_run_of_counted counts events
  have second := adds_run_of_counted (same.isCounted_eq ▸ counts) (events ++ [event])
  have shown : (empty.run (events ++ [event])).metrics.resolved.shownAs other.counterLabels =
      before.shownAs event.counterLabels := by
    rw [← same.counterLabels_eq, run_concat, resolved_feed, if_pos counts]
    exact SeriesTable.shownAs_update _ _ _ _
  dsimp only at second
  rw [List.append_assoc, shown] at second
  exact first.trans second

theorem isCounted_of_reason? {active : ActiveTable} {event : HtlcEvent} {detail reason : String}
    (failed : event.stage = .failedHere detail) (recorded : active.reason? event = some reason) :
    event.isCounted = true ∧ event.counterLabels = event.latencyLabels ++ [reason] := by
  obtain ⟨good, rfl⟩ := (ActiveTable.reason?_eq_some_iff failed _ _).mp recorded
  refine ⟨(HtlcEvent.isCounted_iff_of_failedHere failed).mpr good, ?_⟩
  rw [HtlcEvent.counterLabels, HtlcEvent.reasonLabel, failed]

/-- The reason of a failure is not empty, has no space in it and no blank at its ends, and as the
description of another failure it is recorded as it stands; so is every text in lower case that is
like this, and no other. A failure with a reason adds one to the counter series of its labels, the
reason last, and to no other. Failures whose descriptions tell of the same cause are both refused or
counted in one series, so it makes no difference to the counters of a run how its failures are
described. -/
theorem failure_reasons_normalized :
    (∀ (active : ActiveTable) (event : HtlcEvent) (detail reason : String),
      event.stage = .failedHere detail → active.reason? event = some reason →
        reason ≠ "" ∧ ' ' ∉ reason.toList ∧ SolidEnds reason.toList ∧
        ∀ (later : ActiveTable) (again : HtlcEvent), again.stage = .failedHere reason →
          again.direction ≠ .unknown → later.reason? again = some reason) ∧
    (∀ (active : ActiveTable) (event : HtlcEvent) (reason : String),
      event.stage = .failedHere reason → event.direction ≠ .unknown →
        (active.reason? event = some reason ↔ IsReasonLabel reason)) ∧
    (∀ (events : List HtlcEvent) (event : HtlcEvent) (detail reason : String),
      event.stage = .failedHere detail →
      (empty.run events).active.reason? event = some reason →
        let before := (empty.run events).metrics.resolved
        before.Adds (empty.run (events ++ [event])).metrics.resolved
          (before.shownAs (event.latencyLabels ++ [reason])) 0 (· + 1)) ∧
    (∀ event other : HtlcEvent, event.SameFailure other →
      event.isCounted = other.isCounted ∧ event.counterLabels = other.counterLabels ∧
      (event.isCounted = true → ∀ events : List HtlcEvent,
        let before := (empty.run events).metrics.resolved
        before.Adds (empty.run (events ++ [event, other])).metrics.resolved
          (before.shownAs event.counterLabels) 0 (· + 2))) ∧
    ∀ (tracker : HtlcTracker) (events others : List HtlcEvent),
      List.Forall₂ (fun event same => event = same ∨ event.SameFailure same) events others →
        (tracker.run events).metrics.resolved = (tracker.run others).metrics.resolved := by
  refine ⟨?_, ?_, ?_, fun _ _ same => ⟨same.isCounted_eq, same.counterLabels_eq,
    adds_run_of_sameFailure same⟩, fun _ _ _ => resolved_run_of_sameFailure rfl⟩
  · intro active event detail reason failed recorded
    have label := ActiveTable.isReasonLabel_of_reason? failed recorded
    refine ⟨label.something, label.unspaced, label.solidEnds, ?_⟩
    intro later again failedAgain known
    exact ActiveTable.reason?_of_isReasonLabel failedAgain known label later
  · intro active event reason failed known
    constructor
    · exact ActiveTable.isReasonLabel_of_reason? failed
    · exact fun label => ActiveTable.reason?_of_isReasonLabel failed known label active
  · intro events event detail reason failed recorded before
    obtain ⟨counts, labels⟩ := isCounted_of_reason? failed recorded
    rw [← labels]
    exact adds_run_of_counted counts events

/-- A description with a sigma at the end of a word and a capital that has two small characters, and
two descriptions of one cause. -/
theorem failure_reasons_normalized_of_final_sigma :
    let first := between 12 3 60 (.failedHere "\u2003ΟΔΟΣ İ\u0085")
    let again := between 5 8 80 (.failedHere "οδος_i\u0307")
    let plain := between 12 3 60 (.failedHere "Insufficient Balance")
    let shouted := between 12 3 90 (.failedHere "\tINSUFFICIENT_balance\u00a0")
    (∅ : ActiveTable).reason? first = some "οδος_i\u0307" ∧
      SolidEnds "οδος_i\u0307".toList ∧
      (∅ : ActiveTable).reason? again = some "οδος_i\u0307" ∧
      plain.SameFailure shouted ∧
      plain.isCounted = true ∧
      shouted.counterLabels = ["failed", "12", "3", "forward", "insufficient_balance"] ∧
      (empty.run [first]).metrics.resolved.shown?
        ["failed", "12", "3", "forward", "οδος_i\u0307"] = some 1 ∧
      (empty.run [first, plain, shouted]).metrics.resolved.shown?
        ["failed", "12", "3", "forward", "insufficient_balance"] = some 2 ∧
      (empty.run [first, plain, plain]).metrics.resolved =
        (empty.run [first, plain, shouted]).metrics.resolved := by
  intro first again plain shouted
  obtain ⟨reasons, -, counts, failures, runs⟩ := failure_reasons_normalized
  have recorded : (∅ : ActiveTable).reason? first = some "οδος_i\u0307" := by decide +kernel
  obtain ⟨_, _, solid, stable⟩ := reasons ∅ first _ _ rfl recorded
  have trimmed : SameCause "\tINSUFFICIENT_balance\u00a0".toList
      "INSUFFICIENT_balance".toList := by
    have split : "\tINSUFFICIENT_balance\u00a0".toList =
        ['\t'] ++ "INSUFFICIENT_balance".toList ++ ['\u00a0'] := by decide +kernel
    rw [split]
    exact .surrounded (List.forall_mem_singleton.mpr (by decide))
      (List.forall_mem_singleton.mpr (by decide)) _
  have lowered : SameCause "INSUFFICIENT_balance".toList "Insufficient_Balance".toList :=
    .letterCase (by decide +kernel)
  have spaced : SameCause "Insufficient Balance".toList "Insufficient_Balance".toList := by
    have split : "Insufficient Balance".toList =
        "Insufficient".toList ++ ' ' :: "Balance".toList := by decide +kernel
    have splitOther : "Insufficient_Balance".toList =
        "Insufficient".toList ++ '_' :: "Balance".toList := by decide +kernel
    rw [split, splitOther]
    exact .underscore ⟨'I', by decide +kernel, by decide⟩ ⟨'B', by decide +kernel, by decide⟩
  have cause : Relation.EqvGen SameCause "Insufficient Balance".toList
      "\tINSUFFICIENT_balance\u00a0".toList :=
    .trans _ _ _ (.rel _ _ spaced)
      (.symm _ _ (.trans _ _ _ (.rel _ _ trimmed) (.rel _ _ lowered)))
  have same : plain.SameFailure shouted := ⟨rfl, rfl, rfl, _, _, rfl, rfl, cause⟩
  obtain ⟨_, labels, both⟩ := failures plain shouted same
  have counted : plain.isCounted = true := by decide +kernel
  have place : plain.counterLabels = ["failed", "12", "3", "forward", "insufficient_balance"] := by
    decide +kernel
  refine ⟨recorded, solid, stable ∅ again rfl (by decide), same, counted, labels ▸ place, ?_, ?_,
    ?_⟩
  · have one := counts [] first _ _ rfl recorded ["failed", "12", "3", "forward", "οδος_i\u0307"]
    exact one.trans (by decide +kernel)
  · have two := both counted [first] ["failed", "12", "3", "forward", "insufficient_balance"]
    exact two.trans (by decide +kernel)
  · exact runs empty _ _ (.cons (.inl rfl) (.cons (.inl rfl) (.cons (.inr same) .nil)))

end HtlcTracker

end LightningMetrics
