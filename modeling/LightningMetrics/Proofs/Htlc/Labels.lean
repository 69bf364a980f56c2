import LightningMetrics.Proofs.Htlc.Processing

set_option autoImplicit false

namespace LightningMetrics

namespace HtlcEvent

/-- The reason label of a resolution. -/
def reasonLabel (event : HtlcEvent) : String :=
  match event.stage with
  | .failedBack => externalReason
  | .failedHere detail => String.ofList (normalizeReason detail.toList)
  | _ => ""

/-- The labels of the counter series of an event: those of its latency series, and the reason. -/
def counterLabels (event : HtlcEvent) : List String :=
  event.latencyLabels ++ [event.reasonLabel]

/-- Is the event a resolution that trackers accept? -/
def isCounted (event : HtlcEvent) : Bool :=
  event.isResolution && event.isAccepted

theorem outcome_resolution {event : HtlcEvent} {detail : Option String} {resolution : Resolution}
    (resolved : event.resolution detail = .ok resolution) :
    detail = none ∧ resolution.outcome = .settled ∨
      ∃ description, detail = some description ∧ normalizeReason description.toList ≠ [] ∧
        resolution.outcome = .failed (String.ofList (normalizeReason description.toList)) := by
  unfold HtlcEvent.resolution at resolved
  cases towards : event.direction.known? with
  | none =>
      rw [towards] at resolved
      cases resolved
  | some direction =>
      rw [towards] at resolved
      cases detail with
      | none =>
          cases resolved
          exact .inl ⟨rfl, rfl⟩
      | some description =>
          refine .inr ⟨description, rfl, ?_⟩
          dsimp only at resolved
          split at resolved
          · cases resolved
          · rename_i normal
            cases resolved
            exact ⟨normal, rfl⟩

theorem normalizeReason_externalReason :
    String.ofList (normalizeReason externalReason.toList) = externalReason := by
  decide +kernel

theorem reasonText_resolution {event : HtlcEvent} {detail : Option String}
    {resolution : Resolution} (stage : event.stage.resolution? = some detail)
    (resolved : event.resolution detail = .ok resolution) :
    resolution.outcome.reasonText = event.reasonLabel := by
  unfold reasonLabel
  rcases outcome_resolution resolved with ⟨rfl, outcome⟩ | ⟨description, rfl, _, outcome⟩
  · rw [outcome]
    cases known : event.stage <;>
      simp only [known, HtlcStage.resolution?, reduceCtorEq, Option.some.injEq] at stage
    rfl
  · rw [outcome]
    cases known : event.stage <;>
      simp only [known, HtlcStage.resolution?, reduceCtorEq, Option.some.injEq] at stage
    · subst stage
      exact normalizeReason_externalReason
    · subst stage
      rfl

theorem counterLabels_resolution {event : HtlcEvent} {detail : Option String}
    {resolution : Resolution} (stage : event.stage.resolution? = some detail)
    (resolved : event.resolution detail = .ok resolution) :
    resolution.counterLabels = event.counterLabels := by
  rw [Resolution.counterLabels, latencyLabels_resolution stage resolved,
    reasonText_resolution stage resolved]
  rfl

theorem isCounted_iff (event : HtlcEvent) :
    event.isCounted = true ↔ ∃ detail resolution, event.stage.resolution? = some detail ∧
      event.resolution detail = .ok resolution := by
  unfold isCounted
  obtain ⟨other, _⟩ | ⟨detail, error, stage, refused, taken⟩ |
    ⟨detail, resolution, stage, resolved, taken⟩ := (∅ : ActiveTable).step_cases event
  · rw [other]
    refine iff_of_false Bool.false_ne_true ?_
    rintro ⟨detail, _, stage, _⟩
    rw [isResolution, stage] at other
    cases other
  · rw [HtlcTracker.isAccepted_of_step_error taken, Bool.and_false]
    refine iff_of_false Bool.false_ne_true ?_
    rintro ⟨_, _, stage', resolved⟩
    cases stage.symm.trans stage'
    cases refused.symm.trans resolved
  · rw [HtlcTracker.isAccepted_of_step_ok taken, isResolution, stage]
    exact iff_of_true rfl ⟨detail, resolution, rfl, resolved⟩

theorem settled_iff_reasonLabel {event : HtlcEvent} (counted : event.isCounted = true) :
    event.stage = .settled ↔ event.reasonLabel = "" := by
  obtain ⟨detail, resolution, stage, resolved⟩ := (isCounted_iff event).mp counted
  unfold reasonLabel
  cases known : event.stage <;>
    simp only [known, HtlcStage.resolution?, reduceCtorEq, Option.some.injEq] at stage
  · exact iff_of_true rfl rfl
  · exact iff_of_false (by simp) (by decide)
  · rcases outcome_resolution resolved with ⟨rfl, _⟩ | ⟨description, rfl, labelled, _⟩
    · cases stage
    · cases stage
      refine iff_of_false (by simp) fun blank => labelled ?_
      simpa using blank

end HtlcEvent

end LightningMetrics
