import LightningMetrics.Proofs.Streaming.Passes

set_option autoImplicit false

namespace LightningMetrics.Streaming

variable {α σ : Type}

/-- The handler that also writes down each event with its verdict. -/
def Handler.recording (handler : Handler α σ) : Handler α (σ × List (α × Verdict)) where
  begin noted := (handler.begin noted.1, noted.2)
  handle noted event :=
    let (state, verdict) := handler.handle noted.1 event
    ((state, noted.2 ++ [(event, verdict)]), verdict)

namespace Feed

/-- The events that a run handles, in order, with the verdict on each. -/
def handled (handler : Handler α σ) (quit : Bool) (choices : List Branch) (feed : Feed α)
    (state : σ) : List (α × Verdict) :=
  (feed.run handler.recording quit choices (state, [])).2.2

theorem handleEvent_recording (handler : Handler α σ) (next : Place) (feed : Feed α) (state : σ)
    (event : α) (rest : List α) (notes : List (α × Verdict)) :
    handleEvent handler.recording next feed (state, notes) event rest =
      ((handleEvent handler next feed state event rest).1,
        (handleEvent handler next feed state event rest).2,
        notes ++ [(event, (handler.handle state event).2)]) := by
  unfold handleEvent Handler.recording
  dsimp only
  cases (handler.handle state event).2 <;> rfl

theorem drainEvents_recording (handler : Handler α σ) (feed : Feed α) (state : σ) :
    ∃ more, ∀ notes, drainEvents handler.recording feed (state, notes) =
      ((drainEvents handler feed state).1, (drainEvents handler feed state).2,
        notes ++ more) := by
  unfold drainEvents
  cases feed.events.receive with
  | item event rest =>
      exact ⟨_, fun notes => handleEvent_recording handler .draining feed state event rest notes⟩
  | empty => exact ⟨[], fun notes => by simp⟩
  | closed => exact ⟨[], fun notes => by simp⟩

theorem look_recording (handler : Handler α σ) (quit : Bool) (first : Branch) (feed : Feed α)
    (state : σ) :
    ∃ more, ∀ notes, look handler.recording quit first feed (state, notes) =
      ((look handler quit first feed state).1, (look handler quit first feed state).2,
        notes ++ more) := by
  unfold look
  cases life : feed.life with
  | unattended => exact ⟨[], fun notes => by simp⟩
  | ended exit => exact ⟨[], fun notes => by simp⟩
  | live place =>
      cases place with
      | errors => cases feed.errors.receive <;> exact ⟨[], fun notes => by simp⟩
      | quit => cases quit <;> exact ⟨[], fun notes => by simp⟩
      | events =>
          cases feed.events.receive with
          | item event rest =>
              exact ⟨_, fun notes =>
                handleEvent_recording handler .errors feed state event rest notes⟩
          | empty => exact ⟨[], fun notes => by simp⟩
          | closed => exact ⟨[], fun notes => by simp⟩
      | lastErrors => cases feed.errors.receive <;> exact ⟨[], fun notes => by simp⟩
      | draining =>
          obtain ⟨more, recorded⟩ := drainEvents_recording handler feed state
          unfold drain
          cases first with
          | quit =>
              cases quit with
              | true => exact ⟨[], fun notes => by simp⟩
              | false => exact ⟨more, recorded⟩
          | events =>
              cases feed.events.receive with
              | empty => cases quit <;> exact ⟨[], fun notes => by simp⟩
              | item event rest => exact ⟨more, recorded⟩
              | closed => exact ⟨more, recorded⟩

theorem looks_recording (handler : Handler α σ) (quit : Bool) (first : Branch) (count : Nat)
    (feed : Feed α) (state : σ) :
    ∃ more, ∀ notes, looks handler.recording quit first count feed (state, notes) =
      ((looks handler quit first count feed state).1,
        (looks handler quit first count feed state).2, notes ++ more) := by
  induction count generalizing feed state with
  | zero => exact ⟨[], fun notes => by simp [looks]⟩
  | succ count ih =>
      obtain ⟨now, looked⟩ := look_recording handler quit first feed state
      obtain ⟨later, rest⟩ := ih (look handler quit first feed state).1
        (look handler quit first feed state).2
      by_cases going : (look handler quit first feed state).1.inPass = true
      · refine ⟨now ++ later, fun notes => ?_⟩
        simp only [looks, looked, going, ↓reduceIte, rest, List.append_assoc]
      · refine ⟨now, fun notes => ?_⟩
        simp only [looks, looked, going, Bool.false_eq_true, ↓reduceIte]

theorem run_recording (handler : Handler α σ) (quit : Bool) (choices : List Branch)
    (feed : Feed α) (state : σ) (notes : List (α × Verdict)) :
    feed.run handler.recording quit choices (state, notes) =
      ((feed.run handler quit choices state).1, (feed.run handler quit choices state).2,
        notes ++ feed.handled handler quit choices state) := by
  suffices recorded : ∃ more, ∀ notes, feed.run handler.recording quit choices (state, notes) =
      ((feed.run handler quit choices state).1, (feed.run handler quit choices state).2,
        notes ++ more) by
    obtain ⟨more, recorded⟩ := recorded
    rw [handled, recorded, recorded]
    simp
  induction choices, feed, state using run.induct handler quit with
  | case1 choices feed state next progress ih =>
      obtain ⟨now, passed⟩ :=
        looks_recording handler quit (choices.head?.getD .quit) 4 feed state
      obtain ⟨later, rest⟩ := ih
      refine ⟨now ++ later, fun notes => ?_⟩
      have recorded : feed.pass handler.recording quit (choices.head?.getD .quit) (state, notes) =
          (next.1, next.2, notes ++ now) := passed notes
      rw [run_of_progress progress, run_of_progress (by rw [recorded]; exact progress),
        recorded, rest, List.append_assoc]
  | case2 choices feed state next idle =>
      obtain ⟨now, passed⟩ :=
        looks_recording handler quit (choices.head?.getD .quit) 4 feed state
      refine ⟨now, fun notes => ?_⟩
      have recorded : feed.pass handler.recording quit (choices.head?.getD .quit) (state, notes) =
          (next.1, next.2, notes ++ now) := passed notes
      rw [run_of_idle idle, run_of_idle (by rw [recorded]; exact idle), recorded]

end Feed

end LightningMetrics.Streaming
