import LightningMetrics.Proofs.Streaming.Passes

set_option autoImplicit false

namespace LightningMetrics.Streaming.Feed

variable {α σ : Type}

theorem drainEvents_cases (handler : Handler α σ) (feed : Feed α) (state : σ) :
    feed.drainEvents handler state = (feed, state) ∨
      (∃ exit, feed.drainEvents handler state = (feed.finish exit, state)) ∨
      ∃ event rest place, feed.drainEvents handler state =
        feed.handleEvent handler place state event rest := by
  unfold drainEvents
  cases feed.events.receive with
  | item event rest => exact .inr (.inr ⟨event, rest, .draining, rfl⟩)
  | empty => exact .inl rfl
  | closed => exact .inr (.inl ⟨.streamEnded, rfl⟩)

theorem drain_cases (handler : Handler α σ) (quit : Bool) (first : Branch) (feed : Feed α)
    (state : σ) :
    feed.drain handler quit first state = (feed, state) ∨
      (∃ exit, feed.drain handler quit first state = (feed.finish exit, state)) ∨
      ∃ event rest place, feed.drain handler quit first state =
        feed.handleEvent handler place state event rest := by
  have drains := drainEvents_cases handler feed state
  unfold drain
  cases first with
  | quit =>
      cases quit with
      | true => exact .inr (.inl ⟨.quit, rfl⟩)
      | false => exact drains
  | events =>
      cases feed.events.receive with
      | item event rest => exact drains
      | closed => exact drains
      | empty =>
          cases quit with
          | true => exact .inr (.inl ⟨.quit, rfl⟩)
          | false => exact .inl rfl

/-- A look finds nothing to do, or ends the task, or moves it on, or takes the front event. -/
theorem look_cases (handler : Handler α σ) (quit : Bool) (first : Branch) (feed : Feed α)
    (state : σ) :
    feed.look handler quit first state = (feed, state) ∨
      feed.isLive = true ∧
        ((∃ exit, feed.look handler quit first state = (feed.finish exit, state)) ∨
          (∃ place, feed.look handler quit first state = (feed.moveTo place, state)) ∨
          ∃ event rest place, feed.look handler quit first state =
            feed.handleEvent handler place state event rest) := by
  cases live : feed.isLive with
  | false => exact .inl (look_of_not_live handler quit first feed state live)
  | true =>
      unfold look
      cases life : feed.life with
      | unattended => exact .inl rfl
      | ended exit => exact .inl rfl
      | live place =>
          cases place with
          | errors =>
              cases feed.errors.receive with
              | item error rest => exact .inr ⟨rfl, .inl ⟨_, rfl⟩⟩
              | empty => exact .inr ⟨rfl, .inr (.inl ⟨_, rfl⟩)⟩
              | closed => exact .inr ⟨rfl, .inr (.inl ⟨_, rfl⟩)⟩
          | quit =>
              cases quit with
              | true => exact .inr ⟨rfl, .inl ⟨_, rfl⟩⟩
              | false => exact .inr ⟨rfl, .inr (.inl ⟨_, rfl⟩)⟩
          | events =>
              cases feed.events.receive with
              | item event rest => exact .inr ⟨rfl, .inr (.inr ⟨event, rest, .errors, rfl⟩)⟩
              | empty => exact .inr ⟨rfl, .inr (.inl ⟨_, rfl⟩)⟩
              | closed => exact .inr ⟨rfl, .inr (.inl ⟨_, rfl⟩)⟩
          | lastErrors =>
              cases feed.errors.receive <;> exact .inr ⟨rfl, .inl ⟨_, rfl⟩⟩
          | draining =>
              rcases drain_cases handler quit first feed state with same | finished | taken
              · exact .inl same
              · exact .inr ⟨rfl, .inl finished⟩
              · exact .inr ⟨rfl, .inr (.inr taken)⟩

/-- What every look keeps, a run keeps. -/
theorem run_of_looks {handler : Handler α σ} {quit : Bool} (Kept : Feed α → σ → Prop)
    (keeps : ∀ first feed state, Kept feed state →
      Kept (feed.look handler quit first state).1 (feed.look handler quit first state).2)
    (choices : List Branch) (feed : Feed α) (state : σ) (kept : Kept feed state) :
    Kept (feed.run handler quit choices state).1 (feed.run handler quit choices state).2 := by
  have looked (first : Branch) (count : Nat) : ∀ feed state, Kept feed state →
      Kept (feed.looks handler quit first count state).1
        (feed.looks handler quit first count state).2 := by
    induction count with
    | zero => exact fun _ _ kept => kept
    | succ count ih =>
        intro feed state kept
        simp only [looks]
        by_cases going : (feed.look handler quit first state).1.inPass = true
        · rw [if_pos going]
          exact ih _ _ (keeps first feed state kept)
        · rw [if_neg going]
          exact keeps first feed state kept
  exact run_induction (fun first feed state kept => looked first 4 feed state kept)
    choices feed state kept

theorem cancelled_run (handler : Handler α σ) (quit : Bool) (choices : List Branch) {feed : Feed α}
    (state : σ) (live : feed.isLive = true) :
    (feed.run handler quit choices state).1.cancelled =
      (feed.cancelled || !(feed.run handler quit choices state).1.isLive) := by
  let Kept (next : Feed α) (_ : σ) : Prop := next.cancelled = (feed.cancelled || !next.isLive)
  have keeps (first : Branch) (next : Feed α) (state : σ) (kept : Kept next state) :
      Kept (next.look handler quit first state).1 (next.look handler quit first state).2 := by
    rcases look_cases handler quit first next state with same | ⟨going, looked⟩
    · rw [same]
      exact kept
    · have uncancelled : next.cancelled = feed.cancelled := by
        rw [kept, going, Bool.not_true, Bool.or_false]
      rcases looked with ⟨exit, finished⟩ | ⟨place, moved⟩ | ⟨event, rest, place, taken⟩
      · rw [finished]
        exact (Bool.or_true _).symm
      · rw [moved]
        exact uncancelled.trans (Bool.or_false _).symm
      · rw [taken, handleEvent_eq]
        cases (handler.handle state event).2 with
        | accept => exact uncancelled.trans (Bool.or_false _).symm
        | fail error => exact (Bool.or_true _).symm
        | panic => exact (Bool.or_true _).symm
  refine run_of_looks Kept keeps choices feed state ?_
  change feed.cancelled = (feed.cancelled || !feed.isLive)
  rw [live, Bool.not_true, Bool.or_false]

end LightningMetrics.Streaming.Feed
