import LightningMetrics.Proofs.Streaming.Scheduling

/-!
Which comes first for a task that was told to quit. A task that still looks for errors heeds the
signal before any event. One that only drains its events waits for these and the signal alike, and
where both are ready either may be taken: it goes on with the events for as long as the choice
falls on them.
-/

set_option autoImplicit false

namespace LightningMetrics.Streaming

variable {α σ : Type}

namespace Feed

/-- How many choices in a row fall on the events once the task drains them. One that still looks for
errors has no choice at its first turn. -/
def eagerness (feed : Feed α) (choices : List Branch) : Nat :=
  let draining := if feed.life = .live .draining then choices else choices.tail
  (draining.takeWhile (· == .events)).length

/-- What a draining task handles after the signal, and how it ends, if `eager` choices in a row fall
on the events. -/
def drained (handler : Handler α σ) (eager : Nat) (feed : Feed α) (state : σ) :
    List (α × Verdict) × Exit :=
  let notes := handler.verdicts state (feed.events.queue.take eager)
  let unfaulted := if eager ≤ feed.events.queue.length || feed.events.senderOpen then .quit
    else .streamEnded
  (notes, (faultOf notes).getD unfaulted)

/-- What a task handles that was told to quit, and how it ends. -/
def dismissal (handler : Handler α σ) (choices : List Branch) (feed : Feed α) (state : σ) :
    List (α × Verdict) × Exit :=
  if feed.errors.queue = [] ∧ feed.errors.senderOpen = false then
    feed.drained handler (feed.eagerness choices) state
  else ([], feed.farewell)

variable (handler : Handler α σ)

theorem drained_zero (feed : Feed α) (state : σ) : feed.drained handler 0 state = ([], .quit) := by
  simp [drained, Handler.verdicts, faultOf]

theorem drained_of_empty {feed : Feed α} (queue : feed.events.queue = []) (eager : Nat)
    (state : σ) :
    feed.drained handler (eager + 1) state =
      ([], if feed.events.senderOpen then .quit else .streamEnded) := by
  simp [drained, queue, Handler.verdicts, faultOf]

variable {handler} in
theorem drained_of_fault {feed : Feed α} {state : σ} {event : α} {rest : List α} {exit : Exit}
    (queue : feed.events.queue = event :: rest)
    (fault : (handler.handle state event).2.exit? = some exit) (eager : Nat) :
    feed.drained handler (eager + 1) state = ([(event, (handler.handle state event).2)], exit) := by
  simp [drained, queue, handler.verdicts_of_fault fault, faultOf, fault]

variable {handler} in
theorem drained_of_accepted {feed : Feed α} {state : σ} {event : α} {rest : List α}
    (queue : feed.events.queue = event :: rest)
    (accepted : (handler.handle state event).2.exit? = none) (eager : Nat) :
    feed.drained handler (eager + 1) state =
      let later := (feed.taking rest).drained handler eager (handler.handle state event).1
      ((event, (handler.handle state event).2) :: later.1, later.2) := by
  simp only [drained, queue, List.take_succ_cons, handler.verdicts_of_accepted accepted, faultOf,
    List.findSome?_cons, accepted, List.length_cons, Nat.add_le_add_iff_right, taking]
  congr

/-- A draining task that was told to quit handles events as long as the choice falls on them. -/
theorem run_of_draining {feed : Feed α} (life : feed.life = .live .draining)
    (choices : List Branch) (state : σ) :
    let outcome := feed.drained handler (choices.takeWhile (· == .events)).length state
    feed.run handler true choices state =
      (feed.finish outcome.2, handler.after state (outcome.1.map Prod.fst)) := by
  induction choices generalizing feed state with
  | nil =>
      rw [List.takeWhile_nil, List.length_nil, drained_zero]
      exact run_of_ending life (pass_of_draining life)
  | cons first rest ih =>
      have passes : feed.pass handler true first state = feed.drain handler true first state :=
        pass_of_draining life
      cases first with
      | quit =>
          rw [List.takeWhile_cons_of_neg (by decide), List.length_nil, drained_zero]
          exact run_of_ending life passes
      | events =>
          rw [List.takeWhile_cons_of_pos rfl, List.length_cons]
          cases queue : feed.events.queue with
          | nil =>
              have ends : feed.pass handler true .events state =
                  (feed.finish (if feed.events.senderOpen then .quit else .streamEnded),
                    state) := by
                cases sender : feed.events.senderOpen <;>
                  simp [passes, drain, drainEvents, Mailbox.receive, queue, sender]
              rw [drained_of_empty handler queue]
              exact run_of_ending life ends
          | cons event later =>
              have handles : feed.pass handler true .events state =
                  feed.handleEvent handler .draining state event later := by
                simp [passes, drain, drainEvents, Mailbox.receive, queue]
              rw [handleEvent_eq_exit] at handles
              cases fault : (handler.handle state event).2.exit? with
              | some exit =>
                  rw [fault] at handles
                  rw [drained_of_fault queue fault]
                  exact run_of_ending life handles
              | none =>
                  rw [fault] at handles
                  have progress : (feed.pass handler true .events state).1.work < feed.work := by
                    rw [handles]
                    simp [work, moveTo, taking, life, queue]
                  rw [run_of_progress progress, List.head?_cons, Option.getD_some, handles,
                    drained_of_accepted queue fault]
                  exact @ih ((feed.taking later).moveTo .draining) rfl
                    (handler.handle state event).1

theorem run_of_signal_and_choices {feed : Feed α} {place : Place} (poised : feed.Poised place)
    (choices : List Branch) (state : σ) :
    let outcome := feed.dismissal handler choices state
    feed.run handler true choices state =
      (feed.finish outcome.2, handler.after state (outcome.1.map Prod.fst)) := by
  cases poised with
  | draining life empty closed =>
      have drains : feed.eagerness choices = (choices.takeWhile (· == .events)).length := by
        simp only [eagerness, life, ↓reduceIte]
      rw [dismissal, if_pos ⟨empty, closed⟩, drains]
      exact run_of_draining handler life choices state
  | watching life =>
      by_cases drains : feed.errors.queue = [] ∧ feed.errors.senderOpen = false
      · have later : feed.eagerness choices =
            (choices.tail.takeWhile (· == .events)).length := by
          simp only [eagerness, life, Life.live.injEq, reduceCtorEq, ↓reduceIte]
        rw [dismissal, if_pos drains, later, run_of_errorsClosed life drains.1 drains.2]
        exact run_of_draining handler rfl choices.tail state
      · rw [dismissal, if_neg drains]
        exact run_of_watching life drains handler choices state

theorem dismissal_recording (choices : List Branch) (feed : Feed α) (state : σ)
    (notes : List (α × Verdict)) :
    feed.dismissal handler.recording choices (state, notes) =
      feed.dismissal handler choices state := by
  simp only [dismissal, drained, handler.verdicts_recording]

theorem answered_dismissal (choices : List Branch) (feed : Feed α) (state : σ) :
    Answered handler state (feed.dismissal handler choices state).1 := by
  unfold dismissal
  split
  · exact handler.answered_verdicts state _
  · rfl

theorem run_recording_of_signal {feed : Feed α} {place : Place} (poised : feed.Poised place)
    (choices : List Branch) (state : σ) :
    let outcome := feed.dismissal handler choices state
    feed.run handler.recording true choices (state, []) =
      (feed.finish outcome.2, handler.after state (outcome.1.map Prod.fst), outcome.1) := by
  intro outcome
  have answered : outcome.1 = handler.answers state (outcome.1.map Prod.fst) :=
    answered_dismissal handler choices feed state
  rw [run_of_signal_and_choices handler.recording poised choices, dismissal_recording,
    handler.after_recording, List.nil_append, ← answered]

/-- The task ends as it was told to: with the error that waits for it or else quietly, and without
handling anything. -/
def Heeds (handler : Handler α σ) (choices : List Branch) (feed : Feed α) (state : σ) : Prop :=
  feed.run handler.recording true choices (state, []) =
    (feed.finish feed.farewell, state, [])

/-- Nothing can keep the task from heeding the signal: it finds an error or the signal first, or it
finds the signal alone. -/
def IsHeedful (feed : Feed α) : Prop :=
  feed.errors.queue ≠ [] ∨ feed.errors.senderOpen = true ∨
    feed.events.queue = [] ∧ feed.events.senderOpen = true

theorem dismissal_eq_farewell_iff (choices : List Branch) (feed : Feed α) (state : σ) :
    feed.dismissal handler choices state = ([], feed.farewell) ↔
      feed.IsHeedful ∨ feed.eagerness choices = 0 := by
  unfold dismissal IsHeedful
  by_cases drains : feed.errors.queue = [] ∧ feed.errors.senderOpen = false
  · obtain ⟨errors, closed⟩ := drains
    have quietly : feed.farewell = .quit := by simp only [farewell, errors]
    rw [if_pos ⟨errors, closed⟩, quietly]
    simp only [errors, closed, ne_eq, not_true_eq_false, Bool.false_eq_true, false_or]
    cases feed.eagerness choices with
    | zero => exact iff_of_true (drained_zero handler feed state) (.inr rfl)
    | succ eager =>
        rw [or_iff_left (Nat.succ_ne_zero eager)]
        cases queue : feed.events.queue with
        | nil =>
            rw [drained_of_empty handler queue]
            cases feed.events.senderOpen <;> simp
        | cons event rest =>
            refine iff_of_false (fun same => ?_) nofun
            have handled := congrArg Prod.fst same
            rw [drained, queue] at handled
            cases handled
  · rw [if_neg drains]
    refine iff_of_true rfl (.inl ?_)
    by_cases errors : feed.errors.queue = []
    · exact .inr (.inl (by simpa [errors] using drains))
    · exact .inl errors

theorem heeds_iff {feed : Feed α} {place : Place} (poised : feed.Poised place)
    (choices : List Branch) (state : σ) :
    feed.Heeds handler choices state ↔ feed.IsHeedful ∨ feed.eagerness choices = 0 := by
  rw [← dismissal_eq_farewell_iff handler choices feed state, Heeds,
    run_recording_of_signal handler poised choices state]
  constructor
  · intro same
    have notes : (feed.dismissal handler choices state).1 = [] := congrArg (·.2.2) same
    have ends := congrArg (·.1.life) same
    exact Prod.ext notes (Life.ended.inj ends)
  · intro same
    rw [same]
    rfl

theorem forall_heeds_iff {feed : Feed α} {place : Place} (poised : feed.Poised place)
    (state : σ) :
    (∀ choices, feed.Heeds handler choices state) ↔ feed.IsHeedful := by
  constructor
  · intro heeds
    refine ((heeds_iff handler poised [.events, .events] state).mp (heeds _)).resolve_right ?_
    unfold eagerness
    split <;> decide
  · intro heedful choices
    exact (heeds_iff handler poised choices state).mpr (.inl heedful)

end Feed

namespace Session

/-- The signal to quit, given to the live task of any session, with any choice at each of its turns.
The task ends. It ends as it was told to, with nothing handled and nothing but a waiting error to
report, if the channel for errors is open or holds one, or if it finds no event and no end of the
events beside the signal. Otherwise it has only events and the signal to look for, and may take
either: it handles the events for as long as the choice falls on them, and comes to their end if it
does so throughout. -/
theorem signal_precedence (handler : Handler α σ) (name : String) (initial : σ)
    (sinkCapacity : Nat) (steps : List (Step α)) {number : Nat} {feed : Feed α}
    (current : ((create name initial sinkCapacity).steps handler steps).2.worker.current? =
      some (number, feed)) (live : feed.isLive = true) (state : σ) :
    (∀ choices : List Branch,
      let outcome := feed.dismissal handler choices state
      feed.run handler.recording true choices (state, []) =
          (feed.finish outcome.2, handler.after state (outcome.1.map Prod.fst), outcome.1) ∧
        (feed.Heeds handler choices state ↔ feed.IsHeedful ∨ feed.eagerness choices = 0)) ∧
    ((∀ choices : List Branch, feed.Heeds handler choices state) ↔ feed.IsHeedful) := by
  obtain ⟨_, found⟩ := Worker.current?_eq_some_iff.mp current
  have faithful := faithful_history handler name initial sinkCapacity steps
  obtain ⟨_, _, _, serves⟩ := faithful.serves_of_live found live
  obtain ⟨place, poised⟩ := serves.poised
  refine ⟨fun choices => ⟨?_, ?_⟩, ?_⟩
  · exact Feed.run_recording_of_signal handler poised choices state
  · exact Feed.heeds_iff handler poised choices state
  · exact Feed.forall_heeds_iff handler poised state

/-- Accepts every number. -/
def accepting : Handler Nat Unit :=
  ⟨id, fun _ _ => ((), .accept)⟩

/-- Two events wait for a task that watches a closed channel for errors. Of the choices that follow
the first falls on the events and the second on the signal. -/
theorem signal_precedence_of_eager_choice :
    let session := ((create "htlc" () 1).steps accepting [.spawn 4, .deliver 0 (.event 7),
      .deliver 0 (.event 8), .deliver 0 .closeErrors]).2
    ∃ feed, session.worker.current? = some (0, feed) ∧ feed.isLive = true ∧
      feed.eagerness [.quit, .events, .quit] = 1 ∧
      (feed.run accepting.recording true [.quit, .events, .quit] ((), [])).2.2 =
        [(7, .accept)] ∧
      (feed.run accepting.recording true [.quit, .events, .quit] ((), [])).1.life =
        .ended .quit ∧
      feed.Heeds accepting [.quit, .quit, .events] () := by
  intro session
  obtain ⟨outcomes, _⟩ := signal_precedence accepting "htlc" () 1 [.spawn 4,
    .deliver 0 (.event 7), .deliver 0 (.event 8), .deliver 0 .closeErrors] rfl rfl ()
  obtain ⟨ran, _⟩ := outcomes [.quit, .events, .quit]
  obtain ⟨_, heeds⟩ := outcomes [.quit, .quit, .events]
  refine ⟨_, rfl, rfl, by decide, ?_, ?_, heeds.mpr (.inr (by decide))⟩
  · exact congrArg (·.2.2) ran
  · exact congrArg (·.1.life) ran

/-- A task that was told to quit may handle an event all the same, and it may report that its
stream has terminated. -/
theorem signal_not_heeded :
    (¬ ∀ (steps : List (Step Nat)) (number : Nat) (feed : Feed Nat),
      ((create "htlc" () 1).steps accepting steps).2.worker.current? = some (number, feed) →
      feed.isLive = true → ∀ choices : List Branch,
        (feed.run accepting.recording true choices ((), [])).2.2 = []) ∧
    ((create "htlc" () 1).steps accepting [.spawn 4, .deliver 0 .closeErrors,
      .deliver 0 .closeEvents, .stop [.quit, .events]]).2.sink.queue =
        [.streamTerminated "htlc"] := by
  constructor
  · intro unhandled
    have unhandled := unhandled
      [.spawn 4, .deliver 0 (.event 7), .deliver 0 .closeErrors] 0 _ rfl rfl
      [.events, .events, .events]
    exact absurd unhandled (by decide +kernel)
  · decide +kernel

end Session

end LightningMetrics.Streaming
