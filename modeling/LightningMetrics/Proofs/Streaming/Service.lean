import LightningMetrics.Proofs.Streaming.Journal

set_option autoImplicit false

namespace LightningMetrics.Streaming

variable {α σ : Type}

namespace Feed

/-- A task serves the feed, with these events and this error still to take. -/
structure Serves (feed : Feed α) (queue : List α) (error : Option NodeError) : Prop where
  poised : ∃ place, feed.Poised place
  room : feed.errors.capacity = 1
  events : feed.events.queue = queue
  pending : feed.errors.queue = error.toList

/-- Nothing will happen to the feed any more. -/
structure Rests (feed : Feed α) : Prop where
  still : feed.isLive = false
  events : feed.events.receiverOpen = false
  errors : feed.errors.receiverOpen = false

theorem serves_attend (capacity : Nat) : ((opened capacity).attend : Feed α).Serves [] none :=
  ⟨⟨.errors, .watching rfl⟩, rfl, rfl, rfl⟩

theorem rests_reject (capacity : Nat) : ((opened capacity).reject : Feed α).Rests :=
  ⟨rfl, rfl, rfl⟩

theorem rests_finish (feed : Feed α) (exit : Exit) : (feed.finish exit).Rests :=
  ⟨rfl, rfl, rfl⟩

theorem Serves.isLive {feed : Feed α} {queue : List α} {error : Option NodeError}
    (serves : feed.Serves queue error) : feed.isLive = true := by
  obtain ⟨place, poised⟩ := serves.poised
  simp [Feed.isLive, poised.life]

theorem Serves.cancel {feed : Feed α} {queue : List α} {error : Option NodeError}
    (serves : feed.Serves queue error) : feed.cancel.Serves queue error := by
  obtain ⟨place, poised⟩ := serves.poised
  exact ⟨⟨place, poised.of_same rfl rfl⟩, serves.room, serves.events, serves.pending⟩

theorem Rests.cancel {feed : Feed α} (rests : feed.Rests) : feed.cancel.Rests :=
  ⟨rests.still, rests.events, rests.errors⟩

theorem Rests.deliver {feed : Feed α} (rests : feed.Rests) (delivery : Delivery α) :
    delivery.happenings (feed.deliver delivery).1 = [] ∧ (feed.deliver delivery).2.Rests := by
  cases delivery with
  | event value =>
      rcases feed.events.send_cases value with ⟨_, receiver, _⟩ | ⟨result, unsent, refused⟩
      · rw [rests.events] at receiver
        cases receiver
      · simp only [Feed.deliver, refused]
        exact ⟨Delivery.happenings_of_unsent unsent, ⟨rests.still, rests.events, rests.errors⟩⟩
  | error cause =>
      rcases feed.errors.send_cases cause with ⟨_, receiver, _⟩ | ⟨result, unsent, refused⟩
      · rw [rests.errors] at receiver
        cases receiver
      · simp only [Feed.deliver, refused]
        exact ⟨Delivery.happenings_of_unsent unsent, ⟨rests.still, rests.events, rests.errors⟩⟩
  | closeEvents => exact ⟨rfl, ⟨rests.still, rests.events, rests.errors⟩⟩
  | closeErrors => exact ⟨rfl, ⟨rests.still, rests.events, rests.errors⟩⟩

theorem Serves.deliver {feed : Feed α} {queue : List α} {error : Option NodeError} (name : String)
    (serves : feed.Serves queue error) (delivery : Delivery α) :
    ∃ queue' error', Conduct.Run name (.serving queue error)
        (delivery.happenings (feed.deliver delivery).1) (.serving queue' error') ∧
      (feed.deliver delivery).2.Serves queue' error' := by
  obtain ⟨⟨place, poised⟩, room, rfl, pending⟩ := serves
  cases delivery with
  | event value =>
      rcases feed.events.send_cases value with ⟨_, _, _, sent⟩ | ⟨result, unsent, refused⟩
      · simp only [Feed.deliver, sent]
        exact ⟨_, error, Conduct.Step.event.run,
          ⟨⟨place, poised.of_same rfl rfl⟩, room, rfl, pending⟩⟩
      · simp only [Feed.deliver, refused]
        rw [Delivery.happenings_of_unsent unsent]
        exact ⟨_, error, .done, ⟨⟨place, poised⟩, room, rfl, pending⟩⟩
  | error cause =>
      rcases feed.errors.send_cases cause with ⟨sender, _, free, sent⟩ | ⟨result, unsent, refused⟩
      · have calm : feed.errors.queue = [] := by
          rw [room] at free
          exact List.eq_nil_of_length_eq_zero (by omega)
        have watching : feed.life = .live .errors := by
          cases poised with
          | watching life => exact life
          | draining _ _ closed => rw [closed] at sender; cases sender
        have free : error = none := by
          cases error with
          | none => rfl
          | some earlier => rw [calm] at pending; cases pending
        subst free
        simp only [Feed.deliver, sent, calm]
        exact ⟨_, some cause, Conduct.Step.error.run,
          ⟨⟨.errors, .watching watching⟩, room, rfl, rfl⟩⟩
      · simp only [Feed.deliver, refused]
        rw [Delivery.happenings_of_unsent unsent]
        exact ⟨_, error, .done, ⟨⟨place, poised⟩, room, rfl, pending⟩⟩
  | closeEvents =>
      exact ⟨_, error, .done, ⟨⟨place, poised.of_same rfl rfl⟩, room, rfl, pending⟩⟩
  | closeErrors =>
      have poised' : (feed.deliver .closeErrors).2.Poised place := by
        cases poised with
        | watching life => exact .watching life
        | draining life empty _ => exact .draining life empty rfl
      exact ⟨_, error, .done, ⟨⟨place, poised'⟩, room, rfl, pending⟩⟩

/-- Where passes of a task have led its feed: it still serves it, or it has just ended, as the
protocol has it. -/
inductive Reached (name : String) (feed : Feed α) : Conduct α → Prop where
  | serving {queue : List α} {error : Option NodeError} (serves : feed.Serves queue error) :
      feed.Reached name (.serving queue error)
  | finished {conduct : Conduct α} {exit : Exit} (life : feed.life = .ended exit)
      (rests : feed.Rests)
      (step : Conduct.Step name conduct (.ended exit) (Conduct.departed name exit)) :
      feed.Reached name conduct

theorem Reached.finish {name : String} {conduct : Conduct α} (feed : Feed α) {exit : Exit}
    (step : Conduct.Step name conduct (.ended exit) (Conduct.departed name exit)) :
    (feed.finish exit).Reached name conduct :=
  .finished rfl (feed.rests_finish exit) step

theorem Serves.handleEvent {feed : Feed α} {event : α} {rest : List α} (name : String)
    (serves : feed.Serves (event :: rest) none) {place : Place} (poised : feed.Poised place)
    (handler : Handler α σ) (state : σ) :
    ∃ conduct, Conduct.Step name (.serving (event :: rest) none)
        (.handled event (handler.handle state event).2) conduct ∧
      (feed.handleEvent handler place state event rest).1.Reached name conduct := by
  rw [handleEvent_eq]
  cases (handler.handle state event).2 with
  | accept =>
      have poised' : ((feed.taking rest).moveTo place).Poised place :=
        poised.of_same poised.life.symm rfl
      exact ⟨_, .accept, .serving ⟨⟨place, poised'⟩, serves.room, rfl, serves.pending⟩⟩
  | fail error => exact ⟨_, .fail, .finish _ .leave⟩
  | panic => exact ⟨_, .panic, .finish _ .leave⟩

/-- A pass follows the protocol. Its notes are what it adds to those of the passes before. -/
theorem Serves.pass {feed : Feed α} {queue : List α} {error : Option NodeError} (name : String)
    (serves : feed.Serves queue error) (handler : Handler α σ) (quit : Bool) (first : Branch)
    (state : σ) (notes : List (α × Verdict)) :
    ∃ more conduct,
      (feed.pass handler.recording quit first (state, notes)).2.2 = notes ++ more ∧
      Conduct.Run name (.serving queue error)
        (more.map fun noted => .handled noted.1 noted.2) conduct ∧
      (feed.pass handler.recording quit first (state, notes)).1.Reached name conduct := by
  obtain ⟨place, poised⟩ := serves.poised
  have passed := pass_passed handler.recording quit first (state, notes) poised
  have calm (empty : feed.errors.queue = []) : error = none := by
    cases error with
    | none => rfl
    | some cause => rw [serves.pending] at empty; cases empty
  generalize feed.pass handler.recording quit first (state, notes) = result at passed ⊢
  cases passed with
  | takesError _ found =>
      rw [serves.pending] at found
      cases error with
      | none => cases found
      | some cause =>
          cases found
          exact ⟨[], _, (List.append_nil _).symm, .done, .finish feed .takeError⟩
  | findsClosed _ empty closed =>
      have poised' : (feed.moveTo .draining).Poised .draining := .draining rfl empty closed
      exact ⟨[], _, (List.append_nil _).symm, .done,
        .serving ⟨⟨_, poised'⟩, serves.room, serves.events, serves.pending⟩⟩
  | quits empty _ =>
      cases calm empty
      exact ⟨[], _, (List.append_nil _).symm, .done, .finish feed .quit⟩
  | ends empty drained _ _ =>
      cases calm empty
      rw [serves.events] at drained
      subst drained
      exact ⟨[], _, (List.append_nil _).symm, .done, .finish feed .runDry⟩
  | waits _ _ _ _ => exact ⟨[], _, (List.append_nil _).symm, .done, .serving serves⟩
  | @handles event rest empty found _ =>
      cases calm empty
      rw [serves.events] at found
      subst found
      obtain ⟨conduct, step, reached⟩ := serves.handleEvent name poised handler state
      rw [handleEvent_recording]
      exact ⟨[(event, _)], conduct, rfl, step.run, reached⟩

/-- A run of a live task follows the protocol, up to the report on its end. -/
theorem Serves.run {feed : Feed α} {queue : List α} {error : Option NodeError} (name : String)
    (serves : feed.Serves queue error) (handler : Handler α σ) (quit : Bool)
    (choices : List Branch) (state : σ) :
    ∃ conduct, Conduct.Run name (.serving queue error)
        (feed.runHappenings name handler quit choices state) conduct ∧
      ((∃ queue error, conduct = .serving queue error ∧
          (feed.run handler quit choices state).1.Serves queue error) ∨
        conduct = .settled ∧ (feed.run handler quit choices state).1.Rests) := by
  -- The notes of the recording handler, from none, are a run of the protocol up to here.
  let Kept (feed : Feed α) (noted : σ × List (α × Verdict)) : Prop :=
    ∃ conduct, Conduct.Run name (.serving queue error)
      (noted.2.map fun noted => .handled noted.1 noted.2) conduct ∧ feed.Reached name conduct
  have keeps (first : Branch) (feed : Feed α) (noted : σ × List (α × Verdict))
      (kept : Kept feed noted) :
      Kept (feed.pass handler.recording quit first noted).1
        (feed.pass handler.recording quit first noted).2 := by
    obtain ⟨conduct, followed, reached⟩ := kept
    cases reached with
    | finished life rests step =>
        rw [pass_of_not_live _ _ _ _ _ rests.still]
        exact ⟨conduct, followed, .finished life rests step⟩
    | serving serves =>
        obtain ⟨more, conduct, notes, run, reached⟩ :=
          serves.pass name handler quit first noted.1 noted.2
        refine ⟨conduct, ?_, reached⟩
        change Conduct.Run name _ (List.map _ (feed.pass _ _ _ (noted.1, noted.2)).2.2) _
        rw [notes, List.map_append]
        exact followed.append run
  obtain ⟨conduct, followed, reached⟩ :=
    run_induction keeps choices feed (state, []) ⟨_, .done, .serving serves⟩
  rw [run_recording] at followed reached
  unfold runHappenings
  rw [List.nil_append] at followed
  cases reached with
  | serving serves' =>
      obtain ⟨place, poised⟩ := serves'.poised
      refine ⟨_, ?_, .inl ⟨_, _, rfl, serves'⟩⟩
      rw [poised.life]
      simpa only [Life.departure, List.append_nil] using followed
  | @finished _ exit life rests step =>
      -- The end and its report are the last that happens.
      refine ⟨.settled, ?_, .inr ⟨rfl, rests⟩⟩
      rw [life, Life.departure]
      refine followed.append (.next step ?_)
      unfold Conduct.departed
      cases exit.report? name with
      | none => exact .done
      | some error => exact Conduct.Step.report.run

/-- With an error there to take a run ends the task with it, whatever else there is. -/
theorem Serves.run_pending {feed : Feed α} {queue : List α} {error : NodeError}
    (serves : feed.Serves queue (some error)) (handler : Handler α σ) (quit : Bool)
    (choices : List Branch) (state : σ) :
    feed.run handler quit choices state = (feed.finish (.streamError error), state) := by
  obtain ⟨place, poised⟩ := serves.poised
  refine run_of_ending poised.life ?_
  cases poised with
  | draining _ empty _ =>
      rw [serves.pending] at empty
      cases empty
  | watching life =>
      rw [pass_of_errors life]
      simp only [Mailbox.receive, serves.pending, Option.toList]

theorem Serves.runHappenings_pending {feed : Feed α} {queue : List α} {error : NodeError}
    (name : String) (serves : feed.Serves queue (some error)) (handler : Handler α σ)
    (quit : Bool) (choices : List Branch) (state : σ) :
    feed.runHappenings name handler quit choices state =
      [.ended (.streamError error), .reported (.streamExited name error)] := by
  unfold runHappenings handled
  rw [serves.run_pending, serves.run_pending]
  rfl

end Feed

end LightningMetrics.Streaming
