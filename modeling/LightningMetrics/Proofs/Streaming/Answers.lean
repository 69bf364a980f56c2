import LightningMetrics.Proofs.Streaming.Account
import LightningMetrics.Proofs.Streaming.Looks
import LightningMetrics.Proofs.Streaming.Protocol

set_option autoImplicit false

namespace LightningMetrics.Streaming

variable {α σ : Type}

namespace Handler

/-- The state after events that the handler was given one after the other. -/
def after (handler : Handler α σ) (state : σ) (events : List α) : σ :=
  events.foldl (fun state event => (handler.handle state event).1) state

/-- What the handler answers to events that it is given one after the other. -/
def answers (handler : Handler α σ) : σ → List α → List (α × Verdict)
  | _, [] => []
  | state, event :: rest =>
      (event, (handler.handle state event).2) ::
        handler.answers (handler.handle state event).1 rest

variable (handler : Handler α σ)

theorem after_append (state : σ) (earlier later : List α) :
    handler.after state (earlier ++ later) = handler.after (handler.after state earlier) later :=
  List.foldl_append

theorem answers_append (state : σ) (earlier later : List α) :
    handler.answers state (earlier ++ later) =
      handler.answers state earlier ++ handler.answers (handler.after state earlier) later := by
  induction earlier generalizing state with
  | nil => rfl
  | cons event earlier ih => exact congrArg (_ :: ·) (ih (handler.handle state event).1)

theorem exists_of_mem_answers {state : σ} {events : List α}
    {event : α} {verdict : Verdict} (member : (event, verdict) ∈ handler.answers state events) :
    ∃ state, verdict = (handler.handle state event).2 := by
  induction events generalizing state with
  | nil => cases member
  | cons first rest ih =>
      rcases List.mem_cons.mp member with same | member
      · cases same
        exact ⟨state, rfl⟩
      · exact ih member

end Handler

/-- The notes are the handler's own answers, from `state` on. -/
def Answered (handler : Handler α σ) (state : σ) (notes : List (α × Verdict)) : Prop :=
  notes = handler.answers state (notes.map Prod.fst)

theorem Answered.append {handler : Handler α σ} {state : σ} {earlier later : List (α × Verdict)}
    (first : Answered handler state earlier)
    (second : Answered handler (handler.after state (earlier.map Prod.fst)) later) :
    Answered handler state (earlier ++ later) := by
  unfold Answered at *
  rw [List.map_append, Handler.answers_append, ← first, ← second]

namespace Feed

/-- The verdicts of a run are the handler's answers to the events that the run handles, and leave
the state to which these lead. -/
theorem handled_answers (handler : Handler α σ) (quit : Bool) (choices : List Branch)
    (feed : Feed α) (state : σ) :
    Answered handler state (feed.handled handler quit choices state) ∧
      (feed.run handler quit choices state).2 =
        handler.after state ((feed.handled handler quit choices state).map Prod.fst) := by
  let Kept (_ : Feed α) (noted : σ × List (α × Verdict)) : Prop :=
    Answered handler state noted.2 ∧ noted.1 = handler.after state (noted.2.map Prod.fst)
  have keeps (first : Branch) (next : Feed α) (noted : σ × List (α × Verdict))
      (kept : Kept next noted) :
      Kept (next.look handler.recording quit first noted).1
        (next.look handler.recording quit first noted).2 := by
    rcases next.look_cases handler.recording quit first noted with same |
      ⟨_, ⟨exit, finished⟩ | ⟨place, moved⟩ | ⟨event, rest, place, taken⟩⟩
    · rw [same]
      exact kept
    · rw [finished]
      exact kept
    · rw [moved]
      exact kept
    · obtain ⟨before, notes⟩ := noted
      obtain ⟨answered, reached⟩ := kept
      dsimp only at answered reached
      subst reached
      rw [taken, handleEvent_recording, handleEvent_eq]
      exact ⟨answered.append rfl, by rw [List.map_append, Handler.after_append]; rfl⟩
  have kept := run_of_looks Kept keeps choices feed (state, []) ⟨rfl, rfl⟩
  rw [run_recording, List.nil_append] at kept
  exact kept

theorem notes_runHappenings (name : String) (handler : Handler α σ) (quit : Bool)
    (choices : List Branch) (feed : Feed α) (state : σ) :
    Happening.notes (feed.runHappenings name handler quit choices state) =
      feed.handled handler quit choices state := by
  have departs (life : Life) : Happening.notes (life.departure name : List (Happening α)) = [] := by
    cases life with
    | ended exit =>
        change Happening.notes (.ended exit :: (exit.report? name).toList.map .reported) = []
        cases exit.report? name <;> rfl
    | _ => rfl
  unfold runHappenings
  rw [Happening.notes_append, departs, List.append_nil]
  unfold Happening.notes
  rw [List.filterMap_map]
  exact List.filterMap_some

end Feed

theorem Delivery.notes_happenings (delivery : Delivery α) (receipt : Receipt) :
    Happening.notes (delivery.happenings receipt) = [] := by
  unfold Delivery.happenings
  split <;> rfl

namespace Worker

/-- The worker with a handler that has taken these notes so far. -/
def noting (notes : List (α × Verdict)) (worker : Worker α σ) :
    Worker α (σ × List (α × Verdict)) :=
  ⟨worker.name, worker.quit, worker.started, worker.feeds, (worker.state, notes)⟩

theorem run_noting (handler : Handler α σ) (choices : List Branch) (worker : Worker α σ)
    (sink : Sink MonitorError) (notes : List (α × Verdict)) :
    (worker.noting notes).run handler.recording choices sink =
      ((worker.run handler choices sink).1.noting
        (notes ++ Happening.notes ((worker.runHappenings handler choices).map Prod.snd)),
        (worker.run handler choices sink).2) := by
  have same : (worker.noting notes).current? = worker.current? := rfl
  rcases worker.run_cases handler choices sink with
    ⟨still, idle, nothing⟩ | ⟨number, feed, current, live, ran, happened⟩
  · rw [run_of_still (same ▸ still), idle, nothing]
    exact congrArg (fun notes => (worker.noting notes, sink)) (List.append_nil notes).symm
  · have recorded := feed.run_recording handler worker.quit choices worker.state notes
    rw [run_of_live (same.trans current) live, ran, happened, List.map_map]
    simp only [noting, recorded, Function.comp_def, List.map_id', Feed.notes_runHappenings]

theorem answers_runHappenings (handler : Handler α σ) (choices : List Branch)
    (worker : Worker α σ) :
    Answered handler worker.state
      (Happening.notes ((worker.runHappenings handler choices).map Prod.snd)) := by
  rcases worker.run_cases handler choices (.opened 0) with
    ⟨_, _, nothing⟩ | ⟨number, feed, _, _, _, happened⟩
  · rw [nothing]
    rfl
  · rw [happened, List.map_map]
    simp only [Function.comp_def, List.map_id', Feed.notes_runHappenings]
    exact (feed.handled_answers handler worker.quit choices worker.state).1

end Worker

namespace Session

/-- The session with a handler that has taken these notes so far. -/
def noting (notes : List (α × Verdict)) (session : Session α σ) :
    Session α (σ × List (α × Verdict)) :=
  ⟨session.worker.noting notes, session.sink⟩

theorem notes_happenings_of_still (handler : Handler α σ) (session : Session α σ) (step : Step α)
    (still : ∀ choices, step ≠ .run choices ∧ step ≠ .stop choices) :
    Happening.notes ((session.happenings handler step).map Prod.snd) = [] := by
  cases step with
  | spawn capacity =>
      unfold happenings
      cases (session.step handler (.spawn capacity)).1 <;> rfl
  | deliver number delivery =>
      cases found : session.worker.feeds[number]? with
      | none =>
          simp only [happenings, Session.step, Worker.deliver?, found, Option.map_none]
          rfl
      | some feed =>
          simp only [happenings, Session.step, Worker.deliver?, found, Option.map_some,
            List.map_map, Function.comp_def, List.map_id', Delivery.notes_happenings]
  | run choices => exact absurd rfl (still choices).1
  | stop choices => exact absurd rfl (still choices).2
  | cancel | drainSink | closeSink => rfl

/-- With a handler that takes notes a step does the same, and notes down what it handles. -/
theorem step_noting (handler : Handler α σ) (session : Session α σ) (notes : List (α × Verdict))
    (step : Step α) :
    (session.noting notes).step handler.recording step =
      ((session.step handler step).1, (session.step handler step).2.noting
        (notes ++ Happening.notes ((session.happenings handler step).map Prod.snd))) := by
  have silent (still : ∀ choices, step ≠ .run choices ∧ step ≠ .stop choices)
      (same : (session.noting notes).step handler.recording step =
        ((session.step handler step).1, (session.step handler step).2.noting notes)) :
      (session.noting notes).step handler.recording step =
        ((session.step handler step).1, (session.step handler step).2.noting
          (notes ++ Happening.notes ((session.happenings handler step).map Prod.snd))) := by
    rw [same, notes_happenings_of_still handler session step still, List.append_nil]
  have run (worker : Worker α σ) (choices : List Branch) :=
    worker.run_noting handler choices session.sink notes
  cases step with
  | spawn capacity =>
      obtain ⟨⟨name, quit, started, feeds, state⟩, sink⟩ := session
      refine silent (by simp) ?_
      cases started <;> rfl
  | deliver number delivery =>
      refine silent (by simp) ?_
      simp only [Session.step, noting, Worker.noting, Worker.deliver?]
      cases session.worker.feeds[number]? <;> rfl
  | run choices =>
      simp only [Session.step, Session.run, noting, run, happenings]
  | stop choices =>
      have signalled : (session.worker.noting notes).signal = session.worker.signal.noting notes :=
        rfl
      simp only [Session.step, Session.stop, Worker.stop, noting, signalled, run, happenings]
      rfl
  | cancel number => exact silent (by simp) rfl
  | drainSink =>
      obtain ⟨worker, ⟨capacity, queue, senderOpen, receiverOpen⟩⟩ := session
      refine silent (by simp) ?_
      cases receiverOpen <;> rfl
  | closeSink => exact silent (by simp) rfl

/-- Whatever the steps, the history says what the handler was given, in the order in which it was
given, and what it answered. -/
theorem steps_noting (handler : Handler α σ) (session : Session α σ) (notes : List (α × Verdict))
    (steps : List (Step α)) :
    (session.noting notes).steps handler.recording steps =
      ((session.steps handler steps).1, (session.steps handler steps).2.noting
        (notes ++ Happening.notes ((session.history handler steps).map Prod.snd))) := by
  induction steps generalizing session notes with
  | nil =>
      rw [history]
      exact congrArg (fun notes => ([], session.noting notes)) (List.append_nil notes).symm
  | cons step rest ih =>
      simp only [Session.steps, history, step_noting, ih, List.map_append, Happening.notes_append,
        List.append_assoc]

end Session

end LightningMetrics.Streaming
