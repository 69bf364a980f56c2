import LightningMetrics.Proofs.Streaming.Contexts

set_option autoImplicit false

namespace LightningMetrics.Streaming

variable {α σ : Type} {handler : Handler α σ}

namespace Worker

variable {worker : Worker α σ}

/-- The worker after a run, whatever becomes of the report. -/
def ran (handler : Handler α σ) (choices : List Branch) (worker : Worker α σ) : Worker α σ :=
  (worker.run handler choices (.opened 0)).1

/-- The worker after a stop, whatever becomes of the report. -/
def stopped (handler : Handler α σ) (choices : List Branch) (worker : Worker α σ) : Worker α σ :=
  (worker.signal.ran handler choices).release

/-- The worker after a delivery, also where it has no such feed. -/
def handed (number : Nat) (delivery : Delivery α) (worker : Worker α σ) : Worker α σ :=
  ((worker.deliver? number delivery).map Prod.snd).getD worker

theorem fst_run (handler : Handler α σ) (choices : List Branch) (worker : Worker α σ)
    (sink : Sink MonitorError) :
    (worker.run handler choices sink).1 = worker.ran handler choices := by
  unfold ran run
  cases worker.current? with
  | none => rfl
  | some started =>
      dsimp only
      cases started.2.isLive <;> rfl

theorem fst_stop (handler : Handler α σ) (choices : List Branch) (worker : Worker α σ)
    (sink : Sink MonitorError) :
    (worker.stop handler choices sink).1 = worker.stopped handler choices :=
  congrArg release (worker.signal.fst_run handler choices sink)

theorem isLive_of_current? {number : Nat} {feed : Feed α}
    (current : worker.current? = some (number, feed)) : worker.isLive = feed.isLive := by
  unfold isLive
  rw [current]

theorem ran_of_still (still : worker.isLive = false) (handler : Handler α σ)
    (choices : List Branch) :
    worker.ran handler choices = worker := by
  have idle (number : Nat) (feed : Feed α) (current : worker.current? = some (number, feed)) :
      feed.isLive = false := by
    rw [← isLive_of_current? current]
    exact still
  unfold ran
  rw [run_of_still idle]

theorem ran_of_live {number : Nat} {feed : Feed α}
    (current : worker.current? = some (number, feed)) (live : feed.isLive = true)
    (handler : Handler α σ) (choices : List Branch) :
    worker.ran handler choices =
      { worker with
        feeds := worker.feeds.set number (feed.run handler worker.quit choices worker.state).1
        state := (feed.run handler worker.quit choices worker.state).2 } := by
  unfold ran
  rw [run_of_live current live]

theorem ran_frame (handler : Handler α σ) (choices : List Branch) (worker : Worker α σ) :
    (worker.ran handler choices).name = worker.name ∧
      (worker.ran handler choices).quit = worker.quit ∧
      (worker.ran handler choices).started = worker.started := by
  obtain ⟨name, started⟩ := run_frame handler choices worker (.opened 0)
  refine ⟨name, ?_, started⟩
  unfold ran
  rcases worker.run_cases handler choices (.opened 0) with ⟨_, idle, _⟩ | ⟨_, _, _, _, moved, _⟩
  · rw [idle]
  · rw [moved]

theorem quit_spawn (handler : Handler α σ) (feed : Feed α) (worker : Worker α σ) :
    (worker.spawn handler feed).2.quit = worker.quit := by
  unfold spawn
  cases worker.started <;> rfl

theorem length_feeds_spawn (handler : Handler α σ) (feed : Feed α) (worker : Worker α σ) :
    (worker.spawn handler feed).2.feeds.length = worker.feeds.length + 1 := by
  unfold spawn
  cases worker.started <;> exact List.length_append

theorem length_feeds_ran (handler : Handler α σ) (choices : List Branch) (worker : Worker α σ) :
    (worker.ran handler choices).feeds.length = worker.feeds.length := by
  unfold ran
  rcases worker.run_cases handler choices (.opened 0) with ⟨_, idle, _⟩ | ⟨_, _, _, _, moved, _⟩
  · rw [idle]
  · rw [moved]
    exact List.length_set

theorem length_feeds_stopped (handler : Handler α σ) (choices : List Branch)
    (worker : Worker α σ) : (worker.stopped handler choices).feeds.length = worker.feeds.length :=
  worker.signal.length_feeds_ran handler choices

theorem handed_frame (number : Nat) (delivery : Delivery α) (worker : Worker α σ) :
    (worker.handed number delivery).quit = worker.quit ∧
      (worker.handed number delivery).started = worker.started ∧
      (worker.handed number delivery).state = worker.state := by
  unfold handed deliver?
  cases worker.feeds[number]? <;> exact ⟨rfl, rfl, rfl⟩

/-- What becomes of a worker that is neither started nor stopped: nothing, or its task runs, or
something is delivered to it. -/
inductive Proceeds (handler : Handler α σ) (worker : Worker α σ) : Worker α σ → Prop where
  | idle : worker.Proceeds handler worker
  | ran (choices : List Branch) : worker.Proceeds handler (worker.ran handler choices)
  | handed (number : Nat) (delivery : Delivery α) :
      worker.Proceeds handler (worker.handed number delivery)

theorem Proceeds.quit {next : Worker α σ} (proceeds : worker.Proceeds handler next) :
    next.quit = worker.quit := by
  cases proceeds with
  | idle => rfl
  | ran choices => exact (ran_frame handler choices worker).2.1
  | handed number delivery => exact (handed_frame number delivery worker).1

theorem Proceeds.started {next : Worker α σ} (proceeds : worker.Proceeds handler next) :
    next.started = worker.started := by
  cases proceeds with
  | idle => rfl
  | ran choices => exact (ran_frame handler choices worker).2.2
  | handed number delivery => exact (handed_frame number delivery worker).2.1

theorem Proceeds.length_feeds {next : Worker α σ} (proceeds : worker.Proceeds handler next) :
    next.feeds.length = worker.feeds.length := by
  cases proceeds with
  | idle => rfl
  | ran choices => exact length_feeds_ran handler choices worker
  | handed number delivery =>
      unfold Worker.handed deliver?
      cases worker.feeds[number]? with
      | none => rfl
      | some feed => exact List.length_set

/-- Some session, begun with this name and this state of the handler, has led to the worker. -/
def IsReached (handler : Handler α σ) (name : String) (state : σ) (worker : Worker α σ) : Prop :=
  ∃ steps, ((Session.create name state 0).steps handler steps).2.worker = worker

end Worker

theorem Session.worker_step_congr {one other : Session α σ} (same : one.worker = other.worker)
    (step : Step α) :
    (one.step handler step).2.worker = (other.step handler step).2.worker := by
  obtain ⟨worker, sink⟩ := one
  obtain ⟨_, sink'⟩ := other
  dsimp only at same
  subst same
  cases step with
  | spawn capacity => rfl
  | deliver number delivery =>
      simp only [Session.step]
      cases worker.deliver? number delivery <;> rfl
  | cancel number => rfl
  | run choices => exact (worker.fst_run handler choices sink).trans (worker.fst_run _ _ sink').symm
  | stop choices =>
      exact (worker.fst_stop handler choices sink).trans (worker.fst_stop _ _ sink').symm
  | drainSink => rw [worker_step_drainSink, worker_step_drainSink]
  | closeSink => rfl

namespace Worker.IsReached

variable {worker : Worker α σ} {name : String} {state : σ}

theorem create (handler : Handler α σ) (name : String) (state : σ) :
    (Worker.create name state : Worker α σ).IsReached handler name state :=
  ⟨[], rfl⟩

theorem step (reached : worker.IsReached handler name state) (step : Step α) :
    ((⟨worker, .opened 0⟩ : Session α σ).step handler step).2.worker.IsReached handler name
      state := by
  obtain ⟨steps, same⟩ := reached
  refine ⟨steps ++ [step], ?_⟩
  rw [Session.steps_concat]
  exact Session.worker_step_congr same step

theorem spawn (reached : worker.IsReached handler name state) (capacity : Nat) :
    (worker.spawn handler (.opened capacity)).2.IsReached handler name state :=
  reached.step (.spawn capacity)

theorem ran (reached : worker.IsReached handler name state) (choices : List Branch) :
    (worker.ran handler choices).IsReached handler name state :=
  reached.step (.run choices)

theorem stopped (reached : worker.IsReached handler name state) (choices : List Branch) :
    (worker.stopped handler choices).IsReached handler name state :=
  reached.step (.stop choices)

theorem handed (reached : worker.IsReached handler name state) (number : Nat)
    (delivery : Delivery α) : (worker.handed number delivery).IsReached handler name state := by
  have after := reached.step (.deliver number delivery)
  unfold Worker.handed
  simp only [Session.step] at after
  cases taken : worker.deliver? number delivery with
  | none => exact reached
  | some result =>
      rw [taken] at after
      exact after

theorem proceeds {next : Worker α σ} (reached : worker.IsReached handler name state)
    (proceeds : worker.Proceeds handler next) : next.IsReached handler name state := by
  cases proceeds with
  | idle => exact reached
  | ran choices => exact reached.ran choices
  | handed number delivery => exact reached.handed number delivery

theorem over_of_free (reached : worker.IsReached handler name state)
    (free : worker.started = none) {feed : Feed α} (member : feed ∈ worker.feeds) :
    feed.isLive = false ∧ feed.cancelled = true := by
  obtain ⟨steps, rfl⟩ := reached
  obtain ⟨number, found⟩ := List.mem_iff_getElem?.mp member
  have faithful := Session.faithful_history handler name state 0 steps
  have tracked := Session.tracked_steps handler name state 0 steps number feed found
  have still : feed.isLive = false := by
    by_contra live
    rw [Bool.not_eq_false] at live
    rw [faithful.started_of_live found live] at free
    cases free
  exact ⟨still, tracked.cancelled.mpr (.inr still)⟩

end Worker.IsReached

end LightningMetrics.Streaming
