import LightningMetrics.Proofs.Streaming.Service

/-!
Every feed of a session lives by the protocol of a subscription, whatever the steps and their
order. A step says what it does to each feed (`Worker.Advances`), and a list of steps keeps the
whole session `Faithful`.
-/

set_option autoImplicit false

namespace LightningMetrics.Streaming

variable {α σ : Type}

/-- How a worker stands to one of its feeds when nothing is happening to it. -/
inductive Worker.Shows (worker : Worker α σ) (number : Nat) : Conduct α → Prop where
  | unopened (unknown : worker.feeds.length ≤ number) : worker.Shows number .unopened
  | serving {feed : Feed α} {queue : List α} {error : Option NodeError}
      (found : worker.feeds[number]? = some feed) (started : worker.started = some number)
      (serves : feed.Serves queue error) : worker.Shows number (.serving queue error)
  | settled {feed : Feed α} (found : worker.feeds[number]? = some feed) (rests : feed.Rests) :
      worker.Shows number .settled

/-- What a step has made happen takes every feed from where it stood to where it stands. -/
def Worker.Advances (name : String) (worker next : Worker α σ)
    (news : List (Nat × Happening α)) : Prop :=
  ∀ number conduct, worker.Shows number conduct →
    ∃ after, Conduct.Run name conduct (ofFeed number news) after ∧ next.Shows number after

namespace Worker

variable {name : String} {worker next : Worker α σ} {number : Nat} {conduct : Conduct α}

/-- What a worker shows of a feed depends on that feed and on which task was started. -/
theorem Shows.of_same (shows : worker.Shows number conduct)
    (feeds : next.feeds[number]? = worker.feeds[number]?)
    (length : next.feeds.length = worker.feeds.length)
    (started : next.started = worker.started) : next.Shows number conduct := by
  cases shows with
  | unopened unknown => exact .unopened (length ▸ unknown)
  | serving found current serves =>
      exact .serving (feeds.trans found) (started.trans current) serves
  | settled found rests => exact .settled (feeds.trans found) rests

theorem Advances.of_same (feeds : next.feeds = worker.feeds)
    (started : next.started = worker.started) : Advances name worker next [] :=
  fun _ conduct shows => ⟨conduct, .done, shows.of_same (by rw [feeds]) (by rw [feeds]) started⟩

/-- A step that changes one feed advances the worker where it advances that feed. -/
theorem Advances.of_set {feed changed : Feed α} {own : List (Happening α)}
    (found : worker.feeds[number]? = some feed)
    (feeds : next.feeds = worker.feeds.set number changed)
    (started : next.started = worker.started)
    (serving : ∀ queue error, worker.started = some number → feed.Serves queue error →
      ∃ after, Conduct.Run name (.serving queue error) own after ∧
        ((∃ queue error, after = .serving queue error ∧ changed.Serves queue error) ∨
          after = .settled ∧ changed.Rests))
    (resting : feed.Rests → own = [] ∧ changed.Rests) :
    Advances name worker next (own.map (number, ·)) := by
  have inside : number < worker.feeds.length := (List.getElem?_eq_some_iff.mp found).1
  have now : next.feeds[number]? = some changed := by
    rw [feeds, List.getElem?_set_self inside]
  intro other conduct shows
  by_cases same : number = other
  · subst same
    rw [ofFeed_own]
    cases shows with
    | unopened unknown => omega
    | serving found' current serves =>
        cases found.symm.trans found'
        obtain ⟨after, run, reached⟩ := serving _ _ current serves
        refine ⟨after, run, ?_⟩
        rcases reached with ⟨queue, error, rfl, serves'⟩ | ⟨rfl, rests⟩
        · exact .serving now (started.trans current) serves'
        · exact .settled now rests
    | settled found' rests =>
        cases found.symm.trans found'
        obtain ⟨rfl, rests'⟩ := resting rests
        exact ⟨.settled, .done, .settled now rests'⟩
  · rw [ofFeed_other same]
    refine ⟨conduct, .done, shows.of_same ?_ (by rw [feeds, List.length_set]) started⟩
    rw [feeds, List.getElem?_set_ne same]

theorem Advances.of_open {feed : Feed α} {happening : Happening α}
    (feeds : next.feeds = worker.feeds ++ [feed])
    (step : ∃ after, Conduct.Step name .unopened happening after ∧
      next.Shows worker.feeds.length after)
    (started : ∀ number, worker.started = some number → next.started = some number) :
    Advances name worker next [(worker.feeds.length, happening)] := by
  intro number conduct shows
  change ∃ after, Conduct.Run name conduct
    (ofFeed number ([happening].map (worker.feeds.length, ·))) after ∧ _
  have kept (feed : Feed α) (found : worker.feeds[number]? = some feed) :
      next.feeds[number]? = some feed ∧ worker.feeds.length ≠ number := by
    have inside := (List.getElem?_eq_some_iff.mp found).1
    rw [feeds, List.getElem?_append_left inside]
    exact ⟨found, by omega⟩
  cases shows with
  | unopened unknown =>
      by_cases same : worker.feeds.length = number
      · subst same
        obtain ⟨after, step, shows⟩ := step
        rw [ofFeed_own]
        exact ⟨after, step.run, shows⟩
      · rw [ofFeed_other same]
        refine ⟨_, .done, .unopened ?_⟩
        rw [feeds, List.length_append, List.length_singleton]
        omega
  | serving found current serves =>
      obtain ⟨found', apart⟩ := kept _ found
      rw [ofFeed_other apart]
      exact ⟨_, .done, .serving found' (started _ current) serves⟩
  | settled found rests =>
      obtain ⟨found', apart⟩ := kept _ found
      rw [ofFeed_other apart]
      exact ⟨_, .done, .settled found' rests⟩

theorem current?_eq_some_iff {feed : Feed α} :
    worker.current? = some (number, feed) ↔
      worker.started = some number ∧ worker.feeds[number]? = some feed := by
  simp only [current?, Option.bind_eq_bind, Option.bind_eq_some_iff, pure, Option.some.injEq,
    Prod.mk.injEq]
  constructor
  · rintro ⟨_, started, _, found, rfl, rfl⟩
    exact ⟨started, found⟩
  · rintro ⟨started, found⟩
    exact ⟨number, started, feed, found, rfl, rfl⟩

theorem run_of_live {feed : Feed α} (current : worker.current? = some (number, feed))
    (live : feed.isLive = true) (handler : Handler α σ) (choices : List Branch)
    (sink : Sink MonitorError) :
    worker.run handler choices sink =
      ({ worker with
          feeds := worker.feeds.set number
            (feed.run handler worker.quit choices worker.state).1
          state := (feed.run handler worker.quit choices worker.state).2 },
        reportExit worker.name (feed.run handler worker.quit choices worker.state).1.life
          sink) := by
  simp only [run, current, live, ↓reduceIte]

theorem run_of_still (still : ∀ number feed, worker.current? = some (number, feed) →
      feed.isLive = false) (handler : Handler α σ) (choices : List Branch)
    (sink : Sink MonitorError) :
    worker.run handler choices sink = (worker, sink) := by
  unfold run
  cases current : worker.current? with
  | none => rfl
  | some started =>
      simp only [still started.1 started.2 current, Bool.false_eq_true, ↓reduceIte]

/-- A run finds no live task and does nothing, or runs the one there is. -/
theorem run_cases (handler : Handler α σ) (choices : List Branch) (worker : Worker α σ)
    (sink : Sink MonitorError) :
    ((∀ number feed, worker.current? = some (number, feed) → feed.isLive = false) ∧
      worker.run handler choices sink = (worker, sink) ∧
      worker.runHappenings handler choices = []) ∨
    ∃ number feed, worker.current? = some (number, feed) ∧ feed.isLive = true ∧
      worker.run handler choices sink =
        ({ worker with
            feeds := worker.feeds.set number
              (feed.run handler worker.quit choices worker.state).1
            state := (feed.run handler worker.quit choices worker.state).2 },
          reportExit worker.name (feed.run handler worker.quit choices worker.state).1.life sink) ∧
      worker.runHappenings handler choices =
        (feed.runHappenings worker.name handler worker.quit choices worker.state).map
          (number, ·) := by
  cases current : worker.current? with
  | none =>
      have still (number : Nat) (feed : Feed α) (here : worker.current? = some (number, feed)) :
          feed.isLive = false := by
        rw [current] at here
        cases here
      refine .inl ⟨current ▸ still, run_of_still still handler choices sink, ?_⟩
      simp only [runHappenings, current]
  | some started =>
      obtain ⟨number, feed⟩ := started
      cases live : feed.isLive with
      | false =>
          have still (other : Nat) (served : Feed α)
              (here : worker.current? = some (other, served)) : served.isLive = false := by
            cases current.symm.trans here
            exact live
          refine .inl ⟨current ▸ still, run_of_still still handler choices sink, ?_⟩
          simp only [runHappenings, current, live, Bool.false_eq_true, ↓reduceIte]
      | true =>
          refine .inr ⟨number, feed, rfl, live, run_of_live current live handler choices sink, ?_⟩
          simp only [runHappenings, current, live, ↓reduceIte]

theorem run_frame (handler : Handler α σ) (choices : List Branch) (worker : Worker α σ)
    (sink : Sink MonitorError) :
    (worker.run handler choices sink).1.name = worker.name ∧
      (worker.run handler choices sink).1.started = worker.started := by
  unfold run
  cases worker.current? with
  | none => exact ⟨rfl, rfl⟩
  | some started =>
      dsimp only
      cases started.2.isLive <;> exact ⟨rfl, rfl⟩

theorem run_advances (handler : Handler α σ) (choices : List Branch) (worker : Worker α σ)
    (sink : Sink MonitorError) :
    Advances worker.name worker (worker.run handler choices sink).1
      (worker.runHappenings handler choices) := by
  rcases worker.run_cases handler choices sink with
    ⟨_, idle, nothing⟩ | ⟨number, feed, current, live, ran, happened⟩
  · rw [idle, nothing]
    exact .of_same rfl rfl
  · obtain ⟨_, found⟩ := current?_eq_some_iff.mp current
    rw [ran, happened]
    refine .of_set found rfl rfl ?_ ?_
    · intro queue error _ serves
      exact serves.run worker.name handler worker.quit choices worker.state
    · intro rests
      rw [rests.still] at live
      cases live

theorem run_of_quit (signalled : worker.quit = true) (shows : worker.Shows number conduct)
    (started : worker.started = some number) (handler : Handler α σ) (choices : List Branch)
    (sink : Sink MonitorError) {feed : Feed α}
    (found : (worker.run handler choices sink).1.feeds[number]? = some feed) :
    feed.isLive = false := by
  cases shows with
  | unopened unknown =>
      have absent : worker.feeds[number]? = none := List.getElem?_eq_none unknown
      rw [run_of_still (by simp [current?, started, absent]), absent] at found
      cases found
  | @settled feed' there rests =>
      have current := current?_eq_some_iff.mpr ⟨started, there⟩
      rw [run_of_still (by simp [current, rests.still]), there] at found
      cases found
      exact rests.still
  | @serving feed' _ _ there _ serves =>
      have current := current?_eq_some_iff.mpr ⟨started, there⟩
      have inside := (List.getElem?_eq_some_iff.mp there).1
      rw [run_of_live current serves.isLive, List.getElem?_set_self inside] at found
      cases found
      rcases Feed.run_ended_or_waiting handler worker.quit choices feed' worker.state
        serves.poised with ⟨exit, finished⟩ | waiting
      · exact Feed.isLive_of_ended finished
      · rw [signalled] at waiting
        cases waiting.unsignalled

theorem stop_advances (handler : Handler α σ) (choices : List Branch) (worker : Worker α σ)
    (sink : Sink MonitorError) :
    Advances worker.name worker (worker.stop handler choices sink).1
      (worker.signal.runHappenings handler choices) := by
  intro number conduct shows
  have before : worker.signal.Shows number conduct := shows.of_same rfl rfl rfl
  obtain ⟨after, run, reached⟩ :=
    run_advances handler choices worker.signal sink number conduct before
  refine ⟨after, run, ?_⟩
  cases reached with
  | unopened unknown => exact .unopened unknown
  | settled found rests => exact .settled found rests
  | serving found started serves =>
      -- A task that still served its feed would have been left alive by a run with the signal.
      have same : worker.signal.started = some number := by
        rw [← started]
        exact (run_frame handler choices worker.signal sink).2.symm
      have finished := run_of_quit rfl before same handler choices sink found
      rw [serves.isLive] at finished
      cases finished

theorem spawn_of_started {current : Nat} (started : worker.started = some current)
    (handler : Handler α σ) (feed : Feed α) :
    worker.spawn handler feed =
      (.error (.alreadyStarted worker.name),
        { worker with feeds := worker.feeds ++ [feed.reject] }) := by
  simp only [spawn, started]

theorem spawn_of_free (free : worker.started = none) (handler : Handler α σ) (feed : Feed α) :
    worker.spawn handler feed =
      (.ok (),
        { worker with
          started := some worker.feeds.length
          feeds := worker.feeds ++ [feed.attend]
          state := handler.begin worker.state }) := by
  simp only [spawn, free]

end Worker

namespace Session

variable {name : String}

theorem spawn_advances (handler : Handler α σ) (session : Session α σ) (capacity : Nat) :
    Worker.Advances session.worker.name session.worker
      (session.step handler (.spawn capacity)).2.worker
      (session.happenings handler (.spawn capacity)) := by
  cases started : session.worker.started with
  | some current =>
      have turned := Worker.spawn_of_started started handler (.opened capacity)
      simp only [happenings, step, spawn, turned, replyOf]
      refine .of_open rfl ⟨.settled, .turnAway, ?_⟩ (fun number same => same)
      exact .settled List.getElem?_concat_length (Feed.rests_reject capacity)
  | none =>
      have taken := Worker.spawn_of_free started handler (.opened capacity)
      simp only [happenings, step, spawn, taken, replyOf]
      refine .of_open rfl ⟨_, .spawn, ?_⟩ (by simp [started])
      exact .serving List.getElem?_concat_length rfl (Feed.serves_attend capacity)

theorem deliver_advances (handler : Handler α σ) (session : Session α σ) (number : Nat)
    (delivery : Delivery α) :
    Worker.Advances session.worker.name session.worker
      (session.step handler (.deliver number delivery)).2.worker
      (session.happenings handler (.deliver number delivery)) := by
  cases found : session.worker.feeds[number]? with
  | none =>
      simp only [happenings, step, Worker.deliver?, found, Option.map_none]
      exact .of_same rfl rfl
  | some feed =>
      simp only [happenings, step, Worker.deliver?, found, Option.map_some]
      refine .of_set found rfl rfl ?_ (fun rests => rests.deliver delivery)
      intro queue error _ serves
      obtain ⟨queue', error', run, serves'⟩ := serves.deliver session.worker.name delivery
      exact ⟨_, run, .inl ⟨queue', error', rfl, serves'⟩⟩

theorem cancel_advances (handler : Handler α σ) (session : Session α σ) (number : Nat) :
    Worker.Advances session.worker.name session.worker
      (session.step handler (.cancel number)).2.worker
      (session.happenings handler (.cancel number)) := by
  cases found : session.worker.feeds[number]? with
  | none =>
      refine .of_same ?_ rfl
      exact List.modify_eq_self (List.getElem?_eq_none_iff.mp found)
  | some feed =>
      have feeds : session.worker.feeds.modify number Feed.cancel =
          session.worker.feeds.set number feed.cancel := by
        apply List.ext_getElem?
        intro other
        have inside := (List.getElem?_eq_some_iff.mp found).1
        rw [List.getElem?_modify]
        by_cases same : number = other
        · subst same
          rw [List.getElem?_set_self inside, found]
          simp
        · rw [List.getElem?_set_ne same]
          simp [same]
      change Worker.Advances _ _ _ (([] : List (Happening α)).map (number, ·))
      refine .of_set found feeds rfl ?_ ?_
      · intro queue error _ serves
        exact ⟨_, .done, .inl ⟨queue, error, rfl, serves.cancel⟩⟩
      · exact fun rests => ⟨rfl, rests.cancel⟩

theorem step_advances (handler : Handler α σ) (session : Session α σ) (step : Step α) :
    Worker.Advances session.worker.name session.worker (session.step handler step).2.worker
      (session.happenings handler step) := by
  cases step with
  | spawn capacity => exact session.spawn_advances handler capacity
  | deliver number delivery => exact session.deliver_advances handler number delivery
  | cancel number => exact session.cancel_advances handler number
  | run choices => exact session.worker.run_advances handler choices session.sink
  | stop choices => exact session.worker.stop_advances handler choices session.sink
  | closeSink => exact .of_same rfl rfl
  | drainSink =>
      have same : (session.step handler .drainSink).2.worker = session.worker := by
        simp only [Session.step, drainSink]
        cases session.sink.receiverOpen <;> rfl
      rw [same]
      exact .of_same rfl rfl

theorem name_step (handler : Handler α σ) (session : Session α σ) (step : Step α) :
    (session.step handler step).2.worker.name = session.worker.name := by
  cases step with
  | spawn capacity =>
      cases started : session.worker.started with
      | some current => simp only [Session.step, spawn, Worker.spawn_of_started started]
      | none => simp only [Session.step, spawn, Worker.spawn_of_free started]
  | deliver number delivery =>
      simp only [Session.step, Worker.deliver?]
      cases session.worker.feeds[number]? <;> rfl
  | cancel number => rfl
  | run choices => exact (Worker.run_frame handler choices session.worker session.sink).1
  | stop choices => exact (Worker.run_frame handler choices session.worker.signal session.sink).1
  | drainSink =>
      simp only [Session.step, drainSink]
      cases session.sink.receiverOpen <;> rfl
  | closeSink => rfl

/-- Every feed has lived by the protocol, and stands where its past has led it. -/
structure Faithful (name : String) (session : Session α σ) (past : List (Nat × Happening α)) :
    Prop where
  named : session.worker.name = name
  feeds : ∀ number, ∃ conduct, Conduct.Run name .unopened (ofFeed number past) conduct ∧
    session.worker.Shows number conduct

theorem faithful_create (name : String) (state : σ) (sinkCapacity : Nat) :
    (create name state sinkCapacity : Session α σ).Faithful name [] :=
  ⟨rfl, fun number => ⟨.unopened, .done, .unopened (Nat.zero_le number)⟩⟩

theorem Faithful.step {session : Session α σ} {past : List (Nat × Happening α)}
    (faithful : session.Faithful name past) (handler : Handler α σ) (step : Step α) :
    (session.step handler step).2.Faithful name (past ++ session.happenings handler step) := by
  refine ⟨(session.name_step handler step).trans faithful.named, fun number => ?_⟩
  obtain ⟨conduct, past, shows⟩ := faithful.feeds number
  obtain ⟨after, news, shows'⟩ := session.step_advances handler step number conduct shows
  rw [faithful.named] at news
  rw [ofFeed_append]
  exact ⟨after, past.append news, shows'⟩

theorem Faithful.steps {session : Session α σ} {past : List (Nat × Happening α)}
    (faithful : session.Faithful name past) (handler : Handler α σ) (steps : List (Step α)) :
    (session.steps handler steps).2.Faithful name (past ++ session.history handler steps) := by
  induction steps generalizing session past with
  | nil =>
      rw [history, List.append_nil]
      exact faithful
  | cons step rest ih =>
      rw [history, ← List.append_assoc]
      exact ih (faithful.step handler step)

theorem faithful_history (handler : Handler α σ) (name : String) (state : σ) (sinkCapacity : Nat)
    (steps : List (Step α)) :
    ((create name state sinkCapacity).steps handler steps).2.Faithful name
      ((create name state sinkCapacity).history handler steps) :=
  (faithful_create name state sinkCapacity).steps handler steps

end Session

end LightningMetrics.Streaming
