import LightningMetrics.Proofs.Streaming.Signal

set_option autoImplicit false

namespace LightningMetrics.Streaming.Session

variable {α σ : Type}

/-- What a stop comes to at `before`. -/
structure QuietStop (handler : Handler α σ) (choices : List Branch) (before : Session α σ) :
    Prop where
  /-- No task is left, and the context of every feed is cancelled. -/
  settled : ∀ feed ∈ (before.step handler (.stop choices)).2.worker.feeds,
    feed.isLive = false ∧ feed.cancelled = true
  /-- Only an error that waits for the task is handed to the sink. -/
  handsOver : (before.step handler (.stop choices)).2.sink =
    before.worker.waitingError?.elim before.sink fun error =>
      Sink.report before.sink (.streamExited before.worker.name error)
  unhandled : (before.step handler (.stop choices)).2.worker.state = before.worker.state ∧
    Happening.notes ((before.happenings handler (.stop choices)).map Prod.snd) = []
  /-- A second stop changes nothing. -/
  again : ∀ second, (before.step handler (.stop choices)).2.step handler (.stop second) =
    (.done, (before.step handler (.stop choices)).2)

/-- What becomes of the feed `number` where its task was started at `spawned`, with the signal
already given, and `later` steps have made its history `own`. -/
structure QuitsAtOnce (handler : Handler α σ) (spawned : Session α σ) (number : Nat)
    (later : List (Step α)) (own : List (Happening α)) : Prop where
  unhandled : Happening.notes own = []
  /-- The first run or stop ends the task: with an error, if one was accepted, and otherwise with
  the signal and without a report. -/
  atFirstRun : ∀ quiet step rest, later = quiet ++ step :: rest →
    (∀ other ∈ quiet, other.letsRun = false) → step.letsRun = true →
    let before := (spawned.steps handler quiet).2
    ∃ feed ended exit, before.worker.feeds[number]? = some feed ∧ feed.isLive = true ∧
      (before.step handler step).2.worker.feeds[number]? = some ended ∧
      ended.life = .ended exit ∧ ended.cancelled = true ∧
      Happening.exits own = [exit] ∧
      (exit = .quit ∧ (∀ error, .errorSent error ∉ own) ∧ Happening.reports own = [] ∨
        ∃ error, exit = .streamError error ∧ .errorSent error ∈ own ∧
          Happening.reports own = [.streamExited spawned.worker.name error])

theorem step_stop_again (handler : Handler α σ) (session : Session α σ)
    (choices second : List Branch) :
    (session.step handler (.stop choices)).2.step handler (.stop second) =
      (.done, (session.step handler (.stop choices)).2) := by
  have free : (session.step handler (.stop choices)).2.worker.started = none :=
    session.started_step handler (.stop choices)
  have told : (session.step handler (.stop choices)).2.worker.quit = true := by
    rw [quit_step]
    exact Bool.or_true _
  generalize (session.step handler (.stop choices)).2 = stopped at free told ⊢
  obtain ⟨⟨name, quit, started, feeds, state⟩, sink⟩ := stopped
  dsimp only at free told
  subst free told
  rfl

theorem errorsOpen_created (handler : Handler α σ) (name : String) (state : σ) (sinkCapacity : Nat)
    {steps : List (Step α)} (keeps : ∀ step ∈ steps, step.closesErrors = false) :
    ((create name state sinkCapacity).steps handler steps).2.worker.ErrorsOpen :=
  errorsOpen_steps (fun _ member => nomatch member) keeps

theorem quietStop (handler : Handler α σ) (name : String) (state : σ) (sinkCapacity : Nat)
    {earlier : List (Step α)} (keeps : ∀ step ∈ earlier, step.closesErrors = false)
    (choices : List Branch) :
    QuietStop handler choices ((create name state sinkCapacity).steps handler earlier).2 := by
  have faithful := faithful_history handler name state sinkCapacity earlier
  have errorsOpen := errorsOpen_created handler name state sinkCapacity keeps
  have stopped := faithful_history handler name state sinkCapacity (earlier ++ [.stop choices])
  have tracked := tracked_steps handler name state sinkCapacity (earlier ++ [.stop choices])
  dsimp only at tracked
  rw [steps_concat] at stopped tracked
  generalize ((create name state sinkCapacity).steps handler earlier).2 = before at *
  have runs : (Step.stop choices : Step α).letsRun = true := rfl
  obtain ⟨untouched, outcome⟩ := faithful.step_of_signal errorsOpen handler runs (.inr rfl)
  refine ⟨fun feed member => ?_, ?_, ⟨untouched, ?_⟩, before.step_stop_again handler choices⟩
  · obtain ⟨number, found⟩ := List.mem_iff_getElem?.mp member
    have still : feed.isLive = false := by
      by_contra live
      rw [Bool.not_eq_false] at live
      have started := stopped.started_of_live found live
      rw [started_step] at started
      cases started
    exact ⟨still, (tracked number feed found).cancelled.mpr (.inr still)⟩
  · rcases outcome with ⟨none, same, _⟩ | ⟨_, feed, _, _, waits, _, handed, _⟩
    · rw [none, same]
      rfl
    · rw [waits, handed, faithful.named]
      unfold Feed.farewell Worker.reportExit
      cases feed.errors.queue <;> rfl
  · exact faithful.notes_of_signal errorsOpen handler (.inr rfl)

/-- A task that is started after a stop ends as soon as it gets to run. -/
theorem quitsAtOnce (handler : Handler α σ) (name : String) (state : σ) (sinkCapacity : Nat)
    {earlier later : List (Step α)} {capacity : Nat}
    (keeps : ∀ step ∈ earlier ++ .spawn capacity :: later, step.closesErrors = false)
    (stopped : ∃ step ∈ earlier, step.isStop = true) :
    let start : Session α σ := create name state sinkCapacity
    let before := (start.steps handler earlier).2
    let spawned := (before.step handler (.spawn capacity)).2
    before.worker.started = none →
    QuitsAtOnce handler spawned before.worker.feeds.length later
      (ofFeed before.worker.feeds.length
        (start.history handler (earlier ++ .spawn capacity :: later))) := by
  intro start before spawned free
  have past : before.Faithful name (start.history handler earlier) :=
    faithful_history handler name state sinkCapacity earlier
  obtain ⟨keepsEarlier, keepsOnwards⟩ := List.forall_mem_append.mp keeps
  obtain ⟨_, keepsLater⟩ := List.forall_mem_cons.mp keepsOnwards
  have openBefore : before.worker.ErrorsOpen :=
    errorsOpen_created handler name state sinkCapacity keepsEarlier
  have told : spawned.worker.quit = true := by
    rw [quit_step, quit_steps, List.any_eq_true.mpr stopped]
    rfl
  have present : spawned.Faithful name
      (start.history handler earlier ++ before.happenings handler (.spawn capacity)) :=
    past.step handler (.spawn capacity)
  have openSpawned : spawned.worker.ErrorsOpen := errorsOpen_step openBefore rfl
  have whole : start.history handler (earlier ++ .spawn capacity :: later) =
      start.history handler earlier ++ before.happenings handler (.spawn capacity) ++
        spawned.history handler later := by
    rw [history_append, List.append_assoc]
    rfl
  rw [whole]
  refine ⟨?_, ?_⟩
  · have fresh := past.ofFeed_of_unknown (Nat.le_refl before.worker.feeds.length)
    have opening : ofFeed before.worker.feeds.length
        (before.happenings handler (.spawn capacity)) = [.spawned] := by
      rw [happenings_spawn, free]
      exact ofFeed_own _ [.spawned]
    have silent := present.notes_history_of_signal openSpawned told handler keepsLater
    rw [ofFeed_append, ofFeed_append, fresh, opening, Happening.notes_append,
      notes_ofFeed_of_none silent]
    rfl
  · rintro quiet step rest rfl unrun runs there
    have attended : spawned.worker.feeds[before.worker.feeds.length]? =
        some (Feed.opened capacity).attend := by
      change (before.step handler (.spawn capacity)).2.worker.feeds[_]? = _
      simp only [Session.step, spawn, Worker.spawn_of_free free]
      exact List.getElem?_concat_length
    obtain ⟨feed, found, live⟩ := live_of_unrun attended rfl handler unrun
    have faithful := present.steps handler quiet
    have errorsOpen : there.worker.ErrorsOpen := errorsOpen_steps openSpawned
      fun other member => keepsLater other (List.mem_append_left _ member)
    have told' : there.worker.quit = true := by
      change (spawned.steps handler quiet).2.worker.quit = true
      rw [quit_steps, told]
      rfl
    have ends := faithful.ends_at_run errorsOpen told' handler runs found live rest
    have split : spawned.history handler (quiet ++ step :: rest) =
        spawned.history handler quiet ++ there.history handler (step :: rest) :=
      spawned.history_append handler quiet (step :: rest)
    rw [split, ← List.append_assoc]
    obtain ⟨finished, exits, reports, accepted⟩ := ends
    refine ⟨feed, feed.finish feed.farewell, feed.farewell, found, live, finished, rfl, rfl, exits,
      ?_⟩
    have named : spawned.worker.name = name := present.named
    rw [reports, named]
    rcases feed.farewell_cases with quits | ⟨error, fails⟩
    · refine .inl ⟨quits, fun error sent => ?_, by rw [quits]; rfl⟩
      rw [(accepted error).mpr sent] at quits
      cases quits
    · exact .inr ⟨error, fails, (accepted error).mp fails, by rw [fails]; rfl⟩

/-- Whatever the steps, as long as none closes an error channel: a stop leaves no task and no open
context, handles nothing, hands over at most the error that waits for the task, and leaves nothing
to do for a second one. After it no event is ever handled, and a task that is started later ends
as soon as it gets to run. -/
theorem stop_is_final (handler : Handler α σ) (name : String) (state : σ) (sinkCapacity : Nat)
    (steps : List (Step α)) (keeps : ∀ step ∈ steps, step.closesErrors = false) :
    let start : Session α σ := create name state sinkCapacity
    (∀ earlier choices later, steps = earlier ++ .stop choices :: later →
      let before := (start.steps handler earlier).2
      let past := start.history handler earlier
      QuietStop handler choices before ∧
      (∀ error, before.worker.waitingError? = some error ↔
        ∃ number, .errorSent error ∈ ofFeed number past ∧
          Happening.exits (ofFeed number past) = []) ∧
      Happening.notes ((before.history handler (.stop choices :: later)).map Prod.snd) = []) ∧
    (∀ earlier capacity later, steps = earlier ++ .spawn capacity :: later →
      (∃ step ∈ earlier, step.isStop = true) →
      let before := (start.steps handler earlier).2
      (before.step handler (.spawn capacity)).1 = .done →
      QuitsAtOnce handler (before.step handler (.spawn capacity)).2 before.worker.feeds.length later
        (ofFeed before.worker.feeds.length (start.history handler steps))) := by
  intro start
  refine ⟨?_, ?_⟩
  · rintro earlier choices later rfl before past
    obtain ⟨keepsEarlier, keepsOnwards⟩ := List.forall_mem_append.mp keeps
    obtain ⟨_, keepsLater⟩ := List.forall_mem_cons.mp keepsOnwards
    have faithful : before.Faithful name past :=
      faithful_history handler name state sinkCapacity earlier
    have errorsOpen : before.worker.ErrorsOpen :=
      errorsOpen_created handler name state sinkCapacity keepsEarlier
    have told : (before.step handler (.stop choices)).2.worker.quit = true := by
      rw [quit_step]
      exact Bool.or_true _
    refine ⟨quietStop handler name state sinkCapacity keepsEarlier choices,
      faithful.waitingError?_eq_some_iff, ?_⟩
    rw [history, List.map_append, Happening.notes_append,
      faithful.notes_of_signal errorsOpen handler (.inr rfl)]
    exact (faithful.step handler (.stop choices)).notes_history_of_signal
      (errorsOpen_step errorsOpen rfl) told handler keepsLater
  · rintro earlier capacity later rfl stopped before accepted
    refine quitsAtOnce handler name state sinkCapacity keeps stopped ?_
    have replied := before.reply_spawn handler capacity
    rw [accepted] at replied
    cases started : before.worker.started with
    | none => rfl
    | some current =>
        rw [started] at replied
        cases replied

/-- A stop finds an error and an event that wait; the next feed has an event and finds a task that
ends with its first run. -/
theorem stop_is_final_of_pending_error :
    let handler : Handler Nat Unit := ⟨fun state => state, fun state _ => (state, .accept)⟩
    let gone : NodeError := ⟨.stream, "gone"⟩
    let steps : List (Step Nat) := [.spawn 2, .deliver 0 (.event 7), .deliver 0 (.error gone),
      .stop [], .spawn 2, .deliver 1 (.event 8), .run []]
    let start : Session Nat Unit := create "htlcs" () 1
    let stopping := (start.steps handler (steps.take 3)).2
    let stopped := (stopping.step handler (.stop [])).2
    (∀ step ∈ steps, step.closesErrors = false) ∧
      QuietStop handler [] stopping ∧ stopped.sink.queue = [.streamExited "htlcs" gone] ∧
      (stopped.step handler (.spawn 2)).1 = .done ∧
      QuitsAtOnce handler (stopped.step handler (.spawn 2)).2 1
        [.deliver 1 (.event 8), .run []] (ofFeed 1 (start.history handler steps)) ∧
      Happening.exits (ofFeed 1 (start.history handler steps)) = [.quit] := by
  intro handler gone steps start stopping stopped
  have keeps : ∀ step ∈ steps, step.closesErrors = false := by decide
  obtain ⟨stops, spawns⟩ := stop_is_final handler "htlcs" () 1 steps keeps
  have accepted : (stopped.step handler (.spawn 2)).1 = .done := by decide +kernel
  refine ⟨keeps, (stops (steps.take 3) [] (steps.drop 4) rfl).1, by decide +kernel, accepted,
    ?_, by decide +kernel⟩
  exact spawns (steps.take 4) 2 (steps.drop 5) rfl ⟨.stop [], by decide, rfl⟩ accepted

end LightningMetrics.Streaming.Session
