import LightningMetrics.Proofs.Streaming.Answers
import LightningMetrics.Proofs.Streaming.Timeline

set_option autoImplicit false

namespace LightningMetrics.Streaming

variable {α σ : Type}

namespace Session

variable {handler : Handler α σ} {session : Session α σ} {number : Nat} {name : String}

/-- How the worker has attended the feed `number`, whose task began with the handler in the state
`begun`. While that task is the one that was started, nobody else changes the handler's state. -/
structure Attends (handler : Handler α σ) (begun : σ) (number : Nat) (session : Session α σ)
    (own : List (Happening α)) : Prop where
  inside : number < session.worker.feeds.length
  answered : Answered handler begun (Happening.notes own)
  reached : session.worker.started = some number →
    session.worker.state = handler.after begun ((Happening.notes own).map Prod.fst)

theorem started_of_started_step (handler : Handler α σ)
    (inside : number < session.worker.feeds.length) (step : Step α)
    (started : (session.step handler step).2.worker.started = some number) :
    session.worker.started = some number := by
  rw [started_step] at started
  cases step with
  | spawn capacity =>
      cases before : session.worker.started with
      | some current => rwa [before] at started
      | none =>
          rw [before] at started
          cases started
          exact absurd inside (Nat.lt_irrefl _)
  | stop choices => cases started
  | _ => exact started

theorem Attends.step {begun : σ} {own : List (Happening α)}
    (attends : session.Attends handler begun number own) (step : Step α) :
    (session.step handler step).2.Attends handler begun number
      (own ++ ofFeed number (session.happenings handler step)) := by
  obtain ⟨inside, answered, reached⟩ := attends
  obtain ⟨next, there, touches⟩ :=
    session.feed_step handler (List.getElem?_eq_getElem inside) step
  have inside' := lt_length_step handler session inside step
  have before := started_of_started_step handler inside step
  -- A step that hands this feed's handler nothing leaves the account as it is.
  have silent (news : List (Happening α)) (unhandled : Happening.notes news = [])
      (idle : session.worker.started = some number →
        (session.step handler step).2.worker.state = session.worker.state) :
      (session.step handler step).2.Attends handler begun number (own ++ news) := by
    have same : Happening.notes (own ++ news) = Happening.notes own := by
      rw [Happening.notes_append, unhandled, List.append_nil]
    refine ⟨inside', same ▸ answered, fun started => ?_⟩
    rw [same, idle (before started), reached (before started)]
  generalize ofFeed number (session.happenings handler step) = news at touches ⊢
  cases touches with
  | leaves _ idle => exact silent [] rfl idle
  | delivers delivery idle => exact silent _ (delivery.notes_happenings _) fun _ => idle
  | cancels => exact silent [] rfl fun _ => rfl
  | @runs _ choices quit _ started _ moved =>
      obtain ⟨answers, moves⟩ := Feed.handled_answers handler quit choices
        session.worker.feeds[number] session.worker.state
      refine ⟨inside', ?_, fun _ => ?_⟩
      · rw [Happening.notes_append, Feed.notes_runHappenings]
        refine answered.append ?_
        rwa [← reached started]
      · rw [moved, moves, Happening.notes_append, Feed.notes_runHappenings, List.map_append,
          Handler.after_append, ← reached started]

theorem Attends.steps {begun : σ} {own : List (Happening α)}
    (attends : session.Attends handler begun number own) (steps : List (Step α)) :
    (session.steps handler steps).2.Attends handler begun number
      (own ++ ofFeed number (session.history handler steps)) := by
  induction steps generalizing session own with
  | nil =>
      rw [history]
      exact (List.append_nil own).symm ▸ attends
  | cons step rest ih =>
      rw [history, ofFeed_append, ← List.append_assoc]
      exact ih (attends.step step)

end Session

/-- What the history of one feed of the stream `name` says on the events sent to it, if its task
began with the handler in the state `begun`. -/
structure InOrder (name : String) (handler : Handler α σ) (begun : σ)
    (own : List (Happening α)) : Prop where
  /-- The events sent are handled from the first on, once each and in their order. -/
  inOrder : (Happening.notes own).map Prod.fst <+: Happening.sent own
  /-- The handler is shown these events and no others. -/
  answered : Answered handler begun (Happening.notes own)
  quiet : ∀ earlier exit later, own = earlier ++ .ended exit :: later → Happening.notes later = []
  ofCleanEnd : .ended .streamEnded ∈ own → (Happening.notes own).map Prod.fst = Happening.sent own
  /-- Unless the handler itself has used these words, the report of a clean end tells of one. -/
  ofTermination : .reported (.streamTerminated name) ∈ own →
    (∀ event, .handled event (.fail (.streamTerminated name)) ∉ own) → .ended .streamEnded ∈ own
  /-- A handler that fails or panics does so on the last event that it is given, and on none of
  those sent before. -/
  ofFault : ∀ exit, .ended exit ∈ own → (exit = .panicked ∨ ∃ error, exit = .handlerError error) →
    ∃ accepted event verdict rest,
      handler.answers begun (Happening.sent own) = accepted ++ (event, verdict) :: rest ∧
      AllAccepted accepted ∧ verdict.exit? = some exit ∧
      Happening.notes own = accepted ++ [(event, verdict)]

namespace Conduct

variable {name : String} {own : List (Happening α)} {conduct : Conduct α}

/-- A report tells of an end that calls for it. -/
theorem Run.ended_of_reported {report : MonitorError} (run : Run name .unopened own conduct)
    (reported : .reported report ∈ own) :
    ∃ exit, .ended exit ∈ own ∧ exit.report? name = some report := by
  have accounts := run.accounts_unopened
  rw [← Happening.mem_reports] at reported
  have silent (unreported : Happening.reports own = []) : report ∉ Happening.reports own := by
    rw [unreported]
    exact nofun
  cases conduct with
  | unopened | serving | leaving => exact absurd reported (silent accounts.2)
  | owing error =>
      obtain ⟨_, _, _, unreported⟩ := accounts
      exact absurd reported (silent unreported)
  | settled =>
      rcases accounts with ⟨_, unreported⟩ | ⟨exit, one, reports⟩
      · exact absurd reported (silent unreported)
      · rw [reports, Option.mem_toList] at reported
        refine ⟨exit, ?_, reported⟩
        rw [← Happening.mem_exits, one]
        exact List.mem_singleton_self exit

/-- Unless the handler itself has used these words, the report of a clean end tells of one. -/
theorem Run.ended_of_terminated (run : Run name .unopened own conduct)
    (reported : .reported (.streamTerminated name) ∈ own)
    (otherwise : ∀ event, .handled event (.fail (.streamTerminated name)) ∉ own) :
    .ended .streamEnded ∈ own := by
  obtain ⟨exit, ended, called⟩ := run.ended_of_reported reported
  cases exit with
  | streamEnded => exact ended
  | handlerError error =>
      cases called
      obtain ⟨accepted, event, _, _, notes, _⟩ := run.balanced.settled_of_ended ended
      refine absurd (Happening.mem_notes.mp ?_) (otherwise event)
      rw [notes]
      exact List.mem_append_right _ (List.mem_singleton_self _)
  | _ => cases called

theorem Run.inOrder {handler : Handler α σ} {begun : σ} (run : Run name .unopened own conduct)
    (answered : Answered handler begun (Happening.notes own)) :
    InOrder name handler begun own := by
  have balanced := run.balanced
  refine ⟨balanced.order, answered, ?_, ?_, run.ended_of_terminated, ?_⟩
  · rintro earlier exit later rfl
    exact run.notes_of_ended
  · exact fun ended => (balanced.settled_of_ended ended).2
  · intro exit ended fault
    have settled := balanced.settled_of_ended ended
    have faulted {verdict : Verdict} (gives : verdict.exit? = some exit)
        (fault : FaultedWith verdict own) : ∃ accepted event verdict rest,
          handler.answers begun (Happening.sent own) = accepted ++ (event, verdict) :: rest ∧
          AllAccepted accepted ∧ verdict.exit? = some exit ∧
          Happening.notes own = accepted ++ [(event, verdict)] := by
      obtain ⟨accepted, event, rest, allAccepted, notes, _⟩ := fault
      obtain ⟨left, sent⟩ := balanced.order
      -- What was sent is what was handled and what is left over, so the answers split there.
      rw [← sent, Handler.answers_append, ← answered, notes, List.append_assoc]
      exact ⟨accepted, event, verdict, _, rfl, allAccepted, gives, rfl⟩
    rcases fault with rfl | ⟨error, rfl⟩
    · exact faulted rfl settled
    · exact faulted rfl settled

theorem Run.of_turnedAway (run : Run name .unopened own conduct) (refused : .turnedAway ∈ own) :
    own = [.turnedAway] := by
  rcases run.opening with ⟨rfl, _⟩ | ⟨alone, _⟩ | ⟨later, rfl, served⟩
  · cases refused
  · exact alone
  · rcases List.mem_cons.mp refused with same | member
    · cases same
    · exact absurd member (served.notOpening nofun).2

end Conduct

namespace Session

variable {session : Session α σ} {name : String}

theorem Faithful.ofFeed_of_unknown {past : List (Nat × Happening α)} {number : Nat}
    (faithful : session.Faithful name past) (unknown : session.worker.feeds.length ≤ number) :
    ofFeed number past = [] := by
  obtain ⟨conduct, run, shows⟩ := faithful.feeds number
  cases shows with
  | unopened _ => exact run.balanced
  | serving found _ _ | settled found _ =>
      exact absurd (List.getElem?_eq_some_iff.mp found).1 (Nat.not_lt.mpr unknown)

/-- The worker attends a feed from the spawn on that was accepted for it. -/
theorem Faithful.attends_spawn {past : List (Nat × Happening α)}
    (faithful : session.Faithful name past) (handler : Handler α σ) (capacity : Nat)
    (free : session.worker.started = none) :
    (session.step handler (.spawn capacity)).2.Attends handler
      (handler.begin session.worker.state) session.worker.feeds.length
      (ofFeed session.worker.feeds.length
        (past ++ session.happenings handler (.spawn capacity))) := by
  have fresh := faithful.ofFeed_of_unknown (Nat.le_refl session.worker.feeds.length)
  have own : ofFeed session.worker.feeds.length
      (past ++ session.happenings handler (.spawn capacity)) = [.spawned] := by
    rw [ofFeed_append, fresh, happenings_spawn, free]
    exact ofFeed_own _ [.spawned]
  rw [own]
  refine ⟨?_, rfl, fun _ => ?_⟩
  · rw [length_spawn]
    exact Nat.lt_succ_self _
  · simp only [Session.step, spawn, Worker.spawn_of_free free]
    rfl

/-- Between two steps a task has accepted all that it was given, or the last event was the end of
it. -/
theorem Faithful.accepted_or_faulted {past : List (Nat × Happening α)}
    (faithful : session.Faithful name past) (number : Nat) :
    let own := ofFeed number past
    AllAccepted (Happening.notes own) ∨
      ∃ exit verdict feed, .ended exit ∈ own ∧ verdict.exit? = some exit ∧
        FaultedWith verdict own ∧ session.worker.feeds[number]? = some feed ∧
        feed.isLive = false := by
  intro own
  obtain ⟨conduct, run, shows⟩ := faithful.feeds number
  have balanced := run.balanced
  change Conduct.Balanced own conduct at balanced
  cases shows with
  | unopened _ =>
      rw [show own = [] from balanced]
      exact .inl nofun
  | serving _ _ _ => exact .inl balanced.2.1
  | settled found rests =>
      rcases balanced with turned | ⟨exit, one, settled⟩
      · rw [turned]
        exact .inl nofun
      · have ended : .ended exit ∈ own := by
          rw [← Happening.mem_exits, one]
          exact List.mem_singleton_self exit
        cases exit with
        | streamEnded | quit | streamError => exact .inl settled.1
        | handlerError error => exact .inr ⟨_, _, _, ended, rfl, settled, found, rests.still⟩
        | panicked => exact .inr ⟨_, _, _, ended, rfl, settled, found, rests.still⟩

/-- A task that a run leaves alive has taken everything that was there. -/
theorem queue_of_live_run {worker : Worker α σ} {handler : Handler α σ} {choices : List Branch}
    {sink : Sink MonitorError} {number : Nat} {conduct : Conduct α} {feed : Feed α}
    (shows : worker.Shows number conduct)
    (found : (worker.run handler choices sink).1.feeds[number]? = some feed)
    (live : feed.isLive = true) : feed.events.queue = [] := by
  -- A feed that the run did not change is alive only if its task was started.
  have unchanged (same : worker.feeds[number]? = some feed) :
      worker.current? = some (number, feed) := by
    cases shows with
    | unopened unknown =>
        rw [List.getElem?_eq_none unknown] at same
        cases same
    | serving there started _ => exact Worker.current?_eq_some_iff.mpr ⟨started, same⟩
    | settled there rests =>
        cases there.symm.trans same
        rw [rests.still] at live
        cases live
  rcases worker.run_cases handler choices sink with
    ⟨still, idle, _⟩ | ⟨current, served, task, working, ran, _⟩
  · rw [idle] at found
    have stopped := still number feed (unchanged found)
    rw [live] at stopped
    cases stopped
  · obtain ⟨_, there⟩ := Worker.current?_eq_some_iff.mp task
    have inside := (List.getElem?_eq_some_iff.mp there).1
    rw [ran] at found
    by_cases same : current = number
    · subst same
      rw [List.getElem?_set_self inside] at found
      cases found
      cases shows with
      | unopened unknown => exact absurd inside (Nat.not_lt.mpr unknown)
      | settled found rests =>
          cases there.symm.trans found
          rw [rests.still] at working
          cases working
      | serving found _ serves =>
          cases there.symm.trans found
          rcases Feed.run_ended_or_waiting handler worker.quit choices served worker.state
            serves.poised with ⟨exit, finished⟩ | waiting
          · rw [Feed.isLive_of_ended finished] at live
            cases live
          · exact waiting.drained
    · rw [List.getElem?_set_ne same] at found
      have other := task.symm.trans (unchanged found)
      cases other
      exact absurd rfl same

/-- After a run a live task has handled all that was sent to it, and accepted it. -/
theorem Faithful.accepted_of_live_run {past : List (Nat × Happening α)}
    (faithful : session.Faithful name past) (handler : Handler α σ) (choices : List Branch)
    {number : Nat} {feed : Feed α}
    (found : (session.step handler (.run choices)).2.worker.feeds[number]? = some feed)
    (live : feed.isLive = true) :
    let own := ofFeed number (past ++ session.happenings handler (.run choices))
    AllAccepted (Happening.notes own) ∧
      (Happening.notes own).map Prod.fst = Happening.sent own := by
  intro own
  obtain ⟨_, _, before⟩ := faithful.feeds number
  obtain ⟨conduct, run, after⟩ := (faithful.step handler (.run choices)).feeds number
  have drained := queue_of_live_run before found live
  have balanced : Conduct.Balanced own conduct := run.balanced
  cases after with
  | unopened unknown =>
      rw [List.getElem?_eq_none unknown] at found
      cases found
  | settled there rests =>
      cases there.symm.trans found
      rw [rests.still] at live
      cases live
  | serving there _ serves =>
      cases there.symm.trans found
      obtain ⟨_, accepted, sent⟩ := balanced
      rw [← serves.events, drained, List.append_nil] at sent
      exact ⟨accepted, sent.symm⟩

theorem inOrder_of_spawn (handler : Handler α σ) (name : String) (state : σ) (sinkCapacity : Nat)
    (earlier later : List (Step α)) (capacity : Nat) :
    let start : Session α σ := create name state sinkCapacity
    let before := (start.steps handler earlier).2
    before.worker.started = none →
      InOrder name handler (handler.begin before.worker.state)
        (ofFeed before.worker.feeds.length
          (start.history handler (earlier ++ .spawn capacity :: later))) := by
  intro start before free
  have past : before.Faithful name (start.history handler earlier) :=
    faithful_history handler name state sinkCapacity earlier
  have whole := faithful_history handler name state sinkCapacity
    (earlier ++ .spawn capacity :: later)
  obtain ⟨conduct, run, _⟩ := whole.feeds before.worker.feeds.length
  have attends := (past.attends_spawn handler capacity free).steps later
  rw [← ofFeed_append, List.append_assoc] at attends
  have split := start.history_append handler earlier (.spawn capacity :: later)
  exact run.inOrder (split ▸ attends.answered)

/-- A feed that came to a worker with a task is never attended. -/
theorem notes_of_refused_spawn (handler : Handler α σ) (name : String) (state : σ)
    (sinkCapacity : Nat) (earlier later : List (Step α)) (capacity : Nat) :
    let start : Session α σ := create name state sinkCapacity
    let before := (start.steps handler earlier).2
    before.worker.started.isSome →
      Happening.notes (ofFeed before.worker.feeds.length
        (start.history handler (earlier ++ .spawn capacity :: later))) = [] := by
  intro start before taken
  have whole := faithful_history handler name state sinkCapacity
    (earlier ++ .spawn capacity :: later)
  obtain ⟨conduct, run, _⟩ := whole.feeds before.worker.feeds.length
  have refused : .turnedAway ∈ ofFeed before.worker.feeds.length
      (start.history handler (earlier ++ .spawn capacity :: later)) := by
    rw [start.history_append handler earlier (.spawn capacity :: later), history,
      happenings_spawn, if_pos taken, ofFeed_append, ofFeed_append]
    refine List.mem_append_right _ (List.mem_append_left _ ?_)
    exact (ofFeed_own _ [.turnedAway]).symm ▸ List.mem_singleton_self _
  exact congrArg Happening.notes (run.of_turnedAway refused)

/-- Whatever the steps and their order: of each feed that a task was started for, the events are
handled in the order in which they were sent, and those of a feed that was turned away never are.
The handler is called by runs and stops alone, and what the history says of its calls is what it
was given. -/
theorem events_handled_in_order (handler : Handler α σ) (name : String) (state : σ)
    (sinkCapacity : Nat) (steps : List (Step α)) :
    let start : Session α σ := create name state sinkCapacity
    let past := start.history handler steps
    (∀ earlier capacity later, steps = earlier ++ .spawn capacity :: later →
      let before := (start.steps handler earlier).2
      let own := ofFeed before.worker.feeds.length past
      let reply := (before.step handler (.spawn capacity)).1
      (reply = .done → InOrder name handler (handler.begin before.worker.state) own) ∧
      (reply ≠ .done → Happening.notes own = [])) ∧
    (∀ number, (start.steps handler steps).2.worker.feeds.length ≤ number →
      ofFeed number past = []) ∧
    (∀ step : Step α, (∀ choices, step ≠ .run choices ∧ step ≠ .stop choices) →
      Happening.notes (((start.steps handler steps).2.happenings handler step).map Prod.snd) =
        []) ∧
    (start.noting []).steps handler.recording steps =
      ((start.steps handler steps).1,
        (start.steps handler steps).2.noting (Happening.notes (past.map Prod.snd))) := by
  intro start past
  have faithful : (start.steps handler steps).2.Faithful name past :=
    faithful_history handler name state sinkCapacity steps
  refine ⟨?_, fun number => faithful.ofFeed_of_unknown,
    fun step => notes_happenings_of_still handler _ step, start.steps_noting handler [] steps⟩
  rintro earlier capacity later rfl before own reply
  have replied : reply = if before.worker.started.isSome then
      .failed (.alreadyStarted before.worker.name) else .done :=
    before.reply_spawn handler capacity
  cases started : before.worker.started with
  | none =>
      rw [started] at replied
      exact ⟨fun _ => inOrder_of_spawn handler name state sinkCapacity earlier later capacity
        started, fun refused => absurd replied refused⟩
  | some current =>
      rw [started] at replied
      refine ⟨fun accepted => ?_, fun _ => ?_⟩
      · rw [replied] at accepted
        cases accepted
      · exact notes_of_refused_spawn handler name state sinkCapacity earlier later capacity
          (Option.isSome_iff_exists.mpr ⟨current, started⟩)

/-- A stopped task that drains its events may take the first and then the signal. -/
example :
    let accepting : Handler Nat Unit := ⟨id, fun state _ => (state, .accept)⟩
    let steps : List (Step Nat) := [.spawn 4, .deliver 0 (.event 7), .deliver 0 (.event 8),
      .deliver 0 .closeErrors, .stop [.quit, .events, .quit]]
    Happening.notes (ofFeed 0 ((create "htlc" () 1).history accepting steps)) =
      [(7, .accept)] := by
  decide +kernel

/-- Of three events that wait for a draining task the handler refuses the second, and the feed that
comes while the task is there is turned away. -/
theorem events_handled_up_to_refusal :
    let handler : Handler Nat Unit := ⟨fun state => state, fun state event =>
      (state, if event = 5 then .fail (.io "broken") else .accept)⟩
    let steps : List (Step Nat) := [.spawn 3, .deliver 0 (.event 4), .deliver 0 (.event 5),
      .deliver 0 (.event 6), .deliver 0 .closeErrors, .spawn 1, .run []]
    let past := (create "htlcs" () 1).history handler steps
    Happening.sent (ofFeed 0 past) = [4, 5, 6] ∧
      .ended (.handlerError (.io "broken")) ∈ ofFeed 0 past ∧
      (∃ accepted event verdict rest,
        handler.answers () [4, 5, 6] = accepted ++ (event, verdict) :: rest ∧
        AllAccepted accepted ∧
        verdict.exit? = some (.handlerError (.io "broken")) ∧
        Happening.notes (ofFeed 0 past) = accepted ++ [(event, verdict)]) ∧
      Happening.notes (ofFeed 1 past) = [] := by
  intro handler steps past
  obtain ⟨spawns, _⟩ := events_handled_in_order handler "htlcs" () 1 steps
  have sent : Happening.sent (ofFeed 0 past) = [4, 5, 6] := by decide +kernel
  have ended : .ended (.handlerError (.io "broken")) ∈ ofFeed 0 past := by
    decide +kernel
  have inOrder := (spawns [] 3 steps.tail rfl).1 rfl
  have refused := (spawns (steps.take 5) 1 [.run []] rfl).2 (by decide +kernel)
  refine ⟨sent, ended, ?_, refused⟩
  rw [← sent]
  exact inOrder.ofFault _ ended (.inr ⟨_, rfl⟩)

end Session

end LightningMetrics.Streaming