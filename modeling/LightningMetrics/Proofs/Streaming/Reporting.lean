import LightningMetrics.Proofs.Streaming.Protocol

set_option autoImplicit false

namespace LightningMetrics.Streaming

variable {α σ : Type}

/-- What the history of one feed of the stream `name` says on the end of its task. -/
structure SingleCause (name : String) (own : List (Happening α)) : Prop where
  atMostOne : (Happening.reports own).length ≤ 1
  /-- The cause of the end decides whether there is a report, and which. -/
  ofExit : ∀ exit, .ended exit ∈ own → Happening.reports own =
    match exit with
    | .streamError error => [.streamExited name error]
    | .handlerError error => [error]
    | .streamEnded => [.streamTerminated name]
    | .quit => []
    | .panicked => []
  /-- A task that has not ended has reported nothing. -/
  onlyAtExit : ∀ report, .reported report ∈ own → ∃ exit, .ended exit ∈ own
  /-- After an accepted error nothing is handled, and the task ends with this error alone. -/
  ofError : ∀ earlier error later, own = earlier ++ .errorSent error :: later →
    (∀ event verdict, .handled event verdict ∉ later) ∧
      (∀ exit, .ended exit ∈ own → exit = .streamError error) ∧
      (∀ report, .reported report ∈ own → report = .streamExited name error)
  /-- A clean end is reported only where no error was ever accepted. -/
  ofCleanEnd : .reported (.streamTerminated name) ∈ own → ∀ error, .errorSent error ∉ own

namespace Conduct

variable {name : String} {own : List (Happening α)} {conduct : Conduct α}

/-- In a history of the protocol an accepted error is the only cause there can be. -/
theorem Run.ofError {last : Conduct α} {earlier later : List (Happening α)} {error : NodeError}
    (run : Run name .unopened (earlier ++ .errorSent error :: later) last) :
    (∀ event verdict, .handled event verdict ∉ later) ∧
      (∀ exit, .ended exit ∈ earlier ++ .errorSent error :: later → exit = .streamError error) ∧
      (∀ report, .reported report ∈ earlier ++ .errorSent error :: later →
        report = .streamExited name error) := by
  obtain ⟨noExit, noReport, queue, after⟩ := run.of_errorSent
  have pending := after.of_pending
  -- Nothing had ended or was reported before the error, so both come from what follows it.
  have exits : Happening.exits (earlier ++ .errorSent error :: later) = Happening.exits later := by
    rw [Happening.exits_append, noExit]
    rfl
  have reports : Happening.reports (earlier ++ .errorSent error :: later) =
      Happening.reports later := by
    rw [Happening.reports_append, noReport]
    rfl
  refine ⟨?_, ?_, ?_⟩
  · intro event verdict member
    rcases pending _ member with ⟨_, same⟩ | same | same <;> cases same
  · intro exit member
    rw [← Happening.mem_exits, exits, Happening.mem_exits] at member
    rcases pending _ member with ⟨_, same⟩ | same | same <;> cases same
    rfl
  · intro report member
    rw [← Happening.mem_reports, reports, Happening.mem_reports] at member
    rcases pending _ member with ⟨_, same⟩ | same | same <;> cases same
    rfl

/-- Between two steps either nothing has ended and nothing was reported, or one thing ended and
was reported as its cause calls for. -/
theorem Run.ends (run : Run name .unopened own conduct)
    (paused : (∃ queue error, conduct = .serving queue error) ∨ conduct = .unopened ∨
      conduct = .settled) :
    Happening.exits own = [] ∧ Happening.reports own = [] ∨
      ∃ exit, Happening.exits own = [exit] ∧
        Happening.reports own = (exit.report? name).toList := by
  have accounts := run.accounts_unopened
  rcases paused with ⟨queue, error, rfl⟩ | rfl | rfl
  · exact .inl accounts
  · exact .inl accounts
  · exact accounts

theorem Run.singleCause (run : Run name .unopened own conduct)
    (paused : (∃ queue error, conduct = .serving queue error) ∨ conduct = .unopened ∨
      conduct = .settled) : SingleCause name own where
  atMostOne := by
    rcases run.ends paused with ⟨_, none⟩ | ⟨exit, _, one⟩
    · rw [none]
      exact Nat.zero_le 1
    · rw [one]
      cases exit.report? name <;> simp
  ofExit := by
    intro exit member
    rw [← Happening.mem_exits] at member
    rcases run.ends paused with ⟨none, _⟩ | ⟨only, one, reports⟩
    · rw [none] at member
      cases member
    · rw [one, List.mem_singleton] at member
      subst member
      rw [reports]
      cases exit <;> rfl
  onlyAtExit := by
    intro report member
    rw [← Happening.mem_reports] at member
    rcases run.ends paused with ⟨_, none⟩ | ⟨exit, one, _⟩
    · rw [none] at member
      cases member
    · refine ⟨exit, ?_⟩
      rw [← Happening.mem_exits, one]
      exact List.mem_singleton_self exit
  ofError := by
    rintro earlier error later rfl
    exact run.ofError
  ofCleanEnd := by
    intro clean error accepted
    obtain ⟨earlier, later, rfl⟩ := List.append_of_mem accepted
    have carries := run.ofError.2.2 _ clean
    cases carries

end Conduct

theorem Sink.mem_report {sink : Sink MonitorError} (error : MonitorError)
    (sender : sink.senderOpen = true) (receiver : sink.receiverOpen = true)
    (room : sink.queue.length < sink.capacity) : error ∈ (Sink.report sink error).queue := by
  have sent := (sink.send_sent_iff error).mpr ⟨sender, receiver, room⟩
  unfold Sink.report
  rw [Mailbox.queue_send, if_pos sent]
  exact List.mem_append_right _ (List.mem_singleton_self error)

theorem Sink.senderOpen_report (sink : Sink MonitorError) (error : MonitorError) :
    (Sink.report sink error).senderOpen = sink.senderOpen := by
  unfold Sink.report
  rcases sink.send_cases error with ⟨_, _, _, sent⟩ | ⟨_, _, refused⟩
  · rw [sent]
  · rw [refused]

theorem senderOpen_onSink (sink : Sink MonitorError) (step : Step α) :
    (step.onSink sink).senderOpen = sink.senderOpen := by
  cases step with
  | drainSink =>
      unfold Step.onSink
      cases sink.receiverOpen <;> rfl
  | _ => rfl

theorem Worker.sink_run (handler : Handler α σ) (choices : List Branch) (worker : Worker α σ)
    (sink : Sink MonitorError) :
    ∃ report : Option MonitorError,
      Happening.reports ((worker.runHappenings handler choices).map Prod.snd) = report.toList ∧
      (worker.run handler choices sink).2 = report.elim sink (Sink.report sink) := by
  rcases worker.run_cases handler choices sink with
    ⟨_, idle, nothing⟩ | ⟨number, feed, _, _, ran, happened⟩
  · rw [idle, nothing]
    exact ⟨none, rfl, rfl⟩
  · have unreported (notes : List (α × Verdict)) :
        Happening.reports (notes.map fun noted => .handled noted.1 noted.2) = [] := by
      unfold Happening.reports
      rw [List.filterMap_map]
      simp [Function.comp_def, Happening.report?]
    rw [ran, happened]
    simp only [List.map_map, Function.comp_def, List.map_id', Feed.runHappenings,
      Happening.reports_append, unreported, List.nil_append]
    generalize (feed.run handler worker.quit choices worker.state).1.life = life
    cases life with
    | unattended => exact ⟨none, rfl, rfl⟩
    | live place => exact ⟨none, rfl, rfl⟩
    | ended exit =>
        refine ⟨exit.report? worker.name, ?_, ?_⟩
        · dsimp only [Life.departure]
          cases exit.report? worker.name <;> rfl
        · cases called : exit.report? worker.name <;> simp [reportExit, called]

namespace Session

theorem sink_step (handler : Handler α σ) (session : Session α σ) (step : Step α) :
    ∃ report : Option MonitorError,
      Happening.reports ((session.happenings handler step).map Prod.snd) = report.toList ∧
      (session.step handler step).2.sink =
        report.elim (step.onSink session.sink) (Sink.report (step.onSink session.sink)) := by
  cases step with
  | run choices => exact session.worker.sink_run handler choices session.sink
  | stop choices => exact session.worker.signal.sink_run handler choices session.sink
  | spawn capacity =>
      refine ⟨none, ?_, rfl⟩
      unfold happenings
      cases (session.step handler (.spawn capacity)).1 <;> rfl
  | deliver number delivery =>
      refine ⟨none, ?_, ?_⟩
      · cases found : session.worker.feeds[number]? with
        | none =>
            simp only [happenings, Session.step, Worker.deliver?, found, Option.map_none]
            rfl
        | some feed =>
            simp only [happenings, Session.step, Worker.deliver?, found, Option.map_some,
              List.map_map, Function.comp_def, List.map_id']
            unfold Delivery.happenings
            split <;> rfl
      · simp only [Session.step, Worker.deliver?]
        cases session.worker.feeds[number]? <;> rfl
  | cancel number => exact ⟨none, rfl, rfl⟩
  | drainSink =>
      refine ⟨none, rfl, ?_⟩
      simp only [Session.step, drainSink, Step.onSink]
      cases session.sink.receiverOpen <;> rfl
  | closeSink => exact ⟨none, rfl, rfl⟩

theorem senderOpen_steps (handler : Handler α σ) (session : Session α σ) (steps : List (Step α)) :
    (session.steps handler steps).2.sink.senderOpen = session.sink.senderOpen := by
  induction steps generalizing session with
  | nil => rfl
  | cons step rest ih =>
      obtain ⟨report, _, sink⟩ := session.sink_step handler step
      have kept : (session.step handler step).2.sink.senderOpen = session.sink.senderOpen := by
        rw [sink, ← senderOpen_onSink session.sink step]
        cases report with
        | none => rfl
        | some error => exact Sink.senderOpen_report _ error
      exact (ih (session.step handler step).2).trans kept

/-- An error that was accepted decides what the next run or stop does to its feed. -/
theorem Faithful.happenings_of_pending {name : String} {session : Session α σ}
    {past : List (Nat × Happening α)} (faithful : session.Faithful name past) {number : Nat}
    {error : NodeError} (accepted : .errorSent error ∈ ofFeed number past)
    (endless : Happening.exits (ofFeed number past) = []) (handler : Handler α σ)
    (choices : List Branch) (step : Step α) (runs : step = .run choices ∨ step = .stop choices) :
    session.happenings handler step = [(number, .ended (.streamError error)),
      (number, .reported (.streamExited name error))] := by
  obtain ⟨conduct, run, shows⟩ := faithful.feeds number
  obtain ⟨earlier, later, own⟩ := List.append_of_mem accepted
  rw [own] at run endless
  obtain ⟨_, _, _, after⟩ := run.of_errorSent
  have calm : Happening.exits later = [] := (List.append_eq_nil_iff.mp
    ((Happening.exits_append _ _).symm.trans endless)).2
  obtain ⟨queue, rfl⟩ := after.still_pending calm
  cases shows with
  | @serving feed _ _ found started serves =>
      have runHappenings (worker : Worker α σ) (named : worker.name = name)
          (current : worker.current? = some (number, feed)) :
          worker.runHappenings handler choices = [(number, .ended (.streamError error)),
            (number, .reported (.streamExited name error))] := by
        simp only [Worker.runHappenings, current, serves.isLive, ↓reduceIte, named,
          serves.runHappenings_pending, List.map_cons, List.map_nil]
      have current := Worker.current?_eq_some_iff.mpr ⟨started, found⟩
      rcases runs with rfl | rfl
      · exact runHappenings session.worker faithful.named current
      · exact runHappenings session.worker.signal faithful.named current

/-- Whatever the steps and their order: each task has one cause to end, and reports it at most
once; a task with an accepted error ends with it at its next run or stop; and what is reported is
handed to the sink, which loses it only if it is full or closed. -/
theorem stream_error_never_masked (handler : Handler α σ) (name : String) (state : σ)
    (sinkCapacity : Nat) (steps : List (Step α)) :
    let start : Session α σ := create name state sinkCapacity
    let session := (start.steps handler steps).2
    let past := start.history handler steps
    (∀ number, SingleCause name (ofFeed number past)) ∧
    (∀ number error, .errorSent error ∈ ofFeed number past →
      Happening.exits (ofFeed number past) = [] →
      ∀ choices step, step = .run choices ∨ step = .stop choices →
        session.happenings handler step = [(number, .ended (.streamError error)),
          (number, .reported (.streamExited name error))]) ∧
    (∀ step : Step α,
      let sink := step.onSink session.sink
      let next := (session.step handler step).2.sink
      ∃ report : Option MonitorError,
        Happening.reports ((session.happenings handler step).map Prod.snd) = report.toList ∧
        next = report.elim sink (Sink.report sink) ∧
        ∀ error ∈ report, sink.receiverOpen = true → sink.queue.length < sink.capacity →
          error ∈ next.queue) := by
  intro start session past
  have faithful : session.Faithful name past :=
    faithful_history handler name state sinkCapacity steps
  refine ⟨fun number => ?_, ?_, fun step => ?_⟩
  · obtain ⟨conduct, run, shows⟩ := faithful.feeds number
    refine run.singleCause ?_
    cases shows with
    | unopened _ => exact .inr (.inl rfl)
    | serving _ _ _ => exact .inl ⟨_, _, rfl⟩
    | settled _ _ => exact .inr (.inr rfl)
  · intro number error accepted endless choices step runs
    exact faithful.happenings_of_pending accepted endless handler choices step runs
  · intro sink next
    obtain ⟨report, reported, handed⟩ := session.sink_step handler step
    refine ⟨report, reported, handed, ?_⟩
    intro error isReport receiver room
    cases isReport
    have sender : sink.senderOpen = true :=
      (senderOpen_onSink session.sink step).trans (senderOpen_steps handler start steps)
    change error ∈ (session.step handler step).2.sink.queue
    rw [handed]
    exact Sink.mem_report error sender receiver room

/-- The event channel has been closed behind the error, and an event is still queued before it. -/
theorem stream_error_outlives_close :
    let handler : Handler Nat Unit := ⟨fun state => state, fun state _ => (state, .accept)⟩
    let steps : List (Step Nat) := [.spawn 2, .deliver 0 (.event 7),
      .deliver 0 (.error ⟨.stream, "gone"⟩), .deliver 0 .closeEvents]
    .errorSent ⟨.stream, "gone"⟩ ∈ ofFeed 0 ((create "htlcs" () 1).history handler steps) ∧
      Happening.exits (ofFeed 0 ((create "htlcs" () 1).history handler steps)) = [] ∧
      ((create "htlcs" () 1).steps handler steps).2.happenings handler (.stop []) =
        [(0, .ended (.streamError ⟨.stream, "gone"⟩)),
          (0, .reported (.streamExited "htlcs" ⟨.stream, "gone"⟩))] := by
  intro handler steps
  have accepted : .errorSent ⟨.stream, "gone"⟩ ∈
      ofFeed 0 ((create "htlcs" () 1).history handler steps) := by decide +kernel
  have endless : Happening.exits (ofFeed 0 ((create "htlcs" () 1).history handler steps)) = [] := by
    decide +kernel
  obtain ⟨_, ends, _⟩ := stream_error_never_masked handler "htlcs" () 1 steps
  exact ⟨accepted, endless, ends 0 _ accepted endless [] (.stop []) (.inr rfl)⟩

end Session

end LightningMetrics.Streaming
