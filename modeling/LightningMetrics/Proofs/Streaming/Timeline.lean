import Mathlib.Data.List.Basic
import Mathlib.Data.List.Induction
import LightningMetrics.Proofs.Streaming.Protocol

set_option autoImplicit false

namespace LightningMetrics.Streaming

variable {α σ : Type}

def Step.isStop : Step α → Bool
  | stop _ => true
  | _ => false

/-- A list with one more element is cut at an element of the list, or at its last one. -/
theorem exists_cut_concat {β : Type} (list : List β) (last : β)
    (holds : List β → β → List β → Prop) :
    (∃ earlier here later, list ++ [last] = earlier ++ here :: later ∧
        holds earlier here later) ↔
      (∃ earlier here later, list = earlier ++ here :: later ∧
        holds earlier here (later ++ [last])) ∨ holds list last [] := by
  constructor
  · rintro ⟨earlier, here, later, split, held⟩
    rcases List.eq_nil_or_concat' later with rfl | ⟨middle, final, rfl⟩
    · obtain ⟨rfl, same⟩ := List.append_inj' split rfl
      cases same
      exact .inr held
    · have split' : list ++ [last] = (earlier ++ here :: middle) ++ [final] := by
        rw [split, List.append_assoc, List.cons_append]
      obtain ⟨rfl, same⟩ := List.append_inj' split' rfl
      cases same
      exact .inl ⟨earlier, here, middle, rfl, held⟩
  · rintro (⟨earlier, here, later, rfl, held⟩ | held)
    · refine ⟨earlier, here, later ++ [last], ?_, held⟩
      rw [List.append_assoc, List.cons_append]
    · exact ⟨list, last, [], rfl, held⟩

/-- What a step can do to a feed that was there before, and what it makes happen to it. Only a run
of the feed's own task hands its events to the handler. -/
inductive Session.Touches (handler : Handler α σ) (session : Session α σ) (number : Nat)
    (feed : Feed α) : Step α → Feed α → List (Happening α) → Prop where
  | leaves {step : Step α} (other : step ≠ .cancel number)
      (idle : session.worker.started = some number →
        (session.step handler step).2.worker.state = session.worker.state) :
      session.Touches handler number feed step feed []
  | delivers (delivery : Delivery α)
      (idle : (session.step handler (.deliver number delivery)).2.worker.state =
        session.worker.state) :
      session.Touches handler number feed (.deliver number delivery) (feed.deliver delivery).2
        (delivery.happenings (feed.deliver delivery).1)
  | cancels : session.Touches handler number feed (.cancel number) feed.cancel []
  | runs {step : Step α} {choices : List Branch} (quit : Bool)
      (here : step = .run choices ∨ step = .stop choices)
      (started : session.worker.started = some number) (live : feed.isLive = true)
      (moved : (session.step handler step).2.worker.state =
        (feed.run handler quit choices session.worker.state).2) :
      session.Touches handler number feed step
        (feed.run handler quit choices session.worker.state).1
        (feed.runHappenings session.worker.name handler quit choices session.worker.state)

/-- How a feed begins: attended where no task was started, and turned away otherwise. -/
inductive Feed.Opened (started : Option Nat) : Feed α → Prop where
  | attended (capacity : Nat) (free : started = none) : Opened started (opened capacity).attend
  | rejected (capacity current : Nat) (taken : started = some current) :
      Opened started (opened capacity).reject

namespace Worker

variable {worker : Worker α σ}

theorem Shows.paused {number : Nat} {conduct : Conduct α} (shows : worker.Shows number conduct) :
    (∃ queue error, conduct = .serving queue error) ∨ conduct = .unopened ∨
      conduct = .settled := by
  cases shows with
  | unopened _ => exact .inr (.inl rfl)
  | serving _ _ _ => exact .inl ⟨_, _, rfl⟩
  | settled _ _ => exact .inr (.inr rfl)

theorem quit_run (handler : Handler α σ) (choices : List Branch) (sink : Sink MonitorError) :
    (worker.run handler choices sink).1.quit = worker.quit := by
  rcases worker.run_cases handler choices sink with ⟨_, idle, _⟩ | ⟨_, _, _, _, ran, _⟩
  · rw [idle]
  · rw [ran]

theorem length_run (handler : Handler α σ) (choices : List Branch) (sink : Sink MonitorError) :
    (worker.run handler choices sink).1.feeds.length = worker.feeds.length := by
  rcases worker.run_cases handler choices sink with ⟨_, idle, _⟩ | ⟨_, _, _, _, ran, _⟩
  · rw [idle]
  · rw [ran]
    exact List.length_set

end Worker

namespace Session

variable (handler : Handler α σ) (session : Session α σ)

theorem steps_append (earlier later : List (Step α)) :
    (session.steps handler (earlier ++ later)).2 =
      ((session.steps handler earlier).2.steps handler later).2 := by
  induction earlier generalizing session with
  | nil => rfl
  | cons step earlier ih => exact ih (session.step handler step).2

theorem steps_concat (earlier : List (Step α)) (last : Step α) :
    (session.steps handler (earlier ++ [last])).2 =
      ((session.steps handler earlier).2.step handler last).2 :=
  session.steps_append handler earlier [last]

theorem history_append (earlier later : List (Step α)) :
    session.history handler (earlier ++ later) =
      session.history handler earlier ++
        (session.steps handler earlier).2.history handler later := by
  induction earlier generalizing session with
  | nil => rfl
  | cons step earlier ih =>
      change session.happenings handler step ++
        (session.step handler step).2.history handler (earlier ++ later) = _
      rw [ih, ← List.append_assoc]
      rfl

theorem history_concat (earlier : List (Step α)) (last : Step α) :
    session.history handler (earlier ++ [last]) =
      session.history handler earlier ++
        (session.steps handler earlier).2.happenings handler last := by
  rw [history_append]
  exact congrArg _ (List.append_nil _)

/-- At one of the steps, taken from where the steps before it have led, this was so. -/
def HasStep (steps : List (Step α)) (holds : Session α σ → Step α → Prop) : Prop :=
  ∃ earlier step later, steps = earlier ++ step :: later ∧
    holds (session.steps handler earlier).2 step

theorem hasStep_concat (steps : List (Step α)) (last : Step α)
    (holds : Session α σ → Step α → Prop) :
    session.HasStep handler (steps ++ [last]) holds ↔
      session.HasStep handler steps holds ∨ holds (session.steps handler steps).2 last :=
  exists_cut_concat steps last fun earlier step _ => holds (session.steps handler earlier).2 step

theorem mem_history_iff (steps : List (Step α)) (entry : Nat × Happening α) :
    entry ∈ session.history handler steps ↔
      session.HasStep handler steps fun before step => entry ∈ before.happenings handler step := by
  induction steps using List.reverseRecOn with
  | nil =>
      refine iff_of_false nofun ?_
      rintro ⟨earlier, step, later, split, _⟩
      exact absurd split.symm (by simp)
  | append_singleton steps last ih =>
      rw [history_concat, List.mem_append, ih, hasStep_concat]

theorem worker_step_drainSink :
    (session.step handler .drainSink).2.worker = session.worker := by
  simp only [Session.step, drainSink]
  cases session.sink.receiverOpen <;> rfl

theorem started_step (step : Step α) :
    (session.step handler step).2.worker.started =
      match step with
      | .spawn _ => session.worker.started.or (some session.worker.feeds.length)
      | .stop _ => none
      | _ => session.worker.started := by
  cases step with
  | spawn capacity =>
      cases started : session.worker.started with
      | some current =>
          simp only [Session.step, spawn, Worker.spawn_of_started started, started]
          rfl
      | none =>
          simp only [Session.step, spawn, Worker.spawn_of_free started]
          rfl
  | deliver number delivery =>
      simp only [Session.step, Worker.deliver?]
      cases session.worker.feeds[number]? <;> rfl
  | cancel number => rfl
  | run choices => exact (Worker.run_frame handler choices session.worker session.sink).2
  | stop choices => rfl
  | drainSink => rw [worker_step_drainSink]
  | closeSink => rfl

theorem quit_step (step : Step α) :
    (session.step handler step).2.worker.quit = (session.worker.quit || step.isStop) := by
  cases step with
  | spawn capacity =>
      refine Eq.trans ?_ (Bool.or_false _).symm
      cases started : session.worker.started with
      | some current => simp only [Session.step, spawn, Worker.spawn_of_started started]
      | none => simp only [Session.step, spawn, Worker.spawn_of_free started]
  | deliver number delivery =>
      refine Eq.trans ?_ (Bool.or_false _).symm
      simp only [Session.step, Worker.deliver?]
      cases session.worker.feeds[number]? <;> rfl
  | run choices =>
      exact (Worker.quit_run handler choices session.sink).trans (Bool.or_false _).symm
  | stop choices =>
      exact (Worker.quit_run handler choices session.sink).trans (Bool.or_true _).symm
  | drainSink =>
      rw [worker_step_drainSink]
      exact (Bool.or_false _).symm
  | cancel | closeSink => exact (Bool.or_false _).symm

theorem quit_steps (steps : List (Step α)) :
    (session.steps handler steps).2.worker.quit =
      (session.worker.quit || steps.any Step.isStop) := by
  induction steps generalizing session with
  | nil => exact (Bool.or_false _).symm
  | cons step rest ih =>
      rw [List.any_cons, ← Bool.or_assoc, ← session.quit_step handler step]
      exact ih (session.step handler step).2

theorem name_steps (steps : List (Step α)) :
    (session.steps handler steps).2.worker.name = session.worker.name := by
  induction steps generalizing session with
  | nil => rfl
  | cons step rest ih =>
      exact (ih (session.step handler step).2).trans (session.name_step handler step)

theorem reply_spawn (capacity : Nat) :
    (session.step handler (.spawn capacity)).1 =
      if session.worker.started.isSome then .failed (.alreadyStarted session.worker.name)
      else .done := by
  cases started : session.worker.started with
  | some current => simp [Session.step, spawn, Worker.spawn_of_started started, replyOf]
  | none => simp [Session.step, spawn, Worker.spawn_of_free started, replyOf]

theorem happenings_spawn (capacity : Nat) :
    session.happenings handler (.spawn capacity) = [(session.worker.feeds.length,
      if session.worker.started.isSome then .turnedAway else .spawned)] := by
  have reply := session.reply_spawn handler capacity
  unfold happenings
  cases started : session.worker.started <;> simp only [reply, started] <;> rfl

theorem length_spawn (capacity : Nat) :
    (session.step handler (.spawn capacity)).2.worker.feeds.length =
      session.worker.feeds.length + 1 := by
  cases started : session.worker.started with
  | some current =>
      simp only [Session.step, spawn, Worker.spawn_of_started started, List.length_append]
      rfl
  | none =>
      simp only [Session.step, spawn, Worker.spawn_of_free started, List.length_append]
      rfl

/-- A run touches no feed but that of its task. -/
theorem run_touches {step : Step α} {choices : List Branch} {number : Nat} {feed : Feed α}
    (worker : Worker α σ) (here : step = .run choices ∨ step = .stop choices)
    (started : worker.started = session.worker.started)
    (state : worker.state = session.worker.state) (name : worker.name = session.worker.name)
    (feeds : (session.step handler step).2.worker.feeds =
      (worker.run handler choices session.sink).1.feeds)
    (after : (session.step handler step).2.worker.state =
      (worker.run handler choices session.sink).1.state)
    (found : worker.feeds[number]? = some feed) :
    ∃ next, (session.step handler step).2.worker.feeds[number]? = some next ∧
      session.Touches handler number feed step next
        (ofFeed number (worker.runHappenings handler choices)) := by
  have other : step ≠ .cancel number := by rcases here with rfl | rfl <;> exact nofun
  rw [feeds]
  rcases worker.run_cases handler choices session.sink with
    ⟨_, idle, nothing⟩ | ⟨current, served, task, live, ran, happened⟩
  · rw [idle] at after ⊢
    rw [nothing]
    exact ⟨feed, found, .leaves other fun _ => after.trans state⟩
  · obtain ⟨waited, there⟩ := Worker.current?_eq_some_iff.mp task
    have inside := (List.getElem?_eq_some_iff.mp there).1
    rw [ran] at after ⊢
    rw [happened]
    by_cases same : current = number
    · subst same
      cases there.symm.trans found
      rw [ofFeed_own, state, name]
      rw [state] at after
      exact ⟨_, List.getElem?_set_self inside,
        .runs worker.quit here (started ▸ waited) live after⟩
    · rw [ofFeed_other same, List.getElem?_set_ne same]
      refine ⟨feed, found, .leaves other fun own => ?_⟩
      rw [← started, waited] at own
      cases own
      exact absurd rfl same

/-- A feed that was there is there afterwards, with what the step does to it. -/
theorem feed_step {number : Nat} {feed : Feed α}
    (found : session.worker.feeds[number]? = some feed) (step : Step α) :
    ∃ next, (session.step handler step).2.worker.feeds[number]? = some next ∧
      session.Touches handler number feed step next
        (ofFeed number (session.happenings handler step)) := by
  have inside := (List.getElem?_eq_some_iff.mp found).1
  cases step with
  | spawn capacity =>
      have apart : session.worker.feeds.length ≠ number := by omega
      have other : ∀ happening : Happening α,
          ofFeed number [(session.worker.feeds.length, happening)] = [] :=
        fun happening => ofFeed_other apart [happening]
      cases started : session.worker.started with
      | some current =>
          have turned := Worker.spawn_of_started started handler (.opened capacity)
          refine ⟨feed, ?_, ?_⟩
          · simp only [Session.step, spawn, turned]
            rw [List.getElem?_append_left inside, found]
          · simp only [happenings, Session.step, spawn, turned, replyOf, other]
            exact .leaves (by simp) fun _ => by simp only [Session.step, spawn, turned]
      | none =>
          have taken := Worker.spawn_of_free started handler (.opened capacity)
          refine ⟨feed, ?_, ?_⟩
          · simp only [Session.step, spawn, taken]
            rw [List.getElem?_append_left inside, found]
          · simp only [happenings, Session.step, spawn, taken, replyOf, other]
            refine .leaves (by simp) fun own => ?_
            rw [started] at own
            cases own
  | deliver other delivery =>
      have idle : (session.step handler (.deliver other delivery)).2.worker.state =
          session.worker.state := by
        simp only [Session.step, Worker.deliver?]
        cases session.worker.feeds[other]? <;> rfl
      cases there : session.worker.feeds[other]? with
      | none =>
          refine ⟨feed, ?_, ?_⟩
          · simp only [Session.step, Worker.deliver?, there, Option.map_none]
            exact found
          · simp only [happenings, Session.step, Worker.deliver?, there, Option.map_none]
            exact .leaves (by simp) fun _ => idle
      | some served =>
          by_cases same : other = number
          · subst same
            cases there.symm.trans found
            refine ⟨(feed.deliver delivery).2, ?_, ?_⟩
            · simp only [Session.step, Worker.deliver?, there, Option.map_some]
              exact List.getElem?_set_self inside
            · simp only [happenings, Session.step, Worker.deliver?, there, Option.map_some,
                ofFeed_own]
              exact .delivers delivery idle
          · refine ⟨feed, ?_, ?_⟩
            · simp only [Session.step, Worker.deliver?, there, Option.map_some]
              rw [List.getElem?_set_ne same, found]
            · simp only [happenings, Session.step, Worker.deliver?, there, Option.map_some,
                ofFeed_other same]
              exact .leaves (by simp) fun _ => idle
  | cancel other =>
      by_cases same : other = number
      · subst same
        refine ⟨feed.cancel, ?_, .cancels⟩
        simp [Session.step, Worker.cancel, found]
      · refine ⟨feed, ?_, .leaves (fun equal => same (by cases equal; rfl)) fun _ => rfl⟩
        simp [Session.step, Worker.cancel, found, same]
  | run choices =>
      exact session.run_touches handler session.worker (.inl rfl) rfl rfl rfl rfl rfl found
  | stop choices =>
      exact session.run_touches handler session.worker.signal (.inr rfl) rfl rfl rfl rfl rfl found
  | drainSink =>
      rw [worker_step_drainSink]
      exact ⟨feed, found, .leaves (by simp) fun _ => by rw [worker_step_drainSink]⟩
  | closeSink => exact ⟨feed, found, .leaves (by simp) fun _ => rfl⟩

theorem lt_length_step {number : Nat} (inside : number < session.worker.feeds.length)
    (step : Step α) : number < (session.step handler step).2.worker.feeds.length := by
  obtain ⟨next, found, _⟩ := session.feed_step handler (List.getElem?_eq_getElem inside) step
  exact (List.getElem?_eq_some_iff.mp found).1

/-- A feed that was not there was opened by the step. -/
theorem feed_step_new {number : Nat} {feed : Feed α}
    (missing : session.worker.feeds[number]? = none) (step : Step α)
    (found : (session.step handler step).2.worker.feeds[number]? = some feed) :
    number = session.worker.feeds.length ∧ (∃ capacity, step = .spawn capacity) ∧
      Feed.Opened session.worker.started feed := by
  have outside := List.getElem?_eq_none_iff.mp missing
  have absent {feeds : List (Feed α)} (same : feeds.length = session.worker.feeds.length) :
      feeds[number]? ≠ some feed := by
    rw [List.getElem?_eq_none (same ▸ outside)]
    exact nofun
  cases step with
  | spawn capacity =>
      have last {added : Feed α}
          (there : (session.worker.feeds ++ [added])[number]? = some feed) :
          number = session.worker.feeds.length ∧ feed = added := by
        obtain ⟨inside, _⟩ := List.getElem?_eq_some_iff.mp there
        rw [List.length_append, List.length_singleton] at inside
        have same : number = session.worker.feeds.length := by omega
        subst same
        rw [List.getElem?_concat_length] at there
        cases there
        exact ⟨rfl, rfl⟩
      cases started : session.worker.started with
      | some current =>
          simp only [Session.step, spawn, Worker.spawn_of_started started] at found
          obtain ⟨same, rfl⟩ := last found
          exact ⟨same, ⟨capacity, rfl⟩, .rejected capacity current rfl⟩
      | none =>
          simp only [Session.step, spawn, Worker.spawn_of_free started] at found
          obtain ⟨same, rfl⟩ := last found
          exact ⟨same, ⟨capacity, rfl⟩, .attended capacity rfl⟩
  | deliver other delivery =>
      simp only [Session.step, Worker.deliver?] at found
      cases there : session.worker.feeds[other]? with
      | none =>
          simp only [there, Option.map_none] at found
          exact absurd found (absent rfl)
      | some served =>
          simp only [there, Option.map_some] at found
          exact absurd found (absent List.length_set)
  | cancel other => exact absurd found (absent (List.length_modify ..))
  | run choices => exact absurd found (absent (Worker.length_run handler choices session.sink))
  | stop choices =>
      exact absurd found (absent (Worker.length_run handler choices session.sink))
  | drainSink =>
      rw [worker_step_drainSink] at found
      exact absurd found (absent rfl)
  | closeSink => exact absurd found (absent rfl)

theorem Faithful.started_of_live {session : Session α σ} {name : String}
    {past : List (Nat × Happening α)} (faithful : session.Faithful name past) {number : Nat}
    {feed : Feed α} (found : session.worker.feeds[number]? = some feed)
    (live : feed.isLive = true) : session.worker.started = some number := by
  obtain ⟨conduct, _, shows⟩ := faithful.feeds number
  cases shows with
  | unopened unknown =>
      rw [List.getElem?_eq_none unknown] at found
      cases found
  | serving _ started _ => exact started
  | settled there rests =>
      cases there.symm.trans found
      rw [rests.still] at live
      cases live

end Session

end LightningMetrics.Streaming
