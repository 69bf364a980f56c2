import LightningMetrics.Proofs.Streaming.Contexts
import LightningMetrics.Proofs.Streaming.Ordering
import LightningMetrics.Proofs.Streaming.Reporting

set_option autoImplicit false

namespace LightningMetrics.Streaming

variable {α σ : Type}

namespace Step

/-- Does a producer close the error channel of its feed? -/
def closesErrors : Step α → Bool
  | deliver _ .closeErrors => true
  | _ => false

/-- Is the task given the chance to run? -/
def letsRun : Step α → Bool
  | run _ | stop _ => true
  | _ => false

theorem letsRun_eq_true_iff (step : Step α) :
    step.letsRun = true ↔ ∃ choices, step = .run choices ∨ step = .stop choices := by
  cases step <;> simp [letsRun]

end Step

namespace Feed

/-- How a task ends that was told to quit: with the error that waits for it, if there is one. -/
def farewell (feed : Feed α) : Exit :=
  match feed.errors.queue with
  | error :: _ => .streamError error
  | [] => .quit

theorem farewell_eq_streamError_iff (feed : Feed α) (error : NodeError) :
    feed.farewell = .streamError error ↔ feed.errors.queue.head? = some error := by
  unfold farewell
  cases feed.errors.queue <;> simp

theorem farewell_cases (feed : Feed α) :
    feed.farewell = .quit ∨ ∃ error, feed.farewell = .streamError error := by
  unfold farewell
  cases feed.errors.queue with
  | nil => exact .inl rfl
  | cons error rest => exact .inr ⟨error, rfl⟩

/-- Where an error waits or may come the task finds it, or else the signal, before any event. -/
theorem run_of_watching {feed : Feed α} (life : feed.life = .live .errors)
    (hopeful : ¬(feed.errors.queue = [] ∧ feed.errors.senderOpen = false))
    (handler : Handler α σ) (choices : List Branch) (state : σ) :
    feed.run handler true choices state = (feed.finish feed.farewell, state) := by
  refine run_of_ending life ?_
  rw [pass_of_errors life]
  unfold farewell
  cases errors : feed.errors.queue with
  | cons error waiting => simp [Mailbox.receive, errors]
  | nil =>
      have sender : feed.errors.senderOpen = true := by simpa [errors] using hopeful
      simp [Mailbox.receive, errors, sender]

theorem run_of_signal {feed : Feed α} {place : Place} (poised : feed.Poised place)
    (errorsOpen : feed.errors.senderOpen = true) (handler : Handler α σ) (choices : List Branch)
    (state : σ) :
    feed.run handler true choices state = (feed.finish feed.farewell, state) := by
  have hopeful : ¬(feed.errors.queue = [] ∧ feed.errors.senderOpen = false) := by
    simp [errorsOpen]
  cases poised with
  | draining _ empty closed => exact absurd ⟨empty, closed⟩ hopeful
  | watching life => exact run_of_watching life hopeful handler choices state

theorem runHappenings_of_signal {feed : Feed α} {place : Place} (poised : feed.Poised place)
    (errorsOpen : feed.errors.senderOpen = true) (name : String) (handler : Handler α σ)
    (choices : List Branch) (state : σ) :
    feed.runHappenings name handler true choices state =
      .ended feed.farewell :: (feed.farewell.report? name).toList.map .reported := by
  unfold runHappenings handled
  rw [run_of_signal poised errorsOpen, run_of_signal poised errorsOpen]
  rfl

/-- A run leaves the far end of the error channel alone. -/
theorem errorsOpen_run (handler : Handler α σ) (quit : Bool) (choices : List Branch)
    (feed : Feed α) (state : σ) :
    (feed.run handler quit choices state).1.errors.senderOpen = feed.errors.senderOpen := by
  refine run_of_looks (fun next _ => next.errors.senderOpen = feed.errors.senderOpen) ?_ choices
    feed state rfl
  intro first next state kept
  rcases next.look_cases handler quit first state with same |
    ⟨_, ⟨exit, finished⟩ | ⟨place, moved⟩ | ⟨event, rest, place, taken⟩⟩
  · rw [same]
    exact kept
  · rw [finished]
    exact kept
  · rw [moved]
    exact kept
  · rw [taken, handleEvent_eq]
    cases (handler.handle state event).2 <;> exact kept

theorem errorsOpen_deliver (feed : Feed α) {delivery : Delivery α}
    (keeps : delivery ≠ .closeErrors) :
    (feed.deliver delivery).2.errors.senderOpen = feed.errors.senderOpen := by
  cases delivery with
  | event | closeEvents => rfl
  | closeErrors => exact absurd rfl keeps
  | error cause =>
      rcases feed.errors.send_cases cause with ⟨_, _, _, sent⟩ | ⟨_, _, refused⟩
      · simp only [deliver, sent]
      · simp only [deliver, refused]

end Feed

/-- No producer has closed the error channel of its feed. -/
def Worker.ErrorsOpen (worker : Worker α σ) : Prop :=
  ∀ feed ∈ worker.feeds, feed.errors.senderOpen = true

/-- The error that waits for a task that has not ended. -/
def Worker.waitingError? (worker : Worker α σ) : Option NodeError :=
  match worker.current? with
  | some (_, feed) => if feed.isLive then feed.errors.queue.head? else none
  | none => none

namespace Worker

variable {worker : Worker α σ}

theorem waitingError?_of_live {number : Nat} {feed : Feed α}
    (current : worker.current? = some (number, feed)) (live : feed.isLive = true) :
    worker.waitingError? = feed.errors.queue.head? := by
  simp only [waitingError?, current, live, ↓reduceIte]

theorem waitingError?_of_still (still : ∀ number feed, worker.current? = some (number, feed) →
    feed.isLive = false) : worker.waitingError? = none := by
  unfold waitingError?
  cases current : worker.current? with
  | none => rfl
  | some started =>
      simp only [still started.1 started.2 current, Bool.false_eq_true, ↓reduceIte]

end Worker

namespace Conduct

variable {name : String} {own : List (Happening α)}

/-- While a task is at work an error was accepted exactly if it still waits. -/
theorem Run.errorSent_iff {queue : List α} {waiting : Option NodeError}
    (run : Run name .unopened own (.serving queue waiting)) (error : NodeError) :
    .errorSent error ∈ own ↔ waiting = some error := by
  constructor
  · intro accepted
    obtain ⟨earlier, later, rfl⟩ := List.append_of_mem accepted
    obtain ⟨_, _, _, after⟩ := run.of_errorSent
    have endless : Happening.exits (earlier ++ .errorSent error :: later) = [] :=
      run.accounts_unopened.1
    have calm : Happening.exits later = [] := (List.append_eq_nil_iff.mp
      ((Happening.exits_append _ _).symm.trans endless)).2
    obtain ⟨_, same⟩ := after.still_pending calm
    cases same
    rfl
  · rintro rfl
    -- Backwards from the end: the error was there before, or it is the last that was accepted.
    suffices traced : ∀ {conduct : Conduct α} {own : List (Happening α)},
        Run name conduct own (.serving queue (some error)) →
          .errorSent error ∈ own ∨ ∃ earlier, conduct = .serving earlier (some error) by
      rcases traced run with accepted | ⟨_, same⟩
      · exact accepted
      · cases same
    intro conduct own run
    generalize final : Conduct.serving queue (some error) = last at run
    induction run with
    | done => exact .inr ⟨queue, final.symm⟩
    | next step _ ih =>
        rcases ih final with accepted | ⟨earlier, rfl⟩
        · exact .inl (List.mem_cons_of_mem _ accepted)
        · generalize left : Conduct.serving earlier (some error) = middle at step
          cases step with
          | event =>
              cases left
              exact .inr ⟨_, rfl⟩
          | error =>
              cases left
              exact .inl List.mem_cons_self
          | leave | quit | runDry | takeError =>
              unfold departed at left
              split at left <;> cases left
          | _ => cases left

theorem Run.ends_of_ended {conduct : Conduct α} {exit : Exit}
    (run : Run name .unopened own conduct)
    (paused : (∃ queue error, conduct = .serving queue error) ∨ conduct = .unopened ∨
      conduct = .settled) (ended : .ended exit ∈ own) :
    Happening.exits own = [exit] ∧ Happening.reports own = (exit.report? name).toList := by
  rw [← Happening.mem_exits] at ended
  rcases run.ends paused with ⟨none, _⟩ | ⟨only, one, reports⟩
  · rw [none] at ended
    cases ended
  · rw [one, List.mem_singleton] at ended
    subst ended
    exact ⟨one, reports⟩

end Conduct

theorem notes_ofFeed_of_none {history : List (Nat × Happening α)}
    (unhandled : Happening.notes (history.map Prod.snd) = []) (number : Nat) :
    Happening.notes (ofFeed number history) = [] := by
  refine List.eq_nil_iff_forall_not_mem.mpr fun note member => ?_
  rw [Happening.mem_notes, mem_ofFeed] at member
  have noted := Happening.mem_notes.mpr (List.mem_map_of_mem (f := Prod.snd) member)
  rw [unhandled] at noted
  cases noted

namespace Session

variable {handler : Handler α σ} {session : Session α σ} {name : String}
  {past : List (Nat × Happening α)} {step : Step α}

/-- The error channels stay open through every step that does not close one. -/
theorem errorsOpen_step (errorsOpen : session.worker.ErrorsOpen)
    (keeps : step.closesErrors = false) :
    (session.step handler step).2.worker.ErrorsOpen := by
  intro next member
  obtain ⟨number, there⟩ := List.mem_iff_getElem?.mp member
  cases before : session.worker.feeds[number]? with
  | none =>
      obtain ⟨_, _, opened⟩ := session.feed_step_new handler before step there
      cases opened <;> rfl
  | some feed =>
      have kept := errorsOpen feed (List.mem_of_getElem? before)
      obtain ⟨_, found, touches⟩ := session.feed_step handler before step
      cases there.symm.trans found
      generalize ofFeed number (session.happenings handler step) = news at touches
      cases touches with
      | leaves _ _ => exact kept
      | cancels => exact kept
      | runs quit _ _ _ _ => exact (Feed.errorsOpen_run handler quit _ feed _).trans kept
      | delivers delivery _ =>
          refine (feed.errorsOpen_deliver ?_).trans kept
          rintro rfl
          cases keeps

theorem errorsOpen_steps {steps : List (Step α)} (errorsOpen : session.worker.ErrorsOpen)
    (keeps : ∀ step ∈ steps, step.closesErrors = false) :
    (session.steps handler steps).2.worker.ErrorsOpen := by
  induction steps generalizing session with
  | nil => exact errorsOpen
  | cons step rest ih =>
      refine ih (errorsOpen_step errorsOpen (keeps step List.mem_cons_self)) ?_
      exact fun other member => keeps other (List.mem_cons_of_mem _ member)

/-- A run of a worker that was told to quit, or a stop, lets the task run with the signal given. -/
theorem step_of_signal (session : Session α σ) (handler : Handler α σ)
    (runs : step.letsRun = true)
    (told : session.worker.quit = true ∨ step.isStop = true) :
    ∃ choices,
      (session.step handler step).2.worker.feeds =
        (session.worker.signal.run handler choices session.sink).1.feeds ∧
      (session.step handler step).2.worker.state =
        (session.worker.signal.run handler choices session.sink).1.state ∧
      (session.step handler step).2.sink =
        (session.worker.signal.run handler choices session.sink).2 ∧
      session.happenings handler step = session.worker.signal.runHappenings handler choices := by
  obtain ⟨choices, rfl | rfl⟩ := step.letsRun_eq_true_iff.mp runs
  · rcases told with given | stops
    · have same : session.worker.signal = session.worker := by
        unfold Worker.signal
        rw [← given]
      rw [same]
      exact ⟨choices, rfl, rfl, rfl, rfl⟩
    · cases stops
  · exact ⟨choices, rfl, rfl, rfl, rfl⟩

theorem Faithful.serves_of_live (faithful : session.Faithful name past) {number : Nat}
    {feed : Feed α} (found : session.worker.feeds[number]? = some feed)
    (live : feed.isLive = true) :
    ∃ queue error, Conduct.Run name .unopened (ofFeed number past) (.serving queue error) ∧
      feed.Serves queue error := by
  obtain ⟨_, run, shows⟩ := faithful.feeds number
  cases shows with
  | unopened unknown =>
      rw [List.getElem?_eq_none unknown] at found
      cases found
  | serving there _ serves =>
      cases there.symm.trans found
      exact ⟨_, _, run, serves⟩
  | settled there rests =>
      cases there.symm.trans found
      rw [rests.still] at live
      cases live

/-- Once the signal was given a task that gets to run ends, and handles nothing. -/
theorem Faithful.step_of_signal (faithful : session.Faithful name past)
    (errorsOpen : session.worker.ErrorsOpen) (handler : Handler α σ) (runs : step.letsRun = true)
    (told : session.worker.quit = true ∨ step.isStop = true) :
    let next := (session.step handler step).2
    next.worker.state = session.worker.state ∧
    (session.worker.waitingError? = none ∧ next.sink = session.sink ∧
        (∀ feed ∈ session.worker.feeds, feed.isLive = false) ∧
        session.happenings handler step = [] ∨
      ∃ number feed, session.worker.feeds[number]? = some feed ∧ feed.isLive = true ∧
        session.worker.waitingError? = feed.errors.queue.head? ∧
        next.worker.feeds = session.worker.feeds.set number (feed.finish feed.farewell) ∧
        next.sink = Worker.reportExit name (.ended feed.farewell) session.sink ∧
        session.happenings handler step = (.ended feed.farewell ::
          (feed.farewell.report? name).toList.map .reported).map (number, ·)) := by
  intro next
  obtain ⟨choices, feeds, state, sink, happened⟩ :=
    session.step_of_signal handler runs told
  have named : session.worker.signal.name = name := faithful.named
  change next.worker.feeds = _ at feeds
  change next.worker.state = _ at state
  change next.sink = _ at sink
  rw [feeds, state, sink, happened]
  rcases session.worker.signal.run_cases handler choices session.sink with
    ⟨still, idle, nothing⟩ | ⟨number, feed, current, live, ran, events⟩
  · rw [idle, nothing]
    refine ⟨rfl, .inl ⟨Worker.waitingError?_of_still still, rfl, fun feed member => ?_, rfl⟩⟩
    obtain ⟨number, there⟩ := List.mem_iff_getElem?.mp member
    by_contra working
    rw [Bool.not_eq_false] at working
    have current := Worker.current?_eq_some_iff.mpr
      ⟨faithful.started_of_live there working, there⟩
    rw [still number feed current] at working
    cases working
  · obtain ⟨_, there⟩ := Worker.current?_eq_some_iff.mp current
    obtain ⟨_, _, _, serves⟩ := faithful.serves_of_live there live
    obtain ⟨place, poised⟩ := serves.poised
    have unclosed := errorsOpen feed (List.mem_of_getElem? there)
    have signalled : session.worker.signal.quit = true := rfl
    rw [ran, events, signalled, named, Feed.run_of_signal poised unclosed,
      Feed.runHappenings_of_signal poised unclosed]
    exact ⟨rfl, .inr ⟨number, feed, there, live, Worker.waitingError?_of_live current live, rfl,
      rfl, rfl⟩⟩

theorem Faithful.notes_of_signal (faithful : session.Faithful name past)
    (errorsOpen : session.worker.ErrorsOpen) (handler : Handler α σ)
    (told : session.worker.quit = true ∨ step.isStop = true) :
    Happening.notes ((session.happenings handler step).map Prod.snd) = [] := by
  cases runs : step.letsRun with
  | false =>
      refine session.notes_happenings_of_still handler step fun choices => ?_
      constructor <;>
      · rintro rfl
        cases runs
  | true =>
      obtain ⟨_, ⟨_, _, _, nothing⟩ | ⟨number, feed, _, _, _, _, _, ends⟩⟩ :=
        faithful.step_of_signal errorsOpen handler runs told
      · rw [nothing]
        rfl
      · rw [ends, List.map_map]
        cases feed.farewell.report? name <;> rfl

/-- An error waits for the task that has not ended where it was accepted on its feed. -/
theorem Faithful.waitingError?_eq_some_iff (faithful : session.Faithful name past)
    (error : NodeError) :
    session.worker.waitingError? = some error ↔
      ∃ number, .errorSent error ∈ ofFeed number past ∧
        Happening.exits (ofFeed number past) = [] := by
  constructor
  · intro waits
    unfold Worker.waitingError? at waits
    cases current : session.worker.current? with
    | none =>
        rw [current] at waits
        cases waits
    | some started =>
        obtain ⟨number, feed⟩ := started
        obtain ⟨_, there⟩ := Worker.current?_eq_some_iff.mp current
        simp only [current, Option.ite_none_right_eq_some] at waits
        obtain ⟨live, front⟩ := waits
        obtain ⟨_, _, run, serves⟩ := faithful.serves_of_live there live
        rw [serves.pending, Option.head?_toList] at front
        exact ⟨number, (run.errorSent_iff error).mpr front, run.accounts_unopened.1⟩
  · rintro ⟨number, accepted, endless⟩
    obtain ⟨_, run, shows⟩ := faithful.feeds number
    cases shows with
    | unopened unknown =>
        rw [faithful.ofFeed_of_unknown unknown] at accepted
        cases accepted
    | settled found rests =>
        rcases run.balanced with turned | ⟨exit, one, _⟩
        · rw [turned] at accepted
          cases List.mem_singleton.mp accepted
        · rw [endless] at one
          cases one
    | serving found started serves =>
        have current := Worker.current?_eq_some_iff.mpr ⟨started, found⟩
        rw [Worker.waitingError?_of_live current serves.isLive, serves.pending,
          Option.head?_toList]
        exact (run.errorSent_iff error).mp accepted

theorem Faithful.notes_history_of_signal (faithful : session.Faithful name past)
    (errorsOpen : session.worker.ErrorsOpen) (told : session.worker.quit = true)
    (handler : Handler α σ) {steps : List (Step α)}
    (keeps : ∀ step ∈ steps, step.closesErrors = false) :
    Happening.notes ((session.history handler steps).map Prod.snd) = [] := by
  induction steps generalizing session past with
  | nil => rfl
  | cons step rest ih =>
      have later := ih (faithful.step handler step)
        (errorsOpen_step errorsOpen (keeps step List.mem_cons_self))
        (by rw [quit_step, told]; rfl)
        fun other member => keeps other (List.mem_cons_of_mem _ member)
      rw [history, List.map_append, Happening.notes_append, later, List.append_nil]
      exact faithful.notes_of_signal errorsOpen handler (.inl told)

/-- A live task that gets to run after the signal was given ends there for good: with the error that
was accepted on its feed, if there was one, and otherwise without a report. -/
theorem Faithful.ends_at_run (faithful : session.Faithful name past)
    (errorsOpen : session.worker.ErrorsOpen) (told : session.worker.quit = true)
    (handler : Handler α σ) (runs : step.letsRun = true) {number : Nat} {feed : Feed α}
    (found : session.worker.feeds[number]? = some feed) (live : feed.isLive = true)
    (rest : List (Step α)) :
    let own := ofFeed number (past ++ session.history handler (step :: rest))
    (session.step handler step).2.worker.feeds[number]? = some (feed.finish feed.farewell) ∧
      Happening.exits own = [feed.farewell] ∧
      Happening.reports own = (feed.farewell.report? name).toList ∧
      ∀ error, feed.farewell = .streamError error ↔ .errorSent error ∈ own := by
  intro own
  obtain ⟨_, ⟨_, _, still, _⟩ | ⟨other, served, found', live', _, feeds, _, ends⟩⟩ :=
    faithful.step_of_signal errorsOpen handler runs (.inl told)
  · have idle := still feed (List.mem_of_getElem? found)
    rw [live] at idle
    cases idle
  cases (faithful.started_of_live found' live').symm.trans (faithful.started_of_live found live)
  cases found.symm.trans found'
  have split : own = ofFeed number past ++ (ofFeed number (session.happenings handler step) ++
      ofFeed number ((session.step handler step).2.history handler rest)) := by
    rw [← ofFeed_append, ← ofFeed_append]
    rfl
  have ended : .ended feed.farewell ∈ own := by
    rw [split, ends, ofFeed_own]
    simp
  obtain ⟨conduct, run, shows⟩ := (faithful.steps handler (step :: rest)).feeds number
  obtain ⟨exits, reports⟩ := run.ends_of_ended shows.paused ended
  refine ⟨?_, exits, reports, fun error => ⟨fun fails => ?_, fun accepted => ?_⟩⟩
  · rw [feeds, List.getElem?_set_self (List.getElem?_eq_some_iff.mp found).1]
  · obtain ⟨_, _, before, serves⟩ := faithful.serves_of_live found live
    rw [feed.farewell_eq_streamError_iff, serves.pending, Option.head?_toList] at fails
    rw [split]
    exact List.mem_append_left _ ((before.errorSent_iff error).mpr fails)
  · obtain ⟨earlier, later, cut⟩ := List.append_of_mem accepted
    exact ((run.singleCause shows.paused).ofError earlier error later cut).2.1 _ ended

theorem live_of_unrun {number : Nat} {feed : Feed α}
    (found : session.worker.feeds[number]? = some feed) (live : feed.isLive = true)
    (handler : Handler α σ) {steps : List (Step α)}
    (unrun : ∀ step ∈ steps, step.letsRun = false) :
    ∃ next, (session.steps handler steps).2.worker.feeds[number]? = some next ∧
      next.isLive = true := by
  induction steps generalizing session feed with
  | nil => exact ⟨feed, found, live⟩
  | cons step rest ih =>
      obtain ⟨next, there, touches⟩ := session.feed_step handler found step
      refine ih there ?_ fun other member => unrun other (List.mem_cons_of_mem _ member)
      generalize ofFeed number (session.happenings handler step) = news at touches
      have still := unrun step List.mem_cons_self
      cases touches with
      | leaves _ _ => exact live
      | cancels => exact live
      | runs _ here _ _ _ => rcases here with rfl | rfl <;> cases still
      | delivers delivery _ =>
          unfold Feed.isLive
          rw [(feed.deliver_frame delivery).1]
          exact live

end Session

end LightningMetrics.Streaming
