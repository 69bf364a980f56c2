import LightningMetrics.Proofs.Streaming.Ordering
import LightningMetrics.Proofs.Streaming.Reporting

set_option autoImplicit false

namespace LightningMetrics.Streaming

variable {α σ : Type}

/-- Does it leave the handler alone? -/
def Happening.isIdle : Happening α → Bool
  | spawned | handled _ _ => false
  | _ => true

/-- What a happening makes of the state of a handler. -/
def Handler.heed (handler : Handler α σ) (state : σ) : Happening α → σ
  | .spawned => handler.begin state
  | .handled event _ => (handler.handle state event).1
  | _ => state

/-- What a history makes of the state of a handler. -/
def Handler.replay (handler : Handler α σ) (state : σ) (history : List (Happening α)) : σ :=
  history.foldl handler.heed state

namespace Handler

variable (handler : Handler α σ)

theorem replay_append (state : σ) (earlier later : List (Happening α)) :
    handler.replay state (earlier ++ later) =
      handler.replay (handler.replay state earlier) later :=
  List.foldl_append

theorem heed_of_isIdle {happening : Happening α} (idle : happening.isIdle = true) (state : σ) :
    handler.heed state happening = state := by
  cases happening with
  | spawned | handled => cases idle
  | _ => rfl

theorem replay_of_isIdle (state : σ) {history : List (Happening α)}
    (idle : ∀ happening ∈ history, happening.isIdle = true) :
    handler.replay state history = state := by
  induction history with
  | nil => rfl
  | cons happening rest ih =>
      change handler.replay (handler.heed state happening) rest = state
      rw [heed_of_isIdle handler (idle _ List.mem_cons_self)]
      exact ih fun other member => idle other (List.mem_cons_of_mem _ member)

theorem replay_of_unspawned (state : σ) {history : List (Happening α)}
    (unspawned : .spawned ∉ history) :
    handler.replay state history =
      handler.after state ((Happening.notes history).map Prod.fst) := by
  induction history generalizing state with
  | nil => rfl
  | cons happening rest ih =>
      have later : .spawned ∉ rest := fun member => unspawned (List.mem_cons_of_mem _ member)
      cases happening with
      | spawned => exact absurd List.mem_cons_self unspawned
      | handled event verdict => exact ih (handler.handle state event).1 later
      | _ => exact ih state later

end Handler

/-- Where the handler has to do with one feed only, its history tells the state. -/
theorem Handler.replay_ofFeed (handler : Handler α σ) (state : σ) (number : Nat)
    {past : List (Nat × Happening α)}
    (others : ∀ other happening, (other, happening) ∈ past → other ≠ number →
      happening.isIdle = true) :
    handler.replay state (past.map Prod.snd) = handler.replay state (ofFeed number past) := by
  induction past generalizing state with
  | nil => rfl
  | cons entry rest ih =>
      obtain ⟨other, happening⟩ := entry
      have tail := ih (handler.heed state happening) fun other happening member =>
        others other happening (List.mem_cons_of_mem _ member)
      change handler.replay (handler.heed state happening) (rest.map Prod.snd) = _
      rw [tail]
      by_cases same : other = number
      · subst same
        have own : ofFeed other ((other, happening) :: rest) = happening :: ofFeed other rest :=
          List.filterMap_cons_some (if_pos rfl)
        rw [own]
        rfl
      · have apart : ofFeed number ((other, happening) :: rest) = ofFeed number rest :=
          List.filterMap_cons_none (if_neg same)
        rw [apart, heed_of_isIdle handler (others other happening List.mem_cons_self same)]

theorem Life.isIdle_departure {life : Life} {name : String} {happening : Happening α}
    (member : happening ∈ life.departure name) : happening.isIdle = true := by
  cases life with
  | ended exit =>
      rcases List.mem_cons.mp member with rfl | reported
      · rfl
      · obtain ⟨error, _, rfl⟩ := List.mem_map.mp reported
        rfl
  | unattended | live => cases member

theorem Feed.replay_runHappenings (name : String) (handler : Handler α σ) (quit : Bool)
    (choices : List Branch) (feed : Feed α) (state : σ) :
    handler.replay state (feed.runHappenings name handler quit choices state) =
      (feed.run handler quit choices state).2 := by
  have unspawned : .spawned ∉ feed.runHappenings name handler quit choices state := by
    intro member
    rcases List.mem_append.mp member with noted | departs
    · obtain ⟨_, _, same⟩ := List.mem_map.mp noted
      cases same
    · cases Life.isIdle_departure departs
  rw [handler.replay_of_unspawned state unspawned, notes_runHappenings]
  exact (feed.handled_answers handler quit choices state).2.symm

namespace Worker

theorem replay_run (handler : Handler α σ) (choices : List Branch) (worker : Worker α σ)
    (sink : Sink MonitorError) :
    (worker.run handler choices sink).1.state =
      handler.replay worker.state ((worker.runHappenings handler choices).map Prod.snd) := by
  rcases worker.run_cases handler choices sink with
    ⟨_, idle, nothing⟩ | ⟨number, feed, _, _, ran, happened⟩
  · rw [idle, nothing]
    rfl
  · rw [ran, happened, List.map_map]
    simp only [Function.comp_def, List.map_id', Feed.replay_runHappenings]

end Worker

namespace Session

theorem replay_step (handler : Handler α σ) (session : Session α σ) (step : Step α) :
    (session.step handler step).2.worker.state =
      handler.replay session.worker.state ((session.happenings handler step).map Prod.snd) := by
  cases step with
  | spawn capacity =>
      rw [happenings_spawn]
      cases started : session.worker.started with
      | some current =>
          simp only [Session.step, spawn, Worker.spawn_of_started started]
          rfl
      | none =>
          simp only [Session.step, spawn, Worker.spawn_of_free started]
          rfl
  | deliver number delivery =>
      cases found : session.worker.feeds[number]? with
      | none =>
          simp only [happenings, Session.step, Worker.deliver?, found, Option.map_none]
          rfl
      | some feed =>
          simp only [happenings, Session.step, Worker.deliver?, found, Option.map_some,
            List.map_map, Function.comp_def, List.map_id']
          refine (handler.replay_of_isIdle _ fun happening member => ?_).symm
          unfold Delivery.happenings at member
          split at member <;> simp_all [Happening.isIdle]
  | run choices => exact Worker.replay_run handler choices session.worker session.sink
  | stop choices => exact Worker.replay_run handler choices session.worker.signal session.sink
  | drainSink =>
      rw [worker_step_drainSink]
      rfl
  | cancel | closeSink => rfl

theorem replay_steps (handler : Handler α σ) (session : Session α σ) (steps : List (Step α)) :
    (session.steps handler steps).2.worker.state =
      handler.replay session.worker.state ((session.history handler steps).map Prod.snd) := by
  induction steps generalizing session with
  | nil => rfl
  | cons step rest ih =>
      rw [history, List.map_append, handler.replay_append, ← replay_step]
      exact ih (session.step handler step).2

/-- What the history says of a verdict is what the handler has answered. -/
theorem answered_of_handled (handler : Handler α σ) (session : Session α σ)
    (steps : List (Step α)) {number : Nat} {event : α} {verdict : Verdict}
    (handled : .handled event verdict ∈ ofFeed number (session.history handler steps)) :
    ∃ state, verdict = (handler.handle state event).2 := by
  rw [mem_ofFeed, mem_history_iff] at handled
  obtain ⟨earlier, step, later, _, member⟩ := handled
  have noted : (event, verdict) ∈ Happening.notes
      (((session.steps handler earlier).2.happenings handler step).map Prod.snd) :=
    Happening.mem_notes.mpr (List.mem_map_of_mem member)
  have ofRun (worker : Worker α σ) (choices : List Branch) (noted : (event, verdict) ∈
      Happening.notes ((worker.runHappenings handler choices).map Prod.snd)) :
      ∃ state, verdict = (handler.handle state event).2 := by
    rw [worker.answers_runHappenings handler choices] at noted
    exact handler.exists_of_mem_answers noted
  have notStill (still : ∀ choices, step ≠ .run choices ∧ step ≠ .stop choices) : False := by
    rw [notes_happenings_of_still handler _ step still] at noted
    cases noted
  cases step with
  | run choices => exact ofRun _ choices noted
  | stop choices => exact ofRun _ choices noted
  | _ => exact (notStill fun _ => ⟨nofun, nofun⟩).elim

/-- What the history says was reported was handed to the sink, in one of the steps. -/
theorem handed_of_reported (handler : Handler α σ) (session : Session α σ)
    (steps : List (Step α)) {number : Nat} {error : MonitorError}
    (reported : .reported error ∈ ofFeed number (session.history handler steps)) :
    session.HasStep handler steps fun before step =>
      (before.step handler step).2.sink = Sink.report before.sink error := by
  rw [mem_ofFeed, mem_history_iff] at reported
  obtain ⟨earlier, step, later, split, member⟩ := reported
  refine ⟨earlier, step, later, split, ?_⟩
  obtain ⟨report, reports, handed⟩ := (session.steps handler earlier).2.sink_step handler step
  have called : error ∈ report.toList := by
    rw [← reports, Happening.mem_reports]
    exact List.mem_map_of_mem member
  rw [Option.mem_toList] at called
  cases called
  cases step with
  | drainSink | closeSink => cases member
  | _ => exact handed

theorem Faithful.notes_of_ended {session : Session α σ} {name : String}
    {past news : List (Nat × Happening α)} (faithful : session.Faithful name (past ++ news))
    {number : Nat} {exit : Exit} (ended : .ended exit ∈ ofFeed number past) :
    Happening.notes (ofFeed number (past ++ news)) = Happening.notes (ofFeed number past) := by
  obtain ⟨conduct, run, _⟩ := faithful.feeds number
  obtain ⟨earlier, later, own⟩ := List.append_of_mem ended
  rw [ofFeed_append, own, List.append_assoc, List.cons_append] at run
  have quiet := run.notes_of_ended
  rw [Happening.notes_append, List.append_eq_nil_iff] at quiet
  rw [ofFeed_append, Happening.notes_append, quiet.2, List.append_nil]

end Session

/-- At most one task was started, and if so on this feed. -/
def ServesOnly (number : Nat) (past : List (Nat × Happening α)) : Prop :=
  ∀ other, .spawned ∈ ofFeed other past → other = number

namespace Conduct

variable {name : String} {own : List (Happening α)} {conduct : Conduct α}

theorem Run.isIdle (run : Run name .unopened own conduct) (unspawned : .spawned ∉ own)
    {happening : Happening α} (member : happening ∈ own) : happening.isIdle = true := by
  rcases run.opening with ⟨rfl, _⟩ | ⟨rfl, _⟩ | ⟨later, rfl, _⟩
  · cases member
  · rw [List.mem_singleton.mp member]
    rfl
  · exact absurd List.mem_cons_self unspawned

theorem Run.replay (run : Run name .unopened own conduct) (handler : Handler α σ) (state : σ) :
    (.spawned ∈ own → handler.replay state own =
        handler.after (handler.begin state) ((Happening.notes own).map Prod.fst)) ∧
      (.spawned ∉ own → handler.replay state own = state ∧ Happening.notes own = []) := by
  rcases run.opening with ⟨rfl, _⟩ | ⟨rfl, _⟩ | ⟨later, rfl, served⟩
  · exact ⟨nofun, fun _ => ⟨rfl, rfl⟩⟩
  · refine ⟨fun member => ?_, fun _ => ⟨rfl, rfl⟩⟩
    cases List.mem_singleton.mp member
  · refine ⟨fun _ => ?_, fun unspawned => absurd List.mem_cons_self unspawned⟩
    exact handler.replay_of_unspawned (handler.begin state) (served.notOpening nofun).1

end Conduct

namespace Session

/-- The state of a handler with at most one task: the events that the task has handled, from where
it began. -/
theorem Faithful.state_of_servesOnly {session : Session α σ} {name : String}
    {past : List (Nat × Happening α)} (faithful : session.Faithful name past) {number : Nat}
    (only : ServesOnly number past) (handler : Handler α σ) (state : σ) :
    let own := ofFeed number past
    (.spawned ∈ own → handler.replay state (past.map Prod.snd) =
        handler.after (handler.begin state) ((Happening.notes own).map Prod.fst)) ∧
      (.spawned ∉ own → handler.replay state (past.map Prod.snd) = state ∧
        Happening.notes own = []) := by
  intro own
  obtain ⟨conduct, run, _⟩ := faithful.feeds number
  have others (other : Nat) (happening : Happening α) (member : (other, happening) ∈ past)
      (apart : other ≠ number) : happening.isIdle = true := by
    obtain ⟨_, run, _⟩ := faithful.feeds other
    exact run.isIdle (fun spawned => apart (only other spawned)) (mem_ofFeed.mpr member)
  rw [handler.replay_ofFeed state number others]
  exact run.replay handler state

end Session

end LightningMetrics.Streaming
