import LightningMetrics.Streaming.Feed

/-!
Runs of a task, taken apart into passes. Between two passes a live task is `Poised`, and `Passed`
lists everything that the next pass can do. What every pass keeps a run keeps, and a run goes on
until the task has ended or waits with nothing left to take.
-/

set_option autoImplicit false

namespace LightningMetrics.Streaming.Feed

variable {α σ : Type}

/-- What is left of the feed when the front event has been taken out. -/
def taking (feed : Feed α) (rest : List α) : Feed α :=
  { feed with events := { feed.events with queue := rest } }

theorem handleEvent_eq (handler : Handler α σ) (next : Place) (feed : Feed α) (state : σ)
    (event : α) (rest : List α) :
    feed.handleEvent handler next state event rest =
      (match (handler.handle state event).2 with
        | .accept => (feed.taking rest).moveTo next
        | .fail error => (feed.taking rest).finish (.handlerError error)
        | .panic => (feed.taking rest).finish .panicked,
        (handler.handle state event).1) := by
  unfold handleEvent
  dsimp only [taking]
  cases (handler.handle state event).2 <;> rfl

theorem run_of_progress {handler : Handler α σ} {quit : Bool} {choices : List Branch}
    {feed : Feed α} {state : σ}
    (progress : (feed.pass handler quit (choices.head?.getD .quit) state).1.work < feed.work) :
    feed.run handler quit choices state =
      (feed.pass handler quit (choices.head?.getD .quit) state).1.run handler quit choices.tail
        (feed.pass handler quit (choices.head?.getD .quit) state).2 := by
  rw [run]
  exact dif_pos progress

theorem run_of_idle {handler : Handler α σ} {quit : Bool} {choices : List Branch} {feed : Feed α}
    {state : σ}
    (idle : ¬ (feed.pass handler quit (choices.head?.getD .quit) state).1.work < feed.work) :
    feed.run handler quit choices state =
      feed.pass handler quit (choices.head?.getD .quit) state := by
  rw [run]
  exact dif_neg idle

/-- What every pass keeps, a run keeps. -/
theorem run_induction {handler : Handler α σ} {quit : Bool} {Kept : Feed α → σ → Prop}
    (keeps : ∀ first feed state, Kept feed state →
      Kept (feed.pass handler quit first state).1 (feed.pass handler quit first state).2)
    (choices : List Branch) (feed : Feed α) (state : σ) (kept : Kept feed state) :
    Kept (feed.run handler quit choices state).1 (feed.run handler quit choices state).2 := by
  induction choices, feed, state using run.induct handler quit with
  | case1 choices feed state next progress ih =>
      rw [run_of_progress progress]
      exact ih (keeps _ feed state kept)
  | case2 choices feed state next idle =>
      rw [run_of_idle idle]
      exact keeps _ feed state kept

/-- One pass of a task that still looks for errors: the error goes first, then the signal, then
the events. -/
theorem pass_of_errors {handler : Handler α σ} {quit : Bool} {first : Branch} {feed : Feed α}
    {state : σ} (life : feed.life = .live .errors) :
    feed.pass handler quit first state =
      match feed.errors.receive with
      | .item error _ => (feed.finish (.streamError error), state)
      | .closed => (feed.moveTo .draining, state)
      | .empty =>
          if quit then (feed.finish .quit, state)
          else
            match feed.events.receive with
            | .item event rest => feed.handleEvent handler .errors state event rest
            | .empty => (feed, state)
            | .closed => (feed.finish .streamEnded, state) := by
  obtain ⟨events, errors, cancelled, _⟩ := feed
  dsimp only at life
  subst life
  unfold pass
  cases received : errors.receive with
  | item error rest => simp [looks, look, received, inPass, finish]
  | closed => simp [looks, look, received, inPass, moveTo]
  | empty =>
      cases quit with
      | true => simp [looks, look, received, inPass, moveTo, finish]
      | false =>
          cases taken : events.receive with
          | item event rest =>
              simp only [looks, look, received, inPass, moveTo, taken, ↓reduceIte,
                Bool.false_eq_true, handleEvent]
              cases (handler.handle state event).2 <;> simp [finish]
          | empty => simp [looks, look, received, inPass, moveTo, taken]
          | closed => simp [looks, look, received, inPass, moveTo, taken, finish]

theorem inPass_drain (handler : Handler α σ) (quit : Bool) (first : Branch) (feed : Feed α)
    (state : σ) (life : feed.life = .live .draining) :
    (feed.drain handler quit first state).1.inPass = false := by
  have waits : feed.inPass = false := by simp [inPass, life]
  have drains : (feed.drainEvents handler state).1.inPass = false := by
    unfold drainEvents
    cases feed.events.receive with
    | item event rest =>
        simp only [handleEvent]
        cases (handler.handle state event).2 <;> rfl
    | empty => exact waits
    | closed => rfl
  unfold drain
  cases first with
  | quit =>
      cases quit with
      | true => rfl
      | false => exact drains
  | events =>
      cases feed.events.receive with
      | empty =>
          cases quit with
          | true => rfl
          | false => exact waits
      | item event rest => exact drains
      | closed => exact drains

theorem pass_of_draining {handler : Handler α σ} {quit : Bool} {first : Branch} {feed : Feed α}
    {state : σ} (life : feed.life = .live .draining) :
    feed.pass handler quit first state = feed.drain handler quit first state := by
  have looked : feed.look handler quit first state = feed.drain handler quit first state := by
    simp [look, life]
  have finished := inPass_drain handler quit first feed state life
  simp only [pass, looks, looked, finished, Bool.false_eq_true, ↓reduceIte]

/-- Where a live task stands between two passes. One that drains has found its error channel
empty and closed. -/
inductive Poised (feed : Feed α) : Place → Prop where
  | watching (life : feed.life = .live .errors) : feed.Poised .errors
  | draining (life : feed.life = .live .draining) (empty : feed.errors.queue = [])
      (closed : feed.errors.senderOpen = false) : feed.Poised .draining

/-- Everything that a pass can do from `place`. Only a draining task whose choice falls on the
events goes on with them after the signal. -/
inductive Passed (handler : Handler α σ) (quit : Bool) (first : Branch) (feed : Feed α)
    (state : σ) (place : Place) : Feed α × σ → Prop where
  | takesError {error : NodeError} {rest : List NodeError} (watching : place = .errors)
      (found : feed.errors.queue = error :: rest) :
      Passed handler quit first feed state place (feed.finish (.streamError error), state)
  | findsClosed (watching : place = .errors) (empty : feed.errors.queue = [])
      (closed : feed.errors.senderOpen = false) :
      Passed handler quit first feed state place (feed.moveTo .draining, state)
  | quits (empty : feed.errors.queue = []) (signal : quit = true) :
      Passed handler quit first feed state place (feed.finish .quit, state)
  | handles {event : α} {rest : List α} (empty : feed.errors.queue = [])
      (found : feed.events.queue = event :: rest)
      (chosen : quit = true → place = .draining ∧ first = .events) :
      Passed handler quit first feed state place (feed.handleEvent handler place state event rest)
  | ends (empty : feed.errors.queue = []) (drained : feed.events.queue = [])
      (closed : feed.events.senderOpen = false)
      (chosen : quit = true → place = .draining ∧ first = .events) :
      Passed handler quit first feed state place (feed.finish .streamEnded, state)
  | waits (empty : feed.errors.queue = []) (drained : feed.events.queue = [])
      (expects : feed.events.senderOpen = true) (unsignalled : quit = false) :
      Passed handler quit first feed state place (feed, state)

theorem pass_passed (handler : Handler α σ) (quit : Bool) (first : Branch) {feed : Feed α}
    (state : σ) {place : Place} (poised : feed.Poised place) :
    Passed handler quit first feed state place (feed.pass handler quit first state) := by
  cases poised with
  | watching life =>
      rw [pass_of_errors life]
      cases errors : feed.errors.queue with
      | cons error rest =>
          simp only [Mailbox.receive, errors]
          exact .takesError rfl errors
      | nil =>
          cases sender : feed.errors.senderOpen with
          | false =>
              simp only [Mailbox.receive, errors, sender, Bool.false_eq_true, ↓reduceIte]
              exact .findsClosed rfl errors sender
          | true =>
              cases quit with
              | true =>
                  simp only [Mailbox.receive, errors, sender, ↓reduceIte]
                  exact .quits errors rfl
              | false =>
                  cases events : feed.events.queue with
                  | cons event rest =>
                      simp only [Mailbox.receive, errors, sender, events, ↓reduceIte,
                        Bool.false_eq_true]
                      exact .handles errors events nofun
                  | nil =>
                      cases expects : feed.events.senderOpen with
                      | true =>
                          simp only [Mailbox.receive, errors, sender, events, expects,
                            ↓reduceIte, Bool.false_eq_true]
                          exact .waits errors events expects rfl
                      | false =>
                          simp only [Mailbox.receive, errors, sender, events, expects,
                            ↓reduceIte, Bool.false_eq_true]
                          exact .ends errors events expects nofun
  | draining life empty closed =>
      rw [pass_of_draining life]
      unfold drain drainEvents
      cases first with
      | quit =>
          cases quit with
          | true => exact .quits empty rfl
          | false =>
              cases events : feed.events.queue with
              | cons event rest =>
                  simp only [Mailbox.receive, events, Bool.false_eq_true, ↓reduceIte]
                  exact .handles empty events nofun
              | nil =>
                  cases expects : feed.events.senderOpen with
                  | true =>
                      simp only [Mailbox.receive, events, expects, Bool.false_eq_true, ↓reduceIte]
                      exact .waits empty events expects rfl
                  | false =>
                      simp only [Mailbox.receive, events, expects, Bool.false_eq_true, ↓reduceIte]
                      exact .ends empty events expects nofun
      | events =>
          cases events : feed.events.queue with
          | cons event rest =>
              simp only [Mailbox.receive, events]
              exact .handles empty events fun _ => ⟨rfl, rfl⟩
          | nil =>
              cases expects : feed.events.senderOpen with
              | true =>
                  cases quit with
                  | true =>
                      simp only [Mailbox.receive, events, expects, ↓reduceIte]
                      exact .quits empty rfl
                  | false =>
                      simp only [Mailbox.receive, events, expects, Bool.false_eq_true, ↓reduceIte]
                      exact .waits empty events expects rfl
              | false =>
                  simp only [Mailbox.receive, events, expects, Bool.false_eq_true, ↓reduceIte]
                  exact .ends empty events expects fun _ => ⟨rfl, rfl⟩

theorem Poised.life {feed : Feed α} {place : Place} (poised : feed.Poised place) :
    feed.life = .live place := by
  cases poised with
  | watching life => exact life
  | draining life _ _ => exact life

theorem Poised.of_same {feed next : Feed α} {place : Place} (poised : feed.Poised place)
    (life : next.life = feed.life) (errors : next.errors = feed.errors) : next.Poised place := by
  cases poised with
  | watching here => exact .watching (life.trans here)
  | draining here empty closed =>
      exact .draining (life.trans here) (errors ▸ empty) (errors ▸ closed)

/-- What a task has to look forward to when a run leaves it: nothing is queued, events may still
come, and the signal was not given. -/
structure Waiting (quit : Bool) (feed : Feed α) : Prop where
  poised : ∃ place, feed.Poised place
  calm : feed.errors.queue = []
  drained : feed.events.queue = []
  expects : feed.events.senderOpen = true
  unsignalled : quit = false

/-- A pass ends the task, or gets on with its work, or finds nothing to do. -/
theorem Passed.ended_or_progress_or_waiting {handler : Handler α σ} {quit : Bool} {first : Branch}
    {feed : Feed α} {state : σ} {place : Place} {next : Feed α × σ}
    (passed : Passed handler quit first feed state place next) (poised : feed.Poised place) :
    (∃ exit, next.1.life = .ended exit) ∨
      ((∃ place, next.1.Poised place) ∧ next.1.work < feed.work) ∨
      (next = (feed, state) ∧ Waiting quit feed) := by
  have life := poised.life
  cases passed with
  | takesError _ _ => exact .inl ⟨_, rfl⟩
  | findsClosed watching empty closed =>
      subst watching
      refine .inr (.inl ⟨⟨.draining, .draining rfl empty closed⟩, ?_⟩)
      simp [work, moveTo, life]
  | quits _ _ => exact .inl ⟨_, rfl⟩
  | handles empty found _ =>
      rw [handleEvent_eq]
      cases (handler.handle state _).2 with
      | accept =>
          refine .inr (.inl ⟨⟨place, poised.of_same life.symm rfl⟩, ?_⟩)
          cases poised <;> simp [work, moveTo, taking, life, found]
      | fail error => exact .inl ⟨_, rfl⟩
      | panic => exact .inl ⟨_, rfl⟩
  | ends _ _ _ _ => exact .inl ⟨_, rfl⟩
  | waits empty drained expects unsignalled =>
      exact .inr (.inr ⟨rfl, ⟨⟨place, poised⟩, empty, drained, expects, unsignalled⟩⟩)

theorem pass_of_not_live (handler : Handler α σ) (quit : Bool) (first : Branch) (feed : Feed α)
    (state : σ) (rests : feed.isLive = false) :
    feed.pass handler quit first state = (feed, state) := by
  have outside : feed.inPass = false := by
    unfold isLive at rests
    unfold inPass
    cases life : feed.life with
    | unattended => rfl
    | live place => rw [life] at rests; cases rests
    | ended exit => rfl
  simp only [pass, looks, look_of_not_live handler quit first feed state rests, outside,
    Bool.false_eq_true, ↓reduceIte]

theorem run_of_not_live (handler : Handler α σ) (quit : Bool) (choices : List Branch)
    (feed : Feed α) (state : σ) (rests : feed.isLive = false) :
    feed.run handler quit choices state = (feed, state) := by
  have still := pass_of_not_live handler quit (choices.head?.getD .quit) feed state rests
  rw [run_of_idle (by rw [still]; exact Nat.lt_irrefl _), still]

theorem run_of_ending {handler : Handler α σ} {quit : Bool} {choices : List Branch}
    {feed ended : Feed α} {state after : σ} {place : Place} {exit : Exit}
    (life : feed.life = .live place)
    (passed : feed.pass handler quit (choices.head?.getD .quit) state =
      (ended.finish exit, after)) :
    feed.run handler quit choices state = (ended.finish exit, after) := by
  have progress : (feed.pass handler quit (choices.head?.getD .quit) state).1.work <
      feed.work := by
    rw [passed]
    cases place <;> simp [work, life]
  rw [run_of_progress progress, passed, run_of_not_live _ _ _ _ _ rfl]

/-- Where no error can come any more the task goes on to drain its events. -/
theorem run_of_errorsClosed {handler : Handler α σ} {feed : Feed α}
    (life : feed.life = .live .errors) (empty : feed.errors.queue = [])
    (closed : feed.errors.senderOpen = false) (quit : Bool) (choices : List Branch) (state : σ) :
    feed.run handler quit choices state =
      (feed.moveTo .draining).run handler quit choices.tail state := by
  have movesOn (first : Branch) :
      feed.pass handler quit first state = (feed.moveTo .draining, state) := by
    rw [pass_of_errors life]
    simp only [Mailbox.receive, empty, closed, Bool.false_eq_true, ↓reduceIte]
  have progress (first : Branch) : (feed.pass handler quit first state).1.work < feed.work := by
    rw [movesOn]
    simp [work, moveTo, life]
  rw [run_of_progress (progress _), movesOn]

theorem isLive_of_ended {feed : Feed α} {exit : Exit} (life : feed.life = .ended exit) :
    feed.isLive = false := by
  simp [isLive, life]

/-- A run goes on until the task has ended or waits. -/
theorem run_ended_or_waiting (handler : Handler α σ) (quit : Bool) (choices : List Branch)
    (feed : Feed α) (state : σ) (poised : ∃ place, feed.Poised place) :
    (∃ exit, (feed.run handler quit choices state).1.life = .ended exit) ∨
      Waiting quit (feed.run handler quit choices state).1 := by
  induction choices, feed, state using run.induct handler quit with
  | case1 choices feed state next progress ih =>
      rw [run_of_progress progress]
      obtain ⟨place, poised⟩ := poised
      have passed := pass_passed handler quit (choices.head?.getD .quit) state poised
      rcases passed.ended_or_progress_or_waiting poised with
        ⟨exit, finished⟩ | ⟨next, _⟩ | ⟨same, _⟩
      · rw [run_of_not_live _ _ _ _ _ (isLive_of_ended finished)]
        exact .inl ⟨exit, finished⟩
      · exact ih next
      · have still :
            (feed.pass handler quit (choices.head?.getD .quit) state).1.work = feed.work := by
          rw [same]
        exact absurd progress (still ▸ Nat.lt_irrefl _)
  | case2 choices feed state next idle =>
      rw [run_of_idle idle]
      obtain ⟨place, poised⟩ := poised
      have passed := pass_passed handler quit (choices.head?.getD .quit) state poised
      rcases passed.ended_or_progress_or_waiting poised with
        finished | ⟨_, progress⟩ | ⟨same, waiting⟩
      · exact .inl finished
      · exact absurd progress idle
      · rw [same]
        exact .inr waiting

end LightningMetrics.Streaming.Feed
