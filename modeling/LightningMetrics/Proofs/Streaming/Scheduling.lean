import LightningMetrics.Proofs.Streaming.Signal

/-!
Without a stream error and without a stop it does not matter when a task gets to run, nor whether
it still looks for errors or only drains its events. In either phase it handles the events that wait
up to the first that its handler does not accept, so all that a producer sends and closes comes to
the same however the runs are spread over it.
-/

set_option autoImplicit false

namespace LightningMetrics.Streaming

variable {α σ : Type}

/-- How the first verdict that ends a task ends it, if there is one. -/
def faultOf (notes : List (α × Verdict)) : Option Exit :=
  notes.findSome? fun note => note.2.exit?

/-- How a task ends that has made these notes of the events that waited: on a verdict, or for want
of events once none can come. -/
def exitAfter (notes : List (α × Verdict)) (ended : Bool) : Option Exit :=
  (faultOf notes).or (if ended then some .streamEnded else none)

theorem exitAfter_of_clean {notes : List (α × Verdict)} (clean : faultOf notes = none)
    (ended : Bool) : exitAfter notes ended = if ended then some .streamEnded else none := by
  rw [exitAfter, clean, Option.none_or]

theorem exitAfter_of_faultOf {notes : List (α × Verdict)} {exit : Exit}
    (fault : faultOf notes = some exit) (ended : Bool) : exitAfter notes ended = some exit := by
  rw [exitAfter, fault, Option.some_or]

theorem exitAfter_eq_none_iff (notes : List (α × Verdict)) (ended : Bool) :
    exitAfter notes ended = none ↔ faultOf notes = none ∧ ended = false := by
  unfold exitAfter
  cases faultOf notes <;> cases ended <;> simp

theorem exitAfter_append {earlier : List (α × Verdict)} (clean : faultOf earlier = none)
    (later : List (α × Verdict)) (ended : Bool) :
    exitAfter (earlier ++ later) ended = exitAfter later ended := by
  unfold exitAfter faultOf at *
  rw [List.findSome?_append, clean, Option.none_or]

namespace Handler

/-- What a task notes of events that wait for it. It shows them to its handler one after the other,
and none after the first that is not accepted. -/
def verdicts (handler : Handler α σ) : σ → List α → List (α × Verdict)
  | _, [] => []
  | state, event :: rest =>
      (event, (handler.handle state event).2) ::
        match (handler.handle state event).2.exit? with
        | none => handler.verdicts (handler.handle state event).1 rest
        | some _ => []

variable (handler : Handler α σ) {state : σ} {event : α} {exit : Exit}

theorem verdicts_of_accepted (accepted : (handler.handle state event).2.exit? = none)
    (rest : List α) :
    handler.verdicts state (event :: rest) =
      (event, (handler.handle state event).2) ::
        handler.verdicts (handler.handle state event).1 rest := by
  simp only [verdicts, accepted]

theorem verdicts_of_fault (fault : (handler.handle state event).2.exit? = some exit)
    (rest : List α) :
    handler.verdicts state (event :: rest) = [(event, (handler.handle state event).2)] := by
  simp only [verdicts, fault]

theorem exitAfter_of_accepted (accepted : (handler.handle state event).2.exit? = none)
    (rest : List α) (ended : Bool) :
    exitAfter (handler.verdicts state (event :: rest)) ended =
      exitAfter (handler.verdicts (handler.handle state event).1 rest) ended := by
  rw [handler.verdicts_of_accepted accepted]
  simp only [exitAfter, faultOf, List.findSome?_cons, accepted]

theorem exitAfter_of_fault (fault : (handler.handle state event).2.exit? = some exit)
    (rest : List α) (ended : Bool) :
    exitAfter (handler.verdicts state (event :: rest)) ended = some exit := by
  rw [handler.verdicts_of_fault fault]
  simp only [exitAfter, faultOf, List.findSome?_cons, fault, Option.some_or]

theorem answered_verdicts (state : σ) (events : List α) :
    Answered handler state (handler.verdicts state events) := by
  induction events generalizing state with
  | nil => rfl
  | cons event rest ih =>
      cases fault : (handler.handle state event).2.exit? with
      | some exit =>
          rw [handler.verdicts_of_fault fault]
          rfl
      | none =>
          rw [handler.verdicts_of_accepted fault]
          exact congrArg (_ :: ·) (ih _)

/-- Events that come after others are shown to the handler only if it accepted those. -/
theorem verdicts_append (state : σ) (earlier later : List α) :
    handler.verdicts state (earlier ++ later) =
      handler.verdicts state earlier ++
        match faultOf (handler.verdicts state earlier) with
        | none => handler.verdicts (handler.after state earlier) later
        | some _ => [] := by
  induction earlier generalizing state with
  | nil => rfl
  | cons event earlier ih =>
      rw [List.cons_append]
      cases fault : (handler.handle state event).2.exit? with
      | some exit =>
          rw [handler.verdicts_of_fault fault, handler.verdicts_of_fault fault]
          simp only [faultOf, List.findSome?_cons, fault, List.append_nil]
      | none =>
          rw [handler.verdicts_of_accepted fault, handler.verdicts_of_accepted fault, ih]
          simp only [faultOf, List.findSome?_cons, fault, List.cons_append]
          rfl

theorem map_fst_verdicts (state : σ) (events : List α)
    (clean : faultOf (handler.verdicts state events) = none) :
    (handler.verdicts state events).map Prod.fst = events := by
  induction events generalizing state with
  | nil => rfl
  | cons event rest ih =>
      cases fault : (handler.handle state event).2.exit? with
      | some exit =>
          rw [handler.verdicts_of_fault fault] at clean
          simp only [faultOf, List.findSome?_cons, fault] at clean
          cases clean
      | none =>
          rw [handler.verdicts_of_accepted fault] at clean ⊢
          simp only [faultOf, List.findSome?_cons, fault] at clean
          rw [List.map_cons, ih _ clean]

theorem verdicts_recording (state : σ) (notes : List (α × Verdict)) (events : List α) :
    handler.recording.verdicts (state, notes) events = handler.verdicts state events := by
  induction events generalizing state notes with
  | nil => rfl
  | cons event rest ih =>
      have same : (handler.recording.handle (state, notes) event).2 =
          (handler.handle state event).2 := rfl
      cases fault : (handler.handle state event).2.exit? with
      | some exit =>
          rw [handler.verdicts_of_fault fault, handler.recording.verdicts_of_fault (same ▸ fault)]
          rfl
      | none =>
          rw [handler.verdicts_of_accepted fault,
            handler.recording.verdicts_of_accepted (same ▸ fault)]
          exact congrArg (_ :: ·) (ih _ _)

theorem after_recording (state : σ) (notes : List (α × Verdict)) (events : List α) :
    handler.recording.after (state, notes) events =
      (handler.after state events, notes ++ handler.answers state events) := by
  induction events generalizing state notes with
  | nil => exact congrArg (state, ·) (List.append_nil notes).symm
  | cons event rest ih =>
      change handler.recording.after (_, notes ++ [_]) rest = _
      rw [ih, List.append_assoc]
      rfl

end Handler

theorem Exit.departure_account (name : String) (exit : Exit) :
    Happening.exits ((Life.ended exit).departure name : List (Happening α)) = [exit] ∧
      Happening.reports ((Life.ended exit).departure name : List (Happening α)) =
        [exit].filterMap (·.report? name) := by
  rw [Life.departure, List.filterMap_cons]
  cases exit.report? name <;> exact ⟨rfl, rfl⟩

namespace Feed

/-- Where a task waits for events: it looks for errors as long as they can come. -/
def station (feed : Feed α) : Place :=
  if feed.errors.senderOpen then .errors else .draining

/-- The feed with all its events taken, and the task at an end or waiting for more. -/
def cleared (feed : Feed α) : Option Exit → Feed α
  | some exit => feed.finish exit
  | none => (feed.taking []).moveTo feed.station

theorem cleared_onwards (feed : Feed α) (rest : List α) (place : Place) (exit : Option Exit) :
    ((feed.taking rest).moveTo place).cleared exit = feed.cleared exit := by
  cases exit <;> rfl

theorem poised_cleared {feed : Feed α} (calm : feed.errors.queue = []) :
    (feed.cleared none).Poised feed.station := by
  cases sender : feed.errors.senderOpen with
  | true =>
      have watching : feed.station = .errors := by simp only [station, sender, ↓reduceIte]
      rw [watching]
      exact .watching (congrArg _ watching)
  | false =>
      have draining : feed.station = .draining := by
        simp only [station, sender, Bool.false_eq_true, ↓reduceIte]
      rw [draining]
      exact .draining (congrArg _ draining) calm sender

variable (handler : Handler α σ)

theorem pass_of_calm (first : Branch) {feed : Feed α} (life : feed.life = .live feed.station)
    (calm : feed.errors.queue = []) (state : σ) :
    feed.pass handler false first state =
      match feed.events.receive with
      | .item event rest => feed.handleEvent handler feed.station state event rest
      | .empty => (feed, state)
      | .closed => (feed.finish .streamEnded, state) := by
  cases sender : feed.errors.senderOpen with
  | true =>
      have watching : feed.station = .errors := by simp only [station, sender, ↓reduceIte]
      have nothing : feed.errors.receive = .empty := by
        simp only [Mailbox.receive, calm, sender, ↓reduceIte]
      rw [pass_of_errors (life.trans (congrArg _ watching)), nothing, watching]
      rfl
  | false =>
      have draining : feed.station = .draining := by
        simp only [station, sender, Bool.false_eq_true, ↓reduceIte]
      rw [pass_of_draining (life.trans (congrArg _ draining)), draining]
      unfold drain drainEvents
      cases first with
      | quit => rfl
      | events => cases feed.events.receive <;> rfl

theorem handleEvent_eq_exit (next : Place) (feed : Feed α) (state : σ) (event : α)
    (rest : List α) :
    feed.handleEvent handler next state event rest =
      (match (handler.handle state event).2.exit? with
        | none => (feed.taking rest).moveTo next
        | some exit => (feed.taking rest).finish exit,
        (handler.handle state event).1) := by
  rw [handleEvent_eq]
  cases (handler.handle state event).2 <;> rfl

variable (choices : List Branch)

/-- A run takes what waits, up to the first event that is not accepted. -/
theorem run_of_station {feed : Feed α} (life : feed.life = .live feed.station)
    (calm : feed.errors.queue = []) (state : σ) :
    feed.run handler false choices state =
      (feed.cleared (exitAfter (handler.verdicts state feed.events.queue)
          (!feed.events.senderOpen)),
        handler.after state ((handler.verdicts state feed.events.queue).map Prod.fst)) := by
  induction queue : feed.events.queue generalizing feed state choices with
  | nil =>
      have passes := pass_of_calm handler (choices.head?.getD .quit) life calm state
      cases sender : feed.events.senderOpen with
      | true =>
          have nothing : feed.events.receive = .empty := by
            simp only [Mailbox.receive, queue, sender, ↓reduceIte]
          rw [nothing] at passes
          rw [run_of_idle (by rw [passes]; exact Nat.lt_irrefl _), passes]
          have same : (feed.taking []).moveTo feed.station = feed := by
            rw [← queue, moveTo, ← life]
            rfl
          exact congrArg (·, state) same.symm
      | false =>
          have nothing : feed.events.receive = .closed := by
            simp only [Mailbox.receive, queue, sender, Bool.false_eq_true, ↓reduceIte]
          rw [nothing] at passes
          exact run_of_ending life passes
  | cons event rest ih =>
      have front : feed.events.receive = .item event rest := by
        simp only [Mailbox.receive, queue]
      have passes := pass_of_calm handler (choices.head?.getD .quit) life calm state
      rw [front] at passes
      dsimp only at passes
      rw [handleEvent_eq_exit] at passes
      cases fault : (handler.handle state event).2.exit? with
      | some exit =>
          rw [fault] at passes
          rw [run_of_ending life passes, handler.exitAfter_of_fault fault,
            handler.verdicts_of_fault fault]
          rfl
      | none =>
          rw [fault] at passes
          have progress :
              (feed.pass handler false (choices.head?.getD .quit) state).1.work < feed.work := by
            rw [passes]
            cases place : feed.station <;> rw [place] at life <;>
              simp [work, moveTo, taking, life, queue]
          have goesOn := @ih choices.tail ((feed.taking rest).moveTo feed.station) rfl calm
            (handler.handle state event).1 rfl
          rw [cleared_onwards] at goesOn
          rw [run_of_progress progress, passes, handler.exitAfter_of_accepted fault,
            handler.verdicts_of_accepted fault]
          exact goesOn

/-- What a run comes to where no error waits and no signal was given, whether the task still looks
for errors or has found their channel closed. -/
theorem run_of_calm {feed : Feed α} {place : Place} (poised : feed.Poised place)
    (calm : feed.errors.queue = []) (state : σ) :
    feed.run handler false choices state =
      (feed.cleared (exitAfter (handler.verdicts state feed.events.queue)
          (!feed.events.senderOpen)),
        handler.after state ((handler.verdicts state feed.events.queue).map Prod.fst)) := by
  cases poised with
  | draining life _ closed =>
      refine run_of_station handler choices ?_ calm state
      simp only [station, closed, Bool.false_eq_true, ↓reduceIte, life]
  | watching life =>
      cases sender : feed.errors.senderOpen with
      | true =>
          refine run_of_station handler choices ?_ calm state
          simp only [station, sender, ↓reduceIte, life]
      | false =>
          have here : (feed.moveTo .draining).life = .live (feed.moveTo .draining).station := by
            simp [station, moveTo, sender]
          rw [run_of_errorsClosed life calm sender,
            run_of_station handler choices.tail here calm state]
          exact congrArg (·, _) (feed.cleared_onwards feed.events.queue .draining _)

theorem handled_of_calm {feed : Feed α} {place : Place} (poised : feed.Poised place)
    (calm : feed.errors.queue = []) (state : σ) :
    feed.handled handler false choices state = handler.verdicts state feed.events.queue := by
  unfold handled
  rw [run_of_calm handler.recording choices poised calm, handler.verdicts_recording,
    handler.after_recording, List.nil_append]
  exact (handler.answered_verdicts state feed.events.queue).symm

/-- What such a run makes happen: the events that it handles, and the end if it has come. -/
theorem runHappenings_of_calm (name : String) {feed : Feed α} {place : Place}
    (poised : feed.Poised place) (calm : feed.errors.queue = []) (state : σ) :
    let notes := handler.verdicts state feed.events.queue
    let own := feed.runHappenings name handler false choices state
    let exits := (exitAfter notes (!feed.events.senderOpen)).toList
    Happening.notes own = notes ∧ Happening.exits own = exits ∧
      Happening.reports own = exits.filterMap (·.report? name) := by
  intro notes own exits
  refine ⟨?_, ?_⟩
  · rw [notes_runHappenings, handled_of_calm handler choices poised calm]
  · have unended (notes : List (α × Verdict)) :
        Happening.exits (notes.map fun noted => .handled noted.1 noted.2) = [] ∧
          Happening.reports (notes.map fun noted => .handled noted.1 noted.2) = [] := by
      constructor <;>
      · refine List.filterMap_eq_nil_iff.mpr fun happening member => ?_
        obtain ⟨noted, _, rfl⟩ := List.mem_map.mp member
        rfl
    simp only [own, exits, runHappenings, Happening.exits_append, Happening.reports_append, unended,
      List.nil_append, run_of_calm handler choices poised calm]
    change Happening.exits ((feed.cleared (exitAfter notes _)).life.departure name) = _ ∧
      Happening.reports ((feed.cleared (exitAfter notes _)).life.departure name) = _
    cases exitAfter notes (!feed.events.senderOpen) with
    | none => exact ⟨rfl, rfl⟩
    | some exit => exact exit.departure_account name

/-- There is room for these events, sent one after the other. -/
def Admits (feed : Feed α) (events : List α) : Prop :=
  events = [] ∨ feed.events.senderOpen = true ∧ feed.events.receiverOpen = true ∧
    feed.events.queue.length + events.length ≤ feed.events.capacity

theorem Admits.deliver {feed : Feed α} {event : α} {rest : List α}
    (admits : feed.Admits (event :: rest)) :
    feed.deliver (.event event) = (.send .sent, feed.taking (feed.events.queue ++ [event])) ∧
      (feed.taking (feed.events.queue ++ [event])).Admits rest := by
  obtain finished | ⟨sender, receiver, room⟩ := admits
  · cases finished
  rw [List.length_cons] at room
  refine ⟨?_, .inr ⟨sender, receiver, ?_⟩⟩
  · unfold Feed.deliver
    dsimp only
    rw [Mailbox.send_of_open sender receiver, if_pos (by omega)]
    rfl
  · simp only [taking, List.length_append, List.length_singleton]
    omega

end Feed

theorem Delivery.exits_happenings (delivery : Delivery α) (receipt : Receipt) :
    Happening.exits (delivery.happenings receipt) = [] ∧
      Happening.reports (delivery.happenings receipt) = [] := by
  unfold Delivery.happenings
  split <;> exact ⟨rfl, rfl⟩

namespace Session

/-- What some steps come to for one feed: the events that its task handles with the verdicts on
them, how the task ends, and what its end brings with it. -/
structure ComesTo (handler : Handler α σ) (number : Nat) (session : Session α σ)
    (steps : List (Step α)) (notes : List (α × Verdict)) (exits : List Exit) : Prop where
  handled : Happening.notes (ofFeed number (session.history handler steps)) = notes
  ended : Happening.exits (ofFeed number (session.history handler steps)) = exits
  reported : Happening.reports (ofFeed number (session.history handler steps)) =
    exits.filterMap (·.report? session.worker.name)
  sink : (session.steps handler steps).2.sink =
    (exits.filterMap (·.report? session.worker.name)).foldl Sink.report session.sink
  /-- The context is cancelled if it was before, or if the task has ended. -/
  context : ∀ feed, session.worker.feeds[number]? = some feed →
    (session.steps handler steps).2.worker.feeds[number]?.map Feed.cancelled =
      some (feed.cancelled || !exits.isEmpty)
  state : (session.steps handler steps).2.worker.state =
    handler.after session.worker.state (notes.map Prod.fst)

/-- No error waits for the task of the feed, and the signal to quit was not given. -/
structure Calm (session : Session α σ) (number : Nat) (feed : Feed α) : Prop where
  found : session.worker.feeds[number]? = some feed
  started : session.worker.started = some number
  poised : ∃ place, feed.Poised place
  calm : feed.errors.queue = []
  unsignalled : session.worker.quit = false

/-- A producer sends `events` and closes its channel after them if it `closes`; in between the task
is run now and then, and the channel for errors may be closed. -/
inductive Schedule (number : Nat) : List α → Bool → List (Step α) → Prop where
  | done : Schedule number [] false []
  | event {value : α} {events : List α} {closes : Bool} {steps : List (Step α)}
      (rest : Schedule number events closes steps) :
      Schedule number (value :: events) closes (.deliver number (.event value) :: steps)
  | ending {steps : List (Step α)} (rest : Schedule number [] false steps) :
      Schedule number [] true (.deliver number .closeEvents :: steps)
  | run (choices : List Branch) {events : List α} {closes : Bool} {steps : List (Step α)}
      (rest : Schedule number events closes steps) :
      Schedule number events closes (.run choices :: steps)
  | errorsClosed {events : List α} {closes : Bool} {steps : List (Step α)}
      (rest : Schedule number events closes steps) :
      Schedule number events closes (.deliver number .closeErrors :: steps)

variable {handler : Handler α σ} {session : Session α σ} {number : Nat} {feed : Feed α}
  {steps later : List (Step α)} {notes more : List (α × Verdict)} {exits last : List Exit}

theorem ComesTo.append (now : ComesTo handler number session steps notes exits)
    (then' : ComesTo handler number (session.steps handler steps).2 later more last) :
    ComesTo handler number session (steps ++ later) (notes ++ more) (exits ++ last) := by
  have named := session.name_steps handler steps
  refine ⟨?_, ?_, ?_, ?_, fun feed found => ?_, ?_⟩
  · rw [history_append, ofFeed_append, Happening.notes_append, now.handled, then'.handled]
  · rw [history_append, ofFeed_append, Happening.exits_append, now.ended, then'.ended]
  · rw [history_append, ofFeed_append, Happening.reports_append, now.reported, then'.reported,
      named, List.filterMap_append]
  · rw [steps_append, then'.sink, now.sink, named, List.filterMap_append, List.foldl_append]
  · obtain ⟨next, there, cancelled⟩ := Option.map_eq_some_iff.mp (now.context feed found)
    rw [steps_append, then'.context next there, cancelled]
    cases exits <;> simp
  · rw [steps_append, then'.state, now.state, List.map_append, Handler.after_append]

/-- A delivery by itself has nothing handled and ends no task. -/
theorem comesTo_deliver (found : session.worker.feeds[number]? = some feed)
    (delivery : Delivery α) :
    ComesTo handler number session [.deliver number delivery] [] [] := by
  have news : ofFeed number (session.history handler [.deliver number delivery]) =
      delivery.happenings (feed.deliver delivery).1 := by
    simp only [history, happenings, Session.step, Worker.deliver?, found, Option.map_some,
      List.append_nil, ofFeed_own]
  have after : (session.steps handler [.deliver number delivery]).2 =
      { session with worker := { session.worker with
          feeds := session.worker.feeds.set number (feed.deliver delivery).2 } } := by
    simp only [Session.steps, Session.step, Worker.deliver?, found, Option.map_some]
  have inside := (List.getElem?_eq_some_iff.mp found).1
  obtain ⟨exits, reports⟩ := delivery.exits_happenings (feed.deliver delivery).1
  refine ⟨?_, ?_, ?_, ?_, fun served there => ?_, ?_⟩
  · rw [news, delivery.notes_happenings]
  · rw [news, exits]
  · rw [news, reports]
    rfl
  · rw [after]
    rfl
  · cases found.symm.trans there
    rw [after, List.getElem?_set_self inside]
    simp [(feed.deliver_frame delivery).2]
  · rw [after]
    rfl

theorem ComesTo.after_deliver (found : session.worker.feeds[number]? = some feed)
    {delivery : Delivery α}
    (onwards : ComesTo handler number (session.steps handler [.deliver number delivery]).2
      later more last) :
    ComesTo handler number session (.deliver number delivery :: later) more last :=
  (comesTo_deliver found delivery).append onwards

theorem step_run_of_rests (found : session.worker.feeds[number]? = some feed)
    (started : session.worker.started = some number) (rests : feed.Rests) (choices : List Branch) :
    (session.step handler (.run choices)).2 = session ∧
      session.happenings handler (.run choices) = [] := by
  have current := Worker.current?_eq_some_iff.mpr ⟨started, found⟩
  have still (other : Nat) (served : Feed α)
      (here : session.worker.current? = some (other, served)) : served.isLive = false := by
    cases current.symm.trans here
    exact rests.still
  constructor
  · simp only [Session.step, Session.run, Worker.run_of_still still handler choices session.sink]
  · simp only [happenings, Worker.runHappenings, current, rests.still, Bool.false_eq_true,
      ↓reduceIte]

theorem comesTo_run_of_rests (found : session.worker.feeds[number]? = some feed)
    (started : session.worker.started = some number) (rests : feed.Rests) (choices : List Branch) :
    ComesTo handler number session [.run choices] [] [] := by
  obtain ⟨same, nothing⟩ := step_run_of_rests found started rests choices
  have news : session.history handler [.run choices] = [] := by
    rw [history, nothing]
    rfl
  have after : (session.steps handler [.run choices]).2 = session := same
  refine ⟨by rw [news]; rfl, by rw [news]; rfl, by rw [news]; rfl, by rw [after]; rfl, ?_,
    by rw [after]; rfl⟩
  intro served there
  rw [after, there]
  simp

/-- After the end of its task nothing happens to a feed whatever its producer still does. -/
theorem Schedule.comesTo_of_rests {events : List α} {closes : Bool}
    (schedule : Schedule number events closes steps)
    (found : session.worker.feeds[number]? = some feed)
    (started : session.worker.started = some number) (rests : feed.Rests)
    (handler : Handler α σ) (choices : List Branch) :
    ComesTo handler number session (steps ++ [.run choices]) [] [] := by
  have delivers {delivery : Delivery α} {steps : List (Step α)}
      (ih : ∀ {session : Session α σ} {feed : Feed α},
        session.worker.feeds[number]? = some feed → session.worker.started = some number →
        feed.Rests → ComesTo handler number session (steps ++ [.run choices]) [] [])
      {session : Session α σ} {feed : Feed α}
      (found : session.worker.feeds[number]? = some feed)
      (started : session.worker.started = some number) (rests : feed.Rests) :
      ComesTo handler number session (.deliver number delivery :: steps ++ [.run choices])
        [] [] := by
    have after : (session.steps handler [.deliver number delivery]).2.worker =
        { session.worker with
          feeds := session.worker.feeds.set number (feed.deliver delivery).2 } := by
      simp only [Session.steps, Session.step, Worker.deliver?, found, Option.map_some]
    refine (ih ?_ ?_ (rests.deliver delivery).2).after_deliver found
    · rw [after]
      exact List.getElem?_set_self (List.getElem?_eq_some_iff.mp found).1
    · rw [after]
      exact started
  induction schedule generalizing session feed with
  | done => exact comesTo_run_of_rests found started rests choices
  | event _ ih | ending _ ih | errorsClosed _ ih => exact delivers ih found started rests
  | run again rest ih =>
      have same : (session.steps handler [.run again]).2 = session :=
        (step_run_of_rests found started rests again).1
      refine (comesTo_run_of_rests found started rests again).append ?_
      rw [same]
      exact ih found started rests

theorem Calm.current?_eq (calm : session.Calm number feed) :
    session.worker.current? = some (number, feed) :=
  Worker.current?_eq_some_iff.mpr ⟨calm.started, calm.found⟩

theorem Calm.isLive (calm : session.Calm number feed) : feed.isLive = true := by
  obtain ⟨place, poised⟩ := calm.poised
  simp [Feed.isLive, poised.life]

theorem Calm.getElem?_set (calm : session.Calm number feed) (next : Feed α) :
    (session.worker.feeds.set number next)[number]? = some next :=
  List.getElem?_set_self (List.getElem?_eq_some_iff.mp calm.found).1

theorem Calm.worker_run (calm : session.Calm number feed) (handler : Handler α σ)
    (choices : List Branch) :
    let notes := handler.verdicts session.worker.state feed.events.queue
    (session.step handler (.run choices)).2.worker =
      { session.worker with
        feeds := session.worker.feeds.set number
          (feed.cleared (exitAfter notes (!feed.events.senderOpen)))
        state := handler.after session.worker.state (notes.map Prod.fst) } := by
  intro notes
  obtain ⟨place, poised⟩ := calm.poised
  have ran := feed.run_of_calm handler choices poised calm.calm session.worker.state
  simp only [Session.step, Session.run, Worker.run_of_live calm.current?_eq calm.isLive,
    calm.unsignalled, ran, notes]

theorem Calm.comesTo_run (calm : session.Calm number feed) (handler : Handler α σ)
    (choices : List Branch) :
    let notes := handler.verdicts session.worker.state feed.events.queue
    ComesTo handler number session [.run choices] notes
      (exitAfter notes (!feed.events.senderOpen)).toList := by
  intro notes
  obtain ⟨place, poised⟩ := calm.poised
  have news : ofFeed number (session.history handler [.run choices]) =
      feed.runHappenings session.worker.name handler false choices session.worker.state := by
    simp only [history, happenings, Worker.runHappenings, calm.current?_eq, calm.isLive,
      ↓reduceIte, calm.unsignalled, List.append_nil, ofFeed_own]
  have after : (session.steps handler [.run choices]).2.worker = _ :=
    calm.worker_run handler choices
  obtain ⟨handled, ended, reported⟩ := feed.runHappenings_of_calm handler choices
    session.worker.name poised calm.calm session.worker.state
  refine ⟨by rw [news, handled], by rw [news, ended], by rw [news, reported], ?_, ?_,
    by rw [after]⟩
  · have ran := feed.run_of_calm handler choices poised calm.calm session.worker.state
    change (session.worker.run handler choices session.sink).2 = _
    rw [Worker.run_of_live calm.current?_eq calm.isLive, calm.unsignalled, ran]
    dsimp only
    change Worker.reportExit _ (feed.cleared (exitAfter notes _)).life _ = _
    cases exitAfter notes (!feed.events.senderOpen) with
    | none => rfl
    | some exit =>
        simp only [Feed.cleared, Feed.life_finish, Worker.reportExit, Option.toList_some,
          List.filterMap_cons, List.filterMap_nil]
        cases exit.report? session.worker.name <;> rfl
  · intro served there
    cases calm.found.symm.trans there
    rw [after, calm.getElem?_set]
    change some (feed.cleared (exitAfter notes _)).cancelled = _
    cases exitAfter notes (!feed.events.senderOpen) with
    | none => exact congrArg some (Bool.or_false _).symm
    | some exit => exact congrArg some (Bool.or_true _).symm

theorem Calm.deliver (calm : session.Calm number feed) (handler : Handler α σ)
    (delivery : Delivery α) (poised : ∃ place, (feed.deliver delivery).2.Poised place)
    (errors : (feed.deliver delivery).2.errors.queue = feed.errors.queue) :
    let next := (session.steps handler [.deliver number delivery]).2
    next.Calm number (feed.deliver delivery).2 ∧ next.worker.state = session.worker.state := by
  have after : (session.steps handler [.deliver number delivery]).2.worker =
      { session.worker with
        feeds := session.worker.feeds.set number (feed.deliver delivery).2 } := by
    simp only [Session.steps, Session.step, Worker.deliver?, calm.found, Option.map_some]
  intro next
  refine ⟨⟨?_, ?_, poised, errors.trans calm.calm, ?_⟩, ?_⟩
  · change (session.steps handler [.deliver number delivery]).2.worker.feeds[number]? = _
    rw [after]
    exact calm.getElem?_set _
  · exact (congrArg Worker.started after).trans calm.started
  · exact (congrArg Worker.quit after).trans calm.unsignalled
  · exact (congrArg Worker.state after).trans rfl

/-- Once a run has ended the task, what the producer still does is of no account. -/
theorem Calm.comesTo_of_exit (calm : session.Calm number feed) (handler : Handler α σ)
    (again choices : List Branch) {exit : Exit}
    (ends : exitAfter (handler.verdicts session.worker.state feed.events.queue)
      (!feed.events.senderOpen) = some exit) {events : List α} {closes : Bool}
    (rest : Schedule number events closes steps) :
    ComesTo handler number session (.run again :: steps ++ [.run choices])
      (handler.verdicts session.worker.state feed.events.queue) [exit] := by
  have now := calm.comesTo_run handler again
  have after := calm.worker_run handler again
  dsimp only at now after
  rw [ends] at now after
  have found : (session.step handler (.run again)).2.worker.feeds[number]? =
      some (feed.finish exit) := by
    rw [after]
    exact calm.getElem?_set _
  have started := (congrArg Worker.started after).trans calm.started
  have whole := now.append
    (rest.comesTo_of_rests found started (feed.rests_finish exit) handler choices)
  rwa [List.append_nil] at whole

theorem Calm.run_of_none (calm : session.Calm number feed) (handler : Handler α σ)
    (again : List Branch)
    (goesOn : exitAfter (handler.verdicts session.worker.state feed.events.queue)
      (!feed.events.senderOpen) = none) :
    (session.step handler (.run again)).2.Calm number (feed.cleared none) ∧
      (session.step handler (.run again)).2.worker.state =
        handler.after session.worker.state feed.events.queue := by
  have after := calm.worker_run handler again
  dsimp only at after
  rw [goesOn, handler.map_fst_verdicts _ _ ((exitAfter_eq_none_iff _ _).mp goesOn).1] at after
  refine ⟨⟨?_, ?_, ⟨_, Feed.poised_cleared calm.calm⟩, calm.calm, ?_⟩, by rw [after]⟩
  · rw [after]
    exact calm.getElem?_set _
  · exact (congrArg Worker.started after).trans calm.started
  · exact (congrArg Worker.quit after).trans calm.unsignalled

/-- However the runs are spread over what a producer sends and closes, and whether or not the
channel for errors is closed, the task handles the same events and ends the same way. -/
theorem Schedule.comesTo {events : List α} {closes : Bool}
    (schedule : Schedule number events closes steps) (calm : session.Calm number feed)
    (admits : feed.Admits events) (handler : Handler α σ) (choices : List Branch) :
    let notes := handler.verdicts session.worker.state (feed.events.queue ++ events)
    ComesTo handler number session (steps ++ [.run choices]) notes
      (exitAfter notes (closes || !feed.events.senderOpen)).toList := by
  induction schedule generalizing session feed with
  | done =>
      rw [List.append_nil]
      exact calm.comesTo_run handler choices
  | @event value events closes steps rest ih =>
      obtain ⟨place, poised⟩ := calm.poised
      obtain ⟨sent, admits'⟩ := admits.deliver
      have same : (feed.deliver (.event value)).2 = feed.taking (feed.events.queue ++ [value]) := by
        rw [sent]
      obtain ⟨calm', state⟩ := calm.deliver handler (.event value)
        ⟨place, poised.of_same rfl rfl⟩ rfl
      have later := ih calm' (same ▸ admits')
      rw [state, same] at later
      have whole := later.after_deliver calm.found
      rw [show (feed.taking (feed.events.queue ++ [value])).events.queue ++ events =
        feed.events.queue ++ value :: events from List.append_assoc ..] at whole
      exact whole
  | ending rest ih =>
      obtain ⟨place, poised⟩ := calm.poised
      obtain ⟨calm', state⟩ := calm.deliver handler .closeEvents
        ⟨place, poised.of_same rfl rfl⟩ rfl
      have later := ih calm' (.inl rfl)
      rw [state] at later
      exact later.after_deliver calm.found
  | errorsClosed rest ih =>
      obtain ⟨place, poised⟩ := calm.poised
      have poised' : (feed.deliver .closeErrors).2.Poised place := by
        cases poised with
        | watching life => exact .watching life
        | draining life empty _ => exact .draining life empty rfl
      obtain ⟨calm', state⟩ := calm.deliver handler .closeErrors ⟨place, poised'⟩ rfl
      have later := ih calm' admits
      rw [state] at later
      exact later.after_deliver calm.found
  | @run again events closes steps rest ih =>
      have shown := handler.verdicts_append session.worker.state feed.events.queue events
      dsimp only
      cases exits : exitAfter (handler.verdicts session.worker.state feed.events.queue)
          (!feed.events.senderOpen) with
      | some exit =>
          have ends := calm.comesTo_of_exit handler again choices exits rest
          cases fault : faultOf (handler.verdicts session.worker.state feed.events.queue) with
          | some cause =>
              cases (exitAfter_of_faultOf fault _).symm.trans exits
              rw [fault, List.append_nil] at shown
              rw [shown, exitAfter_of_faultOf fault]
              exact ends
          | none =>
              -- The events had come to an end, so none can have been sent since.
              rw [exitAfter_of_clean fault] at exits
              rcases admits with rfl | ⟨sends, _⟩
              · rw [List.append_nil, exitAfter_of_clean fault]
                cases sender : feed.events.senderOpen with
                | true =>
                    rw [sender] at exits
                    cases exits
                | false =>
                    rw [sender] at exits
                    rw [Bool.not_false, Bool.or_true]
                    cases exits
                    exact ends
              · rw [sends] at exits
                cases exits
      | none =>
          obtain ⟨fault, _⟩ := (exitAfter_eq_none_iff _ _).mp exits
          obtain ⟨calm', state⟩ := calm.run_of_none handler again exits
          have admits' : (feed.cleared none).Admits events := by
            rcases admits with none | ⟨sends, receives, room⟩
            · exact .inl none
            · refine .inr ⟨sends, receives, Nat.le_trans ?_ room⟩
              exact Nat.add_le_add_right (Nat.zero_le _) _
          have now := calm.comesTo_run handler again
          have later := ih calm' admits'
          dsimp only at now later
          rw [exits] at now
          rw [state] at later
          rw [fault] at shown
          rw [shown, exitAfter_append fault]
          exact now.append later

theorem Faithful.calm_of_live {name : String} {past : List (Nat × Happening α)}
    (faithful : session.Faithful name past) (found : session.worker.feeds[number]? = some feed)
    (live : feed.isLive = true) (errorless : ∀ error, .errorSent error ∉ ofFeed number past)
    (unsignalled : session.worker.quit = false) : session.Calm number feed := by
  obtain ⟨_, error, run, serves⟩ := faithful.serves_of_live found live
  have errorFree : error = none := by
    cases error with
    | none => rfl
    | some cause => exact absurd ((run.errorSent_iff cause).mpr rfl) (errorless cause)
  refine ⟨found, faithful.started_of_live found live, serves.poised, ?_, unsignalled⟩
  rw [serves.pending, errorFree]
  rfl

/-- Where sends without a run in between are all accepted there is room for the events. -/
theorem admits_of_sent (found : session.worker.feeds[number]? = some feed)
    (handler : Handler α σ) {events : List α}
    (sent : ∀ reply ∈ (session.steps handler
      (events.map fun event => .deliver number (.event event))).1,
      reply = .received (.send .sent)) : feed.Admits events := by
  induction events generalizing session feed with
  | nil => exact .inl rfl
  | cons event rest ih =>
      simp only [List.map_cons, Session.steps, Session.step, Worker.deliver?, found,
        Option.map_some] at sent
      have accepted : (feed.deliver (.event event)).1 = .send .sent :=
        Reply.received.inj (sent _ List.mem_cons_self)
      rcases feed.events.send_cases event with
        ⟨sender, receiver, room, took⟩ | ⟨result, unsent, refused⟩
      · have next : (feed.deliver (.event event)).2 =
            feed.taking (feed.events.queue ++ [event]) := by
          simp only [Feed.deliver, took]
          rfl
        have inside := (List.getElem?_eq_some_iff.mp found).1
        let onwards : Session α σ := { session with worker := { session.worker with
          feeds := session.worker.feeds.set number (feed.deliver (.event event)).2 } }
        have there : onwards.worker.feeds[number]? =
            some (feed.taking (feed.events.queue ++ [event])) := by
          rw [← next]
          exact List.getElem?_set_self inside
        have later := ih there fun reply member => sent reply (List.mem_cons_of_mem _ member)
        refine .inr ⟨sender, receiver, ?_⟩
        rw [List.length_cons]
        rcases later with rfl | ⟨_, _, room'⟩
        · exact room
        · simp only [Feed.taking, List.length_append, List.length_singleton] at room'
          omega
      · simp only [Feed.deliver, refused] at accepted
        cases accepted
        exact absurd rfl unsent

/-- Take events that a live task would be sent, all of them accepted if it did not run in between,
with the end of the channel after them or not, and no stream error and no stop before. Whenever the
task is run in between, and whether and wherever the channel for errors is closed: after a last run
it has handled the same events with the same verdicts, has ended in the same way or goes on, has
reported the same, and has left the context, the sink and the handler in the same state. -/
theorem scheduling_is_immaterial (handler : Handler α σ) (name : String) (state : σ)
    (sinkCapacity : Nat) (earlier : List (Step α))
    (unstopped : ∀ step ∈ earlier, step.isStop = false) :
    let start : Session α σ := create name state sinkCapacity
    let before := (start.steps handler earlier).2
    ∀ number feed, before.worker.feeds[number]? = some feed → feed.isLive = true →
      (∀ error, .errorSent error ∉ ofFeed number (start.history handler earlier)) →
    ∀ events, (∀ reply ∈ (before.steps handler
        (events.map fun event => .deliver number (.event event))).1,
        reply = .received (.send .sent)) →
    ∀ closes steps, Schedule number events closes steps → ∀ choices,
      let notes := handler.verdicts before.worker.state (feed.events.queue ++ events)
      ComesTo handler number before (steps ++ [.run choices]) notes
        (exitAfter notes (closes || !feed.events.senderOpen)).toList := by
  intro start before number feed found live errorless events sent closes steps schedule choices
  have unsignalled : before.worker.quit = false := by
    have stopless : earlier.any Step.isStop = false :=
      List.any_eq_false.mpr fun step member => by simp [unstopped step member]
    change (start.steps handler earlier).2.worker.quit = false
    rw [quit_steps, stopless]
    rfl
  have faithful : before.Faithful name (start.history handler earlier) :=
    faithful_history handler name state sinkCapacity earlier
  have calm := faithful.calm_of_live found live errorless unsignalled
  exact schedule.comesTo calm (admits_of_sent found handler sent) handler choices

/-- Of three events the handler refuses the second. Run after each of them, with the channel for
errors closed after the first, the task sees as much as when it runs once at the end. -/
theorem scheduling_is_immaterial_up_to_refusal :
    let handler : Handler Nat Nat := ⟨fun state => state, fun state event =>
      (state + event, if event = 5 then .fail (.io "broken") else .accept)⟩
    let start : Session Nat Nat := create "htlcs" 0 1
    let before := (start.steps handler [.spawn 3]).2
    let atOnce : List (Step Nat) := [.deliver 0 (.event 4), .deliver 0 (.event 5),
      .deliver 0 (.event 6), .deliver 0 .closeEvents]
    let spread : List (Step Nat) := [.deliver 0 (.event 4), .run [], .deliver 0 .closeErrors,
      .deliver 0 (.event 5), .run [], .deliver 0 (.event 6), .deliver 0 .closeEvents]
    (∀ step ∈ ([.spawn 3] : List (Step Nat)), step.isStop = false) ∧
      before.worker.feeds[0]? = some (Feed.opened 3).attend ∧
      (∀ reply ∈ (before.steps handler
        ([4, 5, 6].map fun event => .deliver 0 (.event event))).1,
        reply = .received (.send .sent)) ∧
      Schedule 0 [4, 5, 6] true atOnce ∧ Schedule 0 [4, 5, 6] true spread ∧
      (.received (.send .closed) ∈ (before.steps handler spread).1) ∧
      ∀ steps ∈ [atOnce, spread], ∀ choices,
        ComesTo handler 0 before (steps ++ [.run choices])
          [(4, .accept), (5, .fail (.io "broken"))] [.handlerError (.io "broken")] := by
  intro handler start before atOnce spread
  have unstopped : ∀ step ∈ ([.spawn 3] : List (Step Nat)), step.isStop = false := by decide
  have sent : ∀ reply ∈ (before.steps handler
      ([4, 5, 6].map fun event => .deliver 0 (.event event))).1,
      reply = .received (.send .sent) := by decide +kernel
  have once : Schedule 0 [4, 5, 6] true atOnce := .event (.event (.event (.ending .done)))
  have runs : Schedule 0 [4, 5, 6] true spread :=
    .event (.run _ (.errorsClosed (.event (.run _ (.event (.ending .done))))))
  have errorless : ∀ error, .errorSent error ∉ ofFeed 0 (start.history handler [.spawn 3]) := by
    intro error
    have only : ofFeed 0 (start.history handler [.spawn 3]) = [.spawned] := by decide +kernel
    rw [only]
    exact nofun
  have same := scheduling_is_immaterial handler "htlcs" 0 1 [.spawn 3] unstopped 0 _ rfl rfl
    errorless [4, 5, 6] sent true
  refine ⟨unstopped, rfl, sent, once, runs, by decide +kernel, fun steps member => ?_⟩
  rcases List.mem_cons.mp member with rfl | member
  · exact same atOnce once
  · rw [List.mem_singleton.mp member]
    exact same spread runs

end Session

end LightningMetrics.Streaming
