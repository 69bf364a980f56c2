import LightningMetrics.Proofs.Streaming.Recording
import LightningMetrics.Proofs.Streaming.Transit
import LightningMetrics.Streaming.Worker

set_option autoImplicit false

namespace LightningMetrics.Streaming

variable {ω α σ : Type}

/-- A producer, the feed between it and its task, and the state of the handler with its notes. -/
structure Relay (ω α σ : Type) where
  pump : Pump ω α
  feed : Feed α
  state : σ × List (α × Verdict)

/-- Whose turn it is. -/
inductive Turn where
  | pump (heeded : Bool)
  | task (first : Branch)
deriving DecidableEq, Repr

namespace Relay

/-- A subscription to a stream that brings `script`, with a task that has just been started. -/
def start (script : List (StreamItem ω)) (staysOpen : Bool) (capacity : Nat) (state : σ) :
    Relay ω α σ :=
  ⟨.start script staysOpen, (Feed.opened capacity).attend, (state, [])⟩

/-- One step of the producer, or one look of the task. Nobody gives the signal to quit. -/
def turn (convert : ω → Except NodeError α) (handler : Handler α σ) (relay : Relay ω α σ) :
    Turn → Relay ω α σ
  | .pump heeded =>
      let (pump, feed) := relay.pump.step convert heeded relay.feed
      { relay with pump, feed }
  | .task first =>
      let (feed, state) := relay.feed.look handler.recording false first relay.state
      { relay with feed, state }

def run (convert : ω → Except NodeError α) (handler : Handler α σ) (relay : Relay ω α σ)
    (turns : List Turn) : Relay ω α σ :=
  turns.foldl (turn convert handler) relay

/-- The events that the task has handled so far. -/
def handled (relay : Relay ω α σ) : List α :=
  relay.state.2.map Prod.fst

end Relay

/-- What is known of the channels from where the task is. -/
def Feed.Placed (feed : Feed α) : Place → Prop
  | .lastErrors => feed.events.queue = [] ∧ feed.events.senderOpen = false
  | .draining => feed.errors.queue = [] ∧ feed.errors.senderOpen = false
  | _ => True

namespace Relay

variable {convert : ω → Except NodeError α} {handler : Handler α σ} {relay : Relay ω α σ}
  {events : List α} {failure : Option NodeError}

/-- The exit that a stream with this failure leads to. -/
def exitOf : Option NodeError → Exit
  | some error => .streamError error
  | none => .streamEnded

/-- While the task is live, what it has handled and what is still on its way make up `events`. -/
inductive Sound (convert : ω → Except NodeError α) (events : List α)
    (failure : Option NodeError) (relay : Relay ω α σ) : Prop where
  | flowing {todo : List α} {place : Place} (life : relay.feed.life = .live place)
      (takes : relay.feed.Takes) (placed : relay.feed.Placed place)
      (carries : relay.pump.Carries convert relay.feed todo failure)
      (order : relay.handled ++ todo = events) : Sound convert events failure relay
  | finished (life : relay.feed.life = .ended (exitOf failure)) (order : relay.handled <+: events)
      (clean : failure = none → relay.handled = events) : Sound convert events failure relay

theorem sound_start (convert : ω → Except NodeError α) (script : List (StreamItem ω))
    (staysOpen : Bool) (capacity : Nat) (state : σ) :
    Sound convert (delivered convert script).1 (delivered convert script).2
      (start script staysOpen capacity state) :=
  .flowing rfl ⟨rfl, rfl, rfl, rfl⟩ trivial (Pump.carries_start convert script staysOpen capacity)
    rfl

theorem Sound.pump (sound : relay.Sound convert events failure) (handler : Handler α σ)
    (heeded : Bool) : (relay.turn convert handler (.pump heeded)).Sound convert events failure := by
  obtain ⟨life, takes⟩ := Pump.step_frame convert heeded relay.pump relay.feed
  cases sound with
  | finished ended order clean => exact .finished (life.trans ended) order clean
  | @flowing todo place live taking placed carries order =>
      refine .flowing (life.trans live) (takes.mpr taking) ?_ (carries.step taking heeded) order
      cases place with
      -- The task acts here on what it saw before: the channel concerned must not change any more.
      | lastErrors =>
          obtain ⟨gone, _⟩ := carries.of_eventsClosed placed.2
          have still : (relay.pump.step convert heeded relay.feed).2 = relay.feed := by
            simp only [Pump.step, gone]
          change Feed.Placed (relay.pump.step convert heeded relay.feed).2 .lastErrors
          rw [still]
          exact placed
      | draining =>
          change Feed.Placed (relay.pump.step convert heeded relay.feed).2 .draining
          unfold Feed.Placed
          rw [carries.errors_step placed.2 heeded]
          exact placed
      | errors => trivial
      | quit => trivial
      | events => trivial

section Look

variable {pump : Pump ω α} {feed : Feed α} {state : σ} {notes : List (α × Verdict)}
  {todo : List α}

theorem sound_moveTo (takes : feed.Takes) (carries : pump.Carries convert feed todo failure)
    (order : notes.map Prod.fst ++ todo = events) {place : Place}
    (placed : (feed.moveTo place).Placed place) :
    Sound convert events failure ⟨pump, feed.moveTo place, (state, notes)⟩ :=
  .flowing rfl ⟨takes.uncancelled, takes.events, takes.errors, takes.room⟩ placed
    (carries.of_same rfl rfl) order

theorem sound_finish (order : notes.map Prod.fst ++ todo = events)
    (clean : failure = none → todo = []) :
    Sound convert events failure ⟨pump, feed.finish (exitOf failure), (state, notes)⟩ := by
  refine .finished rfl ⟨todo, order⟩ fun free => ?_
  rw [← order, clean free, List.append_nil]
  rfl

theorem sound_handleEvent (accepts : ∀ state event, (handler.handle state event).2 = .accept)
    (takes : feed.Takes) (carries : pump.Carries convert feed todo failure)
    (order : notes.map Prod.fst ++ todo = events) {event : α} {rest : List α}
    (found : feed.events.queue = event :: rest) {next : Place}
    (placed : ((feed.taking rest).moveTo next).Placed next) :
    Sound convert events failure
      ⟨pump, (feed.handleEvent handler.recording next (state, notes) event rest).1,
        (feed.handleEvent handler.recording next (state, notes) event rest).2⟩ := by
  obtain ⟨later, rfl, carries'⟩ := carries.take found
  rw [Feed.handleEvent_recording, Feed.handleEvent_eq]
  simp only [accepts]
  have takes' : (feed.taking rest).Takes :=
    ⟨takes.uncancelled, takes.events, takes.errors, takes.room⟩
  refine sound_moveTo takes' carries' ?_ placed
  rw [List.map_append, List.append_assoc]
  exact order

/-- A task whose error channel is closed handles what is left and then ends. -/
theorem sound_drain (accepts : ∀ state event, (handler.handle state event).2 = .accept)
    (takes : feed.Takes) (carries : pump.Carries convert feed todo failure)
    (order : notes.map Prod.fst ++ todo = events) (life : feed.life = .live .draining)
    (placed : feed.Placed .draining) (first : Branch) :
    Sound convert events failure
      ⟨pump, (feed.drain handler.recording false first (state, notes)).1,
        (feed.drain handler.recording false first (state, notes)).2⟩ := by
  obtain ⟨pending, left⟩ := carries.of_errorsClosed placed.2
  have free : failure = none := by
    rw [placed.1] at pending
    cases failure with
    | none => rfl
    | some error => cases pending
  subst free
  have drains : Sound convert events none
      ⟨pump, (feed.drainEvents handler.recording (state, notes)).1,
        (feed.drainEvents handler.recording (state, notes)).2⟩ := by
    unfold Feed.drainEvents
    cases queue : feed.events.queue with
    | cons event rest =>
        simp only [Mailbox.receive, queue]
        exact sound_handleEvent accepts takes carries order queue placed
    | nil =>
        cases sender : feed.events.senderOpen with
        | true =>
            simp only [Mailbox.receive, queue, sender, ↓reduceIte]
            exact .flowing life takes placed carries order
        | false =>
            simp only [Mailbox.receive, queue, sender, Bool.false_eq_true, ↓reduceIte]
            exact sound_finish order fun _ => left.trans queue
  unfold Feed.drain
  cases first with
  | quit => exact drains
  | events =>
      cases feed.events.receive with
      | item event rest => exact drains
      | closed => exact drains
      | empty => exact .flowing life takes placed carries order

/-- A look of the task handles the next event, or ends the task for the right reason, or only
moves it on. -/
theorem Sound.task (sound : relay.Sound convert events failure)
    (accepts : ∀ state event, (handler.handle state event).2 = .accept) (first : Branch) :
    (relay.turn convert handler (.task first)).Sound convert events failure := by
  obtain ⟨pump, feed, state, notes⟩ := relay
  cases sound with
  | finished life order clean =>
      have rests : feed.isLive = false := Feed.isLive_of_ended life
      simp only [turn, Feed.look_of_not_live _ _ _ _ _ rests]
      exact .finished life order clean
  | @flowing todo place life takes placed carries order =>
      dsimp only at life takes placed carries
      change notes.map Prod.fst ++ todo = events at order
      unfold turn Feed.look
      simp only [life]
      cases place with
      | errors =>
          cases queue : feed.errors.queue with
          | cons error rest =>
              simp only [Mailbox.receive, queue]
              cases carries.of_error queue
              exact sound_finish order (by simp)
          | nil =>
              cases sender : feed.errors.senderOpen with
              | true =>
                  simp only [Mailbox.receive, queue, sender, ↓reduceIte]
                  exact sound_moveTo takes carries order trivial
              | false =>
                  simp only [Mailbox.receive, queue, sender, Bool.false_eq_true, ↓reduceIte]
                  exact sound_moveTo takes carries order ⟨queue, sender⟩
      | quit =>
          simp only [Bool.false_eq_true, ↓reduceIte]
          exact sound_moveTo takes carries order trivial
      | events =>
          cases queue : feed.events.queue with
          | cons event rest =>
              simp only [Mailbox.receive, queue]
              exact sound_handleEvent accepts takes carries order queue trivial
          | nil =>
              cases sender : feed.events.senderOpen with
              | true =>
                  simp only [Mailbox.receive, queue, sender, ↓reduceIte]
                  exact sound_moveTo takes carries order trivial
              | false =>
                  simp only [Mailbox.receive, queue, sender, Bool.false_eq_true, ↓reduceIte]
                  exact sound_moveTo takes carries order ⟨queue, sender⟩
      | lastErrors =>
          -- The event channel is closed last, so a failure must be waiting by now.
          obtain ⟨empty, closed⟩ := placed
          obtain ⟨pending, left⟩ := carries.of_errorsClosed (carries.of_eventsClosed closed).2
          rw [empty] at left
          cases failure with
          | some error =>
              simp only [Mailbox.receive, pending, Option.toList]
              exact sound_finish order (by simp)
          | none =>
              simp only [Mailbox.receive, pending, Option.toList]
              cases feed.errors.senderOpen <;> exact sound_finish order fun _ => left
      | draining => exact sound_drain accepts takes carries order life placed first

end Look

/-- Whoever's turn it is, nothing is lost, doubled or put out of order. -/
theorem Sound.run (sound : relay.Sound convert events failure)
    (accepts : ∀ state event, (handler.handle state event).2 = .accept) (turns : List Turn) :
    (relay.run convert handler turns).Sound convert events failure := by
  induction turns generalizing relay with
  | nil => exact sound
  | cons turn rest ih =>
      apply ih
      cases turn with
      | pump heeded => exact sound.pump handler heeded
      | task first => exact sound.task accepts first

/-- From the stream to the sink, in any interleaving: what is handled is a prefix of the events
before the first failure. A task that ends has handled them all and reports the end of the stream
if there was no failure, and reports the first failure if there was one. -/
theorem stream_to_report (convert : ω → Except NodeError α) (handler : Handler α σ)
    (accepts : ∀ state event, (handler.handle state event).2 = .accept) (name : String)
    (script : List (StreamItem ω)) (staysOpen : Bool) (capacity : Nat) (state : σ)
    (turns : List Turn) :
    let relay := (start script staysOpen capacity state).run convert handler turns
    relay.handled <+: (delivered convert script).1 ∧
    ∀ exit, relay.feed.life = .ended exit →
      match (delivered convert script).2 with
      | none => relay.handled = (delivered convert script).1 ∧ exit = .streamEnded ∧
          ∀ sink, Worker.reportExit name relay.feed.life sink =
            Sink.report sink (.streamTerminated name)
      | some error => exit = .streamError error ∧
          ∀ sink, Worker.reportExit name relay.feed.life sink =
            Sink.report sink (.streamExited name error) := by
  intro relay
  have sound : relay.Sound convert (delivered convert script).1 (delivered convert script).2 :=
    (sound_start convert script staysOpen capacity state).run accepts turns
  generalize (delivered convert script).1 = events at sound ⊢
  generalize (delivered convert script).2 = failure at sound ⊢
  cases sound with
  | flowing life _ _ _ order =>
      refine ⟨⟨_, order⟩, fun exit ended => ?_⟩
      rw [life] at ended
      cases ended
  | finished life order clean =>
      refine ⟨order, fun exit ended => ?_⟩
      rw [life] at ended ⊢
      cases ended
      cases failure with
      | none => exact ⟨clean rfl, rfl, fun _ => rfl⟩
      | some error => exact ⟨rfl, fun _ => rfl⟩

/-- The stream breaks off while the task is between its looks at the errors and at the events: it
finds the event channel closed, and yet reports the failure. -/
theorem stream_to_report_of_late_failure :
    let handler : Handler Nat Unit := ⟨fun state => state, fun state _ => (state, .accept)⟩
    let before : List Turn := [.pump false, .pump false, .task .quit, .task .quit, .task .quit]
    let between : List Turn :=
      [.task .quit, .pump false, .pump false, .pump false, .pump false]
    let after : List Turn := [.task .quit, .task .quit, .task .quit]
    (∀ state event, (handler.handle state event).2 = .accept) ∧
    ∃ relay, relay = (start [.ok 1, .error "gone", .ok 2] false 1 ()).run .ok handler
      (before ++ between ++ after) ∧
    relay.feed.life = .ended (.streamError ⟨.stream, "gone"⟩) ∧ relay.handled <+: [1] ∧
    ∀ sink, Worker.reportExit "htlcs" relay.feed.life sink =
      Sink.report sink (.streamExited "htlcs" ⟨.stream, "gone"⟩) := by
  intro handler before between after
  have accepts : ∀ state event, (handler.handle state event).2 = .accept := fun _ _ => rfl
  refine ⟨accepts, _, rfl, ?_⟩
  obtain ⟨handled, relayed⟩ := stream_to_report .ok handler accepts "htlcs"
    [.ok 1, .error "gone", .ok 2] false 1 () (before ++ between ++ after)
  have ended : ((start [.ok 1, .error "gone", .ok 2] false 1 ()).run .ok handler
      (before ++ between ++ after)).feed.life = .ended (.streamError ⟨.stream, "gone"⟩) := by
    decide +kernel
  exact ⟨ended, handled, (relayed _ ended).2⟩

end Relay

end LightningMetrics.Streaming
