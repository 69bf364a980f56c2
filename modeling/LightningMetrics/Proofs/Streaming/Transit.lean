import LightningMetrics.Proofs.Streaming.Passes
import LightningMetrics.Streaming.Pump

set_option autoImplicit false

namespace LightningMetrics.Streaming

variable {ω α : Type} {convert : ω → Except NodeError α} {pump : Pump ω α} {feed : Feed α}
  {todo : List α} {failure : Option NodeError}

/-- A task is there to take what the channels bring, and nobody has cancelled the context. -/
structure Feed.Takes (feed : Feed α) : Prop where
  uncancelled : feed.cancelled = false
  events : feed.events.receiverOpen = true
  errors : feed.errors.receiverOpen = true
  room : feed.errors.capacity = 1

/-- The producer has closed neither channel and sent no error. -/
structure Feed.Upstream (feed : Feed α) : Prop where
  events : feed.events.senderOpen = true
  errors : feed.errors.senderOpen = true
  calm : feed.errors.queue = []

namespace Pump

/-- The producer and the channels carry the events `todo`, and after them `failure`. A failure is
sent before the error channel is closed, and this one is closed before the event channel. -/
inductive Carries (convert : ω → Except NodeError α) (pump : Pump ω α) (feed : Feed α) :
    List α → Option NodeError → Prop where
  | pulling (phase : pump.phase = .pulling) (upstream : feed.Upstream) :
      pump.Carries convert feed (feed.events.queue ++ (delivered convert pump.script).1)
        (delivered convert pump.script).2
  | sending {event : α} (phase : pump.phase = .sending event) (upstream : feed.Upstream) :
      pump.Carries convert feed (feed.events.queue ++ event :: (delivered convert pump.script).1)
        (delivered convert pump.script).2
  | failing {error : NodeError} (phase : pump.phase = .failing error) (upstream : feed.Upstream) :
      pump.Carries convert feed feed.events.queue (some error)
  | closingErrors {failure : Option NodeError} (phase : pump.phase = .closingErrors)
      (pending : feed.errors.queue = failure.toList) (errors : feed.errors.senderOpen = true)
      (events : feed.events.senderOpen = true) :
      pump.Carries convert feed feed.events.queue failure
  | closingEvents {failure : Option NodeError} (phase : pump.phase = .closingEvents)
      (pending : feed.errors.queue = failure.toList) (errors : feed.errors.senderOpen = false)
      (events : feed.events.senderOpen = true) :
      pump.Carries convert feed feed.events.queue failure
  | gone {failure : Option NodeError} (phase : pump.phase = .gone)
      (pending : feed.errors.queue = failure.toList) (errors : feed.errors.senderOpen = false)
      (events : feed.events.senderOpen = false) :
      pump.Carries convert feed feed.events.queue failure

theorem carries_start (convert : ω → Except NodeError α) (script : List (StreamItem ω))
    (staysOpen : Bool) (capacity : Nat) :
    (start script staysOpen).Carries convert (Feed.opened capacity).attend
      (delivered convert script).1 (delivered convert script).2 :=
  .pulling rfl ⟨rfl, rfl, rfl⟩

theorem Carries.of_same {next : Feed α} (carries : pump.Carries convert feed todo failure)
    (events : next.events = feed.events) (errors : next.errors = feed.errors) :
    pump.Carries convert next todo failure := by
  obtain ⟨_, _, cancelled, life⟩ := next
  dsimp only at events errors
  subst events errors
  cases carries with
  | pulling phase upstream =>
      exact .pulling phase ⟨upstream.events, upstream.errors, upstream.calm⟩
  | sending phase upstream =>
      exact .sending phase ⟨upstream.events, upstream.errors, upstream.calm⟩
  | failing phase upstream =>
      exact .failing phase ⟨upstream.events, upstream.errors, upstream.calm⟩
  | closingErrors phase pending errors events => exact .closingErrors phase pending errors events
  | closingEvents phase pending errors events => exact .closingEvents phase pending errors events
  | gone phase pending errors events => exact .gone phase pending errors events

/-- Either the producer is still at work on the stream, or what is left waits in the channels. -/
theorem Carries.upstream_or_pending (carries : pump.Carries convert feed todo failure) :
    feed.Upstream ∨ feed.errors.queue = failure.toList ∧ todo = feed.events.queue := by
  cases carries with
  | pulling _ upstream => exact .inl upstream
  | sending _ upstream => exact .inl upstream
  | failing _ upstream => exact .inl upstream
  | closingErrors _ pending _ _ => exact .inr ⟨pending, rfl⟩
  | closingEvents _ pending _ _ => exact .inr ⟨pending, rfl⟩
  | gone _ pending _ _ => exact .inr ⟨pending, rfl⟩

theorem Carries.of_error {error : NodeError} {rest : List NodeError}
    (carries : pump.Carries convert feed todo failure)
    (found : feed.errors.queue = error :: rest) : failure = some error := by
  rcases carries.upstream_or_pending with upstream | ⟨pending, _⟩
  · rw [upstream.calm] at found
    cases found
  · rw [found] at pending
    cases failure with
    | none => cases pending
    | some cause =>
        cases pending
        rfl

/-- Once the error channel is closed the failure waits in it, if there was one. -/
theorem Carries.of_errorsClosed (carries : pump.Carries convert feed todo failure)
    (closed : feed.errors.senderOpen = false) :
    feed.errors.queue = failure.toList ∧ todo = feed.events.queue := by
  rcases carries.upstream_or_pending with upstream | left
  · rw [upstream.errors] at closed
    cases closed
  · exact left

theorem Carries.of_eventsClosed (carries : pump.Carries convert feed todo failure)
    (closed : feed.events.senderOpen = false) :
    pump.phase = .gone ∧ feed.errors.senderOpen = false := by
  cases carries with
  | pulling _ upstream => rw [upstream.events] at closed; cases closed
  | sending _ upstream => rw [upstream.events] at closed; cases closed
  | failing _ upstream => rw [upstream.events] at closed; cases closed
  | closingErrors _ _ _ events => rw [events] at closed; cases closed
  | closingEvents _ _ _ events => rw [events] at closed; cases closed
  | gone phase _ errors _ => exact ⟨phase, errors⟩

theorem Carries.take {event : α} {rest : List α}
    (carries : pump.Carries convert feed todo failure)
    (found : feed.events.queue = event :: rest) :
    ∃ later, todo = event :: later ∧ pump.Carries convert (feed.taking rest) later failure := by
  cases carries with
  | pulling phase upstream =>
      refine ⟨rest ++ (delivered convert pump.script).1, by rw [found]; rfl, ?_⟩
      exact .pulling phase ⟨upstream.events, upstream.errors, upstream.calm⟩
  | @sending next phase upstream =>
      refine ⟨rest ++ next :: (delivered convert pump.script).1, by rw [found]; rfl, ?_⟩
      exact .sending phase ⟨upstream.events, upstream.errors, upstream.calm⟩
  | failing phase upstream =>
      exact ⟨rest, found, .failing phase ⟨upstream.events, upstream.errors, upstream.calm⟩⟩
  | closingErrors phase pending errors events =>
      exact ⟨rest, found, .closingErrors phase pending errors events⟩
  | closingEvents phase pending errors events =>
      exact ⟨rest, found, .closingEvents phase pending errors events⟩
  | gone phase pending errors events => exact ⟨rest, found, .gone phase pending errors events⟩

theorem carries_pull (phase : pump.phase = .pulling) (upstream : feed.Upstream) :
    (pump.pull convert).Carries convert feed
      (feed.events.queue ++ (delivered convert pump.script).1)
      (delivered convert pump.script).2 := by
  unfold pull
  cases script : pump.script with
  | nil =>
      cases pump.staysOpen with
      | true =>
          have carries : pump.Carries convert feed _ _ := .pulling phase upstream
          rw [script] at carries
          exact carries
      | false =>
          have todo : feed.events.queue ++ (delivered convert ([] : List (StreamItem ω))).1 =
              feed.events.queue := List.append_nil _
          rw [todo]
          exact .closingErrors rfl upstream.calm upstream.errors upstream.events
  | cons item rest =>
      cases converted : convertItem convert item with
      | ok event =>
          simp only [delivered, converted]
          exact .sending rfl upstream
      | error error =>
          simp only [delivered, converted, List.append_nil]
          exact .failing rfl upstream

theorem Carries.step (carries : pump.Carries convert feed todo failure) (takes : feed.Takes)
    (heeded : Bool) :
    (pump.step convert heeded feed).1.Carries convert (pump.step convert heeded feed).2
      todo failure := by
  cases carries with
  | pulling phase upstream =>
      simp only [Pump.step, phase, takes.uncancelled, Bool.false_and, Bool.false_eq_true,
        ↓reduceIte]
      exact carries_pull phase upstream
  | @sending event phase upstream =>
      have sends := Mailbox.send_of_open upstream.events takes.events event
      by_cases room : feed.events.queue.length < feed.events.capacity
      · rw [if_pos room] at sends
        simp only [Pump.step, phase, sends]
        have carries : ({ pump with phase := .pulling } : Pump ω α).Carries convert
            { feed with events := { feed.events with queue := feed.events.queue ++ [event] } }
            _ _ := .pulling rfl ⟨upstream.events, upstream.errors, upstream.calm⟩
        simpa only [List.append_assoc, List.singleton_append] using carries
      · rw [if_neg room] at sends
        simp only [Pump.step, phase, sends]
        exact .sending phase upstream
  | @failing error phase upstream =>
      have room : feed.errors.queue.length < feed.errors.capacity := by
        rw [upstream.calm, takes.room]
        exact Nat.zero_lt_one
      have sends := Mailbox.send_of_open upstream.errors takes.errors error
      rw [if_pos room, upstream.calm] at sends
      simp only [Pump.step, phase, sends]
      exact .closingErrors rfl rfl upstream.errors upstream.events
  | closingErrors phase pending errors events =>
      simp only [Pump.step, phase]
      exact .closingEvents rfl pending rfl events
  | closingEvents phase pending errors events =>
      simp only [Pump.step, phase]
      exact .gone rfl pending errors rfl
  | gone phase pending errors events =>
      simp only [Pump.step, phase]
      exact .gone phase pending errors events

/-- A step of the producer leaves alone what belongs to the task. -/
theorem step_frame (convert : ω → Except NodeError α) (heeded : Bool) (pump : Pump ω α)
    (feed : Feed α) :
    (pump.step convert heeded feed).2.life = feed.life ∧
      ((pump.step convert heeded feed).2.Takes ↔ feed.Takes) := by
  have kept {next : Feed α} (cancelled : next.cancelled = feed.cancelled)
      (events : next.events.receiverOpen = feed.events.receiverOpen)
      (errors : next.errors.receiverOpen = feed.errors.receiverOpen)
      (room : next.errors.capacity = feed.errors.capacity) : next.Takes ↔ feed.Takes := by
    constructor
    · intro takes
      exact ⟨cancelled ▸ takes.uncancelled, events ▸ takes.events, errors ▸ takes.errors,
        room ▸ takes.room⟩
    · intro takes
      exact ⟨cancelled.trans takes.uncancelled, events.trans takes.events,
        errors.trans takes.errors, room.trans takes.room⟩
  unfold step
  cases pump.phase with
  | pulling => cases feed.cancelled && heeded <;> exact ⟨rfl, Iff.rfl⟩
  | sending event =>
      dsimp only
      rcases feed.events.send_cases event with ⟨_, _, _, sent⟩ | ⟨result, _, refused⟩
      · rw [sent]
        exact ⟨rfl, kept rfl rfl rfl rfl⟩
      · rw [refused]
        cases result <;> exact ⟨rfl, kept rfl rfl rfl rfl⟩
  | failing error =>
      dsimp only
      rcases feed.errors.send_cases error with ⟨_, _, _, sent⟩ | ⟨result, _, refused⟩
      · rw [sent]
        exact ⟨rfl, kept rfl rfl rfl rfl⟩
      · rw [refused]
        cases result <;> exact ⟨rfl, kept rfl rfl rfl rfl⟩
  | closingErrors => exact ⟨rfl, kept rfl rfl rfl rfl⟩
  | closingEvents => exact ⟨rfl, kept rfl rfl rfl rfl⟩
  | gone => exact ⟨rfl, Iff.rfl⟩

theorem Carries.errors_step (carries : pump.Carries convert feed todo failure)
    (closed : feed.errors.senderOpen = false) (heeded : Bool) :
    (pump.step convert heeded feed).2.errors = feed.errors := by
  cases carries with
  | pulling _ upstream => rw [upstream.errors] at closed; cases closed
  | sending _ upstream => rw [upstream.errors] at closed; cases closed
  | failing _ upstream => rw [upstream.errors] at closed; cases closed
  | closingErrors _ _ errors _ => rw [errors] at closed; cases closed
  | closingEvents phase _ _ _ => simp only [Pump.step, phase]
  | gone phase _ _ _ => simp only [Pump.step, phase]

end Pump

end LightningMetrics.Streaming
