import LightningMetrics.MonitorError
import LightningMetrics.Streaming.Mailbox

/-!
A feed is one subscription: a channel for events, one for the error that ends them, and a context
whose cancellation tears the subscription down. A task consumes it, one look at a channel after
the other. It looks for an error first, then for the signal to quit, then for an event. Once the
error channel is closed it only waits for events and the signal.

A look is the smallest step, so that a producer may act between any two of them; `pass` and `run`
are what a task does while nobody else acts.
-/

set_option autoImplicit false

namespace LightningMetrics.Streaming

/-- Why a task ended. -/
inductive Exit where
  | streamError (error : NodeError)
  | handlerError (error : MonitorError)
  /-- The event channel was closed and empty. -/
  | streamEnded
  | quit
  | panicked
deriving DecidableEq, Repr

/-- What a task of the stream `name` hands to the sink when it ends. -/
def Exit.report? (name : String) : Exit → Option MonitorError
  | streamError error => some (.streamExited name error)
  | handlerError error => some error
  | streamEnded => some (.streamTerminated name)
  | quit => none
  | panicked => none

/-- What a live task looks at next. -/
inductive Place where
  | errors
  | quit
  | events
  /-- No events can come, so the cause may have arrived since the last look at the errors. -/
  | lastErrors
  /-- The error channel is closed. -/
  | draining
deriving DecidableEq, Repr

inductive Life where
  /-- No task was ever started for the feed. -/
  | unattended
  | live (place : Place)
  | ended (exit : Exit)
deriving DecidableEq, Repr

structure Feed (α : Type) where
  events : Mailbox α
  errors : Mailbox NodeError
  cancelled : Bool
  life : Life
deriving DecidableEq, Repr

/-- What an event handler answers. -/
inductive Verdict where
  | accept
  | fail (error : MonitorError)
  | panic
deriving DecidableEq, Repr

/-- How a worker handles events of type `α` with a state of type `σ`. -/
structure Handler (α σ : Type) where
  /-- Run when a task starts. -/
  begin : σ → σ
  handle : σ → α → σ × Verdict

/-- The two branches that a task in its draining phase waits for. -/
inductive Branch where
  | events
  | quit
deriving DecidableEq, Repr

namespace Feed

variable {α σ : Type}

/-- A new subscription with room for `capacity` events and one error. -/
def opened (capacity : Nat) : Feed α :=
  ⟨.opened capacity, .opened 1, false, .unattended⟩

def isLive (feed : Feed α) : Bool :=
  match feed.life with
  | .live _ => true
  | _ => false

/-- Starts a task on the feed. -/
def attend (feed : Feed α) : Feed α :=
  { feed with life := .live .errors }

/-- Turns the feed away: its context is cancelled and its channels have no receiver. -/
def reject (feed : Feed α) : Feed α :=
  { feed with
    events := feed.events.closeReceiver
    errors := feed.errors.closeReceiver
    cancelled := true }

/-- Ends the task. Its receivers go with it, and the context is cancelled for whatever reason. -/
def finish (feed : Feed α) (exit : Exit) : Feed α :=
  { feed with
    events := feed.events.closeReceiver
    errors := feed.errors.closeReceiver
    cancelled := true
    life := .ended exit }

def moveTo (feed : Feed α) (place : Place) : Feed α :=
  { feed with life := .live place }

/-- Takes one event out of the channel, of which `rest` remains, and goes on at `next` unless the
handler fails or panics. -/
def handleEvent (handler : Handler α σ) (next : Place) (feed : Feed α) (state : σ) (event : α)
    (rest : List α) : Feed α × σ :=
  let taken := { feed with events := { feed.events with queue := rest } }
  let (state, verdict) := handler.handle state event
  match verdict with
  | .accept => (taken.moveTo next, state)
  | .fail error => (taken.finish (.handlerError error), state)
  | .panic => (taken.finish .panicked, state)

/-- One look of a draining task at its events. With none there it waits. -/
def drainEvents (handler : Handler α σ) (feed : Feed α) (state : σ) : Feed α × σ :=
  match feed.events.receive with
  | .item event rest => handleEvent handler .draining feed state event rest
  | .empty => (feed, state)
  | .closed => (feed.finish .streamEnded, state)

/-- One look of a draining task. Of two branches that are both ready, `first` is taken. -/
def drain (handler : Handler α σ) (quit : Bool) (first : Branch) (feed : Feed α) (state : σ) :
    Feed α × σ :=
  match first with
  | .quit => if quit then (feed.finish .quit, state) else drainEvents handler feed state
  | .events =>
      match feed.events.receive with
      | .empty => if quit then (feed.finish .quit, state) else (feed, state)
      | _ => drainEvents handler feed state

/-- One look of the task, if the feed has a live one. -/
def look (handler : Handler α σ) (quit : Bool) (first : Branch) (feed : Feed α)
    (state : σ) : Feed α × σ :=
  match feed.life with
  | .live .errors =>
      match feed.errors.receive with
      | .item error _ => (feed.finish (.streamError error), state)
      | .empty => (feed.moveTo .quit, state)
      | .closed => (feed.moveTo .draining, state)
  | .live .quit =>
      if quit then (feed.finish .quit, state) else (feed.moveTo .events, state)
  | .live .events =>
      match feed.events.receive with
      | .item event rest => handleEvent handler .errors feed state event rest
      | .empty => (feed.moveTo .errors, state)
      | .closed => (feed.moveTo .lastErrors, state)
  | .live .lastErrors =>
      match feed.errors.receive with
      | .item error _ => (feed.finish (.streamError error), state)
      | _ => (feed.finish .streamEnded, state)
  | .live .draining => drain handler quit first feed state
  | _ => (feed, state)

/-- Is the task in the middle of a pass over its branches? -/
def inPass (feed : Feed α) : Bool :=
  match feed.life with
  | .live .quit => true
  | .live .events => true
  | .live .lastErrors => true
  | _ => false

/-- At most `count` looks, up to the end of the pass. -/
def looks (handler : Handler α σ) (quit : Bool) (first : Branch) :
    Nat → Feed α → σ → Feed α × σ
  | 0, feed, state => (feed, state)
  | count + 1, feed, state =>
      let next := look handler quit first feed state
      if next.1.inPass then looks handler quit first count next.1 next.2 else next

/-- One pass of the task over its branches, with nothing happening in between. -/
def pass (handler : Handler α σ) (quit : Bool) (first : Branch) (feed : Feed α) (state : σ) :
    Feed α × σ :=
  looks handler quit first 4 feed state

/-- What a task still has to do at most: take each event, notice that the error channel is closed,
and end. -/
def work (feed : Feed α) : Nat :=
  match feed.life with
  | .live .draining => 2 * feed.events.queue.length + 1
  | .live _ => 2 * feed.events.queue.length + 2
  | _ => 0

/-- Runs the task until a pass achieves nothing. Each pass has a choice of its own between branches
that are both ready, and falls on the signal where no choices are left. -/
def run (handler : Handler α σ) (quit : Bool) (choices : List Branch) (feed : Feed α) (state : σ) :
    Feed α × σ :=
  let next := pass handler quit (choices.head?.getD .quit) feed state
  if _ : next.1.work < feed.work then run handler quit choices.tail next.1 next.2 else next
termination_by feed.work

@[simp] theorem cancelled_finish (feed : Feed α) (exit : Exit) :
    (feed.finish exit).cancelled = true := rfl

@[simp] theorem life_finish (feed : Feed α) (exit : Exit) :
    (feed.finish exit).life = .ended exit := rfl

/-- A feed without a live task is left alone. -/
theorem look_of_not_live (handler : Handler α σ) (quit : Bool) (first : Branch) (feed : Feed α)
    (state : σ) (rests : feed.isLive = false) :
    look handler quit first feed state = (feed, state) := by
  unfold look
  unfold isLive at rests
  split <;> simp_all

end Feed

end LightningMetrics.Streaming
