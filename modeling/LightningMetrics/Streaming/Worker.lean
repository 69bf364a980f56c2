import LightningMetrics.Streaming.Feed

/-!
A worker consumes one feed at a time with one task. It keeps every feed it was ever handed, so
that what became of each can be told. A second feed is turned away until the worker is stopped,
also when the task of the first has ended by itself. Stopping is for good: a task started later
ends at its first run.
-/

set_option autoImplicit false

namespace LightningMetrics.Streaming

structure Worker (α σ : Type) where
  name : String
  /-- Set by the first stop and never cleared. -/
  quit : Bool
  /-- The feed whose task was started and not yet waited for. -/
  started : Option Nat
  /-- Every feed, in the order they were handed over. -/
  feeds : List (Feed α)
  state : σ

namespace Worker

variable {α σ : Type}

def create (name : String) (state : σ) : Worker α σ :=
  ⟨name, false, none, [], state⟩

/-- Starts a task on a feed, or turns the feed away. -/
def spawn (handler : Handler α σ) (feed : Feed α) (worker : Worker α σ) :
    Except MonitorError Unit × Worker α σ :=
  match worker.started with
  | some _ =>
      (.error (.alreadyStarted worker.name),
        { worker with feeds := worker.feeds ++ [feed.reject] })
  | none =>
      (.ok (),
        { worker with
          started := some worker.feeds.length
          feeds := worker.feeds ++ [feed.attend]
          state := handler.begin worker.state })

/-- The feed of the started task, with its number. -/
def current? (worker : Worker α σ) : Option (Nat × Feed α) := do
  let number ← worker.started
  let feed ← worker.feeds[number]?
  return (number, feed)

/-- Is there a task that has not ended? -/
def isLive (worker : Worker α σ) : Bool :=
  match worker.current? with
  | some (_, feed) => feed.isLive
  | none => false

/-- Is it this feed that a task is consuming? -/
def isConsuming (worker : Worker α σ) (number : Nat) : Bool :=
  worker.isLive && worker.started == some number

/-- What a task that is now at `life` hands to the sink. -/
def reportExit (name : String) (life : Life) (sink : Sink MonitorError) : Sink MonitorError :=
  match life with
  | .ended exit =>
      match exit.report? name with
      | some error => Sink.report sink error
      | none => sink
  | _ => sink

/-- Runs the task until it waits or has ended. Of two branches that a draining task finds ready, it
takes the one of its next choice. -/
def run (handler : Handler α σ) (choices : List Branch) (worker : Worker α σ)
    (sink : Sink MonitorError) : Worker α σ × Sink MonitorError :=
  match worker.current? with
  | none => (worker, sink)
  | some (number, feed) =>
      if feed.isLive then
        let (next, state) := feed.run handler worker.quit choices worker.state
        ({ worker with feeds := worker.feeds.set number next, state },
          reportExit worker.name next.life sink)
      else (worker, sink)

/-- Gives the signal to quit. -/
def signal (worker : Worker α σ) : Worker α σ :=
  { worker with quit := true }

/-- Lets go of a task that has ended. -/
def release (worker : Worker α σ) : Worker α σ :=
  { worker with started := none }

/-- Gives the signal, waits for the task, and lets go of it. -/
def stop (handler : Handler α σ) (choices : List Branch) (worker : Worker α σ)
    (sink : Sink MonitorError) : Worker α σ × Sink MonitorError :=
  let (stopped, sink) := worker.signal.run handler choices sink
  (stopped.release, sink)

end Worker

/-- What a producer does to its feed. -/
inductive Delivery (α : Type) where
  | event (value : α)
  | error (error : NodeError)
  | closeEvents
  | closeErrors
deriving DecidableEq, Repr

/-- What the producer is told. -/
inductive Receipt where
  | send (result : SendResult)
  | wasOpen (answer : Bool)
deriving DecidableEq, Repr

/-- Is there something new for a task that waits on the feed? -/
def Receipt.isNews : Receipt → Bool
  | send result => result == .sent
  | wasOpen answer => answer

namespace Feed

variable {α : Type}

def deliver (delivery : Delivery α) (feed : Feed α) : Receipt × Feed α :=
  match delivery with
  | .event value =>
      let (result, events) := feed.events.send value
      (.send result, { feed with events })
  | .error error =>
      let (result, errors) := feed.errors.send error
      (.send result, { feed with errors })
  | .closeEvents =>
      let (answer, events) := feed.events.closeSender
      (.wasOpen answer, { feed with events })
  | .closeErrors =>
      let (answer, errors) := feed.errors.closeSender
      (.wasOpen answer, { feed with errors })

def cancel (feed : Feed α) : Feed α :=
  { feed with cancelled := true }

end Feed

namespace Worker

variable {α σ : Type}

/-- Delivers to a feed; nothing if there is no such feed. -/
def deliver? (worker : Worker α σ) (number : Nat) (delivery : Delivery α) :
    Option (Receipt × Worker α σ) :=
  worker.feeds[number]?.map fun feed =>
    let (receipt, next) := feed.deliver delivery
    (receipt, { worker with feeds := worker.feeds.set number next })

/-- Cancels the context of a feed from outside. -/
def cancel (worker : Worker α σ) (number : Nat) : Worker α σ :=
  { worker with feeds := worker.feeds.modify number Feed.cancel }

/-- Has the context of each feed been cancelled? -/
def cancelled (worker : Worker α σ) : List Bool :=
  worker.feeds.map Feed.cancelled

end Worker

end LightningMetrics.Streaming
