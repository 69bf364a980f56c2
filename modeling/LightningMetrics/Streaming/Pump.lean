import LightningMetrics.Streaming.Feed

/-!
The producer of a feed: it pulls messages from a stream of the node, converts them and sends them
on, until the stream ends or fails or the feed is cancelled. A failure is sent before either
channel is closed, and the error channel is closed before the event channel.

`Pump.step` is one action of the producer; `delivered` says what a whole script of messages
amounts to for a consumer that takes everything.
-/

set_option autoImplicit false

namespace LightningMetrics.Streaming

/-- What the node's stream brings: messages of type `ω` or a failure. -/
abbrev StreamItem (ω : Type) := Except String ω

/-- Converts one item. The text of a failure of the stream becomes a stream error. -/
def convertItem {ω α : Type} (convert : ω → Except NodeError α) :
    StreamItem ω → Except NodeError α
  | .ok message => convert message
  | .error status => .error ⟨.stream, status⟩

/-- The events before the first failure, and that failure. -/
def delivered {ω α : Type} (convert : ω → Except NodeError α) :
    List (StreamItem ω) → List α × Option NodeError
  | [] => ([], none)
  | item :: rest =>
      match convertItem convert item with
      | .error error => ([], some error)
      | .ok event =>
          let (events, error) := delivered convert rest
          (event :: events, error)

/-- What the producer does next. -/
inductive PumpPhase (α : Type) where
  | pulling
  /-- Waits for room for an event. -/
  | sending (event : α)
  /-- Waits for room for the error. -/
  | failing (error : NodeError)
  | closingErrors
  | closingEvents
  | gone
deriving DecidableEq, Repr

/-- A producer with the items its stream has yet to bring. After them the stream ends, or stays
open without bringing anything. -/
structure Pump (ω α : Type) where
  script : List (StreamItem ω)
  staysOpen : Bool
  phase : PumpPhase α

namespace Pump

variable {ω α : Type}

def start (script : List (StreamItem ω)) (staysOpen : Bool) : Pump ω α :=
  ⟨script, staysOpen, .pulling⟩

/-- Pulls the next item. -/
def pull (convert : ω → Except NodeError α) (pump : Pump ω α) : Pump ω α :=
  match pump.script with
  | [] => if pump.staysOpen then pump else { pump with phase := .closingErrors }
  | item :: rest =>
      match convertItem convert item with
      | .ok event => { pump with script := rest, phase := .sending event }
      | .error error => { pump with script := rest, phase := .failing error }

/-- One action. A producer that waits for room leaves everything as it is. Where a cancelled feed
and a new item are both there, `heeded` tells whether the cancellation is seen first. -/
def step (convert : ω → Except NodeError α) (heeded : Bool) (pump : Pump ω α) (feed : Feed α) :
    Pump ω α × Feed α :=
  match pump.phase with
  | .pulling =>
      if feed.cancelled && heeded then ({ pump with phase := .closingErrors }, feed)
      else (pump.pull convert, feed)
  | .sending event =>
      match feed.events.send event with
      | (.sent, events) => ({ pump with phase := .pulling }, { feed with events })
      | (.full, _) => (pump, feed)
      | _ => ({ pump with phase := .closingErrors }, feed)
  | .failing error =>
      match feed.errors.send error with
      | (.full, _) => (pump, feed)
      | (_, errors) => ({ pump with phase := .closingErrors }, { feed with errors })
  | .closingErrors =>
      ({ pump with phase := .closingEvents }, { feed with errors := feed.errors.closeSender.2 })
  | .closingEvents =>
      ({ pump with phase := .gone }, { feed with events := feed.events.closeSender.2 })
  | .gone => (pump, feed)

end Pump

end LightningMetrics.Streaming
