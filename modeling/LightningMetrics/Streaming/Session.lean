import LightningMetrics.Streaming.Worker

set_option autoImplicit false

namespace LightningMetrics.Streaming

/-- One step of the surroundings. Feeds are numbered in the order they were opened. -/
inductive Step (α : Type) where
  /-- Opens a feed with this capacity and hands it to the worker. -/
  | spawn (capacity : Nat)
  | deliver (feed : Nat) (delivery : Delivery α)
  | cancel (feed : Nat)
  /-- Lets the task run, with a choice for each of its turns. -/
  | run (choices : List Branch)
  | stop (choices : List Branch)
  /-- Takes the waiting errors out of the sink. -/
  | drainSink
  | closeSink
deriving DecidableEq, Repr

inductive Reply where
  | done
  | failed (error : MonitorError)
  | received (receipt : Receipt)
  /-- The waiting errors, or nothing once the sink is closed. -/
  | errors (waiting : Option (List MonitorError))
  | noFeed
deriving DecidableEq, Repr

structure Session (α σ : Type) where
  worker : Worker α σ
  sink : Sink MonitorError

namespace Session

variable {α σ : Type}

def create (name : String) (state : σ) (sinkCapacity : Nat) : Session α σ :=
  ⟨.create name state, .opened sinkCapacity⟩

/-- Hands an opened feed to the worker. -/
def spawn (handler : Handler α σ) (feed : Feed α) (session : Session α σ) :
    Except MonitorError Unit × Session α σ :=
  let (result, worker) := session.worker.spawn handler feed
  (result, { session with worker })

def run (handler : Handler α σ) (choices : List Branch) (session : Session α σ) : Session α σ :=
  let (worker, sink) := session.worker.run handler choices session.sink
  ⟨worker, sink⟩

def stop (handler : Handler α σ) (choices : List Branch) (session : Session α σ) : Session α σ :=
  let (worker, sink) := session.worker.stop handler choices session.sink
  ⟨worker, sink⟩

/-- The waiting errors, or nothing once the sink is closed. -/
def drainSink (session : Session α σ) : Option (List MonitorError) × Session α σ :=
  if session.sink.receiverOpen then
    let (waiting, sink) := Sink.drain session.sink
    (some waiting, { session with sink })
  else (none, session)

def replyOf (result : Except MonitorError Unit) : Reply :=
  match result with
  | .ok _ => .done
  | .error error => .failed error

def step (handler : Handler α σ) (session : Session α σ) : Step α → Reply × Session α σ
  | .spawn capacity =>
      let (result, next) := session.spawn handler (.opened capacity)
      (replyOf result, next)
  | .deliver feed delivery =>
      match session.worker.deliver? feed delivery with
      | none => (.noFeed, session)
      | some (receipt, worker) => (.received receipt, { session with worker })
  | .cancel feed => (.done, { session with worker := session.worker.cancel feed })
  | .run choices => (.done, session.run handler choices)
  | .stop choices => (.done, session.stop handler choices)
  | .drainSink =>
      let (waiting, next) := session.drainSink
      (.errors waiting, next)
  | .closeSink => (.done, { session with sink := session.sink.closeReceiver })

/-- The answers to a list of steps, and where they lead. -/
def steps (handler : Handler α σ) (session : Session α σ) :
    List (Step α) → List Reply × Session α σ
  | [] => ([], session)
  | step :: rest =>
      let (reply, next) := session.step handler step
      let (replies, final) := next.steps handler rest
      (reply :: replies, final)

end Session

end LightningMetrics.Streaming
