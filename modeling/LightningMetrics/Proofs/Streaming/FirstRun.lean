import LightningMetrics.Proofs.Streaming.Account
import LightningMetrics.Proofs.Streaming.Answers

set_option autoImplicit false

namespace LightningMetrics.Streaming

variable {α σ : Type}

namespace Feed

/-- A feed whose task has not looked at it yet, with these events in its channel. -/
def holding (capacity : Nat) (events : List α) : Feed α :=
  ⟨⟨capacity, events, true, true⟩, .opened 1, false, .live .errors⟩

theorem deliver_holding {capacity : Nat} {events : List α} (room : events.length < capacity)
    (event : α) :
    (holding capacity events).deliver (.event event) =
      (.send .sent, holding capacity (events ++ [event])) := by
  have sent : (holding capacity events).events.send event =
      (.sent, ⟨capacity, events ++ [event], true, true⟩) := by
    rw [Mailbox.send_of_open rfl rfl]
    exact if_pos room
  unfold deliver
  dsimp only
  rw [sent]
  rfl

variable (handler : Handler α σ) (choices : List Branch) (capacity : Nat)

theorem run_holding_of_quit (events : List α) (state : σ) :
    (holding capacity events).run handler true choices state =
      ((holding capacity events).finish .quit, state) :=
  run_of_ending rfl (pass_of_errors rfl)

theorem pass_holding_cons (first : Branch) (event : α) (rest : List α) (state : σ) :
    (holding capacity (event :: rest)).pass handler false first state =
      (holding capacity (event :: rest)).handleEvent handler .errors state event rest :=
  pass_of_errors rfl

theorem run_holding_cons {event : α} {state : σ}
    (accepted : (handler.handle state event).2 = .accept) (rest : List α) :
    (holding capacity (event :: rest)).run handler false choices state =
      (holding capacity rest).run handler false choices.tail (handler.handle state event).1 := by
  have passed (first : Branch) : (holding capacity (event :: rest)).pass handler false first state =
      (holding capacity rest, (handler.handle state event).1) := by
    rw [pass_holding_cons, handleEvent_eq, accepted]
    rfl
  have progress (first : Branch) :
      ((holding capacity (event :: rest)).pass handler false first state).1.work <
        (holding capacity (event :: rest)).work := by
    rw [passed]
    simp only [work, holding, List.length_cons]
    omega
  rw [run_of_progress (progress _), passed]

theorem run_holding_append {events : List α} {state : σ}
    (accepted : AllAccepted (handler.answers state events)) (rest : List α) :
    (holding capacity (events ++ rest)).run handler false choices state =
      (holding capacity rest).run handler false (choices.drop events.length)
        (handler.after state events) := by
  induction events generalizing state choices with
  | nil => rfl
  | cons event later ih =>
      have now : (handler.handle state event).2 = .accept := accepted _ List.mem_cons_self
      have others : AllAccepted (handler.answers (handler.handle state event).1 later) :=
        fun note member => accepted note (List.mem_cons_of_mem _ member)
      rw [List.cons_append, run_holding_cons handler choices capacity now, ih _ others,
        List.drop_tail]
      rfl

theorem run_holding_of_accepted {events : List α} {state : σ}
    (accepted : AllAccepted (handler.answers state events)) :
    (holding capacity events).run handler false choices state =
      (holding capacity [], handler.after state events) := by
  have taken := run_holding_append handler choices capacity accepted []
  have waits (later : List Branch) (state : σ) :
      (holding capacity ([] : List α)).run handler false later state =
        (holding capacity [], state) := by
    have passed (first : Branch) :
        (holding capacity ([] : List α)).pass handler false first state =
          (holding capacity [], state) :=
      pass_of_errors rfl
    rw [run_of_idle (by rw [passed]; exact Nat.lt_irrefl _), passed]
  rw [List.append_nil] at taken
  rw [taken, waits]

theorem run_holding_of_failed {events : List α} {event : α} {state : σ} {error : MonitorError}
    (accepted : AllAccepted (handler.answers state events))
    (failed : (handler.handle (handler.after state events) event).2 = .fail error)
    (rest : List α) :
    (holding capacity (events ++ event :: rest)).run handler false choices state =
      ((holding capacity rest).finish (.handlerError error),
        (handler.handle (handler.after state events) event).1) := by
  rw [run_holding_append handler choices capacity accepted]
  refine run_of_ending rfl ?_
  rw [pass_holding_cons, handleEvent_eq, failed]
  rfl

end Feed

end LightningMetrics.Streaming
