import LightningMetrics.Proofs.Streaming.Replay

set_option autoImplicit false

namespace LightningMetrics.Streaming

namespace Sink

variable {ε : Type}

/-- The sink after reports one after the other. -/
def reportAll (sink : Sink ε) (errors : List ε) : Sink ε :=
  errors.foldl report sink

theorem reportAll_append (sink : Sink ε) (earlier later : List ε) :
    sink.reportAll (earlier ++ later) = (sink.reportAll earlier).reportAll later :=
  List.foldl_append

/-- Both ends of the sink are there, and it has room for `capacity` errors. -/
structure IsOpen (capacity : Nat) (sink : Sink ε) : Prop where
  capacity : sink.capacity = capacity
  senderOpen : sink.senderOpen = true
  receiverOpen : sink.receiverOpen = true

variable {capacity : Nat} {sink : Sink ε}

theorem IsOpen.report (isOpen : sink.IsOpen capacity) (error : ε) :
    (sink.report error).IsOpen capacity ∧
      (sink.report error).queue =
        if sink.queue.length < capacity then sink.queue ++ [error] else sink.queue := by
  unfold Sink.report
  rw [Mailbox.send_of_open isOpen.senderOpen isOpen.receiverOpen, isOpen.capacity]
  split
  · exact ⟨⟨rfl, isOpen.senderOpen, isOpen.receiverOpen⟩, rfl⟩
  · exact ⟨isOpen, rfl⟩

theorem IsOpen.reportAll (isOpen : sink.IsOpen capacity) (errors : List ε) :
    (sink.reportAll errors).IsOpen capacity := by
  induction errors generalizing sink with
  | nil => exact isOpen
  | cons error rest ih => exact ih (isOpen.report error).1

/-- Of what waits and what is reported the first that there is room for is kept. -/
theorem IsOpen.queue_reportAll (isOpen : sink.IsOpen capacity)
    (within : sink.queue.length ≤ capacity) (errors : List ε) :
    (sink.reportAll errors).queue = (sink.queue ++ errors).take capacity := by
  induction errors generalizing sink with
  | nil =>
      rw [List.append_nil, List.take_of_length_le within]
      rfl
  | cons error rest ih =>
      obtain ⟨isOpen', queue⟩ := isOpen.report error
      change ((sink.report error).reportAll rest).queue = _
      by_cases room : sink.queue.length < capacity
      · rw [if_pos room] at queue
        have within' : (sink.report error).queue.length ≤ capacity := by
          rw [queue, List.length_append, List.length_singleton]
          omega
        rw [ih isOpen' within', queue, List.append_assoc]
        rfl
      · rw [if_neg room] at queue
        rw [ih isOpen' (queue ▸ within), queue]
        have full : sink.queue.length = capacity := by omega
        rw [← full, List.take_left, List.take_left]

end Sink

theorem Worker.sink_run_eq {α σ : Type} (handler : Handler α σ) (choices : List Branch)
    (worker : Worker α σ) (sink : Sink MonitorError) :
    (worker.run handler choices sink).2 = Sink.reportAll sink
      (Happening.reports ((worker.runHappenings handler choices).map Prod.snd)) := by
  obtain ⟨report, reports, handed⟩ := worker.sink_run handler choices sink
  rw [reports, handed]
  cases report <;> rfl

/-- What a step reports is about the stream itself, or the handler has failed with it. -/
theorem Session.reports_cases {α σ : Type} (handler : Handler α σ) (name : String) (state : σ)
    (sinkCapacity : Nat) (steps : List (Step α)) (step : Step α) {error : MonitorError}
    (reported : error ∈ Happening.reports
      ((((create name state sinkCapacity).steps handler steps).2.happenings handler step).map
        Prod.snd)) :
    (∃ cause, error = .streamExited name cause) ∨ error = .streamTerminated name ∨
      ∃ state event, (handler.handle state event).2 = .fail error := by
  obtain ⟨⟨number, _⟩, member, rfl⟩ := List.mem_map.mp (Happening.mem_reports.mp reported)
  have faithful := faithful_history handler name state sinkCapacity (steps ++ [step])
  have own : .reported error ∈ ofFeed number
      ((create name state sinkCapacity).history handler (steps ++ [step])) := by
    rw [history_concat, mem_ofFeed]
    exact List.mem_append_right _ member
  obtain ⟨conduct, run, _⟩ := faithful.feeds number
  obtain ⟨exit, ended, called⟩ := run.ended_of_reported own
  cases exit with
  | streamError cause =>
      cases called
      exact .inl ⟨cause, rfl⟩
  | streamEnded =>
      cases called
      exact .inr (.inl rfl)
  | quit | panicked => cases called
  | handlerError fault =>
      cases called
      obtain ⟨accepted, event, _, _, notes, _⟩ := run.balanced.settled_of_ended ended
      have handled : .handled event (.fail error) ∈ ofFeed number
          ((create name state sinkCapacity).history handler (steps ++ [step])) := by
        rw [← Happening.mem_notes, notes]
        exact List.mem_append_right _ (List.mem_singleton_self _)
      obtain ⟨state, failed⟩ := answered_of_handled handler _ _ handled
      exact .inr (.inr ⟨state, event, failed.symm⟩)

end LightningMetrics.Streaming
