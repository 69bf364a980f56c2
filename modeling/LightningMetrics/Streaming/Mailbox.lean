set_option autoImplicit false

namespace LightningMetrics.Streaming

structure Mailbox (α : Type) where
  capacity : Nat
  queue : List α
  senderOpen : Bool
  receiverOpen : Bool
deriving DecidableEq, Repr

/-- What becomes of an attempt to send that does not wait. -/
inductive SendResult where
  | sent
  | full
  /-- The receiver has gone. -/
  | closed
  /-- The sender itself has gone. -/
  | dropped
deriving DecidableEq, Repr

/-- What a receiver finds. -/
inductive Received (α : Type) where
  | item (value : α) (rest : List α)
  | empty
  /-- Nothing is left and nothing can come. -/
  | closed
deriving DecidableEq, Repr

namespace Mailbox

variable {α : Type}

def opened (capacity : Nat) : Mailbox α :=
  ⟨capacity, [], true, true⟩

/-- Sends without waiting. Where the receiver has gone this is told before a lack of room. -/
def send (mailbox : Mailbox α) (value : α) : SendResult × Mailbox α :=
  if !mailbox.senderOpen then (.dropped, mailbox)
  else if !mailbox.receiverOpen then (.closed, mailbox)
  else if mailbox.capacity ≤ mailbox.queue.length then (.full, mailbox)
  else (.sent, { mailbox with queue := mailbox.queue ++ [value] })

def receive (mailbox : Mailbox α) : Received α :=
  match mailbox.queue with
  | value :: rest => .item value rest
  | [] => if mailbox.senderOpen then .empty else .closed

/-- Drops the sender; was it still there? -/
def closeSender (mailbox : Mailbox α) : Bool × Mailbox α :=
  (mailbox.senderOpen, { mailbox with senderOpen := false })

/-- Drops the receiver, and with it what it has not taken. -/
def closeReceiver (mailbox : Mailbox α) : Mailbox α :=
  { mailbox with queue := [], receiverOpen := false }

theorem send_sent_iff (mailbox : Mailbox α) (value : α) :
    (mailbox.send value).1 = .sent ↔
      mailbox.senderOpen = true ∧ mailbox.receiverOpen = true ∧
        mailbox.queue.length < mailbox.capacity := by
  unfold send
  cases sender : mailbox.senderOpen <;> cases receiver : mailbox.receiverOpen <;> simp
  split <;> simp <;> omega

theorem queue_send (mailbox : Mailbox α) (value : α) :
    (mailbox.send value).2.queue =
      if (mailbox.send value).1 = .sent then mailbox.queue ++ [value] else mailbox.queue := by
  unfold send
  cases sender : mailbox.senderOpen <;> cases receiver : mailbox.receiverOpen <;> simp
  split <;> simp

/-- While both sides are there only the room decides. -/
theorem send_of_open {mailbox : Mailbox α} (sender : mailbox.senderOpen = true)
    (receiver : mailbox.receiverOpen = true) (value : α) :
    mailbox.send value =
      if mailbox.queue.length < mailbox.capacity then
        (.sent, { mailbox with queue := mailbox.queue ++ [value] })
      else (.full, mailbox) := by
  unfold send
  rw [sender, receiver]
  by_cases room : mailbox.queue.length < mailbox.capacity
  · rw [if_pos room]
    simp [Nat.not_le.mpr room]
  · rw [if_neg room]
    simp [Nat.not_lt.mp room]

/-- A value is sent to the end of the queue where there is room for it, or changes nothing. -/
theorem send_cases (mailbox : Mailbox α) (value : α) :
    (mailbox.senderOpen = true ∧ mailbox.receiverOpen = true ∧
        mailbox.queue.length < mailbox.capacity ∧
        mailbox.send value = (.sent, { mailbox with queue := mailbox.queue ++ [value] })) ∨
      ∃ result, result ≠ .sent ∧ mailbox.send value = (result, mailbox) := by
  unfold send
  cases sender : mailbox.senderOpen with
  | false => exact .inr ⟨.dropped, nofun, rfl⟩
  | true =>
      cases receiver : mailbox.receiverOpen with
      | false => exact .inr ⟨.closed, nofun, rfl⟩
      | true =>
          by_cases full : mailbox.capacity ≤ mailbox.queue.length
          · exact .inr ⟨.full, nofun, by simp [full]⟩
          · exact .inl ⟨rfl, rfl, by omega, by simp [full]⟩

end Mailbox

/-- Where fatal errors wait for whoever runs the exporter. Reporting never waits: an error that
finds no room is dropped and displaces none. -/
abbrev Sink (ε : Type) := Mailbox ε

namespace Sink

variable {ε : Type}

def report (sink : Sink ε) (error : ε) : Sink ε :=
  (sink.send error).2

/-- Takes out what waits. -/
def drain (sink : Sink ε) : List ε × Sink ε :=
  (sink.queue, { sink with queue := [] })

end Sink

end LightningMetrics.Streaming
