import Mathlib.Data.List.InsertIdx
import LightningMetrics.Proofs.Streaming.Signal

/-!
A spawn that is rejected disturbs nothing. The feed that was turned away takes a number, and the
feeds after it the next ones; up to this renumbering every later step does and answers what it would
have done and answered without it, whatever the producer of that feed still tries.
-/

set_option autoImplicit false

namespace LightningMetrics.Streaming

variable {α σ : Type}

/-- The number of a feed once `extra` was given to another one. -/
def renumber (extra number : Nat) : Nat :=
  if number < extra then number else number + 1

theorem renumber_ne (extra number : Nat) : renumber extra number ≠ extra := by
  unfold renumber
  split <;> omega

theorem renumber_injective {extra number other : Nat}
    (same : renumber extra number = renumber extra other) : number = other := by
  unfold renumber at same
  split at same <;> split at same <;> omega

theorem renumber_of_le {extra number : Nat} (after : extra ≤ number) :
    renumber extra number = number + 1 :=
  if_neg (Nat.not_lt.mpr after)

theorem eq_or_eq_renumber (extra index : Nat) :
    index = extra ∨ ∃ number, index = renumber extra number := by
  rcases Nat.lt_trichotomy index extra with before | same | after
  · exact .inr ⟨index, (if_pos before).symm⟩
  · exact .inl same
  · refine .inr ⟨index - 1, ?_⟩
    rw [renumber_of_le (by omega)]
    omega

section Lists

variable {β : Type} {extra : Nat} {list : List β}

theorem getElem?_insertIdx_renumber (list : List β) (added : β) (number : Nat) :
    (list.insertIdx extra added)[renumber extra number]? = list[number]? := by
  rw [List.getElem?_insertIdx]
  unfold renumber
  by_cases before : number < extra
  · rw [if_pos before, if_pos before]
  · rw [if_neg before, if_neg (by omega), if_neg (by omega), Nat.add_sub_cancel]

theorem getElem?_insertIdx_extra (inside : extra ≤ list.length) (added : β) :
    (list.insertIdx extra added)[extra]? = some added := by
  rw [List.getElem?_insertIdx_self, if_pos inside]

/-- A list that has one more element in the right place is the list with that element inserted. -/
theorem eq_insertIdx (inside : extra ≤ list.length) {longer : List β} {added : β}
    (there : longer[extra]? = some added)
    (others : ∀ number, longer[renumber extra number]? = list[number]?) :
    longer = list.insertIdx extra added := by
  refine List.ext_getElem? fun index => ?_
  rcases eq_or_eq_renumber extra index with rfl | ⟨number, rfl⟩
  · rw [there, getElem?_insertIdx_extra inside]
  · rw [others, getElem?_insertIdx_renumber]

theorem insertIdx_concat (inside : extra ≤ list.length) (added last : β) :
    list.insertIdx extra added ++ [last] = (list ++ [last]).insertIdx extra added := by
  have length := List.length_insertIdx_of_le_length inside added
  refine eq_insertIdx (by rw [List.length_append]; omega) ?_ fun number => ?_
  · rw [List.getElem?_append_left (by omega), getElem?_insertIdx_extra inside]
  · rw [List.getElem?_append, List.getElem?_append, length,
      getElem?_insertIdx_renumber]
    unfold renumber
    by_cases before : number < extra
    · rw [if_pos before, if_pos (by omega), if_pos (by omega)]
    · rw [if_neg before]
      by_cases there : number < list.length
      · rw [if_pos (by omega), if_pos there]
      · rw [if_neg (by omega), if_neg there, Nat.add_sub_add_right]

theorem set_insertIdx_renumber (inside : extra ≤ list.length) (added changed : β) (number : Nat) :
    (list.insertIdx extra added).set (renumber extra number) changed =
      (list.set number changed).insertIdx extra added := by
  have length := List.length_insertIdx_of_le_length inside added
  refine eq_insertIdx (by rw [List.length_set]; exact inside) ?_ fun other => ?_
  · rw [List.getElem?_set_ne (renumber_ne extra number), getElem?_insertIdx_extra inside]
  · by_cases same : number = other
    · subst same
      rw [List.getElem?_set_self', List.getElem?_set_self', getElem?_insertIdx_renumber]
    · rw [List.getElem?_set_ne fun equal => same (renumber_injective equal),
        List.getElem?_set_ne same, getElem?_insertIdx_renumber]

theorem set_insertIdx_extra (inside : extra ≤ list.length) (added changed : β) :
    (list.insertIdx extra added).set extra changed = list.insertIdx extra changed := by
  have length := List.length_insertIdx_of_le_length inside added
  refine eq_insertIdx inside ?_ fun other => ?_
  · exact List.getElem?_set_self (by omega)
  · rw [List.getElem?_set_ne (renumber_ne extra other).symm, getElem?_insertIdx_renumber]

theorem modify_insertIdx_renumber (inside : extra ≤ list.length) (added : β) (number : Nat)
    (change : β → β) :
    (list.insertIdx extra added).modify (renumber extra number) change =
      (list.modify number change).insertIdx extra added := by
  refine eq_insertIdx (by rw [List.length_modify]; exact inside) ?_ fun other => ?_
  · rw [List.getElem?_modify_ne _ _ (renumber_ne extra number), getElem?_insertIdx_extra inside]
  · by_cases same : number = other
    · subst same
      rw [List.getElem?_modify_eq, List.getElem?_modify_eq, getElem?_insertIdx_renumber]
    · rw [List.getElem?_modify_ne _ _ fun equal => same (renumber_injective equal),
        List.getElem?_modify_ne _ _ same, getElem?_insertIdx_renumber]

end Lists

/-- A step of the surroundings, with the feeds renumbered. -/
def Step.renumber (extra : Nat) : Step α → Step α
  | deliver number delivery => deliver (Streaming.renumber extra number) delivery
  | cancel number => cancel (Streaming.renumber extra number)
  | step => step

namespace Worker

/-- The worker with one more feed, to which it pays no attention. -/
def beside (extra : Nat) (rejected : Feed α) (worker : Worker α σ) : Worker α σ :=
  { worker with
    started := worker.started.map (renumber extra)
    feeds := worker.feeds.insertIdx extra rejected }

variable {worker : Worker α σ} {extra : Nat}

theorem current?_beside (extra : Nat) (rejected : Feed α) (worker : Worker α σ) :
    (worker.beside extra rejected).current? =
      worker.current?.map fun task => (renumber extra task.1, task.2) := by
  simp only [current?, beside]
  cases worker.started with
  | none => rfl
  | some number =>
      simp only [Option.map_some, Option.bind_eq_bind, Option.bind_some,
        getElem?_insertIdx_renumber]
      cases worker.feeds[number]? <;> rfl

theorem run_beside (rejected : Feed α) (inside : extra ≤ worker.feeds.length)
    (handler : Handler α σ) (choices : List Branch) (sink : Sink MonitorError) :
    (worker.beside extra rejected).run handler choices sink =
      ((worker.run handler choices sink).1.beside extra rejected,
        (worker.run handler choices sink).2) := by
  have task := worker.current?_beside extra rejected
  rcases worker.run_cases handler choices sink with
    ⟨still, idle, _⟩ | ⟨number, feed, current, live, ran, _⟩
  · rw [idle]
    refine run_of_still (fun other served here => ?_) handler choices sink
    rw [task, Option.map_eq_some_iff] at here
    obtain ⟨⟨number, feed⟩, current, same⟩ := here
    cases same
    exact still number feed current
  · rw [current] at task
    rw [ran, run_of_live task live]
    simp only [beside, set_insertIdx_renumber inside]

theorem runHappenings_beside (extra : Nat) (rejected : Feed α) (handler : Handler α σ)
    (choices : List Branch) (worker : Worker α σ) :
    (worker.beside extra rejected).runHappenings handler choices =
      (worker.runHappenings handler choices).map (Prod.map (renumber extra) id) := by
  have task := worker.current?_beside extra rejected
  unfold runHappenings
  rw [task]
  cases worker.current? with
  | none => rfl
  | some current =>
      obtain ⟨number, feed⟩ := current
      dsimp only [Option.map_some]
      cases feed.isLive with
      | false => rfl
      | true =>
          simp only [↓reduceIte, List.map_map]
          rfl

end Worker

namespace Session

/-- The session with one more feed, to which its worker pays no attention. -/
def beside (extra : Nat) (rejected : Feed α) (session : Session α σ) : Session α σ :=
  { session with worker := session.worker.beside extra rejected }

variable {session : Session α σ} {extra : Nat}

theorem spawn_beside (rejected : Feed α) (inside : extra ≤ session.worker.feeds.length)
    (handler : Handler α σ) (capacity : Nat) :
    (session.beside extra rejected).step handler (.spawn capacity) =
      ((session.step handler (.spawn capacity)).1,
        (session.step handler (.spawn capacity)).2.beside extra rejected) := by
  have concat (last : Feed α) := insertIdx_concat inside rejected last
  have length := List.length_insertIdx_of_le_length inside rejected
  cases started : session.worker.started with
  | some current =>
      simp only [Session.step, Session.spawn, beside, Worker.beside, Worker.spawn, started,
        Option.map_some, concat]
  | none =>
      simp only [Session.step, Session.spawn, beside, Worker.beside, Worker.spawn, started,
        Option.map_none, Option.map_some, concat, length, renumber_of_le inside]

/-- Beside a feed that was turned away a step does and answers what it does and answers without
it. -/
theorem step_beside (rejected : Feed α) (inside : extra ≤ session.worker.feeds.length)
    (handler : Handler α σ) (step : Step α) :
    (session.beside extra rejected).step handler (step.renumber extra) =
      ((session.step handler step).1, (session.step handler step).2.beside extra rejected) := by
  cases step with
  | spawn capacity => exact spawn_beside rejected inside handler capacity
  | deliver number delivery =>
      simp only [Session.step, Step.renumber, beside, Worker.beside, Worker.deliver?,
        getElem?_insertIdx_renumber]
      cases session.worker.feeds[number]? with
      | none => rfl
      | some feed => simp only [Option.map_some, set_insertIdx_renumber inside]
  | cancel number =>
      simp only [Session.step, Step.renumber, beside, Worker.beside, Worker.cancel,
        modify_insertIdx_renumber inside]
  | run choices =>
      have ran := session.worker.run_beside rejected inside handler choices session.sink
      simp only [Session.step, Step.renumber, Session.run, beside, ran]
  | stop choices =>
      have signalled : (session.worker.beside extra rejected).signal =
          session.worker.signal.beside extra rejected := rfl
      have ran := session.worker.signal.run_beside rejected inside handler choices session.sink
      simp only [Session.step, Step.renumber, Session.stop, Worker.stop, beside, signalled, ran]
      rfl
  | drainSink =>
      obtain ⟨worker, ⟨capacity, queue, senderOpen, receiverOpen⟩⟩ := session
      cases receiverOpen <;> rfl
  | closeSink => rfl

/-- Beside a feed that was turned away a step makes happen what it makes happen without it. -/
theorem happenings_beside (rejected : Feed α) (inside : extra ≤ session.worker.feeds.length)
    (handler : Handler α σ) (step : Step α) :
    (session.beside extra rejected).happenings handler (step.renumber extra) =
      (session.happenings handler step).map (Prod.map (renumber extra) id) := by
  cases step with
  | spawn capacity =>
      have length : (session.beside extra rejected).worker.feeds.length =
          renumber extra session.worker.feeds.length :=
        (List.length_insertIdx_of_le_length inside rejected).trans (renumber_of_le inside).symm
      have started : (session.beside extra rejected).worker.started.isSome =
          session.worker.started.isSome := Option.isSome_map
      change (session.beside extra rejected).happenings handler (.spawn capacity) = _
      rw [happenings_spawn, happenings_spawn, length, started]
      rfl
  | deliver number delivery =>
      have found : (session.beside extra rejected).worker.feeds[renumber extra number]? =
          session.worker.feeds[number]? := getElem?_insertIdx_renumber _ rejected number
      cases there : session.worker.feeds[number]? with
      | none =>
          simp only [happenings, Session.step, Step.renumber, Worker.deliver?, found, there,
            Option.map_none, List.map_nil]
      | some feed =>
          simp only [happenings, Session.step, Step.renumber, Worker.deliver?, found, there,
            Option.map_some, List.map_map]
          rfl
  | run choices => exact session.worker.runHappenings_beside extra rejected handler choices
  | stop choices => exact session.worker.signal.runHappenings_beside extra rejected handler choices
  | cancel | drainSink | closeSink => rfl

/-- What a producer does to a feed that was turned away changes that feed only. -/
theorem stray_beside {rejected : Feed α} (rests : rejected.Rests)
    (inside : extra ≤ session.worker.feeds.length) (handler : Handler α σ)
    (delivery : Delivery α) :
    (session.beside extra rejected).step handler (.deliver extra delivery) =
        (.received (rejected.deliver delivery).1,
          session.beside extra (rejected.deliver delivery).2) ∧
      (session.beside extra rejected).happenings handler (.deliver extra delivery) = [] := by
  have found : (session.beside extra rejected).worker.feeds[extra]? = some rejected :=
    getElem?_insertIdx_extra inside rejected
  constructor
  · simp only [Session.step, Worker.deliver?, found, Option.map_some]
    simp only [beside, Worker.beside, set_insertIdx_extra inside]
  · simp only [happenings, Session.step, Worker.deliver?, found, Option.map_some,
      (rests.deliver delivery).1, List.map_nil]

theorem le_length_step (inside : extra ≤ session.worker.feeds.length) (handler : Handler α σ)
    (step : Step α) : extra ≤ (session.step handler step).2.worker.feeds.length := by
  cases extra with
  | zero => exact Nat.zero_le _
  | succ last => exact session.lt_length_step handler inside step

theorem le_length_steps (inside : extra ≤ session.worker.feeds.length) (handler : Handler α σ)
    (steps : List (Step α)) : extra ≤ (session.steps handler steps).2.worker.feeds.length := by
  induction steps generalizing session with
  | nil => exact inside
  | cons step rest ih => exact ih (le_length_step inside handler step)

end Session

/-- The steps that have nothing to do with the feed that was turned away. -/
def keptSteps (mixed : List (Step α ⊕ Delivery α)) : List (Step α) :=
  mixed.filterMap Sum.getLeft?

/-- What the producer of the feed that was turned away tries. -/
def strays (mixed : List (Step α ⊕ Delivery α)) : List (Delivery α) :=
  mixed.filterMap Sum.getRight?

/-- All of it in turn, where `extra` is the number of the feed that was turned away. -/
def allSteps (extra : Nat) (mixed : List (Step α ⊕ Delivery α)) : List (Step α) :=
  mixed.map (Sum.elim (Step.renumber extra) (.deliver extra))

namespace Feed

/-- The feed after deliveries one after the other. -/
def afterAll (feed : Feed α) (deliveries : List (Delivery α)) : Feed α :=
  deliveries.foldl (fun feed delivery => (feed.deliver delivery).2) feed

variable {feed : Feed α} {deliveries : List (Delivery α)}

theorem afterAll_induction (Kept : Feed α → Prop)
    (keeps : ∀ feed, Kept feed → ∀ delivery ∈ deliveries, Kept (feed.deliver delivery).2)
    (kept : Kept feed) : Kept (feed.afterAll deliveries) := by
  induction deliveries generalizing feed with
  | nil => exact kept
  | cons delivery rest ih =>
      refine ih (fun feed kept other member => ?_) (keeps feed kept delivery List.mem_cons_self)
      exact keeps feed kept other (List.mem_cons_of_mem _ member)

theorem eventsOpen_deliver (feed : Feed α) {delivery : Delivery α}
    (keeps : delivery ≠ .closeEvents) :
    (feed.deliver delivery).2.events.senderOpen = feed.events.senderOpen := by
  cases delivery with
  | error | closeErrors => rfl
  | closeEvents => exact absurd rfl keeps
  | event value =>
      rcases feed.events.send_cases value with ⟨_, _, _, sent⟩ | ⟨_, _, refused⟩
      · simp only [deliver, sent]
      · simp only [deliver, refused]

theorem rejected_afterAll (capacity : Nat) (deliveries : List (Delivery α)) :
    (((opened capacity).reject : Feed α).afterAll deliveries).Rests ∧
      (((opened capacity).reject : Feed α).afterAll deliveries).cancelled = true := by
  refine afterAll_induction (fun feed => feed.Rests ∧ feed.cancelled = true)
    (fun feed kept delivery _ => ⟨(kept.1.deliver delivery).2, ?_⟩) ⟨rests_reject capacity, rfl⟩
  rw [(feed.deliver_frame delivery).2]
  exact kept.2

theorem eventsOpen_afterAll (keeps : .closeEvents ∉ deliveries) :
    (feed.afterAll deliveries).events.senderOpen = feed.events.senderOpen := by
  refine afterAll_induction (fun next => next.events.senderOpen = feed.events.senderOpen)
    (fun next kept delivery member => ?_) rfl
  refine (next.eventsOpen_deliver ?_).trans kept
  rintro rfl
  exact keeps member

theorem errorsOpen_afterAll (keeps : .closeErrors ∉ deliveries) :
    (feed.afterAll deliveries).errors.senderOpen = feed.errors.senderOpen := by
  refine afterAll_induction (fun next => next.errors.senderOpen = feed.errors.senderOpen)
    (fun next kept delivery member => ?_) rfl
  refine (next.errorsOpen_deliver ?_).trans kept
  rintro rfl
  exact keeps member

end Feed

theorem Mailbox.send_of_gone {β : Type} {mailbox : Mailbox β} (sender : mailbox.senderOpen = true)
    (receiver : mailbox.receiverOpen = false) (value : β) :
    mailbox.send value = (.closed, mailbox) := by
  simp only [send, sender, receiver, Bool.not_true, Bool.not_false, Bool.false_eq_true, ↓reduceIte]

namespace Session

variable {session : Session α σ} {extra : Nat}

/-- Whatever the producer of a feed that was turned away tries in between, the other steps do what
they do without it. -/
theorem steps_beside {rejected : Feed α} (rests : rejected.Rests)
    (inside : extra ≤ session.worker.feeds.length) (handler : Handler α σ)
    (mixed : List (Step α ⊕ Delivery α)) :
    ((session.beside extra rejected).steps handler (allSteps extra mixed)).2 =
        (session.steps handler (keptSteps mixed)).2.beside extra
          (rejected.afterAll (strays mixed)) ∧
      (session.beside extra rejected).history handler (allSteps extra mixed) =
        (session.history handler (keptSteps mixed)).map (Prod.map (renumber extra) id) := by
  induction mixed generalizing session rejected with
  | nil => exact ⟨rfl, rfl⟩
  | cons item rest ih =>
      cases item with
      | inl step =>
          obtain ⟨leads, happened⟩ := ih rests (le_length_step inside handler step)
          have same := session.step_beside rejected inside handler step
          constructor
          · change ((Session.step handler _ (step.renumber extra)).2.steps handler _).2 = _
            rw [same]
            exact leads
          · change Session.happenings handler _ (step.renumber extra) ++
              (Session.step handler _ (step.renumber extra)).2.history handler _ = _
            rw [happenings_beside rejected inside, same]
            exact (congrArg (_ ++ ·) happened).trans List.map_append.symm
      | inr delivery =>
          obtain ⟨same, nothing⟩ := stray_beside rests inside handler delivery
          obtain ⟨leads, happened⟩ := ih (rests.deliver delivery).2 inside
          constructor
          · change ((Session.step handler _ (.deliver extra delivery)).2.steps handler _).2 = _
            rw [same]
            exact leads
          · change Session.happenings handler _ (.deliver extra delivery) ++
              (Session.step handler _ (.deliver extra delivery)).2.history handler _ = _
            rw [nothing, same, List.nil_append]
            exact happened

/-- The task that was started serves a feed that was handed over. -/
theorem started_lt_length (handler : Handler α σ) (name : String) (state : σ) (sinkCapacity : Nat)
    (steps : List (Step α)) {number : Nat}
    (started : ((create name state sinkCapacity).steps handler steps).2.worker.started =
      some number) :
    number < ((create name state sinkCapacity).steps handler steps).2.worker.feeds.length := by
  induction steps using List.reverseRecOn with
  | nil => cases started
  | append_singleton steps last ih =>
      rw [steps_concat] at started ⊢
      generalize ((create name state sinkCapacity).steps handler steps).2 = session at *
      by_cases before : session.worker.started = some number
      · exact session.lt_length_step handler (ih before) last
      · rw [started_step] at started
        cases last with
        | spawn capacity =>
            rw [length_spawn]
            cases free : session.worker.started with
            | some current =>
                rw [free] at started before
                exact absurd started before
            | none =>
                rw [free] at started
                cases started
                exact Nat.lt_succ_self _
        | stop choices => cases started
        | _ => exact absurd started before

/-- Where a task counts as started a spawn leaves the session beside the feed that it turns away. -/
theorem spawn_eq_beside {number : Nat} (started : session.worker.started = some number)
    (inside : number < session.worker.feeds.length) (handler : Handler α σ) (capacity : Nat) :
    session.step handler (.spawn capacity) =
      (.failed (.alreadyStarted session.worker.name),
        session.beside session.worker.feeds.length (Feed.opened capacity).reject) := by
  have number' : renumber session.worker.feeds.length number = number := if_pos inside
  simp only [Session.step, spawn, Worker.spawn_of_started started, beside, Worker.beside, started,
    Option.map_some, number', List.insertIdx_length_self]
  rfl

/-- How the steps `mixed` compare, at their end, with what they would have been without the feed
that was turned away as number `extra`, and without its producer. -/
structure Undisturbed (handler : Handler α σ) (extra : Nat) (without beside : Session α σ)
    (mixed : List (Step α ⊕ Delivery α)) : Prop where
  /-- Whatever step comes next is answered as without that feed. -/
  answers : ∀ step : Step α,
    ((beside.steps handler (allSteps extra mixed)).2.step handler (step.renumber extra)).1 =
      ((without.steps handler (keptSteps mixed)).2.step handler step).1
  /-- The same has happened to the other feeds, and nothing to that one. -/
  history : beside.history handler (allSteps extra mixed) =
    (without.history handler (keptSteps mixed)).map (Prod.map (renumber extra) id)
  state : (beside.steps handler (allSteps extra mixed)).2.worker.state =
    (without.steps handler (keptSteps mixed)).2.worker.state
  sink : (beside.steps handler (allSteps extra mixed)).2.sink =
    (without.steps handler (keptSteps mixed)).2.sink
  contexts : ∀ number,
    (beside.steps handler (allSteps extra mixed)).2.worker.feeds[renumber extra number]?.map
        Feed.cancelled =
      (without.steps handler (keptSteps mixed)).2.worker.feeds[number]?.map Feed.cancelled
  cancelled : (beside.steps handler (allSteps extra mixed)).2.worker.feeds[extra]?.map
    Feed.cancelled = some true
  /-- As long as its producer has not dropped a channel, it is told that nobody receives. -/
  eventsRefused : .inr .closeEvents ∉ mixed → ∀ event,
    ((beside.steps handler (allSteps extra mixed)).2.step handler
      (.deliver extra (.event event))).1 = .received (.send .closed)
  errorsRefused : .inr .closeErrors ∉ mixed → ∀ error,
    ((beside.steps handler (allSteps extra mixed)).2.step handler
      (.deliver extra (.error error))).1 = .received (.send .closed)

/-- Whatever happens beside a feed that was turned away, and whatever its producer tries, the rest
is undisturbed. -/
theorem undisturbed (handler : Handler α σ) (session : Session α σ) (capacity : Nat)
    (mixed : List (Step α ⊕ Delivery α)) :
    Undisturbed handler session.worker.feeds.length session
      (session.beside session.worker.feeds.length (Feed.opened capacity).reject) mixed := by
  obtain ⟨leads, happened⟩ := steps_beside (Feed.rests_reject capacity)
    (Nat.le_refl session.worker.feeds.length) handler mixed
  obtain ⟨rests, cancelled⟩ := Feed.rejected_afterAll capacity (strays mixed)
  have inside : session.worker.feeds.length ≤
      (session.steps handler (keptSteps mixed)).2.worker.feeds.length :=
    le_length_steps (Nat.le_refl _) handler (keptSteps mixed)
  have unclosed (delivery : Delivery α) (never : .inr delivery ∉ mixed) :
      delivery ∉ strays mixed := by
    intro member
    obtain ⟨item, there, same⟩ := List.mem_filterMap.mp member
    rw [Sum.getRight?_eq_some_iff] at same
    exact never (same ▸ there)
  have refuses (delivery : Delivery α) := (stray_beside rests inside handler delivery).1
  refine ⟨fun step => ?_, happened, ?_, ?_, fun number => ?_, ?_, fun never event => ?_,
    fun never error => ?_⟩
  · rw [leads, step_beside _ inside]
  · rw [leads]
    rfl
  · rw [leads]
    rfl
  · rw [leads]
    exact congrArg _ (getElem?_insertIdx_renumber _ _ number)
  · rw [leads]
    refine (congrArg _ (getElem?_insertIdx_extra inside _)).trans ?_
    exact congrArg some cancelled
  · have sender := (Feed.eventsOpen_afterAll (unclosed _ never)).trans
      (rfl : (Feed.opened capacity : Feed α).reject.events.senderOpen = true)
    rw [leads, refuses]
    simp only [Feed.deliver, Mailbox.send_of_gone sender rests.events]
  · have sender := (Feed.errorsOpen_afterAll (unclosed _ never)).trans
      (rfl : (Feed.opened capacity : Feed α).reject.errors.senderOpen = true)
    rw [leads, refuses]
    simp only [Feed.deliver, Mailbox.send_of_gone sender rests.errors]

/-- Wherever a task counts as started, a spawn is rejected and disturbs nothing, whatever steps
follow and whatever the producer of the feed that was turned away tries in between. -/
theorem rejected_spawn_disturbs_nothing (handler : Handler α σ) (name : String) (state : σ)
    (sinkCapacity : Nat) (earlier : List (Step α)) :
    let start : Session α σ := create name state sinkCapacity
    let before := (start.steps handler earlier).2
    start.IsHeld handler earlier → ∀ capacity mixed,
      (before.step handler (.spawn capacity)).1 = .failed (.alreadyStarted name) ∧
      Undisturbed handler before.worker.feeds.length before
        (before.step handler (.spawn capacity)).2 mixed := by
  intro start before held capacity mixed
  obtain ⟨number, started⟩ := Option.isSome_iff_exists.mp
    ((isSome_started_steps handler name state sinkCapacity earlier).mpr held)
  have inside := started_lt_length handler name state sinkCapacity earlier started
  have named : before.worker.name = name := start.name_steps handler earlier
  have rejected := before.spawn_eq_beside started inside handler capacity
  rw [rejected, named]
  exact ⟨rfl, before.undisturbed handler capacity mixed⟩

/-- A second feed comes before the first has been stopped. Its producer sends before and after it
closes its channel, while the first feed is stopped after one of its two events and a third one
takes its place. -/
theorem rejected_spawn_disturbs_nothing_between_two_feeds :
    let handler : Handler Nat Nat :=
      ⟨fun state => state, fun state event => (state + event, .accept)⟩
    let start : Session Nat Nat := create "htlcs" 0 1
    let before := (start.steps handler [.spawn 2]).2
    let rejecting := (before.step handler (.spawn 1)).2
    let mixed : List (Step Nat ⊕ Delivery Nat) := [.inl (.deliver 0 (.event 7)), .inr (.event 8),
      .inl (.deliver 0 (.event 6)), .inl (.deliver 0 .closeErrors), .inr .closeEvents,
      .inl (.stop [.quit, .events, .quit]), .inr (.event 9), .inl (.spawn 1),
      .inl (.deliver 1 (.event 5))]
    start.IsHeld handler [.spawn 2] ∧
      (before.step handler (.spawn 1)).1 = .failed (.alreadyStarted "htlcs") ∧
      Undisturbed handler 1 before rejecting mixed ∧
      (rejecting.steps handler (allSteps 1 mixed)).1 = [.received (.send .sent),
        .received (.send .closed), .received (.send .sent), .received (.wasOpen true),
        .received (.wasOpen true), .done, .received (.send .dropped), .done,
        .received (.send .sent)] ∧
      Happening.notes ((rejecting.history handler (allSteps 1 mixed)).map Prod.snd) =
        [(7, .accept)] := by
  intro handler start before rejecting mixed
  have held : start.IsHeld handler [.spawn 2] := ⟨[], 2, [], rfl, rfl, nofun⟩
  obtain ⟨refused, undisturbed⟩ :=
    rejected_spawn_disturbs_nothing handler "htlcs" 0 1 [.spawn 2] held 1 mixed
  exact ⟨held, refused, undisturbed, by decide +kernel, by decide +kernel⟩

end Session

end LightningMetrics.Streaming
