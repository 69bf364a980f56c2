import LightningMetrics.Proofs.Streaming.Looks
import LightningMetrics.Proofs.Streaming.Timeline

set_option autoImplicit false

namespace LightningMetrics.Streaming

variable {α σ : Type}

theorem Feed.isLive_eq_false_iff (feed : Feed α) :
    feed.isLive = false ↔ feed.life = .unattended ∨ ∃ exit, feed.life = .ended exit := by
  unfold Feed.isLive
  cases feed.life <;> simp

theorem Feed.deliver_frame (delivery : Delivery α) (feed : Feed α) :
    (feed.deliver delivery).2.life = feed.life ∧
      (feed.deliver delivery).2.cancelled = feed.cancelled := by
  cases delivery <;> exact ⟨rfl, rfl⟩

theorem Feed.attended_run (handler : Handler α σ) (quit : Bool) (choices : List Branch)
    {feed : Feed α} (state : σ) (attended : feed.life ≠ .unattended) :
    (feed.run handler quit choices state).1.life ≠ .unattended := by
  refine Feed.run_of_looks (fun next _ => next.life ≠ .unattended) ?_ choices feed state attended
  intro first next state kept
  rcases next.look_cases handler quit first state with same |
    ⟨_, ⟨exit, finished⟩ | ⟨place, moved⟩ | ⟨event, rest, place, taken⟩⟩
  · rw [same]
    exact kept
  · rw [finished]
    exact nofun
  · rw [moved]
    exact nofun
  · rw [taken, handleEvent_eq]
    cases (handler.handle state event).2 <;> exact nofun

namespace Session

variable {handler : Handler α σ} {session : Session α σ} {steps : List (Step α)} {number : Nat}

/-- Was the context of this feed cancelled from outside? -/
def WasCancelled (handler : Handler α σ) (session : Session α σ) (steps : List (Step α))
    (number : Nat) : Prop :=
  session.HasStep handler steps fun before step =>
    step = .cancel number ∧ number < before.worker.feeds.length

/-- Was this feed handed over by a spawn that was answered so? -/
def WasSpawned (handler : Handler α σ) (session : Session α σ) (steps : List (Step α))
    (number : Nat) (reply : Reply) : Prop :=
  session.HasStep handler steps fun before step =>
    (∃ capacity, step = .spawn capacity) ∧ number = before.worker.feeds.length ∧
      (before.step handler step).1 = reply

/-- Was a spawn accepted that no stop has followed? -/
def IsHeld (handler : Handler α σ) (session : Session α σ) (steps : List (Step α)) : Prop :=
  ∃ earlier capacity later, steps = earlier ++ .spawn capacity :: later ∧
    ((session.steps handler earlier).2.step handler (.spawn capacity)).1 = .done ∧
    ∀ step ∈ later, step.isStop = false

theorem isHeld_concat (handler : Handler α σ) (session : Session α σ) (steps : List (Step α))
    (last : Step α) :
    session.IsHeld handler (steps ++ [last]) ↔
      session.IsHeld handler steps ∧ last.isStop = false ∨
        ∃ capacity, last = .spawn capacity ∧
          ((session.steps handler steps).2.step handler last).1 = .done := by
  have cut := exists_cut_concat steps last fun earlier step later =>
    ∃ capacity, step = .spawn capacity ∧
      ((session.steps handler earlier).2.step handler step).1 = .done ∧
      ∀ step ∈ later, step.isStop = false
  constructor
  · rintro ⟨earlier, capacity, later, split, accepted, unstopped⟩
    rcases cut.mp ⟨earlier, _, later, split, capacity, rfl, accepted, unstopped⟩ with
      ⟨earlier, _, later, split, capacity, rfl, accepted, unstopped⟩ |
      ⟨capacity, same, accepted, _⟩
    · refine .inl ⟨⟨earlier, capacity, later, split, accepted, fun step member => ?_⟩, ?_⟩
      · exact unstopped step (List.mem_append_left _ member)
      · exact unstopped last (List.mem_append_right _ (List.mem_singleton_self last))
    · exact .inr ⟨capacity, same, accepted⟩
  · rintro (⟨⟨earlier, capacity, later, split, accepted, unstopped⟩, going⟩ |
      ⟨capacity, rfl, accepted⟩)
    · refine ⟨earlier, capacity, later ++ [last], ?_, accepted, ?_⟩
      · rw [split, List.append_assoc, List.cons_append]
      · intro step member
        rcases List.mem_append.mp member with member | member
        · exact unstopped step member
        · exact List.mem_singleton.mp member ▸ going
    · exact ⟨steps, capacity, [], rfl, accepted, nofun⟩

/-- A task counts as started from the spawn that was accepted to the next stop. -/
theorem isSome_started_steps (handler : Handler α σ) (name : String) (state : σ)
    (sinkCapacity : Nat) (steps : List (Step α)) :
    let start : Session α σ := create name state sinkCapacity
    (start.steps handler steps).2.worker.started.isSome ↔ start.IsHeld handler steps := by
  intro start
  induction steps using List.reverseRecOn with
  | nil =>
      refine iff_of_false nofun ?_
      rintro ⟨earlier, capacity, later, split, _⟩
      exact absurd split.symm (by simp)
  | append_singleton steps last ih =>
      rw [steps_concat, started_step, isHeld_concat, ← ih]
      cases last with
      | spawn capacity =>
          rw [reply_spawn]
          cases (start.steps handler steps).2.worker.started <;> simp [Step.isStop]
      | _ => simp [Step.isStop]

/-- What the context and the task of a feed have to do with the steps. -/
structure Tracked (handler : Handler α σ) (start : Session α σ) (steps : List (Step α))
    (number : Nat) (feed : Feed α) : Prop where
  cancelled : feed.cancelled = true ↔
    start.WasCancelled handler steps number ∨ feed.isLive = false
  attended : feed.life = .unattended ↔ start.WasSpawned handler steps number
    (.failed (.alreadyStarted start.worker.name))

theorem Tracked.step {start : Session α σ} {feed next : Feed α} {last : Step α}
    {news : List (Happening α)} (tracked : Tracked handler start steps number feed)
    (found : (start.steps handler steps).2.worker.feeds[number]? = some feed)
    (touches : (start.steps handler steps).2.Touches handler number feed last next news) :
    Tracked handler start (steps ++ [last]) number next := by
  have inside := (List.getElem?_eq_some_iff.mp found).1
  have cancels : start.WasCancelled handler (steps ++ [last]) number ↔
      start.WasCancelled handler steps number ∨ last = .cancel number := by
    rw [WasCancelled, hasStep_concat, and_iff_left inside]
    rfl
  have spawns (reply : Reply) : start.WasSpawned handler (steps ++ [last]) number reply ↔
      start.WasSpawned handler steps number reply := by
    rw [WasSpawned, hasStep_concat]
    exact or_iff_left fun ⟨_, same, _⟩ => absurd same (by omega)
  obtain ⟨cancelled, attended⟩ := tracked
  cases touches with
  | leaves other _ =>
      refine ⟨cancelled.trans ?_, attended.trans (spawns _).symm⟩
      rw [cancels, or_iff_left other]
  | delivers delivery _ =>
      obtain ⟨life, context⟩ := feed.deliver_frame delivery
      have live : (feed.deliver delivery).2.isLive = feed.isLive := by
        unfold Feed.isLive
        rw [life]
      have other : Step.deliver number delivery ≠ .cancel number := nofun
      refine ⟨?_, by rw [life, spawns]; exact attended⟩
      rw [context, live, cancels, or_iff_left other]
      exact cancelled
  | cancels =>
      refine ⟨?_, attended.trans (spawns _).symm⟩
      rw [cancels]
      exact iff_of_true rfl (.inl (.inr rfl))
  | @runs _ choices quit here _ live moved =>
      have other : last ≠ .cancel number := by rcases here with rfl | rfl <;> exact nofun
      refine ⟨?_, ?_⟩
      · rw [cancels, or_iff_left other, Feed.cancelled_run _ _ _ _ live, Bool.or_eq_true, cancelled,
          live, Bool.not_eq_true']
        simp
      · rw [spawns, ← attended]
        refine iff_of_false (Feed.attended_run handler quit choices _ ?_) ?_ <;>
        · intro life
          simp [Feed.isLive, life] at live

/-- The number of a feed tells that it was opened, so one that is cancelled or spawned was there. -/
theorem lt_length_of_hasStep {holds : Session α σ → Step α → Prop}
    (opens : ∀ before step, holds before step →
      number < (before.step handler step).2.worker.feeds.length)
    (happened : session.HasStep handler steps holds) :
    number < (session.steps handler steps).2.worker.feeds.length := by
  induction steps using List.reverseRecOn with
  | nil =>
      obtain ⟨earlier, step, later, split, _⟩ := happened
      exact absurd split.symm (by simp)
  | append_singleton steps last ih =>
      rw [steps_concat]
      rcases (session.hasStep_concat handler steps last holds).mp happened with before | now
      · exact lt_length_step handler _ (ih before) last
      · exact opens _ _ now

theorem WasCancelled.lt_length (cancelled : session.WasCancelled handler steps number) :
    number < (session.steps handler steps).2.worker.feeds.length := by
  refine lt_length_of_hasStep (fun before step done => ?_) cancelled
  exact lt_length_step handler before done.2 step

theorem WasSpawned.lt_length {reply : Reply}
    (spawned : session.WasSpawned handler steps number reply) :
    number < (session.steps handler steps).2.worker.feeds.length := by
  refine lt_length_of_hasStep (fun before step done => ?_) spawned
  obtain ⟨⟨capacity, rfl⟩, rfl, _⟩ := done
  rw [length_spawn]
  exact Nat.lt_succ_self _

theorem tracked_opened {start : Session α σ} {feed : Feed α} (capacity : Nat)
    (opened : Feed.Opened (start.steps handler steps).2.worker.started feed) :
    Tracked handler start (steps ++ [.spawn capacity])
      (start.steps handler steps).2.worker.feeds.length feed := by
  have fresh : ¬ start.WasCancelled handler (steps ++ [.spawn capacity])
      (start.steps handler steps).2.worker.feeds.length := by
    rw [WasCancelled, hasStep_concat]
    rintro (earlier | ⟨same, _⟩)
    · exact Nat.lt_irrefl _ (WasCancelled.lt_length earlier)
    · cases same
  have spawned (reply : Reply) : start.WasSpawned handler (steps ++ [.spawn capacity])
      (start.steps handler steps).2.worker.feeds.length reply ↔
        ((start.steps handler steps).2.step handler (.spawn capacity)).1 = reply := by
    rw [WasSpawned, hasStep_concat]
    constructor
    · rintro (earlier | ⟨_, _, replied⟩)
      · exact absurd (WasSpawned.lt_length earlier) (Nat.lt_irrefl _)
      · exact replied
    · exact fun replied => .inr ⟨⟨capacity, rfl⟩, rfl, replied⟩
  have named := start.name_steps handler steps
  cases opened with
  | attended size free =>
      refine ⟨iff_of_false nofun ?_, iff_of_false nofun ?_⟩
      · rintro (cancelled | still)
        · exact fresh cancelled
        · cases still
      · rw [spawned, reply_spawn, free]
        exact nofun
  | rejected size current taken =>
      refine ⟨iff_of_true rfl (.inr rfl), iff_of_true rfl ?_⟩
      rw [spawned, reply_spawn, taken, named]
      rfl

theorem tracked_steps (handler : Handler α σ) (name : String) (state : σ) (sinkCapacity : Nat)
    (steps : List (Step α)) :
    let start : Session α σ := create name state sinkCapacity
    ∀ number feed, (start.steps handler steps).2.worker.feeds[number]? = some feed →
      Tracked handler start steps number feed := by
  intro start
  induction steps using List.reverseRecOn with
  | nil =>
      intro number feed found
      cases found
  | append_singleton steps last ih =>
      intro number next found
      rw [steps_concat] at found
      cases before : (start.steps handler steps).2.worker.feeds[number]? with
      | some feed =>
          obtain ⟨changed, there, touches⟩ := feed_step handler _ before last
          cases there.symm.trans found
          exact (ih number feed before).step before touches
      | none =>
          obtain ⟨rfl, ⟨capacity, rfl⟩, opened⟩ := feed_step_new handler _ before last found
          exact tracked_opened capacity opened

/-- The context of every feed is cancelled exactly where it was cancelled from outside, or the
feed was turned away, or its task has ended, for whatever reason. Only one task has not ended, and
a spawn is turned away exactly while an accepted one was not followed by a stop, also if its task
has ended by itself. -/
theorem contexts_follow_tasks (handler : Handler α σ) (name : String) (state : σ)
    (sinkCapacity : Nat) (steps : List (Step α)) :
    let start : Session α σ := create name state sinkCapacity
    let session := (start.steps handler steps).2
    (∀ number feed, session.worker.feeds[number]? = some feed →
      (feed.cancelled = true ↔
        start.WasCancelled handler steps number ∨
        start.WasSpawned handler steps number (.failed (.alreadyStarted name)) ∨
        ∃ exit, feed.life = .ended exit) ∧
      (feed.life = .unattended ↔
        start.WasSpawned handler steps number (.failed (.alreadyStarted name)))) ∧
    (∀ (first second : Nat) (feed other : Feed α), session.worker.feeds[first]? = some feed →
      session.worker.feeds[second]? = some other → feed.isLive = true → other.isLive = true →
      first = second) ∧
    ∀ capacity,
      let reply := (session.step handler (.spawn capacity)).1
      (reply = .failed (.alreadyStarted name) ↔ start.IsHeld handler steps) ∧
      (reply = .done ↔ ¬ start.IsHeld handler steps) := by
  intro start session
  have faithful : session.Faithful name (start.history handler steps) :=
    faithful_history handler name state sinkCapacity steps
  refine ⟨fun number feed found => ?_, ?_, fun capacity => ?_⟩
  · obtain ⟨cancelled, attended⟩ := tracked_steps handler name state sinkCapacity steps number
      feed found
    refine ⟨?_, attended⟩
    rw [cancelled, Feed.isLive_eq_false_iff]
    exact or_congr_right (or_congr_left attended)
  · intro first second feed other found found' live live'
    have same := (faithful.started_of_live found live).symm.trans
      (faithful.started_of_live found' live')
    exact Option.some.inj same
  · intro reply
    have held : session.worker.started.isSome ↔ start.IsHeld handler steps :=
      isSome_started_steps handler name state sinkCapacity steps
    have replied : reply = if session.worker.started.isSome then
        .failed (.alreadyStarted name) else .done := by
      rw [← faithful.named]
      exact session.reply_spawn handler capacity
    rw [replied, ← held]
    cases session.worker.started <;> simp

/-- The handler panics on the first event. The task is gone and its context cancelled, and yet
the next feed is turned away. -/
theorem contexts_follow_panicked_task :
    let handler : Handler Nat Unit := ⟨fun state => state, fun state _ => (state, .panic)⟩
    let steps : List (Step Nat) :=
      [.spawn 1, .deliver 0 (.event 7), .run [], .spawn 1]
    let session := ((create "htlcs" () 1).steps handler steps).2
    ∃ ended rejected, session.worker.feeds[0]? = some ended ∧
      session.worker.feeds[1]? = some rejected ∧
      ended.life = .ended .panicked ∧ ended.cancelled = true ∧
      (create "htlcs" () 1).WasSpawned handler steps 1 (.failed (.alreadyStarted "htlcs")) ∧
      (session.step handler (.spawn 1)).1 = .failed (.alreadyStarted "htlcs") := by
  intro handler steps session
  have told := contexts_follow_tasks handler "htlcs" () 1 steps
  have ended : session.worker.feeds[0]? =
      some ⟨⟨1, [], true, false⟩, ⟨1, [], true, false⟩, true, .ended .panicked⟩ := by
    decide +kernel
  have rejected : session.worker.feeds[1]? =
      some ⟨⟨1, [], true, false⟩, ⟨1, [], true, false⟩, true, .unattended⟩ := by
    decide +kernel
  have held : (create "htlcs" () 1).IsHeld handler steps :=
    ⟨[], 1, [.deliver 0 (.event 7), .run [], .spawn 1], rfl, rfl, by decide⟩
  exact ⟨_, _, ended, rejected, rfl, (told.1 0 _ ended).1.mpr (.inr (.inr ⟨.panicked, rfl⟩)),
    (told.1 1 _ rejected).2.mp rfl, (told.2.2 1).1.mpr held⟩

end Session

end LightningMetrics.Streaming
