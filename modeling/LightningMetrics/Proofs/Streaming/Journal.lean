import LightningMetrics.Proofs.Streaming.Conduct
import LightningMetrics.Proofs.Streaming.Recording
import LightningMetrics.Streaming.Session

set_option autoImplicit false

namespace LightningMetrics.Streaming

variable {α σ : Type}

/-- What happens to a feed when its producer is told this. -/
def Delivery.happenings : Delivery α → Receipt → List (Happening α)
  | .event value, .send .sent => [.eventSent value]
  | .error cause, .send .sent => [.errorSent cause]
  | _, _ => []

theorem Delivery.happenings_of_unsent {delivery : Delivery α} {result : SendResult}
    (unsent : result ≠ .sent) : delivery.happenings (.send result) = [] := by
  cases result with
  | sent => exact absurd rfl unsent
  | full | closed | dropped => cases delivery <;> rfl

/-- What the end of a task at this point of its life makes happen. -/
def Life.departure (name : String) : Life → List (Happening α)
  | .ended exit => .ended exit :: (exit.report? name).toList.map .reported
  | _ => []

namespace Feed

/-- What a run makes happen to a feed with a live task. -/
def runHappenings (name : String) (handler : Handler α σ) (quit : Bool) (choices : List Branch)
    (feed : Feed α) (state : σ) : List (Happening α) :=
  (feed.handled handler quit choices state).map (fun noted => .handled noted.1 noted.2) ++
    (feed.run handler quit choices state).1.life.departure name

end Feed

/-- What a run makes happen, with the number of the feed. -/
def Worker.runHappenings (handler : Handler α σ) (choices : List Branch) (worker : Worker α σ) :
    List (Nat × Happening α) :=
  match worker.current? with
  | none => []
  | some (number, feed) =>
      if feed.isLive then
        (feed.runHappenings worker.name handler worker.quit choices worker.state).map (number, ·)
      else []

namespace Session

/-- What a step makes happen, with the numbers of the feeds. -/
def happenings (handler : Handler α σ) (session : Session α σ) (step : Step α) :
    List (Nat × Happening α) :=
  match step, (session.step handler step).1 with
  | .spawn _, .done => [(session.worker.feeds.length, .spawned)]
  | .spawn _, .failed _ => [(session.worker.feeds.length, .turnedAway)]
  | .deliver feed delivery, .received receipt => (delivery.happenings receipt).map (feed, ·)
  | .run choices, _ => session.worker.runHappenings handler choices
  | .stop choices, _ => session.worker.signal.runHappenings handler choices
  | _, _ => []

/-- What a list of steps makes happen. -/
def history (handler : Handler α σ) (session : Session α σ) :
    List (Step α) → List (Nat × Happening α)
  | [] => []
  | step :: rest =>
      session.happenings handler step ++ (session.step handler step).2.history handler rest

end Session

/-- What a step of the owner does to the sink by itself. -/
def Step.onSink (sink : Sink MonitorError) : Step α → Sink MonitorError
  | .drainSink => if sink.receiverOpen then (Sink.drain sink).2 else sink
  | .closeSink => sink.closeReceiver
  | _ => sink

/-- What happened to one feed. -/
def ofFeed (number : Nat) (history : List (Nat × Happening α)) : List (Happening α) :=
  history.filterMap fun entry => if entry.1 = number then some entry.2 else none

@[simp] theorem ofFeed_append (number : Nat) (earlier later : List (Nat × Happening α)) :
    ofFeed number (earlier ++ later) = ofFeed number earlier ++ ofFeed number later :=
  List.filterMap_append

theorem ofFeed_own (number : Nat) (own : List (Happening α)) :
    ofFeed number (own.map (number, ·)) = own := by
  unfold ofFeed
  induction own with
  | nil => rfl
  | cons happening rest ih =>
      rw [List.map_cons, List.filterMap_cons, if_pos rfl]
      exact congrArg (happening :: ·) ih

theorem ofFeed_other {number other : Nat} (apart : other ≠ number) (own : List (Happening α)) :
    ofFeed number (own.map (other, ·)) = [] := by
  refine List.filterMap_eq_nil_iff.mpr fun entry member => ?_
  obtain ⟨happening, _, rfl⟩ := List.mem_map.mp member
  exact if_neg apart

theorem mem_ofFeed {number : Nat} {past : List (Nat × Happening α)} {happening : Happening α} :
    happening ∈ ofFeed number past ↔ (number, happening) ∈ past := by
  unfold ofFeed
  rw [List.mem_filterMap]
  constructor
  · rintro ⟨⟨other, _⟩, member, shows⟩
    by_cases same : other = number
    · subst same
      rw [if_pos rfl] at shows
      cases shows
      exact member
    · rw [if_neg same] at shows
      cases shows
  · exact fun member => ⟨_, member, if_pos rfl⟩

end LightningMetrics.Streaming
