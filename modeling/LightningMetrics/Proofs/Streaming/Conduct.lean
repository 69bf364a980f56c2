import LightningMetrics.Streaming.Feed

/-!
What may happen to one subscription, from the spawn that hands it over to the report on its end.
`Step` is the protocol, one happening at a time, and `Run` a history that follows it. An accepted
error leaves only one way on: the task ends with it, and the report carries it.
-/

set_option autoImplicit false

namespace LightningMetrics.Streaming

/-- What can happen to a subscription. -/
inductive Happening (α : Type) where
  /-- A task was started for it. -/
  | spawned
  | turnedAway
  /-- An event found room in the channel. -/
  | eventSent (event : α)
  | errorSent (error : NodeError)
  | handled (event : α) (verdict : Verdict)
  | ended (exit : Exit)
  /-- The task handed an error to the sink. -/
  | reported (error : MonitorError)
deriving DecidableEq, Repr

namespace Happening

variable {α : Type}

def exit? : Happening α → Option Exit
  | ended exit => some exit
  | _ => none

def report? : Happening α → Option MonitorError
  | reported error => some error
  | _ => none

/-- The ways in which a task ended. -/
def exits (history : List (Happening α)) : List Exit :=
  history.filterMap exit?

/-- What was handed to the sink. -/
def reports (history : List (Happening α)) : List MonitorError :=
  history.filterMap report?

@[simp] theorem exits_append (earlier later : List (Happening α)) :
    exits (earlier ++ later) = exits earlier ++ exits later :=
  List.filterMap_append

@[simp] theorem reports_append (earlier later : List (Happening α)) :
    reports (earlier ++ later) = reports earlier ++ reports later :=
  List.filterMap_append

theorem mem_exits {history : List (Happening α)} {exit : Exit} :
    exit ∈ exits history ↔ .ended exit ∈ history := by
  unfold exits
  rw [List.mem_filterMap]
  constructor
  · rintro ⟨happening, member, shows⟩
    cases happening <;> simp only [exit?, reduceCtorEq, Option.some.injEq] at shows
    exact shows ▸ member
  · exact fun member => ⟨.ended exit, member, rfl⟩

theorem mem_reports {history : List (Happening α)} {error : MonitorError} :
    error ∈ reports history ↔ .reported error ∈ history := by
  unfold reports
  rw [List.mem_filterMap]
  constructor
  · rintro ⟨happening, member, shows⟩
    cases happening <;> simp only [report?, reduceCtorEq, Option.some.injEq] at shows
    exact shows ▸ member
  · exact fun member => ⟨.reported error, member, rfl⟩

end Happening

/-- Where a subscription stands. -/
inductive Conduct (α : Type) where
  | unopened
  /-- A task serves it, with these events and this error still to take. -/
  | serving (queue : List α) (error : Option NodeError)
  /-- The handler gave the task cause to end. -/
  | leaving (exit : Exit)
  /-- The task has ended, and the sink has yet to be told. -/
  | owing (error : MonitorError)
  /-- Nothing more can happen. -/
  | settled

namespace Conduct

variable {α : Type}

/-- Where the end of a task leads. -/
def departed (name : String) (exit : Exit) : Conduct α :=
  match exit.report? name with
  | some error => .owing error
  | none => .settled

/-- The protocol of a subscription to the stream `name`. With an error there to take the task does
nothing but end with it. -/
inductive Step (name : String) : Conduct α → Happening α → Conduct α → Prop where
  | spawn : Step name .unopened .spawned (.serving [] none)
  | turnAway : Step name .unopened .turnedAway .settled
  | event {queue : List α} {error : Option NodeError} {event : α} :
      Step name (.serving queue error) (.eventSent event) (.serving (queue ++ [event]) error)
  | error {queue : List α} {error : NodeError} :
      Step name (.serving queue none) (.errorSent error) (.serving queue (some error))
  | accept {queue : List α} {event : α} :
      Step name (.serving (event :: queue) none) (.handled event .accept) (.serving queue none)
  | fail {queue : List α} {event : α} {error : MonitorError} :
      Step name (.serving (event :: queue) none) (.handled event (.fail error))
        (.leaving (.handlerError error))
  | panic {queue : List α} {event : α} :
      Step name (.serving (event :: queue) none) (.handled event .panic) (.leaving .panicked)
  | leave {exit : Exit} : Step name (.leaving exit) (.ended exit) (departed name exit)
  | quit {queue : List α} :
      Step name (.serving queue none) (.ended .quit) (departed name .quit)
  | runDry : Step name (.serving [] none) (.ended .streamEnded) (departed name .streamEnded)
  | takeError {queue : List α} {error : NodeError} :
      Step name (.serving queue (some error)) (.ended (.streamError error))
        (departed name (.streamError error))
  | report {error : MonitorError} : Step name (.owing error) (.reported error) .settled

/-- A history that follows the protocol. -/
inductive Run (name : String) : Conduct α → List (Happening α) → Conduct α → Prop where
  | done {conduct : Conduct α} : Run name conduct [] conduct
  | next {conduct middle last : Conduct α} {happening : Happening α}
      {later : List (Happening α)} (step : Step name conduct happening middle)
      (run : Run name middle later last) : Run name conduct (happening :: later) last

variable {name : String} {conduct middle last : Conduct α} {happening : Happening α}
  {earlier later history : List (Happening α)} {queue : List α} {error : NodeError} {exit : Exit}

theorem Step.run (step : Step name conduct happening middle) :
    Run name conduct [happening] middle :=
  .next step .done

theorem Run.append (first : Run name conduct earlier middle) (second : Run name middle later last) :
    Run name conduct (earlier ++ later) last := by
  induction first with
  | done => exact second
  | next step _ ih => exact .next step (ih second)

theorem Run.split (run : Run name conduct (earlier ++ later) last) :
    ∃ middle, Run name conduct earlier middle ∧ Run name middle later last := by
  induction earlier generalizing conduct with
  | nil => exact ⟨conduct, .done, run⟩
  | cons happening earlier ih =>
      cases run with
      | next step run =>
          obtain ⟨middle, first, second⟩ := ih run
          exact ⟨middle, .next step first, second⟩

/-- How the ends and reports of a history stand to where it has led: one end, and after it the
one report that its cause calls for. -/
def Accounts (name : String) (exits : List Exit) (reports : List MonitorError) :
    Conduct α → Prop
  | .unopened => exits = [] ∧ reports = []
  | .serving _ _ => exits = [] ∧ reports = []
  | .leaving _ => exits = [] ∧ reports = []
  | .owing error => ∃ exit, exits = [exit] ∧ exit.report? name = some error ∧ reports = []
  | .settled => exits = [] ∧ reports = [] ∨
      ∃ exit, exits = [exit] ∧ reports = (exit.report? name).toList

theorem accounts_departed (name : String) (exit : Exit) :
    Accounts name [exit] [] (departed name exit : Conduct α) := by
  unfold departed
  cases called : exit.report? name with
  | some error => exact ⟨exit, rfl, called, rfl⟩
  | none => exact .inr ⟨exit, rfl, by rw [called]; rfl⟩

theorem Step.accounts {exits : List Exit} {reports : List MonitorError}
    (step : Step name conduct happening middle) (accounts : conduct.Accounts name exits reports) :
    middle.Accounts name (exits ++ happening.exit?.toList)
      (reports ++ happening.report?.toList) := by
  cases step with
  | leave | quit | runDry | takeError =>
      obtain ⟨rfl, rfl⟩ := accounts
      exact accounts_departed name _
  | report =>
      obtain ⟨exit, rfl, called, rfl⟩ := accounts
      exact .inr ⟨exit, rfl, by rw [called]; rfl⟩
  | turnAway =>
      obtain ⟨rfl, rfl⟩ := accounts
      exact .inl ⟨rfl, rfl⟩
  | spawn | event | error | accept | fail | panic =>
      obtain ⟨rfl, rfl⟩ := accounts
      exact ⟨rfl, rfl⟩

theorem Run.accounts {exits : List Exit} {reports : List MonitorError}
    (run : Run name conduct history last) (accounts : conduct.Accounts name exits reports) :
    last.Accounts name (exits ++ Happening.exits history)
      (reports ++ Happening.reports history) := by
  induction run generalizing exits reports with
  | done => simpa [Happening.exits, Happening.reports] using accounts
  | @next conduct middle last happening later step run ih =>
      have after := ih (step.accounts accounts)
      have exits : Happening.exits (happening :: later) =
          happening.exit?.toList ++ Happening.exits later := by
        unfold Happening.exits
        cases happening <;> rfl
      have reports : Happening.reports (happening :: later) =
          happening.report?.toList ++ Happening.reports later := by
        unfold Happening.reports
        cases happening <;> rfl
      rw [exits, reports, ← List.append_assoc, ← List.append_assoc]
      exact after

theorem Run.accounts_unopened (run : Run name .unopened history last) :
    last.Accounts name (Happening.exits history) (Happening.reports history) := by
  have fresh : (unopened : Conduct α).Accounts name [] [] := ⟨rfl, rfl⟩
  exact run.accounts fresh

theorem Run.of_settled (run : Run name .settled history last) : history = [] := by
  cases run with
  | done => rfl
  | next step _ => cases step

theorem Run.of_departed (run : Run name (departed name exit) history last) :
    ∀ happening ∈ history, ∃ error, exit.report? name = some error ∧
      happening = .reported error := by
  unfold departed at run
  cases called : exit.report? name with
  | none =>
      rw [called] at run
      rw [run.of_settled]
      exact nofun
  | some error =>
      rw [called] at run
      cases run with
      | done => exact nofun
      | next step run =>
          cases step with
          | report =>
              rw [run.of_settled]
              intro happening member
              exact ⟨error, rfl, List.mem_singleton.mp member⟩

/-- With an error there to take nothing is handled, and the task ends with that error. -/
theorem Run.of_pending (run : Run name (.serving queue (some error)) history last) :
    ∀ happening ∈ history, (∃ event, happening = .eventSent event) ∨
      happening = .ended (.streamError error) ∨
      happening = .reported (.streamExited name error) := by
  induction history generalizing queue with
  | nil => exact nofun
  | cons head later ih =>
      cases run with
      | next step run =>
          intro happening member
          cases step with
          | event =>
              rcases List.mem_cons.mp member with rfl | member
              · exact .inl ⟨_, rfl⟩
              · exact ih run happening member
          | takeError =>
              rcases List.mem_cons.mp member with rfl | member
              · exact .inr (.inl rfl)
              · obtain ⟨report, called, reported⟩ := run.of_departed happening member
                cases called
                exact .inr (.inr reported)

theorem Run.still_pending (run : Run name (.serving queue (some error)) history last)
    (endless : Happening.exits history = []) : ∃ queue, last = .serving queue (some error) := by
  induction history generalizing queue with
  | nil =>
      cases run with
      | done => exact ⟨queue, rfl⟩
  | cons head later ih =>
      cases run with
      | next step run =>
          cases step with
          | event => exact ih run endless
          | takeError => cases endless

/-- An error is accepted only while the task is at work and has no other, and it decides all that
follows. -/
theorem Run.of_errorSent
    (run : Run name .unopened (earlier ++ .errorSent error :: later) last) :
    Happening.exits earlier = [] ∧ Happening.reports earlier = [] ∧
      ∃ queue, Run name (.serving queue (some error)) later last := by
  obtain ⟨middle, before, after⟩ := run.split
  cases after with
  | next step after =>
      cases step with
      | @error queue _ =>
          have accounts := before.accounts_unopened
          exact ⟨accounts.1, accounts.2, queue, after⟩

end Conduct

end LightningMetrics.Streaming
