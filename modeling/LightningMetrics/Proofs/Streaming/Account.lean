import LightningMetrics.Proofs.Streaming.Conduct

set_option autoImplicit false

namespace LightningMetrics.Streaming

variable {α : Type}

namespace Happening

def sent? : Happening α → Option α
  | eventSent event => some event
  | _ => none

def note? : Happening α → Option (α × Verdict)
  | handled event verdict => some (event, verdict)
  | _ => none

/-- The events whose send was accepted, in the order of the sends. -/
def sent (history : List (Happening α)) : List α :=
  history.filterMap sent?

/-- The events that were handled, in order, each with the verdict on it. -/
def notes (history : List (Happening α)) : List (α × Verdict) :=
  history.filterMap note?

@[simp] theorem sent_append (earlier later : List (Happening α)) :
    sent (earlier ++ later) = sent earlier ++ sent later :=
  List.filterMap_append

@[simp] theorem notes_append (earlier later : List (Happening α)) :
    notes (earlier ++ later) = notes earlier ++ notes later :=
  List.filterMap_append

theorem exits_concat (history : List (Happening α)) (last : Happening α) :
    exits (history ++ [last]) = exits history ++ last.exit?.toList := by
  rw [exits_append]
  cases last <;> rfl

theorem sent_concat (history : List (Happening α)) (last : Happening α) :
    sent (history ++ [last]) = sent history ++ last.sent?.toList := by
  rw [sent_append]
  cases last <;> rfl

theorem notes_concat (history : List (Happening α)) (last : Happening α) :
    notes (history ++ [last]) = notes history ++ last.note?.toList := by
  rw [notes_append]
  cases last <;> rfl

theorem mem_notes {history : List (Happening α)} {event : α} {verdict : Verdict} :
    (event, verdict) ∈ notes history ↔ .handled event verdict ∈ history := by
  unfold notes
  rw [List.mem_filterMap]
  constructor
  · rintro ⟨happening, member, shows⟩
    cases happening <;> simp only [note?, reduceCtorEq, Option.some.injEq, Prod.mk.injEq] at shows
    obtain ⟨rfl, rfl⟩ := shows
    exact member
  · exact fun member => ⟨.handled event verdict, member, rfl⟩

end Happening

/-- How a task ends on this verdict of its handler, if it does. -/
def Verdict.exit? : Verdict → Option Exit
  | accept => none
  | fail error => some (.handlerError error)
  | panic => some .panicked

/-- No event was handled with another verdict than acceptance. -/
def AllAccepted (notes : List (α × Verdict)) : Prop :=
  ∀ note ∈ notes, note.2 = .accept

/-- The last event that was handled is the first on which the verdict ended the task. -/
def FaultedWith (verdict : Verdict) (own : List (Happening α)) : Prop :=
  ∃ accepted event rest, AllAccepted accepted ∧
    Happening.notes own = accepted ++ [(event, verdict)] ∧
    Happening.sent own = accepted.map Prod.fst ++ event :: rest

/-- What a task that ended this way has made of the events sent to it. -/
def Settled (own : List (Happening α)) : Exit → Prop
  | .streamEnded => AllAccepted (Happening.notes own) ∧
      (Happening.notes own).map Prod.fst = Happening.sent own
  | .handlerError error => FaultedWith (.fail error) own
  | .panicked => FaultedWith .panic own
  | .quit | .streamError _ => AllAccepted (Happening.notes own) ∧
      (Happening.notes own).map Prod.fst <+: Happening.sent own

variable {own next : List (Happening α)} {exit : Exit}

theorem Settled.of_same (settled : Settled own exit)
    (notes : Happening.notes next = Happening.notes own)
    (sent : Happening.sent next = Happening.sent own) : Settled next exit := by
  cases exit <;> simpa only [Settled, FaultedWith, notes, sent] using settled

/-- However a task ended, it handled the first of the events that were sent. -/
theorem Settled.order (settled : Settled own exit) :
    (Happening.notes own).map Prod.fst <+: Happening.sent own := by
  have faulted {verdict : Verdict} (fault : FaultedWith verdict own) :
      (Happening.notes own).map Prod.fst <+: Happening.sent own := by
    obtain ⟨accepted, event, rest, _, notes, sent⟩ := fault
    refine ⟨rest, ?_⟩
    rw [notes, sent, List.map_append, List.append_assoc]
    rfl
  cases exit with
  | streamEnded => exact settled.2 ▸ List.prefix_rfl
  | handlerError error => exact faulted settled
  | panicked => exact faulted settled
  | quit => exact settled.2
  | streamError error => exact settled.2

namespace Conduct

variable {name : String} {conduct middle last : Conduct α} {happening : Happening α}
  {earlier later : List (Happening α)}

/-- How the history of a subscription stands to where it has led. -/
def Balanced (own : List (Happening α)) : Conduct α → Prop
  | .unopened => own = []
  | .serving queue _ => Happening.exits own = [] ∧ AllAccepted (Happening.notes own) ∧
      Happening.sent own = (Happening.notes own).map Prod.fst ++ queue
  | .leaving exit => Happening.exits own = [] ∧ Settled own exit
  | .owing _ => ∃ exit, Happening.exits own = [exit] ∧ Settled own exit
  | .settled => own = [.turnedAway] ∨ ∃ exit, Happening.exits own = [exit] ∧ Settled own exit

theorem balanced_departed (ended : Happening.exits own = [exit]) (settled : Settled own exit) :
    Balanced own (departed name exit) := by
  unfold departed
  cases exit.report? name with
  | some error => exact ⟨exit, ended, settled⟩
  | none => exact .inr ⟨exit, ended, settled⟩

theorem Step.balanced (step : Step name conduct happening middle)
    (balanced : conduct.Balanced own) : middle.Balanced (own ++ [happening]) := by
  -- What is neither a send nor a handled event leaves the account as it is.
  have silent {news : Happening α} (noNote : news.note? = none) (noSend : news.sent? = none)
      {exit : Exit} (settled : Settled own exit) : Settled (own ++ [news]) exit :=
    Settled.of_same settled (by rw [Happening.notes_concat, noNote]; exact List.append_nil _)
      (by rw [Happening.sent_concat, noSend]; exact List.append_nil _)
  have ends {exit : Exit} (endless : Happening.exits own = []) (settled : Settled own exit) :
      Balanced (own ++ [.ended exit]) (departed name exit) := by
    refine balanced_departed ?_ (silent rfl rfl settled)
    rw [Happening.exits_concat, endless]
    rfl
  have faults {event : α} {verdict : Verdict} {queue : List α}
      (accepted : AllAccepted (Happening.notes own))
      (order : Happening.sent own = (Happening.notes own).map Prod.fst ++ event :: queue) :
      FaultedWith verdict (own ++ [.handled event verdict]) := by
    refine ⟨Happening.notes own, event, queue, accepted, Happening.notes_concat own _, ?_⟩
    rw [Happening.sent_concat, order]
    exact List.append_nil _
  cases step with
  | spawn =>
      subst balanced
      exact ⟨rfl, nofun, rfl⟩
  | turnAway =>
      subst balanced
      exact .inl rfl
  | event | error =>
      obtain ⟨endless, accepted, order⟩ := balanced
      rw [Balanced, Happening.exits_concat, Happening.notes_concat, Happening.sent_concat, order,
        endless]
      exact ⟨rfl, by simpa [Happening.note?] using accepted,
        by simp [Happening.sent?, Happening.note?]⟩
  | accept =>
      obtain ⟨endless, accepted, order⟩ := balanced
      rw [Balanced, Happening.exits_concat, Happening.notes_concat, Happening.sent_concat, order,
        endless]
      refine ⟨rfl, ?_, by simp [Happening.sent?, Happening.note?]⟩
      intro note member
      rcases List.mem_append.mp member with member | member
      · exact accepted note member
      · rw [List.mem_singleton.mp member]
  | fail | panic =>
      obtain ⟨endless, accepted, order⟩ := balanced
      refine ⟨?_, faults accepted order⟩
      rw [Happening.exits_concat, endless]
      rfl
  | leave =>
      obtain ⟨endless, settled⟩ := balanced
      exact ends endless settled
  | quit =>
      obtain ⟨endless, accepted, order⟩ := balanced
      exact ends endless ⟨accepted, ⟨_, order.symm⟩⟩
  | runDry =>
      obtain ⟨endless, accepted, order⟩ := balanced
      exact ends endless ⟨accepted, (List.append_nil _).symm.trans order.symm⟩
  | takeError =>
      obtain ⟨endless, accepted, order⟩ := balanced
      exact ends endless ⟨accepted, ⟨_, order.symm⟩⟩
  | report =>
      obtain ⟨exit, ended, settled⟩ := balanced
      refine .inr ⟨exit, ?_, silent rfl rfl settled⟩
      rw [Happening.exits_concat, ended]
      rfl

theorem Run.balanced (run : Run name .unopened own conduct) : conduct.Balanced own := by
  suffices kept : ∀ (earlier : List (Happening α)) (middle : Conduct α),
      middle.Balanced earlier → Run name middle own conduct →
        conduct.Balanced (earlier ++ own) from kept [] .unopened rfl run
  clear run
  intro earlier middle balanced run
  induction run generalizing earlier with
  | done => exact (List.append_nil earlier).symm ▸ balanced
  | next step run ih =>
      have after := ih _ (step.balanced balanced)
      rwa [List.append_assoc] at after

theorem Balanced.order (balanced : conduct.Balanced own) :
    (Happening.notes own).map Prod.fst <+: Happening.sent own := by
  cases conduct with
  | unopened =>
      subst balanced
      exact List.prefix_rfl
  | serving queue error => exact ⟨queue, balanced.2.2.symm⟩
  | leaving exit => exact Settled.order balanced.2
  | owing error =>
      obtain ⟨exit, _, settled⟩ := balanced
      exact Settled.order settled
  | settled =>
      rcases balanced with rfl | ⟨exit, _, settled⟩
      · exact List.prefix_rfl
      · exact Settled.order settled

theorem Balanced.settled_of_ended (balanced : conduct.Balanced own) (ended : .ended exit ∈ own) :
    Settled own exit := by
  rw [← Happening.mem_exits] at ended
  have only {last : Exit} (one : Happening.exits own = [last] ∧ Settled own last) :
      Settled own exit := by
    rw [one.1, List.mem_singleton] at ended
    exact ended ▸ one.2
  cases conduct with
  | unopened =>
      subst balanced
      cases ended
  | serving queue error =>
      rw [balanced.1] at ended
      cases ended
  | leaving exit =>
      rw [balanced.1] at ended
      cases ended
  | owing error => exact only balanced.choose_spec
  | settled =>
      rcases balanced with rfl | one
      · cases ended
      · exact only one.choose_spec

/-- A subscription is handed over once: what comes later opens nothing. -/
theorem Run.notOpening (run : Run name conduct own last) (opened : conduct ≠ .unopened) :
    .spawned ∉ own ∧ .turnedAway ∉ own := by
  induction run with
  | done => exact ⟨nofun, nofun⟩
  | @next conduct middle last happening later step run ih =>
      have other : happening ≠ .spawned ∧ happening ≠ .turnedAway ∧ middle ≠ .unopened := by
        cases step with
        | spawn => exact absurd rfl opened
        | turnAway => exact absurd rfl opened
        | leave =>
            refine ⟨nofun, nofun, ?_⟩
            unfold departed
            split <;> exact nofun
        | _ => exact ⟨nofun, nofun, nofun⟩
      obtain ⟨noSpawn, noRefusal⟩ := ih other.2.2
      refine ⟨fun member => ?_, fun member => ?_⟩
      · rcases List.mem_cons.mp member with same | member
        · exact other.1 same.symm
        · exact noSpawn member
      · rcases List.mem_cons.mp member with same | member
        · exact other.2.1 same.symm
        · exact noRefusal member

/-- How a subscription begins: nothing has happened to it, or it was turned away for good, or a
task was started for it. -/
theorem Run.opening (run : Run name .unopened own conduct) :
    own = [] ∧ conduct = .unopened ∨ own = [.turnedAway] ∧ conduct = .settled ∨
      ∃ later, own = .spawned :: later ∧ Run name (.serving [] none) later conduct := by
  cases run with
  | done => exact .inl ⟨rfl, rfl⟩
  | next step run =>
      cases step with
      | turnAway =>
          cases run with
          | done => exact .inr (.inl ⟨rfl, rfl⟩)
          | next step _ => cases step
      | spawn => exact .inr (.inr ⟨_, rfl, run⟩)

/-- Nothing is handled after the end of a task. -/
theorem Run.notes_of_ended (run : Run name conduct (earlier ++ .ended exit :: later) last) :
    Happening.notes later = [] := by
  obtain ⟨_, _, after⟩ := run.split
  cases after with
  | next step after =>
      have departs {last : Conduct α} (after : Run name (departed name exit) later last) :
          Happening.notes later = [] := by
        refine List.filterMap_eq_nil_iff.mpr fun happening member => ?_
        obtain ⟨error, _, rfl⟩ := after.of_departed happening member
        rfl
      cases step <;> exact departs after

end Conduct

end LightningMetrics.Streaming
