import LightningMetrics.Exporter.Monitors
import LightningMetrics.Payment.Metrics
import LightningMetrics.Proofs.Metrics.Buckets
import LightningMetrics.Proofs.Metrics.UpdatedSeries
import LightningMetrics.Proofs.Streaming.Replay

set_option autoImplicit false

namespace LightningMetrics

open Streaming (Happening Session Step)

/-- The status labels, with the statuses that have them. -/
def statusLabels : List (String × (PaymentStatus → Bool)) :=
  [("succeeded", fun status => status = .succeeded),
    ("failed", fun status => status = .failed),
    ("unknown", fun status => status ≠ .succeeded ∧ status ≠ .failed)]

theorem statusLabels_text {label : String × (PaymentStatus → Bool)} (known : label ∈ statusLabels)
    (status : PaymentStatus) : decide (status.text = label.1) = label.2 status := by
  simp only [statusLabels, List.mem_cons, List.not_mem_nil, or_false] at known
  rcases known with rfl | rfl | rfl <;> cases status <;> rfl

theorem exists_statusLabel (status : PaymentStatus) :
    ∃ label ∈ statusLabels, label.1 = status.text ∧ label.2 status = true := by
  have listed : ∃ label ∈ statusLabels, label.1 = status.text := by
    cases status <;> simp [statusLabels, PaymentStatus.text]
  obtain ⟨label, known, own⟩ := listed
  refine ⟨label, known, own, ?_⟩
  rw [← statusLabels_text known, own]
  exact decide_eq_true rfl

theorem toNat_foldl_words (words : List UInt64) (start : UInt64)
    (fits : start.toNat + (words.map UInt64.toNat).sum < 2 ^ 64) :
    (words.foldl (fun total word => total + word) start).toNat =
      start.toNat + (words.map UInt64.toNat).sum := by
  induction words generalizing start with
  | nil => rfl
  | cons word rest ih =>
      rw [List.map_cons, List.sum_cons] at *
      have unwrapped : (start + word).toNat = start.toNat + word.toNat := by
        rw [UInt64.toNat_add]
        exact Nat.mod_eq_of_lt (by omega)
      rw [List.foldl_cons, ih _ (by omega), unwrapped, Nat.add_assoc]

namespace PaymentMetrics

/-- Records payments one after the other. -/
def recordAll (payments : List Payment) : PaymentMetrics :=
  payments.foldl record empty

/-- The labels that recording these payments uses, with the attempts that it adds. -/
def uses (payments : List Payment) : List (List String × UInt64) :=
  payments.map fun payment => ([payment.status.text], payment.attempts)

theorem recordAll_eq (payments : List Payment) :
    recordAll payments =
      { payments := (∅ : SeriesMap Nat).updateAll 0 (fun _ count => count + 1) (uses payments)
        attempts := (∅ : SeriesMap UInt64).updateAll 0 (fun attempts total => total + attempts)
          (uses payments)
        attemptsPerPayment := (Histogram.empty attemptBounds).observeAll
          (payments.map fun payment => .ofNat payment.attempts.toNat) } := by
  induction payments using List.reverseRecOn with
  | nil => rfl
  | append_singleton payments payment ih =>
      unfold recordAll uses at *
      rw [List.foldl_append, ih]
      simp only [List.foldl_cons, List.foldl_nil, List.map_append, List.map_singleton,
        SeriesMap.updateAll_concat, Histogram.observeAll_concat]
      rfl

/-- The metrics say of these payments how many have each status, what they took, and how many took
at most so many attempts. -/
structure Tells (metrics : PaymentMetrics) (payments : List Payment) : Prop where
  number : ∀ label ∈ statusLabels,
    metrics.payments.getD [label.1] 0 = payments.countP fun payment => label.2 payment.status
  attempts : ∀ label ∈ statusLabels,
    (metrics.attempts.getD [label.1] 0).toNat =
      ((payments.filter fun payment => label.2 payment.status).map (·.attempts.toNat)).sum
  /-- There are series for the labels that payments have, and no others. -/
  present : ∀ labels, labels ∈ metrics.payments ↔
    ∃ label ∈ statusLabels, labels = [label.1] ∧
      ∃ payment ∈ payments, label.2 payment.status = true
  sameSeries : metrics.payments.keys = metrics.attempts.keys
  sampleCount : metrics.attemptsPerPayment.count = (metrics.payments.toList.map Prod.snd).sum
  cumulative : metrics.attemptsPerPayment.cumulative = (List.range 10).map fun exponent =>
    (.ofNat (2 ^ exponent), payments.countP fun payment => payment.attempts.toNat ≤ 2 ^ exponent)

/-- The metrics are the same but for the sum of the histogram. -/
structure CountsAlike (metrics other : PaymentMetrics) : Prop where
  payments : metrics.payments.toList = other.payments.toList
  attempts : metrics.attempts.toList = other.attempts.toList
  sampleCount : metrics.attemptsPerPayment.count = other.attemptsPerPayment.count
  cumulative : metrics.attemptsPerPayment.cumulative = other.attemptsPerPayment.cumulative

theorem broughtTo_uses {label : String × (PaymentStatus → Bool)} (known : label ∈ statusLabels)
    (payments : List Payment) :
    SeriesMap.broughtTo [label.1] (uses payments) =
      (payments.filter fun payment => label.2 payment.status).map (·.attempts) := by
  unfold SeriesMap.broughtTo uses
  rw [List.filter_map, List.map_map]
  have chosen : (payments.filter fun payment => [payment.status.text] = [label.1]) =
      payments.filter fun payment => label.2 payment.status := by
    apply List.filter_congr
    intro payment _
    rw [← statusLabels_text known, decide_eq_decide, List.singleton_inj]
  rw [← chosen]
  rfl

theorem mem_uses {payments : List Payment} {labels : List String} :
    labels ∈ (uses payments).map Prod.fst ↔
      ∃ label ∈ statusLabels, labels = [label.1] ∧
        ∃ payment ∈ payments, label.2 payment.status = true := by
  unfold uses
  rw [List.map_map, List.mem_map]
  constructor
  · rintro ⟨payment, member, rfl⟩
    obtain ⟨label, known, own, holds⟩ := exists_statusLabel payment.status
    exact ⟨label, known, by rw [own]; rfl, payment, member, holds⟩
  · rintro ⟨label, known, rfl, payment, member, holds⟩
    refine ⟨payment, member, ?_⟩
    rw [← statusLabels_text known, decide_eq_true_eq] at holds
    rw [← holds]
    rfl

theorem attemptBounds_eq :
    attemptBounds = (List.range 10).map fun exponent => Binary64.ofNat (2 ^ exponent) := by
  unfold attemptBounds
  simp only [Nat.one_shiftLeft]

theorem le_attemptBound {attempts exponent : Nat} (word : attempts < 2 ^ 64)
    (listed : exponent ∈ List.range 10) :
    (Binary64.ofNat attempts).le (.ofNat (2 ^ exponent)) = true ↔ attempts ≤ 2 ^ exponent := by
  rw [List.mem_range] at listed
  have small : 2 ^ exponent < 2 ^ 52 := by
    apply Nat.pow_lt_pow_right
    · omega
    · omega
  apply Binary64.le_ofNat_iff word
  · omega
  · exact .inr small

theorem isAscending_attemptBounds : Histogram.IsAscending attemptBounds := by
  unfold Histogram.IsAscending
  rw [attemptBounds_eq, List.pairwise_map]
  apply List.Pairwise.imp_of_mem _ List.pairwise_lt_range
  intro lower upper low high below
  have word : 2 ^ lower < 2 ^ 64 := by
    rw [List.mem_range] at low
    exact Nat.pow_lt_pow_right (by omega) (by omega)
  rw [le_attemptBound word high]
  apply Nat.pow_le_pow_right <;> omega

theorem cumulative_recordAll (payments : List Payment) :
    (recordAll payments).attemptsPerPayment.cumulative = (List.range 10).map fun exponent =>
      (.ofNat (2 ^ exponent),
        payments.countP fun payment => payment.attempts.toNat ≤ 2 ^ exponent) := by
  rw [recordAll_eq, Histogram.cumulative_observeAll isAscending_attemptBounds, attemptBounds_eq,
    List.map_map]
  apply List.map_congr_left
  intro exponent listed
  rw [Function.comp_apply, List.countP_map]
  congr 1
  apply List.countP_congr
  intro payment _
  rw [Function.comp_apply, le_attemptBound payment.attempts.toNat_lt listed, decide_eq_true_eq]

theorem tells_recordAll {payments : List Payment}
    (fits : (payments.map (·.attempts.toNat)).sum < 2 ^ 64) :
    (recordAll payments).Tells payments where
  number label known := by
    rw [recordAll_eq, SeriesMap.getD_updateAll, broughtTo_uses known, List.foldl_add_const,
      List.length_map, List.countP_eq_length_filter]
    omega
  attempts label known := by
    have chosen : ((payments.filter fun payment => label.2 payment.status).map
        (·.attempts.toNat)).sum ≤ (payments.map (·.attempts.toNat)).sum :=
      (List.filter_sublist.map _).sum_le_sum fun _ _ => Nat.zero_le _
    have added : ((payments.filter fun payment => label.2 payment.status).map
        (·.attempts)).map UInt64.toNat = (payments.filter fun payment =>
          label.2 payment.status).map (·.attempts.toNat) := List.map_map
    rw [recordAll_eq, SeriesMap.getD_updateAll, broughtTo_uses known, toNat_foldl_words, added]
    · exact Nat.zero_add _
    · rw [added, UInt64.toNat_zero, Nat.zero_add]
      exact Nat.lt_of_le_of_lt chosen fits
  present labels := by
    rw [recordAll_eq, SeriesMap.mem_updateAll, mem_uses]
  sameSeries := by
    rw [recordAll_eq]
    exact SeriesMap.keys_updateAll _ _
  sampleCount := by
    rw [recordAll_eq, Histogram.count_observeAll, SeriesMap.sum_counts, List.length_map]
    unfold uses
    rw [List.length_map]
    exact Nat.zero_add _
  cumulative := cumulative_recordAll payments

theorem countsAlike_of_perm {payments others : List Payment} (permuted : others.Perm payments) :
    (recordAll others).CountsAlike (recordAll payments) := by
  have used : (uses others).Perm (uses payments) := permuted.map _
  have observed := Histogram.observeAll_of_perm
    (permuted.map fun payment => Binary64.ofNat payment.attempts.toNat) (.empty attemptBounds)
  rw [recordAll_eq, recordAll_eq]
  refine ⟨?_, ?_, observed.2, congrArg (Histogram.runningTotals 0) observed.1⟩
  · apply SeriesMap.toList_updateAll_of_perm used
    intro one other same
    rw [List.foldl_add_const, List.foldl_add_const, same.length_eq]
  · apply SeriesMap.toList_updateAll_of_perm used
    intro one other same
    apply same.foldl_eq'
    intro first _ second _ total
    rw [UInt64.add_assoc, UInt64.add_assoc, UInt64.add_comm first]

end PaymentMetrics

namespace Exporter

open PaymentMetrics (recordAll)

/-- The monitor of the payments with a sink of its own, before it is started. -/
def paymentMonitor (sinkCapacity : Nat) : Session Payment PaymentMetrics :=
  ⟨paymentWorker, .opened sinkCapacity⟩

/-- The payments that the monitor has handled in these steps, in their order. -/
def handledPayments (sinkCapacity : Nat) (steps : List (Step Payment)) : List Payment :=
  (Happening.notes (((paymentMonitor sinkCapacity).history paymentHandler steps).map
    Prod.snd)).map Prod.fst

/-- The metrics of the monitor after these steps. -/
def monitoredPayments (sinkCapacity : Nat) (steps : List (Step Payment)) : PaymentMetrics :=
  ((paymentMonitor sinkCapacity).steps paymentHandler steps).2.worker.state

theorem replay_paymentHandler (metrics : PaymentMetrics) (history : List (Happening Payment)) :
    paymentHandler.replay metrics history =
      ((Happening.notes history).map Prod.fst).foldl PaymentMetrics.record metrics := by
  induction history generalizing metrics with
  | nil => rfl
  | cons happening rest ih => cases happening <;> exact ih _

theorem monitoredPayments_eq (sinkCapacity : Nat) (steps : List (Step Payment)) :
    monitoredPayments sinkCapacity steps = recordAll (handledPayments sinkCapacity steps) := by
  unfold monitoredPayments
  rw [Session.replay_steps, replay_paymentHandler]
  rfl

theorem prefix_handledPayments {sinkCapacity : Nat} {earlier steps : List (Step Payment)}
    (first : earlier <+: steps) :
    handledPayments sinkCapacity earlier <+: handledPayments sinkCapacity steps := by
  obtain ⟨later, rfl⟩ := first
  unfold handledPayments
  rw [Session.history_append, List.map_append, Happening.notes_append, List.map_append]
  exact List.prefix_append _ _

/-- Whatever payments are recorded, as long as a word holds all of their attempts, after every one
of them the families tell what was recorded so far, and tell the same in any other order. A monitor
that handles these payments, whatever else it is made to do, records them, and after any of its
steps those that it has handled by then. -/
theorem payment_families_agree (payments : List Payment)
    (fits : (payments.map (·.attempts.toNat)).sum < 2 ^ 64) :
    (∀ past, past <+: payments →
      (recordAll past).Tells past ∧
        ∀ others, others.Perm past → (recordAll others).CountsAlike (recordAll past)) ∧
    ∀ sinkCapacity steps, handledPayments sinkCapacity steps = payments →
      ∀ earlier, earlier <+: steps →
        handledPayments sinkCapacity earlier <+: payments ∧
          monitoredPayments sinkCapacity earlier =
            recordAll (handledPayments sinkCapacity earlier) := by
  constructor
  · intro past first
    have part : (past.map (·.attempts.toNat)).sum ≤ (payments.map (·.attempts.toNat)).sum :=
      (first.sublist.map _).sum_le_sum fun _ _ => Nat.zero_le _
    exact ⟨PaymentMetrics.tells_recordAll (Nat.lt_of_le_of_lt part fits),
      fun others => PaymentMetrics.countsAlike_of_perm⟩
  · intro sinkCapacity steps handled earlier first
    subst handled
    exact ⟨prefix_handledPayments first, monitoredPayments_eq sinkCapacity earlier⟩

/-- Four payments with three labels, and with 512, no, 513 and two attempts. A monitor handles two
of them in its first run, and the others in its second. -/
theorem payment_families_agree_of_four_payments :
    let payments : List Payment := [⟨"00", .succeeded, 512⟩, ⟨"01", .inFlight, 0⟩,
      ⟨"02", .failed, 513⟩, ⟨"03", .initiated, 2⟩]
    let steps : List (Step Payment) := [.spawn 2, .deliver 0 (.event ⟨"00", .succeeded, 512⟩),
      .deliver 0 (.event ⟨"01", .inFlight, 0⟩), .run [],
      .deliver 0 (.event ⟨"02", .failed, 513⟩), .deliver 0 (.event ⟨"03", .initiated, 2⟩),
      .run []]
    (payments.map (·.attempts.toNat)).sum < 2 ^ 64 ∧
      handledPayments 1 steps = payments ∧
      (monitoredPayments 1 steps).payments.getD ["unknown"] 0 = 2 ∧
      ((monitoredPayments 1 steps).attempts.getD ["unknown"] 0).toNat = 2 ∧
      (monitoredPayments 1 steps).attemptsPerPayment.cumulative =
        [(.ofNat 1, 1), (.ofNat 2, 2), (.ofNat 4, 2), (.ofNat 8, 2), (.ofNat 16, 2),
          (.ofNat 32, 2), (.ofNat 64, 2), (.ofNat 128, 2), (.ofNat 256, 2), (.ofNat 512, 3)] ∧
      (recordAll payments.reverse).CountsAlike (recordAll payments) := by
  intro payments steps
  have fits : (payments.map (·.attempts.toNat)).sum < 2 ^ 64 := by decide
  have handled : handledPayments 1 steps = payments := by decide +kernel
  obtain ⟨recorded, monitored⟩ := payment_families_agree payments fits
  obtain ⟨tells, alike⟩ := recorded payments List.prefix_rfl
  have same := (monitored 1 steps handled steps List.prefix_rfl).2
  rw [handled] at same
  rw [same]
  refine ⟨fits, handled, ?_, ?_, ?_, alike _ payments.reverse_perm⟩
  · exact tells.number ("unknown", _) (.tail _ (.tail _ (.head _)))
  · exact tells.attempts ("unknown", _) (.tail _ (.tail _ (.head _)))
  · exact tells.cumulative

end Exporter

end LightningMetrics
