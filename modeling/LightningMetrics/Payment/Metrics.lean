import LightningMetrics.Metrics.Family
import LightningMetrics.Payment.Basic

set_option autoImplicit false

namespace LightningMetrics

/-- The label of a status. Only final ones are subscribed to, so any other is unexpected. -/
def PaymentStatus.text : PaymentStatus → String
  | succeeded => "succeeded"
  | failed => "failed"
  | _ => "unknown"

/-- The bounds of the attempts: the powers of two up to 512. -/
def attemptBounds : List Binary64 :=
  (List.range 10).map fun exponent => Binary64.ofNat (1 <<< exponent)

structure PaymentMetrics where
  payments : SeriesMap Nat
  /-- Sums of words, which wrap like one. -/
  attempts : SeriesMap UInt64
  attemptsPerPayment : Histogram

namespace PaymentMetrics

def empty : PaymentMetrics := ⟨∅, ∅, .empty attemptBounds⟩

/-- Counts a payment with all of its attempts. -/
def record (metrics : PaymentMetrics) (payment : Payment) : PaymentMetrics where
  payments := metrics.payments.update [payment.status.text] 0 (· + 1)
  attempts := metrics.attempts.update [payment.status.text] 0 (· + payment.attempts)
  attemptsPerPayment := metrics.attemptsPerPayment.observe (.ofNat payment.attempts.toNat)

def families (metrics : PaymentMetrics) : List Family :=
  [{ name := "lnd_total_payments"
     help := "Total number of payments initiated, labeled by final status"
     labelNames := ["status"]
     series := .counters metrics.payments.toList },
   { name := "lnd_total_htlc_attempts"
     help := "Total number of HTLC attempts across all payments, labeled by final payment status"
     labelNames := ["status"]
     series := .counters (metrics.attempts.map fun _ total => total.toNat).toList },
   { name := "lnd_payment_attempts_per_payment"
     help := "Histogram tracking the number of attempts per payment"
     labelNames := []
     series := .histograms [([], metrics.attemptsPerPayment)] }]

end PaymentMetrics

end LightningMetrics
