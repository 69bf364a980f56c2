set_option autoImplicit false

namespace LightningMetrics

inductive PaymentStatus where
  | unknown
  | initiated
  | inFlight
  | succeeded
  | failed
deriving DecidableEq, Repr

structure Payment where
  hash : String
  status : PaymentStatus
  /-- How many HTLCs were tried. -/
  attempts : UInt64
deriving DecidableEq, Repr

end LightningMetrics
