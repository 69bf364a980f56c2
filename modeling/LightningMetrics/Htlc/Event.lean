set_option autoImplicit false

namespace LightningMetrics

/-- One side of a forwarded HTLC: the channel it travels over and its index on that channel. -/
structure CircuitKey where
  channel : UInt64
  index : UInt64
deriving DecidableEq, Repr

namespace CircuitKey

instance : Ord CircuitKey where
  compare := compareLex (compareOn channel) (compareOn index)

def text (key : CircuitKey) : String :=
  toString key.channel ++ ":" ++ toString key.index

end CircuitKey

/-- The incoming and the outgoing circuit of an HTLC at our node. -/
structure HtlcKey where
  incoming : CircuitKey
  outgoing : CircuitKey
deriving DecidableEq, Repr

namespace HtlcKey

instance : Ord HtlcKey where
  compare := compareLex (compareOn incoming) (compareOn outgoing)

def text (key : HtlcKey) : String :=
  key.incoming.text ++ " -> " ++ key.outgoing.text

end HtlcKey

/-- The direction of an HTLC relative to our node. -/
inductive HtlcDirection where
  | unknown
  | send
  | receive
  | forward
deriving DecidableEq, Repr

/-- The stage in the life of an HTLC that an event reports. -/
inductive HtlcStage where
  /-- Offered to the next hop. -/
  | forwarded
  | settled
  /-- Failed back to us by a node further down the route. -/
  | failedBack
  /-- Failed at our own node, which describes why. -/
  | failedHere (detail : String)
  /-- The subscription is live. -/
  | subscribed
  /-- Resolved beyond recall, on chain or off chain. -/
  | finalized
  /-- No payload that is known. -/
  | other
deriving DecidableEq, Repr

structure HtlcEvent where
  key : HtlcKey
  /-- Nanoseconds since the Unix epoch. -/
  time : UInt64
  direction : HtlcDirection
  stage : HtlcStage
deriving DecidableEq, Repr

instance : Std.TransOrd CircuitKey :=
  inferInstanceAs (Std.TransCmp (compareLex (compareOn CircuitKey.channel) (compareOn
    CircuitKey.index)))

instance : Std.LawfulEqOrd CircuitKey where
  eq_of_compare {left right} same := by
    have both : compare left.channel right.channel = .eq ∧
        compare left.index right.index = .eq := by
      have split : (compare left.channel right.channel).then
          (compare left.index right.index) = .eq := same
      exact Ordering.then_eq_eq.mp split
    cases left
    cases right
    simp_all

instance : Std.TransOrd HtlcKey :=
  inferInstanceAs (Std.TransCmp (compareLex (compareOn HtlcKey.incoming) (compareOn
    HtlcKey.outgoing)))

instance : Std.LawfulEqOrd HtlcKey where
  eq_of_compare {left right} same := by
    have both : compare left.incoming right.incoming = .eq ∧
        compare left.outgoing right.outgoing = .eq := by
      have split : (compare left.incoming right.incoming).then
          (compare left.outgoing right.outgoing) = .eq := same
      exact Ordering.then_eq_eq.mp split
    cases left
    cases right
    simp_all

end LightningMetrics
