import Std.Data.TreeMap
import LightningMetrics.MonitorError
import LightningMetrics.Text.Blank
import LightningMetrics.Text.Lowercase

/-!
Correlating HTLC events. A forward opens an entry in the table of active HTLCs; a settle or a
failure closes it and gives a resolution, with the time in flight if the forward was seen.
-/

set_option autoImplicit false

namespace LightningMetrics

/-- How an HTLC ended. A failure always has a reason that is fit for a label. -/
inductive Outcome where
  | settled
  | failed (reason : String)
deriving DecidableEq, Repr

namespace Outcome

def text : Outcome → String
  | settled => "settled"
  | failed _ => "failed"

/-- The reason label, empty for settled HTLCs. -/
def reasonText : Outcome → String
  | settled => ""
  | failed reason => reason

end Outcome

/-- A direction that the node knows. -/
inductive KnownDirection where
  | send
  | receive
  | forward
deriving DecidableEq, Repr

def KnownDirection.text : KnownDirection → String
  | send => "send"
  | receive => "receive"
  | forward => "forward"

def HtlcDirection.known? : HtlcDirection → Option KnownDirection
  | unknown => none
  | send => some .send
  | receive => some .receive
  | forward => some .forward

/-- One resolution, as far as its labels tell. -/
structure Resolution where
  outcome : Outcome
  incoming : UInt64
  outgoing : UInt64
  direction : KnownDirection
deriving DecidableEq, Repr

namespace Resolution

/-- The labels of the latency series. -/
def latencyLabels (resolution : Resolution) : List String :=
  [resolution.outcome.text, toString resolution.incoming, toString resolution.outgoing,
    resolution.direction.text]

/-- The labels of the counter series. -/
def counterLabels (resolution : Resolution) : List String :=
  resolution.latencyLabels ++ [resolution.outcome.reasonText]

end Resolution

/-- The reason of HTLCs that another node failed back; the actual one is not known here. -/
def externalReason : String := "failed_back"

/-- A failure description as a label: trimmed, with underscores for spaces, in lower case. -/
def normalizeReason (detail : List Char) : List Char :=
  Text.lowercase ((Text.trim detail).map fun char => if char = ' ' then '_' else char)

/-- What the failure description of a stage is: none for a stage that resolves nothing, and no
text inside for a settled HTLC. -/
def HtlcStage.resolution? : HtlcStage → Option (Option String)
  | settled => some none
  | failedBack => some (some externalReason)
  | failedHere detail => some (some detail)
  | _ => none

/-- The resolution that an event reports, given the failure description of its stage. -/
def HtlcEvent.resolution (event : HtlcEvent) (detail : Option String) :
    Except MonitorError Resolution :=
  match event.direction.known? with
  | none => .error (.unknownEventType event.key)
  | some direction =>
      let resolved (outcome : Outcome) : Resolution :=
        ⟨outcome, event.key.incoming.channel, event.key.outgoing.channel, direction⟩
      match detail with
      | none => .ok (resolved .settled)
      | some description =>
          match normalizeReason description.toList with
          | [] => .error (.unlabeledFailure event.key)
          | reason => .ok (resolved (.failed (String.ofList reason)))

/-- The HTLCs that were forwarded and not yet resolved, with the time of their forward. -/
abbrev ActiveTable := Std.TreeMap HtlcKey UInt64

/-- A resolution, and how many nanoseconds the HTLC was in flight if that is known. -/
structure ResolvedHtlc where
  resolution : Resolution
  inFlight : Option UInt64
deriving DecidableEq, Repr

/-- The time from `start` to `finish`; none elapses where the clock went back. -/
def elapsed (start finish : UInt64) : UInt64 :=
  if start ≤ finish then finish - start else 0

namespace ActiveTable

/-- Opens an entry. A replayed forward keeps the time of the first. -/
def forward (active : ActiveTable) (event : HtlcEvent) : ActiveTable :=
  if event.direction = .receive then active
  else active.insertIfNew event.key event.time

/-- Closes the entry of a resolved HTLC. A received HTLC has no hop in front of us to time. -/
def resolve (active : ActiveTable) (event : HtlcEvent) (resolution : Resolution) :
    ActiveTable × ResolvedHtlc :=
  if event.direction = .receive then (active, ⟨resolution, none⟩)
  else
    match active.get? event.key with
    | none => (active, ⟨resolution, none⟩)
    | some start => (active.erase event.key, ⟨resolution, some (elapsed start event.time)⟩)

/-- Takes in one event: the table after it, and the resolution it brings, if any. -/
def step (active : ActiveTable) (event : HtlcEvent) :
    Except MonitorError (ActiveTable × Option ResolvedHtlc) :=
  match event.stage.resolution? with
  | some detail =>
      match event.resolution detail with
      | .error error => .error error
      | .ok resolution =>
          let (rest, resolved) := active.resolve event resolution
          .ok (rest, some resolved)
  | none => .ok (if event.stage = .forwarded then active.forward event else active, none)

end ActiveTable

end LightningMetrics
