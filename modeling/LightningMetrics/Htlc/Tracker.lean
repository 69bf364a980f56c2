import LightningMetrics.Htlc.Resolution
import LightningMetrics.Metrics.Family
import LightningMetrics.Metrics.SeriesTable

set_option autoImplicit false

namespace LightningMetrics

/-- A number of nanoseconds in seconds: the whole seconds plus the rest over 10⁹. -/
def secondsOfNanos (nanos : UInt64) : Binary64 :=
  Binary64.ofNat (nanos.toNat / 1000000000) +
    Binary64.ofNat (nanos.toNat % 1000000000) / Binary64.ofNat 1000000000

/-- The bounds of the resolution times: 1 s, 10 s, 1 min, 2 min, 5 min, 10 min, 1 h, 5 h, 1 d and
7 d. -/
def resolutionBounds : List Binary64 :=
  [1, 10, 60, 120, 300, 600, 3600, 18000, 86400, 604800].map Binary64.ofNat

structure HtlcMetrics where
  resolved : SeriesTable Nat
  resolutionTime : SeriesTable Histogram

namespace HtlcMetrics

def empty : HtlcMetrics := ⟨∅, ∅⟩

/-- Counts a resolution, and the time in flight where it is known. -/
def record (metrics : HtlcMetrics) (htlc : ResolvedHtlc) : HtlcMetrics where
  resolved := metrics.resolved.update htlc.resolution.counterLabels 0 (· + 1)
  resolutionTime :=
    match htlc.inFlight with
    | none => metrics.resolutionTime
    | some nanos =>
        metrics.resolutionTime.update htlc.resolution.latencyLabels (.empty resolutionBounds)
          (·.observe (secondsOfNanos nanos))

/-- How many resolutions were counted. -/
def resolvedTotal (metrics : HtlcMetrics) : Nat :=
  metrics.resolved.foldl (fun total _ series => total + series.value) 0

/-- How many times in flight were observed. -/
def observedTotal (metrics : HtlcMetrics) : Nat :=
  metrics.resolutionTime.foldl (fun total _ series => total + series.value.count) 0

def families (metrics : HtlcMetrics) : List Family :=
  [{ name := "lnd_htlcs_resolved_htlcs"
     help := "count of resolved htlcs"
     labelNames := ["outcome", "chan_in", "chan_out", "type", "failure_reason"]
     series := .counters metrics.resolved.toSeries },
   { name := "lnd_htlcs_resolution_time"
     help := "the time (in seconds) taken to resolve a htlc"
     labelNames := ["outcome", "chan_in", "chan_out", "type"]
     series := .histograms metrics.resolutionTime.toSeries }]

end HtlcMetrics

/-- The table of active HTLCs together with the metrics of the resolved ones. -/
structure HtlcTracker where
  active : ActiveTable
  metrics : HtlcMetrics

namespace HtlcTracker

def empty : HtlcTracker := ⟨∅, .empty⟩

/-- Takes in one event. A rejected event changes nothing. -/
def process (tracker : HtlcTracker) (event : HtlcEvent) : Except MonitorError HtlcTracker :=
  match tracker.active.step event with
  | .error error => .error error
  | .ok (active, none) => .ok { tracker with active }
  | .ok (active, some htlc) => .ok ⟨active, tracker.metrics.record htlc⟩

/-- Forgets the active HTLCs and keeps the metrics. -/
def restart (tracker : HtlcTracker) : HtlcTracker :=
  { tracker with active := ∅ }

end HtlcTracker

end LightningMetrics
