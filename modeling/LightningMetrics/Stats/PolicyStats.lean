import LightningMetrics.Channel.Basic
import LightningMetrics.Stats.Sample

set_option autoImplicit false

namespace LightningMetrics

/-- One value for each statistic field of a routing policy. -/
structure PolicyFields (α : Type) where
  timeLockDelta : α
  minHtlc : α
  maxHtlc : α
  feeBase : α
  feeRate : α
deriving DecidableEq, Repr

/-- The fields of a policy as doubles. -/
def RoutingPolicy.fields (policy : RoutingPolicy) : PolicyFields Binary64 where
  timeLockDelta := .ofNat policy.timeLockDelta.toNat
  minHtlc := .ofNat policy.minHtlcMsat.toNat
  maxHtlc := .ofNat policy.maxHtlcMsat.toNat
  feeBase := .ofNat policy.feeBaseMsat.toNat
  feeRate := .ofNat policy.feeRate.toNat

abbrev PolicyStats := PolicyFields Stats.Report

/-- What is shown before there are any statistics. -/
def PolicyStats.zero : PolicyStats := ⟨.zero, .zero, .zero, .zero, .zero⟩

/-- The policies of an edge, the first end's before the second's. -/
def ChannelEdge.policies (edge : ChannelEdge) : List RoutingPolicy :=
  [edge.first.policy, edge.second.policy].filterMap id

/-- Adds one policy to the sample of each field. -/
def PolicyFields.observe (samples : PolicyFields Stats.Sample) (policy : RoutingPolicy) :
    PolicyFields Stats.Sample where
  timeLockDelta := samples.timeLockDelta.observe policy.fields.timeLockDelta
  minHtlc := samples.minHtlc.observe policy.fields.minHtlc
  maxHtlc := samples.maxHtlc.observe policy.fields.maxHtlc
  feeBase := samples.feeBase.observe policy.fields.feeBase
  feeRate := samples.feeRate.observe policy.fields.feeRate

/-- The statistics of a graph. -/
def PolicyStats.ofEdges (edges : List ChannelEdge) : PolicyStats :=
  let empty := Stats.Sample.withCapacity (2 * edges.length)
  let samples := (edges.flatMap ChannelEdge.policies).foldl PolicyFields.observe
    ⟨empty, empty, empty, empty, empty⟩
  { timeLockDelta := samples.timeLockDelta.report
    minHtlc := samples.minHtlc.report
    maxHtlc := samples.maxHtlc.report
    feeBase := samples.feeBase.report
    feeRate := samples.feeRate.report }

end LightningMetrics
