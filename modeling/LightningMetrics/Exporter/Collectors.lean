import LightningMetrics.Channel.RemotePolicy
import LightningMetrics.Fee.AmountLabel
import LightningMetrics.Fee.Series
import LightningMetrics.Metrics.Family
import LightningMetrics.Metrics.SeriesTable
import LightningMetrics.Node.Answers
import LightningMetrics.Stats.PolicyStats

set_option autoImplicit false

namespace LightningMetrics.Exporter

/-- The calls that a query made, in order, and what came of it. -/
abbrev Queried (α : Type) := List NodeCall × Except MonitorError α

/-- The balances by channel id, a later one replacing an earlier one. -/
def balancesOf (channels : List ChannelBalance) : ChannelMap UInt64 :=
  .ofEntries (channels.map fun channel => (channel.channel, channel.remoteSat))

/-- The inbound fee series of the node's present channels. -/
def queryFees (base : UInt64) (answers : NodeAnswers) : Queried (List (UInt64 × Binary64)) :=
  match answers.info with
  | .error error => ([.getInfo], .error (.node error))
  | .ok info =>
      match answers.channels with
      | .error error => ([.getInfo, .listChannels], .error (.node error))
      | .ok channels =>
          let calls := [.getInfo, .listChannels, .getNodeInfo info.identity true]
          match answers.nodeInfo info.identity true with
          | .error error => (calls, .error (.node error))
          | .ok edges =>
              match remotePolicies info.identity edges with
              | .error error => (calls, .error error)
              | .ok policies =>
                  (calls, .ok (Fee.inboundSeries base policies (balancesOf channels)))

/-- The statistics of the node's present graph. -/
def queryStats (answers : NodeAnswers) : Queried PolicyStats :=
  match answers.graph with
  | .error error => ([.describeGraph], .error (.node error))
  | .ok edges => ([.describeGraph], .ok (.ofEdges edges))

/-- The fee gauges of a series, set point by point. -/
def feeGauges (series : List (UInt64 × Binary64)) : SeriesTable Binary64 :=
  series.foldl (fun gauges point => gauges.update [Fee.amountLabel point.1] .zero fun _ => point.2)
    ∅

def feeFamily (gauges : SeriesTable Binary64) : Family where
  name := "inbound_fee"
  help := "fee charged for forwarding to this node"
  labelNames := ["amount"]
  series := .gauges gauges.toSeries

/-- The four gauges of one policy field. -/
def reportFamilies (field subject : String) (report : Stats.Report) : List Family :=
  [("min", report.min), ("max", report.max), ("avg", report.mean),
    ("median", report.median)].map fun statistic =>
      { name := "lnd_graph_" ++ field ++ "_" ++ statistic.1
        help := statistic.1 ++ " " ++ subject
        labelNames := []
        series := .gauges [([], statistic.2)] }

def statsFamilies (stats : PolicyStats) : List Family :=
  reportFamilies "timelock_delta" "time lock delta for a channel routing policy"
      stats.timeLockDelta ++
    reportFamilies "min_htlc_msat" "min htlc for a channel routing policy in msat"
      stats.minHtlc ++
    reportFamilies "max_htlc_msat" "max htlc for a channel routing policy in msat"
      stats.maxHtlc ++
    reportFamilies "fee_base_msat" "base fee for a channel routing policy in msat"
      stats.feeBase ++
    reportFamilies "fee_rate_msat" "fee rate for a channel routing policy in msat"
      stats.feeRate

end LightningMetrics.Exporter
