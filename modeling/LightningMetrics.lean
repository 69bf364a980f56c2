import LightningMetrics.Main
import LightningMetrics.Proofs.Exporter.HtlcMonitoring
import LightningMetrics.Proofs.Exporter.PolledGauges
import LightningMetrics.Proofs.Exporter.Restart
import LightningMetrics.Proofs.Exporter.UnknownDirections
import LightningMetrics.Proofs.Htlc.Accounting
import LightningMetrics.Proofs.Htlc.Interleaving
import LightningMetrics.Proofs.Streaming.Relay
import LightningMetrics.Proofs.Streaming.Stopping
import LightningMetrics.Proofs.Exporter.Escalation
import LightningMetrics.Proofs.Streaming.Rejection
import LightningMetrics.Proofs.Streaming.Precedence
import LightningMetrics.Proofs.Fee.Splits
import LightningMetrics.Proofs.Lnd.HtlcMessages
import LightningMetrics.Proofs.Fee.LowerBound
import LightningMetrics.Proofs.Fee.Doublings
import LightningMetrics.Proofs.Fee.AmountLabels
import LightningMetrics.Proofs.Fee.UsableChannels
import LightningMetrics.Proofs.Channel.RemotePolicies
import LightningMetrics.Proofs.Htlc.FailureReasons
import LightningMetrics.Proofs.Stats.PolicyReports
import LightningMetrics.Proofs.Payment.Families
import LightningMetrics.Proofs.Fee.RoundBounds
