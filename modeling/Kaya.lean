import Kaya.Access.ClientIP
import Kaya.Assets.Continuity
import Kaya.Assets.Deadlocks
import Kaya.Assets.EvidenceRuns
import Kaya.Assets.Resolution
import Kaya.Backup.DispatchRuns
import Kaya.Backup.SignatureBinding
import Kaya.Cutover.Authority
import Kaya.Dns.ClientMatching
import Kaya.Dns.ClientStatus
import Kaya.Dns.Conservation
import Kaya.Dns.LeaseHistoryRuns
import Kaya.Flow.AccountingOrder
import Kaya.Flow.ColumnRange
import Kaya.Flow.EndpointBatches
import Kaya.Flow.Roundtrip
import Kaya.Flow.Scoping
import Kaya.Flow.UsageAgreement
import Kaya.HA.AutomationSettings
import Kaya.HA.EventIngestion
import Kaya.HA.FailoverSafety
import Kaya.HA.FastPath
import Kaya.HA.FrozenLeases
import Kaya.HA.HeartbeatOrder
import Kaya.HA.KeepalivedAcceptance
import Kaya.HA.LeaseCalls
import Kaya.HA.LeaseCanonical
import Kaya.HA.LeaseContinuity
import Kaya.HA.OfferedGenerations
import Kaya.HA.PreemptionSafety
import Kaya.HA.PromotionCleanup
import Kaya.HA.Recovery
import Kaya.HA.ReplayProtection
import Kaya.HA.ResultStore
import Kaya.HA.SilentAgents
import Kaya.HA.StageWait
import Kaya.HA.SyncDrift
import Kaya.Integrity.Exclusivity
import Kaya.Integrity.Lifecycle
import Kaya.Migration.Cycles
import Kaya.Migration.Restoration
import Kaya.Monitor.DueMonitors
import Kaya.Monitor.HistoryRuns
import Kaya.Monitor.IncidentNotices
import Kaya.Notifications.ItemFailures
import Kaya.Notifications.OutboxRuns
import Kaya.OIDC.InvitationRuns
import Kaya.Reporting.DeviceRows
import Kaya.SecureSend.Archive
import Kaya.SecureSend.Downloads
import Kaya.SecureSend.Unlock
import Kaya.Snmp.CounterRates
import Kaya.Snmp.IntervalSplit
import Kaya.Snmp.PollingChain
