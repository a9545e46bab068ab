import Kaya.Library.PyText
import Kaya.Library.Table

/-!
# The high-availability data model

The rows behind one Pi-hole cluster, as `app/models/models.py` declares them: the cluster, its
nodes, its controlled-failover and maintenance runs, the lease-replication state with its snapshots,
the stored agent action results and the events the services read back.

**Columns.** A column appears here when some modelled function reads it. Display-only columns
(addresses of the user interface, audit text, event text, progress lists) do not. JSON columns that
the services only ever write through `json.dumps` are the record they encode: `report_json` is
`FailoverReport`, `result_json` is `MaintenanceResult`, `previous_state_json` is `PreviousState`.

**Keys.** `public_id` columns are unique UUIDs in one-to-one correspondence with the primary key;
one key stands for both, so an action identifier names a run and a node by their keys.

**Digests.** SHA-256 is symbolic: a `Digest` *is* the text that was hashed, in the structured form
the code assembles it from. Two digests are equal exactly when the hashed texts are, and a digest is
always sixty-four hexadecimal digits.

**Time.** A naive UTC `datetime` is a count of microseconds.
-/

namespace Kaya.HA

/-- A naive UTC `datetime`, in microseconds. -/
abbrev DateTime := ℤ

/-- `timedelta(seconds=n)`. -/
def seconds (n : ℕ) : ℤ := n * 1000000

/-- Primary key of a node. -/
abbrev NodeId := ℕ

/-- Primary key of a failover or maintenance run. -/
abbrev RunId := ℕ

/-! ### Enumerations -/

/-- Roles stored for a node, and the role its agent observes. -/
inductive Role
  | active | standby | fault | unknown
  deriving DecidableEq

/-- `deployment_mode`, when it is one of the two explicit values. -/
inductive DeploymentMode
  | dnsOnly | dnsDhcp
  deriving DecidableEq

/-- `HACluster.status`. -/
inductive ClusterStatus
  | draft | validated | validatedWithWarnings | readyToDeploy | deploying | healthy | degraded
  | error | deleted
  deriving DecidableEq

/-- `keepalived_status` of a cluster or a node. -/
inductive KeepalivedStatus
  | notConfigured | pendingAgent | deploying | deployed | error
  deriving DecidableEq

/-- `keepalived_runtime_state` as reported by an agent. -/
inductive KeepalivedRuntimeState
  | running | stopped | fault | unknown
  deriving DecidableEq

/-- `dhcp_runtime_state` as reported by an agent. -/
inductive DhcpRuntimeState
  | running | stopped | unknown
  deriving DecidableEq

/-- The status of a DHCP observation; `stale` is only ever computed, never stored. -/
inductive ObservationStatus
  | fresh | unavailable | unknown | stale
  deriving DecidableEq

/-- The four-valued verdict of a DHCP observation. -/
inductive DhcpState
  | active | released | inactive | unknown
  deriving DecidableEq

/-- `peer_icmp_probe_status`. -/
inductive IcmpProbeStatus
  | available | noReply | unavailable
  deriving DecidableEq

/-- Agent actions that change DHCP ownership. -/
inductive DhcpActionType
  | demote | promote
  deriving DecidableEq

/-- `action_type` of an agent action result. -/
inductive ActionType
  | keepalivedApply | leaseSnapshotStage | dhcp (action : DhcpActionType) | resolverRepair
  deriving DecidableEq

/-- `status` of an agent action result. -/
inductive ResultStatus
  | applied | failed
  deriving DecidableEq

/-- `HAFailoverRun.status`. -/
inductive FailoverStatus
  | running | rollingBack | succeeded | rolledBack | failedSafe
  deriving DecidableEq

/-- `ACTIVE_RUN_STATUSES`. -/
def FailoverStatus.isActive : FailoverStatus → Bool
  | running | rollingBack => true
  | succeeded | rolledBack | failedSafe => false

/-- `HAFailoverRun.phase`. -/
inductive FailoverPhase
  | waitingForLeases | demotingSource | verifyingSourceDhcpRelease | movingVip | promotingTarget
  | verifyingTarget | complete
  | rollbackDemotingTarget | verifyingRollbackTargetRelease | rollbackMovingVip
  | rollbackPromotingSource | rollbackVerifyingSource | rolledBack
  | failedSafe
  deriving DecidableEq

/-- `HAMaintenanceRun.operation`. -/
inductive MaintenanceOperation
  | reconcile | reinitialise | dhcpSelfHeal
  deriving DecidableEq

/-- `HAMaintenanceRun.status`. -/
inductive MaintenanceStatus
  | running | paused | succeeded | failedSafe | cancelled
  deriving DecidableEq

/-- `ACTIVE_STATUSES`. -/
def MaintenanceStatus.isActive : MaintenanceStatus → Bool
  | running | paused => true
  | succeeded | failedSafe | cancelled => false

/-- `HAMaintenanceRun.phase`, for the three operations together. -/
inductive MaintenancePhase
  | waitingForReports | backingUp | synchronising | stagingDhcp | waitingForDhcpStage
  | normalisingStandby | demotingStandby | verifyingDhcpRelease | rebuildingHa | waitingForVip
  | promotingActive | verifyingDhcpActivation | verifying
  | repairingDhcp | verifyingDhcpRepair
  | reconciling
  | complete | paused
  deriving DecidableEq

/-- `HALeaseReplicationState.status`. -/
inductive LeaseStatus
  | notApplicable | pending | current | blocked | error
  deriving DecidableEq

/-- `HALeaseSnapshot.status`. -/
inductive SnapshotStatus
  | pending | staged | failed
  deriving DecidableEq

/-- `resolver_repair_status`, when a repair has been requested. -/
inductive ResolverRepairStatus
  | pending | reported (status : ResultStatus)
  deriving DecidableEq

/-- The two configuration repairs `start_dhcp_self_heal` knows. -/
inductive RepairType
  | activeDhcpConfigurationRepair | standbyDhcpConfigurationRepair
  deriving DecidableEq

/-! ### Digests and action identifiers -/

/-- One normalised DHCP lease. -/
structure Lease where
  /-- Expiry, seconds since the epoch. -/
  expires : ℕ
  hwaddr : String
  ip : String
  name : String
  clientid : String
  deriving DecidableEq

/-- What `_dhcp_topology_fingerprint` records of one node. -/
structure NodeEvidence where
  nodeId : NodeId
  desiredRole : Role
  observedRole : Option Role
  vipOwned : Option Bool
  dhcpState : DhcpState
  dhcpConfigured : Option Bool
  ftlActive : Option Bool
  udp67Listening : Option Bool
  dnsHealthy : Option Bool
  configGeneration : ℕ
  agentVersion : Option String
  deriving DecidableEq

/-- The evidence document `_dhcp_topology_fingerprint` hashes. -/
structure TopologyEvidence where
  freshNodeIds : List NodeId
  vipOwnerIds : List NodeId
  dhcpOwnerIds : List NodeId
  nodes : List NodeEvidence
  deriving DecidableEq

/-- A SHA-256 digest, by the text hashed. -/
inductive Digest
  /-- `f"{action_type}:{run.public_id}:{run.role_generation}:{node.public_id}"` of a failover run. -/
  | failoverAction (action : DhcpActionType) (run : RunId) (generation : ℕ) (node : NodeId)
  /-- The same text for a maintenance run, with the cluster's role generation. -/
  | maintenanceAction (action : DhcpActionType) (run : RunId) (generation : ℕ) (node : NodeId)
  /-- The canonical JSON of a lease payload. -/
  | leasePayload (source : NodeId) (leases : List Lease)
  /-- A rendered Keepalived configuration. -/
  | keepalivedConfig (content : String)
  /-- `f"{vip}:{interface}:{content}"` of a resolver repair. -/
  | resolverRepair (vip interface content : String)
  /-- The canonical JSON of a topology evidence document. -/
  | topology (evidence : TopologyEvidence)
  /-- `f"{repair_type}:{repair_node.public_id}:{topology_fingerprint}"`. -/
  | drift (repair : RepairType) (node : NodeId) (fingerprint : Digest)
  deriving DecidableEq

/-- `action_id`, by the parts the code joins with colons. Only the lease and Keepalived identifiers
carry a generation. -/
inductive ActionId
  | failover (run : RunId) (action : DhcpActionType) (node : NodeId)
  | maintenance (run : RunId) (action : DhcpActionType) (node : NodeId)
  | lease (node : NodeId) (generation : ℕ) (checksum : Digest)
  | keepalived (generation : ℕ) (node : NodeId)
  | resolver (node : NodeId) (generation : ℕ)
  deriving DecidableEq

/-! ### Nodes -/

/-- `HANode`, without its key. -/
structure HANode where
  displayName : String
  managementHost : Option String := none
  networkInterface : Option String := none
  vrrpPriority : Option ℕ := none
  role : Role := .standby
  desiredRole : Role := .standby
  /-- The agent credential is registered and not revoked. -/
  registered : Bool := true
  agentVersion : Option String := none
  lastHeartbeatAt : Option DateTime := none
  observedRole : Option Role := none
  observedGeneration : ℕ := 0
  vipOwned : Bool := false
  vipStableSince : Option DateTime := none
  dhcpRunning : Bool := false
  dhcpConfigured : Option Bool := none
  dhcpListenerActive : Option Bool := none
  ftlActive : Option Bool := none
  dhcpRuntimeState : DhcpRuntimeState := .unknown
  dhcpObservationStatus : ObservationStatus := .unknown
  dhcpObservedAt : Option DateTime := none
  lastReportSequence : ℕ := 0
  lastAgentReportedAt : Option DateTime := none
  dnsHealthy : Option Bool := none
  peerReachable : Option Bool := none
  peerIcmpProbeStatus : Option IcmpProbeStatus := none
  peerDnsReachable : Option Bool := none
  resolverManager : Option String := none
  resolverNameservers : Option (List String) := none
  resolverObservationStatus : Option ObservationStatus := none
  resolverRepairGeneration : ℕ := 0
  resolverRepairStatus : Option ResolverRepairStatus := none
  leaseGeneration : ℕ := 0
  configGeneration : ℕ := 0
  keepalivedStatus : KeepalivedStatus := .notConfigured
  keepalivedConfigChecksum : Option Digest := none
  keepalivedLastError : Option String := none
  keepalivedRuntimeState : KeepalivedRuntimeState := .unknown
  deriving DecidableEq

/-! ### Failover runs -/

/-- The keys of `report_json` that the engine reads back. -/
structure FailoverReport where
  verificationStartedAt : Option DateTime := none
  vipMoveStartedAt : Option DateTime := none
  dhcpSelfHealAttempts : ℕ := 0
  rollbackDhcpSelfHealAttempts : ℕ := 0
  dhcpReleaseRepairAttempts : ℕ := 0
  rollbackDhcpReleaseRepairAttempts : ℕ := 0

/-- `HAFailoverRun`. -/
structure HAFailoverRun where
  sourceNodeId : NodeId
  targetNodeId : NodeId
  status : FailoverStatus
  phase : FailoverPhase
  dhcpManaged : Bool
  leaseGeneration : ℕ
  roleGeneration : ℕ
  errorRedacted : Option String := none
  report : FailoverReport := {}
  startedAt : DateTime
  createdAt : DateTime

/-! ### Maintenance runs -/

/-- The automation flags of `previous_state_json`, the part a later step reads back. -/
structure PreviousState where
  automaticFailoverEnabled : Bool
  automaticSyncEnabled : Bool
  automaticSyncAllowDeletions : Bool
  deriving DecidableEq

/-- The keys of `result_json` that a maintenance step reads back. -/
structure MaintenanceResult where
  /-- `resumed_for_process_started_at` of a reinitialisation. -/
  resumedForProcessStartedAt : Option DateTime := none
  repairNodeId : Option NodeId := none
  actionType : Option DhcpActionType := none
  hardFailureProven : Bool := false
  driftSignature : Option Digest := none
  topologyFingerprint : Option Digest := none
  latchActive : Bool := false
  /-- Status and message of `action_result`. -/
  actionResult : Option (ResultStatus × String) := none

/-- `HAMaintenanceRun`. -/
structure HAMaintenanceRun where
  operation : MaintenanceOperation
  status : MaintenanceStatus
  phase : MaintenancePhase
  desiredActiveNodeId : Option NodeId := none
  authoritativeNodeId : Option NodeId := none
  previousState : PreviousState
  result : MaintenanceResult := {}
  errorRedacted : Option String := none
  phaseStartedAt : DateTime
  startedAt : DateTime
  createdAt : DateTime

/-! ### Lease replication -/

/-- `HALeaseReplicationState`. -/
structure HALeaseReplicationState where
  sourceNodeId : Option NodeId := none
  targetNodeId : Option NodeId := none
  status : LeaseStatus := .notApplicable
  desiredGeneration : ℕ := 0
  appliedGeneration : ℕ := 0
  leaseCount : ℕ := 0
  differenceCount : ℕ := 0
  conflictCount : ℕ := 0
  lastErrorRedacted : Option String := none
  lastFullReconciliationAt : Option DateTime := none
  deriving DecidableEq

/-- `HALeaseSnapshot`; the encrypted payload is recovered from the digest. -/
structure HALeaseSnapshot where
  sourceNodeId : NodeId
  targetNodeId : NodeId
  generation : ℕ
  checksum : Digest
  leaseCount : ℕ
  status : SnapshotStatus

/-! ### Agent results and events -/

/-- `HAAgentActionResult`, the idempotent store of agent results. -/
structure HAAgentActionResultRow where
  actionId : ActionId
  nodeId : NodeId
  actionType : ActionType
  generation : ℕ
  status : ResultStatus
  checksum : Option Digest
  message : String

/-- `HAEvent`. `generation` is the integer under that key of the event's details, if there is
one. -/
structure HAEvent where
  nodeId : Option NodeId
  eventType : String
  source : String
  generation : Option ℤ := none
  occurredAt : DateTime
  receivedAt : DateTime
  deriving DecidableEq

/-! ### The cluster -/

/-- `HACluster` with everything that hangs off it. -/
structure HACluster where
  name : String
  publicId : String := ""
  providerKey : String := "pihole"
  deploymentMode : Option DeploymentMode := none
  status : ClusterStatus := .draft
  virtualIp : Option String := none
  prefixLength : Option ℕ := none
  vrrpRouterId : Option ℕ := none
  authoritativeNodeId : Option NodeId := none
  currentActiveNodeId : Option NodeId := none
  preferredNodeId : Option NodeId := none
  automaticFailoverEnabled : Bool := false
  automaticSyncEnabled : Bool := false
  automaticSyncAllowDeletions : Bool := false
  maintenanceMode : Bool := false
  clusterGeneration : ℕ := 1
  roleGeneration : ℕ := 1
  keepalivedGeneration : ℕ := 0
  keepalivedStatus : KeepalivedStatus := .notConfigured
  nodes : Table HANode
  failoverRuns : Table HAFailoverRun
  maintenanceRuns : Table HAMaintenanceRun
  leaseReplication : Option HALeaseReplicationState := none
  leaseSnapshots : List HALeaseSnapshot := []
  actionResults : List HAAgentActionResultRow := []
  events : List HAEvent := []

namespace HACluster

variable (c : HACluster)

/-- The row of a node. -/
abbrev node (n : NodeId) : HANode := c.nodes.row n

/-- The row of a failover run. -/
abbrev failoverRun (r : RunId) : HAFailoverRun := c.failoverRuns.row r

/-- The row of a maintenance run. -/
abbrev maintenanceRun (m : RunId) : HAMaintenanceRun := c.maintenanceRuns.row m

/-- Rewrite one node row. -/
def modifyNode (n : NodeId) (f : HANode → HANode) : HACluster :=
  { c with nodes := c.nodes.modify n f }

/-- Rewrite every node row of the cluster. -/
def mapNodes (f : NodeId → HANode → HANode) : HACluster :=
  { c with nodes := c.nodes.mapRows f }

/-- Rewrite one failover run. -/
def modifyFailover (r : RunId) (f : HAFailoverRun → HAFailoverRun) : HACluster :=
  { c with failoverRuns := c.failoverRuns.modify r f }

/-- Rewrite one maintenance run. -/
def modifyMaintenance (m : RunId) (f : HAMaintenanceRun → HAMaintenanceRun) : HACluster :=
  { c with maintenanceRuns := c.maintenanceRuns.modify m f }

/-- `peer_for`: the first node of the cluster other than `n`. -/
def peerFor (n : NodeId) : Option NodeId := c.nodes.ids.find? (· ≠ n)

end HACluster

/-- The keys of a pair of nodes. -/
theorem nodup_one : [1].Nodup := List.nodup_singleton 1

theorem nodup_pair : [1, 2].Nodup := by decide

end Kaya.HA
