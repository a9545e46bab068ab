import Kaya.HA.AgentRuntime
import Kaya.HA.Agents
import Kaya.Library.Machine

/-!
# The high-availability system as a machine

One cluster with everything that acts on it. An event is a clock reading and one **committed unit of
work**: the telemetry of a heartbeat, a checked action result, an advance, a start, a rollback
request, a lease reconciliation, an agent that downloads or stages a snapshot, a restart of the
server process. Requests that do several of these in a row — `recordHeartbeat`,
`recordActionResult` — commit between them, so other requests may run in between; they are runs of
the machine, not steps of it (`servingMachine_refines`).

A refused request is a step that leaves what the refusal leaves. `observe` is the environment at its
worst: any change of a node's row.

**Agents.** An agent handles one action at a time: it downloads a snapshot (`download`), writes it
over the one staged document it keeps (`stage`), and posts the result. It posts `APPLIED` for a
snapshot only after having staged it, so a `LEASE_SNAPSHOT_STAGE` success that no staging precedes
is not delivered.
-/

namespace Kaya.HA

/-- The state of the system. -/
structure Sys where
  cluster : HACluster
  /-- `PROCESS_STARTED_AT`. -/
  processStartedAt : DateTime
  /-- Lease inspections the monitor has prepared and not yet persisted. -/
  inspections : List LeaseInspectionInputs
  /-- The snapshot generation an agent has downloaded and not yet written. -/
  download : NodeId → Option ℕ
  /-- The generation of the document in an agent's `current.json`; zero when there is none. -/
  staged : NodeId → ℕ
  /-- The snapshots agents have staged and may report. -/
  reports : List (NodeId × ℕ)

/-- One unit of work. -/
inductive Action
  | observe (n : NodeId) (node : HANode)
  | heartbeat (n : NodeId) (hb : HAAgentHeartbeat)
  | reconcileVipOwnership (reporting : Option NodeId)
  | evaluateRecovery
  | actionResult (n : NodeId) (result : HAAgentActionResult)
  | ingestEvent (n : NodeId) (event : HAAgentEventItem)
  | startControlledFailover (target : NodeId) (confirmation : String) (acknowledged : Bool)
      (failback : Except String Unit) (answer : LeaseAnswer)
  | advanceFailover
  | requestFailoverRollback (r : RunId) (acknowledged : Bool)
  | startReconciliation
  | reconcileClusterState (m : RunId) (stalled : StalledRecovery)
  | startReinitialisation (desiredActive authority : NodeId) (acknowledged : Bool)
  | advanceReinitialisation (m : RunId) (inputs : ReinitialisationInputs)
  | startDhcpSelfHeal (forceRetry : Bool)
  | advanceDhcpSelfHeal (m : RunId)
  | reconcileClusterLeases (answer : LeaseAnswer)
  | prepareLeaseInspection
  | persistLeaseInspection (inputs : LeaseInspectionInputs) (answer : LeaseAnswer)
  | download (n : NodeId) (generation : ℕ)
  | stage (n : NodeId)
  | restart

/-- An event: a unit of work and the clock it reads. -/
structure Event where
  now : DateTime
  action : Action

/-- The cluster a request leaves: a refused request commits nothing. -/
def committed (c : HACluster) (request : Except String HACluster) : HACluster :=
  match request with
  | .ok c' => c'
  | .error _ => c

/-- A success report for a lease snapshot the agent has not staged. -/
def unstagedReport (s : Sys) (n : NodeId) (result : HAAgentActionResult) : Bool :=
  result.actionType = .leaseSnapshotStage ∧ result.status = .applied ∧
    (n, result.generation) ∉ s.reports

/-- The committed unit of an action result: nothing for an identifier that is already stored. -/
def commitActionResult (c : HACluster) (n : NodeId) (result : HAAgentActionResult)
    (now : DateTime) : HACluster :=
  if (storedResult c result.actionId).isSome then c
  else committed c (acceptActionResult c n result now)

/-- The cluster after a unit of work; the actions of agents and of the process leave it alone. -/
def clusterStep (s : Sys) (now : DateTime) : Action → HACluster
  | .observe n node => s.cluster.modifyNode n fun _ ↦ node
  | .heartbeat n hb =>
    if heartbeatAccepted (s.cluster.node n) hb now then storeHeartbeat s.cluster n hb now
    else s.cluster
  | .reconcileVipOwnership reporting => reconcileVipOwnership s.cluster reporting now
  | .evaluateRecovery => evaluateRecovery s.cluster
  | .actionResult n result =>
    if unstagedReport s n result then s.cluster else commitActionResult s.cluster n result now
  | .ingestEvent n event => ingestEvent s.cluster n event now
  | .startControlledFailover target confirmation acknowledged failback answer =>
    (startControlledFailover s.cluster target confirmation acknowledged failback answer now).1
  | .advanceFailover => advanceFailover s.cluster now
  | .requestFailoverRollback r acknowledged =>
    if r ∈ s.cluster.failoverRuns.ids then
      committed s.cluster (requestFailoverRollback s.cluster r acknowledged now)
    else s.cluster
  | .startReconciliation => committed s.cluster (startReconciliation s.cluster now)
  | .reconcileClusterState m stalled =>
    if m ∈ s.cluster.maintenanceRuns.ids then reconcileClusterState s.cluster m stalled now
    else s.cluster
  | .startReinitialisation desiredActive authority acknowledged =>
    committed s.cluster (startReinitialisation s.cluster desiredActive authority acknowledged now)
  | .advanceReinitialisation m inputs =>
    if m ∈ s.cluster.maintenanceRuns.ids then
      advanceReinitialisation s.cluster m inputs s.processStartedAt now
    else s.cluster
  | .startDhcpSelfHeal forceRetry => startDhcpSelfHeal s.cluster forceRetry now
  | .advanceDhcpSelfHeal m =>
    if m ∈ s.cluster.maintenanceRuns.ids then advanceDhcpSelfHeal s.cluster m now else s.cluster
  | .reconcileClusterLeases answer => (reconcileClusterLeases s.cluster now answer).1
  | .persistLeaseInspection inputs answer =>
    if inputs ∈ s.inspections then
      (persistLeasePlan s.cluster now (inspectLeasePlan inputs answer)).1
    else s.cluster
  | .prepareLeaseInspection | .download .. | .stage _ | .restart => s.cluster

/-- What else a unit of work changes. -/
def environmentStep (s : Sys) (now : DateTime) : Action → Sys
  | .prepareLeaseInspection =>
    match prepareLeaseInspection s.cluster with
    | .ok inputs => { s with inspections := s.inspections ++ [inputs] }
    | .error _ => s
  | .persistLeaseInspection inputs _ =>
    { s with inspections := s.inspections.erase inputs }
  | .download n generation =>
    match snapshotForAgent s.cluster n generation with
    | .ok _ => { s with download := fun k ↦ if k = n then some generation else s.download k }
    | .error _ => s
  | .stage n =>
    match s.download n with
    | none => s
    | some generation =>
      { s with
        download := fun k ↦ if k = n then none else s.download k
        staged := fun k ↦ if k = n then generation else s.staged k
        reports := (n, generation) :: s.reports }
  | .restart => { s with processStartedAt := now, inspections := [] }
  | _ => s

/-- The step function. -/
def step (s : Sys) (e : Event) : Sys :=
  { environmentStep s e.now e.action with cluster := clusterStep s e.now e.action }

/-- A newly configured cluster: nothing has run, nothing has been captured, staged or reported. The
node rows and the settings are arbitrary. -/
structure Initial (s : Sys) : Prop where
  failoverRuns : s.cluster.failoverRuns.ids = []
  maintenanceRuns : s.cluster.maintenanceRuns.ids = []
  leaseReplication : s.cluster.leaseReplication = none
  leaseSnapshots : s.cluster.leaseSnapshots = []
  actionResults : s.cluster.actionResults = []
  maintenanceMode : s.cluster.maintenanceMode = false
  roleGeneration : 1 ≤ s.cluster.roleGeneration
  inspections : s.inspections = []
  download : ∀ n, s.download n = none
  staged : ∀ n, s.staged n = 0
  reports : s.reports = []

/-- The high-availability system. -/
def haMachine : Machine Sys Event where
  init := Initial
  step := step

@[simp] theorem haMachine_step (s : Sys) (e : Event) : haMachine.step s e = step s e := rfl

@[simp] theorem step_cluster (s : Sys) (e : Event) :
    (step s e).cluster = clusterStep s e.now e.action := rfl

end Kaya.HA
