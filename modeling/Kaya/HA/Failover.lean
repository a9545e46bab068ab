import Kaya.HA.DhcpSafety
import Kaya.HA.Leases

/-!
# Controlled failover

`app/services/ha_failover.py`: the generation-fenced workflow that hands DNS and DHCP from one node
to the other, and its rollback.

A run is a row. `startControlledFailover` inserts it, `recordFailoverActionResult` and
`advanceFailover` move it from phase to phase, `requestFailoverRollback` turns it around, and
`desiredFailoverAction` is what the agents are told meanwhile. Every function takes the clock of the
call as `now`; the source reads it several times in one call, and one reading stands for all.

The functions are cut the way the source cuts them: one helper for each named helper of the module,
and `advanceFailover` as its four parts in order — the DNS-only guard, early completion, the phase
switch (`switchPhase`) and the final verification (`verifyPhase`).
-/

namespace Kaya.HA

/-- The text of an action type. -/
def DhcpActionType.text : DhcpActionType → String
  | demote => "DHCP_DEMOTE"
  | promote => "DHCP_PROMOTE"

/-- `keepalived_status.replace("_", " ").lower()`. -/
def KeepalivedStatus.label : KeepalivedStatus → String
  | notConfigured => "not configured"
  | pendingAgent => "pending agent"
  | deploying => "deploying"
  | deployed => "deployed"
  | error => "error"

/-- `MIN_AGENT_VERSION`. -/
def minAgentVersion : List ℤ := [0, 2, 7]

/-- `active_failover`: the newest run that is running or rolling back. -/
def activeFailover (c : HACluster) : Option RunId :=
  c.failoverRuns.newest? HAFailoverRun.createdAt fun run ↦ run.status.isActive

/-! ### Observations -/

/-- `_dhcp_active`. -/
def dhcpActive (c : HACluster) (n : NodeId) (now : DateTime) : Bool :=
  (dhcpObservation (c.node n) (.failover now)).active

/-- `_dhcp_released`. -/
def dhcpReleased (c : HACluster) (n : NodeId) (now : DateTime) : Bool :=
  (dhcpObservation (c.node n) (.failover now)).released

/-- `_dhcp_activation_failure_detail`. -/
def dhcpActivationFailureDetail (node : HANode) (now : DateTime) : String :=
  let o := dhcpObservation node (.failover now)
  let name := node.displayName
  if o.status ≠ .fresh then s!"{name} DHCP observation is unavailable or stale"
  else if o.configured ≠ some true then s!"{name} Pi-hole DHCP setting remains disabled"
  else if o.serviceActive ≠ some true then s!"{name} Pi-hole FTL service is not active"
  else if o.listening ≠ some true then s!"{name} is not listening on UDP port 67"
  else s!"{name} reported DHCP running state that did not converge"

/-- The node a run ends with, by direction. -/
def HAFailoverRun.destination (run : HAFailoverRun) (rolledBack : Bool) : NodeId :=
  if rolledBack then run.sourceNodeId else run.targetNodeId

/-- The node a run leaves, by direction. -/
def HAFailoverRun.origin (run : HAFailoverRun) (rolledBack : Bool) : NodeId :=
  if rolledBack then run.targetNodeId else run.sourceNodeId

/-- `_requested_topology_is_verified`. Nothing here asks for the other node to have been heard. -/
def requestedTopologyIsVerified (c : HACluster) (run : HAFailoverRun) (rolledBack : Bool)
    (now : DateTime) : Bool :=
  let active := run.destination rolledBack
  let topology := reconcileTopology c (.failover now)
  topology.vipOwnerIds = [active] ∧ (!run.dhcpManaged ∨ topology.dhcpOwnerIds = [active]) ∧
    (!run.dhcpManaged ∨ topology.dhcpUnknownNodeIds = []) ∧
    (c.node active).dnsHealthy = some true ∧ topology.topologySafe

/-! ### Readiness -/

/-- `FailoverReadiness`, without its fixed warning. -/
structure FailoverReadiness where
  source : Option NodeId
  target : Option NodeId
  dhcpManaged : Bool
  blockers : List String

/-- The blockers of one node. -/
def nodeBlockers (node : HANode) (required : List ℤ) (label : String) (now : DateTime) :
    List String :=
  let name := node.displayName
  (if heartbeatIsFresh node (.failover now) then []
    else [s!"Wait for a recent heartbeat from {name}."]) ++
  (if agentVersion node.agentVersion < required then
    [s!"Update {name} to agent {label} or newer before controlled failover."] else []) ++
  (if node.dnsHealthy ≠ some true then [s!"Resolve the DNS health warning on {name}."] else []) ++
  (if node.keepalivedRuntimeState ≠ .running then [s!"Keepalived must be running on {name}."]
    else [])

/-- The blockers about lease replication and DHCP ownership. -/
def dhcpBlockers (c : HACluster) (source target : Option NodeId) (now : DateTime) : List String :=
  match c.leaseReplication with
  | none => ["Complete the DHCP continuity check before failover."]
  | some state =>
    if state.status ≠ .notApplicable then
      let topology := reconcileTopology c (.failover now)
      (if state.status ≠ .current ∨ state.appliedGeneration ≠ state.desiredGeneration then
        ["The standby lease snapshot must be current."] else []) ++
      (match target with
        | none => []
        | some t =>
          if (c.node t).leaseGeneration ≠ state.desiredGeneration then
            let name := (c.node t).displayName
            [s!"Wait for {name} to stage the current lease generation."]
          else []) ++
      (if topology.dhcpUnknownNodeIds ≠ [] then
        ["Wait for a fresh DHCP configuration, FTL and UDP/67 observation from both nodes."]
      else if topology.dhcpOwnerIds.length ≠ 1 ∨
          (source.isSome ∧ topology.dhcpOwnerIds.head? ≠ source) then
        ["Exactly the current VIP owner must report DHCP active before handover."]
      else [])
    -- The status comes from the last lease inspection, not from `pihole_manages_dhcp`.
    else if c.nodes.ids.any fun n ↦ dhcpActive c n now then
      ["Pi-hole DHCP is configured as external, but an agent reports DHCP active."]
    else []

/-- `failover_readiness`. -/
def failoverReadiness (c : HACluster) (now : DateTime) : FailoverReadiness :=
  let owners := c.nodes.ids.filter fun n ↦
    (c.node n).vipOwned && heartbeatIsFresh (c.node n) (.failover now)
  let source := match owners with
    | [n] => some n
    | _ => none
  let target := source.bind fun s ↦ c.nodes.ids.find? (· ≠ s)
  let dhcpManaged := c.leaseReplication.any (·.status ≠ .notApplicable)
  let (required, label) :=
    if dhcpManaged then (ownerProtectionAgentVersion, "0.2.13") else (minAgentVersion, "0.2.7")
  let blockers :=
    (if c.nodes.ids.length ≠ 2 then ["Controlled failover requires exactly two nodes."] else []) ++
    (if owners.length ≠ 1 then ["Exactly one node must currently own the virtual IP."] else []) ++
    (if c.keepalivedStatus ≠ .deployed ∨
        c.nodes.ids.any fun n ↦ (c.node n).keepalivedStatus ≠ .deployed then
      ["Keepalived must be deployed and current on both nodes."] else []) ++
    c.nodes.ids.flatMap (fun n ↦ nodeBlockers (c.node n) required label now) ++
    dhcpBlockers c source target now ++
    (if (activeFailover c).isSome then ["A controlled transition is already running."] else []) ++
    -- Maintenance is known by its flag alone, which a reconciliation does not set.
    (if c.maintenanceMode ∧ (activeFailover c).isNone then ["Cluster maintenance is in progress."]
      else [])
  { source, target, dhcpManaged, blockers := blockers.eraseDups }

/-! ### Row updates -/

/-- The node updates of a Keepalived hand-over: desired roles, priorities, and a new deployment on
every node. -/
def assignNode (target : NodeId) (n : NodeId) (node : HANode) : HANode :=
  { node with
    desiredRole := if n = target then .active else .standby
    vrrpPriority := if n = target then some 150 else some 100
    keepalivedStatus := .pendingAgent
    keepalivedLastError := none }

/-- The cluster columns of a new Keepalived deployment. -/
def requestDeployment (c : HACluster) : HACluster :=
  { c with
    clusterGeneration := c.clusterGeneration + 1
    keepalivedGeneration := c.keepalivedGeneration + 1
    keepalivedStatus := .pendingAgent
    status := .deploying }

/-- `_move_vip`. -/
def moveVip (c : HACluster) (r : RunId) (target : NodeId) (now : DateTime) : HACluster :=
  (requestDeployment (c.mapNodes (assignNode target))).modifyFailover r fun run ↦
    { run with report := { run.report with vipMoveStartedAt := some now } }

/-- A new role generation for the cluster and the run. -/
def bumpRoleGeneration (c : HACluster) (r : RunId) : HACluster :=
  { c with
    clusterGeneration := c.clusterGeneration + 1
    roleGeneration := c.roleGeneration + 1 }.modifyFailover r fun run ↦
      { run with roleGeneration := c.roleGeneration + 1 }

/-- Assign a phase. -/
def setFailoverPhase (c : HACluster) (r : RunId) (phase : FailoverPhase) : HACluster :=
  c.modifyFailover r fun run ↦ { run with phase }

/-- `_safe_failure`. -/
def safeFailure (c : HACluster) (r : RunId) (message : String) : HACluster :=
  { c with status := .degraded }.modifyFailover r fun run ↦
    { run with
      status := .failedSafe, phase := .failedSafe
      errorRedacted := some (PyText.take 1000 message) }

/-- `_restore_dhcp_after_failed_vip_move`. -/
def restoreDhcpAfterFailedVipMove (c : HACluster) (r : RunId) (message : String) : HACluster :=
  (bumpRoleGeneration { c with status := .degraded, maintenanceMode := true } r).modifyFailover r
    fun run ↦
      { run with
        status := .rollingBack, phase := .rollbackPromotingSource
        errorRedacted := some (PyText.take 1000 message) }

/-- `_mark_verification_started`. -/
def markVerificationStarted (c : HACluster) (r : RunId) (now : DateTime) : HACluster :=
  c.modifyFailover r fun run ↦
    { run with report := { run.report with verificationStartedAt := some now } }

/-- The node updates of a completed run. -/
def completeNode (active standby : NodeId) (n : NodeId) (node : HANode) : HANode :=
  let node :=
    if n = active then { node with role := .active, desiredRole := .active }
    else if n = standby then { node with role := .standby, desiredRole := .standby }
    else node
  { node with keepalivedStatus := .pendingAgent, keepalivedLastError := none }

/-- `_complete`. -/
def complete (c : HACluster) (r : RunId) (rolledBack : Bool) : HACluster :=
  let run := c.failoverRun r
  let active := run.destination rolledBack
  let c := requestDeployment
    { c with
      currentActiveNodeId := some active, authoritativeNodeId := some active
      maintenanceMode := false }
  (c.mapNodes (completeNode active (run.origin rolledBack))).modifyFailover r fun run ↦
    { run with
      status := if rolledBack then .rolledBack else .succeeded
      phase := if rolledBack then .rolledBack else .complete
      errorRedacted := if rolledBack then run.errorRedacted else none }

/-! ### Bounded retries -/

/-- The guard of `_queue_safe_dhcp_repair`. -/
def dhcpRepairIsSafe (c : HACluster) (active standby : NodeId) (now : DateTime) : Bool :=
  let topology := reconcileTopology c (.failover now)
  let activeObservation := dhcpObservation (c.node active) (.failover now)
  let standbyObservation := dhcpObservation (c.node standby) (.failover now)
  topology.fresh ∧ topology.vipOwnerIds = [active] ∧ topology.dhcpUnknownNodeIds = [] ∧
    topology.dhcpOwnerIds.length ≤ 1 ∧
    (topology.dhcpOwnerIds = [] ∨ topology.dhcpOwnerIds = [active]) ∧
    (c.node active).dnsHealthy = some true ∧ (c.node active).ftlActive = some true ∧
    standbyObservation.released ∧ standbyObservation.configured = some false ∧
    (activeObservation.configured ≠ some true ∨ !activeObservation.active)

/-- The repair counter of a direction. -/
def FailoverReport.repairAttempts (report : FailoverReport) (rolledBack : Bool) : ℕ :=
  if rolledBack then report.rollbackDhcpSelfHealAttempts else report.dhcpSelfHealAttempts

/-- One more repair in a direction. -/
def FailoverReport.countRepair (report : FailoverReport) (rolledBack : Bool) : FailoverReport :=
  if rolledBack then
    { report with rollbackDhcpSelfHealAttempts := report.rollbackDhcpSelfHealAttempts + 1 }
  else { report with dhcpSelfHealAttempts := report.dhcpSelfHealAttempts + 1 }

/-- `_queue_safe_dhcp_repair`; `none` is the `False` that leaves everything as it was. -/
def queueSafeDhcpRepair (c : HACluster) (r : RunId) (rolledBack : Bool) (now : DateTime) :
    Option HACluster :=
  let run := c.failoverRun r
  if !dhcpRepairIsSafe c (run.destination rolledBack) (run.origin rolledBack) now then none
  else if 1 ≤ run.report.repairAttempts rolledBack then none
  else
    some <| (bumpRoleGeneration c r).modifyFailover r fun run ↦
      { run with
        report := run.report.countRepair rolledBack
        phase := if rolledBack then .rollbackPromotingSource else .promotingTarget }

/-- The release-retry counter of a direction. -/
def FailoverReport.releaseAttempts (report : FailoverReport) (rolledBack : Bool) : ℕ :=
  if rolledBack then report.rollbackDhcpReleaseRepairAttempts else report.dhcpReleaseRepairAttempts

/-- One more release retry in a direction. -/
def FailoverReport.countRelease (report : FailoverReport) (rolledBack : Bool) : FailoverReport :=
  if rolledBack then
    { report with
      rollbackDhcpReleaseRepairAttempts := report.rollbackDhcpReleaseRepairAttempts + 1 }
  else { report with dhcpReleaseRepairAttempts := report.dhcpReleaseRepairAttempts + 1 }

/-- `_queue_safe_dhcp_release_retry`, on the node the direction takes DHCP from. -/
def queueSafeDhcpReleaseRetry (c : HACluster) (r : RunId) (rolledBack : Bool) (now : DateTime) :
    Option HACluster :=
  let run := c.failoverRun r
  let o := dhcpObservation (c.node (run.origin rolledBack)) (.failover now)
  if o.status ≠ .fresh ∨ o.listening ≠ some false ∨ o.configured = some false then none
  else if 1 ≤ run.report.releaseAttempts rolledBack then none
  else
    some <| (bumpRoleGeneration c r).modifyFailover r fun run ↦
      { run with
        report := run.report.countRelease rolledBack
        phase := if rolledBack then .rollbackDemotingTarget else .demotingSource }

/-! ### Starting -/

/-- The phase a new run starts in. -/
def startPhase (dhcpManaged : Bool) (state : Option HALeaseReplicationState) : FailoverPhase :=
  if dhcpManaged ∧ state.any (·.status ≠ .current) then .waitingForLeases
  else if dhcpManaged then .demotingSource else .movingVip

/-- The run is handing DNS and DHCP back to the preferred node. -/
def isFailback (c : HACluster) (source target : NodeId) : Bool :=
  c.preferredNodeId = some target ∧ c.preferredNodeId ≠ some source

/-- The creation of the run, once everything has been checked and captured. -/
def createFailoverRun (c : HACluster) (source target : NodeId) (dhcpManaged : Bool)
    (now : DateTime) : HACluster × RunId :=
  let phase := startPhase dhcpManaged c.leaseReplication
  let r := c.failoverRuns.freshKey
  let run : HAFailoverRun :=
    { sourceNodeId := source, targetNodeId := target, status := .running, phase, dhcpManaged
      leaseGeneration := c.leaseReplication.elim 0 (·.desiredGeneration)
      roleGeneration := c.roleGeneration + 1, startedAt := now, createdAt := now }
  let c :=
    { c with
      roleGeneration := c.roleGeneration + 1
      clusterGeneration := c.clusterGeneration + 1
      maintenanceMode := true
      failoverRuns := c.failoverRuns.insert run }
  (if phase = .movingVip then moveVip c r target now else c, r)

/-- `start_controlled_failover`. `failback` is the verdict of the recovery checks and of the final
synchronisation, consulted only for a failback; `answer` is the final lease capture. -/
def startControlledFailover (c : HACluster) (target : NodeId) (confirmation : String)
    (acknowledged : Bool) (failback : Except String Unit) (answer : LeaseAnswer) (now : DateTime) :
    HACluster × Except String RunId :=
  if !acknowledged ∨ PyText.strip confirmation ≠ c.name then
    (c, .error s!"Type {c.name} and confirm the expected interruption before starting.")
  else
    let readiness := failoverReadiness c now
    match readiness.blockers, readiness.source, readiness.target with
    | [], some source, some expected =>
      if target ≠ expected then
        (c, .error "Choose the standby node as the failover target.")
      else match (if isFailback c source target then failback else .ok ()) with
      | .error message => (c, .error message)
      | .ok () =>
        if readiness.dhcpManaged then
          -- The capture commits its row even when the start then fails.
          match reconcileClusterLeases c now answer with
          | (c, .error message) => (c, .error s!"Final lease capture failed: {message}")
          | (c, .ok ()) =>
            let (c, r) := createFailoverRun c source target true now
            (c, .ok r)
        else
          let (c, r) := createFailoverRun c source target false now
          (c, .ok r)
    | blockers, _, _ =>
      (c, .error (PyText.orDefault (some (" ".intercalate blockers))
        "The cluster is not ready for controlled failover."))

/-! ### What the agents are offered -/

/-- A DHCP action, as `desired_failover_action` and `desired_maintenance_action` offer it. -/
structure DhcpAction where
  actionId : ActionId
  actionType : DhcpActionType
  generation : ℕ
  checksum : Digest
  leaseGeneration : ℕ
  restoreOriginal : Bool
  configurationOnly : Bool := false
  ownerHandoverAuthorised : Bool
  deriving DecidableEq

/-- The action a phase asks of a node: its type and whether it restores the original owner. -/
def phaseAction (run : HAFailoverRun) (n : NodeId) : Option (DhcpActionType × Bool) :=
  if run.phase = .demotingSource ∧ n = run.sourceNodeId then some (.demote, false)
  else if run.phase = .promotingTarget ∧ n = run.targetNodeId then some (.promote, false)
  else if run.phase = .rollbackDemotingTarget ∧ n = run.targetNodeId then some (.demote, false)
  else if run.phase = .rollbackPromotingSource ∧ n = run.sourceNodeId then some (.promote, true)
  else none

/-- The node that takes DHCP over when a phase demotes. -/
def HAFailoverRun.replacement (run : HAFailoverRun) : NodeId :=
  if run.phase = .demotingSource then run.targetNodeId else run.sourceNodeId

/-- The action dictionary of a run. -/
def failoverAction (r : RunId) (run : HAFailoverRun) (n : NodeId) (action : DhcpActionType)
    (restoreOriginal ownerHandoverAuthorised : Bool) : DhcpAction where
  actionId := .failover r action n
  actionType := action
  generation := run.roleGeneration
  checksum := .failoverAction action r run.roleGeneration n
  leaseGeneration := run.leaseGeneration
  restoreOriginal := restoreOriginal
  ownerHandoverAuthorised := ownerHandoverAuthorised

/-- `desired_failover_action`. -/
def desiredFailoverAction (c : HACluster) (n : NodeId) (now : DateTime) : Option DhcpAction :=
  match activeFailover c with
  | none => none
  | some r =>
    let run := c.failoverRun r
    match phaseAction run n with
    | none => none
    | some (.promote, restoreOriginal) =>
      some (failoverAction r run n .promote restoreOriginal false)
    | some (.demote, restoreOriginal) =>
      let decision := authoriseDhcpDemotion c n now (some run.replacement) true false
      if !decision.allowed then none
      else some (failoverAction r run n .demote restoreOriginal decision.ownerHandover)

/-- The phase a reported result leads to, whatever its status. -/
def FailoverPhase.afterResult : FailoverPhase → Option FailoverPhase
  | demotingSource => some verifyingSourceDhcpRelease
  | promotingTarget => some verifyingTarget
  | rollbackDemotingTarget => some verifyingRollbackTargetRelease
  | rollbackPromotingSource => some rollbackVerifyingSource
  | _ => none

/-- `record_failover_action_result`. An unexpected result still leads to verification: the observed
topology decides, not the agent's status. -/
def recordFailoverActionResult (c : HACluster) (n : NodeId) (action : DhcpActionType)
    (generation : ℕ) (checksum : Option Digest) (status : ResultStatus) (message : String)
    (now : DateTime) : Except String HACluster :=
  match activeFailover c, desiredFailoverAction c n now with
  | some r, some expected =>
    let run := c.failoverRun r
    if generation ≠ run.roleGeneration ∨ checksum ≠ some expected.checksum then
      .error "The failover result does not match the current transition generation."
    else match run.phase.afterResult, status with
    | some phase, _ => .ok (setFailoverPhase (markVerificationStarted c r now) r phase)
    -- The phases that offer an action all have a successor; the source still has these branches.
    | none, .applied => .ok c
    | none, .failed =>
      let failure := PyText.orDefault (some message) s!"{action.text} failed safely."
      .ok (safeFailure (markVerificationStarted c r now) r failure)
  | _, _ => .error "The failover result does not match the current transition generation."

/-! ### Advancing -/

/-- `_verification_started_at`. -/
def verificationStartedAt (run : HAFailoverRun) : DateTime :=
  run.report.verificationStartedAt.getD run.startedAt

/-- `_vip_move_started_at`. -/
def vipMoveStartedAt (run : HAFailoverRun) : DateTime :=
  run.report.vipMoveStartedAt.getD run.startedAt

/-- `_vip_move_failure`. -/
def vipMoveFailure (c : HACluster) (run : HAFailoverRun) : String :=
  let expected := if run.phase = .movingVip then run.targetNodeId else run.sourceNodeId
  let owners := c.nodes.ids.filter fun n ↦ (c.node n).vipOwned
  let deployments := ", ".intercalate <| c.nodes.ids.map fun n ↦
    (c.node n).displayName ++ ": " ++ (c.node n).keepalivedStatus.label
  let name := (c.node expected).displayName
  let reports := if owners = [] then "none reported" else names c owners
  "Virtual IP handover did not converge within 60 seconds. " ++
  s!"Expected {name} to become the only owner; current owner reports: {reports}. " ++
  s!"Keepalived deployment reports: {deployments}. Use safe rollback after checking both agents."

/-- The message of the DNS-only guard. -/
def dnsOnlyGuardMessage : String :=
  "The handover was stopped because this Pi-hole cluster manages DHCP, " ++
  "but the transition had been started as DNS-only. No further ownership " ++
  "change was attempted. Use safe rollback to return to the last owner."

/-- Verification that DHCP has been released, in one direction. -/
def verifyRelease (c : HACluster) (r : RunId) (rolledBack : Bool) (now : DateTime) : HACluster :=
  let run := c.failoverRun r
  let origin := run.origin rolledBack
  if dhcpReleased c origin now then
    moveVip (setFailoverPhase c r (if rolledBack then .rollbackMovingVip else .movingVip)) r
      (run.destination rolledBack) now
  else if seconds 45 < now - verificationStartedAt run then
    let name := (c.node origin).displayName
    let consequence :=
      if rolledBack then "Rollback stopped to prevent split DHCP."
      else "The transition stopped before another DHCP owner was enabled."
    (queueSafeDhcpReleaseRetry c r rolledBack now).getD <| safeFailure c r <|
      s!"{name} still reports DHCP configured or UDP port 67 listening after the bounded " ++
      s!"release window. {consequence}"
  else c

/-- The wait for the Virtual IP, in one direction. -/
def awaitVip (c : HACluster) (r : RunId) (rolledBack : Bool) (now : DateTime) : HACluster :=
  let run := c.failoverRun r
  if (c.node (run.destination rolledBack)).vipOwned ∧ !(c.node (run.origin rolledBack)).vipOwned ∧
      ∀ n ∈ c.nodes.ids, (c.node n).keepalivedStatus = .deployed then
    setFailoverPhase c r <|
      if rolledBack then
        if run.dhcpManaged then .rollbackPromotingSource else .rollbackVerifyingSource
      else if run.dhcpManaged then .promotingTarget else .verifyingTarget
  else if seconds 60 < now - vipMoveStartedAt run then
    let failure := vipMoveFailure c run
    if !rolledBack ∧ run.dhcpManaged ∧ (c.node run.sourceNodeId).vipOwned ∧
        !(c.node run.targetNodeId).vipOwned ∧ dhcpReleased c run.targetNodeId now then
      restoreDhcpAfterFailedVipMove c r failure
    else safeFailure c r failure
  else c

/-- The phase switch of `advance_failover`. -/
def switchPhase (c : HACluster) (r : RunId) (now : DateTime) : HACluster :=
  let run := c.failoverRun r
  match run.phase with
  | .waitingForLeases =>
    if c.leaseReplication.any fun state ↦
        state.status = .current ∧ run.leaseGeneration ≤ state.appliedGeneration then
      setFailoverPhase c r .demotingSource
    else c
  | .verifyingSourceDhcpRelease => verifyRelease c r false now
  | .verifyingRollbackTargetRelease => verifyRelease c r true now
  | .rollbackDemotingTarget =>
    -- The failed forward move never left the original owner: DHCP is restored there directly.
    if (c.node run.sourceNodeId).vipOwned ∧ !(c.node run.targetNodeId).vipOwned ∧
        dhcpReleased c run.targetNodeId now then
      setFailoverPhase c r .rollbackPromotingSource
    else c
  | .movingVip => awaitVip c r false now
  | .rollbackMovingVip => awaitVip c r true now
  | _ => c

/-- The message of a verification that did not converge. -/
def verificationFailure (c : HACluster) (run : HAFailoverRun) (rolledBack : Bool)
    (now : DateTime) : String :=
  let node := c.node (run.destination rolledBack)
  let name := node.displayName
  if rolledBack then
    s!"{name} did not report a fully restored DNS and DHCP topology within 30 seconds during " ++
    "rollback. Manual recovery is required; Kaya will not enable another DHCP owner."
  else
    let owners := c.nodes.ids.filter fun n ↦ dhcpActive c n now
    let owners := if owners = [] then "none confirmed" else names c owners
    let detail := dhcpActivationFailureDetail node now
    s!"DHCP failed to start on {name}: {detail}. Final topology verification did not converge " ++
    s!"within 30 seconds; current DHCP owners: {owners}."

/-- Verification of the final topology, in one direction. -/
def verifyFinal (c : HACluster) (r : RunId) (rolledBack : Bool) (now : DateTime) : HACluster :=
  let run := c.failoverRun r
  if requestedTopologyIsVerified c run rolledBack now then complete c r rolledBack
  else if seconds 30 < now - verificationStartedAt run then
    (queueSafeDhcpRepair c r rolledBack now).getD
      (safeFailure c r (verificationFailure c run rolledBack now))
  else c

/-- The closing verification of `advance_failover`. -/
def verifyPhase (c : HACluster) (r : RunId) (now : DateTime) : HACluster :=
  match (c.failoverRun r).phase with
  | .verifyingTarget => verifyFinal c r false now
  | .rollbackVerifyingSource => verifyFinal c r true now
  | _ => c

/-- `advance_failover` on the active run. -/
def advanceRun (c : HACluster) (r : RunId) (now : DateTime) : HACluster :=
  let run := c.failoverRun r
  if !run.dhcpManaged ∧ piholeManagesDhcp c then
    safeFailure (c.modifyFailover r fun run ↦ { run with dhcpManaged := true }) r
      dnsOnlyGuardMessage
  else if run.status = .running ∧ requestedTopologyIsVerified c run false now then
    complete c r false
  else if run.status = .rollingBack ∧ requestedTopologyIsVerified c run true now then
    complete c r true
  else verifyPhase (switchPhase c r now) r now

/-- `advance_failover`. -/
def advanceFailover (c : HACluster) (now : DateTime) : HACluster :=
  match activeFailover c with
  | none => c
  | some r => advanceRun c r now

/-! ### Rolling back -/

/-- A completed run may be rolled back when the node it promoted turned unhealthy. -/
def recoverUnhealthyActive (c : HACluster) (run : HAFailoverRun) : Bool :=
  run.status = .succeeded ∧ (c.node run.targetNodeId).vipOwned ∧
    (c.node run.targetNodeId).dnsHealthy ≠ some true ∧
    (c.node run.sourceNodeId).dnsHealthy = some true

/-- Record why a run is being rolled back, unless something already is recorded. -/
def noteRollback (c : HACluster) (r : RunId) (reason : String) : HACluster :=
  c.modifyFailover r fun run ↦
    { run with errorRedacted := some (PyText.orDefault run.errorRedacted reason) }

/-- `request_failover_rollback`. Neither another active run nor maintenance is looked at. -/
def requestFailoverRollback (c : HACluster) (r : RunId) (acknowledged : Bool) (now : DateTime) :
    Except String HACluster :=
  let run := c.failoverRun r
  let recover := recoverUnhealthyActive c run
  if !acknowledged ∨ (run.status ≠ .failedSafe ∧ !recover) then
    .error "Confirm rollback of the failed controlled transition."
  else
    let sourceOwnsVip := (c.node run.sourceNodeId).vipOwned && !(c.node run.targetNodeId).vipOwned
    let c := (bumpRoleGeneration { c with maintenanceMode := true } r).modifyFailover r
      fun run ↦ { run with status := .rollingBack }
    .ok <|
      if sourceOwnsVip ∧ (!run.dhcpManaged ∨ dhcpActive c run.sourceNodeId now) then
        complete c r true
      else if sourceOwnsVip ∧ run.dhcpManaged ∧ dhcpReleased c run.targetNodeId now then
        noteRollback (setFailoverPhase c r .rollbackPromotingSource) r
          "The original node retained the virtual IP and DHCP is being restored there."
      else
        noteRollback (setFailoverPhase c r .rollbackDemotingTarget) r
          (if recover then "The promoted node reported unhealthy DNS after handover."
            else "Operator requested rollback.")

end Kaya.HA
