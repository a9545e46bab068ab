import Kaya.HA.Failover

/-!
# Maintenance runs

`app/services/ha_maintenance.py`: the three explicit repair workflows of an inconsistent cluster.

* **Reconciliation** corrects stored state from fresh reports and moves nothing. It does *not* set
  `maintenance_mode`.
* **Reinitialisation** rebuilds ownership around a chosen active node and a chosen authority, phase
  by phase.
* **DHCP self-heal** repairs one persisted DHCP setting when ownership is certain.

What these workflows call outside the module appears as an argument of the step that calls it: the
outcome of the configuration backups, of the synchronisation, of a lease inspection, and the part of
the recovery columns that decides whether a node's recovery looks stalled.
-/

namespace Kaya.HA

namespace Maintenance

/-! ### Observations -/

/-- `_dhcp_active`, in the 45-second window. -/
def dhcpActive (c : HACluster) (n : NodeId) (now : DateTime) : Bool :=
  (dhcpObservation (c.node n) (.topology now)).active

/-- `_dhcp_released`, in the 45-second window. -/
def dhcpReleased (c : HACluster) (n : NodeId) (now : DateTime) : Bool :=
  (dhcpObservation (c.node n) (.topology now)).released

end Maintenance

/-- `active_maintenance`. -/
def activeMaintenance (c : HACluster) : Option RunId :=
  c.maintenanceRuns.newest? HAMaintenanceRun.createdAt fun run ↦ run.status.isActive

/-- `latest_maintenance`. -/
def latestMaintenance (c : HACluster) : Option RunId :=
  c.maintenanceRuns.newest? HAMaintenanceRun.createdAt fun _ ↦ true

/-- `ClusterInspection`. -/
structure ClusterInspection where
  freshNodeIds : List NodeId
  vipOwnerIds : List NodeId
  dhcpOwnerIds : List NodeId
  issues : List TopologyIssue

/-- Both nodes were heard. -/
def ClusterInspection.fresh (i : ClusterInspection) : Bool := i.freshNodeIds.length = 2

/-- The nodes whose recovery columns look stalled, with the label of their recovery state. -/
abbrev StalledRecovery := NodeId → Option String

/-- The stored role of the observed owner does not match. -/
def storedRoleIssues (c : HACluster) (w : Window) : List TopologyIssue :=
  match soleVipOwner c w with
  | none => []
  | some owner =>
    let node := c.node owner
    let name := node.displayName
    if c.currentActiveNodeId ≠ some owner ∨ node.role ≠ .active ∨ node.desiredRole ≠ .active then
      [⟨.storedRoleMismatch, "Stored HA state does not match observed node state",
        s!"{name} owns the Virtual IP, but Kaya's stored Active/Standby assignment does not match.",
        .warning, false⟩]
    else []

/-- A healthy node that is still marked as recovering. -/
def staleRecoveryIssues (c : HACluster) (w : Window) (stalled : StalledRecovery) :
    List TopologyIssue :=
  (freshNodes c w).filterMap fun n ↦
    let node := c.node n
    let name := node.displayName
    let settled := node.vipOwned ∨ (node.observedRole = some .standby ∧
      (!piholeManagesDhcp c ∨ Maintenance.dhcpReleased c n w.now))
    match stalled n with
    | none => none
    | some label =>
      if node.dnsHealthy = some true ∧ node.keepalivedRuntimeState = .running ∧ settled then
        some ⟨.staleRecoveryState, "Recovery state appears stale",
          s!"{name} has reported stable runtime health but remains marked {label}.",
          .warning, false⟩
      else none

/-- `inspect_cluster`. -/
def inspectCluster (c : HACluster) (w : Window) (stalled : StalledRecovery) : ClusterInspection :=
  let topology := reconcileTopology c w
  { freshNodeIds := topology.freshNodeIds
    vipOwnerIds := topology.vipOwnerIds
    dhcpOwnerIds := topology.dhcpOwnerIds
    issues := topology.issues ++ storedRoleIssues c w ++ staleRecoveryIssues c w stalled }

/-- `preferred_node`. -/
def preferredNode (c : HACluster) : Option NodeId :=
  let earliest :=
    (c.failoverRuns.ids.insertionSort fun a b ↦
      (c.failoverRun a).createdAt ≤ (c.failoverRun b).createdAt).head?
  (c.nodes.ids.find? fun n ↦ c.preferredNodeId = some n) <|>
    match earliest with
    | some r => some (c.failoverRun r).sourceNodeId
    | none => (c.nodes.ids.find? fun n ↦ (c.node n).role = .active) <|> c.nodes.ids.min?

/-- `evaluate_recovery`, as far as the modelled columns go: the preferred node is fixed once. -/
def evaluateRecovery (c : HACluster) : HACluster :=
  if c.preferredNodeId = none then { c with preferredNodeId := preferredNode c } else c

/-- `_snapshot_state`. -/
def snapshotState (c : HACluster) : PreviousState where
  automaticFailoverEnabled := c.automaticFailoverEnabled
  automaticSyncEnabled := c.automaticSyncEnabled
  automaticSyncAllowDeletions := c.automaticSyncAllowDeletions

/-- Add a run. -/
def insertMaintenance (c : HACluster) (run : HAMaintenanceRun) : HACluster :=
  { c with maintenanceRuns := c.maintenanceRuns.insert run }

/-- `_set_phase`. -/
def setPhase (c : HACluster) (m : RunId) (phase : MaintenancePhase) (now : DateTime) : HACluster :=
  c.modifyMaintenance m fun run ↦ { run with phase, phaseStartedAt := now }

/-- `_fail_safe`. -/
def failSafe (c : HACluster) (m : RunId) (message : String) : HACluster :=
  { c with status := .degraded }.modifyMaintenance m fun run ↦
    { run with
      status := .failedSafe, phase := .paused
      errorRedacted := some (PyText.take 1000 message) }

/-! ### Reconciliation -/

/-- `start_reconciliation`. -/
def startReconciliation (c : HACluster) (now : DateTime) : Except String HACluster :=
  if (activeMaintenance c).isSome then .error "Cluster maintenance is already in progress."
  else if (activeFailover c).isSome then
    .error "Wait for the current failover or rollback operation to finish."
  else
    .ok <| insertMaintenance c
      { operation := .reconcile, status := .running, phase := .waitingForReports
        previousState := snapshotState c
        phaseStartedAt := now, startedAt := now, createdAt := now }

/-- Stored roles follow the owner. -/
def followOwner (owner : NodeId) (n : NodeId) (node : HANode) : HANode :=
  let role := if n = owner then Role.active else .standby
  { node with role, desiredRole := role }

/-- The generation every node reports, when they agree on one beyond the stored generation. -/
def agreedGeneration (c : HACluster) (column : HANode → ℕ) (stored : ℕ) : ℕ :=
  match (c.nodes.ids.map fun n ↦ column (c.node n)).eraseDups with
  | [g] => if stored < g then g else stored
  | _ => stored

/-- Exactly one node owns the Virtual IP and, where the cluster manages DHCP, DHCP as well. -/
def cleanOwner (c : HACluster) (i : ClusterInspection) : Option NodeId :=
  match i.vipOwnerIds with
  | [owner] => if !piholeManagesDhcp c ∨ i.dhcpOwnerIds = [owner] then some owner else none
  | _ => none

/-- The corrections of a reconciliation, from fresh reports. -/
def correctStoredState (c : HACluster) (i : ClusterInspection) : HACluster :=
  let c :=
    { c with
      clusterGeneration := agreedGeneration c HANode.observedGeneration c.clusterGeneration
      keepalivedGeneration := agreedGeneration c HANode.configGeneration c.keepalivedGeneration }
  match cleanOwner c i with
  | none => c
  | some owner =>
    { c with currentActiveNodeId := some owner, authoritativeNodeId := some owner }.mapNodes
      (followOwner owner)

/-- `reconcile_cluster_state`. -/
def reconcileClusterState (c : HACluster) (m : RunId) (stalled : StalledRecovery)
    (now : DateTime) : HACluster :=
  let run := c.maintenanceRun m
  if run.operation ≠ .reconcile ∨ !run.status.isActive then c
  else
    let inspection := inspectCluster c (.topology now (some run.startedAt)) stalled
    if !inspection.fresh then
      c.modifyMaintenance m fun run ↦ { run with phase := .waitingForReports }
    else
      let c := evaluateRecovery (correctStoredState c inspection)
      let remaining := (inspectCluster c (.topology now) stalled).issues
      let message := PyText.take 1000 (" ".intercalate (remaining.map (·.message)))
      c.modifyMaintenance m fun run ↦
        { run with
          status := if remaining = [] then .succeeded else .failedSafe
          phase := if remaining = [] then .complete else .paused
          errorRedacted := if remaining = [] then none else some message }

/-! ### Reinitialisation -/

/-- `start_reinitialisation`. -/
def startReinitialisation (c : HACluster) (desiredActive authority : NodeId) (acknowledged : Bool)
    (now : DateTime) : Except String HACluster :=
  if !acknowledged then
    .error ("Confirm that Kaya may rebuild HA ownership while preserving Pi-hole data and " ++
      "cluster history.")
  else if desiredActive ∉ c.nodes.ids ∨ authority ∉ c.nodes.ids then
    .error "The selected nodes do not belong to this cluster."
  else if c.nodes.ids.length ≠ 2 then
    .error "Reinitialisation requires exactly two existing nodes."
  else if (activeMaintenance c).isSome then .error "Cluster maintenance is already in progress."
  else if (activeFailover c).isSome then
    .error "Wait for the current failover or rollback operation to finish."
  else
    let prior := (latestMaintenance c).map c.maintenanceRun
    -- A run that follows a failed reinitialisation inherits the settings that one found.
    let previous := match prior with
      | some run =>
        if run.operation = .reinitialise ∧ run.status = .failedSafe then run.previousState
        else snapshotState c
      | none => snapshotState c
    .ok <| insertMaintenance
      { c with
        maintenanceMode := true, automaticFailoverEnabled := false, automaticSyncEnabled := false }
      { operation := .reinitialise, status := .running, phase := .waitingForReports
        desiredActiveNodeId := some desiredActive, authoritativeNodeId := some authority
        previousState := previous
        phaseStartedAt := now, startedAt := now, createdAt := now }

/-- What the steps of a reinitialisation learn from outside: the outcome of the two backups (which
adopt the authority before the synchronisation plan is made), of the synchronisation, and of the
lease inspection. -/
structure ReinitialisationInputs where
  /-- `_create_two_node_backups`: reading the configurations, then making the plan. -/
  backup : Except String (Except String Unit) := .ok (.ok ())
  synchronisation : Except String Unit := .ok ()
  leases : LeaseAnswer := .ok none
  stalled : StalledRecovery := fun _ ↦ none

/-- The stored state of a finished reinitialisation. -/
def finishReinitialisation (c : HACluster) (m : RunId) (target : NodeId) : HACluster :=
  let run := c.maintenanceRun m
  let c := c.mapNodes (followOwner target)
  { c with
    currentActiveNodeId := some target
    authoritativeNodeId := run.authoritativeNodeId
    automaticFailoverEnabled := run.previousState.automaticFailoverEnabled
    automaticSyncEnabled := run.previousState.automaticSyncEnabled
    automaticSyncAllowDeletions := run.previousState.automaticSyncAllowDeletions
    status := .healthy
    maintenanceMode := false }.modifyMaintenance m fun run ↦
      { run with
        status := .succeeded, phase := .complete, errorRedacted := none, result := {} }

/-- `WAITING_FOR_REPORTS`. The inspection document replaces `result_json` as a whole. -/
def awaitReports (c : HACluster) (m : RunId) (target : NodeId) (inputs : ReinitialisationInputs)
    (now : DateTime) : HACluster :=
  let run := c.maintenanceRun m
  let inspection := inspectCluster c (.topology now (some run.phaseStartedAt)) inputs.stalled
  let c := c.modifyMaintenance m fun run ↦ { run with result := {} }
  if !inspection.fresh then c
  else if inspection.vipOwnerIds = [target] ∧
      (!piholeManagesDhcp c ∨ inspection.dhcpOwnerIds = [target]) ∧
      !inspection.issues.any (·.requiresServiceMovement) then
    finishReinitialisation c m target
  else setPhase c m .backingUp now

/-- `BACKING_UP`. -/
def backUp (c : HACluster) (m : RunId) (inputs : ReinitialisationInputs) (now : DateTime) :
    HACluster :=
  let adopted := { c with authoritativeNodeId := (c.maintenanceRun m).authoritativeNodeId }
  match inputs.backup with
  | .error message => failSafe c m message
  | .ok (.error message) => failSafe adopted m message
  | .ok (.ok ()) => setPhase adopted m .synchronising now

/-- `SYNCHRONISING`. -/
def synchronise (c : HACluster) (m : RunId) (inputs : ReinitialisationInputs) (now : DateTime) :
    HACluster :=
  match inputs.synchronisation with
  | .error message => failSafe c m message
  | .ok () =>
    setPhase c m (if piholeManagesDhcp c then .stagingDhcp else .normalisingStandby) now

/-- `STAGING_DHCP`. -/
def stageDhcp (c : HACluster) (m : RunId) (inputs : ReinitialisationInputs) (now : DateTime) :
    HACluster :=
  match reconcileClusterLeases c now inputs.leases with
  | (c, .error message) => failSafe c m message
  | (c, .ok ()) =>
    if (leaseState c).conflictCount ≠ 0 then
      failSafe c m "The DHCP lease snapshot contains conflicts and cannot be staged safely."
    else setPhase c m .waitingForDhcpStage now

/-- The staged generation of the standby is current. -/
def standbyStaged (c : HACluster) (standby : NodeId) : Bool :=
  c.leaseReplication.any fun state ↦
    state.status = .current ∧ state.targetNodeId = some standby ∧
      state.desiredGeneration ≤ (c.node standby).leaseGeneration

/-- `_request_runtime_rebuild`. -/
def requestRuntimeRebuild (c : HACluster) (m : RunId) (target : NodeId) (now : DateTime) :
    HACluster :=
  let c := requestDeployment (c.mapNodes (assignNode target))
  setPhase { c with roleGeneration := c.roleGeneration + 1 } m .waitingForVip now

/-- `VERIFYING_DHCP_RELEASE`. -/
def verifyDhcpRelease (c : HACluster) (m : RunId) (standby : NodeId) (now : DateTime) :
    HACluster :=
  if Maintenance.dhcpReleased c standby now then
    (setPhase c m .rebuildingHa now).modifyMaintenance m fun run ↦
      { run with errorRedacted := none }
  else if seconds 45 < now - (c.maintenanceRun m).phaseStartedAt then
    let name := (c.node standby).displayName
    failSafe c m <|
      s!"{name} still reports DHCP configured or UDP port 67 listening after the bounded " ++
      "release window. Reinitialisation stopped before another DHCP owner was enabled."
  else c

/-- `WAITING_FOR_VIP`. -/
def awaitRebuild (c : HACluster) (m : RunId) (target : NodeId) (inputs : ReinitialisationInputs)
    (now : DateTime) : HACluster :=
  let since := (c.maintenanceRun m).phaseStartedAt
  let inspection := inspectCluster c (.topology now (some since)) inputs.stalled
  let failed := c.nodes.ids.filter fun n ↦ (c.node n).keepalivedStatus = .error
  let name := (c.node target).displayName
  if failed ≠ [] then
    let detail := " ".intercalate <| failed.map fun n ↦
      (c.node n).displayName ++ ": " ++
        PyText.orDefault (c.node n).keepalivedLastError "Keepalived configuration was rejected."
    failSafe c m ("The HA runtime rebuild stopped safely. " ++ detail)
  else if !inspection.fresh ∨ c.nodes.ids.any fun n ↦ (c.node n).keepalivedStatus ≠ .deployed then c
  else if inspection.vipOwnerIds ≠ [target] then
    if seconds 90 < now - since then
      failSafe c m <|
        s!"Kaya could not confirm that {name} became the only Virtual IP owner. " ++
        "No additional DHCP service was started."
    else c
  else if piholeManagesDhcp c ∧ !Maintenance.dhcpActive c target now then
    setPhase c m .promotingActive now
  else setPhase c m .verifying now

/-- `VERIFYING_DHCP_ACTIVATION`. -/
def verifyDhcpActivation (c : HACluster) (m : RunId) (target standby : NodeId)
    (inputs : ReinitialisationInputs) (now : DateTime) : HACluster :=
  let since := (c.maintenanceRun m).phaseStartedAt
  let inspection := inspectCluster c (.topology now (some since)) inputs.stalled
  if inspection.fresh ∧ inspection.vipOwnerIds = [target] ∧ inspection.dhcpOwnerIds = [target] ∧
      Maintenance.dhcpReleased c standby now ∧ (c.node target).dnsHealthy = some true then
    (setPhase c m .verifying now).modifyMaintenance m fun run ↦ { run with errorRedacted := none }
  else if seconds 45 < now - since then
    failSafe c m <|
      "Final DHCP activation verification did not converge. Kaya could not confirm exactly one " ++
      "VIP and DHCP owner, so repair stopped without issuing another ownership change."
  else c

/-- `validate_cluster_invariants`. -/
def validateClusterInvariants (c : HACluster) (m : RunId) (target standby : NodeId)
    (stalled : StalledRecovery) (now : DateTime) : List String :=
  let since := (c.maintenanceRun m).phaseStartedAt
  let inspection := inspectCluster c (.topology now (some since)) stalled
  let name := (c.node target).displayName
  let anyNode (p : HANode → Bool) : Bool := c.nodes.ids.any fun n ↦ p (c.node n)
  let blockers :=
    (if !inspection.fresh then ["Waiting for fresh signed reports from both nodes."] else []) ++
    (if inspection.vipOwnerIds ≠ [target] then
      [s!"{name} is not yet the only Virtual IP owner."] else []) ++
    (if piholeManagesDhcp c ∧ inspection.dhcpOwnerIds ≠ [target] then
      [s!"{name} is not yet the only DHCP-active node."] else []) ++
    (if anyNode fun node ↦ node.dnsHealthy ≠ some true then
      ["DNS must be healthy on both nodes."] else []) ++
    (if anyNode fun node ↦ !node.registered then
      ["Both registered HA Agent identities must be reporting."] else []) ++
    (if anyNode fun node ↦
        node.keepalivedStatus ≠ .deployed ∨ node.keepalivedRuntimeState ≠ .running then
      ["Keepalived must be deployed and running on both nodes."] else []) ++
    (if anyNode fun node ↦ node.configGeneration < c.keepalivedGeneration then
      ["Both nodes must report the current HA configuration generation."] else []) ++
    (if piholeManagesDhcp c ∧ !standbyStaged c standby then
      ["The standby must stage the current validated DHCP generation."] else [])
  blockers.eraseDups

/-- `VERIFYING`. -/
def verifyInvariants (c : HACluster) (m : RunId) (target standby : NodeId)
    (inputs : ReinitialisationInputs) (now : DateTime) : HACluster :=
  match validateClusterInvariants c m target standby inputs.stalled now with
  | [] => finishReinitialisation c m target
  | blockers =>
    if seconds 90 < now - (c.maintenanceRun m).phaseStartedAt then
      failSafe c m ("Final HA validation stopped safely: " ++ " ".intercalate blockers)
    else c

/-- The run was started by an earlier process and this process has not resumed it yet. -/
def restartPending (run : HAMaintenanceRun) (processStartedAt : DateTime) : Bool :=
  run.startedAt < processStartedAt ∧ run.result.resumedForProcessStartedAt ≠ some processStartedAt

/-- One phase of `advance_reinitialisation`. `DEMOTING_STANDBY` and `PROMOTING_ACTIVE` wait for an
agent's result and do nothing here. -/
def reinitialisationPhase (c : HACluster) (m : RunId) (target standby : NodeId)
    (inputs : ReinitialisationInputs) (now : DateTime) : HACluster :=
  match (c.maintenanceRun m).phase with
  | .waitingForReports => awaitReports c m target inputs now
  | .backingUp => backUp c m inputs now
  | .synchronising => synchronise c m inputs now
  | .stagingDhcp => stageDhcp c m inputs now
  | .waitingForDhcpStage =>
    if standbyStaged c standby then setPhase c m .normalisingStandby now else c
  | .normalisingStandby =>
    if piholeManagesDhcp c ∧ !Maintenance.dhcpReleased c standby now then
      setPhase c m .demotingStandby now
    else setPhase c m .rebuildingHa now
  | .verifyingDhcpRelease => verifyDhcpRelease c m standby now
  | .rebuildingHa => requestRuntimeRebuild c m target now
  | .waitingForVip => awaitRebuild c m target inputs now
  | .verifyingDhcpActivation => verifyDhcpActivation c m target standby inputs now
  | .verifying => verifyInvariants c m target standby inputs now
  | _ => c

/-- `advance_reinitialisation`. -/
def advanceReinitialisation (c : HACluster) (m : RunId) (inputs : ReinitialisationInputs)
    (processStartedAt now : DateTime) : HACluster :=
  let run := c.maintenanceRun m
  if run.operation ≠ .reinitialise ∨ run.status ≠ .running then c
  else match run.desiredActiveNodeId with
  | none => failSafe c m "The selected Active node no longer exists."
  | some target =>
    match c.nodes.ids.find? (· ≠ target) with
    | none => c
    | some standby =>
      if restartPending run processStartedAt then
        (setPhase c m .waitingForReports now).modifyMaintenance m fun run ↦
          { run with result :=
              { run.result with resumedForProcessStartedAt := some processStartedAt } }
      else reinitialisationPhase c m target standby inputs now

/-! ### DHCP self-heal -/

/-- `DHCP_SELF_HEAL_AGENT_VERSION`. -/
def dhcpSelfHealAgentVersion : List ℤ := [0, 2, 11]

/-- Events of one node and type, newest first. -/
def recentEvents (c : HACluster) (p : HAEvent → Bool) (limit : ℕ) : List HAEvent :=
  ((c.events.filter p).insertionSort fun a b ↦ b.receivedAt ≤ a.receivedAt).take limit

/-- `_hard_failover_proof`. -/
def hardFailoverProof (c : HACluster) (owner : NodeId) (now : DateTime) : Bool :=
  (recentEvents c (fun e ↦ e.nodeId = some owner ∧ e.source = "agent" ∧
      e.eventType = "automatic_failover_completed" ∧ now - seconds 600 ≤ e.receivedAt) 20).any
    fun e ↦ e.generation = some (c.keepalivedGeneration : ℤ)

/-- `_dhcp_topology_fingerprint`. -/
def dhcpTopologyFingerprint (c : HACluster) (topology : ReconciledTopology) (now : DateTime) :
    Digest :=
  let ids := c.nodes.ids.insertionSort (· ≤ ·)
  .topology
    { freshNodeIds := ids.filter (· ∈ topology.freshNodeIds)
      vipOwnerIds := ids.filter (· ∈ topology.vipOwnerIds)
      dhcpOwnerIds := ids.filter (· ∈ topology.dhcpOwnerIds)
      nodes := ids.map fun n ↦
        let node := c.node n
        let o := dhcpObservation node (.topology now)
        let heard := decide (n ∈ topology.freshNodeIds)
        { nodeId := n
          desiredRole := node.desiredRole
          observedRole := node.observedRole
          vipOwned := if heard then some node.vipOwned else none
          dhcpState := o.state
          dhcpConfigured := o.configured
          ftlActive := o.serviceActive
          udp67Listening := o.listening
          dnsHealthy := if heard then node.dnsHealthy else none
          configGeneration := node.configGeneration
          agentVersion := node.agentVersion } }

/-- A failed self-heal that still latches its failure. -/
def isFailedSelfHeal (run : HAMaintenanceRun) : Bool :=
  run.operation = .dhcpSelfHeal ∧ run.status = .failedSafe

/-- `_clear_changed_dhcp_failure_latches`. -/
def clearChangedDhcpFailureLatches (c : HACluster) (fingerprint : Digest) : HACluster :=
  { c with maintenanceRuns := c.maintenanceRuns.mapRows fun _ run ↦
      if isFailedSelfHeal run ∧ run.result.latchActive ∧
          run.result.topologyFingerprint ≠ some fingerprint then
        { run with result := { run.result with latchActive := false } }
      else run }

/-- `_matching_dhcp_failure_latch`. -/
def matchingDhcpFailureLatch (c : HACluster) (signature : Digest) : Option RunId :=
  c.maintenanceRuns.newest? HAMaintenanceRun.createdAt fun run ↦
    isFailedSelfHeal run ∧ run.result.latchActive ∧ run.result.driftSignature = some signature

/-- The owner has held the Virtual IP steadily, under the current generations. -/
def ownerIsStable (c : HACluster) (owner : HANode) (now : DateTime) : Bool :=
  owner.vipStableSince.any (fun t ↦ seconds 10 ≤ now - t) ∧ owner.observedRole = some .active ∧
    c.roleGeneration ≤ owner.observedGeneration ∧ c.keepalivedGeneration ≤ owner.configGeneration

/-- The repair a topology calls for, once ownership is certain: which node, and what it is told. -/
def selfHealRepair (c : HACluster) (owner standby : NodeId) (now : DateTime) :
    Option (NodeId × DhcpActionType) :=
  let w := Window.topology now
  if (reconcileTopology c w).fresh ∧
      (dhcpObservation (c.node standby) w).configured = some true then some (standby, .demote)
  else if (dhcpObservation (c.node owner) w).configured = some false then some (owner, .promote)
  else none

/-- The preconditions of a self-heal on the cluster as a whole. -/
def selfHealAllowed (c : HACluster) : Bool :=
  c.providerKey = "pihole" ∧ c.keepalivedStatus = .deployed ∧ c.nodes.ids.length = 2 ∧
    piholeManagesDhcp c ∧ (activeMaintenance c).isNone ∧ !c.maintenanceMode ∧
    (activeFailover c).isNone

/-- The owner and the standby, when ownership is certain enough to repair a setting. -/
def selfHealParties (c : HACluster) (now : DateTime) : Option (NodeId × NodeId × Bool) :=
  let topology := reconcileTopology c (.topology now)
  match topology.vipOwnerIds with
  | [owner] =>
    match c.nodes.ids.find? (· ≠ owner) with
    | none => none
    | some standby =>
      let proven := decide (topology.freshNodeIds = [owner]) && hardFailoverProof c owner now
      if topology.dhcpUnknownNodeIds ≠ [] ∨ 1 < topology.dhcpOwnerIds.length then none
      else if c.nodes.ids.any fun n ↦
          versionTuple (c.node n).agentVersion < dhcpSelfHealAgentVersion then none
      else if !ownerIsStable c (c.node owner) now then none
      else if !topology.fresh ∧ !proven then none
      else if (c.node owner).dnsHealthy ≠ some true ∨ (c.node owner).ftlActive ≠ some true ∨
          (!Maintenance.dhcpReleased c standby now ∧ !proven) then none
      else some (owner, standby, proven)
  | _ => none

/-- `start_dhcp_self_heal`. Changed latches are cleared before the rest is looked at. -/
def startDhcpSelfHeal (c : HACluster) (forceRetry : Bool) (now : DateTime) : HACluster :=
  if !selfHealAllowed c then c
  else
    let fingerprint := dhcpTopologyFingerprint c (reconcileTopology c (.topology now)) now
    let c := clearChangedDhcpFailureLatches c fingerprint
    match selfHealParties c now with
    | none => c
    | some (owner, standby, proven) =>
      match selfHealRepair c owner standby now with
      | none => c
      | some (node, action) =>
        let repair := if action = .promote then RepairType.activeDhcpConfigurationRepair
          else .standbyDhcpConfigurationRepair
        let signature := Digest.drift repair node fingerprint
        let latch := matchingDhcpFailureLatch c signature
        if latch.isSome ∧ !forceRetry then c
        else
          let c := match latch with
            | none => c
            | some m => c.modifyMaintenance m fun run ↦
              { run with result := { run.result with latchActive := false } }
          insertMaintenance { c with maintenanceMode := true }
            { operation := .dhcpSelfHeal, status := .running, phase := .repairingDhcp
              desiredActiveNodeId := some owner
              previousState := snapshotState c
              result :=
                { repairNodeId := some node, actionType := some action, hardFailureProven := proven
                  driftSignature := some signature, topologyFingerprint := some fingerprint }
              phaseStartedAt := now, startedAt := now, createdAt := now }

/-- `_fail_dhcp_self_heal`. -/
def failDhcpSelfHeal (c : HACluster) (m : RunId) (message : String) : HACluster :=
  { c with maintenanceMode := false, status := .degraded }.modifyMaintenance m fun run ↦
    { run with
      status := .failedSafe, phase := .paused
      errorRedacted := some (PyText.take 1000 message)
      result := { run.result with latchActive := true } }

/-- `REPAIRING_DHCP`: a queued demotion is cancelled once it would no longer be authorised. -/
def cancelSelfHeal (c : HACluster) (m : RunId) (now : DateTime) : HACluster :=
  let run := c.maintenanceRun m
  match run.result.repairNodeId, run.result.actionType with
  | some node, some .demote =>
    if (authoriseDhcpDemotion c node now run.desiredActiveNodeId false false).allowed then c
    else
      { c with maintenanceMode := false }.modifyMaintenance m fun run ↦
        { run with
          status := .succeeded, phase := .complete
          result := { run.result with latchActive := false } }
  | _, _ => c

/-- The repair has been observed. -/
def selfHealRepaired (c : HACluster) (run : HAMaintenanceRun) (node owner standby : NodeId)
    (action : DhcpActionType) (now : DateTime) : Bool :=
  let w := Window.topology now (some run.phaseStartedAt)
  let topology := reconcileTopology c w
  let proven := run.result.hardFailureProven && hardFailoverProof c owner now
  let ownerObservation := dhcpObservation (c.node owner) w
  let standbyObservation := dhcpObservation (c.node standby) w
  let repairObservation := dhcpObservation (c.node node) w
  let observed : Bool := match action with
    | .promote => ownerObservation.active ∧ ownerObservation.configured = some true ∧
        ((standbyObservation.released ∧ standbyObservation.configured = some false) ∨ proven)
    | .demote => repairObservation.released ∧ repairObservation.configured = some false
  (topology.fresh ∨ (proven ∧ topology.freshNodeIds = [owner])) ∧ topology.vipOwnerIds = [owner] ∧
    (c.node owner).dnsHealthy = some true ∧ observed

/-- The message of a repair that did not converge. -/
def selfHealFailure (run : HAMaintenanceRun) : String :=
  let detail := match run.result.actionResult with
    | some (.failed, message) => PyText.take 500 message
    | _ => ""
  if detail = "" then
    "DHCP configuration repair did not converge after one bounded attempt. " ++
    "Kaya stopped without changing VIP ownership."
  else s!"DHCP configuration repair failed: {detail} Kaya stopped without changing VIP ownership."

/-- `advance_dhcp_self_heal`. -/
def advanceDhcpSelfHeal (c : HACluster) (m : RunId) (now : DateTime) : HACluster :=
  let run := c.maintenanceRun m
  if run.operation ≠ .dhcpSelfHeal ∨ run.status ≠ .running then c
  else if run.phase = .repairingDhcp then cancelSelfHeal c m now
  else match run.result.repairNodeId, run.desiredActiveNodeId, run.result.actionType with
  | some node, some owner, some action =>
    match c.nodes.ids.find? (· ≠ owner) with
    | none => c
    | some standby =>
      if selfHealRepaired c run node owner standby action now then
        { c with
          maintenanceMode := false
          status := if topologySafe c (.topology now) then .healthy else .degraded
        }.modifyMaintenance m fun run ↦
          { run with
            status := .succeeded, phase := .complete, errorRedacted := none
            result := { run.result with latchActive := false } }
      else if seconds 45 < now - run.phaseStartedAt then
        failDhcpSelfHeal c m (selfHealFailure run)
      else c
  | _, _, _ =>
    failDhcpSelfHeal c m
      "The bounded DHCP repair record is incomplete. No further action was issued."

/-! ### What the agents are offered -/

/-- The action dictionary of a maintenance run. -/
def maintenanceAction (c : HACluster) (m : RunId) (n : NodeId) (action : DhcpActionType)
    (configurationOnly ownerHandoverAuthorised : Bool) : DhcpAction where
  actionId := .maintenance m action n
  actionType := action
  generation := c.roleGeneration
  checksum := .maintenanceAction action m c.roleGeneration n
  leaseGeneration := c.leaseReplication.elim 0 (·.desiredGeneration)
  restoreOriginal := false
  configurationOnly := configurationOnly
  ownerHandoverAuthorised := ownerHandoverAuthorised

/-- The action of a self-heal. -/
def selfHealAction (c : HACluster) (m : RunId) (n : NodeId) (now : DateTime) : Option DhcpAction :=
  let run := c.maintenanceRun m
  if run.phase ≠ .repairingDhcp ∨ run.result.repairNodeId ≠ some n then none
  else match run.result.actionType with
  | none => none
  | some .promote => some (maintenanceAction c m n .promote true false)
  | some .demote =>
    if (authoriseDhcpDemotion c n now run.desiredActiveNodeId false false).allowed then
      some (maintenanceAction c m n .demote false false)
    else none

/-- The action of a reinitialisation. It is withdrawn as soon as a report shows the wanted state. -/
def reinitialisationAction (c : HACluster) (m : RunId) (n : NodeId) (now : DateTime) :
    Option DhcpAction :=
  let run := c.maintenanceRun m
  match run.desiredActiveNodeId with
  | none => none
  | some target =>
    -- The 45-second window decides about the offer, the 120-second window about the authorisation.
    if run.phase = .demotingStandby ∧ n ≠ target ∧ !Maintenance.dhcpReleased c n now then
      let decision := authoriseDhcpDemotion c n now (some target) true
        (run.authoritativeNodeId = some target)
      if decision.allowed then some (maintenanceAction c m n .demote false decision.ownerHandover)
      else none
    else if run.phase = .promotingActive ∧ n = target ∧ !Maintenance.dhcpActive c n now then
      some (maintenanceAction c m n .promote false false)
    else none

/-- `desired_maintenance_action`. -/
def desiredMaintenanceAction (c : HACluster) (n : NodeId) (now : DateTime) : Option DhcpAction :=
  match activeMaintenance c with
  | none => none
  | some m =>
    let run := c.maintenanceRun m
    if run.status ≠ .running then none
    else match run.operation with
    | .reconcile => none
    | .dhcpSelfHeal => selfHealAction c m n now
    | .reinitialise => reinitialisationAction c m n now

/-- The phase a reported result leads to, whatever its status. -/
def phaseAfterResult (run : HAMaintenanceRun) : Option MaintenancePhase :=
  if run.operation = .dhcpSelfHeal then some .verifyingDhcpRepair
  else match run.phase with
  | .demotingStandby => some .verifyingDhcpRelease
  | .promotingActive => some .verifyingDhcpActivation
  | _ => none

/-- Keep status and message of a reported result under `action_result`. -/
def noteActionResult (c : HACluster) (m : RunId) (status : ResultStatus) (message : String) :
    HACluster :=
  c.modifyMaintenance m fun run ↦
    { run with result :=
        { run.result with actionResult := some (status, PyText.take 1000 message) } }

/-- `record_maintenance_action_result`. The result is checked against the action offered *now*. -/
def recordMaintenanceActionResult (c : HACluster) (n : NodeId) (action : DhcpActionType)
    (generation : ℕ) (checksum : Option Digest) (status : ResultStatus) (message : String)
    (now : DateTime) : Except String HACluster :=
  match activeMaintenance c, desiredMaintenanceAction c n now with
  | some m, some expected =>
    if generation ≠ expected.generation ∨ checksum ≠ some expected.checksum then
      .error "The maintenance result does not match the current repair generation."
    else
      let run := c.maintenanceRun m
      let c := noteActionResult c m status message
      let fallback := s!"{action.text} returned an unexpected result."
      let failure := some (PyText.take 1000 (PyText.orDefault (some message) fallback))
      match phaseAfterResult run, status with
      | some phase, .applied => .ok (setPhase c m phase now)
      | some phase, .failed =>
        .ok <| (setPhase c m phase now).modifyMaintenance m fun run ↦
          { run with errorRedacted := failure }
      | none, .applied => .ok c
      | none, .failed =>
        .ok (failSafe c m (PyText.orDefault (some message) s!"{action.text} failed safely."))
  | _, _ => .error "The maintenance result does not match the current repair generation."

end Kaya.HA
