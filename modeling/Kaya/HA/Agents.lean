import Kaya.HA.Keepalived
import Kaya.HA.Maintenance

/-!
# The agent endpoints

`app/services/ha_agents.py`: what happens when a signed heartbeat, an action result or an agent
event arrives.

**Heartbeats.** `recordHeartbeat` writes the telemetry of the node (`applyHeartbeat`), commits, and
then — unless nothing changed on a healthy cluster — reconciles Virtual-IP ownership, advances the
failover, evaluates recovery and advances or starts maintenance, each in its own commit.

**Results.** `recordActionResult` is idempotent by `action_id`: a stored row with that identifier
answers the request, whatever it was stored for. Only then is the result compared with the action
offered now, stored, and handed to the workflow it belongs to.
-/

namespace Kaya.HA

/-! ### Registration -/

/-- `register_agent`, once the bootstrap token is accepted: the observation of the node starts over
under the new key. -/
def registerAgent (c : HACluster) (n : NodeId) (agentVersion : String) (now : DateTime) :
    HACluster :=
  c.modifyNode n fun node ↦
    { node with
      registered := true, agentVersion := some agentVersion, lastHeartbeatAt := some now
      lastReportSequence := 0, lastAgentReportedAt := none }

/-- `revoke_agent`. -/
def revokeAgent (c : HACluster) (n : NodeId) : HACluster :=
  c.modifyNode n fun node ↦ { node with registered := false }

/-! ### Heartbeats -/

/-- `HAAgentHeartbeat`. -/
structure HAAgentHeartbeat where
  reportSequence : ℕ := 0
  reportedAt : Option DateTime := none
  observedRole : Role
  observedGeneration : ℕ := 0
  vipOwned : Bool
  dhcpRunning : Bool
  dhcpConfigured : Option Bool := none
  dhcpListenerActive : Option Bool := none
  ftlActive : Option Bool := none
  dhcpRuntimeState : Option DhcpRuntimeState := none
  dhcpObservationStatus : Option ObservationStatus := none
  dhcpObservedAt : Option DateTime := none
  dnsHealthy : Bool
  peerReachable : Option Bool := none
  peerIcmpProbeStatus : Option IcmpProbeStatus := none
  peerDnsReachable : Option Bool := none
  resolverManager : Option String := none
  resolverNameservers : List String := []
  resolverObservationStatus : Option ObservationStatus := none
  leaseGeneration : ℕ := 0
  configGeneration : ℕ := 0
  agentVersion : String
  keepalivedRuntimeState : KeepalivedRuntimeState := .unknown
  deriving DecidableEq

/-- `REQUEST_WINDOW_SECONDS`, as a bound on the distance of two clocks. -/
def withinRequestWindow (a b : DateTime) : Bool :=
  a - b ≤ seconds 300 ∧ b - a ≤ seconds 300

/-- A heartbeat whose sequence number is not new is accepted only as a rebase: the stored
observation is stale and the signed time is current and newer. -/
def heartbeatAccepted (node : HANode) (hb : HAAgentHeartbeat) (now : DateTime) : Bool :=
  if hb.reportSequence ≠ 0 ∧ hb.reportSequence ≤ node.lastReportSequence then
    node.lastHeartbeatAt.any (fun t ↦ t < now - seconds 45) ∧
      hb.reportedAt.any fun t ↦
        withinRequestWindow now t ∧ node.lastAgentReportedAt.all (· < t)
  else true

/-- The status of the DHCP observation a heartbeat carries. -/
def HAAgentHeartbeat.observationStatus (hb : HAAgentHeartbeat) : ObservationStatus :=
  hb.dhcpObservationStatus.getD <|
    if hb.dhcpConfigured.isSome ∧ hb.dhcpListenerActive.isSome ∧ hb.ftlActive.isSome then .fresh
    else .unknown

/-- The DHCP runtime state a heartbeat carries. -/
def HAAgentHeartbeat.runtimeState (hb : HAAgentHeartbeat) : DhcpRuntimeState :=
  hb.dhcpRuntimeState.getD <|
    if hb.observationStatus = .fresh then if hb.dhcpRunning then .running else .stopped
    else .unknown

/-- The DHCP columns of a node after a heartbeat. An observation that is not fresh clears the three
evidence columns and keeps the legacy running flag. -/
def applyDhcpReport (hb : HAAgentHeartbeat) (now : DateTime) (node : HANode) : HANode :=
  let observedAt := (hb.dhcpObservedAt.filter (withinRequestWindow now)).getD now
  let node :=
    { node with
      dhcpObservationStatus := hb.observationStatus
      dhcpRuntimeState := hb.runtimeState
      dhcpObservedAt := some observedAt }
  if hb.observationStatus = .fresh then
    { node with
      dhcpConfigured := hb.dhcpConfigured, dhcpListenerActive := hb.dhcpListenerActive
      ftlActive := hb.ftlActive, dhcpRunning := hb.runtimeState = .running }
  else { node with dhcpConfigured := none, dhcpListenerActive := none, ftlActive := none }

/-- The heartbeat shows a stable owner under the current generations of the cluster. -/
def stableOwner (c : HACluster) (hb : HAAgentHeartbeat) : Bool :=
  hb.vipOwned ∧ hb.observedRole = .active ∧ c.roleGeneration ≤ hb.observedGeneration ∧
    c.keepalivedGeneration ≤ hb.configGeneration

/-- The telemetry of a node after an accepted heartbeat. -/
def applyHeartbeat (c : HACluster) (hb : HAAgentHeartbeat) (now : DateTime) (node : HANode) :
    HANode :=
  let node := applyDhcpReport hb now
    { node with
      agentVersion := some hb.agentVersion
      lastHeartbeatAt := some now
      lastReportSequence :=
        if hb.reportSequence = 0 then node.lastReportSequence else hb.reportSequence
      lastAgentReportedAt := some (hb.reportedAt.getD now)
      observedRole := some hb.observedRole
      observedGeneration := hb.observedGeneration
      vipOwned := hb.vipOwned
      vipStableSince :=
        if stableOwner c hb then some (node.vipStableSince.getD now) else none
      dnsHealthy := some hb.dnsHealthy
      peerReachable := hb.peerReachable
      peerIcmpProbeStatus := hb.peerIcmpProbeStatus <|> hb.peerReachable.map fun r ↦
        if r then .available else .noReply
      peerDnsReachable := hb.peerDnsReachable
      leaseGeneration := hb.leaseGeneration
      configGeneration := hb.configGeneration
      keepalivedRuntimeState := hb.keepalivedRuntimeState }
  if hb.resolverObservationStatus.isSome then
    { node with
      resolverManager := hb.resolverManager
      resolverNameservers := some hb.resolverNameservers
      resolverObservationStatus := hb.resolverObservationStatus }
  else node

/-- `_heartbeat_observation_signature`: the telemetry that can change a safety decision, with every
other column blanked. -/
def heartbeatObservationSignature (node : HANode) : HANode where
  displayName := ""
  agentVersion := node.agentVersion
  observedRole := node.observedRole
  observedGeneration := node.observedGeneration
  vipOwned := node.vipOwned
  dhcpConfigured := node.dhcpConfigured
  dhcpListenerActive := node.dhcpListenerActive
  ftlActive := node.ftlActive
  dhcpRunning := node.dhcpRunning
  dhcpObservationStatus := node.dhcpObservationStatus
  dhcpRuntimeState := node.dhcpRuntimeState
  dnsHealthy := node.dnsHealthy
  peerReachable := node.peerReachable
  peerIcmpProbeStatus := node.peerIcmpProbeStatus
  peerDnsReachable := node.peerDnsReachable
  resolverManager := node.resolverManager
  resolverNameservers := node.resolverNameservers
  resolverObservationStatus := node.resolverObservationStatus
  leaseGeneration := node.leaseGeneration
  configGeneration := node.configGeneration
  keepalivedRuntimeState := node.keepalivedRuntimeState

/-- The committed telemetry update of `record_heartbeat`. -/
def storeHeartbeat (c : HACluster) (n : NodeId) (hb : HAAgentHeartbeat) (now : DateTime) :
    HACluster :=
  c.modifyNode n (applyHeartbeat c hb now)

/-- `needs_reconciliation`. -/
def needsReconciliation (c : HACluster) (n : NodeId) (hb : HAAgentHeartbeat) (now : DateTime) :
    Bool :=
  let node := c.node n
  heartbeatObservationSignature node ≠
      heartbeatObservationSignature (applyHeartbeat c hb now node) ∨
    !node.lastHeartbeatAt.any (fun t ↦ now - seconds 45 ≤ t) ∨ c.status ≠ .healthy ∨
    c.maintenanceMode

/-! ### Virtual-IP ownership -/

/-- `_automatic_completion_for_generation`. -/
def automaticCompletionForGeneration (c : HACluster) (n : NodeId) : Option HAEvent :=
  (recentEvents c (fun e ↦ e.nodeId = some n ∧ e.eventType = "automatic_failover_completed")
    50).find? fun e ↦ e.generation = some (c.keepalivedGeneration : ℤ)

/-- `transition_pending`: a second owner has just reported and automatic failover is on. -/
def transitionPending (c : HACluster) (reporting : Option NodeId) (now : DateTime) : Bool :=
  let owners := vipOwners c (.topology now)
  match reporting, owners.find? fun n ↦ c.currentActiveNodeId = some n with
  | some n, some previous =>
    1 < owners.length ∧ c.automaticFailoverEnabled ∧ (c.node n).vipOwned ∧
      c.currentActiveNodeId ≠ some n ∧
      (c.node previous).lastHeartbeatAt.any fun t ↦
        (c.node n).lastHeartbeatAt.any fun t' ↦ t < t'
  | _, _ => false

/-- Everything about both nodes is healthy. -/
def fullyHealthy (c : HACluster) (now : DateTime) : Bool :=
  let fresh := freshNodes c (.topology now)
  fresh.length = c.nodes.ids.length ∧ (∀ n ∈ fresh, (c.node n).dnsHealthy = some true) ∧
    (∀ n ∈ fresh, (c.node n).keepalivedRuntimeState = .running) ∧
    (∀ n ∈ c.nodes.ids, c.keepalivedGeneration ≤ (c.node n).configGeneration) ∧
    topologySafe c (.topology now)

/-- The owner and the status observed. -/
def observeOwner (c : HACluster) (pending : Bool) (now : DateTime) : HACluster :=
  let owners := vipOwners c (.topology now)
  { c with
    currentActiveNodeId := soleVipOwner c (.topology now)
    status :=
      if owners.length = 1 ∧ fullyHealthy c now then .healthy
      else if 1 < owners.length ∧ !pending then .error
      else .degraded }

/-- Record an event of Kaya's own. -/
def kayaEvent (c : HACluster) (n : Option NodeId) (eventType : String) (now : DateTime) :
    HACluster :=
  { c with events := c.events ++
      [{ nodeId := n, eventType, source := "kaya", occurredAt := now, receivedAt := now }] }

/-- The event of an ownership conflict: pending at most once a minute, split brain when it is
new. -/
def reportConflict (c : HACluster) (previousStatus : ClusterStatus) (reporting : Option NodeId)
    (pending : Bool) (now : DateTime) : HACluster :=
  if pending then
    if c.events.any fun e ↦
        e.eventType = "ownership_transition_pending" ∧ now - seconds 60 ≤ e.receivedAt then c
    else kayaEvent c reporting "ownership_transition_pending" now
  else if 1 < (vipOwners c (.topology now)).length ∧ previousStatus ≠ .error then
    kayaEvent c none "split_brain_detected" now
  else c

/-- The observed owner is proven safe to adopt. -/
def safeToAdopt (c : HACluster) (owner : NodeId) (completed : Bool) (now : DateTime) : Bool :=
  let w := Window.topology now
  let peers := c.nodes.ids.filter (· ≠ owner)
  let current := peers.filter fun n ↦ heartbeatIsFresh (c.node n) w
  !piholeManagesDhcp c ∨ ((dhcpObservation (c.node owner) w).active ∧
      (∀ n ∈ current, (dhcpObservation (c.node n) w).released) ∧
      (current.length = peers.length ∨ completed))

/-- Adopt the observed owner as active, under automatic failover. -/
def adoptOwner (c : HACluster) (previousActive : Option NodeId) (owner : NodeId)
    (completed : Bool) (now : DateTime) : HACluster :=
  let node := c.node owner
  if c.automaticFailoverEnabled ∧
      (previousActive ≠ some owner ∨ c.authoritativeNodeId ≠ some owner ∨ node.role ≠ .active ∨
        node.desiredRole ≠ .active) ∧
      node.dnsHealthy = some true ∧ safeToAdopt c owner completed now then
    let c := c.mapNodes fun n node ↦
      { followOwner owner n node with vrrpPriority := if n = owner then some 150 else some 100 }
    kayaEvent
      { c with authoritativeNodeId := some owner, roleGeneration := c.roleGeneration + 1 }
      (some owner) "automatic_failover_reconciled" now
  else c

/-- Reclassify the newest ownership-conflict event within some bounds. -/
def reclassifyConflict (c : HACluster) (since : DateTime) (until? : Option DateTime) :
    HACluster :=
  match recentEvents c (fun e ↦
      (e.eventType = "split_brain_detected" ∨ e.eventType = "ownership_transition_pending") ∧
        e.source = "kaya" ∧ since ≤ e.receivedAt ∧ until?.all (e.receivedAt ≤ ·)) 1 with
  | [e] => { c with events := c.events.replace e { e with eventType := "ownership_reconciled" } }
  | _ => c

/-- After a completed automatic failover the owner bit cached for a silent peer is retired. -/
def retireOwners (c : HACluster) (owner : NodeId) (completed : HAEvent) (now : DateTime) :
    HACluster :=
  let c := c.mapNodes fun n node ↦
    if n ≠ owner ∧ !heartbeatIsFresh node (.topology now) then { node with vipOwned := false }
    else node
  reclassifyConflict c (completed.receivedAt - seconds 60) (some (completed.receivedAt + seconds 60))

/-- `reconcile_vip_ownership`. -/
def reconcileVipOwnership (c : HACluster) (reporting : Option NodeId) (now : DateTime) :
    HACluster :=
  if c.keepalivedStatus ≠ .deployed ∨
      c.nodes.ids.any fun n ↦ (c.node n).keepalivedStatus ≠ .deployed then c
  else
    let previousActive := c.currentActiveNodeId
    let previousStatus := c.status
    let pending := transitionPending c reporting now
    let c := reportConflict (observeOwner c pending now) previousStatus reporting pending now
    match soleVipOwner c (.topology now) with
    | none => c
    | some owner =>
      match automaticCompletionForGeneration c owner with
      | none => adoptOwner c previousActive owner false now
      | some completed =>
        retireOwners (adoptOwner c previousActive owner true now) owner completed now

/-- Maintenance work that follows a heartbeat. -/
def advanceMaintenance (c : HACluster) (inputs : ReinitialisationInputs)
    (processStartedAt now : DateTime) : HACluster :=
  match activeMaintenance c with
  | none => startDhcpSelfHeal c false now
  | some m =>
    match (c.maintenanceRun m).operation with
    | .reconcile => reconcileClusterState c m inputs.stalled now
    | .reinitialise => advanceReinitialisation c m inputs processStartedAt now
    | .dhcpSelfHeal => advanceDhcpSelfHeal c m now

/-- `record_heartbeat`. -/
def recordHeartbeat (c : HACluster) (n : NodeId) (hb : HAAgentHeartbeat)
    (inputs : ReinitialisationInputs) (processStartedAt now : DateTime) : HACluster :=
  if !heartbeatAccepted (c.node n) hb now then c
  else
    let stored := storeHeartbeat c n hb now
    if needsReconciliation c n hb now then
      let reconciled := advanceFailover (reconcileVipOwnership stored (some n) now) now
      advanceMaintenance (evaluateRecovery reconciled) inputs processStartedAt now
    else stored

/-! ### Action results -/

/-- `HAAgentActionResult`. -/
structure HAAgentActionResult where
  actionId : ActionId
  actionType : ActionType
  generation : ℕ
  status : ResultStatus
  checksum : Option Digest := none
  message : String
  deriving DecidableEq

/-- What a result is compared with: identifier, generation and checksum of the offered action. -/
structure ExpectedAction where
  actionId : ActionId
  generation : ℕ
  checksum : Digest
  deriving DecidableEq

/-- The part of a DHCP action a result is compared with. -/
def DhcpAction.expected (a : DhcpAction) : ExpectedAction := ⟨a.actionId, a.generation, a.checksum⟩

/-- The result of applying an offered DHCP action, as the agent reports it. -/
def DhcpAction.result (a : DhcpAction) (status : ResultStatus) (message : String) :
    HAAgentActionResult :=
  ⟨a.actionId, .dhcp a.actionType, a.generation, status, some a.checksum, message⟩

/-- `desired_resolver_action`. -/
def desiredResolverAction (c : HACluster) (n : NodeId) : Option ExpectedAction :=
  let node := c.node n
  if node.resolverRepairStatus ≠ some .pending ∨ node.resolverRepairGeneration < 1 then none
  else
    let vip := c.virtualIp.getD ""
    let interface := node.networkInterface.getD ""
    let content := s!"# Managed by Kaya HA\n[Resolve]\nDNS={vip}\nDomains=~.\n"
    some ⟨.resolver n node.resolverRepairGeneration, node.resolverRepairGeneration,
      .resolverRepair vip interface content⟩

/-- The action a result of some type is compared with. A maintenance action of the same type takes
the place of a failover action. -/
def expectedAction (c : HACluster) (n : NodeId) (actionType : ActionType) (now : DateTime) :
    Except String (Option ExpectedAction) :=
  match actionType with
  | .resolverRepair => .ok (desiredResolverAction c n)
  | .keepalivedApply =>
    (desiredKeepalivedAction c n).map (·.map fun a ↦ ⟨a.actionId, a.generation, a.checksum⟩)
  | .leaseSnapshotStage =>
    .ok ((desiredLeaseAction c n).map fun a ↦ ⟨a.actionId, a.generation, a.checksum⟩)
  | .dhcp action =>
    match desiredMaintenanceAction c n now with
    | some m =>
      if m.actionType = action then .ok (some m.expected)
      else .ok ((desiredFailoverAction c n now).map (·.expected))
    | none => .ok ((desiredFailoverAction c n now).map (·.expected))

/-- The Keepalived columns after a deployment result. -/
def applyKeepalivedResult (c : HACluster) (n : NodeId) (result : HAAgentActionResult) :
    HACluster :=
  match result.status with
  | .failed =>
    { c with keepalivedStatus := .error, status := .error }.modifyNode n fun node ↦
      { node with
        keepalivedStatus := .error, keepalivedConfigChecksum := none
        keepalivedLastError := some result.message }
  | .applied =>
    let c := c.modifyNode n fun node ↦
      { node with
        keepalivedStatus := .deployed, keepalivedConfigChecksum := result.checksum
        keepalivedLastError := none, configGeneration := result.generation }
    if c.nodes.ids.all fun m ↦ (c.node m).keepalivedStatus = .deployed then
      { c with keepalivedStatus := .deployed, status := .readyToDeploy }
    else c

/-- Hand a checked result to the workflow it belongs to. -/
def applyActionResult (c : HACluster) (n : NodeId) (result : HAAgentActionResult)
    (now : DateTime) : Except String HACluster :=
  match result.actionType with
  | .resolverRepair =>
    .ok (c.modifyNode n fun node ↦
      { node with resolverRepairStatus := some (.reported result.status) })
  | .leaseSnapshotStage =>
    recordLeaseStageResult c n result.generation result.checksum result.status result.message
  | .keepalivedApply => .ok (applyKeepalivedResult c n result)
  | .dhcp action =>
    if (desiredMaintenanceAction c n now).isSome then
      recordMaintenanceActionResult c n action result.generation result.checksum result.status
        result.message now
    else
      recordFailoverActionResult c n action result.generation result.checksum result.status
        result.message now

/-- The stored row of a result. -/
def resultRow (n : NodeId) (result : HAAgentActionResult) : HAAgentActionResultRow where
  actionId := result.actionId
  nodeId := n
  actionType := result.actionType
  generation := result.generation
  status := result.status
  checksum := result.checksum
  message := result.message

/-- Append a stored result. -/
def storeResult (c : HACluster) (n : NodeId) (result : HAAgentActionResult) : HACluster :=
  { c with actionResults := c.actionResults ++ [resultRow n result] }

/-- `_record_action_result`, once no row is stored under the identifier: check, store, hand on. -/
def acceptActionResult (c : HACluster) (n : NodeId) (result : HAAgentActionResult)
    (now : DateTime) : Except String HACluster :=
  match expectedAction c n result.actionType now with
  | .error message => .error message
  | .ok none => .error "The action result does not match the node's current desired generation."
  | .ok (some expected) =>
    if result.actionId ≠ expected.actionId ∨ result.generation ≠ expected.generation then
      .error "The action result does not match the node's current desired generation."
    else if result.status = .applied ∧ result.checksum ≠ some expected.checksum then
      .error "The applied checksum does not match the desired action."
    else (applyActionResult c n result now).map fun c ↦ storeResult c n result

/-- The row stored under an identifier. -/
def storedResult (c : HACluster) (id : ActionId) : Option HAAgentActionResultRow :=
  c.actionResults.find? (·.actionId = id)

/-- `record_action_result`. -/
def recordActionResult (c : HACluster) (n : NodeId) (result : HAAgentActionResult)
    (now : DateTime) : Except String HACluster :=
  match storedResult c result.actionId with
  | some existing =>
    if existing.nodeId ≠ n then .error "The action result belongs to a different node." else .ok c
  | none => (acceptActionResult c n result now).map fun c ↦
      advanceFailover (reconcileVipOwnership c none now) now

/-! ### Agent events -/

/-- What `int` makes of the value under `generation` in the details of an event: a whole number
(minus one without the key), a `TypeError` or `ValueError`, or the `OverflowError` of an infinite
float. -/
inductive ReportedGeneration
  | whole (n : ℤ)
  | unreadable
  | infinite
  deriving DecidableEq

/-- The whole number, if it is one. -/
def ReportedGeneration.whole? : ReportedGeneration → Option ℤ
  | whole n => some n
  | unreadable | infinite => none

/-- `HAAgentEventItem`, as far as the services read it. -/
structure HAAgentEventItem where
  eventType : String
  generation : ReportedGeneration := .whole (-1)
  occurredAt : DateTime

/-- `_adopt_verified_automatic_owner`, where it does not raise. -/
def adoptVerifiedAutomaticOwner (c : HACluster) (n : NodeId) (event : HAAgentEventItem)
    (now : DateTime) : HACluster :=
  let node := c.node n
  if event.eventType ≠ "automatic_failover_completed" ∨ !c.automaticFailoverEnabled ∨
      event.generation ≠ .whole c.keepalivedGeneration ∨ node.observedRole ≠ some .active ∨
      !node.vipOwned ∨ node.dnsHealthy ≠ some true then c
  else if piholeManagesDhcp c ∧ !(dhcpObservation node (.topology now)).active then c
  else
    let changed := decide (c.currentActiveNodeId ≠ some n)
    let c := c.mapNodes fun k node ↦
      { followOwner n k node with
        vipOwned := k = n, vrrpPriority := if k = n then some 150 else some 100 }
    reclassifyConflict
      { c with
        currentActiveNodeId := some n, authoritativeNodeId := some n, status := .degraded
        roleGeneration := if changed then c.roleGeneration + 1 else c.roleGeneration }
      (now - seconds 60) none

/-- `ingest_events`, for one event that has not been seen before. -/
def ingestEvent (c : HACluster) (n : NodeId) (event : HAAgentEventItem) (now : DateTime) :
    HACluster :=
  -- the adoption catches no `OverflowError`, and nothing is committed
  if event.generation = .infinite then c
  else adoptVerifiedAutomaticOwner
    { c with events := c.events ++
        [{ nodeId := some n, eventType := event.eventType, source := "agent"
           generation := event.generation.whole?, occurredAt := event.occurredAt
           receivedAt := now }] }
    n event now

end Kaya.HA
