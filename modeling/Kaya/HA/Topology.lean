import Kaya.HA.Model

/-!
# Observed topology

`app/services/ha_topology.py`: what the signed reports of the two agents say about Virtual-IP and
DHCP ownership.

Every reading is taken through a `Window`: the clock of the step, an optional lower bound, and the
age up to which a report counts. `dhcpObservation` is four-valued, and the two values that matter
for safety are *positive*: `active` and `released` both need a fresh heartbeat **and** a fresh
observation, while anything stale, incomplete or contradictory is `unknown` or `inactive`.

`reconcileTopology` lists the owners among the **fresh** nodes only. A node whose reports have gone
stale is simply absent from `vipOwnerIds`, `dhcpOwnerIds` and `dhcpUnknownNodeIds`, and
`topologySafe` quantifies over fresh nodes: it does not by itself say that both nodes were heard.
-/

namespace Kaya.HA

/-- The window a report is read through: the current clock, an optional lower bound, and the age up
to which a report is fresh. -/
structure Window where
  now : DateTime
  since : Option DateTime := none
  freshnessSeconds : ℕ := 45

/-- The 120-second window of the failover engine. -/
def Window.failover (now : DateTime) : Window := { now, freshnessSeconds := 120 }

/-- The 45-second window of topology and maintenance work. -/
def Window.topology (now : DateTime) (since : Option DateTime := none) : Window := { now, since }

/-- `DHCPObservation`. -/
structure DHCPObservation where
  state : DhcpState
  status : ObservationStatus
  observedAt : Option DateTime
  configured : Option Bool := none
  serviceActive : Option Bool := none
  listening : Option Bool := none

namespace DHCPObservation

/-- DHCP is proven to be served. -/
def active (o : DHCPObservation) : Bool := o.state = .active

/-- DHCP is proven to be stopped. -/
def released (o : DHCPObservation) : Bool := o.state = .released

end DHCPObservation

/-! ### Deployment mode -/

/-- `deployment_mode`: an unclassified cluster keeps the DNS + DHCP boundary. -/
def deploymentMode (c : HACluster) : DeploymentMode := c.deploymentMode.getD .dnsDhcp

/-- `pihole_manages_dhcp`. -/
def piholeManagesDhcp (c : HACluster) : Bool := deploymentMode c = .dnsDhcp

/-- `lease_continuity_enabled`. -/
def leaseContinuityEnabled (c : HACluster) : Bool := c.deploymentMode ≠ some .dnsOnly

/-! ### Observations of one node -/

/-- The lower bound of a window, as a test on a timestamp. -/
def Window.admits (w : Window) (t : DateTime) : Bool :=
  decide (w.now - seconds w.freshnessSeconds ≤ t) && w.since.all (decide <| · ≤ t)

/-- `heartbeat_is_fresh`. -/
def heartbeatIsFresh (node : HANode) (w : Window) : Bool :=
  match node.lastHeartbeatAt with
  | none => false
  | some t => w.admits t

/-- The moment a DHCP observation refers to. -/
def dhcpObservedAt (node : HANode) : Option DateTime :=
  node.dhcpObservedAt <|> node.lastHeartbeatAt

/-- The runtime state an observation is judged by: a report that is not itself fresh falls back to
the legacy running flag. -/
def effectiveRuntimeState (node : HANode) : DhcpRuntimeState :=
  if node.dhcpRuntimeState = .unknown ∧ node.dhcpObservationStatus ≠ .fresh then
    if node.dhcpRunning then .running else .stopped
  else node.dhcpRuntimeState

/-- `dhcp_observation`. -/
def dhcpObservation (node : HANode) (w : Window) : DHCPObservation :=
  let observedAt := dhcpObservedAt node
  let status := node.dhcpObservationStatus
  if !heartbeatIsFresh node w || !observedAt.any w.admits then
    { state := .unknown, status := .stale, observedAt }
  -- Reports older than 0.2.7 stay usable with all three independent observations; a lone legacy
  -- boolean does not.
  else if status ≠ .fresh ∧
      (node.dhcpConfigured = none ∨ node.dhcpListenerActive = none ∨ node.ftlActive = none) then
    { state := .unknown, status, observedAt }
  else
    let runtime := effectiveRuntimeState node
    let evidence (state : DhcpState) (status : ObservationStatus) : DHCPObservation :=
      { state, status, observedAt, configured := node.dhcpConfigured,
        serviceActive := node.ftlActive, listening := node.dhcpListenerActive }
    if node.dhcpListenerActive = some true ∧ node.ftlActive = some true ∧ runtime = .running then
      evidence .active .fresh
    else if node.dhcpListenerActive = some false ∧ runtime = .stopped then
      evidence .released .fresh
    else if node.dhcpConfigured = none ∨ node.dhcpListenerActive = none ∨ node.ftlActive = none ∨
        runtime = .unknown then
      evidence .unknown status
    else evidence .inactive .fresh

/-- A DHCP verdict other than `unknown` needs a fresh heartbeat. -/
theorem heartbeatIsFresh_of_dhcpObservation_ne_unknown {node : HANode} {w : Window}
    (h : (dhcpObservation node w).state ≠ .unknown) : heartbeatIsFresh node w = true := by
  by_contra hstale
  exact h (by simp [dhcpObservation, hstale])

theorem heartbeatIsFresh_of_active {node : HANode} {w : Window}
    (h : (dhcpObservation node w).active = true) : heartbeatIsFresh node w = true := by
  refine heartbeatIsFresh_of_dhcpObservation_ne_unknown fun hu ↦ ?_
  simp [DHCPObservation.active, hu] at h

/-! ### The cluster as a whole -/

/-- `TopologyIssue`, by its code. -/
inductive IssueCode
  | nodeCount | staleAgentState | duplicateVip | noVipOwner | multipleDhcp | dhcpTelemetryUnknown
  | noDhcpOwner | ownershipMismatch | activeDhcpConfigurationDisabled
  | activeDhcpActivationIncomplete | standbyDhcpConfigurationEnabled
  | storedRoleMismatch | staleRecoveryState
  deriving DecidableEq

/-- Severity of an issue. -/
inductive Severity
  | info | warning | critical

/-- `TopologyIssue`, and the `ConsistencyIssue` of the maintenance service, which copies it. -/
structure TopologyIssue where
  code : IssueCode
  title : String
  message : String
  severity : Severity
  requiresServiceMovement : Bool := false

section Reconcile

variable (c : HACluster) (w : Window)

/-- The nodes with a fresh heartbeat. -/
def freshNodes : List NodeId := c.nodes.ids.filter fun n ↦ heartbeatIsFresh (c.node n) w

/-- The fresh nodes that report the Virtual IP. -/
def vipOwners : List NodeId := (freshNodes c w).filter fun n ↦ (c.node n).vipOwned

/-- The fresh nodes with an active DHCP observation. -/
def dhcpOwners : List NodeId :=
  (freshNodes c w).filter fun n ↦ (dhcpObservation (c.node n) w).active

/-- The fresh nodes whose DHCP observation is unknown. -/
def dhcpUnknown : List NodeId :=
  (freshNodes c w).filter fun n ↦ (dhcpObservation (c.node n) w).state = .unknown

/-- The display names of some nodes, as the messages join them. -/
def names (ns : List NodeId) : String := ", ".intercalate (ns.map fun n ↦ (c.node n).displayName)

/-- The only Virtual-IP owner, if there is exactly one. -/
def soleVipOwner : Option NodeId :=
  match vipOwners c w with
  | [n] => some n
  | _ => none

/-- Issues about the set of reporting nodes and the Virtual IP. -/
def reportingIssues : List TopologyIssue :=
  (if c.nodes.ids.length ≠ 2 then
    [⟨.nodeCount, "Cluster node configuration is incomplete",
      "A Pi-hole HA cluster requires exactly two existing nodes.", .critical, false⟩] else []) ++
  (if (freshNodes c w).length ≠ c.nodes.ids.length then
    let missing := names c (c.nodes.ids.filter fun n ↦ !heartbeatIsFresh (c.node n) w)
    let missing := PyText.orDefault (some missing) "both nodes"
    [⟨.staleAgentState, "Fresh node inspection is incomplete",
      s!"Waiting for a new signed HA Agent report from {missing}.", .warning, false⟩] else []) ++
  (if 1 < (vipOwners c w).length then
    [⟨.duplicateVip, "Virtual IP ownership conflict detected",
      "More than one node reports ownership of the DNS Virtual IP.", .critical, true⟩]
  else if freshNodes c w ≠ [] ∧ vipOwners c w = [] then
    [⟨.noVipOwner, "No Virtual IP owner reported",
      "No current signed node report confirms ownership of the DNS Virtual IP.", .critical, true⟩]
  else [])

/-- Issues about which node serves DHCP. -/
def dhcpOwnershipIssues : List TopologyIssue :=
  if !piholeManagesDhcp c then [] else
  (if 1 < (dhcpOwners c w).length then
    [⟨.multipleDhcp, "Multiple DHCP servers detected",
      "More than one node has fresh configuration, FTL and UDP/67 evidence for DHCP. " ++
        "Kaya will not start another DHCP service.", .critical, true⟩]
  else if dhcpOwners c w = [] then
    if dhcpUnknown c w ≠ [] then
      let unknown := names c (dhcpUnknown c w)
      [⟨.dhcpTelemetryUnknown, "DHCP state needs a fresh observation",
        s!"Kaya could not inspect DHCP completely on {unknown}. " ++
          "The service is not being reported as stopped.", .warning, false⟩]
    else if freshNodes c w ≠ [] then
      [⟨.noDhcpOwner, "No DHCP service owner reported",
        "Both nodes have fresh observations, but neither has DHCP configured and listening " ++
          "on UDP port 67.", .critical, true⟩]
    else []
  else []) ++
  match vipOwners c w, dhcpOwners c w with
  | [v], [d] =>
    if v ≠ d then
      [⟨.ownershipMismatch, "Cluster ownership mismatch",
        "The DNS Virtual IP and DHCP service are currently owned by different nodes.",
        .critical, true⟩]
    else []
  | _, _ => []

/-- Issues about the DHCP configuration of the owner and of its standby. -/
def configurationIssues : List TopologyIssue :=
  if !piholeManagesDhcp c then [] else
  match soleVipOwner c w with
  | none => []
  | some owner =>
    let o := dhcpObservation (c.node owner) w
    let name := (c.node owner).displayName
    (if o.configured = some false then
      [⟨.activeDhcpConfigurationDisabled, "Active DHCP configuration drift detected",
        s!"{name} exclusively owns the Virtual IP but Pi-hole DHCP configuration is disabled.",
        if o.active then .warning else .critical, false⟩]
    else if o.configured = some true ∧ !o.active then
      [⟨.activeDhcpActivationIncomplete, "Active DHCP service has not converged",
        s!"{name} has DHCP enabled but is not listening on UDP port 67.", .critical, false⟩]
    else []) ++ ((freshNodes c w).filter fun n ↦ n ≠ owner ∧
        (dhcpObservation (c.node n) w).configured = some true ∧
        (dhcpObservation (c.node n) w).released).map fun n ↦
      let standby := (c.node n).displayName
      ⟨.standbyDhcpConfigurationEnabled, "Standby DHCP configuration drift detected",
        s!"{standby} is not serving DHCP, but its Pi-hole DHCP configuration remains enabled.",
        .warning, false⟩

/-- The owner serves DNS and, where the cluster manages DHCP, is the only DHCP server. -/
def serviceOk : Bool :=
  match soleVipOwner c w with
  | none => false
  | some owner => (c.node owner).dnsHealthy = some true ∧
      (!piholeManagesDhcp c ∨ dhcpOwners c w = [owner])

/-- DHCP is configured on the owner and on no other fresh node. -/
def configurationConsistent : Bool :=
  !piholeManagesDhcp c ||
    match soleVipOwner c w with
    | none => false
    | some owner => (dhcpObservation (c.node owner) w).configured = some true ∧
        ∀ n ∈ freshNodes c w, n ≠ owner → (dhcpObservation (c.node n) w).configured = some false

/-- The owner is active, every other **fresh** node has released DHCP, and nothing is unknown. -/
def topologySafe : Bool :=
  serviceOk c w && (!piholeManagesDhcp c ||
    match soleVipOwner c w with
    | none => false
    | some owner => (dhcpOwners c w).length = 1 ∧ dhcpUnknown c w = [] ∧ ∀ n ∈ freshNodes c w,
          if n = owner then (dhcpObservation (c.node n) w).active
          else (dhcpObservation (c.node n) w).released) && configurationConsistent c w

/-- `ReconciledTopology`. -/
structure ReconciledTopology where
  freshNodeIds : List NodeId
  vipOwnerIds : List NodeId
  dhcpOwnerIds : List NodeId
  dhcpUnknownNodeIds : List NodeId
  issues : List TopologyIssue
  /-- `service_availability` is healthy. -/
  serviceAvailable : Bool
  /-- `redundancy_state` is healthy. -/
  redundant : Bool
  /-- `telemetry_state` is current. -/
  telemetryCurrent : Bool
  /-- `configuration_state` is consistent. -/
  configurationConsistent : Bool
  topologySafe : Bool

/-- Both nodes were heard. -/
def ReconciledTopology.fresh (t : ReconciledTopology) : Bool := t.freshNodeIds.length = 2

/-- The only Virtual-IP owner, if there is exactly one. -/
def ReconciledTopology.activeNodeId (t : ReconciledTopology) : Option NodeId :=
  match t.vipOwnerIds with
  | [n] => some n
  | _ => none

/-- `reconcile_topology`. -/
def reconcileTopology : ReconciledTopology where
  freshNodeIds := freshNodes c w
  vipOwnerIds := vipOwners c w
  dhcpOwnerIds := dhcpOwners c w
  dhcpUnknownNodeIds := dhcpUnknown c w
  issues := reportingIssues c w ++ dhcpOwnershipIssues c w ++ configurationIssues c w
  serviceAvailable := serviceOk c w
  redundant := (freshNodes c w).length = c.nodes.ids.length ∧ topologySafe c w
  telemetryCurrent := (freshNodes c w).length = c.nodes.ids.length ∧
    (!piholeManagesDhcp c ∨ dhcpUnknown c w = [])
  configurationConsistent := configurationConsistent c w
  topologySafe := topologySafe c w

end Reconcile

/-! ### Reading the owner lists -/

section Lists

variable {c : HACluster} {w : Window} {n : NodeId}

theorem mem_freshNodes :
    n ∈ freshNodes c w ↔ n ∈ c.nodes.ids ∧ heartbeatIsFresh (c.node n) w = true := by
  simp [freshNodes]

theorem mem_vipOwners : n ∈ vipOwners c w ↔ n ∈ freshNodes c w ∧ (c.node n).vipOwned = true := by
  simp [vipOwners]

theorem mem_dhcpOwners :
    n ∈ dhcpOwners c w ↔ n ∈ c.nodes.ids ∧ (dhcpObservation (c.node n) w).active = true := by
  simp only [dhcpOwners, List.mem_filter, mem_freshNodes]
  exact ⟨fun h ↦ ⟨h.1.1, h.2⟩, fun h ↦ ⟨⟨h.1, heartbeatIsFresh_of_active h.2⟩, h.2⟩⟩

theorem mem_dhcpUnknown :
    n ∈ dhcpUnknown c w ↔ n ∈ freshNodes c w ∧ (dhcpObservation (c.node n) w).state = .unknown := by
  simp [dhcpUnknown]

theorem freshNodes_nodup : (freshNodes c w).Nodup := c.nodes.nodup.filter _

theorem dhcpOwners_nodup : (dhcpOwners c w).Nodup := freshNodes_nodup.filter _

/-- A list without repetitions with one element. -/
theorem eq_singleton_of_nodup {l : List ℕ} {a : ℕ} (hnodup : l.Nodup) (ha : a ∈ l)
    (h : ∀ n ∈ l, n = a) : l = [a] := by
  have hsubset : l ⊆ [a] := fun n hn ↦ List.mem_singleton.2 (h n hn)
  have hlen : l.length ≤ 1 := hnodup.length_le_of_subset hsubset
  cases l with
  | nil => exact absurd ha List.not_mem_nil
  | cons b l =>
    obtain rfl : l = [] := List.length_eq_zero_iff.1 (by simpa using hlen)
    rw [h b List.mem_cons_self]

end Lists

end Kaya.HA
