import Kaya.HA.Agents
import Kaya.Library.Double
import Kaya.Library.Machine

/-!
# Recovery readiness

`app/services/ha_recovery.py`: the checks a node has to pass before it counts as a ready standby, and
the state that `evaluate_recovery` gives it. The state is decided from two lists of check keys, while
the blockers an operator sees are the required checks that failed; `host_dns_resolver` is required
when the host resolves through its peer only, and is on neither list.

The columns of a node that the evaluation writes are kept apart from the rest of its row: what an
evaluation reads otherwise — reports, topology, generations, synchronisation runs — may change in
any way between two calls. The only other writer of these columns is the completion of a
reinitialisation, which restarts the stability window.
-/

namespace Kaya.HA

open List

/-! ### Rows -/

/-- `RECOVERY_STATES`. -/
inductive RecoveryState
  | offline | recovering | synchronising | verifying | standbyReady | active | standby
  deriving DecidableEq

/-- The recovery columns of a node. -/
structure RecoveryColumns where
  /-- `recovery_state`; `none` is a text that is not one of the states. -/
  recoveryState : Option RecoveryState := some .standby
  recoveryStartedAt : Option DateTime := none
  recoveryStableSince : Option DateTime := none

/-- `HASyncRun.status`, as far as it is evidence. -/
inductive SyncRunStatus
  | inSync | succeeded | other
  deriving DecidableEq

/-- A value in a plan that should be a generation. -/
inductive PlanValue
  | integer (n : ℤ)
  | other

/-- The keys of `plan_json` that are read back. A text that is no JSON object has none of them. -/
structure SyncPlan where
  verifiedSyncGeneration : Option PlanValue := none
  requiredSyncGeneration : Option PlanValue := none
  /-- For each entry of the list `groups`, whether it is an object with `writable` true. -/
  groups : List Bool := []

/-- `HASyncRun`. -/
structure HASyncRun where
  sourceNodeId : NodeId
  targetNodeId : NodeId
  status : SyncRunStatus
  plan : SyncPlan := {}
  completedAt : Option DateTime := none
  createdAt : DateTime

/-- What an evaluation reads besides the recovery columns. -/
structure RecoveryInput where
  cluster : HACluster
  desiredSyncGeneration : ℕ := 0
  syncRuns : List HASyncRun := []

/-! ### Checks -/

/-- `RecoveryCheck.key`. -/
inductive CheckKey
  | kayaHeartbeat | agentIdentity | dns | networkInterface | keepalived | clusterGeneration
  | hostDnsResolver | standbyRuntime | dhcpSafe | configurationSync | leaseSync
  | activeRuntime | dhcpActive | peerReachability
  deriving DecidableEq

/-- `RecoveryCheck`. -/
structure RecoveryCheck where
  key : CheckKey
  label : String
  passed : Bool
  detail : String
  required : Bool := true

/-- `NodeRecovery`. -/
structure NodeRecovery where
  node : NodeId
  state : RecoveryState
  checks : List RecoveryCheck
  stabilitySeconds : ℤ
  stabilityRequiredSeconds : ℤ

/-- `operational_blockers`. -/
def NodeRecovery.operationalBlockers (r : NodeRecovery) : List String :=
  (r.checks.filter fun check ↦ check.required && !check.passed).map RecoveryCheck.detail

/-- The 45-second window of an evaluation. -/
def recoveryWindow (now : DateTime) : Window := .topology now

/-- `_fresh`. -/
def recoveryFresh (node : HANode) (now : DateTime) : Bool :=
  node.lastHeartbeatAt.any fun t ↦ decide (now - seconds 45 ≤ t)

/-- `current_active_node`. -/
def currentActiveNode (c : HACluster) (now : DateTime) : Option NodeId :=
  (reconcileTopology c (recoveryWindow now)).activeNodeId

/-- `_sync_generation`. -/
def syncGeneration (run : HASyncRun) : Option ℕ :=
  match run.plan.verifiedSyncGeneration.or run.plan.requiredSyncGeneration with
  | some (.integer n) => if 0 ≤ n then some n.toNat else none
  | _ => none

/-- `_valid_for_required_generation`. -/
def validForRequiredGeneration (i : RecoveryInput) (run : HASyncRun) : Bool :=
  (syncGeneration run).all (· = i.desiredSyncGeneration)

/-- The runs from the active node to the target. -/
def runsBetween (i : RecoveryInput) (active target : NodeId) : List HASyncRun :=
  i.syncRuns.filter fun run ↦ run.sourceNodeId = active ∧ run.targetNodeId = target

/-- `_latest_successful_sync`. -/
def latestSuccessfulSync (i : RecoveryInput) (active target : NodeId) : Option HASyncRun :=
  (((runsBetween i active target).filter fun run ↦
    run.status = .inSync ∨ run.status = .succeeded).insertionSort
      fun a b ↦ b.createdAt ≤ a.createdAt).find? (validForRequiredGeneration i)

/-- `_newer_supported_drift`. -/
def newerSupportedDrift (i : RecoveryInput) (active target : NodeId)
    (successful : Option HASyncRun) : Bool :=
  ((runsBetween i active target).filter fun run ↦
    successful.all fun s ↦ s.createdAt < run.createdAt).any fun run ↦
      (syncGeneration run).all (· = i.desiredSyncGeneration) && run.plan.groups.any id

/-- `configuration_sync`: a comparison since the recovery began, and no drift after it. -/
def configurationSync (i : RecoveryInput) (startedAt : Option DateTime) (active : Option NodeId)
    (n : NodeId) : Bool :=
  (active.filter (· ≠ n)).any fun a ↦ (latestSuccessfulSync i a n).any fun latest ↦
    !newerSupportedDrift i a n (some latest) &&
      startedAt.all fun t ↦ t ≤ latest.completedAt.getD latest.createdAt

/-- `lease_sync`. -/
def leaseSync (c : HACluster) (n : NodeId) : Bool :=
  !piholeManagesDhcp c || c.leaseReplication.any fun lease ↦
    lease.status = .current ∧ lease.targetNodeId = some n ∧
      lease.desiredGeneration ≤ lease.appliedGeneration ∧
      lease.desiredGeneration ≤ (c.node n).leaseGeneration

/-- The nameservers of the host's resolver, at most eight. -/
def resolverNameservers (node : HANode) : List String := (node.resolverNameservers.getD []).take 8

/-- `resolver_safe`. -/
def resolverSafe (c : HACluster) (node : HANode) : Bool :=
  node.resolverObservationStatus = some .fresh ∧
    c.virtualIp.any fun vip ↦ vip ≠ "" ∧ vip ∈ resolverNameservers node

/-- `resolver_peer_only`: every nameserver of the host is its peer. -/
def resolverPeerOnly (c : HACluster) (n : NodeId) : Bool :=
  let nameservers := resolverNameservers (c.node n)
  (c.node n).resolverObservationStatus = some .fresh ∧ (c.peerFor n).any fun peer ↦
    nameservers ≠ [] ∧ (c.node peer).managementHost.any fun host ↦ ∀ s ∈ nameservers, s = host

/-- `resolver_detail`. -/
def resolverDetail (c : HACluster) (n : NodeId) : String :=
  let nameservers := ", ".intercalate (resolverNameservers (c.node n))
  let vip := c.virtualIp.getD "None"
  if resolverPeerOnly c n then
    "Host resolver depends on peer node. Agent reporting may fail during peer outage. " ++
      "Configure host DNS to use HA VIP."
  else if resolverSafe c (c.node n) then
    s!"Current: {nameservers}. Expected HA DNS Virtual IP: {vip}."
  else if (c.node n).resolverObservationStatus = some .fresh then
    let current := PyText.orDefault (some nameservers) "none reported"
    s!"Current: {current}. Expected HA DNS Virtual IP: {vip}."
  else
    s!"Awaiting a resolver report from the current HA Agent. Expected HA DNS Virtual IP: {vip}."

/-- The checks that every node gets. -/
def commonChecks (c : HACluster) (n : NodeId) (now : DateTime) : List RecoveryCheck :=
  let node := c.node n
  let heartbeat := recoveryFresh node now
  [ ⟨.kayaHeartbeat, "Kaya heartbeat", heartbeat,
      "The HA Agent has reported to Kaya recently.", true⟩,
    ⟨.agentIdentity, "HA Agent identity", heartbeat && node.registered,
      "The registered, non-revoked agent identity is reporting.", true⟩,
    ⟨.dns, "Local DNS and Pi-hole FTL", node.dnsHealthy = some true ∧ node.ftlActive = some true,
      "Pi-hole answered the agent's local DNS probe and FTL is active.", true⟩,
    ⟨.networkInterface, "Expected network interface", node.networkInterface.any (· ≠ ""),
      "The node has the configured HA network interface.", true⟩,
    ⟨.keepalived, "Local failover service",
      node.keepalivedStatus = .deployed ∧ node.keepalivedRuntimeState = .running,
      "Keepalived is deployed and running.", true⟩, ⟨.clusterGeneration, "Cluster generation",
      c.keepalivedGeneration ≤ node.configGeneration ∧ c.roleGeneration ≤ node.observedGeneration,
      "The node recognises the current configuration and role generations.", true⟩,
    ⟨.hostDnsResolver, "Host DNS Resolver", !resolverPeerOnly c n, resolverDetail c n,
      resolverPeerOnly c n⟩ ]

/-- The optional ping of the peer. -/
def peerCheck (c : HACluster) (n : NodeId) : RecoveryCheck :=
  ⟨.peerReachability, "Peer Network Reachability (optional)", (c.node n).peerReachable = some true,
    "Optional ICMP ping only. An unavailable ping does not affect recovery, failover, failback, " ++
      "DNS health, or Kaya heartbeat status.", false⟩

/-- The checks of the active node. -/
def activeChecks (c : HACluster) (n : NodeId) (now : DateTime) : List RecoveryCheck :=
  commonChecks c n now ++ [ ⟨.activeRuntime, "Virtual IP ownership", (c.node n).vipOwned,
      "The Active node is the exclusive DNS Virtual IP owner.", true⟩,
    ⟨.dhcpActive, "DHCP active state",
      !piholeManagesDhcp c || (dhcpObservation (c.node n) (recoveryWindow now)).active,
      "A fresh Pi-hole configuration, FTL and UDP/67 observation confirms DHCP on the Active node.",
      piholeManagesDhcp c⟩, peerCheck c n ]

/-- The checks of a node that is not active. -/
def standbyChecks (i : RecoveryInput) (startedAt : Option DateTime) (n : NodeId) (now : DateTime) :
    List RecoveryCheck :=
  let c := i.cluster
  commonChecks c n now ++ [ ⟨.standbyRuntime, "Standby ownership",
      (c.node n).vipOwned = false ∧ (c.node n).observedRole = some .standby,
      "The recovered node is not claiming the DNS Virtual IP.", true⟩,
    ⟨.dhcpSafe, "DHCP standby state",
      !piholeManagesDhcp c || (dhcpObservation (c.node n) (recoveryWindow now)).released,
      "A fresh Pi-hole configuration and UDP/67 observation confirms DHCP is released on the " ++
        "recovered node.", piholeManagesDhcp c⟩,
    ⟨.configurationSync, "Pi-hole API, configuration and drift",
      configurationSync i startedAt (currentActiveNode c now) n,
      "A post-recovery active-to-standby API comparison or synchronisation completed without " ++
        "supported drift.", true⟩, ⟨.leaseSync, "DHCP generation and lease staging", leaseSync c n,
      "The standby has staged the current validated DHCP generation.", piholeManagesDhcp c⟩,
    peerCheck c n ]

/-- `recovery_checks`. -/
def recoveryChecks (i : RecoveryInput) (columns : RecoveryColumns) (n : NodeId) (now : DateTime) :
    List RecoveryCheck :=
  if currentActiveNode i.cluster now = some n then activeChecks i.cluster n now
  else standbyChecks i columns.recoveryStartedAt n now

/-! ### Evaluation -/

/-- `basic_keys`. -/
def basicKeys : List CheckKey :=
  [.kayaHeartbeat, .agentIdentity, .dns, .networkInterface, .keepalived, .clusterGeneration,
    .standbyRuntime, .dhcpSafe]

/-- The keys that decide about synchronisation. -/
def syncKeys : List CheckKey := [.configurationSync, .leaseSync]

/-- Every required check with one of the keys passed. -/
def allPassed (checks : List RecoveryCheck) (keys : List CheckKey) : Bool :=
  checks.all fun check ↦ !check.required || decide (check.key ∉ keys) || check.passed

/-- `int(delta.total_seconds())`. -/
def wholeSeconds (delta : ℤ) : ℤ := Double.trunc (Double.toDouble (delta / 1000000))

/-- The columns and the result of one node. -/
def evaluateNode (i : RecoveryInput) (columns : RecoveryColumns) (n : NodeId) (now : DateTime)
    (stabilitySeconds : ℤ) : RecoveryColumns × NodeRecovery :=
  let checks := recoveryChecks i columns n now
  let columns : RecoveryColumns :=
    if currentActiveNode i.cluster now = some n then ⟨some .active, none, none⟩
    else if !recoveryFresh (i.cluster.node n) now then ⟨some .offline, none, none⟩
    else
      let startedAt :=
        if columns.recoveryState = some .offline then some now
        else columns.recoveryStartedAt.or (some now)
      if !allPassed checks basicKeys then ⟨some .recovering, startedAt, none⟩
      else if !allPassed checks syncKeys then ⟨some .synchronising, startedAt, none⟩
      else
        let stableSince := columns.recoveryStableSince.getD now
        let state :=
          if stabilitySeconds ≤ wholeSeconds (now - stableSince) then .standbyReady else .verifying
        ⟨some state, startedAt, some stableSince⟩
  (columns,
    { node := n
      state := columns.recoveryState.getD .standby
      checks
      stabilitySeconds := max 0 (columns.recoveryStableSince.elim 0 fun t ↦ wholeSeconds (now - t))
      stabilityRequiredSeconds := stabilitySeconds })

/-- What writes the recovery columns. -/
inductive RecoveryEvent
  /-- `evaluate_recovery`. -/
  | evaluate (input : RecoveryInput) (now : DateTime) (stabilitySeconds : ℤ)
  /-- The completion of a reinitialisation of these nodes. -/
  | reinitialised (nodes : List NodeId) (target : NodeId) (now : DateTime)

/-- When it happens. -/
def RecoveryEvent.now : RecoveryEvent → DateTime
  | .evaluate _ now _ => now
  | .reinitialised _ _ now => now

/-- The recovery columns of all nodes, and what writes them. Nothing is assumed of the columns at the
start. -/
def recoveryMachine : Machine (NodeId → RecoveryColumns) RecoveryEvent where
  init _ := True
  step columns
    | .evaluate i now stabilitySeconds => fun n ↦
      if n ∈ i.cluster.nodes.ids then (evaluateNode i (columns n) n now stabilitySeconds).1
      else columns n
    | .reinitialised nodes target now => fun n ↦
      if n ∈ nodes then
        if n = target then ⟨some .active, none, none⟩ else ⟨some .standbyReady, none, some now⟩
      else columns n

/-! ### Which checks decide -/

section Checks

variable {i : RecoveryInput} {columns : RecoveryColumns} {n : NodeId} {now : DateTime}
  {stabilitySeconds : ℤ}

/-- Every required check passed. -/
def RequiredPassed (checks : List RecoveryCheck) : Prop :=
  ∀ check ∈ checks, check.required = true → check.passed = true

theorem operationalBlockers_eq_nil_iff {r : NodeRecovery} :
    r.operationalBlockers = [] ↔ RequiredPassed r.checks := by
  simp [NodeRecovery.operationalBlockers, RequiredPassed, filter_eq_nil_iff]

theorem allPassed_iff {checks : List RecoveryCheck} {keys : List CheckKey} :
    allPassed checks keys = true ↔
      ∀ check ∈ checks, check.required = true → check.key ∈ keys → check.passed = true := by
  simp only [allPassed, all_eq_true, Bool.or_eq_true, Bool.not_eq_true', decide_eq_true_eq]
  refine forall₂_congr fun check _ ↦ ?_
  cases check.required <;> by_cases hkey : check.key ∈ keys <;> simp [hkey]

/-- The state of a standby node is decided by the two lists of keys. -/
def Settled (i : RecoveryInput) (columns : RecoveryColumns) (n : NodeId) (now : DateTime) : Prop :=
  currentActiveNode i.cluster now ≠ some n ∧ recoveryFresh (i.cluster.node n) now = true ∧
    allPassed (recoveryChecks i columns n now) basicKeys = true ∧
    allPassed (recoveryChecks i columns n now) syncKeys = true

/-- A required check of a standby node is on one of the lists, or it is the resolver's. -/
theorem key_mem_of_required (h : currentActiveNode i.cluster now ≠ some n) {check : RecoveryCheck}
    (hcheck : check ∈ recoveryChecks i columns n now) (hrequired : check.required = true) :
    check.key ∈ basicKeys ∨ check.key ∈ syncKeys ∨
      check.key = .hostDnsResolver ∧ check.passed = false ∧
        resolverPeerOnly i.cluster n = true := by
  rw [recoveryChecks, if_neg h, standbyChecks, commonChecks] at hcheck
  simp only [cons_append, nil_append, mem_cons, not_mem_nil, or_false] at hcheck
  rcases hcheck with rfl | rfl | rfl | rfl | rfl | rfl | rfl | rfl | rfl | rfl | rfl | rfl
  case inr.inr.inr.inr.inr.inr.inl =>
    exact .inr (.inr ⟨rfl, by simpa using hrequired, hrequired⟩)
  all_goals first
    | (left; simp [basicKeys]; done)
    | (right; left; simp [syncKeys]; done)
    | exact absurd hrequired Bool.false_ne_true

/-- **The required checks of a settled node** passed, unless its host resolves through the peer. -/
theorem requiredPassed_iff (h : Settled i columns n now) :
    RequiredPassed (recoveryChecks i columns n now) ↔ resolverPeerOnly i.cluster n = false := by
  obtain ⟨hlive, -, hbasic, hsync⟩ := h
  constructor
  · intro hall
    by_contra hpeer
    rw [Bool.not_eq_false] at hpeer
    have hmem : ⟨.hostDnsResolver, "Host DNS Resolver", !resolverPeerOnly i.cluster n,
        resolverDetail i.cluster n, resolverPeerOnly i.cluster n⟩ ∈
          recoveryChecks i columns n now := by
      rw [recoveryChecks, if_neg hlive, standbyChecks, commonChecks]
      simp
    have hpassed := hall _ hmem hpeer
    simp [hpeer] at hpassed
  · intro hpeer check hcheck hrequired
    rcases key_mem_of_required hlive hcheck hrequired with hkey | hkey | ⟨-, -, hdepends⟩
    · exact allPassed_iff.mp hbasic check hcheck hrequired hkey
    · exact allPassed_iff.mp hsync check hcheck hrequired hkey
    · rw [hpeer] at hdepends
      cases hdepends

/-- The states of a node that is not settled. -/
def unsettledStates : List RecoveryState := [.active, .offline, .recovering, .synchronising]

theorem checks_evaluateNode (i : RecoveryInput) (columns : RecoveryColumns) (n : NodeId)
    (now : DateTime) (stabilitySeconds : ℤ) :
    (evaluateNode i columns n now stabilitySeconds).2.checks = recoveryChecks i columns n now := rfl

/-- **What an evaluation does to a node.** A settled one keeps its window or opens it, any other one
loses it. -/
theorem evaluateNode_cases (i : RecoveryInput) (columns : RecoveryColumns) (n : NodeId)
    (now : DateTime) (stabilitySeconds : ℤ) :
    (Settled i columns n now ∧
      (evaluateNode i columns n now stabilitySeconds).1.recoveryStableSince =
        some (columns.recoveryStableSince.getD now) ∧
      (evaluateNode i columns n now stabilitySeconds).2.state =
        if stabilitySeconds ≤ wholeSeconds (now - columns.recoveryStableSince.getD now) then
          .standbyReady else .verifying) ∨ (¬Settled i columns n now ∧
      (evaluateNode i columns n now stabilitySeconds).1.recoveryStableSince = none ∧
      (evaluateNode i columns n now stabilitySeconds).2.state ∈ unsettledStates) := by
  unfold evaluateNode
  by_cases hlive : currentActiveNode i.cluster now = some n
  · refine .inr ⟨fun h ↦ h.1 hlive, ?_⟩
    simp [hlive, unsettledStates]
  by_cases hfresh : recoveryFresh (i.cluster.node n) now = true
  · by_cases hbasic : allPassed (recoveryChecks i columns n now) basicKeys = true
    · by_cases hsync : allPassed (recoveryChecks i columns n now) syncKeys = true
      · refine .inl ⟨⟨hlive, hfresh, hbasic, hsync⟩, ?_⟩
        simp [hlive, hfresh, hbasic, hsync]
      · refine .inr ⟨fun h ↦ hsync h.2.2.2, ?_⟩
        simp [hlive, hfresh, hbasic, hsync, unsettledStates]
    · refine .inr ⟨fun h ↦ hbasic h.2.2.1, ?_⟩
      simp [hlive, hfresh, hbasic, unsettledStates]
  · refine .inr ⟨fun h ↦ hfresh h.2.1, ?_⟩
    simp [hlive, hfresh, unsettledStates]

end Checks

/-! ### Whole runs -/

/-- Whole seconds of a difference, in range. -/
theorem le_of_le_wholeSeconds {delta s : ℤ} (hpos : 0 < s) (hsmall : s ≤ 2 ^ 33)
    (h : s ≤ wholeSeconds delta) : s * 1000000 ≤ delta := by
  by_contra hless
  rw [wholeSeconds] at h
  by_cases hneg : delta < 0
  · have hcut : Double.trunc (Double.toDouble (delta / 1000000)) ≤ 0 := by
      have hcast : (delta : ℚ) < 0 := by exact_mod_cast hneg
      exact Double.trunc_nonpos (Double.toDouble_nonpos (by linarith))
    omega
  · obtain ⟨n, us, hn, hus, rfl⟩ : ∃ n us : ℕ, n < 2 ^ 33 ∧ us < 1000000 ∧
        delta = n * 1000000 + us :=
      ⟨(delta / 1000000).toNat, (delta % 1000000).toNat, by omega, by omega, by omega⟩
    have hsplit : ((n * 1000000 + us : ℤ) : ℚ) / 1000000 = n + us / 1000000 := by
      push_cast
      ring
    have hfloor := Double.floor_toDouble_seconds (f := us / 1000000) (show n < 2 ^ 38 by omega) hus
      (by rw [sub_self, abs_zero]; positivity) (by positivity)
    rw [if_neg (Double.not_carries_of_lt (by omega) hus)] at hfloor
    rw [hsplit, Double.trunc, if_pos (Double.toDouble_nonneg (by positivity)), hfloor] at h
    omega

section Runs

variable {s₀ s : NodeId → RecoveryColumns} {h : List ((NodeId → RecoveryColumns) × RecoveryEvent)}
  {n : NodeId}

/-- Times do not decrease; the newest transition comes first. -/
def Chronological (h : List ((NodeId → RecoveryColumns) × RecoveryEvent)) : Prop :=
  h.Pairwise fun later earlier ↦ earlier.2.now ≤ later.2.now

/-- The evaluations of a node after an instant found it settled. -/
def SettledSince (h : List ((NodeId → RecoveryColumns) × RecoveryEvent)) (n : NodeId)
    (t : DateTime) : Prop :=
  ∀ columns i now stabilitySeconds, (columns, .evaluate i now stabilitySeconds) ∈ h →
    n ∈ i.cluster.nodes.ids → t < now → Settled i (columns n) n now

theorem SettledSince.cons_evaluate {i : RecoveryInput} {now t : DateTime} {stabilitySeconds : ℤ}
    (hbef : SettledSince h n t)
    (hnow : n ∈ i.cluster.nodes.ids → t < now → Settled i (s n) n now) :
    SettledSince ((s, .evaluate i now stabilitySeconds) :: h) n t := by
  intro columns i' now' stabilitySeconds' hmem hmember hafter
  rcases mem_cons.mp hmem with hnew | hold
  · cases hnew
    exact hnow hmember hafter
  · exact hbef columns i' now' stabilitySeconds' hold hmember hafter

theorem SettledSince.cons_reinitialised {nodes : List NodeId} {target : NodeId} {now t : DateTime}
    (hbef : SettledSince h n t) :
    SettledSince ((s, .reinitialised nodes target now) :: h) n t := by
  intro columns i' now' stabilitySeconds' hmem hmember hafter
  rcases mem_cons.mp hmem with hnew | hold
  · cases hnew
  · exact hbef columns i' now' stabilitySeconds' hold hmember hafter

/-- **The stability window.** A node has been settled since the instant that is recorded. -/
theorem settledSince_stableSince (hh : recoveryMachine.History s₀ h s) :
    Chronological h → ∀ n t, (s n).recoveryStableSince = some t → SettledSince h n t := by
  refine Machine.History.invariant (P := fun h s ↦ Chronological h → ∀ n t,
    (s n).recoveryStableSince = some t → SettledSince h n t) ?_ ?_ hh
  · intro _ n t _ columns i now stabilitySeconds hmem
    cases hmem
  · intro h s e ih hmono n t hstable
    obtain ⟨hlast, hmono⟩ := pairwise_cons.mp hmono
    have ih := ih hmono
    -- Whatever has opened the window anew, it did so after everything before.
    have hopened : e.now ≤ t → SettledSince h n t := by
      intro ht columns i now stabilitySeconds hmem _ hafter
      exact absurd (hafter.trans_le (hlast _ hmem)) (not_lt.mpr ht)
    cases e with
    | evaluate i now stabilitySeconds =>
      change (if n ∈ i.cluster.nodes.ids then (evaluateNode i (s n) n now stabilitySeconds).1
        else s n).recoveryStableSince = some t at hstable
      split at hstable <;> rename_i hmember
      · obtain ⟨hsettled, hsince, -⟩ | ⟨-, hnone, -⟩ :=
          evaluateNode_cases i (s n) n now stabilitySeconds
        · refine SettledSince.cons_evaluate ?_ fun _ _ ↦ hsettled
          cases hwindow : (s n).recoveryStableSince with
          | some since =>
            rw [hwindow, hstable] at hsince
            cases hsince
            exact ih n since hwindow
          | none =>
            rw [hwindow, hstable] at hsince
            cases hsince
            exact hopened le_rfl
        · cases hnone.symm.trans hstable
      · exact (ih n t hstable).cons_evaluate fun hmem ↦ absurd hmem hmember
    | reinitialised nodes target now =>
      change (if n ∈ nodes then if n = target then ⟨some .active, none, none⟩
        else ⟨some .standbyReady, none, some now⟩ else s n : RecoveryColumns).recoveryStableSince =
          some t at hstable
      refine SettledSince.cons_reinitialised ?_
      split at hstable
      · split at hstable
        · cases hstable
        · cases hstable
          exact hopened le_rfl
      · exact ih n t hstable

/-- An evaluation of a node is honest about its readiness: its required checks passed, and so they
did in every evaluation during the seconds that the window asks for. -/
def HonestReadiness (h : List ((NodeId → RecoveryColumns) × RecoveryEvent))
    (s : NodeId → RecoveryColumns) (i : RecoveryInput) (n : NodeId) (now : DateTime)
    (stabilitySeconds : ℤ) : Prop :=
  (evaluateNode i (s n) n now stabilitySeconds).2.operationalBlockers = [] ∧
  RequiredPassed (evaluateNode i (s n) n now stabilitySeconds).2.checks ∧
  ∀ columns i' now' stabilitySeconds',
    (columns, .evaluate i' now' stabilitySeconds') ∈ h → n ∈ i'.cluster.nodes.ids →
      now - stabilitySeconds * 1000000 < now' →
        RequiredPassed (evaluateNode i' (columns n) n now' stabilitySeconds').2.checks ∧
          (evaluateNode i' (columns n) n now' stabilitySeconds').2.state ∉ unsettledStates

/-- No evaluation of the node in the window finds that its host resolves through the peer only. -/
def ResolvesAlone (h : List ((NodeId → RecoveryColumns) × RecoveryEvent)) (i : RecoveryInput)
    (n : NodeId) (now : DateTime) (stabilitySeconds : ℤ) : Prop :=
  resolverPeerOnly i.cluster n = false ∧ ∀ columns i' now' stabilitySeconds',
    (columns, .evaluate i' now' stabilitySeconds') ∈ h → n ∈ i'.cluster.nodes.ids →
      now - stabilitySeconds * 1000000 < now' → resolverPeerOnly i'.cluster n = false

/-- **Readiness is honest** exactly when the host does not resolve through its peer only. -/
theorem standbyReady_honest_iff (hh : recoveryMachine.History s₀ h s) {i : RecoveryInput}
    {now : DateTime} {stabilitySeconds : ℤ} (hsmall : stabilitySeconds ≤ 2 ^ 33)
    (hmono : Chronological ((s, .evaluate i now stabilitySeconds) :: h))
    (hrdy : (evaluateNode i (s n) n now stabilitySeconds).2.state = .standbyReady) :
    HonestReadiness h s i n now stabilitySeconds ↔ ResolvesAlone h i n now stabilitySeconds := by
  obtain ⟨hlast, hmono⟩ := pairwise_cons.mp hmono
  obtain ⟨hsettled, -, hst⟩ | ⟨-, -, hunsettled⟩ :=
    evaluateNode_cases i (s n) n now stabilitySeconds
  rotate_left
  · rw [hrdy] at hunsettled
    exact absurd hunsettled (by decide)
  -- The evaluations of the window come after the instant since which the node is settled.
  have hwindow : ∀ columns i' now' stabilitySeconds',
      (columns, .evaluate i' now' stabilitySeconds') ∈ h → n ∈ i'.cluster.nodes.ids →
        now - stabilitySeconds * 1000000 < now' → Settled i' (columns n) n now' := by
    intro columns i' now' stabilitySeconds' hmem hmember hafter
    have hbef : now' ≤ now := hlast _ hmem
    have hlong : stabilitySeconds ≤
        wholeSeconds (now - (s n).recoveryStableSince.getD now) := by
      by_contra hshort
      rw [hrdy, if_neg hshort] at hst
      cases hst
    have hpos : 0 < stabilitySeconds := by
      by_contra hzero
      linarith
    have helapsed := le_of_le_wholeSeconds hpos hsmall hlong
    cases hsince : (s n).recoveryStableSince with
    | none =>
      rw [hsince, Option.getD_none, sub_self] at helapsed
      omega
    | some since =>
      rw [hsince, Option.getD_some] at helapsed
      have hlater : since < now' := by linarith
      exact settledSince_stableSince hh hmono n since hsince columns i' now' stabilitySeconds'
        hmem hmember hlater
  rw [HonestReadiness, ResolvesAlone, operationalBlockers_eq_nil_iff, and_self_left,
    checks_evaluateNode, requiredPassed_iff hsettled]
  refine and_congr_right fun _ ↦ forall_congr' fun columns ↦ forall_congr' fun i' ↦ ?_
  refine forall_congr' fun now' ↦ forall_congr' fun stabilitySeconds' ↦ ?_
  refine forall_congr' fun hmem ↦ forall_congr' fun hmember ↦ forall_congr' fun hafter ↦ ?_
  have hthen := hwindow columns i' now' stabilitySeconds' hmem hmember hafter
  have hstates : (evaluateNode i' (columns n) n now' stabilitySeconds').2.state ∉
      unsettledStates := by
    obtain ⟨-, -, hthenState⟩ | ⟨hnot, -, -⟩ :=
      evaluateNode_cases i' (columns n) n now' stabilitySeconds'
    · rw [hthenState]
      split
      · decide
      · decide
    · exact absurd hthen hnot
  rw [checks_evaluateNode, requiredPassed_iff hthen]
  exact ⟨And.left, fun hpeer ↦ ⟨hpeer, hstates⟩⟩

/-! ### A sample pair -/

/-- A healthy pair without DHCP at an instant: node 1 holds the Virtual IP, node 2 is compared with it
and resolves through the given nameservers. -/
def samplePair (nameservers : List String) (now : DateTime) : RecoveryInput where
  cluster :=
    { name := "office"
      deploymentMode := some .dnsOnly
      virtualIp := some "192.0.2.53"
      nodes :=
        { ids := [1, 2]
          row := fun n ↦
            { displayName := "node"
              managementHost := some (if n = 1 then "192.0.2.10" else "192.0.2.11")
              networkInterface := some "eth0"
              lastHeartbeatAt := some now
              observedRole := some (if n = 1 then .active else .standby)
              observedGeneration := 1
              vipOwned := n = 1
              ftlActive := some true
              dnsHealthy := some true
              resolverNameservers := some nameservers
              resolverObservationStatus := some .fresh
              keepalivedStatus := .deployed
              keepalivedRuntimeState := .running }
          nodup := nodup_pair }
      failoverRuns := ⟨[], fun _ ↦ ⟨0, 0, .failedSafe, .failedSafe, false, 0, 0, none, {}, 0, 0⟩,
        List.nodup_nil⟩
      maintenanceRuns := ⟨[], fun _ ↦ ⟨.reconcile, .cancelled, .complete, none, none,
        ⟨false, false, false⟩, {}, none, 0, 0, 0⟩, List.nodup_nil⟩ }
  syncRuns := [⟨1, 2, .inSync, {}, some 0, 0⟩]

/-- The first evaluation of the pair, and the one a minute later. -/
def sampleHistory (nameservers : List String) :
    List ((NodeId → RecoveryColumns) × RecoveryEvent) :=
  [(fun _ ↦ {}, .evaluate (samplePair nameservers 0) 0 60)]

/-- The columns after the first evaluation. -/
def sampleColumns (nameservers : List String) : NodeId → RecoveryColumns :=
  recoveryMachine.step (fun _ ↦ {}) (.evaluate (samplePair nameservers 0) 0 60)

theorem sampleHistory_history (nameservers : List String) :
    recoveryMachine.History (fun _ ↦ {}) (sampleHistory nameservers) (sampleColumns nameservers) :=
  Machine.History.nil.cons _

theorem standbyReady_honest_vip :
    HonestReadiness (sampleHistory ["192.0.2.53"]) (sampleColumns ["192.0.2.53"])
      (samplePair ["192.0.2.53"] 60000000) 2 60000000 60 := by
  refine (standbyReady_honest_iff (sampleHistory_history _) (by norm_num) ?_ ?_).mpr ⟨?_, ?_⟩
  · simp [Chronological, sampleHistory, RecoveryEvent.now]
  · decide +kernel
  · decide +kernel
  · intro columns i' now' stabilitySeconds' hmem _ _
    cases mem_singleton.mp hmem
    decide +kernel

/-- A standby that resolves through its peer only becomes ready with a blocker. -/
theorem peer_resolver_ready :
    recoveryMachine.History (fun _ ↦ {}) (sampleHistory ["192.0.2.10"])
        (sampleColumns ["192.0.2.10"]) ∧ Chronological ((sampleColumns ["192.0.2.10"],
        .evaluate (samplePair ["192.0.2.10"] 60000000) 60000000 60) ::
          sampleHistory ["192.0.2.10"]) ∧
      (evaluateNode (samplePair ["192.0.2.10"] 60000000) (sampleColumns ["192.0.2.10"] 2) 2
        60000000 60).2.state = .standbyReady ∧
      ¬HonestReadiness (sampleHistory ["192.0.2.10"]) (sampleColumns ["192.0.2.10"])
        (samplePair ["192.0.2.10"] 60000000) 2 60000000 60 := by
  refine ⟨sampleHistory_history _, ?_, by decide +kernel, fun hhonest ↦ ?_⟩
  · simp [Chronological, sampleHistory, RecoveryEvent.now]
  have hblockers := congrArg length hhonest.1
  revert hblockers
  decide +kernel

end Runs

end Kaya.HA
