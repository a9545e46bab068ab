import Kaya.HA.AgentRetry
import Kaya.HA.DemotionSafety
import Kaya.HA.Deployments

/-!
# Offered generations never go backwards

A failover action carries the generation its run has kept, a maintenance action the one the cluster
has now, and the agent remembers the largest it was given. `currentGeneration` is the generation of
whatever the cluster can offer at a moment: that of the active failover run, and that of the cluster
when there is none. While at most one run is active it never falls (`currentGeneration_step`): a
run that ends gives way to the counter that bounds it, and a run becomes active — for the first time
or again — only together with a new generation.

The agents are part of the system here (`fleetMachine`). A response is sent with what is offered at
that time and may be handled at any later time, more than once or never.
-/

namespace Kaya.HA

open List Function

/-! ### The counters of a cluster -/

/-- Neither the cluster generation nor the deployment generation falls. -/
structure CountersRise (c c' : HACluster) : Prop where
  cluster : c.clusterGeneration ≤ c'.clusterGeneration
  keepalived : c.keepalivedGeneration ≤ c'.keepalivedGeneration

namespace CountersRise

variable {c c' c'' : HACluster} {r m : RunId} {now : DateTime} {rolledBack : Bool}
  {n target standby : NodeId} {inputs : ReinitialisationInputs}

theorem of_eq (hclus : c'.clusterGeneration = c.clusterGeneration)
    (hkeep : c'.keepalivedGeneration = c.keepalivedGeneration) : CountersRise c c' :=
  ⟨hclus.ge, hkeep.ge⟩

theorem refl : CountersRise c c := .of_eq rfl rfl

theorem trans (h : CountersRise c c') (h' : CountersRise c' c'') : CountersRise c c'' :=
  ⟨h.cluster.trans h'.cluster, h.keepalived.trans h'.keepalived⟩

theorem of_ownershipFrame (h : ownershipFrame c' = ownershipFrame c) : CountersRise c c' :=
  have hclus := congrArg HACluster.clusterGeneration h
  have hkeep := congrArg HACluster.keepalivedGeneration h
  .of_eq hclus hkeep

theorem complete : CountersRise c (complete c r rolledBack) := ⟨Nat.le_succ _, Nat.le_succ _⟩

theorem bump {f : HAFailoverRun → HAFailoverRun} :
    CountersRise c ((bumpRoleGeneration c r).modifyFailover r f) := ⟨Nat.le_succ _, le_rfl⟩

theorem verifyRelease : CountersRise c (verifyRelease c r rolledBack now) := by
  unfold HA.verifyRelease
  dsimp only
  split
  · exact ⟨Nat.le_succ _, Nat.le_succ _⟩
  split
  · rcases hretry : queueSafeDhcpReleaseRetry c r rolledBack now with - | c'
    · exact .of_eq rfl rfl
    · rw [queueSafeDhcpReleaseRetry_eq_some hretry]
      exact .bump
  · exact .refl

theorem awaitVip : CountersRise c (awaitVip c r rolledBack now) := by
  unfold HA.awaitVip
  dsimp only
  split
  · exact .of_eq rfl rfl
  split
  · split
    · exact ⟨Nat.le_succ _, le_rfl⟩
    · exact .of_eq rfl rfl
  · exact .refl

theorem switchPhase : CountersRise c (switchPhase c r now) := by
  unfold HA.switchPhase
  dsimp only
  split
  · split
    · exact .of_eq rfl rfl
    · exact .refl
  · exact .verifyRelease
  · exact .verifyRelease
  · split
    · exact .of_eq rfl rfl
    · exact .refl
  · exact .awaitVip
  · exact .awaitVip
  · exact .refl

theorem verifyFinal : CountersRise c (verifyFinal c r rolledBack now) := by
  unfold HA.verifyFinal
  dsimp only
  split
  · exact .complete
  split
  · rcases hrepair : queueSafeDhcpRepair c r rolledBack now with - | c'
    · exact .of_eq rfl rfl
    · rw [(queueSafeDhcpRepair_eq_some hrepair).2]
      exact .bump
  · exact .refl

theorem advanceRun : CountersRise c (advanceRun c r now) := by
  unfold HA.advanceRun
  dsimp only
  split
  · exact .of_eq rfl rfl
  split
  · exact .complete
  split
  · exact .complete
  · refine (@switchPhase c r now).trans ?_
    unfold verifyPhase
    split
    · exact .verifyFinal
    · exact .verifyFinal
    · exact .refl

theorem advanceFailover : CountersRise c (advanceFailover c now) := by
  unfold HA.advanceFailover
  split
  · exact .refl
  · exact .advanceRun

theorem requestFailoverRollback {acknowledged : Bool}
    (h : requestFailoverRollback c r acknowledged now = .ok c') : CountersRise c c' := by
  have hbase : CountersRise c (rollbackBase c r) := ⟨Nat.le_succ _, le_rfl⟩
  obtain ⟨-, ⟨-, -, rfl⟩ | ⟨-, reason, rfl⟩ | ⟨reason, rfl⟩⟩ := requestFailoverRollback_eq_ok h
  · exact hbase.trans .complete
  · exact hbase.trans (.of_eq rfl rfl)
  · exact hbase.trans (.of_eq rfl rfl)

theorem persist (plan : Except String LeasePlan) :
    CountersRise c (persistLeasePlan c now plan).1 := by
  obtain ⟨state, snapshots, hwrit⟩ := @persistLeasePlan_writes c now plan
  rw [hwrit]
  exact .of_eq rfl rfl

theorem captured (managed : Bool) (answer : LeaseAnswer) :
    CountersRise c (captured c managed answer now) := by
  unfold HA.captured
  split
  · exact .persist _
  · exact .refl

theorem createFailoverRun {source : NodeId} {managed : Bool} :
    CountersRise c (createFailoverRun c source target managed now).1 := by
  unfold HA.createFailoverRun
  dsimp only
  split
  · exact ⟨(Nat.le_succ _).trans (Nat.le_succ _), Nat.le_succ _⟩
  · exact ⟨Nat.le_succ _, le_rfl⟩

theorem startControlledFailover {confirmation : String} {acknowledged : Bool}
    {failback : Except String Unit} {answer : LeaseAnswer} :
    CountersRise c
      (startControlledFailover c target confirmation acknowledged failback answer now).1 := by
  rcases startControlledFailover_cases c now target confirmation acknowledged failback
    answer with hsame | ⟨-, -, hcapt⟩ | ⟨source, -, -, -, -, hcreated⟩
  · rw [hsame]
    exact .refl
  · rw [hcapt]
    exact .persist _
  · rw [hcreated]
    exact (captured _ _).trans .createFailoverRun

theorem stageDhcp : CountersRise c (stageDhcp c m inputs now) := by
  have hpersist := @persist c now (inspectClusterLeases c inputs.leases)
  unfold HA.stageDhcp reconcileClusterLeases
  split <;> rename_i c' hleases <;> rw [hleases] at hpersist
  · exact hpersist.trans (.of_eq rfl rfl)
  split
  · exact hpersist.trans (.of_eq rfl rfl)
  · exact hpersist.trans (.of_eq rfl rfl)

/-- The rebuild of the runtime apart, a reinitialisation leaves the counters alone. -/
theorem reinitialisationPhase :
    CountersRise c (reinitialisationPhase c m target standby inputs now) := by
  unfold HA.reinitialisationPhase
  split
  · unfold awaitReports
    dsimp only
    split
    · exact .of_eq rfl rfl
    split
    · exact .of_eq rfl rfl
    · exact .of_eq rfl rfl
  · unfold backUp
    dsimp only
    split <;> exact .of_eq rfl rfl
  · unfold synchronise
    split <;> exact .of_eq rfl rfl
  · exact .stageDhcp
  · split <;> exact .of_eq rfl rfl
  · split <;> exact .of_eq rfl rfl
  · unfold verifyDhcpRelease
    split
    · exact .of_eq rfl rfl
    split <;> exact .of_eq rfl rfl
  · exact ⟨Nat.le_succ _, Nat.le_succ _⟩
  · unfold awaitRebuild
    dsimp only
    split
    · exact .of_eq rfl rfl
    split
    · exact .refl
    split
    · split <;> exact .of_eq rfl rfl
    split <;> exact .of_eq rfl rfl
  · unfold verifyDhcpActivation
    dsimp only
    split
    · exact .of_eq rfl rfl
    split <;> exact .of_eq rfl rfl
  · unfold verifyInvariants
    split
    · exact .of_eq rfl rfl
    split <;> exact .of_eq rfl rfl
  · exact .refl

theorem advanceReinitialisation {processStartedAt : DateTime} :
    CountersRise c (advanceReinitialisation c m inputs processStartedAt now) := by
  unfold HA.advanceReinitialisation
  dsimp only
  split
  · exact .refl
  split
  · exact .of_eq rfl rfl
  split
  · exact .refl
  split
  · exact .of_eq rfl rfl
  · exact .reinitialisationPhase

/-- A reconciliation takes over a generation that both agents report, never a smaller one. -/
theorem correctStoredState (i : ClusterInspection) : CountersRise c (correctStoredState c i) := by
  unfold HA.correctStoredState
  dsimp only
  split
  · exact ⟨le_agreedGeneration _ _, le_agreedGeneration _ _⟩
  · exact ⟨le_agreedGeneration _ _, le_agreedGeneration _ _⟩

theorem reconcileClusterState {stalled : StalledRecovery} :
    CountersRise c (reconcileClusterState c m stalled now) := by
  unfold HA.reconcileClusterState
  dsimp only
  split
  · exact .refl
  split
  · exact .of_eq rfl rfl
  generalize inspectCluster c (.topology now (some (c.maintenanceRun m).startedAt)) stalled = i
  have hcorrected := (@correctStoredState c i).trans (of_ownershipFrame (evaluateRecovery_frame _))
  exact hcorrected.trans (.of_eq rfl rfl)

theorem applyActionResult {result : HAAgentActionResult}
    (h : applyActionResult c n result now = .ok c') : CountersRise c c' := by
  unfold HA.applyActionResult at h
  split at h
  · cases h
    exact .of_eq rfl rfl
  · obtain ⟨state, snapshots, rfl | rfl⟩ := recordLeaseStageResult_writes h
    · exact .of_eq rfl rfl
    · exact .of_eq rfl rfl
  · cases h
    unfold applyKeepalivedResult
    split
    · exact .of_eq rfl rfl
    · dsimp only
      split <;> exact .of_eq rfl rfl
  · split at h
    · obtain ⟨runs, status, rfl⟩ := recordMaintenanceActionResult_writes h
      exact .of_eq rfl rfl
    · obtain ⟨r, phase, -, -, -, rfl⟩ := recordFailoverActionResult_eq_ok h
      exact .of_eq rfl rfl

end CountersRise

section Counters

variable {s : Sys} {e : Event}

/-- **One step.** No counter of the cluster falls. -/
theorem counters_step : CountersRise s.cluster (step s e).cluster := by
  obtain ⟨now, a⟩ := e
  simp only [step_cluster]
  cases a with
  | actionResult n result =>
    dsimp only [clusterStep]
    split
    · exact .refl
    rcases commitActionResult_cases s.cluster n result now with hsame | hacc
    · rw [hsame]
      exact .refl
    · obtain ⟨c₁, happly, hstore⟩ := hacc.applied
      rw [hstore]
      exact (CountersRise.applyActionResult happly).trans (.of_eq rfl rfl)
  | observe n node => exact .of_eq rfl rfl
  | heartbeat n hb =>
    dsimp only [clusterStep]
    split <;> exact .of_eq rfl rfl
  | reconcileVipOwnership reporting => exact .of_ownershipFrame (reconcileVipOwnership_frame _ _ _)
  | evaluateRecovery => exact .of_ownershipFrame (evaluateRecovery_frame _)
  | ingestEvent n event => exact .of_ownershipFrame (ingestEvent_frame _ _ _ _)
  | startControlledFailover => exact .startControlledFailover
  | advanceFailover => exact .advanceFailover
  | requestFailoverRollback r acknowledged =>
    dsimp only [clusterStep]
    split
    · exact committed_of .refl fun c' hok ↦ .requestFailoverRollback hok
    · exact .refl
  | startReconciliation =>
    rw [clusterStep]
    refine committed_of .refl fun c' hok ↦ ?_
    obtain ⟨-, -, rfl⟩ := startReconciliation_eq_ok hok
    exact .of_eq rfl rfl
  | startReinitialisation =>
    rw [clusterStep]
    refine committed_of .refl fun c' hok ↦ ?_
    obtain ⟨-, -, -, rfl⟩ := startReinitialisation_eq_ok hok
    exact .of_eq rfl rfl
  | reconcileClusterState m stalled =>
    dsimp only [clusterStep]
    split
    · exact .reconcileClusterState
    · exact .refl
  | advanceReinitialisation m inputs =>
    dsimp only [clusterStep]
    split
    · exact .advanceReinitialisation
    · exact .refl
  | startDhcpSelfHeal forceRetry =>
    obtain ⟨runs, mode, hwrit⟩ := @startDhcpSelfHeal_writes s.cluster now forceRetry
    rw [clusterStep, hwrit]
    exact .of_eq rfl rfl
  | advanceDhcpSelfHeal m =>
    dsimp only [clusterStep]
    split
    · obtain ⟨runs, mode, status, hwrit⟩ := @advanceDhcpSelfHeal_writes s.cluster m now
      rw [hwrit]
      exact .of_eq rfl rfl
    · exact .refl
  | reconcileClusterLeases answer => exact .persist _
  | persistLeaseInspection inputs answer =>
    dsimp only [clusterStep]
    split
    · exact .persist _
    · exact .refl
  | _ => exact .refl

end Counters

/-! ### What can be offered at a moment -/

/-- The active runs of a cluster, of both kinds. -/
def activeRuns (c : HACluster) : ℕ :=
  (c.failoverRuns.ids.countP fun r ↦ (c.failoverRun r).status.isActive) +
    c.maintenanceRuns.ids.countP fun m ↦ (c.maintenanceRun m).status.isActive

/-- At most one run is active. -/
def OneRun (c : HACluster) : Prop := activeRuns c ≤ 1

instance (c : HACluster) : Decidable (OneRun c) := inferInstanceAs (Decidable (_ ≤ _))

/-- The generation an action offered now carries. -/
def currentGeneration (c : HACluster) : ℕ :=
  match activeFailover c with
  | some r => (c.failoverRun r).roleGeneration
  | none => c.roleGeneration

section Current

variable {s : Sys} {e : Event} {c : HACluster} {n : NodeId} {now : DateTime} {a : DhcpAction}
  {r r' m : RunId}

theorem OneRun.failover (h : OneRun c) (hr : r ∈ c.failoverRuns.ids)
    (hlive : (c.failoverRun r).status.isActive = true) (hr' : r' ∈ c.failoverRuns.ids)
    (hlive' : (c.failoverRun r').status.isActive = true) : r' = r := by
  unfold OneRun activeRuns at h
  rw [countP_eq_length_filter] at h
  have hmem {k : RunId} (hk : k ∈ c.failoverRuns.ids)
      (hrun : (c.failoverRun k).status.isActive = true) :
      k ∈ c.failoverRuns.ids.filter fun r ↦ (c.failoverRun r).status.isActive :=
    mem_filter.2 ⟨hk, hrun⟩
  rcases hruns : c.failoverRuns.ids.filter fun r ↦ (c.failoverRun r).status.isActive
    with - | ⟨k, - | ⟨k', rest⟩⟩
  · have hnone := hmem hr hlive
    rw [hruns] at hnone
    cases hnone
  · rw [hruns] at hmem
    rw [mem_singleton.1 (hmem hr hlive), mem_singleton.1 (hmem hr' hlive')]
  · rw [hruns, length_cons, length_cons] at h
    omega

theorem OneRun.noFailover (h : OneRun c) (hm : activeMaintenance c = some m) :
    activeFailover c = none := by
  obtain ⟨hm, hlive⟩ := Table.newest?_eq_some hm
  have hmaint : 0 < c.maintenanceRuns.ids.countP fun m ↦ (c.maintenanceRun m).status.isActive :=
    countP_pos_iff.2 ⟨m, hm, hlive⟩
  refine Table.newest?_eq_none_iff.2 fun r hr ↦ ?_
  by_contra hrun
  have hfail : 0 < c.failoverRuns.ids.countP fun r ↦ (c.failoverRun r).status.isActive :=
    countP_pos_iff.2 ⟨r, hr, Bool.eq_true_of_not_eq_false hrun⟩
  unfold OneRun activeRuns at h
  omega

/-- Whatever is offered carries the current generation. -/
theorem offered_currentGeneration (hone : OneRun c) (h : Offered c n now a) :
    a.generation = currentGeneration c := by
  unfold currentGeneration
  rcases h with h | h
  · obtain ⟨r, hr, -, hact, -⟩ := desiredFailoverAction_eq_some h
    rw [hr, hact]
    rfl
  · obtain ⟨m, hm, -, hact, -⟩ := desiredMaintenanceAction_eq_some h
    rw [hone.noFailover hm, hact]
    rfl

/-- A run that becomes active takes a new generation. -/
theorem activated_generation (hr : r ∈ (step s e).cluster.failoverRuns.ids)
    (hlive : ((step s e).cluster.failoverRun r).status.isActive = true)
    (hbef : r ∈ s.cluster.failoverRuns.ids → (s.cluster.failoverRun r).status.isActive = false) :
    s.cluster.roleGeneration ≤ ((step s e).cluster.failoverRun r).roleGeneration := by
  -- A run that is as it was before has not been activated.
  have hchg (hids : r ∈ s.cluster.failoverRuns.ids)
      (hrow : (step s e).cluster.failoverRun r = s.cluster.failoverRun r) : False := by
    rw [hrow, hbef hids] at hlive
    cases hlive
  have hsame (hruns : (step s e).cluster.failoverRuns = s.cluster.failoverRuns) : False :=
    hchg (hruns ▸ hr) (by rw [HACluster.failoverRun, hruns])
  -- Nor is the one that was active before.
  have hmoved {k : RunId} (hk : activeFailover s.cluster = some k)
      (hmoves : RowMoves s.cluster e.now k (step s e).cluster) : False := by
    have hids : r ∈ s.cluster.failoverRuns.ids := hmoves.ids ▸ hr
    by_cases hrk : r = k
    · subst hrk
      obtain ⟨-, hrun⟩ := Table.newest?_eq_some hk
      exact Bool.false_ne_true ((hbef hids).symm.trans hrun)
    · exact hchg hids (hmoves.others r hrk)
  cases step_kind s e with
  | idle hruns => exact (hsame hruns).elim
  | advanced k _ hk hmoves => exact (hmoved hk hmoves).elim
  | reported k _ hk hmoves => exact (hmoved hk hmoves).elim
  | rollback k acknowledged hact hk hok =>
    have hmoves := requestFailoverRollback_moves hok
    by_cases hrk : r = k
    · subst hrk
      obtain ⟨-, ⟨-, -, hc'⟩ | ⟨-, reason, hc'⟩ | ⟨reason, hc'⟩⟩ := requestFailoverRollback_eq_ok hok
      · rw [hc', failoverRun_of_modify (rollbackCompleted_failoverRuns _ _)]
        exact Nat.le_succ _
      · rw [hc', failoverRun_of_modify (rollbackNoted_failoverRuns _ _ _ _)]
        exact Nat.le_succ _
      · rw [hc', failoverRun_of_modify (rollbackNoted_failoverRuns _ _ _ _)]
        exact Nat.le_succ _
    · exact (hchg (hmoves.ids ▸ hr) (hmoves.others r hrk)).elim
  | created source target _ _ _ answer _ _ _ _ _ hc' =>
    rw [hc', createFailoverRun_ids, mem_append, mem_singleton] at hr
    rw [hc'] at hchg ⊢
    have hruns := captured_failoverRuns s.cluster (failoverReadiness s.cluster e.now).dhcpManaged
      answer e.now
    rcases hr with hr | rfl
    · have hids : r ∈ s.cluster.failoverRuns.ids := hruns ▸ hr
      refine (hchg hids ?_).elim
      rw [createFailoverRun_old _ _ _ _ _ hr, HACluster.failoverRun, hruns]
    · rw [(createFailoverRun_new _ _ _ _ _).roleGeneration]
      exact captured_steady.generation.trans (Nat.le_succ _)
  | maintenance m hmoves => exact (hsame hmoves.failover).elim
  | maintenanceStarted hstart => exact (hsame hstart.failover).elim

/-- **One step.** While at most one run is active, the current generation does not fall. -/
theorem currentGeneration_step (hbounded : BoundedGenerations s.cluster) (hone : OneRun s.cluster) :
    currentGeneration s.cluster ≤ currentGeneration (step s e).cluster := by
  have hrole := step_roleGeneration s e
  have hle : currentGeneration s.cluster ≤ s.cluster.roleGeneration := by
    unfold currentGeneration
    split <;> rename_i r hr
    · exact hbounded r (Table.newest?_eq_some hr).1
    · exact le_rfl
  rcases hr' : activeFailover (step s e).cluster with - | r'
  · rw [currentGeneration, currentGeneration, hr'] at *
    exact hle.trans hrole
  obtain ⟨hmem', hlive'⟩ := Table.newest?_eq_some hr'
  have hcur' : currentGeneration (step s e).cluster =
      ((step s e).cluster.failoverRun r').roleGeneration := by
    rw [currentGeneration, hr']
  rw [hcur']
  by_cases hbef : r' ∈ s.cluster.failoverRuns.ids ∧
      (s.cluster.failoverRun r').status.isActive = true
  · -- It is the run that was active before, and its generation rises.
    obtain ⟨r, hr⟩ : ∃ r, activeFailover s.cluster = some r :=
      Table.newest?_isSome_of_mem hbef.1 hbef.2
    obtain ⟨hmem, hlive⟩ := Table.newest?_eq_some hr
    obtain rfl := hone.failover hmem hlive hbef.1 hbef.2
    have hcur : currentGeneration s.cluster = (s.cluster.failoverRun r').roleGeneration := by
      rw [currentGeneration, hr]
    rw [hcur]
    exact ((generations_step hbounded).runs r' hmem).2
  · refine hle.trans (activated_generation hmem' hlive' fun hmem ↦ ?_)
    by_contra hlive
    exact hbef ⟨hmem, Bool.eq_true_of_not_eq_false hlive⟩

end Current

/-! ### The agents -/

/-- The server with its agents. `sent` keeps every response an agent has been sent: it may be handled
late, again, or never. -/
structure Fleet where
  server : Sys
  agent : NodeId → AgentStore
  sent : NodeId → List DesiredState

/-- What happens in the fleet: a unit of work of the server, the response to a heartbeat of a node,
a cycle of an agent, or a new measurement of what its host does. -/
inductive FleetEvent
  | server (e : Event)
  | respond (n : NodeId) (now : DateTime)
  | cycle (n : NodeId) (cycle : AgentCycle)
  | measure (n : NodeId) (dhcpRunning vipOwned : Bool) (observedRole : Option Role)

/-- The step function. An agent handles only what it has been sent. -/
def fleetStep (f : Fleet) : FleetEvent → Fleet
  | .server e => { f with server := step f.server e }
  | .respond n now =>
    match desiredState f.server.cluster n now with
    | .ok desired => { f with sent := Function.update f.sent n (desired :: f.sent n) }
    | .error _ => f
  | .cycle n cycle =>
    if cycle.desired ∈ f.sent n then
      { f with agent := Function.update f.agent n (runOnce (f.agent n) cycle).1 }
    else f
  | .measure n dhcpRunning vipOwned observedRole =>
    let runtime := { (f.agent n).runtime with dhcpRunning, vipOwned, observedRole }
    { f with agent := Function.update f.agent n { f.agent n with runtime } }

/-- A newly configured cluster, whose agents have not been told anything. -/
structure FleetInitial (f : Fleet) : Prop where
  server : Initial f.server
  agent : ∀ n, (f.agent n).runtime.failoverGeneration = 0
  sent : ∀ n, f.sent n = []

/-- The server and its agents as one machine. -/
def fleetMachine : Machine Fleet FleetEvent where
  init := FleetInitial
  step := fleetStep

/-- The step leaves at most one run active. -/
def KeepsOneRun (f : Fleet) (e : FleetEvent) : Prop := OneRun (fleetStep f e).server.cluster

instance (f : Fleet) (e : FleetEvent) : Decidable (KeepsOneRun f e) :=
  inferInstanceAs (Decidable (OneRun _))

/-! ### What an agent remembers -/

section Agent

variable {store : AgentStore} {cycle : AgentCycle} {action : DhcpAction} {bound : ℕ}

theorem submitPending_runtime (store : AgentStore) (key : PendingKey) (posted : Bool) :
    (submitPending store key posted).runtime = store.runtime := by
  unfold submitPending
  split
  · rfl
  · split <;> rfl

theorem reconcileResolver_runtime (store : AgentStore) (desired : DesiredState)
    (answers : HelperAnswers) :
    (reconcileResolver store desired answers).runtime = store.runtime := by
  unfold reconcileResolver
  split
  · rfl
  · split <;> rfl

theorem reconcileKeepalived_runtime (store : AgentStore) (desired : DesiredState)
    (answers : HelperAnswers) :
    (reconcileKeepalived store desired answers).runtime = store.runtime := by
  unfold reconcileKeepalived
  split
  · rfl
  unfold applyDesiredKeepalived
  dsimp only
  split
  · rfl
  split
  · rfl
  split
  · rfl
  · split <;> rfl

theorem reconcileLeaseSnapshot_runtime (store : AgentStore) (desired : DesiredState)
    (answers : HelperAnswers) :
    (reconcileLeaseSnapshot store desired answers).runtime = store.runtime := by
  unfold reconcileLeaseSnapshot
  split
  · rfl
  unfold stageLeaseSnapshot
  rcases answers.lease with message | ⟨⟩
  · rfl
  · rfl

/-- An executed action leaves its own generation behind, a refused one nothing. -/
theorem executeFailoverAction_generation (answer : Except String HelperAnswer)
    (hstore : store.runtime.failoverGeneration ≤ bound) (hact : action.generation ≤ bound) :
    (executeFailoverAction store action answer).1.runtime.failoverGeneration ≤ bound := by
  unfold executeFailoverAction applyFailoverAction
  rcases failoverActionRefusal store.runtime action with - | refusal
  · dsimp only
    split
    · exact hact
    · split <;> exact hact
  · exact hstore

/-- **One cycle.** An agent remembers no more than it has been given. -/
theorem runOnce_generation (hstore : store.runtime.failoverGeneration ≤ bound)
    (hact : ∀ action, cycle.desired.failover = some action → action.generation ≤ bound) :
    (runOnce store cycle).1.runtime.failoverGeneration ≤ bound := by
  unfold runOnce
  dsimp only
  rw [submitPending_runtime, submitPending_runtime, submitPending_runtime, submitPending_runtime]
  unfold reconcileDesired
  split
  · exact hstore
  dsimp only
  -- Before the DHCP action the cycle has not touched the runtime state.
  have hbef : (reconcileLeaseSnapshot (reconcileKeepalived (adoptDesired store cycle.desired
      cycle.now) cycle.desired cycle.answers) cycle.desired cycle.answers).runtime =
        store.runtime := by
    rw [reconcileLeaseSnapshot_runtime, reconcileKeepalived_runtime]
    rfl
  split <;> rename_i hoffer
  · dsimp only
    rw [reconcileResolver_runtime, hbef]
    exact hstore
  split
  · dsimp only
    rw [hbef]
    exact hstore
  · dsimp only
    rw [reconcileResolver_runtime]
    refine executeFailoverAction_generation _ ?_ (hact _ hoffer)
    rw [hbef]
    exact hstore

end Agent

/-! ### Runs of the fleet -/

/-- What holds of every state in which at most one run has been active so far: run generations are
bounded, and neither a response nor an agent is ahead of what is offered. -/
structure FleetInvariant (f : Fleet) : Prop where
  bounded : BoundedGenerations f.server.cluster
  oneRun : OneRun f.server.cluster
  sent : ∀ n, ∀ desired ∈ f.sent n, ∀ action, desired.failover = some action →
    action.generation ≤ currentGeneration f.server.cluster
  agent : ∀ n, (f.agent n).runtime.failoverGeneration ≤ currentGeneration f.server.cluster

section Fleet

variable {f : Fleet} {e : FleetEvent}

/-- What a response offers is offered. -/
theorem offered_of_desiredState {c : HACluster} {n : NodeId} {now : DateTime}
    {desired : DesiredState} {action : DhcpAction} (h : desiredState c n now = .ok desired)
    (hact : desired.failover = some action) : Offered c n now action := by
  rw [desiredState_failover h] at hact
  rcases hmaint : desiredMaintenanceAction c n now with - | offered
  · rw [hmaint] at hact
    exact .inl hact
  · rw [hmaint] at hact
    cases hact
    exact .inr hmaint

theorem FleetInvariant.initial (h : FleetInitial f) : FleetInvariant f where
  bounded r hr := by
    rw [h.server.failoverRuns] at hr
    cases hr
  oneRun := by
    unfold OneRun activeRuns
    rw [h.server.failoverRuns, h.server.maintenanceRuns]
    exact Nat.zero_le _
  sent n desired hdes := by
    rw [h.sent] at hdes
    cases hdes
  agent n := by
    rw [h.agent]
    exact Nat.zero_le _

theorem fleet_currentGeneration (h : FleetInvariant f) :
    currentGeneration f.server.cluster ≤ currentGeneration (fleetStep f e).server.cluster := by
  cases e with
  | server e => exact currentGeneration_step h.bounded h.oneRun
  | respond n now =>
    unfold fleetStep
    dsimp only
    split <;> exact le_rfl
  | cycle n cycle =>
    unfold fleetStep
    dsimp only
    split <;> exact le_rfl
  | measure => exact le_rfl

/-- **One step of the fleet.** -/
theorem FleetInvariant.step (h : FleetInvariant f) (hone : KeepsOneRun f e) :
    FleetInvariant (fleetStep f e) := by
  cases e with
  | server e =>
    have hrise := @currentGeneration_step f.server e h.bounded h.oneRun
    exact ⟨(generations_step h.bounded).bounded, hone,
      fun n desired hdes action hact ↦ (h.sent n desired hdes action hact).trans hrise,
      fun n ↦ (h.agent n).trans hrise⟩
  | respond n now =>
    unfold fleetStep
    dsimp only
    split <;> rename_i desired hdes
    · refine ⟨h.bounded, h.oneRun, fun k sent hsent action hact ↦ ?_, h.agent⟩
      dsimp only at hsent ⊢
      by_cases hk : k = n
      · subst hk
        rw [update_self] at hsent
        rcases mem_cons.1 hsent with rfl | hsent
        · exact (offered_currentGeneration h.oneRun
            (offered_of_desiredState hdes hact)).le
        · exact h.sent k sent hsent action hact
      · rw [update_of_ne hk] at hsent
        exact h.sent k sent hsent action hact
    · exact h
  | cycle n cycle =>
    unfold fleetStep
    dsimp only
    split <;> rename_i hsent
    · refine ⟨h.bounded, h.oneRun, h.sent, fun k ↦ ?_⟩
      dsimp only
      by_cases hk : k = n
      · subst hk
        rw [update_self]
        exact runOnce_generation (h.agent k) (h.sent k _ hsent)
      · rw [update_of_ne hk]
        exact h.agent k
    · exact h
  | measure n dhcpRunning vipOwned observedRole =>
    refine ⟨h.bounded, h.oneRun, h.sent, fun k ↦ ?_⟩
    unfold fleetStep
    dsimp only
    by_cases hk : k = n
    · subst hk
      rw [update_self]
      exact h.agent k
    · rw [update_of_ne hk]
      exact h.agent k

theorem fleetInvariant (hf : fleetMachine.ReachableBy KeepsOneRun f) : FleetInvariant f :=
  hf.invariant (fun _ ↦ .initial) fun _ _ h hone ↦ h.step hone

/-- From `f` to a later `f'` no generation has gone backwards: not those of the actions a node is
offered, not the counters of the cluster. No active run is ahead of the cluster, and no agent of what
it is offered. -/
structure GenerationsForward (f f' : Fleet) : Prop where
  offered : ∀ n now now' a a', Offered f.server.cluster n now a →
    Offered f'.server.cluster n now' a' → a.generation ≤ a'.generation
  role : f.server.cluster.roleGeneration ≤ f'.server.cluster.roleGeneration
  cluster : f.server.cluster.clusterGeneration ≤ f'.server.cluster.clusterGeneration
  keepalived : f.server.cluster.keepalivedGeneration ≤ f'.server.cluster.keepalivedGeneration
  activeRun : ∀ r ∈ f'.server.cluster.failoverRuns.ids,
    (f'.server.cluster.failoverRun r).status.isActive = true →
      (f'.server.cluster.failoverRun r).roleGeneration ≤ f'.server.cluster.roleGeneration
  notStale : ∀ n now a, Offered f'.server.cluster n now a →
    ¬ a.generation < (f'.agent n).runtime.failoverGeneration

theorem fleet_counters :
    f.server.cluster.roleGeneration ≤ (fleetStep f e).server.cluster.roleGeneration ∧
      CountersRise f.server.cluster (fleetStep f e).server.cluster := by
  cases e with
  | server e => exact ⟨step_roleGeneration _ _, counters_step⟩
  | respond n now =>
    unfold fleetStep
    dsimp only
    split <;> exact ⟨le_rfl, .refl⟩
  | cycle n cycle =>
    unfold fleetStep
    dsimp only
    split <;> exact ⟨le_rfl, .refl⟩
  | measure => exact ⟨le_rfl, .refl⟩

/-- **A run.** The current generation and the counters rise along every run in which at most one run
is active at a time. -/
theorem fleet_run (es : List FleetEvent) (h : FleetInvariant f)
    (hes : fleetMachine.Admissible KeepsOneRun f es) :
    FleetInvariant (fleetMachine.run f es) ∧ currentGeneration f.server.cluster ≤
        currentGeneration (fleetMachine.run f es).server.cluster ∧ f.server.cluster.roleGeneration ≤
        (fleetMachine.run f es).server.cluster.roleGeneration ∧
      CountersRise f.server.cluster (fleetMachine.run f es).server.cluster := by
  induction es generalizing f with
  | nil => exact ⟨h, le_rfl, le_rfl, .refl⟩
  | cons e es ih =>
    obtain ⟨hinv, hcur, hrole, hcounters⟩ := ih (h.step hes.1) hes.2
    obtain ⟨hrole', hcounters'⟩ := @fleet_counters f e
    exact ⟨hinv, (fleet_currentGeneration h).trans hcur, hrole'.trans hrole,
      hcounters'.trans hcounters⟩

/-- **Offered generations never go backwards**, over any history in which at most one run is active
at a time. -/
theorem generations_forward (hf : fleetMachine.ReachableBy KeepsOneRun f) {es : List FleetEvent}
    (hes : fleetMachine.Admissible KeepsOneRun f es) :
    GenerationsForward f (fleetMachine.run f es) := by
  have h := fleetInvariant hf
  obtain ⟨h', hcur, hrole, hcounters⟩ := fleet_run es h hes
  refine ⟨fun n now now' a a' ha ha' ↦ ?_, hrole, hcounters.cluster, hcounters.keepalived,
    fun r hr _ ↦ h'.bounded r hr, fun n now a ha ↦ ?_⟩
  · rw [offered_currentGeneration h.oneRun ha, offered_currentGeneration h'.oneRun ha']
    exact hcur
  · rw [offered_currentGeneration h'.oneRun ha, not_lt]
    exact h'.agent n

end Fleet

/-- The cluster whose owner has lost its DHCP setting, with its agents. -/
def repairFleet : Fleet := ⟨automaticDriftSys, fun _ ↦ ownerStore, fun _ ↦ []⟩

/-- The repair of the first node is started, and offered to it. -/
def repairFleetOffer : List FleetEvent := [.server ⟨0, .startDhcpSelfHeal false⟩, .respond 1 0]

/-- The second node takes over, and the repair is offered again. -/
def repairFleetTakeover : List FleetEvent :=
  [.server ⟨seconds 1, .heartbeat 1 (driftHeartbeat false)⟩, .server ⟨seconds 1, .heartbeat 2
      { sampleHeartbeat true true 0 with dhcpObservationStatus := some .fresh }⟩,
    .server ⟨seconds 1, .ingestEvent 2
      { eventType := "automatic_failover_completed", generation := .whole 1
        occurredAt := seconds 1 }⟩]

theorem repairFleet_initial : FleetInitial repairFleet :=
  ⟨⟨rfl, rfl, rfl, rfl, rfl, rfl, le_rfl, rfl, fun _ ↦ rfl, fun _ ↦ rfl, rfl⟩, fun _ ↦ rfl,
    fun _ ↦ rfl⟩

/-- The automatic takeover raises the generation of the repair from 1 to 2. -/
theorem repair_generations_forward :
    fleetMachine.Admissible KeepsOneRun repairFleet (repairFleetOffer ++ repairFleetTakeover) ∧
      GenerationsForward (fleetMachine.run repairFleet repairFleetOffer)
        (fleetMachine.run (fleetMachine.run repairFleet repairFleetOffer) repairFleetTakeover) := by
  have hoffer : fleetMachine.Admissible KeepsOneRun repairFleet repairFleetOffer := by
    decide +kernel
  refine ⟨by decide +kernel, generations_forward (.run (.start repairFleet_initial) hoffer) ?_⟩
  decide +kernel

end Kaya.HA
