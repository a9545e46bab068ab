import Kaya.HA.Invariants
import Kaya.HA.LeaseInvariants

/-!
# The lease generation a handover has frozen

A run copies `desired_generation` when it starts, and the promotion of its target asks the agent's
helper for exactly that document. Three components decide whether it is there, and no two of them
speak of the same thing.

* The run waits for **some** node to have applied *at least* its generation (`>=`, and without
  looking whose snapshot it was).
* Replication goes on in the background: a new snapshot is offered to the target, whose agent keeps
  one document only and overwrites it.
* The helper compares with `!=`.

So the law "what the target holds is what the run has frozen" needs the steps to cooperate
(`KeepsFrozenLeases`): the target stages nothing newer while it is being handed to, replication goes
to the target when the run starts and when it stops waiting, and no DHCP repair is queued for a
DNS-only handover, which has frozen nothing. Runs of such steps keep it
(`promotion_finds_frozen_leases`).
-/

namespace Kaya.HA

open Option

/-! ### The forward phases -/

/-- The phases of a handover on its way to the target. -/
def FailoverPhase.isForward : FailoverPhase → Bool
  | waitingForLeases | demotingSource | verifyingSourceDhcpRelease | movingVip | promotingTarget
  | verifyingTarget => true
  | _ => false

variable {c : HACluster} {now : DateTime} {run run' : HAFailoverRun}

/-- A run moves forward only from a forward phase, and never back to the wait for leases. -/
theorem FailoverMove.forward
    (h : FailoverMove c now run run') (hfwd : run'.phase.isForward = true) :
    run.phase.isForward = true ∧ run'.status = run.status ∧
      run'.dhcpManaged = run.dhcpManaged ∧ run'.phase ≠ .waitingForLeases := by
  cases h with
  | misclassified | failed | rollbackCompleted | rollbackDirect | rollbackStarted | vipRestored
  | rollbackShortcut => cases hfwd
  | verified rolledBack => cases rolledBack <;> cases hfwd
  | leasesCurrent _ hph =>
    rw [hph]
    exact ⟨rfl, rfl, rfl, nofun⟩
  | released rolledBack _ hph | releaseRetry rolledBack _ _ hph
  | repaired rolledBack _ _ hph =>
    rw [hph]
    cases rolledBack with
    | true => cases hfwd
    | false => exact ⟨rfl, rfl, rfl, nofun⟩
  | vipMoved rolledBack _ _ hph =>
    rw [hph]
    cases rolledBack with
    | true =>
      rcases hman : run.dhcpManaged <;>
        simp [hman, FailoverPhase.isForward] at hfwd
    | false => exact ⟨rfl, rfl, rfl, by cases run.dhcpManaged <;> simp⟩
  | reported _ hph =>
    refine ⟨?_, rfl, rfl, ?_⟩
    · rcases hbef : run.phase <;> rw [hbef] at hph <;> cases hph <;>
        first | rfl | cases hfwd
    · rcases hbef : run.phase <;> rw [hbef] at hph <;> cases hph <;> exact nofun

/-- The wait for leases ends when some node has applied the generation or a later one. -/
theorem FailoverMove.endOfWait (h : FailoverMove c now run run')
    (hfwd : run'.phase.isForward = true) (hph : run.phase = .waitingForLeases) :
    ∃ state, c.leaseReplication = some state ∧ state.status = .current ∧
      run.leaseGeneration ≤ state.appliedGeneration := by
  cases h with
  | leasesCurrent _ _ hst hcur hgen => exact ⟨_, hst, hcur, hgen⟩
  | misclassified | failed | rollbackCompleted | rollbackDirect | rollbackStarted | vipRestored
  | rollbackShortcut => cases hfwd
  | verified rolledBack => cases rolledBack <;> cases hfwd
  | released rolledBack _ hbef | releaseRetry rolledBack _ _ hbef
  | repaired rolledBack _ _ hbef | vipMoved rolledBack _ _ hbef =>
    rw [hph] at hbef
    cases rolledBack <;> cases hbef
  | reported _ hbef =>
    rw [hph] at hbef
    cases hbef

/-- A DNS-only run goes from the move of the Virtual IP to verification, and on only by a repair. -/
theorem FailoverMove.dnsOnly (h : FailoverMove c now run run')
    (hfwd : run'.phase.isForward = true) (hdns : run.dhcpManaged = false)
    (hph : run.phase = .movingVip ∨ run.phase = .verifyingTarget) :
    (piholeManagesDhcp c = false ∧ run' = { run with phase := .verifyingTarget }) ∨
      (run.phase = .verifyingTarget ∧ seconds 30 < now - verificationStartedAt run ∧
        requestedTopologyIsVerified c run false now = false ∧
        dhcpRepairIsSafe c run.targetNodeId run.sourceNodeId now = true) := by
  cases h with
  | misclassified | failed | rollbackCompleted | rollbackDirect | rollbackStarted | vipRestored
  | rollbackShortcut => cases hfwd
  | verified rolledBack => cases rolledBack <;> cases hfwd
  | leasesCurrent _ hbef =>
    rw [hbef] at hph
    rcases hph with hph | hph <;> cases hph
  | released rolledBack _ hbef | releaseRetry rolledBack _ _ hbef =>
    rw [hbef] at hph
    cases rolledBack <;> rcases hph with hph | hph <;> cases hph
  | vipMoved rolledBack _ hguard hbef =>
    have hclus : piholeManagesDhcp c = false := by
      rcases hguard with hman | hclus
      · exact absurd (hman.symm.trans hdns) (by decide)
      · exact hclus
    cases rolledBack with
    | true =>
      rw [hbef] at hph
      rcases hph with hph | hph <;> cases hph
    | false =>
      refine .inl ⟨hclus, ?_⟩
      rw [hdns]
      rfl
  | repaired rolledBack _ _ hbef hlate _ _ hunverified hsafe =>
    cases rolledBack with
    | true => cases hfwd
    | false => exact .inr ⟨hbef, hlate, hunverified, hsafe⟩
  | reported _ hbef =>
    rcases hph with hph | hph <;> rw [hph] at hbef <;> cases hbef

/-! ### What a run has frozen -/

/-- What a run on its way to the target has frozen, given the latest generation captured and what
the agents hold. -/
structure FrozenLeases (managesDhcp : Bool) (desired : ℕ) (staged : NodeId → ℕ)
    (run : HAFailoverRun) : Prop where
  running : run.phase.isForward = true → run.status = .running
  /-- A managed run has frozen a generation, and its target holds it once the wait is over. -/
  generation : run.phase.isForward = true → run.dhcpManaged = true →
    1 ≤ run.leaseGeneration ∧ run.leaseGeneration ≤ desired ∧
      staged run.targetNodeId ≤ run.leaseGeneration ∧
      (run.phase ≠ .waitingForLeases → staged run.targetNodeId = run.leaseGeneration)
  /-- A DNS-only run moves the Virtual IP, and on a cluster that manages DHCP it stops there. -/
  dnsOnly : run.phase.isForward = true → run.dhcpManaged = false →
    run.phase = .movingVip ∨ (run.phase = .verifyingTarget ∧ managesDhcp = false)

/-- A DNS-only run that verifies its target is on a cluster that does not manage DHCP. -/
theorem FrozenLeases.cluster_of_verifying {managesDhcp : Bool} {desired : ℕ} {staged : NodeId → ℕ}
    (h : FrozenLeases managesDhcp desired staged run) (hdns : run.dhcpManaged = false)
    (hph : run.phase = .verifyingTarget) : managesDhcp = false := by
  rcases h.dnsOnly (by rw [hph]; rfl) hdns with hmov | ⟨-, hclus⟩
  · exact absurd (hmov.symm.trans hph) (by decide)
  · exact hclus

section Moves

variable {c : HACluster} {now : DateTime} {managesDhcp : Bool} {desired desired' : ℕ}
  {staged staged' : NodeId → ℕ} {run run' : HAFailoverRun}

/-- More may be captured. -/
theorem FrozenLeases.mono (h : FrozenLeases managesDhcp desired staged run)
    (hle : desired ≤ desired') : FrozenLeases managesDhcp desired' staged run := by
  refine ⟨h.running, fun hfwd hman ↦ ?_, h.dnsOnly⟩
  obtain ⟨hpos, hdes, hstg, heq⟩ := h.generation hfwd hman
  exact ⟨hpos, hdes.trans hle, hstg, heq⟩

/-- The target may stage what the run has frozen, and other nodes anything. -/
theorem FrozenLeases.stage (h : FrozenLeases managesDhcp desired staged run)
    (hgrow : staged run.targetNodeId ≤ staged' run.targetNodeId)
    (hfrozen : run.status = .running → run.dhcpManaged = true →
      staged run.targetNodeId ≤ run.leaseGeneration →
        staged' run.targetNodeId ≤ run.leaseGeneration) :
    FrozenLeases managesDhcp desired staged' run := by
  refine ⟨h.running, fun hfwd hman ↦ ?_, h.dnsOnly⟩
  obtain ⟨hpos, hdes, hstg, heq⟩ := h.generation hfwd hman
  have hbound := hfrozen (h.running hfwd) hman hstg
  refine ⟨hpos, hdes, hbound, fun hph ↦ ?_⟩
  have hbef := heq hph
  omega

/-- **One move.** The two moves that need help are the end of the wait and the repair of a DNS-only
run. -/
theorem FrozenLeases.move (h : FrozenLeases (piholeManagesDhcp c) desired staged run)
    (hmove : FailoverMove c now run run')
    (hwait : run.phase = .waitingForLeases → ∀ state, c.leaseReplication = some state →
      state.status = .current → run.leaseGeneration ≤ state.appliedGeneration →
        desired ≤ staged run.targetNodeId)
    (hrepair : run.dhcpManaged = false → run.phase = .verifyingTarget →
      seconds 30 < now - verificationStartedAt run →
      requestedTopologyIsVerified c run false now = false →
        dhcpRepairIsSafe c run.targetNodeId run.sourceNodeId now = false) :
    FrozenLeases (piholeManagesDhcp c) desired staged run' := by
  have hident := hmove.identity
  refine ⟨fun hfwd ↦ ?_, fun hfwd hman ↦ ?_, fun hfwd hdns ↦ ?_⟩
  · obtain ⟨hbef, hstat, -, -⟩ := hmove.forward hfwd
    rw [hstat]
    exact h.running hbef
  · obtain ⟨hbef, -, hsame, -⟩ := hmove.forward hfwd
    rw [hsame] at hman
    obtain ⟨hpos, hdes, hstg, heq⟩ := h.generation hbef hman
    rw [hident.2.1, hident.2.2.1]
    refine ⟨hpos, hdes, hstg, fun _ ↦ ?_⟩
    by_cases hph : run.phase = .waitingForLeases
    · obtain ⟨state, hst, hcur, hgen⟩ := hmove.endOfWait hfwd hph
      have hheld := hwait hph state hst hcur hgen
      omega
    · exact heq hph
  · obtain ⟨hbef, -, hsame, -⟩ := hmove.forward hfwd
    rw [hsame] at hdns
    have hph : run.phase = .movingVip ∨ run.phase = .verifyingTarget :=
      (h.dnsOnly hbef hdns).imp_right And.left
    rcases hmove.dnsOnly hfwd hdns hph with ⟨hclus, rfl⟩ | ⟨hverify, hlate, hun, hsafe⟩
    · exact .inr ⟨rfl, hclus⟩
    · exact absurd ((hrepair hdns hverify hlate hun).symm.trans hsafe) (by decide)

/-- **Several moves of one step.** The two conditions are asked of the row the step starts from. -/
theorem FrozenLeases.moves (h : FrozenLeases (piholeManagesDhcp c) desired staged run)
    (hmoves : Relation.ReflTransGen (FailoverMove c now) run run')
    (hwait : run.phase = .waitingForLeases → ∀ state, c.leaseReplication = some state →
      state.status = .current → run.leaseGeneration ≤ state.appliedGeneration →
        desired ≤ staged run.targetNodeId)
    (hrepair : run.dhcpManaged = false → run.phase = .movingVip ∨ run.phase = .verifyingTarget →
      piholeManagesDhcp c = false → seconds 30 < now - verificationStartedAt run →
      requestedTopologyIsVerified c run false now = false →
        dhcpRepairIsSafe c run.targetNodeId run.sourceNodeId now = false) :
    FrozenLeases (piholeManagesDhcp c) desired staged run' := by
  -- A row on the way that still waits is the first one, and a DNS-only row differs from it in its
  -- phase at most.
  suffices hall : FrozenLeases (piholeManagesDhcp c) desired staged run' ∧
      (run'.phase = .waitingForLeases → run' = run) ∧
      (run'.phase.isForward = true → run'.dhcpManaged = false →
        run.phase.isForward = true ∧ ∃ phase, run' = { run with phase }) from hall.1
  induction hmoves with
  | refl => exact ⟨h, fun _ ↦ rfl, fun hfwd _ ↦ ⟨hfwd, run.phase, rfl⟩⟩
  | @tail mid last _ hlast ih =>
    obtain ⟨hmid, hfirst, hdnsOnly⟩ := ih
    refine ⟨hmid.move hlast ?_ ?_, fun hph ↦ ?_, fun hfwd hdns ↦ ?_⟩
    · intro hph
      obtain rfl := hfirst hph
      exact hwait hph
    · intro hdns hph
      have hfwd : mid.phase.isForward = true := by
        rw [hph]
        rfl
      have hclus := hmid.cluster_of_verifying hdns hph
      obtain ⟨hbef, phase, rfl⟩ := hdnsOnly hfwd hdns
      exact hrepair hdns ((h.dnsOnly hbef hdns).imp_right And.left) hclus
    · have hfwd : last.phase.isForward = true := by
        rw [hph]
        rfl
      exact absurd hph (hlast.forward hfwd).2.2.2
    · obtain ⟨hbef, -, hsame, -⟩ := hlast.forward hfwd
      rw [hsame] at hdns
      obtain ⟨hrun, phase, rfl⟩ := hdnsOnly hbef hdns
      have hph : phase = .movingVip ∨ phase = .verifyingTarget :=
        (hmid.dnsOnly hbef hdns).imp_right And.left
      rcases hlast.dnsOnly hfwd hdns hph with ⟨-, rfl⟩ | ⟨hverify, hlate, hun, hsafe⟩
      · exact ⟨hrun, _, rfl⟩
      · have hclus := hmid.cluster_of_verifying hdns hverify
        have hrefused := hrepair hdns ((h.dnsOnly hrun hdns).imp_right And.left) hclus hlate hun
        exact absurd (hrefused.symm.trans hsafe) (by decide)

end Moves

/-! ### The condition -/

/-- What an advance may find: a wait that ends because **the target** has staged the snapshot, and
no repair of a DNS-only handover. -/
structure AdvanceKeepsLeases (c : HACluster) (run : HAFailoverRun) (now : DateTime) : Prop where
  wait : run.phase = .waitingForLeases → ∀ state, c.leaseReplication = some state →
    state.status = .current → run.leaseGeneration ≤ state.appliedGeneration →
      state.targetNodeId = some run.targetNodeId
  repair : run.dhcpManaged = false → run.phase = .movingVip ∨ run.phase = .verifyingTarget →
    piholeManagesDhcp c = false → seconds 30 < now - verificationStartedAt run →
    requestedTopologyIsVerified c run false now = false →
      dhcpRepairIsSafe c run.targetNodeId run.sourceNodeId now = false

/-- A step that leaves the frozen generations alone. -/
def KeepsFrozenLeases (s : Sys) (e : Event) : Prop :=
  match e.action with
  | .stage n => ∀ generation, s.download n = some generation →
    ∀ r ∈ s.cluster.failoverRuns.ids, (s.cluster.failoverRun r).status = .running →
      (s.cluster.failoverRun r).dhcpManaged = true → (s.cluster.failoverRun r).targetNodeId = n →
        generation ≤ (s.cluster.failoverRun r).leaseGeneration
  | .startControlledFailover target _ _ _ _ =>
    (failoverReadiness s.cluster e.now).blockers = [] →
      (failoverReadiness s.cluster e.now).dhcpManaged = true →
        ∃ source, leaseNodes s.cluster = .ok (source, target)
  | .advanceFailover => ∀ r, activeFailover s.cluster = some r →
    AdvanceKeepsLeases s.cluster (s.cluster.failoverRun r) e.now
  | _ => True

/-! ### Starting -/

section Starting

variable {c : HACluster} {now : DateTime} {answer : LeaseAnswer}

theorem inspectClusterLeases_eq_ok {plan : LeasePlan}
    (h : inspectClusterLeases c answer = .ok plan) :
    leaseNodes c = .ok (plan.sourceId, plan.targetId) := by
  unfold inspectClusterLeases at h
  rcases hprep : prepareLeaseInspection c with message | inputs <;> rw [hprep] at h
  · cases h
  · obtain ⟨hsrc, htgt, -⟩ := inspectLeasePlan_eq_ok h
    rw [hsrc, htgt]
    exact (prepareLeaseInspection_eq_ok hprep).1

/-- Replication that is current right after a capture goes where the capture found it going. -/
theorem captured_target {source target : NodeId} {state : HALeaseReplicationState}
    (hnodes : leaseNodes c = .ok (source, target))
    (hst : (captured c true answer now).leaseReplication = some state)
    (hcur : state.status = .current) : state.targetNodeId = some target := by
  obtain ⟨written, snapshots, hview, hwrite⟩ :=
    persistLeasePlan_write c now (inspectClusterLeases c answer)
  obtain rfl : written = state := some.inj ((congrArg Prod.fst hview).symm.trans hst)
  rcases hplan : inspectClusterLeases c answer with message | plan <;> rw [hplan] at hwrite
  · cases hwrite
    cases hcur
  · have htgt : plan.targetId = target := by
      have hok := (inspectClusterLeases_eq_ok hplan).symm.trans hnodes
      cases hok
      rfl
    rw [← htgt]
    cases hwrite with
    | inapplicable => cases hcur
    | reused => rfl
    | captured => cases hcur

/-- A cluster that is ready to hand over DHCP has current leases. -/
theorem leases_current_of_ready (hrdy : (failoverReadiness c now).blockers = [])
    (hman : (failoverReadiness c now).dhcpManaged = true) :
    ∃ state, c.leaseReplication = some state ∧ state.status = .current := by
  have hlease := (readyToStart_of_blockers hrdy).lease
  have hrow : c.leaseReplication.any (·.status ≠ .notApplicable) = true := hman
  obtain ⟨state, hst, happlies⟩ := any_eq_true _ _ |>.1 hrow
  refine ⟨state, hst, ?_⟩
  unfold dhcpBlockers at hlease
  rw [hst] at hlease
  dsimp only at hlease
  rw [if_pos (of_decide_eq_true happlies)] at hlease
  by_contra hnot
  rw [if_pos (.inl hnot)] at hlease
  simp at hlease

end Starting

/-! ### Whole runs -/

/-- Every failover run has what it has frozen. -/
def FrozenRuns (s : Sys) : Prop :=
  ∀ r ∈ s.cluster.failoverRuns.ids,
    FrozenLeases (piholeManagesDhcp s.cluster) (desiredOf (leaseView s.cluster)) s.staged
      (s.cluster.failoverRun r)

section Steps

variable {s : Sys} {e : Event} {run : HAFailoverRun} {managesDhcp : Bool} {desired : ℕ}
  {staged : NodeId → ℕ} {r : RunId}

/-- Only a staging changes what the agents hold. -/
theorem step_staged (s : Sys) (e : Event) :
    (step s e).staged = s.staged ∨
      ∃ n generation, e.action = .stage n ∧ s.download n = some generation ∧
        (step s e).cluster = s.cluster ∧
        (step s e).staged = fun k ↦ if k = n then generation else s.staged k := by
  obtain ⟨now, a⟩ := e
  cases a with
  | stage n =>
    rcases hdown : s.download n with - | generation
    · left
      simp only [step, environmentStep, hdown]
    · right
      refine ⟨n, generation, rfl, hdown, rfl, ?_⟩
      simp only [step, environmentStep, hdown]
  | prepareLeaseInspection =>
    left
    simp only [step, environmentStep]
    split
    · rfl
    · rfl
  | download n generation =>
    left
    simp only [step, environmentStep]
    split
    · rfl
    · rfl
  | _ => exact .inl rfl

/-- The snapshot of current replication is held by the node it goes to. -/
theorem LeaseInvariant.held_of_current (h : LeaseInvariant s) {state : HALeaseReplicationState}
    {n : NodeId} (hst : s.cluster.leaseReplication = some state)
    (hcur : state.status = .current) (htgt : state.targetNodeId = some n) :
    1 ≤ desiredOf (leaseView s.cluster) ∧ desiredOf (leaseView s.cluster) ≤ s.staged n := by
  obtain ⟨snapshot, hmem, hgen, hassigned, hstg, -⟩ :=
    h.columns.replicated state hst (.inr hcur)
  have hheld := h.columns.held snapshot hmem (hstg hcur)
  have hpos := h.columns.positive snapshot hmem
  have hnode : snapshot.targetNodeId = n := some.inj (hassigned.symm.trans htgt)
  have hdes : desiredOf (leaseView s.cluster) = state.desiredGeneration := by
    simp only [desiredOf, leaseView, hst, elim_some]
  rw [hnode, hgen] at hheld
  rw [hgen] at hpos
  rw [hdes]
  exact ⟨hpos, hheld⟩

/-- A generation has been captured on a cluster that is ready to hand over DHCP. -/
theorem LeaseInvariant.desired_pos (h : LeaseInvariant s)
    (hrdy : (failoverReadiness s.cluster e.now).blockers = [])
    (hman : (failoverReadiness s.cluster e.now).dhcpManaged = true) :
    1 ≤ desiredOf (leaseView s.cluster) := by
  obtain ⟨state, hst, hcur⟩ := leases_current_of_ready hrdy hman
  obtain ⟨snapshot, -, -, htgt, -⟩ := h.columns.replicated state hst (.inr hcur)
  exact (h.held_of_current hst hcur htgt).1

/-- A run that is not on its way has nothing frozen. -/
theorem FrozenLeases.of_not_forward (h : run.phase.isForward = false) :
    FrozenLeases managesDhcp desired staged run := by
  refine ⟨fun hfwd ↦ ?_, fun hfwd ↦ ?_, fun hfwd ↦ ?_⟩ <;>
    exact absurd (h.symm.trans hfwd) (by decide)

theorem FailoverMove.not_forward_run {c : HACluster} {now : DateTime} {run' : HAFailoverRun}
    (h : Relation.ReflTransGen (FailoverMove c now) run run')
    (hrun : run.phase.isForward = false) : run'.phase.isForward = false := by
  induction h with
  | refl => exact hrun
  | tail _ hlast ih =>
    by_contra hfwd
    rw [Bool.not_eq_false] at hfwd
    exact absurd (ih.symm.trans (hlast.forward hfwd).1) (by decide)

/-- A rolled-back run was not on its way any more. -/
theorem FrozenLeases.not_forward_of_rollback {c : HACluster}
    (h : FrozenLeases managesDhcp desired staged (c.failoverRun r))
    (hstat : (c.failoverRun r).status = .failedSafe ∨
      recoverUnhealthyActive c (c.failoverRun r) = true) :
    (c.failoverRun r).phase.isForward = false := by
  by_contra hfwd
  rw [Bool.not_eq_false] at hfwd
  have hrunning := h.running hfwd
  rcases hstat with hstat | hrecover
  · exact absurd (hrunning.symm.trans hstat) (by decide)
  · simp only [recoverUnhealthyActive, decide_eq_true_eq] at hrecover
    exact absurd (hrunning.symm.trans hrecover.1) (by decide)

/-- A new run freezes the latest generation, and starts past the wait only if its target holds it. -/
theorem FrozenLeases.create {source target : NodeId} {answer : LeaseAnswer}
    (hlease : LeaseInvariant s) (hlease' : LeaseInvariant (step s e))
    (hrdy : (failoverReadiness s.cluster e.now).blockers = [])
    (hview : leaseView (step s e).cluster = leaseView
      (captured s.cluster (failoverReadiness s.cluster e.now).dhcpManaged answer e.now))
    (hnew : NewRun (captured s.cluster (failoverReadiness s.cluster e.now).dhcpManaged answer e.now)
      source target (failoverReadiness s.cluster e.now).dhcpManaged e.now run)
    (hnodes : (failoverReadiness s.cluster e.now).dhcpManaged = true →
      ∃ source, leaseNodes s.cluster = .ok (source, target))
    (hdes : desiredOf (leaseView s.cluster) ≤ desiredOf (leaseView (step s e).cluster))
    (hstg : (step s e).staged = s.staged) (managesDhcp : Bool) :
    FrozenLeases managesDhcp (desiredOf (leaseView (step s e).cluster)) s.staged run := by
  have hfrozen : run.leaseGeneration = desiredOf (leaseView (step s e).cluster) := by
    rw [hnew.leaseGeneration, hview]
    rfl
  have hle := hlease'.agents.staged run.targetNodeId
  rw [hstg] at hle
  refine ⟨fun _ ↦ hnew.status, fun _ hman ↦ ?_, fun _ hdns ↦ ?_⟩
  · rw [hnew.managed] at hman
    have hpos := (hlease.desired_pos hrdy hman).trans hdes
    rw [hfrozen]
    refine ⟨hpos, le_rfl, hle, fun hph ↦ le_antisymm hle ?_⟩
    -- Past the wait: the capture found the snapshot staged, by the node it goes to.
    obtain ⟨state, snapshots, hpersist, -⟩ :=
      persistLeasePlan_write s.cluster e.now (inspectClusterLeases s.cluster answer)
    rw [hman] at hview hnew
    have hcapt : (captured s.cluster true answer e.now).leaseReplication = some state :=
      congrArg Prod.fst hpersist
    have hst : (step s e).cluster.leaseReplication = some state :=
      (congrArg Prod.fst hview).trans hcapt
    have hcur : state.status = .current := by
      by_contra hnot
      rw [hnew.phase, startPhase, hcapt, if_pos ⟨rfl, decide_eq_true hnot⟩] at hph
      exact hph rfl
    obtain ⟨origin, hdirection⟩ := hnodes hman
    have htgt := captured_target hdirection hcapt hcur
    have hheld := (hlease'.held_of_current hst hcur htgt).2
    rw [hstg, ← hnew.target] at hheld
    exact hheld
  · left
    rw [hnew.phase, startPhase]
    rw [hnew.managed] at hdns
    simp [hdns]

/-- The rows after a step, measured by what the agents held before it. -/
theorem FrozenRuns.rows (h : FrozenRuns s) (hlease : LeaseInvariant s)
    (hok : KeepsFrozenLeases s e) (hr : r ∈ (step s e).cluster.failoverRuns.ids) :
    FrozenLeases (piholeManagesDhcp s.cluster) (desiredOf (leaseView (step s e).cluster)) s.staged
      ((step s e).cluster.failoverRun r) := by
  have hdes := (hlease.columns_step (e := e)).2
  have hsame (hruns : (step s e).cluster.failoverRuns = s.cluster.failoverRuns) :
      FrozenLeases (piholeManagesDhcp s.cluster) (desiredOf (leaseView (step s e).cluster)) s.staged
        ((step s e).cluster.failoverRun r) := by
    rw [hruns] at hr
    rw [HACluster.failoverRun, hruns]
    exact (h r hr).mono hdes
  have hmoved {j : RunId} (hmoves : RowMoves s.cluster e.now j (step s e).cluster)
      (hrow : FrozenLeases (piholeManagesDhcp s.cluster) (desiredOf (leaseView s.cluster)) s.staged
        ((step s e).cluster.failoverRun j)) :
      FrozenLeases (piholeManagesDhcp s.cluster) (desiredOf (leaseView (step s e).cluster)) s.staged
        ((step s e).cluster.failoverRun r) := by
    refine FrozenLeases.mono ?_ hdes
    by_cases hjr : r = j
    · rw [hjr]
      exact hrow
    · rw [hmoves.others r hjr]
      exact h r (hmoves.ids ▸ hr)
  cases step_kind s e with
  | idle hruns => exact hsame hruns
  | maintenance _ hmoves => exact hsame hmoves.failover
  | maintenanceStarted hstart => exact hsame hstart.failover
  | advanced j ha hj hmoves =>
    unfold KeepsFrozenLeases at hok
    rw [ha] at hok
    have hkeeps := hok j hj
    refine hmoved hmoves ((h j (Table.newest?_eq_some hj).1).moves hmoves.moves ?_ hkeeps.repair)
    intro hph state hst hcur hgen
    have htgt := hkeeps.wait hph state hst hcur hgen
    exact (hlease.held_of_current hst hcur htgt).2
  | reported j hrow hj hmoves =>
    -- A result ends neither the wait nor the verification of a DNS-only run.
    obtain ⟨hmem, hlive⟩ := Table.newest?_eq_some hj
    obtain ⟨phase, hph, hrow⟩ := hrow
    refine hmoved hmoves ?_
    rw [hrow]
    refine (h j hmem).move (.reported hlive hph) (fun hwaiting ↦ ?_) fun _ hverifying ↦ ?_
    · rw [hwaiting] at hph
      cases hph
    · rw [hverifying] at hph
      cases hph
  | rollback j acknowledged _ hj hacc =>
    -- A run that may be rolled back has left the forward phases, and does not return to them.
    have hmoves := requestFailoverRollback_moves hacc
    have hstopped := (h j hj).not_forward_of_rollback (requestFailoverRollback_guard hacc).2
    exact hmoved hmoves.rows (.of_not_forward (FailoverMove.not_forward_run hmoves.moves hstopped))
  | created source target _ _ _ answer ha _ hrdy _ _ hc' =>
    rcases created_row hc' hr with ⟨hold, hrow⟩ | hnew
    · rw [hrow]
      exact (h r hold).mono hdes
    · unfold KeepsFrozenLeases at hok
      rw [ha] at hok
      have hstg : (step s e).staged = s.staged := by
        rcases step_staged s e with hsame | ⟨n, _, hstage, -⟩
        · exact hsame
        · rw [ha] at hstage
          cases hstage
      have hview : leaseView (step s e).cluster = leaseView
          (captured s.cluster (failoverReadiness s.cluster e.now).dhcpManaged answer e.now) := by
        rw [hc']
        exact leaseView_of_failoverFrame (createFailoverRun_frame _ _ _ _ _)
      exact .create hlease (hlease.step e) hrdy hview hnew (hok hrdy) hdes hstg _

/-- **One step.** -/
theorem FrozenRuns.step (h : FrozenRuns s) (hlease : LeaseInvariant s)
    (hok : KeepsFrozenLeases s e) : FrozenRuns (step s e) := by
  intro r hr
  have hrow := h.rows hlease hok hr
  rw [step_piholeManagesDhcp]
  rcases step_staged s e with hsame | ⟨n, generation, ha, hdown, hclus, hstg⟩
  · rw [hsame]
    exact hrow
  · unfold KeepsFrozenLeases at hok
    rw [ha] at hok
    rw [hclus] at hr hrow ⊢
    rw [hstg]
    by_cases htgt : (s.cluster.failoverRun r).targetNodeId = n
    · refine hrow.stage ?_ fun hrunning hman _ ↦ ?_
      · rw [if_pos htgt, htgt]
        exact (hlease.agents.downloads n generation hdown).2
      · rw [if_pos htgt]
        exact hok generation hdown r hr hrunning hman htgt
    · refine hrow.stage ?_ fun _ _ hle ↦ ?_
      · rw [if_neg htgt]
      · rw [if_neg htgt]
        exact hle

end Steps

/-- Every state of such a run. -/
theorem frozenRuns {s : Sys} (hs : haMachine.ReachableBy KeepsFrozenLeases s) : FrozenRuns s := by
  induction hs with
  | start hinit =>
    intro r hr
    rw [hinit.failoverRuns] at hr
    exact absurd hr List.not_mem_nil
  | next e hs he ih => exact ih.step (leaseInvariant hs) he

/-- **Every run.** If every step keeps the frozen leases, a target that is told to take DHCP over
holds exactly the snapshot it is told to start from, so the helper's check passes. -/
theorem promotion_finds_frozen_leases {s : Sys} (hs : haMachine.ReachableBy KeepsFrozenLeases s)
    {n : NodeId} {now : DateTime} {a : DhcpAction}
    (hoffer : desiredFailoverAction s.cluster n now = some a) (htype : a.actionType = .promote)
    (hfwd : a.restoreOriginal = false) :
    s.staged n = a.leaseGeneration ∧ leaseLinesCheck (s.staged n) a.leaseGeneration = .ok () := by
  obtain ⟨r, hr, hact, ha, -⟩ := desiredFailoverAction_eq_some hoffer
  have hfrozen := frozenRuns hs r (Table.newest?_eq_some hr).1
  rw [htype, hfwd] at hact
  obtain ⟨hph, rfl⟩ : (s.cluster.failoverRun r).phase = .promotingTarget ∧
      n = (s.cluster.failoverRun r).targetNodeId := by
    rcases phaseAction_eq_some hact with ⟨-, -, h, -⟩ | ⟨hph, hn, -, -⟩ | ⟨-, -, h, -⟩ |
      ⟨-, -, -, h⟩
    · cases h
    · exact ⟨hph, hn⟩
    · cases h
    · cases h
  have hgen : a.leaseGeneration = (s.cluster.failoverRun r).leaseGeneration := by
    rw [ha]
    rfl
  have hon : (s.cluster.failoverRun r).phase.isForward = true := by
    rw [hph]
    rfl
  have hman : (s.cluster.failoverRun r).dhcpManaged = true := by
    by_contra hdns
    rw [Bool.not_eq_true] at hdns
    have hstopped := hfrozen.dnsOnly hon hdns
    rw [hph] at hstopped
    rcases hstopped with h | ⟨h, -⟩ <;> cases h
  obtain ⟨hpos, -, -, hheld⟩ := hfrozen.generation hon hman
  have hstg := hheld (by rw [hph]; exact nofun)
  rw [hgen, hstg]
  refine ⟨rfl, ?_⟩
  rw [leaseLinesCheck, if_neg (by omega), if_neg (not_not.2 rfl)]

/-- The engine's own run that is past the wait and manages DHCP meets the condition. -/
theorem AdvanceKeepsLeases.of_managed (hph : run.phase ≠ .waitingForLeases)
    (hman : run.dhcpManaged = true) : AdvanceKeepsLeases c run now :=
  ⟨fun hwaiting ↦ absurd hwaiting hph, fun hdns ↦ absurd (hman.symm.trans hdns) (by decide)⟩

/-- The sample handover keeps its leases: the second node is promoted on the snapshot it holds. -/
theorem promotion_finds_frozen_leases_sample :
    (haMachine.run sampleSys samplePromotingRun).staged 2 = 1 ∧
      leaseLinesCheck ((haMachine.run sampleSys samplePromotingRun).staged 2) 1 = .ok () := by
  have hadmissible : haMachine.Admissible KeepsFrozenLeases sampleSys samplePromotingRun := by
    refine ⟨trivial, trivial, ?_, trivial, ?_, trivial, trivial, ?_, trivial, trivial, ?_, trivial⟩
    · intro _ _ r hr
      cases hr
    · intro _ _
      exact ⟨1, by decide +kernel⟩
    · intro r hr
      obtain rfl : 1 = r := some.inj ((by decide +kernel : some 1 = _).trans hr)
      exact .of_managed (by decide +kernel) (by decide +kernel)
    · intro r hr
      obtain rfl : 1 = r := some.inj ((by decide +kernel : some 1 = _).trans hr)
      exact .of_managed (by decide +kernel) (by decide +kernel)
  have hoffer : desiredFailoverAction (haMachine.run sampleSys samplePromotingRun).cluster 2 0 =
      some ⟨.failover 1 .promote 2, .promote, 2, .failoverAction .promote 1 2 2, 1, false, false,
        false⟩ := by
    decide +kernel
  exact promotion_finds_frozen_leases (.run (.start sampleSys_initial) hadmissible) hoffer rfl rfl

/-- The leases change right after the start, before the first node has given DHCP up, and the second
node stages them. -/
def restagedRun : List Event :=
  sampleStartedRun ++ [⟨0, .reconcileClusterLeases (.ok (some []))⟩, ⟨0, .download 2 2⟩,
    ⟨0, .stage 2⟩, ⟨0, .actionResult 2 (sampleStaged 2 [])⟩,
    ⟨0, .actionResult 1 (sampleApplied .demote 1 2)⟩,
    ⟨0, .heartbeat 1 (sampleHeartbeat true false 0)⟩, ⟨0, .advanceFailover⟩,
    ⟨0, .observe 1 (sampleNode "first" false false 0 0)⟩,
    ⟨0, .observe 2 (sampleNode "second" true false 2 0)⟩, ⟨0, .advanceFailover⟩]

/-- The second node is told to start from generation 1, and holds generation 2. -/
theorem promotion_on_overwritten_leases :
    haMachine.Reachable (haMachine.run sampleSys restagedRun) ∧
    (∃ a, desiredFailoverAction (haMachine.run sampleSys restagedRun).cluster 2 0 = some a ∧
      a.actionType = .promote ∧ a.restoreOriginal = false ∧ a.leaseGeneration = 1) ∧
    (haMachine.run sampleSys restagedRun).staged 2 = 2 ∧
    leaseLinesCheck ((haMachine.run sampleSys restagedRun).staged 2) 1 =
      .error "The staged lease generation is not current." := by
  refine ⟨sampleSys_reachable _, ⟨⟨.failover 1 .promote 2, .promote, 2,
    .failoverAction .promote 1 2 2, 1, false, false, false⟩, by decide +kernel, rfl, rfl, rfl⟩,
    by decide +kernel, by decide +kernel⟩

end Kaya.HA
