import Kaya.HA.Invariants
import Kaya.HA.LeaseInvariants

/-!
# A cluster that manages DHCP is treated as one

Whether DHCP is managed is a setting (`piholeManagesDhcp`), but `failover_readiness` does not read
it: it takes the status of the lease-replication row, and `NOT_APPLICABLE` there means a DNS-only
handover. That status is what the last persisted inspection of the authority found, so a Pi-hole
whose DHCP is switched off for a moment — in the middle of a handover, or after a failed one —
reclassifies the cluster.

Runs in which no persisted inspection finds DHCP disabled (`FindsDhcp`) keep the law
(`treatedAsDhcp_of_findsDhcp`). The invariant is that the row, once there, never says
`NOT_APPLICABLE`: with no row at all, readiness has a blocker of its own.
-/

namespace Kaya.HA

/-- No start on this cluster hands over without the DHCP steps, and no run so far has. -/
structure TreatedAsDhcp (c : HACluster) : Prop where
  /-- A cluster reported ready is reported as managing DHCP. -/
  readiness : ∀ now, (failoverReadiness c now).blockers = [] →
    (failoverReadiness c now).dhcpManaged = true
  /-- Every run manages DHCP. -/
  runs : ∀ r ∈ c.failoverRuns.ids, (c.failoverRun r).dhcpManaged = true
  /-- A run that is started manages DHCP and begins with the leases or the demotion. -/
  started : ∀ target confirmation acknowledged failback answer now r c',
    startControlledFailover c target confirmation acknowledged failback answer now = (c', .ok r) →
      (c'.failoverRun r).dhcpManaged = true ∧
        ((c'.failoverRun r).phase = .waitingForLeases ∨ (c'.failoverRun r).phase = .demotingSource)
  /-- Starting does not move the Virtual IP. -/
  vipKept : ∀ target confirmation acknowledged failback answer now,
    (startControlledFailover c target confirmation acknowledged failback answer now).1.nodes =
      c.nodes

/-- The inspection this step consults, if any, does not find DHCP disabled on the authority. -/
def FindsDhcp (s : Sys) (e : Event) : Prop := e.leaseAnswer s ≠ some (.ok none)

section Steps

variable {c : HACluster} {now : DateTime}

theorem leaseContinuityEnabled_of_managed (h : piholeManagesDhcp c = true) :
    leaseContinuityEnabled c = true := by
  unfold piholeManagesDhcp deploymentMode at h
  unfold leaseContinuityEnabled
  rcases hmode : c.deploymentMode with - | mode
  · rfl
  · rw [hmode] at h
    obtain rfl : mode = .dnsDhcp := of_decide_eq_true h
    rfl

/-- The lease row, if there is one, does not say that DHCP is managed elsewhere. -/
def LeaseRowApplies (c : HACluster) : Prop :=
  ∀ state, c.leaseReplication = some state → state.status ≠ .notApplicable

/-- Only an inapplicable plan makes a row say so. -/
theorem LeaseWrite.status_ne {plan : Except String LeasePlan} {state : HALeaseReplicationState}
    {snapshots : List HALeaseSnapshot} (h : LeaseWrite c now plan state snapshots)
    (hplan : ∀ p, plan = .ok p → p.applicable = true) : state.status ≠ .notApplicable := by
  cases h with
  | blocked message => exact nofun
  | inapplicable happl =>
    have hyes := hplan _ rfl
    rw [happl] at hyes
    cases hyes
  | reused _ _ _ _ =>
    dsimp only
    split
    · exact nofun
    · exact nofun
  | captured _ => exact nofun

/-- **One step.** -/
theorem LeaseRowApplies.step {s : Sys} {e : Event} (h : LeaseRowApplies s.cluster)
    (hlease : LeaseInvariant s) (henab : leaseContinuityEnabled s.cluster = true)
    (hok : FindsDhcp s e) : LeaseRowApplies (step s e).cluster := by
  intro state hst
  cases step_leaseChange s e with
  | unchanged hview =>
    have hsame : (HA.step s e).cluster.leaseReplication = s.cluster.leaseReplication :=
      congrArg Prod.fst hview
    exact h state (hsame ▸ hst)
  | @persisted answer plan hanswer hplan hview =>
    obtain ⟨written, snapshots, hpersist, hwrite⟩ := persistLeasePlan_write s.cluster e.now plan
    have hrow : (HA.step s e).cluster.leaseReplication = some written :=
      congrArg Prod.fst (hview.trans hpersist)
    obtain rfl : written = state := Option.some.inj (hrow.symm.trans hst)
    refine hwrite.status_ne ?_
    -- A plan is inapplicable on a DNS-only cluster, or when the Pi-hole answers that DHCP is off.
    rintro p rfl
    obtain ⟨-, happl | hdisabled | rfl⟩ := hplan.eq_ok hlease.agents
    · exact happl
    · exact absurd (henab.symm.trans hdisabled) (by decide)
    · exact absurd hanswer hok
  | @reported n result offered c' _ _ _ _ hacc hview =>
    obtain ⟨old, -, -, -, -, -, hresult⟩ := recordLeaseStageResult_eq_ok hacc
    rcases hresult with ⟨-, hview'⟩ | ⟨-, hview'⟩
    · have hrow := congrArg Prod.fst (hview.trans hview')
      cases hrow.symm.trans hst
      exact nofun
    · have hrow := congrArg Prod.fst (hview.trans hview')
      cases hrow.symm.trans hst
      exact nofun

/-- Without a row there is a blocker, and with one its status decides. -/
theorem readiness_managed (h : LeaseRowApplies c)
    (hrdy : (failoverReadiness c now).blockers = []) :
    (failoverReadiness c now).dhcpManaged = true := by
  have hlease := (readyToStart_of_blockers hrdy).lease
  have hman : (failoverReadiness c now).dhcpManaged =
      c.leaseReplication.any (·.status ≠ .notApplicable) := rfl
  rcases hrow : c.leaseReplication with - | state
  · rw [dhcpBlockers, hrow] at hlease
    cases hlease
  · rw [hman, hrow]
    exact decide_eq_true (h state hrow)

/-- A managed run starts with the leases or the demotion. -/
theorem startPhase_managed (state : Option HALeaseReplicationState) :
    startPhase true state = .waitingForLeases ∨ startPhase true state = .demotingSource := by
  unfold startPhase
  split
  · exact .inl rfl
  · exact .inr rfl

/-- A managed run is created without touching the nodes. -/
theorem createFailoverRun_nodes {source target : NodeId} :
    (createFailoverRun c source target true now).1.nodes = c.nodes := by
  have hph : startPhase true c.leaseReplication ≠ .movingVip := by
    intro hmov
    rcases startPhase_managed c.leaseReplication with h | h <;> rw [h] at hmov <;> cases hmov
  unfold createFailoverRun
  dsimp only
  rw [if_neg hph]

theorem persistLeasePlan_nodes (plan : Except String LeasePlan) :
    (persistLeasePlan c now plan).1.nodes = c.nodes := by
  obtain ⟨state, snapshots, hwrit⟩ := @persistLeasePlan_writes c now plan
  rw [hwrit]

/-- A start that returns a run created it on a ready cluster. -/
theorem startControlledFailover_eq_ok {target : NodeId} {confirmation : String}
    {acknowledged : Bool} {failback : Except String Unit} {answer : LeaseAnswer} {r : RunId}
    {c' : HACluster}
    (h : startControlledFailover c target confirmation acknowledged failback answer now =
      (c', .ok r)) :
    (failoverReadiness c now).blockers = [] ∧ ∃ source, (c', r) = createFailoverRun
        (captured c (failoverReadiness c now).dhcpManaged answer now) source target
        (failoverReadiness c now).dhcpManaged now := by
  unfold startControlledFailover at h
  split at h
  · cases h
  dsimp only at h
  split at h
  · rename_i source expected hrdy _ _
    refine ⟨hrdy, source, ?_⟩
    split at h
    · cases h
    split at h
    · cases h
    -- Managed or not, the run is created from what the final capture has left.
    split at h <;> rename_i hman
    · rw [hman, captured, if_pos rfl]
      split at h <;> rename_i hcapture
      · cases h
      · cases h
        rw [hcapture]
    · rw [Bool.not_eq_true] at hman
      rw [hman]
      cases h
      rfl
  · cases h

theorem TreatedAsDhcp.of_readiness
    (hrdy : ∀ now, (failoverReadiness c now).blockers = [] →
      (failoverReadiness c now).dhcpManaged = true)
    (hruns : ∀ r ∈ c.failoverRuns.ids, (c.failoverRun r).dhcpManaged = true) : TreatedAsDhcp c := by
  refine ⟨hrdy, hruns, ?_, ?_⟩
  · intro target confirmation acknowledged failback answer now r c' hstart
    obtain ⟨hblockers, source, hcreated⟩ := startControlledFailover_eq_ok hstart
    rw [hrdy now hblockers] at hcreated
    have hnew := createFailoverRun_new (captured c true answer now) now source target true
    have hclus : c' =
        (createFailoverRun (captured c true answer now) source target true now).1 :=
      congrArg Prod.fst hcreated
    have hkey : r = (captured c true answer now).failoverRuns.freshKey :=
      congrArg Prod.snd hcreated
    rw [hclus, hkey, hnew.phase]
    exact ⟨hnew.managed, startPhase_managed _⟩
  · intro target confirmation acknowledged failback answer now
    rcases startControlledFailover_cases c now target confirmation acknowledged failback
      answer with hsame | ⟨-, -, hcapt⟩ | ⟨source, -, hblockers, -, -, hcreated⟩
    · rw [hsame]
    · rw [hcapt]
      exact persistLeasePlan_nodes _
    · rw [hcreated, hrdy now hblockers, createFailoverRun_nodes, captured, if_pos rfl]
      exact persistLeasePlan_nodes _

end Steps

/-! ### Whole runs -/

section Runs

variable {s : Sys}

/-- The row of every run whose inspections find DHCP. -/
theorem leaseRowApplies (hs : haMachine.ReachableBy FindsDhcp s)
    (hmanages : piholeManagesDhcp s.cluster = true) : LeaseRowApplies s.cluster := by
  induction hs with
  | start hinit =>
    intro state hst
    rw [hinit.leaseReplication] at hst
    cases hst
  | @next s e hs he ih =>
    have hbef : piholeManagesDhcp s.cluster = true := by
      rw [← step_piholeManagesDhcp s e]
      exact hmanages
    exact (ih hbef).step (leaseInvariant hs) (leaseContinuityEnabled_of_managed hbef) he

/-- Every failover run of such a run manages DHCP. -/
theorem managedRuns (hs : haMachine.ReachableBy FindsDhcp s)
    (hmanages : piholeManagesDhcp s.cluster = true) :
    ∀ r ∈ s.cluster.failoverRuns.ids, (s.cluster.failoverRun r).dhcpManaged = true := by
  intro r hr
  refine failoverRun_invariant
    (P := fun c run ↦ piholeManagesDhcp c = true → run.dhcpManaged = true) ?_ ?_ ?_ hs r hr hmanages
  · intro s e run h hmanages
    rw [step_piholeManagesDhcp] at hmanages
    exact h hmanages
  · intro c now run run' h hmove hmanages
    exact hmove.managed (h hmanages)
  · intro s e source target answer run hs _ hrdy _ _ hnew hmanages
    rw [hnew.managed]
    exact readiness_managed (leaseRowApplies hs hmanages) hrdy

/-- **Every run.** If no persisted inspection finds DHCP disabled on the authority, a cluster that
manages DHCP is never treated as DNS-only. -/
theorem treatedAsDhcp_of_findsDhcp (hs : haMachine.ReachableBy FindsDhcp s)
    (hmanages : piholeManagesDhcp s.cluster = true) : TreatedAsDhcp s.cluster :=
  .of_readiness (fun _ hrdy ↦ readiness_managed (leaseRowApplies hs hmanages) hrdy)
    (managedRuns hs hmanages)

end Runs

/-- The sample handover meets the condition. -/
theorem treatedAsDhcp_sample :
    TreatedAsDhcp (haMachine.run sampleSys samplePromotingRun).cluster := by
  refine treatedAsDhcp_of_findsDhcp (.run (.start sampleSys_initial) ?_) (by decide +kernel)
  refine ⟨?_, ?_, ?_, ?_, ?_, ?_, ?_, ?_, ?_, ?_, ?_, trivial⟩ <;> unfold FindsDhcp <;>
    decide +kernel

/-- DHCP is off on the authority when the leases are inspected, and a handover is started. -/
def dnsOnlyRun : List Event :=
  [⟨0, .heartbeat 1 (sampleHeartbeat true false 0)⟩, ⟨0, .reconcileClusterLeases (.ok none)⟩,
    sampleStart]

/-- The cluster manages DHCP, was reported ready without it, and the Virtual IP is on the move with
no demotion. -/
theorem dns_only_handover :
    haMachine.Reachable (haMachine.run sampleSys dnsOnlyRun) ∧
    piholeManagesDhcp (haMachine.run sampleSys dnsOnlyRun).cluster = true ∧
    (failoverReadiness (haMachine.run sampleSys (dnsOnlyRun.take 2)).cluster 0).blockers = [] ∧
    (failoverReadiness (haMachine.run sampleSys (dnsOnlyRun.take 2)).cluster 0).dhcpManaged =
      false ∧ activeFailover (haMachine.run sampleSys dnsOnlyRun).cluster = some 1 ∧
    ((haMachine.run sampleSys dnsOnlyRun).cluster.failoverRun 1).dhcpManaged = false ∧
    ((haMachine.run sampleSys dnsOnlyRun).cluster.failoverRun 1).phase = .movingVip ∧
    ¬ TreatedAsDhcp (haMachine.run sampleSys dnsOnlyRun).cluster := by
  refine ⟨sampleSys_reachable _, by decide +kernel, by decide +kernel, by decide +kernel,
    by decide +kernel, by decide +kernel, by decide +kernel, fun h ↦ ?_⟩
  exact absurd (h.runs 1 (by decide +kernel)) (by decide +kernel)

end Kaya.HA
