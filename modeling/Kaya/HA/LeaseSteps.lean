import Kaya.HA.SystemSteps

/-!
# What a step does to lease replication

The lease columns are written by two things only: a plan that is persisted, and an accepted staging
result. `LeaseChange` is the inversion (`step_leaseChange`), and `LeaseWrite` lists what persisting a
plan can write.

A plan is made from what the Pi-hole answered. Which answer a unit of work consults is
`Event.leaseAnswer`: a failover that is started consults one for its final capture when the cluster
is ready and manages DHCP, a reinitialisation in its staging phase.
-/

namespace Kaya.HA

/-- The lease columns of a cluster. -/
def leaseView (c : HACluster) : Option HALeaseReplicationState × List HALeaseSnapshot :=
  (c.leaseReplication, c.leaseSnapshots)

/-- The lease inspection a unit of work consults, if any. -/
def Event.leaseAnswer (s : Sys) (e : Event) : Option LeaseAnswer :=
  match e.action with
  | .reconcileClusterLeases answer => some answer
  | .persistLeaseInspection inputs answer => if inputs ∈ s.inspections then some answer else none
  | .startControlledFailover _ _ _ _ answer =>
    if (failoverReadiness s.cluster e.now).blockers = [] ∧
        (failoverReadiness s.cluster e.now).dhcpManaged then some answer
    else none
  | .advanceReinitialisation m inputs =>
    if (s.cluster.maintenanceRun m).phase = .stagingDhcp then some inputs.leases else none
  | _ => none

/-! ### Persisting a plan -/

/-- What persisting a plan writes: the state row and the snapshots. -/
inductive LeaseWrite (c : HACluster) (now : DateTime) :
    Except String LeasePlan → HALeaseReplicationState → List HALeaseSnapshot → Prop
  /-- The inspection failed. -/
  | blocked (message : String) :
      LeaseWrite c now (.error message) (blockedState c now message) c.leaseSnapshots
  /-- DHCP is disabled on the authority. -/
  | inapplicable {plan : LeasePlan} (happl : plan.applicable = false) :
      LeaseWrite c now (.ok plan) (inapplicableState c now plan) c.leaseSnapshots
  /-- The latest snapshot already holds these leases. -/
  | reused {plan : LeasePlan} {snapshot : HALeaseSnapshot} (happl : plan.applicable = true)
      (hlatest : latestSnapshot c = some snapshot)
      (hsum : snapshot.checksum = .leasePayload plan.sourceId plan.leases)
      (hstat : snapshot.status ≠ .failed) :
      LeaseWrite c now (.ok plan)
        { capturedState c now plan with
          status := if snapshot.status = .staged then .current else .pending } c.leaseSnapshots
  /-- A new snapshot is captured. -/
  | captured {plan : LeasePlan} (happl : plan.applicable = true) :
      LeaseWrite c now (.ok plan)
        { capturedState c now plan with
          desiredGeneration := nextLeaseGeneration c, status := .pending }
        (c.leaseSnapshots ++ [planSnapshot c plan])

variable {c c' : HACluster} {n : NodeId} {now : DateTime}
  {acknowledged : Bool} {result : HAAgentActionResult}

theorem reusableSnapshot_eq_some {plan : LeasePlan} {status : SnapshotStatus}
    (h : reusableSnapshot c plan = some status) :
    ∃ snapshot, latestSnapshot c = some snapshot ∧
      snapshot.checksum = .leasePayload plan.sourceId plan.leases ∧ snapshot.status ≠ .failed ∧
      snapshot.status = status := by
  obtain ⟨snapshot, hlatest, hmatch⟩ := Option.bind_eq_some_iff.1 h
  split at hmatch <;> rename_i hreusable
  · cases hmatch
    exact ⟨snapshot, hlatest, hreusable.1, hreusable.2, rfl⟩
  · cases hmatch

/-- Every persisted plan writes in one of the four ways. -/
theorem persistLeasePlan_write (c : HACluster) (now : DateTime) (plan : Except String LeasePlan) :
    ∃ state snapshots, leaseView (persistLeasePlan c now plan).1 = (some state, snapshots) ∧
      LeaseWrite c now plan state snapshots := by
  unfold persistLeasePlan
  split
  · exact ⟨_, _, rfl, .blocked _⟩
  split <;> rename_i happl
  · exact ⟨_, _, rfl, .inapplicable (by simpa using happl)⟩
  have hyes := by simpa using happl
  dsimp only
  split <;> rename_i hreuse
  · obtain ⟨snapshot, hlatest, hsum, hfailed, hstat⟩ := reusableSnapshot_eq_some hreuse
    refine ⟨_, _, rfl, ?_⟩
    have hwrite : LeaseWrite c now (.ok _) _ _ := .reused hyes hlatest hsum hfailed
    rw [if_pos hstat] at hwrite
    exact hwrite
  · rename_i status hother
    obtain ⟨snapshot, hlatest, hsum, hfailed, hstat⟩ := reusableSnapshot_eq_some hreuse
    refine ⟨_, _, rfl, ?_⟩
    have hwrite : LeaseWrite c now (.ok _) _ _ := .reused hyes hlatest hsum hfailed
    rw [if_neg (by rw [hstat]; exact hother)] at hwrite
    exact hwrite
  · exact ⟨_, _, rfl, .captured hyes⟩

/-! ### Staging results -/

/-- What an accepted staging result writes. -/
theorem recordLeaseStageResult_eq_ok {generation : ℕ}
    {checksum : Option Digest} {status : ResultStatus} {message : String}
    (h : recordLeaseStageResult c n generation checksum status message = .ok c') :
    ∃ state snapshot, c.leaseReplication = some state ∧ state.targetNodeId = some n ∧
      state.desiredGeneration = generation ∧ snapshotAt c generation = some snapshot ∧
      ((status = .applied ∧ leaseView c' =
          (some { state with
            status := .current, appliedGeneration := generation, differenceCount := 0
            lastErrorRedacted := none }, (setSnapshotStatus c generation .staged).leaseSnapshots)) ∨
        (status = .failed ∧ leaseView c' =
          (some { state with
            status := .error, lastErrorRedacted := some (PyText.take 1000 message) },
          (setSnapshotStatus c generation .failed).leaseSnapshots))) := by
  unfold recordLeaseStageResult at h
  split at h <;> rename_i hst
  · cases h
  split at h <;> rename_i hassigned
  · cases h
  rw [not_or, not_not, not_not] at hassigned
  split at h <;> rename_i hsnap
  · cases h
  refine ⟨_, _, hst, hassigned.1, hassigned.2, hsnap, ?_⟩
  split at h
  · split at h
    · cases h
    · cases h
      exact .inl ⟨rfl, rfl⟩
  · cases h
    exact .inr ⟨rfl, rfl⟩

/-! ### Maintenance and leases -/

section Maintenance

variable {c c' : HACluster} {m : RunId} {now : DateTime} {inputs : ReinitialisationInputs}

theorem evaluateRecovery_leaseView (c : HACluster) :
    leaseView (evaluateRecovery c) = leaseView c := by
  unfold evaluateRecovery
  split
  · rfl
  · rfl

theorem reconcileClusterState_leaseView {stalled : StalledRecovery} :
    leaseView (reconcileClusterState c m stalled now) = leaseView c := by
  unfold reconcileClusterState
  dsimp only
  split
  · rfl
  split
  · rfl
  · refine Eq.trans (evaluateRecovery_leaseView _) ?_
    unfold correctStoredState
    dsimp only
    split
    · rfl
    · rfl

theorem advanceDhcpSelfHeal_leaseView : leaseView (advanceDhcpSelfHeal c m now) = leaseView c := by
  obtain ⟨runs, mode, status, hwrit⟩ := @advanceDhcpSelfHeal_writes c m now
  rw [hwrit]
  rfl

theorem recordMaintenanceActionResult_leaseView {n : NodeId} {action : DhcpActionType}
    {generation : ℕ} {checksum : Option Digest} {status : ResultStatus} {message : String}
    (h : recordMaintenanceActionResult c n action generation checksum status message now =
      .ok c') : leaseView c' = leaseView c := by
  obtain ⟨runs, clusterStatus, rfl⟩ := recordMaintenanceActionResult_writes h
  rfl

theorem stageDhcp_leaseView :
    leaseView (stageDhcp c m inputs now) =
      leaseView (persistLeasePlan c now (inspectClusterLeases c inputs.leases)).1 := by
  unfold stageDhcp reconcileClusterLeases
  split <;> rename_i hpersist <;> rw [hpersist]
  · rfl
  split
  · rfl
  · rfl

/-- Outside its staging phase a reinitialisation leaves the leases alone. -/
theorem reinitialisationPhase_leaseView {target standby : NodeId}
    (hph : (c.maintenanceRun m).phase ≠ .stagingDhcp) :
    leaseView (reinitialisationPhase c m target standby inputs now) = leaseView c := by
  unfold reinitialisationPhase
  split <;> rename_i hcase
  · unfold awaitReports
    dsimp only
    split
    · rfl
    split
    · rfl
    · rfl
  · unfold backUp
    dsimp only
    split
    · rfl
    · rfl
    · rfl
  · unfold synchronise
    split
    · rfl
    · rfl
  · exact absurd hcase hph
  · split
    · rfl
    · rfl
  · split
    · rfl
    · rfl
  · unfold verifyDhcpRelease
    split
    · rfl
    split
    · rfl
    · rfl
  · rfl
  · unfold awaitRebuild
    dsimp only
    split
    · rfl
    split
    · rfl
    split
    · split
      · rfl
      · rfl
    split
    · rfl
    · rfl
  · unfold verifyDhcpActivation
    dsimp only
    split
    · rfl
    split
    · rfl
    · rfl
  · unfold verifyInvariants
    split
    · rfl
    split
    · rfl
    · rfl
  · rfl

theorem advanceReinitialisation_leaseView {processStartedAt : DateTime} :
    leaseView (advanceReinitialisation c m inputs processStartedAt now) = leaseView c ∨
      ((c.maintenanceRun m).phase = .stagingDhcp ∧
        leaseView (advanceReinitialisation c m inputs processStartedAt now) =
          leaseView (persistLeasePlan c now (inspectClusterLeases c inputs.leases)).1) := by
  unfold advanceReinitialisation
  dsimp only
  split
  · exact .inl rfl
  split
  · exact .inl rfl
  split
  · exact .inl rfl
  split
  · exact .inl rfl
  by_cases hph : (c.maintenanceRun m).phase = .stagingDhcp
  · refine .inr ⟨hph, ?_⟩
    unfold reinitialisationPhase
    rw [hph]
    exact stageDhcp_leaseView
  · exact .inl (reinitialisationPhase_leaseView hph)

end Maintenance

/-! ### Steps -/

/-- A plan that a unit of work may persist: made on the spot, or prepared before. -/
def PlanOf (s : Sys) (answer : LeaseAnswer) (plan : Except String LeasePlan) : Prop :=
  plan = inspectClusterLeases s.cluster answer ∨
    ∃ inputs ∈ s.inspections, plan = inspectLeasePlan inputs answer

/-- What a unit of work does to the lease columns. -/
inductive LeaseChange (s : Sys) (e : Event) : Prop
  /-- Nothing. -/
  | unchanged (hview : leaseView (step s e).cluster = leaseView s.cluster)
  /-- It persists a plan. -/
  | persisted {answer : LeaseAnswer} {plan : Except String LeasePlan}
      (hanswer : e.leaseAnswer s = some answer) (hplan : PlanOf s answer plan)
      (hview : leaseView (step s e).cluster = leaseView (persistLeasePlan s.cluster e.now plan).1)
  /-- It accepts a staging result for the offered snapshot. -/
  | reported {n : NodeId} {result : HAAgentActionResult} {offered : LeaseAction} {c' : HACluster}
      (hact : e.action = .actionResult n result)
      (hstg : result.status = .applied → (n, result.generation) ∈ s.reports)
      (hoffer : desiredLeaseAction s.cluster n = some offered)
      (hgen : result.generation = offered.generation)
      (hok : recordLeaseStageResult s.cluster n result.generation result.checksum result.status
        result.message = .ok c')
      (hview : leaseView (step s e).cluster = leaseView c')

theorem leaseView_of_ownershipFrame (h : ownershipFrame c' = ownershipFrame c) :
    leaseView c' = leaseView c := by
  have hview := congrArg leaseView h
  exact hview

theorem leaseView_of_failoverFrame (h : failoverFrame c' = failoverFrame c) :
    leaseView c' = leaseView c := by
  have hview := congrArg leaseView h
  exact hview

theorem startDhcpSelfHeal_leaseView {forceRetry : Bool} :
    leaseView (startDhcpSelfHeal c forceRetry now) = leaseView c := by
  obtain ⟨runs, mode, hwrit⟩ := @startDhcpSelfHeal_writes c now forceRetry
  rw [hwrit]
  rfl

theorem startReconciliation_leaseView
    (h : startReconciliation c now = .ok c') : leaseView c' = leaseView c := by
  obtain ⟨-, -, rfl⟩ := startReconciliation_eq_ok h
  rfl

theorem startReinitialisation_leaseView {desiredActive authority : NodeId}
    (h : startReinitialisation c desiredActive authority acknowledged now = .ok c') :
    leaseView c' = leaseView c := by
  obtain ⟨-, -, -, rfl⟩ := startReinitialisation_eq_ok h
  rfl

theorem startControlledFailover_leaseView {target : NodeId} {confirmation : String}
    {failback : Except String Unit} {answer : LeaseAnswer} :
    leaseView (startControlledFailover c target confirmation acknowledged failback answer now).1 =
        leaseView c ∨
      ((failoverReadiness c now).blockers = [] ∧ (failoverReadiness c now).dhcpManaged = true ∧
        leaseView
            (startControlledFailover c target confirmation acknowledged failback answer now).1 =
          leaseView (persistLeasePlan c now (inspectClusterLeases c answer)).1) := by
  rcases startControlledFailover_cases c now target confirmation acknowledged failback
    answer with hsame | ⟨hrdy, hman, hcapt⟩ | ⟨source, -, hrdy, -, -, hcreated⟩
  · rw [hsame]
    exact .inl rfl
  · rw [hcapt]
    exact .inr ⟨hrdy, hman, rfl⟩
  · rw [hcreated, leaseView_of_failoverFrame (createFailoverRun_frame _ _ _ _ _)]
    unfold captured
    split <;> rename_i hman
    · exact .inr ⟨hrdy, hman, rfl⟩
    · exact .inl rfl

/-- Results of other types leave the leases alone. -/
theorem applyActionResult_leaseView (htype : result.actionType ≠ .leaseSnapshotStage)
    (h : applyActionResult c n result now = .ok c') : leaseView c' = leaseView c := by
  unfold applyActionResult at h
  split at h <;> rename_i hcase
  · cases h
    rfl
  · exact absurd hcase htype
  · cases h
    unfold applyKeepalivedResult
    split
    · rfl
    · dsimp only
      split
      · rfl
      · rfl
  · split at h
    · exact recordMaintenanceActionResult_leaseView h
    · obtain ⟨r, -, hmoves⟩ := recordFailoverActionResult_moves h
      exact leaseView_of_failoverFrame hmoves.frame

/-- An accepted staging result answers the offered snapshot. -/
theorem AcceptedResult.lease (h : AcceptedResult c n result now c')
    (htype : result.actionType = .leaseSnapshotStage) :
    ∃ offered c₁, desiredLeaseAction c n = some offered ∧ result.generation = offered.generation ∧
      result.actionId = offered.actionId ∧
      recordLeaseStageResult c n result.generation result.checksum result.status result.message =
        .ok c₁ ∧
      leaseView c' = leaseView c₁ := by
  obtain ⟨expected, hexp, hid, hgen, -⟩ := h.offered
  obtain ⟨c₁, happly, hstore⟩ := h.applied
  rw [htype] at hexp
  simp only [expectedAction, Except.ok.injEq, Option.map_eq_some_iff] at hexp
  obtain ⟨offered, hoffer, rfl⟩ := hexp
  have hok : recordLeaseStageResult c n result.generation result.checksum result.status
      result.message = .ok c₁ := by
    unfold applyActionResult at happly
    rw [htype] at happly
    exact happly
  exact ⟨offered, c₁, hoffer, hgen, hid, hok, by rw [hstore]; rfl⟩

/-- **Inversion.** Every step changes the leases in one of these ways. -/
theorem step_leaseChange (s : Sys) (e : Event) : LeaseChange s e := by
  obtain ⟨now, a⟩ := e
  cases a with
  | heartbeat n hb =>
    refine .unchanged ?_
    simp only [step_cluster, clusterStep]
    split
    · rfl
    · rfl
  | reconcileVipOwnership reporting =>
    exact .unchanged (leaseView_of_ownershipFrame (reconcileVipOwnership_frame _ _ _))
  | evaluateRecovery => exact .unchanged (evaluateRecovery_leaseView _)
  | actionResult n result =>
    -- A success is delivered only for a snapshot that the agent has written.
    by_cases hunstaged : unstagedReport s n result = true
    · refine .unchanged ?_
      simp only [step_cluster, clusterStep, if_pos hunstaged]
    have hstep : (step s ⟨now, .actionResult n result⟩).cluster =
        commitActionResult s.cluster n result now := by
      simp only [step_cluster, clusterStep, if_neg hunstaged]
    rcases commitActionResult_cases s.cluster n result now with hsame | hacc
    · exact .unchanged (by rw [hstep, hsame])
    by_cases htype : result.actionType = .leaseSnapshotStage
    · obtain ⟨offered, c₁, hoffer, hgen, -, hok, hview⟩ := hacc.lease htype
      refine .reported rfl (fun happ ↦ ?_) hoffer hgen hok (by rw [hstep]; exact hview)
      simpa [unstagedReport, htype, happ] using hunstaged
    · obtain ⟨c₁, happly, hstore⟩ := hacc.applied
      refine .unchanged ?_
      rw [hstep, hstore]
      exact (applyActionResult_leaseView htype happly : leaseView c₁ = leaseView s.cluster)
  | ingestEvent n event => exact .unchanged (leaseView_of_ownershipFrame (ingestEvent_frame _ _ _ _))
  | startControlledFailover target confirmation acknowledged failback answer =>
    rcases startControlledFailover_leaseView (c := s.cluster) with
      hsame | ⟨hrdy, hman, hpers⟩
    · exact .unchanged hsame
    · exact .persisted (if_pos ⟨hrdy, hman⟩) (.inl rfl) hpers
  | advanceFailover =>
    exact .unchanged (leaseView_of_failoverFrame (advanceFailover_frame s.cluster now).1)
  | requestFailoverRollback r acknowledged =>
    refine .unchanged ?_
    simp only [step_cluster, clusterStep]
    split
    · exact committed_of rfl fun c' hok ↦
        leaseView_of_failoverFrame (requestFailoverRollback_moves hok).frame
    · rfl
  | startReconciliation =>
    refine .unchanged ?_
    rw [step_cluster, clusterStep]
    exact committed_of rfl fun c' hok ↦ startReconciliation_leaseView hok
  | reconcileClusterState m stalled =>
    refine .unchanged ?_
    simp only [step_cluster, clusterStep]
    split
    · exact reconcileClusterState_leaseView
    · rfl
  | startReinitialisation =>
    refine .unchanged ?_
    rw [step_cluster, clusterStep]
    exact committed_of rfl fun c' hok ↦ startReinitialisation_leaseView hok
  | advanceReinitialisation m inputs =>
    by_cases hm : m ∈ s.cluster.maintenanceRuns.ids
    · have hstep : (step s ⟨now, .advanceReinitialisation m inputs⟩).cluster =
          advanceReinitialisation s.cluster m inputs s.processStartedAt now := by
        simp only [step_cluster, clusterStep, if_pos hm]
      rcases advanceReinitialisation_leaseView (c := s.cluster) (m := m) with
        hsame | ⟨hph, hpers⟩
      · exact .unchanged (by rw [hstep]; exact hsame)
      · refine .persisted ?_ (.inl rfl) (by rw [hstep]; exact hpers)
        simp only [Event.leaseAnswer, if_pos hph]
    · refine .unchanged ?_
      simp only [step_cluster, clusterStep, if_neg hm]
  | startDhcpSelfHeal forceRetry => exact .unchanged startDhcpSelfHeal_leaseView
  | advanceDhcpSelfHeal m =>
    refine .unchanged ?_
    simp only [step_cluster, clusterStep]
    split
    · exact advanceDhcpSelfHeal_leaseView
    · rfl
  | reconcileClusterLeases answer => exact .persisted rfl (.inl rfl) rfl
  | persistLeaseInspection inputs answer =>
    by_cases hinputs : inputs ∈ s.inspections
    · refine .persisted (if_pos hinputs) (.inr ⟨inputs, hinputs, rfl⟩) ?_
      simp only [step_cluster, clusterStep, if_pos hinputs]
    · refine .unchanged ?_
      simp only [step_cluster, clusterStep, if_neg hinputs]
  | _ => exact .unchanged rfl

end Kaya.HA
