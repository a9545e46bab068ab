import Kaya.HA.Failover

/-!
# What a step of the failover engine can do

Two facts carry every proof about the engine.

* **The frame.** `failoverFrame` forgets the columns the engine writes. Whatever survives — the
  reports of the nodes, lease replication, maintenance runs, stored results — is the same after
  every operation (`advanceFailover_frame`, and the `frame` of every `RunMoves`). Since the
  observations are read from surviving columns only, an observation made in the middle of an
  operation is an observation of the state it started in.
* **The moves.** `FailoverMove` lists everything that can happen to the row of a run, with the guard
  under which it happens. Every operation takes a run along finitely many moves, and every other run
  nowhere.
-/

namespace Kaya.HA

/-! ### The frame -/

/-- A node row without the columns the engine writes. -/
def HANode.reports (node : HANode) : HANode :=
  { node with
    role := .standby, desiredRole := .standby, vrrpPriority := none
    keepalivedStatus := .notConfigured, keepalivedLastError := none }

/-- An empty table. -/
def noRuns {ρ : Type} (row : ρ) : Table ρ := ⟨[], fun _ ↦ row, List.nodup_nil⟩

/-- A placeholder row. -/
def blankRun : HAFailoverRun :=
  { sourceNodeId := 0, targetNodeId := 0, status := .failedSafe, phase := .failedSafe
    dhcpManaged := false, leaseGeneration := 0, roleGeneration := 0, startedAt := 0, createdAt := 0 }

/-- A cluster without the columns the engine writes. -/
def failoverFrame (c : HACluster) : HACluster :=
  { c with
    status := .draft, authoritativeNodeId := none, currentActiveNodeId := none
    maintenanceMode := false, clusterGeneration := 0, roleGeneration := 0, keepalivedGeneration := 0
    keepalivedStatus := .notConfigured
    nodes := c.nodes.map HANode.reports
    failoverRuns := noRuns blankRun }

section Frame

variable (c : HACluster) (w : Window) (n : NodeId) (now : DateTime)

@[simp] theorem failoverFrame_ids : (failoverFrame c).nodes.ids = c.nodes.ids := rfl

@[simp] theorem failoverFrame_node : (failoverFrame c).node n = (c.node n).reports := rfl

@[simp] theorem heartbeatIsFresh_reports (node : HANode) :
    heartbeatIsFresh node.reports w = heartbeatIsFresh node w := rfl

@[simp] theorem dhcpObservation_reports (node : HANode) :
    dhcpObservation node.reports w = dhcpObservation node w := rfl

@[simp] theorem freshNodes_frame : freshNodes (failoverFrame c) w = freshNodes c w := by
  simp only [freshNodes, failoverFrame_ids, failoverFrame_node, heartbeatIsFresh_reports]

@[simp] theorem vipOwners_frame : vipOwners (failoverFrame c) w = vipOwners c w := by
  simp only [vipOwners, freshNodes_frame, failoverFrame_node]
  rfl

@[simp] theorem dhcpOwners_frame : dhcpOwners (failoverFrame c) w = dhcpOwners c w := by
  simp only [dhcpOwners, freshNodes_frame, failoverFrame_node, dhcpObservation_reports]

@[simp] theorem dhcpUnknown_frame : dhcpUnknown (failoverFrame c) w = dhcpUnknown c w := by
  simp only [dhcpUnknown, freshNodes_frame, failoverFrame_node, dhcpObservation_reports]
  rfl

@[simp] theorem piholeManagesDhcp_frame :
    piholeManagesDhcp (failoverFrame c) = piholeManagesDhcp c := rfl

@[simp] theorem topologySafe_frame : topologySafe (failoverFrame c) w = topologySafe c w := by
  simp only [topologySafe, serviceOk, configurationConsistent, soleVipOwner, vipOwners_frame,
    dhcpOwners_frame, dhcpUnknown_frame, freshNodes_frame, piholeManagesDhcp_frame,
    failoverFrame_node, dhcpObservation_reports]
  rfl

theorem requestedTopologyIsVerified_frame (run : HAFailoverRun) (rolledBack : Bool) :
    requestedTopologyIsVerified (failoverFrame c) run rolledBack now =
      requestedTopologyIsVerified c run rolledBack now := by
  simp only [requestedTopologyIsVerified, reconcileTopology, vipOwners_frame, dhcpOwners_frame,
    dhcpUnknown_frame, topologySafe_frame, failoverFrame_node]
  rfl

theorem dhcpRepairIsSafe_frame (active standby : NodeId) :
    dhcpRepairIsSafe (failoverFrame c) active standby now =
      dhcpRepairIsSafe c active standby now := by
  simp only [dhcpRepairIsSafe, ReconciledTopology.fresh, reconcileTopology, freshNodes_frame,
    vipOwners_frame, dhcpOwners_frame, dhcpUnknown_frame, failoverFrame_node,
    dhcpObservation_reports]
  rfl

end Frame

/-! ### Updates the frame forgets -/

section Updates

variable (c : HACluster) (r : RunId) (now : DateTime)

@[simp] theorem frame_modifyFailover (f : HAFailoverRun → HAFailoverRun) :
    failoverFrame (c.modifyFailover r f) = failoverFrame c := rfl

@[simp] theorem frame_setFailoverPhase (phase : FailoverPhase) :
    failoverFrame (setFailoverPhase c r phase) = failoverFrame c := rfl

@[simp] theorem frame_bumpRoleGeneration :
    failoverFrame (bumpRoleGeneration c r) = failoverFrame c := rfl

@[simp] theorem frame_noteRollback (reason : String) :
    failoverFrame (noteRollback c r reason) = failoverFrame c := rfl

theorem frame_mapNodes {f : NodeId → HANode → HANode}
    (h : ∀ n node, (f n node).reports = node.reports) :
    failoverFrame (c.mapNodes f) = failoverFrame c := by
  unfold failoverFrame HACluster.mapNodes
  simp only [Table.map_mapRows c.nodes h]

@[simp] theorem frame_moveVip (target : NodeId) :
    failoverFrame (moveVip c r target now) = failoverFrame c := by
  show failoverFrame (c.mapNodes (assignNode target)) = failoverFrame c
  exact frame_mapNodes c fun _ _ ↦ rfl

@[simp] theorem frame_complete (rolledBack : Bool) :
    failoverFrame (complete c r rolledBack) = failoverFrame c := by
  show failoverFrame (c.mapNodes (completeNode _ _)) = failoverFrame c
  refine frame_mapNodes c fun n node ↦ ?_
  unfold completeNode
  split
  · rfl
  · split
    · rfl
    · rfl

end Updates

/-! ### Updates as row updates -/

section Rows

variable (c : HACluster) (r : RunId) (now : DateTime)

theorem setFailoverPhase_failoverRuns (phase : FailoverPhase) :
    (setFailoverPhase c r phase).failoverRuns =
      c.failoverRuns.modify r fun run ↦ { run with phase } := rfl

theorem safeFailure_failoverRuns (message : String) :
    (safeFailure c r message).failoverRuns = c.failoverRuns.modify r fun run ↦
      { run with
        status := .failedSafe, phase := .failedSafe
        errorRedacted := some (PyText.take 1000 message) } := rfl

theorem misclassified_failoverRuns :
    (safeFailure (c.modifyFailover r fun run ↦ { run with dhcpManaged := true }) r
        dnsOnlyGuardMessage).failoverRuns = c.failoverRuns.modify r fun run ↦
      { run with
        dhcpManaged := true, status := .failedSafe, phase := .failedSafe
        errorRedacted := some (PyText.take 1000 dnsOnlyGuardMessage) } := by
  simp only [safeFailure, HACluster.modifyFailover, Table.modify_modify]

theorem complete_failoverRuns (rolledBack : Bool) :
    (complete c r rolledBack).failoverRuns = c.failoverRuns.modify r fun run ↦
      { run with
        status := if rolledBack then .rolledBack else .succeeded
        phase := if rolledBack then .rolledBack else .complete
        errorRedacted := if rolledBack then run.errorRedacted else none } := rfl

theorem moveVip_failoverRuns (phase : FailoverPhase) (target : NodeId) :
    (moveVip (setFailoverPhase c r phase) r target now).failoverRuns =
      c.failoverRuns.modify r fun run ↦
        { run with phase, report := { run.report with vipMoveStartedAt := some now } } := by
  simp only [moveVip, setFailoverPhase, requestDeployment, HACluster.mapNodes,
    HACluster.modifyFailover, Table.modify_modify]

theorem reported_failoverRuns (phase : FailoverPhase) :
    (setFailoverPhase (markVerificationStarted c r now) r phase).failoverRuns =
      c.failoverRuns.modify r fun run ↦
        { run with phase, report := { run.report with verificationStartedAt := some now } } := by
  simp only [setFailoverPhase, markVerificationStarted, HACluster.modifyFailover,
    Table.modify_modify]

/-- A new role generation together with any further change of the row. -/
theorem bump_failoverRuns (f : HAFailoverRun → HAFailoverRun) :
    ((bumpRoleGeneration c r).modifyFailover r f).failoverRuns = c.failoverRuns.modify r fun run ↦
      f { run with roleGeneration := c.roleGeneration + 1 } :=
  Table.modify_modify ..

theorem restoreDhcp_failoverRuns (message : String) :
    (restoreDhcpAfterFailedVipMove c r message).failoverRuns = c.failoverRuns.modify r fun run ↦
      { run with
        roleGeneration := c.roleGeneration + 1, status := .rollingBack
        phase := .rollbackPromotingSource
        errorRedacted := some (PyText.take 1000 message) } := by
  simp only [restoreDhcpAfterFailedVipMove, bumpRoleGeneration, HACluster.modifyFailover,
    Table.modify_modify]

end Rows

/-! ### The moves of a run -/

/-- Everything that can happen to the row of a run, with the guard it happens under. -/
inductive FailoverMove (c : HACluster) (now : DateTime) : HAFailoverRun → HAFailoverRun → Prop
  /-- A run started as DNS-only on a cluster that manages DHCP. -/
  | misclassified {run : HAFailoverRun} (error : Option String) (hlive : run.status.isActive = true)
      (hman : run.dhcpManaged = false) (hclus : piholeManagesDhcp c = true) :
      FailoverMove c now run
        { run with
          dhcpManaged := true, status := .failedSafe, phase := .failedSafe, errorRedacted := error }
  /-- A safe failure. -/
  | failed {run : HAFailoverRun} (error : Option String) (hlive : run.status.isActive = true) :
      FailoverMove c now run
        { run with status := .failedSafe, phase := .failedSafe, errorRedacted := error }
  /-- Completion on a verified topology. -/
  | verified {run : HAFailoverRun} (rolledBack : Bool) (error : Option String)
      (hlive : run.status.isActive = true)
      (hver : requestedTopologyIsVerified c run rolledBack now = true) :
      FailoverMove c now run
        { run with
          status := if rolledBack then .rolledBack else .succeeded
          phase := if rolledBack then .rolledBack else .complete
          errorRedacted := error }
  /-- The lease snapshot has been staged. -/
  | leasesCurrent {run : HAFailoverRun} {state : HALeaseReplicationState}
      (hlive : run.status.isActive = true) (hph : run.phase = .waitingForLeases)
      (hst : c.leaseReplication = some state) (hcur : state.status = .current)
      (hgeneration : run.leaseGeneration ≤ state.appliedGeneration) :
      FailoverMove c now run { run with phase := .demotingSource }
  /-- The node that gives DHCP up has been observed to release it. -/
  | released {run : HAFailoverRun} (rolledBack : Bool) (hlive : run.status.isActive = true)
      (hph : run.phase =
        if rolledBack then .verifyingRollbackTargetRelease else .verifyingSourceDhcpRelease)
      (hrel : dhcpReleased c (run.origin rolledBack) now = true) :
      FailoverMove c now run
        { run with
          phase := if rolledBack then .rollbackMovingVip else .movingVip
          report := { run.report with vipMoveStartedAt := some now } }
  /-- One more demotion of the node that gives DHCP up. -/
  | releaseRetry {run : HAFailoverRun} (rolledBack : Bool) (generation : ℕ)
      (hlive : run.status.isActive = true)
      (hph : run.phase =
        if rolledBack then .verifyingRollbackTargetRelease else .verifyingSourceDhcpRelease)
      (hlate : seconds 45 < now - verificationStartedAt run)
      (hgeneration : c.roleGeneration < generation) :
      FailoverMove c now run
        { run with
          roleGeneration := generation
          phase := if rolledBack then .rollbackDemotingTarget else .demotingSource
          report := run.report.countRelease rolledBack }
  /-- A rollback that finds the Virtual IP where it belongs and DHCP released. -/
  | rollbackShortcut {run : HAFailoverRun} (hlive : run.status.isActive = true)
      (hph : run.phase = .rollbackDemotingTarget)
      (hrel : dhcpReleased c run.targetNodeId now = true) :
      FailoverMove c now run { run with phase := .rollbackPromotingSource }
  /-- The Virtual IP has moved. -/
  | vipMoved {run : HAFailoverRun} (rolledBack : Bool) (hlive : run.status.isActive = true)
      (hguard : run.dhcpManaged = true ∨ piholeManagesDhcp c = false)
      (hph : run.phase = if rolledBack then .rollbackMovingVip else .movingVip) :
      FailoverMove c now run
        { run with phase :=
            if rolledBack then
              if run.dhcpManaged then .rollbackPromotingSource else .rollbackVerifyingSource
            else if run.dhcpManaged then .promotingTarget else .verifyingTarget }
  /-- The Virtual IP did not move, and DHCP goes back to the node that kept it. -/
  | vipRestored {run : HAFailoverRun} (generation : ℕ) (error : Option String)
      (hlive : run.status.isActive = true) (hph : run.phase = .movingVip)
      (hrel : dhcpReleased c run.targetNodeId now = true)
      (hgeneration : c.roleGeneration < generation) :
      FailoverMove c now run
        { run with
          roleGeneration := generation, status := .rollingBack, phase := .rollbackPromotingSource
          errorRedacted := error }
  /-- One more promotion of the node that takes DHCP over. -/
  | repaired {run : HAFailoverRun} (rolledBack : Bool) (generation : ℕ)
      (hlive : run.status.isActive = true)
      (hph : run.phase = if rolledBack then .rollbackVerifyingSource else .verifyingTarget)
      (hlate : seconds 30 < now - verificationStartedAt run)
      (hrel : dhcpReleased c (run.origin rolledBack) now = true)
      (hgeneration : c.roleGeneration < generation)
      (hunverified : requestedTopologyIsVerified c run rolledBack now = false)
      (hsafe : dhcpRepairIsSafe c (run.destination rolledBack) (run.origin rolledBack) now = true) :
      FailoverMove c now run
        { run with
          roleGeneration := generation
          phase := if rolledBack then .rollbackPromotingSource else .promotingTarget
          report := run.report.countRepair rolledBack }
  /-- An agent has reported a result. -/
  | reported {run : HAFailoverRun} {phase : FailoverPhase} (hlive : run.status.isActive = true)
      (hph : run.phase.afterResult = some phase) :
      FailoverMove c now run
        { run with
          phase, report := { run.report with verificationStartedAt := some now } }
  /-- A rollback request that finds the source serving: the run is completed at once. -/
  | rollbackCompleted {run : HAFailoverRun} (generation : ℕ)
      (hstat : run.status = .failedSafe ∨ run.status = .succeeded)
      (howned : (c.node run.sourceNodeId).vipOwned = true ∧
        (c.node run.targetNodeId).vipOwned = false)
      (hserved : run.dhcpManaged = false ∨ dhcpActive c run.sourceNodeId now = true)
      (hgeneration : c.roleGeneration < generation) :
      FailoverMove c now run
        { run with roleGeneration := generation, status := .rolledBack, phase := .rolledBack }
  /-- A rollback request that finds the target's DHCP released. -/
  | rollbackDirect {run : HAFailoverRun} (generation : ℕ) (error : Option String)
      (hstat : run.status = .failedSafe ∨ run.status = .succeeded)
      (hrel : dhcpReleased c run.targetNodeId now = true)
      (hgeneration : c.roleGeneration < generation) :
      FailoverMove c now run
        { run with
          roleGeneration := generation, status := .rollingBack, phase := .rollbackPromotingSource
          errorRedacted := error }
  /-- Any other rollback request. -/
  | rollbackStarted {run : HAFailoverRun} (generation : ℕ) (error : Option String)
      (hstat : run.status = .failedSafe ∨ run.status = .succeeded)
      (hgeneration : c.roleGeneration < generation) :
      FailoverMove c now run
        { run with
          roleGeneration := generation, status := .rollingBack, phase := .rollbackDemotingTarget
          errorRedacted := error }

/-- The phases of a finished run. -/
def FailoverPhase.isFinal : FailoverPhase → Bool
  | complete | rolledBack | failedSafe => true
  | _ => false

theorem FailoverPhase.isFinal_of_afterResult {phase phase' : FailoverPhase}
    (h : phase.afterResult = some phase') : phase'.isFinal = false := by
  cases phase <;> cases h <;> rfl

variable {c : HACluster} {now : DateTime} {run run' : HAFailoverRun} {n : NodeId} {a : DhcpAction}

/-- After any move, a run is active exactly when its phase is not a final one. -/
theorem FailoverMove.isActive_eq
    (h : FailoverMove c now run run') : run'.status.isActive = !run'.phase.isFinal := by
  cases h with
  | misclassified | failed | rollbackCompleted | rollbackDirect | rollbackStarted | vipRestored =>
    rfl
  | verified rolledBack => cases rolledBack <;> rfl
  | leasesCurrent hlive | rollbackShortcut hlive => exact hlive
  | released rolledBack hlive => cases rolledBack <;> exact hlive
  | releaseRetry rolledBack _ hlive => cases rolledBack <;> exact hlive
  | repaired rolledBack _ hlive => cases rolledBack <;> exact hlive
  | vipMoved rolledBack hlive =>
    refine Eq.trans hlive ?_
    dsimp only
    split_ifs <;> rfl
  | reported hlive hph =>
    refine Eq.trans hlive ?_
    rw [FailoverPhase.isFinal_of_afterResult hph]
    rfl

/-- A run keeps its two nodes, its lease generation and its date. -/
theorem FailoverMove.identity (h : FailoverMove c now run run') :
    run'.sourceNodeId = run.sourceNodeId ∧ run'.targetNodeId = run.targetNodeId ∧
      run'.leaseGeneration = run.leaseGeneration ∧ run'.createdAt = run.createdAt := by
  cases h <;> exact ⟨rfl, rfl, rfl, rfl⟩

theorem FailoverMove.identity_run (h : Relation.ReflTransGen (FailoverMove c now) run run') :
    run'.sourceNodeId = run.sourceNodeId ∧ run'.targetNodeId = run.targetNodeId ∧
      run'.leaseGeneration = run.leaseGeneration ∧ run'.createdAt = run.createdAt := by
  induction h with
  | refl => exact ⟨rfl, rfl, rfl, rfl⟩
  | tail _ hlast ih =>
    obtain ⟨hsrc, htgt, hlease, hcreated⟩ := hlast.identity
    exact ⟨hsrc.trans ih.1, htgt.trans ih.2.1, hlease.trans ih.2.2.1, hcreated.trans ih.2.2.2⟩

/-- A run stays managed. -/
theorem FailoverMove.managed (h : FailoverMove c now run run') (hrun : run.dhcpManaged = true) :
    run'.dhcpManaged = true := by
  cases h <;> first | exact hrun | rfl

theorem FailoverMove.managed_run (h : Relation.ReflTransGen (FailoverMove c now) run run')
    (hrun : run.dhcpManaged = true) : run'.dhcpManaged = true := by
  induction h with
  | refl => exact hrun
  | tail _ hlast ih => exact hlast.managed ih

/-! ### Offered actions -/

theorem phaseAction_eq_some {action : DhcpActionType}
    {restore : Bool} (h : phaseAction run n = some (action, restore)) :
    (run.phase = .demotingSource ∧ n = run.sourceNodeId ∧ action = .demote ∧ restore = false) ∨
    (run.phase = .promotingTarget ∧ n = run.targetNodeId ∧ action = .promote ∧ restore = false) ∨
    (run.phase = .rollbackDemotingTarget ∧ n = run.targetNodeId ∧ action = .demote ∧
      restore = false) ∨
    (run.phase = .rollbackPromotingSource ∧ n = run.sourceNodeId ∧ action = .promote ∧
      restore = true) := by
  unfold phaseAction at h
  split at h <;> rename_i h₁
  · cases h
    exact .inl ⟨h₁.1, h₁.2, rfl, rfl⟩
  split at h <;> rename_i h₂
  · cases h
    exact .inr (.inl ⟨h₂.1, h₂.2, rfl, rfl⟩)
  split at h <;> rename_i h₃
  · cases h
    exact .inr (.inr (.inl ⟨h₃.1, h₃.2, rfl, rfl⟩))
  split at h <;> rename_i h₄
  · cases h
    exact .inr (.inr (.inr ⟨h₄.1, h₄.2, rfl, rfl⟩))
  · cases h

/-- What an offered failover action is: the action of the active run's phase, and for a demotion an
allowed one. -/
theorem desiredFailoverAction_eq_some (h : desiredFailoverAction c n now = some a) :
    ∃ r, activeFailover c = some r ∧
      phaseAction (c.failoverRun r) n = some (a.actionType, a.restoreOriginal) ∧
      a = failoverAction r (c.failoverRun r) n a.actionType a.restoreOriginal
        a.ownerHandoverAuthorised ∧ (a.actionType = .demote →
        (authoriseDhcpDemotion c n now (some (c.failoverRun r).replacement) true false).allowed
          = true ∧ a.ownerHandoverAuthorised =
          (authoriseDhcpDemotion c n now (some (c.failoverRun r).replacement) true
            false).ownerHandover) := by
  unfold desiredFailoverAction at h
  split at h
  · cases h
  rename_i r hr
  refine ⟨r, hr, ?_⟩
  dsimp only at h
  split at h <;> rename_i hact
  · cases h
  · cases h
    exact ⟨hact, rfl, fun h ↦ by cases h⟩
  · split at h <;> rename_i hallow
    · cases h
    · cases h
      exact ⟨hact, rfl, fun _ ↦ ⟨by simpa using hallow, rfl⟩⟩

/-- An action is only offered in a phase that waits for its result. -/
theorem afterResult_of_desiredFailoverAction {r : RunId}
    (h : desiredFailoverAction c n now = some a) (hr : activeFailover c = some r) :
    ∃ phase, (c.failoverRun r).phase.afterResult = some phase := by
  obtain ⟨r', hr', hact, -, -⟩ := desiredFailoverAction_eq_some h
  obtain rfl : r' = r := Option.some.inj (hr'.symm.trans hr)
  rcases phaseAction_eq_some hact with ⟨hph, -⟩ | ⟨hph, -⟩ | ⟨hph, -⟩ | ⟨hph, -⟩ <;>
    exact ⟨_, by rw [hph]; rfl⟩

/-! ### Operations as moves -/

/-- From `c₁` to `c₂` the run `r` makes moves whose guards hold in `c`, and nothing else of what the
frame keeps or of the other runs changes. -/
structure RunMoves (c : HACluster) (now : DateTime) (r : RunId) (c₁ c₂ : HACluster) : Prop where
  frame : failoverFrame c₂ = failoverFrame c₁
  ids : c₂.failoverRuns.ids = c₁.failoverRuns.ids
  others : ∀ j, j ≠ r → c₂.failoverRun j = c₁.failoverRun j
  generation : c₁.roleGeneration ≤ c₂.roleGeneration
  moves : Relation.ReflTransGen (FailoverMove c now) (c₁.failoverRun r) (c₂.failoverRun r)

namespace RunMoves

variable {c c₁ c₂ c₃ : HACluster} {now : DateTime} {r : RunId}

theorem refl : RunMoves c now r c₁ c₁ :=
  ⟨rfl, rfl, fun _ _ ↦ rfl, le_rfl, .refl⟩

theorem trans (h : RunMoves c now r c₁ c₂) (h' : RunMoves c now r c₂ c₃) :
    RunMoves c now r c₁ c₃ where
  frame := h'.frame.trans h.frame
  ids := h'.ids.trans h.ids
  others j hj := (h'.others j hj).trans (h.others j hj)
  generation := h.generation.trans h'.generation
  moves := h.moves.trans h'.moves

/-- An operation that rewrites the row of the run by one move. -/
theorem single {f : HAFailoverRun → HAFailoverRun} (hframe : failoverFrame c₂ = failoverFrame c₁)
    (hruns : c₂.failoverRuns = c₁.failoverRuns.modify r f)
    (hgeneration : c₁.roleGeneration ≤ c₂.roleGeneration)
    (hmove : FailoverMove c now (c₁.failoverRun r) (f (c₁.failoverRun r))) :
    RunMoves c now r c₁ c₂ where
  frame := hframe
  ids := by rw [hruns, Table.modify_ids]
  others j hj := by
    show c₂.failoverRuns.row j = _
    rw [hruns, Table.modify_row_of_ne _ hj]
  generation := hgeneration
  moves := by
    refine .single ?_
    show FailoverMove c now _ (c₂.failoverRuns.row r)
    rw [hruns, Table.modify_row_self]
    exact hmove

end RunMoves

section Operations

variable {c c₁ c' c₂ : HACluster} {now : DateTime} {r : RunId} {rolledBack acknowledged : Bool}
  {action : DhcpActionType} {generation : ℕ} {checksum : Option Digest} {status : ResultStatus}
  {message : String}

theorem safeFailure_moves (hlive : (c₁.failoverRun r).status.isActive = true)
    (message : String) : RunMoves c now r c₁ (safeFailure c₁ r message) :=
  .single rfl (safeFailure_failoverRuns c₁ r message) le_rfl (.failed _ hlive)

theorem complete_moves (hlive : (c₁.failoverRun r).status.isActive = true)
    (hver : requestedTopologyIsVerified c (c₁.failoverRun r) rolledBack now = true) :
    RunMoves c now r c₁ (complete c₁ r rolledBack) :=
  .single (frame_complete c₁ r rolledBack) (complete_failoverRuns c₁ r rolledBack) le_rfl
    (.verified rolledBack _ hlive hver)

/-- A queued repair: ownership was certain, and the promotion is asked for once more. -/
theorem queueSafeDhcpRepair_eq_some (h : queueSafeDhcpRepair c r rolledBack now = some c') :
    dhcpRepairIsSafe c ((c.failoverRun r).destination rolledBack)
        ((c.failoverRun r).origin rolledBack) now = true ∧
      c' = (bumpRoleGeneration c r).modifyFailover r fun run ↦
        { run with
          report := run.report.countRepair rolledBack
          phase := if rolledBack then .rollbackPromotingSource else .promotingTarget } := by
  unfold queueSafeDhcpRepair at h
  dsimp only at h
  split at h <;> rename_i hsafe
  · cases h
  split at h
  · cases h
  rw [Bool.not_eq_true', Bool.not_eq_false] at hsafe
  exact ⟨hsafe, (Option.some.inj h).symm⟩

/-- A queued release: the demotion is asked for once more. -/
theorem queueSafeDhcpReleaseRetry_eq_some
    (h : queueSafeDhcpReleaseRetry c r rolledBack now = some c') :
    c' = (bumpRoleGeneration c r).modifyFailover r fun run ↦
      { run with
        report := run.report.countRelease rolledBack
        phase := if rolledBack then .rollbackDemotingTarget else .demotingSource } := by
  unfold queueSafeDhcpReleaseRetry at h
  dsimp only at h
  split at h
  · cases h
  split at h
  · cases h
  exact (Option.some.inj h).symm

theorem queueSafeDhcpRepair_moves
    (hframe : failoverFrame c₁ = failoverFrame c) (hgen : c.roleGeneration ≤ c₁.roleGeneration)
    (hlive : (c₁.failoverRun r).status.isActive = true)
    (hph : (c₁.failoverRun r).phase =
      if rolledBack then .rollbackVerifyingSource else .verifyingTarget)
    (hlate : seconds 30 < now - verificationStartedAt (c₁.failoverRun r))
    (hunverified : requestedTopologyIsVerified c (c₁.failoverRun r) rolledBack now = false)
    (h : queueSafeDhcpRepair c₁ r rolledBack now = some c₂) : RunMoves c now r c₁ c₂ := by
  obtain ⟨hsafe, rfl⟩ := queueSafeDhcpRepair_eq_some h
  rw [← dhcpRepairIsSafe_frame, hframe, dhcpRepairIsSafe_frame] at hsafe
  have hrel : dhcpReleased c ((c₁.failoverRun r).origin rolledBack) now = true := by
    have hparts := hsafe
    simp only [dhcpRepairIsSafe, decide_eq_true_eq] at hparts
    exact hparts.2.2.2.2.2.2.2.1
  refine .single ?_ (bump_failoverRuns c₁ r _) (Nat.le_succ _) ?_
  · rw [frame_modifyFailover, frame_bumpRoleGeneration]
  · exact .repaired rolledBack _ hlive hph hlate hrel (Nat.lt_succ_of_le hgen) hunverified
      hsafe

section

variable (hlive : (c.failoverRun r).status.isActive = true)

include hlive

theorem queueSafeDhcpReleaseRetry_moves
    (hph : (c.failoverRun r).phase =
      if rolledBack then .verifyingRollbackTargetRelease else .verifyingSourceDhcpRelease)
    (hlate : seconds 45 < now - verificationStartedAt (c.failoverRun r))
    (h : queueSafeDhcpReleaseRetry c r rolledBack now = some c₂) : RunMoves c now r c c₂ := by
  rw [queueSafeDhcpReleaseRetry_eq_some h]
  refine .single ?_ (bump_failoverRuns c r _) (Nat.le_succ _) ?_
  · rw [frame_modifyFailover, frame_bumpRoleGeneration]
  · exact .releaseRetry rolledBack _ hlive hph hlate (Nat.lt_succ_self _)

theorem verifyRelease_moves
    (hph : (c.failoverRun r).phase =
      if rolledBack then .verifyingRollbackTargetRelease else .verifyingSourceDhcpRelease) :
    RunMoves c now r c (verifyRelease c r rolledBack now) := by
  unfold verifyRelease
  dsimp only
  split <;> rename_i hrel
  · refine .single ?_ (moveVip_failoverRuns c r now _ _) le_rfl ?_
    · rw [frame_moveVip, frame_setFailoverPhase]
    · exact .released rolledBack hlive hph hrel
  split <;> rename_i hlate
  · rcases hretry : queueSafeDhcpReleaseRetry c r rolledBack now with - | c₂
    · exact safeFailure_moves hlive _
    · exact queueSafeDhcpReleaseRetry_moves hlive hph hlate hretry
  · exact .refl

theorem awaitVip_moves
    (hguard : (c.failoverRun r).dhcpManaged = true ∨ piholeManagesDhcp c = false)
    (hph : (c.failoverRun r).phase = if rolledBack then .rollbackMovingVip else .movingVip) :
    RunMoves c now r c (awaitVip c r rolledBack now) := by
  unfold awaitVip
  dsimp only
  split
  · exact .single rfl (setFailoverPhase_failoverRuns c r _) le_rfl
      (.vipMoved rolledBack hlive hguard hph)
  split
  · split <;> rename_i hrestore
    · obtain ⟨hfwd, -, -, -, hrel⟩ := hrestore
      rw [Bool.not_eq_true'] at hfwd
      rw [hfwd] at hph
      refine .single rfl (restoreDhcp_failoverRuns c r _) (Nat.le_succ _) ?_
      exact .vipRestored _ _ hlive hph hrel (Nat.lt_succ_self _)
    · exact safeFailure_moves hlive _
  · exact .refl

theorem switchPhase_moves
    (hguard : (c.failoverRun r).dhcpManaged = true ∨ piholeManagesDhcp c = false) :
    RunMoves c now r c (switchPhase c r now) := by
  unfold switchPhase
  dsimp only
  split <;> rename_i hph
  · split <;> rename_i hlease
    · obtain ⟨state, hst, hcur⟩ := Option.any_eq_true _ _ |>.1 hlease
      simp only [decide_eq_true_eq] at hcur
      exact .single rfl (setFailoverPhase_failoverRuns c r _) le_rfl
        (.leasesCurrent hlive hph hst hcur.1 hcur.2)
    · exact .refl
  · exact verifyRelease_moves hlive hph
  · exact verifyRelease_moves hlive hph
  · split <;> rename_i hshortcut
    · exact .single rfl (setFailoverPhase_failoverRuns c r _) le_rfl
        (.rollbackShortcut hlive hph hshortcut.2.2)
    · exact .refl
  · exact awaitVip_moves hlive hguard hph
  · exact awaitVip_moves hlive hguard hph
  · exact .refl

end

theorem verifyFinal_moves (rolledBack : Bool) (hframe : failoverFrame c₁ = failoverFrame c)
    (hgen : c.roleGeneration ≤ c₁.roleGeneration)
    (hlive : (c₁.failoverRun r).status.isActive = true)
    (hph : (c₁.failoverRun r).phase =
      if rolledBack then .rollbackVerifyingSource else .verifyingTarget) :
    RunMoves c now r c₁ (verifyFinal c₁ r rolledBack now) := by
  unfold verifyFinal
  dsimp only
  split <;> rename_i hver <;>
    rw [← requestedTopologyIsVerified_frame, hframe, requestedTopologyIsVerified_frame] at hver
  · exact complete_moves hlive hver
  split <;> rename_i hlate
  · rcases hrepair : queueSafeDhcpRepair c₁ r rolledBack now with - | c₂
    · exact safeFailure_moves hlive _
    · exact queueSafeDhcpRepair_moves hframe hgen hlive hph hlate (by simpa using hver)
        hrepair
  · exact .refl

theorem switchPhase_isActive (hlive : (c.failoverRun r).status.isActive = true)
    (hguard : (c.failoverRun r).dhcpManaged = true ∨ piholeManagesDhcp c = false)
    (hph : ((switchPhase c r now).failoverRun r).phase.isFinal = false) :
    ((switchPhase c r now).failoverRun r).status.isActive = true := by
  have hswitch : RunMoves c now r c (switchPhase c r now) := switchPhase_moves hlive hguard
  rcases hswitch.moves.cases_tail with hsame | ⟨_, -, hlast⟩
  · rw [hsame]
    exact hlive
  · rw [hlast.isActive_eq, hph]
    rfl

theorem verifyPhase_moves (hlive : (c.failoverRun r).status.isActive = true)
    (hguard : (c.failoverRun r).dhcpManaged = true ∨ piholeManagesDhcp c = false) :
    RunMoves c now r (switchPhase c r now) (verifyPhase (switchPhase c r now) r now) := by
  have hswitch : RunMoves c now r c (switchPhase c r now) := switchPhase_moves hlive hguard
  unfold verifyPhase
  split <;> rename_i hph
  · exact verifyFinal_moves false hswitch.frame hswitch.generation
      (switchPhase_isActive hlive hguard (by rw [hph]; rfl)) hph
  · exact verifyFinal_moves true hswitch.frame hswitch.generation
      (switchPhase_isActive hlive hguard (by rw [hph]; rfl)) hph
  · exact .refl

/-- What is left once the DNS-only guard has not fired. -/
theorem managed_of_not_misclassified {run : HAFailoverRun}
    (h : ¬ ((!run.dhcpManaged) = true ∧ piholeManagesDhcp c = true)) :
    run.dhcpManaged = true ∨ piholeManagesDhcp c = false := by
  rw [not_and_or] at h
  exact h.imp (by simp) (by simp)

theorem advanceRun_moves (hlive : (c.failoverRun r).status.isActive = true) :
    RunMoves c now r c (advanceRun c r now) := by
  unfold advanceRun
  dsimp only
  split <;> rename_i hguard
  · refine .single rfl (misclassified_failoverRuns c r) le_rfl ?_
    exact .misclassified _ hlive (by simpa using hguard.1) hguard.2
  split <;> rename_i hfwd
  · exact complete_moves hlive hfwd.2
  split <;> rename_i hback
  · exact complete_moves hlive hback.2
  · have hman := managed_of_not_misclassified hguard
    exact (switchPhase_moves hlive hman).trans (verifyPhase_moves hlive hman)

/-- Advancing moves the active run and no other. -/
theorem advanceFailover_moves (hr : activeFailover c = some r) :
    RunMoves c now r c (advanceFailover c now) := by
  unfold advanceFailover
  rw [hr]
  exact advanceRun_moves (Table.newest?_eq_some hr).2

theorem advanceFailover_of_none (hr : activeFailover c = none) : advanceFailover c now = c := by
  unfold advanceFailover
  rw [hr]

/-- Advancing writes the columns of the engine only, and bumps generations only upwards. -/
theorem advanceFailover_frame (c : HACluster) (now : DateTime) :
    failoverFrame (advanceFailover c now) = failoverFrame c ∧
      c.roleGeneration ≤ (advanceFailover c now).roleGeneration := by
  rcases hr : activeFailover c with - | r
  · rw [advanceFailover_of_none hr]
    exact ⟨rfl, le_rfl⟩
  · have hmoves : RunMoves c now r c (advanceFailover c now) := advanceFailover_moves hr
    exact ⟨hmoves.frame, hmoves.generation⟩

theorem recordFailoverActionResult_eq_ok {n : NodeId}
    (h : recordFailoverActionResult c n action generation checksum status message now = .ok c') :
    ∃ r phase, activeFailover c = some r ∧ (c.failoverRun r).phase.afterResult = some phase ∧
      c' = setFailoverPhase (markVerificationStarted c r now) r phase := by
  unfold recordFailoverActionResult at h
  split at h <;> try cases h
  rename_i r expected hr hexp
  obtain ⟨phase, hph⟩ := afterResult_of_desiredFailoverAction hexp hr
  dsimp only at h
  split at h
  · cases h
  rw [hph] at h
  cases h
  exact ⟨r, phase, hr, hph, rfl⟩

theorem recordFailoverActionResult_moves {n : NodeId}
    (h : recordFailoverActionResult c n action generation checksum status message now = .ok c') :
    ∃ r, activeFailover c = some r ∧ RunMoves c now r c c' := by
  obtain ⟨r, phase, hr, hph, rfl⟩ := recordFailoverActionResult_eq_ok h
  refine ⟨r, hr, .single rfl (reported_failoverRuns c r now phase) le_rfl ?_⟩
  exact .reported (Table.newest?_eq_some hr).2 hph

/-- The cluster a rollback request starts from: in maintenance, with a new generation. -/
def rollbackBase (c : HACluster) (r : RunId) : HACluster :=
  (bumpRoleGeneration { c with maintenanceMode := true } r).modifyFailover r
    fun run ↦ { run with status := .rollingBack }

theorem frame_rollbackBase (c : HACluster) (r : RunId) :
    failoverFrame (rollbackBase c r) = failoverFrame c := by
  rw [rollbackBase, frame_modifyFailover, frame_bumpRoleGeneration]
  rfl

theorem rollbackCompleted_failoverRuns (c : HACluster) (r : RunId) :
    (complete (rollbackBase c r) r true).failoverRuns = c.failoverRuns.modify r fun run ↦
      { run with
        roleGeneration := c.roleGeneration + 1, status := .rolledBack, phase := .rolledBack } := by
  rw [complete_failoverRuns]
  simp only [rollbackBase, bumpRoleGeneration, HACluster.modifyFailover, Table.modify_modify]
  rfl

theorem rollbackNoted_failoverRuns (c : HACluster) (r : RunId) (phase : FailoverPhase)
    (reason : String) :
    (noteRollback (setFailoverPhase (rollbackBase c r) r phase) r reason).failoverRuns =
      c.failoverRuns.modify r fun run ↦
        { run with
          roleGeneration := c.roleGeneration + 1, status := .rollingBack, phase
          errorRedacted := some (PyText.orDefault run.errorRedacted reason) } := by
  simp only [noteRollback, setFailoverPhase, rollbackBase, bumpRoleGeneration,
    HACluster.modifyFailover, Table.modify_modify]

section

variable (h : requestFailoverRollback c r acknowledged now = .ok c')

include h

/-- What an accepted rollback request does: complete at once, promote the source, or demote the
target first. -/
theorem requestFailoverRollback_eq_ok :
    ((c.failoverRun r).status = .failedSafe ∨ (c.failoverRun r).status = .succeeded) ∧
    ((((c.node (c.failoverRun r).sourceNodeId).vipOwned = true ∧
          (c.node (c.failoverRun r).targetNodeId).vipOwned = false) ∧
        ((c.failoverRun r).dhcpManaged = false ∨
          dhcpActive c (c.failoverRun r).sourceNodeId now = true) ∧
        c' = complete (rollbackBase c r) r true) ∨
      (dhcpReleased c (c.failoverRun r).targetNodeId now = true ∧ ∃ reason, c' =
          noteRollback (setFailoverPhase (rollbackBase c r) r .rollbackPromotingSource) r reason) ∨
      ∃ reason, c' =
        noteRollback (setFailoverPhase (rollbackBase c r) r .rollbackDemotingTarget) r reason) := by
  unfold requestFailoverRollback at h
  dsimp only at h
  split at h <;> rename_i hrefused
  · cases h
  constructor
  · by_cases hfailed : (c.failoverRun r).status = .failedSafe
    · exact .inl hfailed
    · simp only [recoverUnhealthyActive, not_or, not_and] at hrefused
      have hrecover := hrefused.2 hfailed
      rw [Bool.not_eq_true, Bool.not_eq_false', decide_eq_true_eq] at hrecover
      exact .inr hrecover.1
  · rw [Except.ok.injEq] at h
    subst h
    split <;> rename_i hserved
    · refine .inl ⟨by simpa using hserved.1, ?_, rfl⟩
      exact hserved.2.imp (by simp) id
    · split <;> rename_i hrel
      · exact .inr (.inl ⟨hrel.2.2, _, rfl⟩)
      · exact .inr (.inr ⟨_, rfl⟩)

/-- Which rollback requests are accepted. -/
theorem requestFailoverRollback_guard :
    acknowledged = true ∧ ((c.failoverRun r).status = .failedSafe ∨
      recoverUnhealthyActive c (c.failoverRun r) = true) := by
  unfold requestFailoverRollback at h
  dsimp only at h
  split at h <;> rename_i hrefused
  · cases h
  rw [not_or, not_and_or, not_not] at hrefused
  exact ⟨by simpa using hrefused.1, hrefused.2.imp id (by simp)⟩

/-- A rollback request moves the run it names and no other. -/
theorem requestFailoverRollback_moves : RunMoves c now r c c' := by
  obtain ⟨hstat, ⟨howned, hserved, rfl⟩ | ⟨hrel, reason, rfl⟩ | ⟨reason, rfl⟩⟩ :=
    requestFailoverRollback_eq_ok h
  · refine .single ?_ (rollbackCompleted_failoverRuns c r) (Nat.le_succ _) ?_
    · rw [frame_complete, frame_rollbackBase]
    · exact .rollbackCompleted _ hstat howned hserved (Nat.lt_succ_self _)
  · refine .single ?_ (rollbackNoted_failoverRuns c r _ reason) (Nat.le_succ _) ?_
    · rw [frame_noteRollback, frame_setFailoverPhase, frame_rollbackBase]
    · exact .rollbackDirect _ _ hstat hrel (Nat.lt_succ_self _)
  · refine .single ?_ (rollbackNoted_failoverRuns c r _ reason) (Nat.le_succ _) ?_
    · rw [frame_noteRollback, frame_setFailoverPhase, frame_rollbackBase]
    · exact .rollbackStarted _ _ hstat (Nat.lt_succ_self _)

end

end Operations

/-! ### Starting a run -/

section Starting

variable {c : HACluster} {now : DateTime}

theorem eraseDups_eq_nil {l : List String} : l.eraseDups = [] ↔ l = [] := by
  cases l with
  | nil => simp
  | cons a l => simp [List.eraseDups_cons]

/-- What a cluster without blockers looks like. -/
structure ReadyToStart (c : HACluster) (now : DateTime) : Prop where
  twoNodes : c.nodes.ids.length = 2
  noFailover : activeFailover c = none
  noMaintenance : c.maintenanceMode = false
  lease : dhcpBlockers c (failoverReadiness c now).source (failoverReadiness c now).target now = []

theorem readyToStart_of_blockers (h : (failoverReadiness c now).blockers = []) :
    ReadyToStart c now := by
  have hnil := eraseDups_eq_nil.1 h
  simp only [List.append_eq_nil_iff] at hnil
  obtain ⟨⟨⟨⟨⟨⟨hcount, -⟩, -⟩, -⟩, hlease⟩, hlive⟩, hmaint⟩ := hnil
  have hnone : activeFailover c = none := by
    by_contra hsome
    rw [if_pos (Option.isSome_iff_ne_none.2 hsome)] at hlive
    cases hlive
  refine ⟨?_, hnone, ?_, hlease⟩
  · by_contra htwo
    rw [if_pos htwo] at hcount
    cases hcount
  · by_contra hmode
    rw [if_pos ⟨by simpa using hmode, by rw [hnone]; rfl⟩] at hmaint
    cases hmaint

/-- The source and the target of a ready cluster are its two nodes. -/
theorem readiness_nodes {source target : NodeId}
    (hsrc : (failoverReadiness c now).source = some source)
    (htgt : (failoverReadiness c now).target = some target) :
    source ∈ c.nodes.ids ∧ target ∈ c.nodes.ids ∧ target ≠ source ∧
      (c.node source).vipOwned = true ∧
      heartbeatIsFresh (c.node source) (.failover now) = true := by
  have hbind : (failoverReadiness c now).source.bind (fun s ↦ c.nodes.ids.find? (· ≠ s)) =
      some target := htgt
  rw [hsrc] at hbind
  have hne : target ≠ source := by simpa using List.find?_some hbind
  have howner : source ∈ c.nodes.ids.filter fun n ↦
      (c.node n).vipOwned && heartbeatIsFresh (c.node n) (.failover now) := by
    simp only [failoverReadiness] at hsrc
    split at hsrc
    · rename_i howners
      cases hsrc
      rw [howners]
      exact List.mem_singleton_self _
    · cases hsrc
  rw [List.mem_filter, Bool.and_eq_true] at howner
  exact ⟨howner.1, List.mem_of_find?_eq_some hbind, hne, howner.2.1, howner.2.2⟩

/-- The cluster a run is created in: where DHCP is managed the leases have just been captured. -/
def captured (c : HACluster) (dhcpManaged : Bool) (answer : LeaseAnswer) (now : DateTime) :
    HACluster :=
  if dhcpManaged then (reconcileClusterLeases c now answer).1 else c

/-- **Starting.** Either no run is created — the request was refused, or the final lease capture
failed — or the cluster was ready and the run is created on the captured leases. -/
theorem startControlledFailover_cases (c : HACluster) (now : DateTime) (target : NodeId)
    (confirmation : String) (acknowledged : Bool) (failback : Except String Unit)
    (answer : LeaseAnswer) :
    let c' := (startControlledFailover c target confirmation acknowledged failback answer now).1
    c' = c ∨
      ((failoverReadiness c now).blockers = [] ∧ (failoverReadiness c now).dhcpManaged = true ∧
        c' = (reconcileClusterLeases c now answer).1) ∨
      ∃ source, (acknowledged = true ∧ PyText.strip confirmation = c.name) ∧
        (failoverReadiness c now).blockers = [] ∧ (failoverReadiness c now).source = some source ∧
        (failoverReadiness c now).target = some target ∧
        c' = (createFailoverRun (captured c (failoverReadiness c now).dhcpManaged answer now) source
          target (failoverReadiness c now).dhcpManaged now).1 := by
  unfold startControlledFailover
  split <;> rename_i hconf
  · exact .inl rfl
  rw [not_or, not_not, Bool.not_eq_true, Bool.not_eq_false'] at hconf
  dsimp only
  split
  · rename_i source expected hrdy hsrc htgt
    split <;> rename_i hchoice
    · exact .inl rfl
    rw [not_not] at hchoice
    subst hchoice
    split
    · exact .inl rfl
    split <;> rename_i hman
    · split <;> rename_i hcapture
      · exact .inr (.inl ⟨hrdy, hman, by rw [hcapture]⟩)
      · refine .inr (.inr ⟨source, hconf, hrdy, hsrc, htgt, ?_⟩)
        rw [hman, captured, if_pos rfl, hcapture]
    · rw [Bool.not_eq_true] at hman
      exact .inr (.inr ⟨source, hconf, hrdy, hsrc, htgt, by rw [hman]; rfl⟩)
  · exact .inl rfl

/-- The row a new run starts with. -/
structure NewRun (c : HACluster) (source target : NodeId) (dhcpManaged : Bool) (now : DateTime)
    (run : HAFailoverRun) : Prop where
  source : run.sourceNodeId = source
  target : run.targetNodeId = target
  status : run.status = .running
  phase : run.phase = startPhase dhcpManaged c.leaseReplication
  managed : run.dhcpManaged = dhcpManaged
  leaseGeneration : run.leaseGeneration = c.leaseReplication.elim 0 (·.desiredGeneration)
  roleGeneration : run.roleGeneration = c.roleGeneration + 1
  createdAt : run.createdAt = now

variable (c) (source target : NodeId) (dhcpManaged : Bool) (now)

theorem createFailoverRun_frame :
    failoverFrame (createFailoverRun c source target dhcpManaged now).1 = failoverFrame c := by
  unfold createFailoverRun
  dsimp only
  split
  · rw [frame_moveVip]
    rfl
  · rfl

theorem createFailoverRun_ids :
    (createFailoverRun c source target dhcpManaged now).1.failoverRuns.ids =
      c.failoverRuns.ids ++ [c.failoverRuns.freshKey] := by
  unfold createFailoverRun
  dsimp only
  split
  · rfl
  · rfl

theorem createFailoverRun_old {j : RunId} (hj : j ∈ c.failoverRuns.ids) :
    (createFailoverRun c source target dhcpManaged now).1.failoverRun j = c.failoverRun j := by
  have hne := c.failoverRuns.ne_freshKey hj
  unfold createFailoverRun
  dsimp only
  split
  · simp only [moveVip, requestDeployment, HACluster.mapNodes, HACluster.modifyFailover,
      HACluster.failoverRun]
    rw [Table.modify_row_of_ne _ hne, Table.insert_row_of_mem _ _ hj]
  · exact Table.insert_row_of_mem _ _ hj

theorem createFailoverRun_new :
    NewRun c source target dhcpManaged now
      ((createFailoverRun c source target dhcpManaged now).1.failoverRun
        c.failoverRuns.freshKey) := by
  unfold createFailoverRun
  dsimp only
  split <;> rename_i hph
  · simp only [moveVip, requestDeployment, HACluster.mapNodes, HACluster.modifyFailover,
      HACluster.failoverRun, Table.modify_row_self, Table.insert_row_fresh]
    exact ⟨rfl, rfl, rfl, rfl, rfl, rfl, rfl, rfl⟩
  · simp only [HACluster.failoverRun, Table.insert_row_fresh]
    exact ⟨rfl, rfl, rfl, rfl, rfl, rfl, rfl, rfl⟩

end Starting

end Kaya.HA
