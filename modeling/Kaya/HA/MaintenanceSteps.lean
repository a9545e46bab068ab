import Kaya.HA.FailoverSteps
import Kaya.HA.Maintenance

/-!
# What a maintenance step can do

The counterpart of the failover engine's frame and moves. `maintenanceFrame` forgets the columns
maintenance writes; failover runs, stored results and the reports of the nodes survive.
`MaintenanceEffect c m c'` says what a step on the run `m` does: it keeps the frame and every other
run, the run keeps its identity and is never reactivated, and `maintenance_mode` is cleared only by
the run's own end.
-/

namespace Kaya.HA

/-! ### What the operations write -/

/-- The settings a new reinitialisation keeps for its end: those of a failed one, when the latest run
is one, and those of the cluster otherwise. -/
def inheritedState (c : HACluster) : PreviousState :=
  match (latestMaintenance c).map c.maintenanceRun with
  | some run =>
    if run.operation = .reinitialise ∧ run.status = .failedSafe then run.previousState
    else snapshotState c
  | none => snapshotState c

section Writes

variable {c c' : HACluster} {m : RunId} {n : NodeId} {now : DateTime}
  {generation : ℕ} {checksum : Option Digest} {status : ResultStatus} {message : String}

/-- A lease reconciliation writes the two lease columns. -/
theorem persistLeasePlan_writes (plan : Except String LeasePlan) :
    ∃ state snapshots, (persistLeasePlan c now plan).1 =
      { c with leaseReplication := state, leaseSnapshots := snapshots } := by
  unfold persistLeasePlan
  split
  · exact ⟨_, _, rfl⟩
  split
  · exact ⟨_, _, rfl⟩
  dsimp only
  split
  · exact ⟨_, _, rfl⟩
  · exact ⟨_, _, rfl⟩
  · exact ⟨_, _, rfl⟩

/-- A stage result writes the two lease columns and, when it was applied, the generation of its
node. -/
theorem recordLeaseStageResult_writes
    (h : recordLeaseStageResult c n generation checksum status message = .ok c') :
    ∃ state snapshots,
      c' = { c.modifyNode n (fun node ↦ { node with leaseGeneration := generation }) with
        leaseReplication := state, leaseSnapshots := snapshots } ∨
      c' = { c with leaseReplication := state, leaseSnapshots := snapshots } := by
  unfold recordLeaseStageResult at h
  split at h
  · cases h
  split at h
  · cases h
  split at h
  · cases h
  split at h
  · split at h
    · cases h
    · cases h
      exact ⟨_, _, .inl rfl⟩
  · cases h
    exact ⟨_, _, .inr rfl⟩

theorem startReconciliation_eq_ok (h : startReconciliation c now = .ok c') :
    activeMaintenance c = none ∧ activeFailover c = none ∧ c' = insertMaintenance c
        { operation := .reconcile, status := .running, phase := .waitingForReports
          previousState := snapshotState c
          phaseStartedAt := now, startedAt := now, createdAt := now } := by
  unfold startReconciliation at h
  split at h <;> rename_i hmaint
  · cases h
  split at h <;> rename_i hfail
  · cases h
  rw [Option.not_isSome_iff_eq_none] at hmaint hfail
  exact ⟨hmaint, hfail, (Except.ok.inj h).symm⟩

theorem startReinitialisation_eq_ok {desiredActive authority : NodeId} {acknowledged : Bool}
    (h : startReinitialisation c desiredActive authority acknowledged now = .ok c') :
    (desiredActive ∈ c.nodes.ids ∧ c.nodes.ids.length = 2) ∧
      activeMaintenance c = none ∧ activeFailover c = none ∧ c' = insertMaintenance
        { c with
          maintenanceMode := true, automaticFailoverEnabled := false
          automaticSyncEnabled := false }
        { operation := .reinitialise, status := .running, phase := .waitingForReports
          desiredActiveNodeId := some desiredActive, authoritativeNodeId := some authority
          previousState := inheritedState c
          phaseStartedAt := now, startedAt := now, createdAt := now } := by
  unfold startReinitialisation at h
  split at h
  · cases h
  split at h <;> rename_i hnodes
  · cases h
  split at h <;> rename_i htwo
  · cases h
  split at h <;> rename_i hmaint
  · cases h
  split at h <;> rename_i hfail
  · cases h
  rw [Option.not_isSome_iff_eq_none] at hmaint hfail
  rw [not_or, not_not, not_not] at hnodes
  exact ⟨⟨hnodes.1, not_not.1 htwo⟩, hmaint, hfail, (Except.ok.inj h).symm⟩

/-- An evaluation of the self-heal writes the maintenance runs and the mode. -/
theorem startDhcpSelfHeal_writes (forceRetry : Bool) :
    ∃ runs mode, startDhcpSelfHeal c forceRetry now =
      { c with maintenanceRuns := runs, maintenanceMode := mode } := by
  unfold startDhcpSelfHeal
  split
  · exact ⟨_, _, rfl⟩
  dsimp only
  generalize dhcpTopologyFingerprint c (reconcileTopology c (.topology now)) now = fingerprint
  split
  · exact ⟨_, _, rfl⟩
  split
  · exact ⟨_, _, rfl⟩
  generalize Digest.drift _ _ fingerprint = signature
  split
  · exact ⟨_, _, rfl⟩
  split
  · exact ⟨_, _, rfl⟩
  · exact ⟨_, _, rfl⟩

/-- A step of the self-heal writes the maintenance runs, the mode and the status. -/
theorem advanceDhcpSelfHeal_writes :
    ∃ runs mode status, advanceDhcpSelfHeal c m now =
      { c with maintenanceRuns := runs, maintenanceMode := mode, status := status } := by
  unfold advanceDhcpSelfHeal
  dsimp only
  split
  · exact ⟨_, _, _, rfl⟩
  split
  · unfold cancelSelfHeal
    dsimp only
    split
    · split
      · exact ⟨_, _, _, rfl⟩
      · exact ⟨_, _, _, rfl⟩
    · exact ⟨_, _, _, rfl⟩
  split
  · split
    · exact ⟨_, _, _, rfl⟩
    split
    · exact ⟨_, _, _, rfl⟩
    split
    · exact ⟨_, _, _, rfl⟩
    · exact ⟨_, _, _, rfl⟩
  · exact ⟨_, _, _, rfl⟩

/-- An action result of a maintenance run writes the maintenance runs and the status. -/
theorem recordMaintenanceActionResult_writes {action : DhcpActionType}
    (h : recordMaintenanceActionResult c n action generation checksum status message now = .ok c') :
    ∃ runs clusterStatus, c' = { c with maintenanceRuns := runs, status := clusterStatus } := by
  unfold recordMaintenanceActionResult at h
  split at h
  · split at h
    · cases h
    dsimp only at h
    split at h <;> cases h <;> exact ⟨_, _, rfl⟩
  · cases h

end Writes

/-! ### The frame -/

/-- A placeholder row. -/
def blankMaintenance : HAMaintenanceRun :=
  { operation := .reconcile, status := .cancelled, phase := .paused
    previousState := ⟨false, false, false⟩, phaseStartedAt := 0, startedAt := 0, createdAt := 0 }

/-- A cluster without the columns maintenance writes. -/
def maintenanceFrame (c : HACluster) : HACluster :=
  { c with
    status := .draft, authoritativeNodeId := none, currentActiveNodeId := none
    preferredNodeId := none, automaticFailoverEnabled := false, automaticSyncEnabled := false
    automaticSyncAllowDeletions := false, maintenanceMode := false, clusterGeneration := 0
    roleGeneration := 0, keepalivedGeneration := 0, keepalivedStatus := .notConfigured
    nodes := c.nodes.map HANode.reports
    maintenanceRuns := noRuns blankMaintenance
    leaseReplication := none, leaseSnapshots := [] }

theorem maintenanceFrame_mapNodes (c : HACluster) {f : NodeId → HANode → HANode}
    (h : ∀ n node, (f n node).reports = node.reports) :
    maintenanceFrame (c.mapNodes f) = maintenanceFrame c := by
  unfold maintenanceFrame HACluster.mapNodes
  simp only [Table.map_mapRows c.nodes h]

theorem maintenanceFrame_persist (c : HACluster) (now : DateTime) (plan : Except String LeasePlan) :
    maintenanceFrame (persistLeasePlan c now plan).1 = maintenanceFrame c := by
  obtain ⟨state, snapshots, hwrit⟩ := @persistLeasePlan_writes c now plan
  rw [hwrit]
  rfl

/-! ### Effects -/

/-- How the row of a run may change: it keeps its identity, and it is not reactivated. -/
structure RunEvolves (run run' : HAMaintenanceRun) : Prop where
  operation : run'.operation = run.operation
  desiredActive : run'.desiredActiveNodeId = run.desiredActiveNodeId
  authority : run'.authoritativeNodeId = run.authoritativeNodeId
  previous : run'.previousState = run.previousState
  startedAt : run'.startedAt = run.startedAt
  createdAt : run'.createdAt = run.createdAt
  status : run'.status.isActive = true → run'.status = run.status

theorem RunEvolves.refl (run : HAMaintenanceRun) : RunEvolves run run :=
  ⟨rfl, rfl, rfl, rfl, rfl, rfl, fun _ ↦ rfl⟩

theorem RunEvolves.trans {run run' run'' : HAMaintenanceRun} (h : RunEvolves run run')
    (h' : RunEvolves run' run'') : RunEvolves run run'' where
  operation := h'.operation.trans h.operation
  desiredActive := h'.desiredActive.trans h.desiredActive
  authority := h'.authority.trans h.authority
  previous := h'.previous.trans h.previous
  startedAt := h'.startedAt.trans h.startedAt
  createdAt := h'.createdAt.trans h.createdAt
  status hlive := by
    have hstep := h'.status hlive
    rw [hstep] at hlive ⊢
    exact h.status hlive

/-- What a maintenance step on the run `m` does. -/
structure MaintenanceEffect (c : HACluster) (m : RunId) (c' : HACluster) : Prop where
  frame : maintenanceFrame c' = maintenanceFrame c
  ids : c'.maintenanceRuns.ids = c.maintenanceRuns.ids
  others : ∀ j, j ≠ m → c'.maintenanceRun j = c.maintenanceRun j
  row : RunEvolves (c.maintenanceRun m) (c'.maintenanceRun m)
  generation : c.roleGeneration ≤ c'.roleGeneration
  mode : c'.maintenanceMode = c.maintenanceMode ∨
    (c'.maintenanceMode = false ∧ (c'.maintenanceRun m).status.isActive = false)

namespace MaintenanceEffect

variable {c c₁ c₂ c₃ : HACluster} {m : RunId}

theorem refl : MaintenanceEffect c m c :=
  ⟨rfl, rfl, fun _ _ ↦ rfl, .refl _, le_rfl, .inl rfl⟩

/-- An update of the row of the run, after whatever else maintenance may write. -/
theorem single {f : HAMaintenanceRun → HAMaintenanceRun}
    (hframe : maintenanceFrame c₂ = maintenanceFrame c₁)
    (hruns : c₂.maintenanceRuns = c₁.maintenanceRuns)
    (hrow : RunEvolves (c₁.maintenanceRun m) (f (c₁.maintenanceRun m)))
    (hgen : c₁.roleGeneration ≤ c₂.roleGeneration)
    (hmode : c₂.maintenanceMode = c₁.maintenanceMode ∨
      (c₂.maintenanceMode = false ∧ (f (c₁.maintenanceRun m)).status.isActive = false)) :
    MaintenanceEffect c₁ m (c₂.modifyMaintenance m f) := by
  have hself : (c₂.modifyMaintenance m f).maintenanceRun m = f (c₁.maintenanceRun m) := by
    show (c₂.maintenanceRuns.modify m f).row m = _
    rw [hruns, Table.modify_row_self]
  refine ⟨hframe, ?_, fun j hj ↦ ?_, ?_, hgen, ?_⟩
  · show (c₂.maintenanceRuns.modify m f).ids = _
    rw [hruns, Table.modify_ids]
  · show (c₂.maintenanceRuns.modify m f).row j = _
    rw [hruns, Table.modify_row_of_ne _ hj]
  · rw [hself]
    exact hrow
  · rw [hself]
    exact hmode

/-- A step that leaves the runs alone, followed by a step on the run. -/
theorem after (h : MaintenanceEffect c₂ m c₃) (hframe : maintenanceFrame c₂ = maintenanceFrame c₁)
    (hruns : c₂.maintenanceRuns = c₁.maintenanceRuns)
    (hgen : c₁.roleGeneration ≤ c₂.roleGeneration)
    (hmode : c₂.maintenanceMode = c₁.maintenanceMode) : MaintenanceEffect c₁ m c₃ := by
  have hrow (j : RunId) : c₂.maintenanceRun j = c₁.maintenanceRun j := by
    show c₂.maintenanceRuns.row j = _
    rw [hruns]
  refine ⟨h.frame.trans hframe, h.ids.trans (by rw [hruns]), fun j hj ↦ ?_, ?_,
    hgen.trans h.generation, ?_⟩
  · rw [h.others j hj, hrow]
  · rw [← hrow]
    exact h.row
  · rw [← hmode]
    exact h.mode

/-- Two steps on the same run, the first of which keeps it active or leaves the mode alone. -/
theorem trans (h : MaintenanceEffect c₁ m c₂) (h' : MaintenanceEffect c₂ m c₃)
    (hmode : c₂.maintenanceMode = c₁.maintenanceMode) : MaintenanceEffect c₁ m c₃ where
  frame := h'.frame.trans h.frame
  ids := h'.ids.trans h.ids
  others j hj := (h'.others j hj).trans (h.others j hj)
  row := h.row.trans h'.row
  generation := h.generation.trans h'.generation
  mode := by
    rw [← hmode]
    exact h'.mode

end MaintenanceEffect

section Effects

variable {c : HACluster} {m : RunId} {now : DateTime}
  {f : HAMaintenanceRun → HAMaintenanceRun} {n : NodeId}

/-- Rewriting columns of the row that are neither its identity nor its status. -/
theorem modifyMaintenance_effect
    (h : ∀ run, RunEvolves run (f run)) : MaintenanceEffect c m (c.modifyMaintenance m f) :=
  .single rfl rfl (h _) le_rfl (.inl rfl)

theorem setPhase_effect (phase : MaintenancePhase) :
    MaintenanceEffect c m (setPhase c m phase now) :=
  modifyMaintenance_effect fun _ ↦ ⟨rfl, rfl, rfl, rfl, rfl, rfl, fun _ ↦ rfl⟩

/-- A step to a phase together with a further change of the row. -/
theorem setPhase_modify_effect (phase : MaintenancePhase) (h : ∀ run, RunEvolves run (f run)) :
    MaintenanceEffect c m ((setPhase c m phase now).modifyMaintenance m f) := by
  have hph : MaintenanceEffect c m (setPhase c m phase now) := setPhase_effect phase
  exact hph.trans (modifyMaintenance_effect h) rfl

theorem failSafe_effect (message : String) : MaintenanceEffect c m (failSafe c m message) := by
  unfold failSafe
  refine .single rfl rfl ?_ le_rfl (.inl rfl)
  exact ⟨rfl, rfl, rfl, rfl, rfl, rfl, fun h ↦ by cases h⟩

theorem failDhcpSelfHeal_effect (message : String) :
    MaintenanceEffect c m (failDhcpSelfHeal c m message) := by
  unfold failDhcpSelfHeal
  refine .single rfl rfl ?_ le_rfl (.inr ⟨rfl, rfl⟩)
  exact ⟨rfl, rfl, rfl, rfl, rfl, rfl, fun h ↦ by cases h⟩

theorem finishReinitialisation_effect (target : NodeId) :
    MaintenanceEffect c m (finishReinitialisation c m target) := by
  unfold finishReinitialisation
  refine .single ?_ rfl ?_ le_rfl (.inr ⟨rfl, rfl⟩)
  · show maintenanceFrame (c.mapNodes (followOwner target)) = maintenanceFrame c
    exact maintenanceFrame_mapNodes c fun _ _ ↦ rfl
  · exact ⟨rfl, rfl, rfl, rfl, rfl, rfl, fun h ↦ by cases h⟩

/-! ### Reinitialisation -/

variable {target standby : NodeId} {inputs : ReinitialisationInputs}

theorem awaitReports_effect : MaintenanceEffect c m (awaitReports c m target inputs now) := by
  have hreset : MaintenanceEffect c m (c.modifyMaintenance m fun run ↦ { run with result := {} }) :=
    modifyMaintenance_effect fun _ ↦ ⟨rfl, rfl, rfl, rfl, rfl, rfl, fun _ ↦ rfl⟩
  unfold awaitReports
  dsimp only
  split
  · exact hreset
  split
  · exact hreset.trans (finishReinitialisation_effect target) rfl
  · exact hreset.trans (setPhase_effect _) rfl

theorem backUp_effect : MaintenanceEffect c m (backUp c m inputs now) := by
  unfold backUp
  dsimp only
  split
  · exact failSafe_effect _
  · exact (failSafe_effect _).after rfl rfl le_rfl rfl
  · exact (setPhase_effect _).after rfl rfl le_rfl rfl

theorem synchronise_effect : MaintenanceEffect c m (synchronise c m inputs now) := by
  unfold synchronise
  split
  · exact failSafe_effect _
  · exact setPhase_effect _

theorem persistLeasePlan_maintenance (c : HACluster) (now : DateTime)
    (plan : Except String LeasePlan) :
    (persistLeasePlan c now plan).1.maintenanceRuns = c.maintenanceRuns ∧
      (persistLeasePlan c now plan).1.roleGeneration = c.roleGeneration ∧
      (persistLeasePlan c now plan).1.maintenanceMode = c.maintenanceMode := by
  obtain ⟨state, snapshots, hwrit⟩ := @persistLeasePlan_writes c now plan
  rw [hwrit]
  exact ⟨rfl, rfl, rfl⟩

theorem stageDhcp_effect : MaintenanceEffect c m (stageDhcp c m inputs now) := by
  have hframe := maintenanceFrame_persist c now (inspectClusterLeases c inputs.leases)
  obtain ⟨hruns, hgen, hmode⟩ :=
    persistLeasePlan_maintenance c now (inspectClusterLeases c inputs.leases)
  unfold stageDhcp reconcileClusterLeases
  split <;> rename_i c' hpersist <;> rw [hpersist] at hframe hruns hgen hmode
  · exact (failSafe_effect _).after hframe hruns hgen.ge hmode
  split
  · exact (failSafe_effect _).after hframe hruns hgen.ge hmode
  · exact (setPhase_effect _).after hframe hruns hgen.ge hmode

theorem requestRuntimeRebuild_effect :
    MaintenanceEffect c m (requestRuntimeRebuild c m target now) := by
  unfold requestRuntimeRebuild
  refine (setPhase_effect _).after ?_ rfl (Nat.le_succ _) rfl
  show maintenanceFrame (c.mapNodes (assignNode target)) = maintenanceFrame c
  exact maintenanceFrame_mapNodes c fun _ _ ↦ rfl

theorem verifyDhcpRelease_effect : MaintenanceEffect c m (verifyDhcpRelease c m standby now) := by
  unfold verifyDhcpRelease
  split
  · exact setPhase_modify_effect _ fun _ ↦ ⟨rfl, rfl, rfl, rfl, rfl, rfl, fun _ ↦ rfl⟩
  split
  · exact failSafe_effect _
  · exact .refl

theorem awaitRebuild_effect : MaintenanceEffect c m (awaitRebuild c m target inputs now) := by
  unfold awaitRebuild
  dsimp only
  split
  · exact failSafe_effect _
  split
  · exact .refl
  split
  · split
    · exact failSafe_effect _
    · exact .refl
  split
  · exact setPhase_effect _
  · exact setPhase_effect _

theorem verifyDhcpActivation_effect :
    MaintenanceEffect c m (verifyDhcpActivation c m target standby inputs now) := by
  unfold verifyDhcpActivation
  dsimp only
  split
  · exact setPhase_modify_effect _ fun _ ↦ ⟨rfl, rfl, rfl, rfl, rfl, rfl, fun _ ↦ rfl⟩
  split
  · exact failSafe_effect _
  · exact .refl

theorem verifyInvariants_effect :
    MaintenanceEffect c m (verifyInvariants c m target standby inputs now) := by
  unfold verifyInvariants
  split
  · exact finishReinitialisation_effect _
  split
  · exact failSafe_effect _
  · exact .refl

theorem reinitialisationPhase_effect :
    MaintenanceEffect c m (reinitialisationPhase c m target standby inputs now) := by
  unfold reinitialisationPhase
  split
  · exact awaitReports_effect
  · exact backUp_effect
  · exact synchronise_effect
  · exact stageDhcp_effect
  · split
    · exact setPhase_effect _
    · exact .refl
  · split
    · exact setPhase_effect _
    · exact setPhase_effect _
  · exact verifyDhcpRelease_effect
  · exact requestRuntimeRebuild_effect
  · exact awaitRebuild_effect
  · exact verifyDhcpActivation_effect
  · exact verifyInvariants_effect
  · exact .refl

theorem advanceReinitialisation_effect {processStartedAt : DateTime} :
    MaintenanceEffect c m (advanceReinitialisation c m inputs processStartedAt now) := by
  unfold advanceReinitialisation
  dsimp only
  split
  · exact .refl
  split
  · exact failSafe_effect _
  split
  · exact .refl
  split
  · exact setPhase_modify_effect _ fun _ ↦ ⟨rfl, rfl, rfl, rfl, rfl, rfl, fun _ ↦ rfl⟩
  · exact reinitialisationPhase_effect

/-! ### The other operations -/

theorem evaluateRecovery_maintenance (c : HACluster) :
    maintenanceFrame (evaluateRecovery c) = maintenanceFrame c ∧
      (evaluateRecovery c).maintenanceRuns = c.maintenanceRuns ∧
      (evaluateRecovery c).roleGeneration = c.roleGeneration ∧
      (evaluateRecovery c).maintenanceMode = c.maintenanceMode := by
  unfold evaluateRecovery
  split
  · exact ⟨rfl, rfl, rfl, rfl⟩
  · exact ⟨rfl, rfl, rfl, rfl⟩

theorem correctStoredState_maintenance (c : HACluster) (i : ClusterInspection) :
    maintenanceFrame (correctStoredState c i) = maintenanceFrame c ∧
      (correctStoredState c i).maintenanceRuns = c.maintenanceRuns ∧
      (correctStoredState c i).roleGeneration = c.roleGeneration ∧
      (correctStoredState c i).maintenanceMode = c.maintenanceMode := by
  unfold correctStoredState
  dsimp only
  split
  · exact ⟨rfl, rfl, rfl, rfl⟩
  · rename_i owner howner
    refine ⟨?_, rfl, rfl, rfl⟩
    show maintenanceFrame (c.mapNodes (followOwner owner)) = maintenanceFrame c
    exact maintenanceFrame_mapNodes c fun _ _ ↦ rfl

theorem reconcileClusterState_effect {stalled : StalledRecovery} :
    MaintenanceEffect c m (reconcileClusterState c m stalled now) := by
  unfold reconcileClusterState
  dsimp only
  split
  · exact .refl
  split
  · exact modifyMaintenance_effect fun _ ↦ ⟨rfl, rfl, rfl, rfl, rfl, rfl, fun _ ↦ rfl⟩
  · obtain ⟨hframe, hruns, hgen, hmode⟩ := correctStoredState_maintenance c
      (inspectCluster c (.topology now (some (c.maintenanceRun m).startedAt)) stalled)
    obtain ⟨hframe', hruns', hgen', hmode'⟩ := evaluateRecovery_maintenance
      (correctStoredState c
        (inspectCluster c (.topology now (some (c.maintenanceRun m).startedAt)) stalled))
    refine .single (hframe'.trans hframe) (hruns'.trans hruns) ?_
      (hgen'.trans hgen).ge (.inl (hmode'.trans hmode))
    refine ⟨rfl, rfl, rfl, rfl, rfl, rfl, fun hlive ↦ ?_⟩
    -- A reconciliation that had fresh reports ends, one way or the other.
    dsimp only at hlive
    split at hlive
    · cases hlive
    · cases hlive

theorem advanceDhcpSelfHeal_effect : MaintenanceEffect c m (advanceDhcpSelfHeal c m now) := by
  unfold advanceDhcpSelfHeal
  dsimp only
  split
  · exact .refl
  split
  · unfold cancelSelfHeal
    dsimp only
    split
    · split
      · exact .refl
      · refine .single rfl rfl ?_ le_rfl (.inr ⟨rfl, rfl⟩)
        exact ⟨rfl, rfl, rfl, rfl, rfl, rfl, fun h ↦ by cases h⟩
    · exact .refl
  split
  · split
    · exact .refl
    split
    · refine .single rfl rfl ?_ le_rfl (.inr ⟨rfl, rfl⟩)
      exact ⟨rfl, rfl, rfl, rfl, rfl, rfl, fun h ↦ by cases h⟩
    split
    · exact failDhcpSelfHeal_effect _
    · exact .refl
  · exact failDhcpSelfHeal_effect _

/-! ### Offered actions -/

/-- What an offered maintenance action is: the action of the active run, in a phase that waits for
its result. -/
theorem desiredMaintenanceAction_eq_some {a : DhcpAction}
    (h : desiredMaintenanceAction c n now = some a) :
    ∃ m, activeMaintenance c = some m ∧ (c.maintenanceRun m).status = .running ∧
      a = maintenanceAction c m n a.actionType a.configurationOnly a.ownerHandoverAuthorised ∧
      ∃ phase, phaseAfterResult (c.maintenanceRun m) = some phase := by
  unfold desiredMaintenanceAction at h
  split at h
  · cases h
  rename_i m hm
  dsimp only at h
  split at h <;> rename_i hrun
  · cases h
  refine ⟨m, hm, not_not.1 hrun, ?_⟩
  split at h <;> rename_i hoper
  · cases h
  · unfold selfHealAction at h
    dsimp only at h
    split at h
    · cases h
    have hph : phaseAfterResult (c.maintenanceRun m) = some .verifyingDhcpRepair := by
      unfold phaseAfterResult
      rw [if_pos hoper]
    split at h
    · cases h
    · cases h
      exact ⟨rfl, _, hph⟩
    · split at h
      · cases h
        exact ⟨rfl, _, hph⟩
      · cases h
  · have hother : (c.maintenanceRun m).operation ≠ .dhcpSelfHeal := by
      rw [hoper]
      decide
    unfold reinitialisationAction at h
    dsimp only at h
    split at h
    · cases h
    split at h <;> rename_i hdemoting
    · split at h
      · cases h
        refine ⟨rfl, .verifyingDhcpRelease, ?_⟩
        unfold phaseAfterResult
        rw [if_neg hother, hdemoting.1]
      · cases h
    split at h <;> rename_i hprom
    · cases h
      refine ⟨rfl, .verifyingDhcpActivation, ?_⟩
      unfold phaseAfterResult
      rw [if_neg hother, hprom.1]
    · cases h

theorem recordMaintenanceActionResult_effect {action : DhcpActionType} {generation : ℕ}
    {checksum : Option Digest} {status : ResultStatus} {message : String} {c' : HACluster}
    (h : recordMaintenanceActionResult c n action generation checksum status message now =
      .ok c') : ∃ m, activeMaintenance c = some m ∧ MaintenanceEffect c m c' := by
  unfold recordMaintenanceActionResult at h
  split at h <;> try cases h
  rename_i m expected hm hexp
  refine ⟨m, hm, ?_⟩
  split at h
  · cases h
  have hnote (status : ResultStatus) : MaintenanceEffect c m (noteActionResult c m status message) :=
    modifyMaintenance_effect fun _ ↦ ⟨rfl, rfl, rfl, rfl, rfl, rfl, fun _ ↦ rfl⟩
  dsimp only at h
  split at h
  · cases h
    exact (hnote _).trans (setPhase_effect _) rfl
  · cases h
    refine (hnote _).trans (setPhase_modify_effect _ fun _ ↦ ?_) rfl
    exact ⟨rfl, rfl, rfl, rfl, rfl, rfl, fun _ ↦ rfl⟩
  · cases h
    exact hnote _
  · cases h
    exact (hnote _).trans (failSafe_effect _) rfl

end Effects

end Kaya.HA
