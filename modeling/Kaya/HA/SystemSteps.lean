import Kaya.HA.MaintenanceSteps
import Kaya.HA.System

/-!
# What a step of the system can do

The inversion lemmas of the machine. Every event is analysed once, here, and the laws of the later
modules are read off the results.

* `StepKind` — what a unit of work does to the failover and maintenance runs: nothing, an advance of
  the active failover run or a result for it, an accepted rollback, a new failover run, a step of an
  active maintenance run, a new maintenance run. `step_kind` says that there is nothing else.
* `AcceptedResult` — what a stored action result rests on (`commitActionResult_cases`).
* `Steady` — what no unit of work changes, apart from storing an accepted result (`step_steady`).

Everything else is frame: `ownershipFrame` forgets what the ownership reconciliation writes, as
`failoverFrame` and `maintenanceFrame` do for the two engines.
-/

namespace Kaya.HA

/-! ### The frame of ownership reconciliation -/

/-- A node row without the columns ownership reconciliation writes. -/
def HANode.withoutOwnership (node : HANode) : HANode :=
  { node with role := .standby, desiredRole := .standby, vrrpPriority := none, vipOwned := false }

/-- A cluster without the columns ownership reconciliation writes. -/
def ownershipFrame (c : HACluster) : HACluster :=
  { c with
    status := .draft, authoritativeNodeId := none, currentActiveNodeId := none
    preferredNodeId := none, roleGeneration := 0, events := []
    nodes := c.nodes.map HANode.withoutOwnership }

section Ownership

variable (c : HACluster) (now : DateTime)

/-- A conflict is reported in the events. -/
theorem reportConflict_writes (previous : ClusterStatus) (reporting : Option NodeId)
    (pending : Bool) :
    ∃ events, reportConflict c previous reporting pending now = { c with events := events } := by
  unfold reportConflict
  split
  · split
    · exact ⟨_, rfl⟩
    · exact ⟨_, rfl⟩
  · split
    · exact ⟨_, rfl⟩
    · exact ⟨_, rfl⟩

/-- A conflict is reclassified in the events. -/
theorem reclassifyConflict_writes (since : DateTime) (until? : Option DateTime) :
    ∃ events, reclassifyConflict c since until? = { c with events := events } := by
  unfold reclassifyConflict
  split
  · exact ⟨_, rfl⟩
  · exact ⟨_, rfl⟩

theorem ownershipFrame_mapNodes {f : NodeId → HANode → HANode}
    (h : ∀ n node, (f n node).withoutOwnership = node.withoutOwnership) :
    ownershipFrame (c.mapNodes f) = ownershipFrame c := by
  unfold ownershipFrame HACluster.mapNodes
  simp only [Table.map_mapRows c.nodes h]

theorem ownershipFrame_reportConflict (previous : ClusterStatus) (reporting : Option NodeId)
    (pending : Bool) :
    ownershipFrame (reportConflict c previous reporting pending now) = ownershipFrame c := by
  obtain ⟨events, hwrit⟩ := reportConflict_writes c now previous reporting pending
  rw [hwrit]
  rfl

theorem ownershipFrame_adoptOwner (previous : Option NodeId) (owner : NodeId) (completed : Bool) :
    ownershipFrame (adoptOwner c previous owner completed now) = ownershipFrame c := by
  unfold adoptOwner
  dsimp only
  split
  · exact ownershipFrame_mapNodes c fun _ _ ↦ rfl
  · rfl

theorem ownershipFrame_reclassifyConflict (since : DateTime) (until? : Option DateTime) :
    ownershipFrame (reclassifyConflict c since until?) = ownershipFrame c := by
  obtain ⟨events, hwrit⟩ := reclassifyConflict_writes c since until?
  rw [hwrit]
  rfl

theorem ownershipFrame_retireOwners (owner : NodeId) (completed : HAEvent) :
    ownershipFrame (retireOwners c owner completed now) = ownershipFrame c := by
  unfold retireOwners
  rw [ownershipFrame_reclassifyConflict]
  refine ownershipFrame_mapNodes c fun n node ↦ ?_
  split
  · rfl
  · rfl

theorem reconcileVipOwnership_frame (reporting : Option NodeId) :
    ownershipFrame (reconcileVipOwnership c reporting now) = ownershipFrame c := by
  have hreport : ownershipFrame (reportConflict (observeOwner c (transitionPending c reporting now)
      now) c.status reporting (transitionPending c reporting now) now) = ownershipFrame c :=
    ownershipFrame_reportConflict _ now _ _ _
  unfold reconcileVipOwnership
  split
  · rfl
  dsimp only
  split
  · exact hreport
  split
  · exact (ownershipFrame_adoptOwner _ now _ _ _).trans hreport
  · exact (ownershipFrame_retireOwners _ now _ _).trans
      ((ownershipFrame_adoptOwner _ now _ _ _).trans hreport)

theorem evaluateRecovery_frame : ownershipFrame (evaluateRecovery c) = ownershipFrame c := by
  unfold evaluateRecovery
  split
  · rfl
  · rfl

theorem ingestEvent_frame (n : NodeId) (event : HAAgentEventItem) :
    ownershipFrame (ingestEvent c n event now) = ownershipFrame c := by
  unfold ingestEvent adoptVerifiedAutomaticOwner
  dsimp only
  split
  · rfl
  split
  · rfl
  split
  · rfl
  · rw [ownershipFrame_reclassifyConflict]
    exact ownershipFrame_mapNodes c fun _ _ ↦ rfl

/-! ### Generations never fall -/

theorem adoptOwner_roleGeneration (previous : Option NodeId) (owner : NodeId) (completed : Bool) :
    c.roleGeneration ≤ (adoptOwner c previous owner completed now).roleGeneration := by
  unfold adoptOwner
  dsimp only
  split
  · exact Nat.le_succ _
  · exact le_rfl

theorem reportConflict_roleGeneration (previous : ClusterStatus) (reporting : Option NodeId)
    (pending : Bool) :
    (reportConflict c previous reporting pending now).roleGeneration = c.roleGeneration := by
  obtain ⟨events, hwrit⟩ := reportConflict_writes c now previous reporting pending
  rw [hwrit]

theorem reclassifyConflict_roleGeneration (since : DateTime) (until? : Option DateTime) :
    (reclassifyConflict c since until?).roleGeneration = c.roleGeneration := by
  obtain ⟨events, hwrit⟩ := reclassifyConflict_writes c since until?
  rw [hwrit]

theorem reconcileVipOwnership_roleGeneration (reporting : Option NodeId) :
    c.roleGeneration ≤ (reconcileVipOwnership c reporting now).roleGeneration := by
  have hreport : (reportConflict (observeOwner c (transitionPending c reporting now) now) c.status
      reporting (transitionPending c reporting now) now).roleGeneration = c.roleGeneration :=
    reportConflict_roleGeneration _ now _ _ _
  unfold reconcileVipOwnership
  split
  · exact le_rfl
  dsimp only
  split
  · exact hreport.ge
  split
  · exact hreport.ge.trans (adoptOwner_roleGeneration _ now _ _ _)
  · unfold retireOwners
    rw [reclassifyConflict_roleGeneration]
    exact hreport.ge.trans (adoptOwner_roleGeneration _ now _ _ _)

theorem ingestEvent_roleGeneration (n : NodeId) (event : HAAgentEventItem) :
    c.roleGeneration ≤ (ingestEvent c n event now).roleGeneration := by
  unfold ingestEvent adoptVerifiedAutomaticOwner
  dsimp only
  split
  · exact le_rfl
  split
  · exact le_rfl
  split
  · exact le_rfl
  · rw [reclassifyConflict_roleGeneration]
    dsimp only
    split
    · exact Nat.le_succ _
    · exact le_rfl

end Ownership

/-! ### Accepted results -/

/-- A request that is refused changes nothing. -/
@[elab_as_elim]
theorem committed_of {c : HACluster} {request : Except String HACluster} {P : HACluster → Prop}
    (hsame : P c) (hok : ∀ c', request = .ok c' → P c') : P (committed c request) := by
  rcases request with message | c'
  · exact hsame
  · exact hok c' rfl

/-- What an accepted action result rests on: nothing was stored under its identifier, it answers the
action offered now, and the workflow it belongs to took it. -/
structure AcceptedResult (c : HACluster) (n : NodeId) (result : HAAgentActionResult)
    (now : DateTime) (c' : HACluster) : Prop where
  unstored : storedResult c result.actionId = none
  offered : ∃ expected, expectedAction c n result.actionType now = .ok (some expected) ∧
    result.actionId = expected.actionId ∧ result.generation = expected.generation ∧
    (result.status = .applied → result.checksum = some expected.checksum)
  applied : ∃ c₁, applyActionResult c n result now = .ok c₁ ∧ c' = storeResult c₁ n result

section Results

variable {c c' : HACluster} {n : NodeId} {result : HAAgentActionResult} {now : DateTime}

theorem acceptActionResult_eq_ok (hnone : storedResult c result.actionId = none)
    (h : acceptActionResult c n result now = .ok c') : AcceptedResult c n result now c' := by
  unfold acceptActionResult at h
  split at h <;> rename_i hexp
  · cases h
  · cases h
  split at h <;> rename_i hmatch
  · cases h
  split at h <;> rename_i hsum
  · cases h
  simp only [not_or, not_not] at hmatch
  refine ⟨hnone, ⟨_, hexp, hmatch.1, hmatch.2, fun happ ↦ ?_⟩, ?_⟩
  · by_contra hne
    exact hsum ⟨happ, hne⟩
  · rcases happly : applyActionResult c n result now with message | c₁ <;> rw [happly] at h
    · cases h
    · exact ⟨c₁, rfl, by cases h; rfl⟩

/-- A result that answers the action offered now, and that its workflow takes, is accepted. -/
theorem acceptActionResult_of_applied {expected : ExpectedAction} {c₁ : HACluster}
    (hexp : expectedAction c n result.actionType now = .ok (some expected))
    (hid : result.actionId = expected.actionId)
    (hgen : result.generation = expected.generation)
    (hsum : result.checksum = some expected.checksum)
    (happly : applyActionResult c n result now = .ok c₁) :
    acceptActionResult c n result now = .ok (storeResult c₁ n result) := by
  unfold acceptActionResult
  rw [hexp]
  dsimp only
  rw [if_neg (by simp [hid, hgen]), if_neg (by simp [hsum]), happly]
  rfl

/-- A committed result changes nothing, or it was accepted. -/
theorem commitActionResult_cases (c : HACluster) (n : NodeId) (result : HAAgentActionResult)
    (now : DateTime) :
    commitActionResult c n result now = c ∨
      AcceptedResult c n result now (commitActionResult c n result now) := by
  unfold commitActionResult
  split <;> rename_i hsto
  · exact .inl rfl
  rw [Option.not_isSome_iff_eq_none] at hsto
  rcases haccept : acceptActionResult c n result now with message | c'
  · exact .inl rfl
  · exact .inr (acceptActionResult_eq_ok hsto haccept)

end Results

/-! ### Runs, as a step leaves them -/

/-- The failover run `r` makes moves, and no other run changes. -/
structure RowMoves (c : HACluster) (now : DateTime) (r : RunId) (c' : HACluster) : Prop where
  ids : c'.failoverRuns.ids = c.failoverRuns.ids
  others : ∀ j, j ≠ r → c'.failoverRun j = c.failoverRun j
  moves : Relation.ReflTransGen (FailoverMove c now) (c.failoverRun r) (c'.failoverRun r)

theorem RunMoves.rows {c c' : HACluster} {now : DateTime} {r : RunId}
    (h : RunMoves c now r c c') : RowMoves c now r c' :=
  ⟨h.ids, h.others, h.moves⟩

/-- No active maintenance run changes; a finished one may lose its failure latch. -/
structure MaintenanceIdle (c c' : HACluster) : Prop where
  ids : c'.maintenanceRuns.ids = c.maintenanceRuns.ids
  rows : ∀ m, RunEvolves (c.maintenanceRun m) (c'.maintenanceRun m)
  active : ∀ m, (c.maintenanceRun m).status.isActive = true →
    c'.maintenanceRun m = c.maintenanceRun m

theorem MaintenanceIdle.of_eq {c c' : HACluster} (h : c'.maintenanceRuns = c.maintenanceRuns) :
    MaintenanceIdle c c' := by
  have hrow (m : RunId) : c'.maintenanceRun m = c.maintenanceRun m := by
    show c'.maintenanceRuns.row m = _
    rw [h]
  exact ⟨by rw [h], fun m ↦ by rw [hrow]; exact .refl _, fun m _ ↦ hrow m⟩

theorem MaintenanceIdle.trans {c₁ c₂ c₃ : HACluster} (h : MaintenanceIdle c₁ c₂)
    (h' : MaintenanceIdle c₂ c₃) : MaintenanceIdle c₁ c₃ where
  ids := h'.ids.trans h.ids
  rows m := (h.rows m).trans (h'.rows m)
  active m hm := by
    have hsame := h.active m hm
    rw [h'.active m (by rw [hsame]; exact hm), hsame]

/-- A step of the active maintenance run `m`. -/
structure MaintenanceMoves (c : HACluster) (m : RunId) (c' : HACluster) : Prop where
  mem : m ∈ c.maintenanceRuns.ids
  wasActive : (c.maintenanceRun m).status.isActive = true
  ids : c'.maintenanceRuns.ids = c.maintenanceRuns.ids
  others : ∀ j, j ≠ m → c'.maintenanceRun j = c.maintenanceRun j
  row : RunEvolves (c.maintenanceRun m) (c'.maintenanceRun m)
  mode : c'.maintenanceMode = c.maintenanceMode ∨
    (c'.maintenanceMode = false ∧ (c'.maintenanceRun m).status.isActive = false)
  failover : c'.failoverRuns = c.failoverRuns

theorem MaintenanceEffect.moves {c c' : HACluster} {m : RunId} (h : MaintenanceEffect c m c')
    (hm : m ∈ c.maintenanceRuns.ids) (hlive : (c.maintenanceRun m).status.isActive = true) :
    MaintenanceMoves c m c' := by
  have hfail := congrArg HACluster.failoverRuns h.frame
  exact ⟨hm, hlive, h.ids, h.others, h.row, h.mode, hfail⟩

/-- The row a new maintenance run starts with. -/
structure NewMaintenance (c c' : HACluster) (now : DateTime) (run : HAMaintenanceRun) : Prop where
  status : run.status = .running
  mode : run.operation = .reconcile ∨ c'.maintenanceMode = true
  startedAt : run.startedAt = now
  reinitialise : run.operation = .reinitialise →
    run.phase = .waitingForReports ∧ run.result = {} ∧ c.nodes.ids.length = 2 ∧
      ∃ target ∈ c.nodes.ids, run.desiredActiveNodeId = some target

/-- A new maintenance run, on a cluster without an active run of either kind. -/
structure MaintenanceStarts (c : HACluster) (now : DateTime) (c' : HACluster) : Prop where
  noMaintenance : activeMaintenance c = none
  noFailover : activeFailover c = none
  ids : c'.maintenanceRuns.ids = c.maintenanceRuns.ids ++ [c.maintenanceRuns.freshKey]
  old : ∀ m ∈ c.maintenanceRuns.ids, RunEvolves (c.maintenanceRun m) (c'.maintenanceRun m)
  new : NewMaintenance c c' now (c'.maintenanceRun c.maintenanceRuns.freshKey)
  failover : c'.failoverRuns = c.failoverRuns

/-! ### The kinds of steps -/

/-- What a unit of work does to the runs of the cluster. -/
inductive StepKind (c : HACluster) (now : DateTime) (a : Action) (c' : HACluster) : Prop
  /-- Neither engine does anything. -/
  | idle (hfail : c'.failoverRuns = c.failoverRuns) (hmaint : MaintenanceIdle c c')
      (hmode : c'.maintenanceMode = c.maintenanceMode)
  /-- The engine advances the active failover run. -/
  | advanced (r : RunId) (ha : a = .advanceFailover) (hr : activeFailover c = some r)
      (hmoves : RowMoves c now r c') (hmaint : c'.maintenanceRuns = c.maintenanceRuns)
  /-- An agent's result moves the active failover run to the next phase. -/
  | reported (r : RunId)
      (hrow : ∃ phase, (c.failoverRun r).phase.afterResult = some phase ∧
        c'.failoverRun r = { c.failoverRun r with
          phase, report := { (c.failoverRun r).report with verificationStartedAt := some now } })
      (hr : activeFailover c = some r) (hmoves : RowMoves c now r c')
      (hmaint : c'.maintenanceRuns = c.maintenanceRuns)
  /-- A rollback request is accepted. -/
  | rollback (r : RunId) (acknowledged : Bool) (ha : a = .requestFailoverRollback r acknowledged)
      (hr : r ∈ c.failoverRuns.ids) (hok : requestFailoverRollback c r acknowledged now = .ok c')
  /-- A failover run is created. -/
  | created (source target : NodeId) (confirmation : String) (acknowledged : Bool)
      (failback : Except String Unit) (answer : LeaseAnswer)
      (ha : a = .startControlledFailover target confirmation acknowledged failback answer)
      (hconf : acknowledged = true ∧ PyText.strip confirmation = c.name)
      (hrdy : (failoverReadiness c now).blockers = [])
      (hsrc : (failoverReadiness c now).source = some source)
      (htgt : (failoverReadiness c now).target = some target)
      (hc' : c' = (createFailoverRun (captured c (failoverReadiness c now).dhcpManaged answer now)
        source target (failoverReadiness c now).dhcpManaged now).1)
  /-- The active maintenance run takes a step. -/
  | maintenance (m : RunId) (hmoves : MaintenanceMoves c m c')
  /-- A maintenance run is started. -/
  | maintenanceStarted (hstart : MaintenanceStarts c now c')

section Kinds

variable {c c' : HACluster} {now : DateTime} {a : Action} {m : RunId}

/-- A step that leaves both tables of runs and the mode as they are. -/
theorem StepKind.of_eq (hfail : c'.failoverRuns = c.failoverRuns)
    (hmaint : c'.maintenanceRuns = c.maintenanceRuns)
    (hmode : c'.maintenanceMode = c.maintenanceMode) : StepKind c now a c' :=
  .idle hfail (.of_eq hmaint) hmode

theorem StepKind.refl : StepKind c now a c := .of_eq rfl rfl rfl

theorem StepKind.of_ownershipFrame (h : ownershipFrame c' = ownershipFrame c) :
    StepKind c now a c' := by
  have hfail := congrArg HACluster.failoverRuns h
  have hmaint := congrArg HACluster.maintenanceRuns h
  have hmode := congrArg HACluster.maintenanceMode h
  exact .of_eq hfail hmaint hmode

theorem StepKind.of_advance {r : RunId} (hr : activeFailover c = some r) :
    StepKind c now .advanceFailover (advanceFailover c now) := by
  have hmoves : RunMoves c now r c (advanceFailover c now) := advanceFailover_moves hr
  have hmaint := congrArg HACluster.maintenanceRuns hmoves.frame
  exact .advanced r rfl hr hmoves.rows hmaint

theorem StepKind.of_result {n : NodeId} {action : DhcpActionType} {generation : ℕ}
    {checksum : Option Digest} {status : ResultStatus} {message : String}
    (h : recordFailoverActionResult c n action generation checksum status message now = .ok c') :
    StepKind c now a c' := by
  obtain ⟨r, phase, hr, hph, hc'⟩ := recordFailoverActionResult_eq_ok h
  obtain ⟨r', hr', hmoves⟩ := recordFailoverActionResult_moves h
  obtain rfl : r' = r := Option.some.inj (hr'.symm.trans hr)
  have hmaint := congrArg HACluster.maintenanceRuns hmoves.frame
  refine .reported r' ⟨phase, hph, ?_⟩ hr hmoves.rows hmaint
  rw [hc', HACluster.failoverRun, reported_failoverRuns, Table.modify_row_self]

/-- Storing the result afterwards changes no run. -/
theorem StepKind.storeResult {n : NodeId} {result : HAAgentActionResult}
    (hrollback : ∀ r acknowledged, a ≠ .requestFailoverRollback r acknowledged)
    (hstart : ∀ t k b f l, a ≠ .startControlledFailover t k b f l)
    (h : StepKind c now a c') : StepKind c now a (storeResult c' n result) := by
  cases h with
  | idle hfail hmaint hmode =>
    exact .idle hfail ⟨hmaint.ids, hmaint.rows, hmaint.active⟩ hmode
  | advanced r ha hr hmoves hmaint =>
    exact .advanced r ha hr ⟨hmoves.ids, hmoves.others, hmoves.moves⟩ hmaint
  | reported r hrow hr hmoves hmaint =>
    exact .reported r hrow hr ⟨hmoves.ids, hmoves.others, hmoves.moves⟩ hmaint
  | rollback r acknowledged ha => exact absurd ha (hrollback r acknowledged)
  | created source target confirmation acknowledged failback answer ha =>
    exact absurd ha (hstart _ _ _ _ _)
  | maintenance m h =>
    exact .maintenance m ⟨h.mem, h.wasActive, h.ids, h.others, h.row, h.mode, h.failover⟩
  | maintenanceStarted h =>
    refine .maintenanceStarted ⟨h.noMaintenance, h.noFailover, h.ids, h.old, ?_, h.failover⟩
    exact ⟨h.new.status, h.new.mode, h.new.startedAt, h.new.reinitialise⟩

/-! #### Results -/

theorem applyKeepalivedResult_runs (n : NodeId) (result : HAAgentActionResult) :
    (applyKeepalivedResult c n result).failoverRuns = c.failoverRuns ∧
      (applyKeepalivedResult c n result).maintenanceRuns = c.maintenanceRuns ∧
      (applyKeepalivedResult c n result).maintenanceMode = c.maintenanceMode := by
  unfold applyKeepalivedResult
  split
  · exact ⟨rfl, rfl, rfl⟩
  · dsimp only
    split
    · exact ⟨rfl, rfl, rfl⟩
    · exact ⟨rfl, rfl, rfl⟩

theorem recordLeaseStageResult_runs {n : NodeId} {generation : ℕ} {checksum : Option Digest}
    {status : ResultStatus} {message : String}
    (h : recordLeaseStageResult c n generation checksum status message = .ok c') :
    c'.failoverRuns = c.failoverRuns ∧ c'.maintenanceRuns = c.maintenanceRuns ∧
      c'.maintenanceMode = c.maintenanceMode := by
  obtain ⟨state, snapshots, rfl | rfl⟩ := recordLeaseStageResult_writes h
  · exact ⟨rfl, rfl, rfl⟩
  · exact ⟨rfl, rfl, rfl⟩

theorem applyActionResult_kind {n : NodeId} {result : HAAgentActionResult}
    (h : applyActionResult c n result now = .ok c') : StepKind c now a c' := by
  unfold applyActionResult at h
  split at h
  · cases h
    exact .of_eq rfl rfl rfl
  · obtain ⟨hfail, hmaint, hmode⟩ := recordLeaseStageResult_runs h
    exact .of_eq hfail hmaint hmode
  · cases h
    obtain ⟨hfail, hmaint, hmode⟩ := applyKeepalivedResult_runs (c := c) n result
    exact .of_eq hfail hmaint hmode
  · split at h
    · obtain ⟨m, hm, heffect⟩ := recordMaintenanceActionResult_effect h
      obtain ⟨hmem, hlive⟩ := Table.newest?_eq_some hm
      exact .maintenance m (heffect.moves hmem hlive)
    · exact .of_result h

/-! #### Maintenance -/

theorem reconcileClusterState_kind {stalled : StalledRecovery} (hm : m ∈ c.maintenanceRuns.ids) :
    StepKind c now a (reconcileClusterState c m stalled now) := by
  by_cases hlive : (c.maintenanceRun m).status.isActive = true
  · exact .maintenance m (reconcileClusterState_effect.moves hm hlive)
  · have hsame : reconcileClusterState c m stalled now = c := by
      unfold reconcileClusterState
      exact if_pos (.inr (by simpa using hlive))
    rw [hsame]
    exact .refl

theorem isActive_of_running (h : (c.maintenanceRun m).status = .running) :
    (c.maintenanceRun m).status.isActive = true := by
  rw [h]
  rfl

theorem advanceReinitialisation_kind {inputs : ReinitialisationInputs} {processStartedAt : DateTime}
    (hm : m ∈ c.maintenanceRuns.ids) :
    StepKind c now a (advanceReinitialisation c m inputs processStartedAt now) := by
  by_cases hrun : (c.maintenanceRun m).status = .running
  · exact .maintenance m (advanceReinitialisation_effect.moves hm (isActive_of_running hrun))
  · have hsame : advanceReinitialisation c m inputs processStartedAt now = c := by
      unfold advanceReinitialisation
      exact if_pos (.inr hrun)
    rw [hsame]
    exact .refl

theorem advanceDhcpSelfHeal_kind (hm : m ∈ c.maintenanceRuns.ids) :
    StepKind c now a (advanceDhcpSelfHeal c m now) := by
  by_cases hrun : (c.maintenanceRun m).status = .running
  · exact .maintenance m (advanceDhcpSelfHeal_effect.moves hm (isActive_of_running hrun))
  · have hsame : advanceDhcpSelfHeal c m now = c := by
      unfold advanceDhcpSelfHeal
      exact if_pos (.inr hrun)
    rw [hsame]
    exact .refl

/-- The row of an inserted run, and that the others stay. -/
theorem insertMaintenance_starts {run : HAMaintenanceRun} {c₁ : HACluster}
    (hmaint : activeMaintenance c = none) (hfail : activeFailover c = none)
    (hidle : MaintenanceIdle c c₁) (hruns : c₁.failoverRuns = c.failoverRuns)
    (hnew : NewMaintenance c c₁ now run) : MaintenanceStarts c now (insertMaintenance c₁ run) := by
  have hkey : c₁.maintenanceRuns.freshKey = c.maintenanceRuns.freshKey := by
    unfold Table.freshKey
    rw [hidle.ids]
  refine ⟨hmaint, hfail, ?_, fun m hm ↦ ?_, ?_, hruns⟩
  · show (c₁.maintenanceRuns.insert run).ids = _
    rw [Table.insert_ids, hidle.ids, hkey]
  · have hrow : (insertMaintenance c₁ run).maintenanceRun m = c₁.maintenanceRun m :=
      Table.insert_row_of_mem _ _ (by rw [hidle.ids]; exact hm)
    rw [hrow]
    exact hidle.rows m
  · have hrow : (insertMaintenance c₁ run).maintenanceRun c.maintenanceRuns.freshKey = run := by
      rw [← hkey]
      exact Table.insert_row_fresh _ _
    rw [hrow]
    exact ⟨hnew.status, hnew.mode, hnew.startedAt, hnew.reinitialise⟩

theorem startReconciliation_kind (h : startReconciliation c now = .ok c') :
    StepKind c now a c' := by
  obtain ⟨hmaint, hfail, rfl⟩ := startReconciliation_eq_ok h
  refine .maintenanceStarted (insertMaintenance_starts hmaint hfail (.of_eq rfl) rfl ?_)
  exact ⟨rfl, .inl rfl, rfl, fun h ↦ by cases h⟩

theorem startReinitialisation_kind {desiredActive authority : NodeId} {acknowledged : Bool}
    (h : startReinitialisation c desiredActive authority acknowledged now = .ok c') :
    StepKind c now a c' := by
  obtain ⟨⟨hdes, htwo⟩, hmaint, hfail, rfl⟩ := startReinitialisation_eq_ok h
  refine .maintenanceStarted (insertMaintenance_starts hmaint hfail (.of_eq rfl) rfl ?_)
  exact ⟨rfl, .inr rfl, rfl, fun _ ↦ ⟨rfl, rfl, htwo, desiredActive, hdes, rfl⟩⟩

/-- Dropping a failure latch. -/
theorem RunEvolves.unlatch (run : HAMaintenanceRun) :
    RunEvolves run { run with result := { run.result with latchActive := false } } :=
  ⟨rfl, rfl, rfl, rfl, rfl, rfl, fun _ ↦ rfl⟩

theorem isActive_of_isFailedSelfHeal {run : HAMaintenanceRun} (h : isFailedSelfHeal run = true) :
    run.status.isActive = false := by
  simp only [isFailedSelfHeal, decide_eq_true_eq] at h
  rw [h.2]
  rfl

theorem clearChangedDhcpFailureLatches_idle (fingerprint : Digest) :
    MaintenanceIdle c (clearChangedDhcpFailureLatches c fingerprint) := by
  have hrow (m : RunId) : (clearChangedDhcpFailureLatches c fingerprint).maintenanceRun m =
      c.maintenanceRun m ∨ (isFailedSelfHeal (c.maintenanceRun m) = true ∧
      (clearChangedDhcpFailureLatches c fingerprint).maintenanceRun m =
        { c.maintenanceRun m with
          result := { (c.maintenanceRun m).result with latchActive := false } }) := by
    unfold clearChangedDhcpFailureLatches
    simp only [HACluster.maintenanceRun, Table.mapRows_row]
    split
    · split <;> rename_i hfailed
      · exact .inr ⟨hfailed.1, rfl⟩
      · exact .inl rfl
    · exact .inl rfl
  refine ⟨rfl, fun m ↦ ?_, fun m hlive ↦ ?_⟩
  · rcases hrow m with hsame | ⟨-, hcleared⟩
    · rw [hsame]
      exact .refl _
    · rw [hcleared]
      exact .unlatch _
  · rcases hrow m with hsame | ⟨hfailed, -⟩
    · exact hsame
    · rw [isActive_of_isFailedSelfHeal hfailed] at hlive
      cases hlive

theorem unlatch_idle (hm : isFailedSelfHeal (c.maintenanceRun m) = true) :
    MaintenanceIdle c (c.modifyMaintenance m fun run ↦
      { run with result := { run.result with latchActive := false } }) := by
  refine ⟨rfl, fun j ↦ ?_, fun j hlive ↦ ?_⟩
  · simp only [HACluster.maintenanceRun, HACluster.modifyMaintenance, Table.modify_row]
    split
    · exact .unlatch _
    · exact .refl _
  · have hj : j ≠ m := by
      rintro rfl
      rw [isActive_of_isFailedSelfHeal hm] at hlive
      cases hlive
    simp only [HACluster.maintenanceRun, HACluster.modifyMaintenance, Table.modify_row, if_neg hj]

theorem startDhcpSelfHeal_kind {forceRetry : Bool} :
    StepKind c now a (startDhcpSelfHeal c forceRetry now) := by
  unfold startDhcpSelfHeal
  split <;> rename_i hallow
  · exact .refl
  simp only [selfHealAllowed, Bool.not_eq_true', decide_eq_false_iff_not, not_not,
    Option.isNone_iff_eq_none] at hallow
  obtain ⟨-, -, -, -, hmaint, -, hfail⟩ := hallow
  dsimp only
  generalize dhcpTopologyFingerprint c (reconcileTopology c (.topology now)) now = fingerprint
  have hcleared := clearChangedDhcpFailureLatches_idle (c := c) fingerprint
  split
  · exact .idle rfl hcleared rfl
  split
  · exact .idle rfl hcleared rfl
  generalize Digest.drift _ _ fingerprint = signature
  split
  · exact .idle rfl hcleared rfl
  refine .maintenanceStarted (insertMaintenance_starts hmaint hfail ?_ ?_ ?_)
  · split
    · exact hcleared.trans (.of_eq rfl)
    · rename_i latch hlatch
      have hfailed := (Table.newest?_eq_some hlatch).2
      simp only [decide_eq_true_eq] at hfailed
      exact hcleared.trans ((unlatch_idle hfailed.1).trans (.of_eq rfl))
  · split
    · rfl
    · rfl
  · exact ⟨rfl, .inr rfl, rfl, fun h ↦ by cases h⟩

/-! #### All events -/

theorem persistLeasePlan_kind (plan : Except String LeasePlan) :
    StepKind c now a (persistLeasePlan c now plan).1 := by
  obtain ⟨hmaint, -, hmode⟩ := persistLeasePlan_maintenance c now plan
  have hfail := congrArg HACluster.failoverRuns (maintenanceFrame_persist c now plan)
  exact .of_eq hfail hmaint hmode

theorem captured_failoverRuns (c : HACluster) (managed : Bool) (answer : LeaseAnswer)
    (now : DateTime) : (captured c managed answer now).failoverRuns = c.failoverRuns := by
  unfold captured
  split
  · have hframe := maintenanceFrame_persist c now (inspectClusterLeases c answer)
    have hruns := congrArg HACluster.failoverRuns hframe
    exact hruns
  · rfl

theorem captured_maintenanceRuns (c : HACluster) (managed : Bool) (answer : LeaseAnswer)
    (now : DateTime) : (captured c managed answer now).maintenanceRuns = c.maintenanceRuns := by
  unfold captured
  split
  · exact (persistLeasePlan_maintenance c now (inspectClusterLeases c answer)).1
  · rfl

/-- The rows after a run has been created: the old ones, and the new one under a fresh key. -/
theorem created_row {source target : NodeId} {managed : Bool} {answer : LeaseAnswer}
    {c' : HACluster} {r : RunId}
    (hc' : c' = (createFailoverRun (captured c managed answer now) source target managed now).1)
    (hr : r ∈ c'.failoverRuns.ids) :
    (r ∈ c.failoverRuns.ids ∧ c'.failoverRun r = c.failoverRun r) ∨
      NewRun (captured c managed answer now) source target managed now (c'.failoverRun r) := by
  have hbase := captured_failoverRuns c managed answer now
  rw [hc', createFailoverRun_ids, List.mem_append, List.mem_singleton] at hr
  rw [hc']
  rcases hr with hold | rfl
  · left
    rw [createFailoverRun_old _ _ _ _ _ hold, HACluster.failoverRun, hbase]
    exact ⟨hbase ▸ hold, rfl⟩
  · exact .inr (createFailoverRun_new _ _ _ _ _)

theorem startControlledFailover_kind {target : NodeId} {confirmation : String}
    {acknowledged : Bool} {failback : Except String Unit} {answer : LeaseAnswer} :
    StepKind c now (.startControlledFailover target confirmation acknowledged failback answer)
      (startControlledFailover c target confirmation acknowledged failback answer now).1 := by
  rcases startControlledFailover_cases c now target confirmation acknowledged failback
    answer with hsame | ⟨-, -, hcapt⟩ | ⟨source, hconf, hrdy, hsrc, htgt, hcreated⟩
  · rw [hsame]
    exact .refl
  · rw [hcapt]
    exact persistLeasePlan_kind _
  · exact .created source target confirmation acknowledged failback answer rfl hconf hrdy
      hsrc htgt hcreated

end Kinds

/-- Which kind of step each unit is. -/
theorem clusterStep_kind (s : Sys) (now : DateTime) (a : Action) :
    StepKind s.cluster now a (clusterStep s now a) := by
  cases a with
  | observe n node => exact .of_eq rfl rfl rfl
  | heartbeat n hb =>
    dsimp only [clusterStep]
    split
    · exact .of_eq rfl rfl rfl
    · exact .refl
  | reconcileVipOwnership reporting => exact .of_ownershipFrame (reconcileVipOwnership_frame _ _ _)
  | evaluateRecovery => exact .of_ownershipFrame (evaluateRecovery_frame _)
  | actionResult n result =>
    dsimp only [clusterStep]
    split
    · exact .refl
    rcases commitActionResult_cases s.cluster n result now with hsame | hacc
    · rw [hsame]
      exact .refl
    · obtain ⟨c₁, happly, hstore⟩ := hacc.applied
      rw [hstore]
      exact (applyActionResult_kind happly).storeResult (by simp) (by simp)
  | ingestEvent n event => exact .of_ownershipFrame (ingestEvent_frame _ _ _ _)
  | startControlledFailover => exact startControlledFailover_kind
  | advanceFailover =>
    show StepKind s.cluster now _ (advanceFailover s.cluster now)
    rcases hr : activeFailover s.cluster with - | r
    · rw [advanceFailover_of_none hr]
      exact .refl
    · exact .of_advance hr
  | requestFailoverRollback r acknowledged =>
    dsimp only [clusterStep]
    split <;> rename_i hr
    · rcases hreq : requestFailoverRollback s.cluster r acknowledged now with message | c'
      · exact .refl
      · exact .rollback r acknowledged rfl hr hreq
    · exact .refl
  | startReconciliation =>
    show StepKind s.cluster now _ (committed s.cluster (startReconciliation s.cluster now))
    rcases hstart : startReconciliation s.cluster now with message | c'
    · exact .refl
    · exact startReconciliation_kind hstart
  | reconcileClusterState m stalled =>
    dsimp only [clusterStep]
    split <;> rename_i hm
    · exact reconcileClusterState_kind hm
    · exact .refl
  | startReinitialisation desiredActive authority acknowledged =>
    show StepKind s.cluster now _ (committed s.cluster
      (startReinitialisation s.cluster desiredActive authority acknowledged now))
    rcases hstart : startReinitialisation s.cluster desiredActive authority acknowledged now with
      message | c'
    · exact .refl
    · exact startReinitialisation_kind hstart
  | advanceReinitialisation m inputs =>
    dsimp only [clusterStep]
    split <;> rename_i hm
    · exact advanceReinitialisation_kind hm
    · exact .refl
  | startDhcpSelfHeal forceRetry => exact startDhcpSelfHeal_kind
  | advanceDhcpSelfHeal m =>
    dsimp only [clusterStep]
    split <;> rename_i hm
    · exact advanceDhcpSelfHeal_kind hm
    · exact .refl
  | reconcileClusterLeases answer => exact persistLeasePlan_kind _
  | persistLeaseInspection inputs answer =>
    dsimp only [clusterStep]
    split
    · exact persistLeasePlan_kind _
    · exact .refl
  | _ => exact .refl

/-- **Inversion.** Every step is of one of the kinds. -/
theorem step_kind (s : Sys) (e : Event) : StepKind s.cluster e.now e.action (step s e).cluster :=
  clusterStep_kind s e.now e.action

/-- What a step does to the maintenance runs alone: they evolve, or a new one is started. -/
theorem maintenance_step (s : Sys) (e : Event) :
    ((step s e).cluster.maintenanceRuns.ids = s.cluster.maintenanceRuns.ids ∧
      ∀ m ∈ s.cluster.maintenanceRuns.ids,
        RunEvolves (s.cluster.maintenanceRun m) ((step s e).cluster.maintenanceRun m)) ∨
    MaintenanceStarts s.cluster e.now (step s e).cluster := by
  have hsame (h : (step s e).cluster.maintenanceRuns = s.cluster.maintenanceRuns) :
      (step s e).cluster.maintenanceRuns.ids = s.cluster.maintenanceRuns.ids ∧
      ∀ m ∈ s.cluster.maintenanceRuns.ids,
        RunEvolves (s.cluster.maintenanceRun m) ((step s e).cluster.maintenanceRun m) := by
    unfold HACluster.maintenanceRun
    rw [h]
    exact ⟨rfl, fun m _ ↦ .refl _⟩
  cases step_kind s e with
  | idle _ h => exact .inl ⟨h.ids, fun m _ ↦ h.rows m⟩
  | advanced _ _ _ _ h => exact .inl (hsame h)
  | reported _ _ _ _ h => exact .inl (hsame h)
  | rollback _ _ _ _ hok =>
    have h := congrArg HACluster.maintenanceRuns (requestFailoverRollback_moves hok).frame
    exact .inl (hsame h)
  | created source target _ _ _ answer _ _ _ _ _ hc' =>
    have h := congrArg HACluster.maintenanceRuns (createFailoverRun_frame (captured s.cluster
      (failoverReadiness s.cluster e.now).dhcpManaged answer e.now) e.now source target
      (failoverReadiness s.cluster e.now).dhcpManaged)
    rw [← hc'] at h
    exact .inl (hsame (h.trans (captured_maintenanceRuns ..)))
  | maintenance k h =>
    refine .inl ⟨h.ids, fun m _ ↦ ?_⟩
    by_cases hk : m = k
    · subst hk
      exact h.row
    · rw [h.others m hk]
      exact .refl _
  | maintenanceStarted h => exact .inr h

/-! ### What no step changes -/

/-- The nodes and the deployment mode are the same, no result is stored, and the role generation has
not fallen. -/
structure Steady (c c' : HACluster) : Prop where
  nodeIds : c'.nodes.ids = c.nodes.ids
  mode : c'.deploymentMode = c.deploymentMode
  results : c'.actionResults = c.actionResults
  generation : c.roleGeneration ≤ c'.roleGeneration

namespace Steady

variable {c c' : HACluster} {now : DateTime} {m : RunId}

theorem refl : Steady c c := ⟨rfl, rfl, rfl, le_rfl⟩

/-- Any of the three frames keeps what a steady step keeps. -/
theorem of_frame (frame : HACluster → HACluster)
    (hkept : ∀ c, (frame c).nodes.ids = c.nodes.ids ∧
      (frame c).deploymentMode = c.deploymentMode ∧ (frame c).actionResults = c.actionResults)
    (h : frame c' = frame c) (hgen : c.roleGeneration ≤ c'.roleGeneration) :
    Steady c c' := by
  obtain ⟨hids, hmode, hresults⟩ := hkept c
  obtain ⟨hids', hmode', hresults'⟩ := hkept c'
  rw [h] at hids' hmode' hresults'
  exact ⟨hids'.symm.trans hids, hmode'.symm.trans hmode, hresults'.symm.trans hresults, hgen⟩

theorem of_ownershipFrame (h : ownershipFrame c' = ownershipFrame c)
    (hgen : c.roleGeneration ≤ c'.roleGeneration) : Steady c c' :=
  .of_frame ownershipFrame (fun _ ↦ ⟨rfl, rfl, rfl⟩) h hgen

theorem of_failoverFrame (h : failoverFrame c' = failoverFrame c)
    (hgen : c.roleGeneration ≤ c'.roleGeneration) : Steady c c' :=
  .of_frame failoverFrame (fun _ ↦ ⟨rfl, rfl, rfl⟩) h hgen

theorem of_maintenanceFrame (h : maintenanceFrame c' = maintenanceFrame c)
    (hgen : c.roleGeneration ≤ c'.roleGeneration) : Steady c c' :=
  .of_frame maintenanceFrame (fun _ ↦ ⟨rfl, rfl, rfl⟩) h hgen

theorem of_effect (h : MaintenanceEffect c m c') : Steady c c' :=
  .of_maintenanceFrame h.frame h.generation

theorem trans {c₁ c₂ c₃ : HACluster} (h : Steady c₁ c₂) (h' : Steady c₂ c₃) : Steady c₁ c₃ :=
  ⟨h'.nodeIds.trans h.nodeIds, h'.mode.trans h.mode, h'.results.trans h.results,
    h.generation.trans h'.generation⟩

theorem persist (plan : Except String LeasePlan) : Steady c (persistLeasePlan c now plan).1 :=
  .of_maintenanceFrame (maintenanceFrame_persist c now plan)
    (persistLeasePlan_maintenance c now plan).2.1.ge

theorem createFailoverRun (source target : NodeId) (managed : Bool) :
    Steady c (createFailoverRun c source target managed now).1 := by
  refine .of_failoverFrame (createFailoverRun_frame c now source target managed) ?_
  unfold HA.createFailoverRun
  dsimp only
  split
  · exact Nat.le_succ _
  · exact Nat.le_succ _

theorem startControlledFailover (target : NodeId) (confirmation : String) (acknowledged : Bool)
    (failback : Except String Unit) (answer : LeaseAnswer) :
    Steady c
      (startControlledFailover c target confirmation acknowledged failback answer now).1 := by
  rcases startControlledFailover_cases c now target confirmation acknowledged failback
    answer with hsame | ⟨-, -, hcapt⟩ | ⟨source, -, -, -, -, hcreated⟩
  · rw [hsame]
    exact .refl
  · rw [hcapt]
    exact persist _
  · rw [hcreated]
    refine trans ?_ (createFailoverRun _ _ _)
    unfold captured
    split
    · exact persist _
    · exact .refl

theorem startDhcpSelfHeal (forceRetry : Bool) : Steady c (startDhcpSelfHeal c forceRetry now) := by
  unfold HA.startDhcpSelfHeal
  split
  · exact .refl
  dsimp only
  generalize dhcpTopologyFingerprint c (reconcileTopology c (.topology now)) now = fingerprint
  split
  · exact ⟨rfl, rfl, rfl, le_rfl⟩
  split
  · exact ⟨rfl, rfl, rfl, le_rfl⟩
  generalize Digest.drift _ _ fingerprint = signature
  split
  · exact ⟨rfl, rfl, rfl, le_rfl⟩
  split
  · exact ⟨rfl, rfl, rfl, le_rfl⟩
  · exact ⟨rfl, rfl, rfl, le_rfl⟩

theorem recordLeaseStageResult {n : NodeId} {generation : ℕ} {checksum : Option Digest}
    {status : ResultStatus} {message : String}
    (h : recordLeaseStageResult c n generation checksum status message = .ok c') : Steady c c' := by
  unfold HA.recordLeaseStageResult at h
  split at h
  · cases h
  split at h
  · cases h
  split at h
  · cases h
  split at h
  · split at h
    · cases h
    · cases h
      exact ⟨rfl, rfl, rfl, le_rfl⟩
  · cases h
    exact ⟨rfl, rfl, rfl, le_rfl⟩

theorem applyActionResult {n : NodeId} {result : HAAgentActionResult}
    (h : applyActionResult c n result now = .ok c') : Steady c c' := by
  unfold HA.applyActionResult at h
  split at h
  · cases h
    exact ⟨rfl, rfl, rfl, le_rfl⟩
  · exact recordLeaseStageResult h
  · cases h
    unfold applyKeepalivedResult
    split
    · exact ⟨rfl, rfl, rfl, le_rfl⟩
    · dsimp only
      split
      · exact ⟨rfl, rfl, rfl, le_rfl⟩
      · exact ⟨rfl, rfl, rfl, le_rfl⟩
  · split at h
    · obtain ⟨m, -, heffect⟩ := recordMaintenanceActionResult_effect h
      exact .of_effect heffect
    · obtain ⟨r, -, hmoves⟩ := recordFailoverActionResult_moves h
      exact .of_failoverFrame hmoves.frame hmoves.generation

theorem startReconciliation (h : startReconciliation c now = .ok c') : Steady c c' := by
  obtain ⟨-, -, rfl⟩ := startReconciliation_eq_ok h
  exact ⟨rfl, rfl, rfl, le_rfl⟩

theorem startReinitialisation {desiredActive authority : NodeId} {acknowledged : Bool}
    (h : startReinitialisation c desiredActive authority acknowledged now = .ok c') :
    Steady c c' := by
  obtain ⟨-, -, -, rfl⟩ := startReinitialisation_eq_ok h
  exact ⟨rfl, rfl, rfl, le_rfl⟩

end Steady

/-- **Steadiness.** A step is steady, or it is the delivery of a result that is accepted and then
stored. -/
theorem step_steady (s : Sys) (e : Event) :
    Steady s.cluster (step s e).cluster ∨ ∃ n result, e.action = .actionResult n result ∧
        unstagedReport s n result = false ∧
        AcceptedResult s.cluster n result e.now (step s e).cluster := by
  obtain ⟨now, a⟩ := e
  simp only [step_cluster]
  cases a with
  | actionResult n result =>
    dsimp only [clusterStep]
    split <;> rename_i hunstaged
    · exact .inl .refl
    -- a repeated or refused result changes nothing; any other one is stored
    rcases commitActionResult_cases s.cluster n result now with hsame | hacc
    · rw [hsame]
      exact .inl .refl
    · exact .inr ⟨n, result, rfl, by simpa using hunstaged, hacc⟩
  | observe n node => exact .inl ⟨rfl, rfl, rfl, le_rfl⟩
  | heartbeat n hb =>
    dsimp only [clusterStep]
    split
    · exact .inl ⟨rfl, rfl, rfl, le_rfl⟩
    · exact .inl .refl
  -- the other units store no result, and their frames say what else they keep
  | reconcileVipOwnership reporting =>
    exact .inl (.of_ownershipFrame (reconcileVipOwnership_frame _ _ _)
      (reconcileVipOwnership_roleGeneration _ _ _))
  | evaluateRecovery =>
    exact .inl (.of_ownershipFrame (evaluateRecovery_frame _)
      (evaluateRecovery_maintenance _).2.2.1.ge)
  | ingestEvent n event =>
    exact .inl (.of_ownershipFrame (ingestEvent_frame _ _ _ _)
      (ingestEvent_roleGeneration _ _ _ _))
  | startControlledFailover => exact .inl (.startControlledFailover _ _ _ _ _)
  | advanceFailover =>
    obtain ⟨hframe, hgen⟩ := advanceFailover_frame s.cluster now
    exact .inl (.of_failoverFrame hframe hgen)
  | requestFailoverRollback r acknowledged =>
    left
    dsimp only [clusterStep]
    split
    · refine committed_of .refl fun c' hok ↦ ?_
      have hmoves := requestFailoverRollback_moves hok
      exact .of_failoverFrame hmoves.frame hmoves.generation
    · exact .refl
  | startReconciliation =>
    rw [clusterStep]
    exact .inl (committed_of .refl fun c' hok ↦ .startReconciliation hok)
  | startReinitialisation =>
    rw [clusterStep]
    exact .inl (committed_of .refl fun c' hok ↦ .startReinitialisation hok)
  | reconcileClusterState m stalled =>
    left
    dsimp only [clusterStep]
    split
    · exact .of_effect reconcileClusterState_effect
    · exact .refl
  | advanceReinitialisation m inputs =>
    left
    dsimp only [clusterStep]
    split
    · exact .of_effect advanceReinitialisation_effect
    · exact .refl
  | startDhcpSelfHeal forceRetry => exact .inl (.startDhcpSelfHeal forceRetry)
  | advanceDhcpSelfHeal m =>
    left
    dsimp only [clusterStep]
    split
    · exact .of_effect advanceDhcpSelfHeal_effect
    · exact .refl
  | reconcileClusterLeases answer => exact .inl (.persist _)
  | persistLeaseInspection inputs answer =>
    left
    dsimp only [clusterStep]
    split
    · exact .persist _
    · exact .refl
  | _ => exact .inl .refl

/-- The nodes of the cluster never change. -/
@[simp] theorem step_nodeIds (s : Sys) (e : Event) :
    (step s e).cluster.nodes.ids = s.cluster.nodes.ids := by
  rcases step_steady s e with hsteady | ⟨n, result, -, -, hacc⟩
  · exact hsteady.nodeIds
  · obtain ⟨c₁, happly, hstore⟩ := hacc.applied
    rw [hstore]
    exact (Steady.applyActionResult happly).nodeIds

/-- The deployment mode never changes. -/
@[simp] theorem step_deploymentMode (s : Sys) (e : Event) :
    (step s e).cluster.deploymentMode = s.cluster.deploymentMode := by
  rcases step_steady s e with hsteady | ⟨n, result, -, -, hacc⟩
  · exact hsteady.mode
  · obtain ⟨c₁, happly, hstore⟩ := hacc.applied
    rw [hstore]
    exact (Steady.applyActionResult happly).mode

theorem step_piholeManagesDhcp (s : Sys) (e : Event) :
    piholeManagesDhcp (step s e).cluster = piholeManagesDhcp s.cluster := by
  unfold piholeManagesDhcp deploymentMode
  rw [step_deploymentMode]

/-- Role generations never fall. -/
theorem step_roleGeneration (s : Sys) (e : Event) :
    s.cluster.roleGeneration ≤ (step s e).cluster.roleGeneration := by
  rcases step_steady s e with hsteady | ⟨n, result, -, -, hacc⟩
  · exact hsteady.generation
  · obtain ⟨c₁, happly, hstore⟩ := hacc.applied
    rw [hstore]
    exact (Steady.applyActionResult happly).generation

/-! ### Requests as runs -/

section Requests

variable {s : Sys} {now : DateTime} {n : NodeId}

/-- The maintenance work that follows a heartbeat is a step. -/
theorem advanceMaintenance_reachable (hs : haMachine.Reachable s) (inputs : ReinitialisationInputs) :
    haMachine.Reachable { s with
      cluster := advanceMaintenance s.cluster inputs s.processStartedAt now } := by
  unfold advanceMaintenance
  split
  · exact hs.step ⟨now, .startDhcpSelfHeal false⟩
  · rename_i m hm
    have hmem := (Table.newest?_eq_some hm).1
    split
    · have h := hs.step ⟨now, .reconcileClusterState m inputs.stalled⟩
      rw [haMachine_step, step] at h
      dsimp only [clusterStep] at h
      rw [if_pos hmem] at h
      exact h
    · have h := hs.step ⟨now, .advanceReinitialisation m inputs⟩
      rw [haMachine_step, step] at h
      dsimp only [clusterStep] at h
      rw [if_pos hmem] at h
      exact h
    · have h := hs.step ⟨now, .advanceDhcpSelfHeal m⟩
      rw [haMachine_step, step] at h
      dsimp only [clusterStep] at h
      rw [if_pos hmem] at h
      exact h

/-- A heartbeat request is a run of the machine. -/
theorem recordHeartbeat_reachable (hs : haMachine.Reachable s) (hb : HAAgentHeartbeat)
    (inputs : ReinitialisationInputs) :
    haMachine.Reachable { s with
      cluster := recordHeartbeat s.cluster n hb inputs s.processStartedAt now } := by
  unfold recordHeartbeat
  split <;> rename_i hacc
  · exact hs
  have hsto := hs.step ⟨now, .heartbeat n hb⟩
  rw [haMachine_step, step] at hsto
  dsimp only [clusterStep] at hsto
  rw [if_pos (by simpa using hacc)] at hsto
  dsimp only
  split
  · have hrecon := ((hsto.step ⟨now, .reconcileVipOwnership (some n)⟩).step
      ⟨now, .advanceFailover⟩).step ⟨now, .evaluateRecovery⟩
    exact advanceMaintenance_reachable hrecon inputs
  · exact hsto

/-- An accepted action-result request is a run of the machine. -/
theorem recordActionResult_reachable (hs : haMachine.Reachable s) {result : HAAgentActionResult}
    (hreport : unstagedReport s n result = false) {c' : HACluster}
    (hok : recordActionResult s.cluster n result now = .ok c') :
    haMachine.Reachable { s with cluster := c' } := by
  unfold recordActionResult at hok
  split at hok <;> rename_i hsto
  · split at hok
    · cases hok
    · cases hok
      exact hs
  rcases haccept : acceptActionResult s.cluster n result now with message | c₁ <;>
    rw [haccept] at hok
  · cases hok
  cases hok
  have hcommit := hs.step ⟨now, .actionResult n result⟩
  rw [haMachine_step, step] at hcommit
  dsimp only [clusterStep] at hcommit
  rw [hreport, commitActionResult, hsto, haccept] at hcommit
  exact (hcommit.step ⟨now, .reconcileVipOwnership none⟩).step ⟨now, .advanceFailover⟩

/-- A signed request of an agent, served as a whole. -/
inductive HARequest
  | heartbeat (n : NodeId) (heartbeat : HAAgentHeartbeat) (inputs : ReinitialisationInputs)
  | actionResult (n : NodeId) (result : HAAgentActionResult)

/-- The handler of a request. One that raises commits nothing. -/
def Sys.serve (s : Sys) (now : DateTime) : HARequest → Sys
  | .heartbeat n hb inputs =>
    { s with cluster := recordHeartbeat s.cluster n hb inputs s.processStartedAt now }
  | .actionResult n result =>
    -- no agent posts this
    if unstagedReport s n result then s
    else { s with
      cluster := (recordActionResult s.cluster n result now).toOption.getD s.cluster }

/-- The cluster with whole requests between the other events. -/
def servingMachine : Machine Sys (Event ⊕ DateTime × HARequest) where
  init := Initial
  step s := Sum.elim (step s) fun request ↦ s.serve request.1 request.2

/-- **Whole requests are runs of the machine**: what holds in all its reachable states holds between
the requests of agents. -/
theorem servingMachine_refines (hs : servingMachine.Reachable s) : haMachine.Reachable s := by
  refine Machine.Reachable.invariant (M := servingMachine) (P := haMachine.Reachable)
    (fun s hinit ↦ .start hinit) (fun s e h ↦ ?_) hs
  rcases e with e | ⟨now, request⟩
  · exact h.step e
  cases request with
  | heartbeat n hb inputs => exact recordHeartbeat_reachable h hb inputs
  | actionResult n result =>
    show haMachine.Reachable (s.serve now (.actionResult n result))
    rw [Sys.serve]
    split
    · exact h
    next hreport =>
      cases hok : recordActionResult s.cluster n result now with
      | error message => exact h
      | ok c => exact recordActionResult_reachable h (Bool.not_eq_true _ ▸ hreport) hok

end Requests

/-! ### A cluster to run

Two healthy nodes, the first of which owns the Virtual IP and serves DHCP. The statements about
fixed runs in the later modules start from here. -/

section Sample

/-- The row of a sample node that reported at `t`. -/
def sampleNode (name : String) (owner dhcp : Bool) (lease : ℕ) (t : DateTime) : HANode :=
  { displayName := name, role := if owner then .active else .standby
    desiredRole := if owner then .active else .standby
    agentVersion := some "0.2.13", lastHeartbeatAt := some t
    observedRole := some (if owner then .active else .standby)
    vipOwned := owner, dhcpRunning := dhcp, dhcpConfigured := some dhcp
    dhcpListenerActive := some dhcp, ftlActive := some true
    dhcpRuntimeState := if dhcp then .running else .stopped
    dhcpObservationStatus := .fresh, dhcpObservedAt := some t, dnsHealthy := some true
    leaseGeneration := lease, configGeneration := 1
    keepalivedStatus := .deployed, keepalivedRuntimeState := .running }

/-- The heartbeat of a sample node. -/
def sampleHeartbeat (owner dhcp : Bool) (lease : ℕ) : HAAgentHeartbeat :=
  { observedRole := if owner then .active else .standby
    vipOwned := owner, dhcpRunning := dhcp, dhcpConfigured := some dhcp
    dhcpListenerActive := some dhcp, ftlActive := some true, dnsHealthy := true
    leaseGeneration := lease, configGeneration := 1, agentVersion := "0.2.13"
    keepalivedRuntimeState := .running }

/-- A newly configured cluster. Its deployment mode is unclassified, so it manages DHCP. -/
def sampleCluster : HACluster :=
  { name := "home", authoritativeNodeId := some 1, currentActiveNodeId := some 1
    preferredNodeId := some 1, status := .healthy, keepalivedStatus := .deployed
    nodes :=
      ⟨[1, 2], fun n ↦ if n = 1 then sampleNode "first" true true 0 0
        else sampleNode "second" false false 0 0, nodup_pair⟩
    failoverRuns := noRuns blankRun
    maintenanceRuns := noRuns blankMaintenance }

/-- The system around the sample cluster. -/
def sampleSys : Sys := ⟨sampleCluster, 0, [], fun _ ↦ none, fun _ ↦ 0, []⟩

theorem sampleSys_initial : Initial sampleSys :=
  ⟨rfl, rfl, rfl, rfl, rfl, rfl, le_rfl, rfl, fun _ ↦ rfl, fun _ ↦ rfl, rfl⟩

theorem sampleSys_reachable (es : List Event) : haMachine.Reachable (haMachine.run sampleSys es) :=
  .run es (.start sampleSys_initial)

/-- The leases of the sample cluster. -/
def sampleLeases : List Lease := [⟨4102444800, "02:00:00:00:00:01", "192.0.2.20", "tv", ""⟩]

/-- The second node reports that it has staged a snapshot. -/
def sampleStaged (generation : ℕ) (leases : List Lease) : HAAgentActionResult :=
  { actionId := .lease 2 generation (.leasePayload 1 leases), actionType := .leaseSnapshotStage
    generation, status := .applied, checksum := some (.leasePayload 1 leases), message := "" }

/-- A node reports that it has applied an action of the failover run 1. -/
def sampleApplied (action : DhcpActionType) (n : NodeId) (generation : ℕ) : HAAgentActionResult :=
  { actionId := .failover 1 action n, actionType := .dhcp action, generation, status := .applied
    checksum := some (.failoverAction action 1 generation n), message := "" }

/-- The demotion of the first node that the failover run 1 offers. -/
def sampleDemotion (generation : ℕ) (handover : Bool) : DhcpAction where
  actionId := .failover 1 .demote 1
  actionType := .demote
  generation := generation
  checksum := .failoverAction .demote 1 generation 1
  leaseGeneration := 1
  restoreOriginal := false
  ownerHandoverAuthorised := handover

/-- The leases are captured, and the second node stages them. -/
def sampleStagedRun : List Event :=
  [⟨0, .reconcileClusterLeases (.ok (some sampleLeases))⟩, ⟨0, .download 2 1⟩, ⟨0, .stage 2⟩,
    ⟨0, .actionResult 2 (sampleStaged 1 sampleLeases)⟩]

/-- The second node reports the staging, and then the Virtual IP moves to it. -/
def sampleServed : List (Event ⊕ DateTime × HARequest) :=
  sampleStagedRun.dropLast.map .inl ++ [.inr (0, .actionResult 2 (sampleStaged 1 sampleLeases)),
    .inr (0, .heartbeat 1 (sampleHeartbeat false true 1) {}),
    .inr (0, .heartbeat 2 (sampleHeartbeat true false 1) {})]

theorem servingMachine_refines_sample :
    (servingMachine.run sampleSys sampleServed).cluster.currentActiveNodeId = some 2 ∧
      haMachine.Reachable (servingMachine.run sampleSys sampleServed) :=
  ⟨by decide +kernel, servingMachine_refines (.run _ (.start sampleSys_initial))⟩

/-- The request to hand over to the second node. -/
def sampleStart : Event :=
  ⟨0, .startControlledFailover 2 "home" true (.ok ()) (.ok (some sampleLeases))⟩

/-- A handover that has just started. -/
def sampleStartedRun : List Event := sampleStagedRun ++ [sampleStart]

/-- A handover up to the move of the Virtual IP: the first node reports that it stopped DHCP. -/
def sampleMovingRun : List Event :=
  sampleStartedRun ++ [⟨0, .actionResult 1 (sampleApplied .demote 1 2)⟩,
    ⟨0, .heartbeat 1 (sampleHeartbeat true false 0)⟩, ⟨0, .advanceFailover⟩]

/-- The handover after the Virtual IP has moved: the second node is to start DHCP. -/
def samplePromotingRun : List Event :=
  sampleMovingRun ++ [⟨0, .observe 1 (sampleNode "first" false false 0 0)⟩,
    ⟨0, .observe 2 (sampleNode "second" true false 1 0)⟩, ⟨0, .advanceFailover⟩]

end Sample

end Kaya.HA
