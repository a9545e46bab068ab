import Kaya.HA.LeaseInvariants
import Kaya.HA.ReinitialisationProgress

/-!
# The wait for a staged snapshot

`WAITING_FOR_DHCP_STAGE` waits until replication is `CURRENT`, goes to **the standby of the run**,
and the standby reports the desired generation. The run's standby is the peer of the node that shall
become active; the replication target is the peer of the *authority*, or whatever the last capture
left. Nothing compares the two, and nothing in the phase captures again.

So the wait ends in finitely many heartbeats, staging results and advances exactly when replication
already goes to the standby and is `PENDING` or `CURRENT` — or when the server has been restarted,
which sends the run back to its first phase (`stage_wait_ends_iff`). The two directions are

* a run of at most two requests that ends the wait (`AwaitsStage.ends_of_pending`,
  `AwaitsStage.ends_of_current`), and
* an invariant that every such request keeps otherwise (`StageStuck.step`).
-/

namespace Kaya.HA

open Option

/-- The result of staging an offered snapshot, as the agent reports it. -/
def LeaseAction.result (a : LeaseAction) (status : ResultStatus) (message : String) :
    HAAgentActionResult :=
  ⟨a.actionId, .leaseSnapshotStage, a.generation, status, some a.checksum, message⟩

/-- The requests the wait may hope for: a heartbeat, the result of an offered staging, an advance of
the run. -/
inductive StageStep (processStartedAt : DateTime) (m : RunId) : HACluster → HACluster → Prop
  | heartbeat {c : HACluster} (n : NodeId) (hb : HAAgentHeartbeat) (inputs : ReinitialisationInputs)
      (now : DateTime) :
      StageStep processStartedAt m c (recordHeartbeat c n hb inputs processStartedAt now)
  | staged {c c' : HACluster} (n : NodeId) {a : LeaseAction} (status : ResultStatus)
      (message : String) (now : DateTime) (hoffer : desiredLeaseAction c n = some a)
      (hok : recordActionResult c n (a.result status message) now = .ok c') :
      StageStep processStartedAt m c c'
  | advance {c : HACluster} (inputs : ReinitialisationInputs) (now : DateTime) :
      StageStep processStartedAt m c (advanceReinitialisation c m inputs processStartedAt now)

/-- Finitely many requests end the wait. -/
def StageWaitEnds (processStartedAt : DateTime) (m : RunId) (c : HACluster) : Prop :=
  ∃ c', Relation.ReflTransGen (StageStep processStartedAt m) c c' ∧
    (c'.maintenanceRun m).phase ≠ .waitingForDhcpStage

/-- Replication goes to this node, and its snapshot is staged or can be. -/
def ReplicatesTo (c : HACluster) (n : NodeId) : Prop :=
  ∃ state, c.leaseReplication = some state ∧ state.targetNodeId = some n ∧
    (state.status = .pending ∨ state.status = .current)

/-- A running reinitialisation that waits for a staged snapshot, with its two nodes. -/
structure AwaitsStage (c : HACluster) (m : RunId) (target standby : NodeId) : Prop where
  active : activeMaintenance c = some m
  operation : (c.maintenanceRun m).operation = .reinitialise
  status : (c.maintenanceRun m).status = .running
  phase : (c.maintenanceRun m).phase = .waitingForDhcpStage
  desired : (c.maintenanceRun m).desiredActiveNodeId = some target
  peer : c.peerFor target = some standby

/-! ### What the wait reads -/

/-- Everything the wait depends on. -/
def stageView (c : HACluster) :
    Table HAMaintenanceRun × List NodeId ×
      (Option HALeaseReplicationState × List HALeaseSnapshot) × (NodeId → ℕ) :=
  (c.maintenanceRuns, c.nodes.ids, leaseView c, fun n ↦ (c.node n).leaseGeneration)

section View

variable {c c' : HACluster} {m : RunId} {target standby : NodeId} {now : DateTime}

section

variable (h : stageView c' = stageView c)

include h

theorem stageView_runs : c'.maintenanceRuns = c.maintenanceRuns :=
  congrArg Prod.fst h

theorem stageView_ids : c'.nodes.ids = c.nodes.ids :=
  congrArg (fun v ↦ v.2.1) h

theorem stageView_leases : leaseView c' = leaseView c :=
  congrArg (fun v ↦ v.2.2.1) h

theorem stageView_generation (n : NodeId) :
    (c'.node n).leaseGeneration = (c.node n).leaseGeneration :=
  congrFun (congrArg (fun v ↦ v.2.2.2) h) n

end

theorem stageView_reconcileVipOwnership (c : HACluster) (reporting : Option NodeId)
    (now : DateTime) : stageView (reconcileVipOwnership c reporting now) = stageView c := by
  have h := congrArg stageView (reconcileVipOwnership_frame c now reporting)
  exact h

theorem stageView_advanceFailover (c : HACluster) (now : DateTime) :
    stageView (advanceFailover c now) = stageView c := by
  have h := congrArg stageView (advanceFailover_frame c now).1
  exact h

theorem stageView_evaluateRecovery (c : HACluster) :
    stageView (evaluateRecovery c) = stageView c := by
  unfold evaluateRecovery
  split
  · rfl
  · rfl

/-- What a heartbeat does after its telemetry and before maintenance. -/
theorem stageView_reconciled (c : HACluster) (n : NodeId) (now : DateTime) :
    stageView (evaluateRecovery (advanceFailover (reconcileVipOwnership c (some n) now) now)) =
      stageView c :=
  (stageView_evaluateRecovery _).trans <|
    (stageView_advanceFailover _ _).trans (stageView_reconcileVipOwnership _ _ _)

/-- What an accepted result does after it has been stored. -/
theorem stageView_engines (c : HACluster) (now : DateTime) :
    stageView (advanceFailover (reconcileVipOwnership c none now) now) = stageView c :=
  (stageView_advanceFailover _ _).trans (stageView_reconcileVipOwnership _ _ _)

/-- The wait survives anything that leaves its run and the nodes alone. -/
theorem AwaitsStage.of_eq (h : AwaitsStage c m target standby)
    (hruns : c'.maintenanceRuns = c.maintenanceRuns) (hids : c'.nodes.ids = c.nodes.ids) :
    AwaitsStage c' m target standby := by
  have hrow : c'.maintenanceRun m = c.maintenanceRun m := by
    rw [HACluster.maintenanceRun, hruns]
  refine ⟨?_, ?_, ?_, ?_, ?_, ?_⟩
  · rw [activeMaintenance, hruns]
    exact h.active
  · rw [hrow]
    exact h.operation
  · rw [hrow]
    exact h.status
  · rw [hrow]
    exact h.phase
  · rw [hrow]
    exact h.desired
  · rw [HACluster.peerFor, hids]
    exact h.peer

theorem ReplicatesTo.of_eq (h : ReplicatesTo c standby)
    (hlease : c'.leaseReplication = c.leaseReplication) : ReplicatesTo c' standby := by
  obtain ⟨state, hst, hrest⟩ := h
  exact ⟨state, hlease.trans hst, hrest⟩

end View

/-! ### Advancing -/

section Advance

variable {c : HACluster} {m : RunId} {target standby : NodeId} {now processStartedAt : DateTime}

/-- One advance of a waiting run: back to the start after a restart, on when the standby has staged,
and nothing otherwise. -/
theorem AwaitsStage.advance_eq (h : AwaitsStage c m target standby)
    (inputs : ReinitialisationInputs) :
    advanceReinitialisation c m inputs processStartedAt now =
      if restartPending (c.maintenanceRun m) processStartedAt then
        (setPhase c m .waitingForReports now).modifyMaintenance m fun run ↦
          { run with result :=
              { run.result with resumedForProcessStartedAt := some processStartedAt } }
      else if standbyStaged c standby then setPhase c m .normalisingStandby now else c := by
  have hpeer : c.nodes.ids.find? (· ≠ target) = some standby := h.peer
  unfold advanceReinitialisation
  dsimp only
  rw [if_neg (by simp [h.operation, h.status]), h.desired]
  dsimp only
  rw [hpeer]
  dsimp only
  rw [reinitialisationPhase, h.phase]

theorem AwaitsStage.advance_leaves (h : AwaitsStage c m target standby)
    (inputs : ReinitialisationInputs)
    (hgo : restartPending (c.maintenanceRun m) processStartedAt = true ∨
      standbyStaged c standby = true) :
    ((advanceReinitialisation c m inputs processStartedAt now).maintenanceRun m).phase ≠
      .waitingForDhcpStage := by
  rw [h.advance_eq]
  split <;> rename_i hpend
  · rw [modifyMaintenance_row, setPhase_phase]
    decide
  · rw [if_pos (hgo.resolve_left hpend), setPhase_phase]
    decide

end Advance

/-! ### A wait without end -/

/-- A run that waits for nothing: replication does not go to its standby, and no restart helps. -/
structure StageStuck (c : HACluster) (m : RunId) (target standby : NodeId)
    (processStartedAt : DateTime) : Prop where
  awaits : AwaitsStage c m target standby
  resumed : restartPending (c.maintenanceRun m) processStartedAt = false
  elsewhere : ¬ ReplicatesTo c standby

section Stuck

variable {c c' : HACluster} {m : RunId} {target standby n : NodeId} {now processStartedAt : DateTime}
  {result : HAAgentActionResult}

theorem StageStuck.of_eq (h : StageStuck c m target standby processStartedAt)
    (hruns : c'.maintenanceRuns = c.maintenanceRuns) (hids : c'.nodes.ids = c.nodes.ids)
    (helsewhere : ¬ ReplicatesTo c' standby) : StageStuck c' m target standby processStartedAt := by
  refine ⟨h.awaits.of_eq hruns hids, ?_, helsewhere⟩
  rw [HACluster.maintenanceRun, hruns]
  exact h.resumed

theorem StageStuck.of_view (h : StageStuck c m target standby processStartedAt)
    (hview : stageView c' = stageView c) : StageStuck c' m target standby processStartedAt := by
  refine h.of_eq (stageView_runs hview) (stageView_ids hview) fun hto ↦ h.elsewhere ?_
  exact hto.of_eq (congrArg Prod.fst (stageView_leases hview)).symm

/-- A staged snapshot is replicated to its node. -/
theorem ReplicatesTo.of_standbyStaged (h : standbyStaged c standby = true) :
    ReplicatesTo c standby := by
  obtain ⟨state, hst, hstg⟩ := any_eq_true _ _ |>.1 h
  simp only [decide_eq_true_eq] at hstg
  exact ⟨state, hst, hstg.2.1, .inr hstg.1⟩

theorem StageStuck.advance_eq (h : StageStuck c m target standby processStartedAt)
    (inputs : ReinitialisationInputs) :
    advanceReinitialisation c m inputs processStartedAt now = c := by
  rw [h.awaits.advance_eq, if_neg (by simp [h.resumed])]
  exact if_neg fun hstg ↦ h.elsewhere (.of_standbyStaged hstg)

/-- A heartbeat changes the generation its node reports, and the run does not look at it. -/
theorem StageStuck.heartbeat (h : StageStuck c m target standby processStartedAt) (n : NodeId)
    (hb : HAAgentHeartbeat) (inputs : ReinitialisationInputs) :
    StageStuck (recordHeartbeat c n hb inputs processStartedAt now) m target standby
      processStartedAt := by
  have hsto : StageStuck (storeHeartbeat c n hb now) m target standby processStartedAt :=
    h.of_eq rfl (Table.modify_ids _ _ _) fun hto ↦ h.elsewhere (hto.of_eq rfl)
  unfold recordHeartbeat
  split
  · exact h
  dsimp only
  split
  · have hrecon : StageStuck (evaluateRecovery (advanceFailover (reconcileVipOwnership
        (storeHeartbeat c n hb now) (some n) now) now)) m target standby processStartedAt :=
      hsto.of_view (stageView_reconciled _ n now)
    rw [advanceMaintenance, hrecon.awaits.active]
    dsimp only
    rw [hrecon.awaits.operation]
    dsimp only
    rw [hrecon.advance_eq]
    exact hrecon
  · exact hsto

/-- What an accepted staging result does to the wait: the run and the nodes stay, and replication
still goes where it went. -/
theorem AcceptedResult.stage (h : AcceptedResult c n result now c')
    (htype : result.actionType = .leaseSnapshotStage) :
    c'.maintenanceRuns = c.maintenanceRuns ∧ c'.nodes.ids = c.nodes.ids ∧
      ∃ state state', c.leaseReplication = some state ∧ state.status = .pending ∧
        c'.leaseReplication = some state' ∧ state'.targetNodeId = state.targetNodeId := by
  obtain ⟨offered, -, hoffer, -⟩ := h.lease htype
  obtain ⟨state, -, hst, hpend, -⟩ := desiredLeaseAction_eq_some hoffer
  obtain ⟨c₁, happly, hstore⟩ := h.applied
  have hids := (Steady.applyActionResult happly).nodeIds
  rw [applyActionResult, htype] at happly
  obtain ⟨-, hruns, -⟩ := recordLeaseStageResult_runs happly
  obtain ⟨state₁, -, hstate₁, -, -, -, hresult⟩ := recordLeaseStageResult_eq_ok happly
  obtain rfl : state₁ = state := some.inj (hstate₁.symm.trans hst)
  rw [hstore]
  refine ⟨hruns, hids, state₁, ?_⟩
  rcases hresult with ⟨-, hview⟩ | ⟨-, hview⟩
  · exact ⟨_, hst, hpend, congrArg Prod.fst hview, rfl⟩
  · exact ⟨_, hst, hpend, congrArg Prod.fst hview, rfl⟩

/-- A result request either changes nothing or stores an accepted result and lets the engines run. -/
theorem recordActionResult_eq_ok (h : recordActionResult c n result now = .ok c') :
    c' = c ∨ ∃ c₁, AcceptedResult c n result now c₁ ∧
      c' = advanceFailover (reconcileVipOwnership c₁ none now) now := by
  rcases hsto : storedResult c result.actionId with - | row
  · right
    rw [recordActionResult, hsto] at h
    rcases haccept : acceptActionResult c n result now with message | c₁ <;> rw [haccept] at h
    · cases h
    · cases h
      exact ⟨c₁, acceptActionResult_eq_ok hsto haccept, rfl⟩
  · exact .inl (recordActionResult_of_stored hsto h)

/-- **One request.** -/
theorem StageStuck.step (h : StageStuck c m target standby processStartedAt)
    (hstep : StageStep processStartedAt m c c') :
    StageStuck c' m target standby processStartedAt := by
  cases hstep with
  | heartbeat n hb inputs now => exact h.heartbeat n hb inputs
  | advance inputs now =>
    rw [h.advance_eq]
    exact h
  | @staged _ n a status message now hoffer hok =>
    rcases recordActionResult_eq_ok hok with rfl | ⟨c₁, hacc, rfl⟩
    · exact h
    obtain ⟨hruns, hids, state, state', hst, hpend, hst', htgt⟩ := hacc.stage rfl
    have hstuck : StageStuck c₁ m target standby processStartedAt := by
      refine h.of_eq hruns hids ?_
      rintro ⟨state'', hst'', hto, -⟩
      obtain rfl : state'' = state' := some.inj (hst''.symm.trans hst')
      exact h.elsewhere ⟨state, hst, htgt.symm.trans hto, .inl hpend⟩
    exact hstuck.of_view (stageView_engines c₁ now)

/-- **Any number of requests.** -/
theorem StageStuck.run (h : StageStuck c m target standby processStartedAt)
    (hrun : Relation.ReflTransGen (StageStep processStartedAt m) c c') :
    StageStuck c' m target standby processStartedAt := by
  induction hrun with
  | refl => exact h
  | tail _ hlast ih => exact ih.step hlast

end Stuck

/-! ### A wait that ends -/

section Ends

variable {c c' : HACluster} {m : RunId} {target standby n : NodeId}
  {now processStartedAt : DateTime} {state : HALeaseReplicationState} {snapshot : HALeaseSnapshot}

theorem standbyStaged_of_view (hview : stageView c' = stageView c) :
    standbyStaged c' standby = standbyStaged c standby := by
  have hlease : c'.leaseReplication = c.leaseReplication :=
    congrArg Prod.fst (stageView_leases hview)
  rw [standbyStaged, standbyStaged, hlease, stageView_generation hview]

/-- Nothing but an advance is missing. -/
theorem AwaitsStage.ends_of_staged (h : AwaitsStage c m target standby)
    (hgo : restartPending (c.maintenanceRun m) processStartedAt = true ∨
      standbyStaged c standby = true) : StageWaitEnds processStartedAt m c :=
  ⟨_, .single (.advance {} 0), h.advance_leaves {} hgo⟩

/-- A heartbeat that reports a generation, whatever else it says. -/
def stageHeartbeat (generation : ℕ) : HAAgentHeartbeat :=
  { observedRole := .standby, vipOwned := false, dhcpRunning := false, dnsHealthy := true
    leaseGeneration := generation, agentVersion := "" }

theorem storeHeartbeat_stageHeartbeat (c : HACluster) (n : NodeId) (generation : ℕ)
    (now : DateTime) :
    ((storeHeartbeat c n (stageHeartbeat generation) now).node n).leaseGeneration = generation := by
  rw [storeHeartbeat, HACluster.modifyNode, HACluster.node, Table.modify_row_self]
  rfl

/-- Replication is current: the standby's next heartbeat ends the wait, or the advance after it. -/
theorem AwaitsStage.ends_of_current (h : AwaitsStage c m target standby)
    (hst : c.leaseReplication = some state) (hcur : state.status = .current)
    (hto : state.targetNodeId = some standby) : StageWaitEnds processStartedAt m c := by
  let hb := stageHeartbeat state.desiredGeneration
  have hawaits : AwaitsStage (storeHeartbeat c standby hb 0) m target standby :=
    h.of_eq rfl (Table.modify_ids _ _ _)
  have hstg : standbyStaged (storeHeartbeat c standby hb 0) standby = true := by
    have hlease : (storeHeartbeat c standby hb 0).leaseReplication = some state := hst
    rw [standbyStaged, hlease, storeHeartbeat_stageHeartbeat]
    exact decide_eq_true ⟨hcur, hto, le_rfl⟩
  have hstep : StageStep processStartedAt m c (recordHeartbeat c standby hb {} processStartedAt 0) :=
    .heartbeat standby hb {} 0
  have hacc : heartbeatAccepted (c.node standby) hb 0 = true := rfl
  rw [recordHeartbeat, hacc] at hstep
  dsimp only at hstep
  by_cases hneeded : needsReconciliation c standby hb 0 = true
  · -- The heartbeat advances the run itself.
    have hview := stageView_reconciled (storeHeartbeat c standby hb 0) standby 0
    have hrecon := hawaits.of_eq (stageView_runs hview) (stageView_ids hview)
    rw [if_neg (by decide), if_pos hneeded, advanceMaintenance, hrecon.active] at hstep
    dsimp only at hstep
    rw [hrecon.operation] at hstep
    refine ⟨_, .single hstep, hrecon.advance_leaves {} (.inr ?_)⟩
    rw [standbyStaged_of_view hview]
    exact hstg
  · rw [if_neg (by decide), if_neg hneeded] at hstep
    obtain ⟨c', hrun, hleft⟩ : StageWaitEnds processStartedAt m (storeHeartbeat c standby hb 0) :=
      hawaits.ends_of_staged (.inr hstg)
    exact ⟨c', .head hstep hrun, hleft⟩

/-- A reported staging makes replication current, on a node that now has the generation. -/
theorem recordLeaseStageResult_applied (hst : c.leaseReplication = some state)
    (hto : state.targetNodeId = some n)
    (hsnap : snapshotAt c state.desiredGeneration = some snapshot) :
    ∃ c₁, recordLeaseStageResult c n state.desiredGeneration (some snapshot.checksum) .applied "" =
        .ok c₁ ∧ c₁.maintenanceRuns = c.maintenanceRuns ∧ c₁.nodes.ids = c.nodes.ids ∧
      standbyStaged c₁ n = true := by
  let state' := { state with
    status := LeaseStatus.current, appliedGeneration := state.desiredGeneration, differenceCount := 0
    lastErrorRedacted := none }
  let c₀ := (setSnapshotStatus c state.desiredGeneration .staged).modifyNode n
    fun node ↦ { node with leaseGeneration := state.desiredGeneration }
  refine ⟨setLeaseState c₀ state', ?_, rfl, Table.modify_ids _ _ _, ?_⟩
  · rw [recordLeaseStageResult, hst]
    dsimp only
    rw [if_neg (by simp [hto]), hsnap]
    dsimp only
    rw [if_neg (not_not.2 rfl)]
  · have hlease : (setLeaseState c₀ state').leaseReplication = some state' := rfl
    have hnode : ((setLeaseState c₀ state').node n).leaseGeneration = state.desiredGeneration := by
      simp only [setLeaseState, c₀, HACluster.modifyNode, HACluster.node, Table.modify_row_self]
    rw [standbyStaged, hlease, hnode]
    exact decide_eq_true ⟨rfl, hto, le_rfl⟩

/-- Replication is pending: the standby stages the snapshot and reports it, and the next advance ends
the wait. -/
theorem AwaitsStage.ends_of_pending (h : AwaitsStage c m target standby)
    (hst : c.leaseReplication = some state) (hpend : state.status = .pending)
    (hto : state.targetNodeId = some standby)
    (hsnap : snapshotAt c state.desiredGeneration = some snapshot)
    (hopen : snapshot.status = .pending)
    (hnew : storedResult c (.lease standby snapshot.generation snapshot.checksum) = none) :
    StageWaitEnds processStartedAt m c := by
  let offered : LeaseAction :=
    ⟨.lease standby snapshot.generation snapshot.checksum, snapshot.generation, snapshot.checksum⟩
  have hoffer : desiredLeaseAction c standby = some offered := by
    simp [desiredLeaseAction, hst, hpend, hto, hsnap, hopen, offered]
  have hgeneration : snapshot.generation = state.desiredGeneration :=
    (snapshotAt_eq_some hsnap).2
  -- First the result of the staging, then an advance; what else the first request does is invisible
  -- to the wait.
  obtain ⟨c₁, hrecord, hruns, hids, hstg⟩ := recordLeaseStageResult_applied hst hto hsnap
  have happly : applyActionResult c standby (offered.result .applied "") 0 = .ok c₁ := by
    rw [← hgeneration] at hrecord
    exact hrecord
  have hexp : expectedAction c standby .leaseSnapshotStage 0 =
      .ok (some ⟨offered.actionId, offered.generation, offered.checksum⟩) := by
    rw [expectedAction, hoffer]
    rfl
  have haccept : acceptActionResult c standby (offered.result .applied "") 0 =
      .ok (storeResult c₁ standby (offered.result .applied "")) :=
    acceptActionResult_of_applied hexp rfl rfl rfl happly
  have hok : recordActionResult c standby (offered.result .applied "") 0 =
      .ok (advanceFailover (reconcileVipOwnership
        (storeResult c₁ standby (offered.result .applied "")) none 0) 0) := by
    have hnone : storedResult c (offered.result .applied "").actionId = none := hnew
    rw [recordActionResult, hnone, haccept]
    rfl
  have hview := stageView_engines (storeResult c₁ standby (offered.result .applied "")) 0
  have hawaits := h.of_eq ((stageView_runs hview).trans hruns) ((stageView_ids hview).trans hids)
  obtain ⟨c', hrun, hleft⟩ : StageWaitEnds processStartedAt m _ := by
    refine hawaits.ends_of_staged (.inr ?_)
    rw [standbyStaged_of_view hview]
    exact hstg
  exact ⟨c', .head (.staged standby .applied "" 0 hoffer hok) hrun, hleft⟩

end Ends

/-! ### Answered snapshots -/

/-- A snapshot with a stored result is not pending any more. -/
def AnsweredLeases (c : HACluster) : Prop :=
  ∀ row ∈ c.actionResults, ∀ n generation checksum, row.actionId = .lease n generation checksum →
      ∃ snapshot ∈ c.leaseSnapshots, snapshot.generation = generation ∧ snapshot.status ≠ .pending

section Answers

variable {s : Sys} {e : Event}
  {c : HACluster} {n k : NodeId} {now : DateTime} {generation : ℕ} {checksum : Digest}

/-- Only staging actions have identifiers of this form. -/
theorem leaseSnapshotStage_of_expected {actionType : ActionType} {expected : ExpectedAction}
    (h : expectedAction c n actionType now = .ok (some expected))
    (hid : expected.actionId = .lease k generation checksum) :
    actionType = .leaseSnapshotStage := by
  have hfail (h : (desiredFailoverAction c n now).map DhcpAction.expected = some expected) :
      False := by
    obtain ⟨a, hoffer, rfl⟩ := map_eq_some_iff.1 h
    obtain ⟨r, -, -, ha, -⟩ := desiredFailoverAction_eq_some hoffer
    rw [DhcpAction.expected, ha] at hid
    cases hid
  cases actionType with
  | leaseSnapshotStage => rfl
  | resolverRepair =>
    simp only [expectedAction, desiredResolverAction, Except.ok.injEq] at h
    split at h
    · cases h
    · cases h
      cases hid
  | keepalivedApply =>
    simp only [expectedAction, desiredKeepalivedAction] at h
    split at h
    · cases h
    · rcases hrender : renderKeepalivedConfig c n (controlledPreemptionTarget c = some n) with
        message | content <;> rw [hrender] at h <;> cases h
      cases hid
  | dhcp action =>
    simp only [expectedAction] at h
    split at h <;> rename_i hmaint
    · split at h
      · obtain ⟨m, -, -, ha, -⟩ := desiredMaintenanceAction_eq_some hmaint
        cases h
        rw [DhcpAction.expected, ha] at hid
        cases hid
      · exact (hfail (Except.ok.inj h)).elim
    · exact (hfail (Except.ok.inj h)).elim

/-- No step makes a snapshot pending again. -/
theorem step_answered (s : Sys) (e : Event) {snapshot : HALeaseSnapshot}
    (hmem : snapshot ∈ s.cluster.leaseSnapshots) (hans : snapshot.status ≠ .pending) :
    ∃ snapshot' ∈ (step s e).cluster.leaseSnapshots,
      snapshot'.generation = snapshot.generation ∧ snapshot'.status ≠ .pending := by
  cases step_leaseChange s e with
  | unchanged hview =>
    have hsame : (step s e).cluster.leaseSnapshots = s.cluster.leaseSnapshots :=
      congrArg Prod.snd hview
    rw [hsame]
    exact ⟨snapshot, hmem, rfl, hans⟩
  | @persisted answer plan _ _ hview =>
    obtain ⟨state, snapshots, hpersist, hwrite⟩ := persistLeasePlan_write s.cluster e.now plan
    have hsnaps : (step s e).cluster.leaseSnapshots = snapshots :=
      congrArg Prod.snd (hview.trans hpersist)
    rw [hsnaps]
    refine ⟨snapshot, ?_, rfl, hans⟩
    cases hwrite with
    | blocked | inapplicable | reused => exact hmem
    | captured => exact List.mem_append_left _ hmem
  | reported _ _ _ _ hok hview =>
    obtain ⟨_, _, _, _, _, _, hresult⟩ := recordLeaseStageResult_eq_ok hok
    rcases hresult with ⟨-, hview'⟩ | ⟨-, hview'⟩ <;>
    · have hsnaps := congrArg Prod.snd (hview.trans hview')
      dsimp only [leaseView] at hsnaps
      rw [hsnaps]
      obtain ⟨new, hnew, hgeneration, -, hstat⟩ := exists_setSnapshotStatus hmem
      refine ⟨new, hnew, hgeneration, ?_⟩
      rw [hstat]
      split
      · decide
      · exact hans

/-- A result that has just been stored for a snapshot has answered it. -/
theorem AcceptedResult.answered {c' : HACluster} {result : HAAgentActionResult}
    (h : AcceptedResult c n result now c') (hid : result.actionId = .lease k generation checksum) :
    ∃ snapshot ∈ c'.leaseSnapshots,
      snapshot.generation = generation ∧ snapshot.status ≠ .pending := by
  obtain ⟨expected, hexp, hsame, -, -⟩ := h.offered
  have htype := leaseSnapshotStage_of_expected hexp (hsame.symm.trans hid)
  obtain ⟨offered, c₁, hoffer, hgeneration, hidentifier, hok, hview⟩ := h.lease htype
  obtain ⟨_, pending, -, -, -, -, -, hoffer'⟩ := desiredLeaseAction_eq_some hoffer
  have hgen : result.generation = generation := by
    rw [hid, hoffer'] at hidentifier
    rw [hgeneration, hoffer']
    cases hidentifier
    rfl
  obtain ⟨_, snapshot, -, -, -, hsnap, hresult⟩ := recordLeaseStageResult_eq_ok hok
  obtain ⟨hmem, hfound⟩ := snapshotAt_eq_some hsnap
  rcases hresult with ⟨-, hview'⟩ | ⟨-, hview'⟩ <;>
  · have hsnaps := congrArg Prod.snd (hview.trans hview')
    dsimp only [leaseView] at hsnaps
    rw [hsnaps]
    obtain ⟨new, hnew, hnewgen, -, hstat⟩ := exists_setSnapshotStatus hmem
    refine ⟨new, hnew, hnewgen.trans (hfound.trans hgen), ?_⟩
    rw [hstat, if_pos hfound]
    decide

/-- **One step.** -/
theorem AnsweredLeases.step (h : AnsweredLeases s.cluster) (e : Event) :
    AnsweredLeases (step s e).cluster := by
  have hkept (row : HAAgentActionResultRow) (hrow : row ∈ s.cluster.actionResults) (n : NodeId)
      (generation : ℕ) (checksum : Digest) (hid : row.actionId = .lease n generation checksum) :
      ∃ snapshot ∈ (HA.step s e).cluster.leaseSnapshots,
        snapshot.generation = generation ∧ snapshot.status ≠ .pending := by
    obtain ⟨snapshot, hmem, rfl, hans⟩ := h row hrow n generation checksum hid
    exact step_answered s e hmem hans
  intro row hrow n generation checksum hid
  rcases step_steady s e with hsteady | ⟨k, result, -, -, hacc⟩
  · rw [hsteady.results] at hrow
    exact hkept row hrow n generation checksum hid
  · obtain ⟨c₁, happly, hstore⟩ := hacc.applied
    have hresults : (HA.step s e).cluster.actionResults =
        s.cluster.actionResults ++ [resultRow k result] := by
      rw [hstore, storeResult, (Steady.applyActionResult happly).results]
    rw [hresults, List.mem_append, List.mem_singleton] at hrow
    rcases hrow with hrow | rfl
    · exact hkept row hrow n generation checksum hid
    · exact hacc.answered hid

theorem answeredLeases (hs : haMachine.Reachable s) : AnsweredLeases s.cluster := by
  refine hs.invariant (P := fun s ↦ AnsweredLeases s.cluster) ?_ fun _ e h ↦ h.step e
  intro s hinit row hrow
  rw [hinit.actionResults] at hrow
  exact absurd hrow List.not_mem_nil

end Answers

/-! ### Every reachable state -/

section Reachable

variable {s : Sys} {m : RunId} {target standby : NodeId}

/-- A pending replication to the standby can be finished. -/
theorem AwaitsStage.ends_of_replication (h : AwaitsStage s.cluster m target standby)
    (hs : haMachine.Reachable s) (hto : ReplicatesTo s.cluster standby) :
    StageWaitEnds s.processStartedAt m s.cluster := by
  obtain ⟨state, hst, htgt, hpend | hcur⟩ := hto
  · have hcolumns := (leaseInvariant hs).columns
    obtain ⟨snapshot, hmem, hgeneration, -, -, hopen⟩ :=
      hcolumns.replicated state hst (.inl hpend)
    have hunique (other : HALeaseSnapshot) (hother : other ∈ s.cluster.leaseSnapshots)
        (hgen : other.generation = state.desiredGeneration) : other = snapshot :=
      hcolumns.eq_of_generation hother hmem (hgen.trans hgeneration.symm)
    have hsnap : snapshotAt s.cluster state.desiredGeneration = some snapshot := by
      rcases hfound : snapshotAt s.cluster state.desiredGeneration with - | other
      · have hnone := List.find?_eq_none.1 hfound snapshot hmem
        exact absurd (decide_eq_true hgeneration) hnone
      · obtain ⟨hother, hgen⟩ := snapshotAt_eq_some hfound
        rw [hunique other hother hgen]
    refine h.ends_of_pending hst hpend htgt hsnap (hopen hpend) ?_
    -- A stored answer would have taken the snapshot out of `PENDING`.
    by_contra hsto
    obtain ⟨row, hrow⟩ := ne_none_iff_exists'.1 hsto
    have hid : row.actionId = .lease standby snapshot.generation snapshot.checksum := by
      simpa using List.find?_some hrow
    obtain ⟨other, hother, hgen, hans⟩ :=
      answeredLeases hs row (List.mem_of_find?_eq_some hrow) _ _ _ hid
    rw [hunique other hother (hgen.trans hgeneration)] at hans
    exact hans (hopen hpend)
  · exact h.ends_of_current hst hcur htgt

/-- **Exactly when the wait for a staged snapshot can end**, in every reachable state: after a
restart of the server, or when replication goes to the run's standby and is pending or current. -/
theorem stage_wait_ends_iff (hs : haMachine.Reachable s) (hm : m ∈ s.cluster.maintenanceRuns.ids)
    (hoper : (s.cluster.maintenanceRun m).operation = .reinitialise)
    (hstat : (s.cluster.maintenanceRun m).status = .running)
    (hph : (s.cluster.maintenanceRun m).phase = .waitingForDhcpStage) :
    StageWaitEnds s.processStartedAt m s.cluster ↔
      restartPending (s.cluster.maintenanceRun m) s.processStartedAt = true ∨
        ∃ target standby, (s.cluster.maintenanceRun m).desiredActiveNodeId = some target ∧
          s.cluster.peerFor target = some standby ∧ ReplicatesTo s.cluster standby := by
  obtain ⟨htwo, target, hmem, htgt⟩ := reinitialisationNodes hs hm hoper
  obtain ⟨standby, -, -, hstby⟩ := exists_peerFor htwo hmem
  have hlive := (soleMaintenance hs).active hm (by rw [hstat]; rfl)
  have hawaits : AwaitsStage s.cluster m target standby :=
    ⟨hlive, hoper, hstat, hph, htgt, hstby⟩
  constructor
  · rintro ⟨c', hrun, hleft⟩
    -- Otherwise the state is stuck, and every request keeps it so.
    by_contra hnot
    rw [not_or, Bool.not_eq_true] at hnot
    have hstuck : StageStuck s.cluster m target standby s.processStartedAt :=
      ⟨hawaits, hnot.1, fun hto ↦ hnot.2 ⟨target, standby, htgt, hstby, hto⟩⟩
    exact hleft (hstuck.run hrun).awaits.phase
  · rintro (hpend | ⟨target', standby', htgt', hstby', hto⟩)
    · exact hawaits.ends_of_staged (.inl hpend)
    · obtain rfl : target' = target := some.inj (htgt'.symm.trans htgt)
      obtain rfl : standby' = standby := some.inj (hstby'.symm.trans hstby)
      exact hawaits.ends_of_replication hs hto

end Reachable

/-- The node that becomes active is the authority: the wait can end. -/
theorem stage_wait_ends_sample :
    StageWaitEnds (haMachine.run sampleSys (stagingRun 1)).processStartedAt 1
      (haMachine.run sampleSys (stagingRun 1)).cluster := by
  refine (stage_wait_ends_iff (sampleSys_reachable _) (by decide +kernel) (by decide +kernel)
    (by decide +kernel) (by decide +kernel)).2 (.inr ⟨1, 2, by decide +kernel, by decide +kernel, ?_⟩)
  obtain ⟨state, hst, hrest⟩ := any_eq_true _ _ |>.1
    (by decide +kernel : (haMachine.run sampleSys (stagingRun 1)).cluster.leaseReplication.any
      (fun state ↦ state.targetNodeId = some 2 ∧ state.status = .pending) = true)
  rw [decide_eq_true_eq] at hrest
  exact ⟨state, hst, hrest.1, .inl hrest.2⟩

/-- The other node is the authority: the start was accepted, the leases go from the standby to the
node that becomes active, and the wait never ends. -/
theorem stage_wait_without_end :
    haMachine.Reachable (haMachine.run sampleSys (stagingRun 2)) ∧
    piholeManagesDhcp (haMachine.run sampleSys (stagingRun 2)).cluster = true ∧
    ((haMachine.run sampleSys (stagingRun 2)).cluster.maintenanceRun 1).phase =
      .waitingForDhcpStage ∧
    ¬ StageWaitEnds (haMachine.run sampleSys (stagingRun 2)).processStartedAt 1
      (haMachine.run sampleSys (stagingRun 2)).cluster := by
  refine ⟨sampleSys_reachable _, by decide +kernel, by decide +kernel, ?_⟩
  rintro ⟨c', hrun, hleft⟩
  have hawaits : AwaitsStage (haMachine.run sampleSys (stagingRun 2)).cluster 1 1 2 :=
    ⟨by decide +kernel, by decide +kernel, by decide +kernel, by decide +kernel, by decide +kernel,
      by decide +kernel⟩
  have hstuck : StageStuck (haMachine.run sampleSys (stagingRun 2)).cluster 1 1 2
      (haMachine.run sampleSys (stagingRun 2)).processStartedAt := by
    refine ⟨hawaits, by decide +kernel, ?_⟩
    rintro ⟨state, hst, htgt, -⟩
    have hother : (haMachine.run sampleSys (stagingRun 2)).cluster.leaseReplication.all
        (fun state ↦ state.targetNodeId ≠ some 2) = true := by
      decide +kernel
    rw [hst] at hother
    exact of_decide_eq_true hother htgt
  exact hleft (hstuck.run hrun).awaits.phase

end Kaya.HA
