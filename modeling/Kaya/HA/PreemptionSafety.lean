import Kaya.HA.Deployments
import Kaya.HA.Exclusion

/-!
# Who may preempt, and who is left able to

A deployment is tracked by its generation, and the policy of a configuration by the phases of two
kinds of runs. The two go together as long as a run that lets a node preempt ends with a new
deployment. `_complete` does so; the other exits do not. A failover run that has moved the Virtual
IP and then stops safely, or gives the move up and restores DHCP, and a reinitialisation that has
rebuilt the runtime and then ends or starts over, all leave the generation where it is: a
destination that has not answered is offered another text under the same number, and one that has
answered keeps a configuration that may preempt.

`KeepsDeployment` is the condition on a step that none of this happens to a node it matters to.
`Consistent` is what a step then leaves of the offers, and `Exposed` which runs account for a
configuration that may preempt.
-/

namespace Kaya.HA

open List

/-! ### The destination of a move -/

/-- The failover run is moving the Virtual IP to the node. -/
def HAFailoverRun.MovesTo (run : HAFailoverRun) (n : NodeId) : Prop :=
  run.status.isActive = true ∧ ((run.phase = .movingVip ∧ run.targetNodeId = n) ∨
    (run.phase = .rollbackMovingVip ∧ run.sourceNodeId = n))

/-- The reinitialisation is rebuilding the runtime around the node. -/
def HAMaintenanceRun.RebuildsAround (run : HAMaintenanceRun) (n : NodeId) : Prop :=
  run.operation = .reinitialise ∧ run.status = .running ∧ run.phase = .waitingForVip ∧
    run.desiredActiveNodeId = some n

/-- Some run lets the node preempt. -/
def MayPreempt (c : HACluster) (n : NodeId) : Prop :=
  (∃ r ∈ c.failoverRuns.ids, (c.failoverRun r).MovesTo n) ∨
    ∃ m ∈ c.maintenanceRuns.ids, (c.maintenanceRun m).RebuildsAround n

/-- The kind of maintenance that lets a node preempt. -/
def rebuilding (operation : MaintenanceOperation) : Prop := operation = .reinitialise

section Target

variable {c : HACluster} {n : NodeId}

/-- The destination of the active failover run. -/
theorem movesTo_iff {r : RunId} (hlive : (c.failoverRun r).status.isActive = true) :
    (if (c.failoverRun r).phase = .movingVip then some (c.failoverRun r).targetNodeId
      else if (c.failoverRun r).phase = .rollbackMovingVip then some (c.failoverRun r).sourceNodeId
      else none) = some n ↔ (c.failoverRun r).MovesTo n := by
  unfold HAFailoverRun.MovesTo
  split <;> rename_i hmov
  · simp [hlive, hmov]
  split <;> rename_i hrollback
  · simp [hlive, hrollback]
  · simp [hmov, hrollback]

/-- The destination of the newest rebuild, when it is the only one. -/
theorem rebuildsAround_iff (hsole : SoleMaintenance c) :
    ((c.maintenanceRuns.newest? HAMaintenanceRun.createdAt fun run ↦
        run.operation = .reinitialise ∧ run.status = .running ∧ run.phase = .waitingForVip).bind
      fun m ↦ (c.maintenanceRun m).desiredActiveNodeId) = some n ↔
    ∃ m ∈ c.maintenanceRuns.ids, (c.maintenanceRun m).RebuildsAround n := by
  constructor
  · intro h
    obtain ⟨m, hm, hdes⟩ := Option.bind_eq_some_iff.1 h
    obtain ⟨hmem, hrow⟩ := Table.newest?_eq_some hm
    obtain ⟨hoper, hstat, hph⟩ := of_decide_eq_true hrow
    exact ⟨m, hmem, hoper, hstat, hph, hdes⟩
  · rintro ⟨m, hm, hoper, hstat, hph, hdes⟩
    obtain ⟨k, hk⟩ := @Table.newest?_isSome_of_mem _ c.maintenanceRuns HAMaintenanceRun.createdAt
      (fun run ↦ run.operation = .reinitialise ∧ run.status = .running ∧
        run.phase = .waitingForVip) _ hm (decide_eq_true ⟨hoper, hstat, hph⟩)
    obtain ⟨hmem, hrow⟩ := Table.newest?_eq_some hk
    obtain ⟨-, hrunning, -⟩ := of_decide_eq_true hrow
    obtain rfl := hsole k hmem m hm (isActive_of_running hrunning) (isActive_of_running hstat)
    rw [hk]
    exact hdes

/-- Where runs exclude each other, the destination the code looks up is the one some run has. -/
theorem controlledPreemptionTarget_eq_some_iff (hexcl : ExclusionFrom rebuilding c)
    (hsole : SoleMaintenance c) : controlledPreemptionTarget c = some n ↔ MayPreempt c n := by
  unfold controlledPreemptionTarget MayPreempt
  dsimp only
  rw [Option.orElse_eq_some, rebuildsAround_iff hsole]
  rcases hr : activeFailover c with - | r
  · have hnone : ¬ ∃ r ∈ c.failoverRuns.ids, (c.failoverRun r).MovesTo n := by
      rintro ⟨r, hmem, hlive, -⟩
      exact absurd ((isActive_of_activeFailover_none hr hmem).symm.trans hlive) (by decide)
    simp [hnone]
  · obtain ⟨hmem, hlive⟩ := Table.newest?_eq_some hr
    have hnone : ¬ ∃ m ∈ c.maintenanceRuns.ids, (c.maintenanceRun m).RebuildsAround n := by
      rintro ⟨m, hm, hoper, hstat, -⟩
      have hidle := hexcl.notBoth r hmem m hm hlive hoper
      exact absurd (hidle.symm.trans (isActive_of_running hstat)) (by decide)
    have honly : (∃ j ∈ c.failoverRuns.ids, (c.failoverRun j).MovesTo n) ↔
        (c.failoverRun r).MovesTo n := by
      refine ⟨?_, fun h ↦ ⟨r, hmem, h⟩⟩
      rintro ⟨j, hj, hmoves⟩
      obtain rfl := hexcl.oneFailover j hj r hmem hmoves.1 hlive
      exact hmoves
    rw [Option.bind_some, movesTo_iff hlive, honly]
    simp [hnone]

end Target

/-! ### The condition on a step -/

/-- The configuration the node last reported was rendered with `nopreempt`. -/
def HoldsNopreempt (node : HANode) : Prop :=
  ∃ c₀ node₀, node.keepalivedConfigChecksum =
    some (.keepalivedConfig (keepalivedContent c₀ node₀ false))

/-- Every node that is `DEPLOYED` holds a `nopreempt` configuration. -/
def NopreemptDeployed (c : HACluster) : Prop :=
  ∀ n ∈ c.nodes.ids, (c.node n).keepalivedStatus = .deployed → HoldsNopreempt (c.node n)

/-- No node that has still to answer is the destination of a move. -/
def DestinationAnswered (c : HACluster) : Prop :=
  ∀ n ∈ c.nodes.ids, (c.node n).keepalivedStatus = .pendingAgent →
    controlledPreemptionTarget c ≠ some n

/-- The units of work after which the deployments are as they should be. -/
structure KeepsDeployment (s : Sys) (e : Event) : Prop where
  /-- A failover run that has moved the Virtual IP does not stop safely while a node holds, or is
  offered, a configuration that may preempt. -/
  stops : ∀ r ∈ s.cluster.failoverRuns.ids, (s.cluster.failoverRun r).status.isActive = true →
    (s.cluster.failoverRun r).phase.isExposed = true →
    ((step s e).cluster.failoverRun r).status = .failedSafe →
      NopreemptDeployed s.cluster ∧ DestinationAnswered s.cluster
  /-- A failover run does not give its move up while the destination is offered one. -/
  restores : ∀ r ∈ s.cluster.failoverRuns.ids, (s.cluster.failoverRun r).phase = .movingVip →
    ((step s e).cluster.failoverRun r).status = .rollingBack →
    ((step s e).cluster.failoverRun r).phase ≠ .movingVip → DestinationAnswered s.cluster
  /-- A reinitialisation that has rebuilt the runtime neither ends nor starts over while a node
  holds, or is offered, one. -/
  rebuilds : ∀ m ∈ s.cluster.maintenanceRuns.ids, (s.cluster.maintenanceRun m).isRebuilt = true →
    ((step s e).cluster.maintenanceRun m).isRebuilt = false →
      NopreemptDeployed s.cluster ∧ DestinationAnswered s.cluster
  /-- A rollback is accepted when no failover and no reinitialisation is active. -/
  rollback : ∀ r acknowledged c', e.action = .requestFailoverRollback r acknowledged →
    requestFailoverRollback s.cluster r acknowledged e.now = .ok c' → AtRest rebuilding s.cluster
  /-- An automatic failover is adopted when no node has still to answer. -/
  adopts : ∀ n event, e.action = .ingestEvent n event → adoptsOwner s.cluster n event e.now = true →
      ∀ k ∈ s.cluster.nodes.ids, (s.cluster.node k).keepalivedStatus ≠ .pendingAgent
  /-- The environment does not write the columns of a deployment. -/
  observes : ∀ n node, e.action = .observe n node → node.deployment = (s.cluster.node n).deployment

/-! ### What a step leaves of the runs -/

/-- The failover run has moved the Virtual IP and is not over. -/
def HAFailoverRun.isExposed (run : HAFailoverRun) : Bool :=
  run.status.isActive ∧ run.phase.isExposed

/-- Some run accounts for a configuration that may preempt. -/
def Exposed (c : HACluster) : Prop :=
  (∃ r ∈ c.failoverRuns.ids, (c.failoverRun r).isExposed = true) ∨
    ∃ m ∈ c.maintenanceRuns.ids, (c.maintenanceRun m).isRebuilt = true

/-- The failover runs move to the same nodes that have still to answer, and what they account for
stays accounted for. -/
structure MovesKept (c c' : HACluster) : Prop where
  moves : ∀ n ∈ c.nodes.ids, (c.node n).keepalivedStatus = .pendingAgent →
    ((∃ r ∈ c'.failoverRuns.ids, (c'.failoverRun r).MovesTo n) ↔
      ∃ r ∈ c.failoverRuns.ids, (c.failoverRun r).MovesTo n)
  exposed : (∃ r ∈ c.failoverRuns.ids, (c.failoverRun r).isExposed = true) →
    (∃ r ∈ c'.failoverRuns.ids, (c'.failoverRun r).isExposed = true) ∨ NopreemptDeployed c

section Moves

variable {c c' : HACluster} {r : RunId} {n : NodeId} {now : DateTime}

theorem HAFailoverRun.MovesTo.isMoving {run : HAFailoverRun} (h : run.MovesTo n) :
    run.phase.isMoving = true := by
  rcases h.2 with ⟨hph, -⟩ | ⟨hph, -⟩
  · rw [hph]
    rfl
  · rw [hph]
    rfl

theorem not_movesTo_of_isMoving {run : HAFailoverRun} (h : run.phase.isMoving = false) :
    ¬ run.MovesTo n := by
  intro hmoves
  exact absurd (h.symm.trans hmoves.isMoving) (by decide)

theorem FailoverPhase.isExposed_of_isMoving {phase : FailoverPhase} (h : phase.isMoving = true) :
    phase.isExposed = true := by
  revert h
  cases phase <;> decide

theorem MovesKept.of_eq (h : c'.failoverRuns = c.failoverRuns) : MovesKept c c' := by
  refine ⟨fun n _ _ ↦ ?_, fun hexpo ↦ .inl ?_⟩
  · unfold HACluster.failoverRun
    rw [h]
  · unfold HACluster.failoverRun at hexpo ⊢
    rw [h]
    exact hexpo

/-- One row changes. -/
theorem MovesKept.of_row (hids : c'.failoverRuns.ids = c.failoverRuns.ids)
    (hothers : ∀ j, j ≠ r → c'.failoverRun j = c.failoverRun j)
    (hmoves : ∀ n ∈ c.nodes.ids, (c.node n).keepalivedStatus = .pendingAgent →
      ((c'.failoverRun r).MovesTo n ↔ (c.failoverRun r).MovesTo n))
    (hexpo : (c.failoverRun r).isExposed = true →
      (c'.failoverRun r).isExposed = true ∨ NopreemptDeployed c) : MovesKept c c' := by
  refine ⟨fun n hn hpend ↦ ?_, ?_⟩
  · rw [hids]
    refine exists_congr fun j ↦ and_congr_right fun _ ↦ ?_
    by_cases hj : j = r
    · rw [hj]
      exact hmoves n hn hpend
    · rw [hothers j hj]
  · rintro ⟨j, hmem, hrow⟩
    by_cases hj : j = r
    · subst hj
      exact (hexpo hrow).imp_left fun h ↦ ⟨j, hids ▸ hmem, h⟩
    · refine .inl ⟨j, hids ▸ hmem, ?_⟩
      rw [hothers j hj]
      exact hrow

/-- A destination that has answered may preempt no more under the number it was offered. -/
theorem DestinationAnswered.not_mayPreempt (h : DestinationAnswered c)
    (hexcl : ExclusionFrom rebuilding c) (hsole : SoleMaintenance c) (hn : n ∈ c.nodes.ids)
    (hpend : (c.node n).keepalivedStatus = .pendingAgent) : ¬ MayPreempt c n := by
  rw [← controlledPreemptionTarget_eq_some_iff hexcl hsole]
  exact h n hn hpend

/-- The engine advances the run. -/
theorem MovesKept.of_deployment (hrows : RowMoves c now r c')
    (hlive : (c.failoverRun r).status.isActive = true)
    (hdeployment : FailoverDeployment c r c') (hnot : ¬ Redeployed c c')
    (hstops : (c.failoverRun r).phase.isExposed = true →
      (c'.failoverRun r).status = .failedSafe → NopreemptDeployed c ∧
        ∀ n ∈ c.nodes.ids, (c.node n).keepalivedStatus = .pendingAgent →
          ¬ (c.failoverRun r).MovesTo n)
    (hrestores : (c.failoverRun r).phase = .movingVip →
      (c'.failoverRun r).status = .rollingBack → (c'.failoverRun r).phase ≠ .movingVip →
        ∀ n ∈ c.nodes.ids, (c.node n).keepalivedStatus = .pendingAgent →
          ¬ (c.failoverRun r).MovesTo n) : MovesKept c c' := by
  obtain ⟨hsrc, htgt, -, -⟩ := FailoverMove.identity_run hrows.moves
  cases hdeployment with
  | redeployed hnew => exact absurd hnew hnot
  | stopped hview hstat hmov =>
    refine .of_row hrows.ids hrows.others (fun n hn hpend ↦ ?_) fun hexpo ↦ .inr ?_
    · refine iff_of_false (not_movesTo_of_isMoving hmov) fun hmoves ↦ ?_
      have hexpo := FailoverPhase.isExposed_of_isMoving hmoves.isMoving
      exact (hstops hexpo hstat).2 n hn hpend hmoves
    · exact (hstops (of_decide_eq_true hexpo).2 hstat).1
  | restored hview hbef hstat hmov hexpo =>
    refine .of_row hrows.ids hrows.others (fun n hn hpend ↦ ?_) fun _ ↦ .inl ?_
    · refine iff_of_false (not_movesTo_of_isMoving hmov) ?_
      refine hrestores hbef hstat (fun hph ↦ ?_) n hn hpend
      rw [hph] at hmov
      cases hmov
    · refine decide_eq_true ⟨?_, hexpo⟩
      rw [hstat]
      rfl
  | continued hview hstat hmove hexpo =>
    refine .of_row hrows.ids hrows.others (fun n hn hpend ↦ ?_) fun hrow ↦ .inl ?_
    · rcases hmove with hsame | ⟨hmov, hdepl⟩
      · unfold HAFailoverRun.MovesTo
        rw [hstat, hsame, hsrc, htgt]
      · -- The run leaves a move only when nobody has still to answer.
        refine iff_of_false (not_movesTo_of_isMoving hmov) fun hmoves ↦ ?_
        rw [hdepl hmoves.isMoving n hn] at hpend
        cases hpend
    · obtain ⟨-, hph⟩ := of_decide_eq_true hrow
      refine decide_eq_true ⟨?_, hexpo hph⟩
      rw [hstat]
      exact hlive

/-- A rollback starts outside the moves. -/
theorem MovesKept.of_rollback {acknowledged : Bool}
    (hok : requestFailoverRollback c r acknowledged now = .ok c') (hnot : ¬ Redeployed c c') :
    MovesKept c c' := by
  have hrows := (requestFailoverRollback_moves hok).rows
  have hended : (c.failoverRun r).status.isActive = false := by
    rcases (requestFailoverRollback_eq_ok hok).1 with hstat | hstat
    · rw [hstat]
      rfl
    · rw [hstat]
      rfl
  rcases requestFailoverRollback_deployment hok with ⟨-, hmov⟩ | hnew
  · refine .of_row hrows.ids hrows.others (fun n _ _ ↦ ?_) fun hexpo ↦ ?_
    · refine iff_of_false (not_movesTo_of_isMoving hmov) fun hmoves ↦ ?_
      exact absurd (hended.symm.trans hmoves.1) (by decide)
    · exact absurd (hended.symm.trans (of_decide_eq_true hexpo).1) (by decide)
  · exact absurd hnew hnot

/-- An agent's result comes between the moves. -/
theorem MovesKept.of_report (hrows : RowMoves c now r c')
    (hrow : ∃ phase, (c.failoverRun r).phase.afterResult = some phase ∧
      c'.failoverRun r = { c.failoverRun r with
        phase, report := { (c.failoverRun r).report with verificationStartedAt := some now } }) :
    MovesKept c c' := by
  obtain ⟨phase, hafter, hrow⟩ := hrow
  have hphases : (c.failoverRun r).phase.isMoving = false ∧ phase.isMoving = false ∧
      ((c.failoverRun r).phase.isExposed = true → phase.isExposed = true) := by
    revert hafter
    generalize (c.failoverRun r).phase = before
    intro hafter
    cases before <;> cases hafter <;> decide
  refine .of_row hrows.ids hrows.others (fun n _ _ ↦ ?_) fun hexpo ↦ .inl ?_
  · refine iff_of_false (not_movesTo_of_isMoving ?_) (not_movesTo_of_isMoving hphases.1)
    rw [hrow]
    exact hphases.2.1
  · obtain ⟨hlive, hph⟩ := of_decide_eq_true hexpo
    rw [hrow]
    exact decide_eq_true ⟨hlive, hphases.2.2 hph⟩

/-- A run is created before its move. -/
theorem MovesKept.of_created {base : HACluster} {source target : NodeId} {managed : Bool}
    (hbase : base.failoverRuns = c.failoverRuns) (hview : deploymentView base = deploymentView c)
    (hc' : c' = (createFailoverRun base source target managed now).1)
    (hnot : ¬ Redeployed c c') : MovesKept c c' := by
  have hnew := createFailoverRun_new base now source target managed
  have hids := createFailoverRun_ids base now source target managed
  have hold (j : RunId) (hj : j ∈ base.failoverRuns.ids) :
      c'.failoverRun j = c.failoverRun j := by
    rw [hc', createFailoverRun_old _ _ _ _ _ hj, HACluster.failoverRun, hbase]
  rw [← hc', hbase] at hids
  rcases @createFailoverRun_deployment base now source target managed with ⟨-, hph⟩ | hdepl
  · have hstart (n : NodeId) : ¬ (c'.failoverRun base.failoverRuns.freshKey).MovesTo n := by
      refine not_movesTo_of_isMoving ?_
      rw [hc', hnew.phase]
      revert hph
      unfold startPhase
      split
      · exact fun _ ↦ rfl
      split
      · exact fun _ ↦ rfl
      · exact fun h ↦ absurd rfl h
    refine ⟨fun n _ _ ↦ ⟨?_, ?_⟩, ?_⟩
    · rintro ⟨j, hj, hmoves⟩
      rw [hids, mem_append, mem_singleton] at hj
      rcases hj with hj | hj
      · rw [hold j (hbase ▸ hj)] at hmoves
        exact ⟨j, hj, hmoves⟩
      · rw [hj, ← hbase] at hmoves
        exact absurd hmoves (hstart n)
    · rintro ⟨j, hj, hmoves⟩
      refine ⟨j, hids ▸ mem_append_left _ hj, ?_⟩
      rw [hold j (hbase ▸ hj)]
      exact hmoves
    · rintro ⟨j, hj, hexpo⟩
      refine .inl ⟨j, hids ▸ mem_append_left _ hj, ?_⟩
      rw [hold j (hbase ▸ hj)]
      exact hexpo
  · exact absurd (hc' ▸ hdepl.after hview) hnot

end Moves

variable {s : Sys} {e : Event} {c c' : HACluster} {n : NodeId}

/-- **The failover runs of a step** that deploys nothing anew. -/
theorem movesKept_step (hexcl : ExclusionFrom rebuilding s.cluster)
    (hsole : SoleMaintenance s.cluster) (hkeeps : KeepsDeployment s e)
    (hnot : ¬ Redeployed s.cluster (step s e).cluster) :
    MovesKept s.cluster (step s e).cluster := by
  have hans (h : DestinationAnswered s.cluster) {r : RunId}
      (hr : r ∈ s.cluster.failoverRuns.ids) (n : NodeId) (hn : n ∈ s.cluster.nodes.ids)
      (hpend : (s.cluster.node n).keepalivedStatus = .pendingAgent) :
      ¬ (s.cluster.failoverRun r).MovesTo n :=
    fun hmoves ↦ h.not_mayPreempt hexcl hsole hn hpend (.inl ⟨r, hr, hmoves⟩)
  cases step_kind s e with
  | idle hfail => exact .of_eq hfail
  | advanced r ha hr hmoves =>
    obtain ⟨hmem, hlive⟩ := Table.newest?_eq_some hr
    refine .of_deployment hmoves hlive ?_ hnot (fun hexpo hstat ↦ ?_)
      fun hph hstat hleft ↦ hans (hkeeps.restores r hmem hph hstat hleft) hmem
    · rw [step_cluster, ha]
      show FailoverDeployment _ _ (advanceFailover s.cluster e.now)
      rw [advanceFailover, hr]
      exact .advanceRun
    · obtain ⟨hdepl, hpend⟩ := hkeeps.stops r hmem hlive hexpo hstat
      exact ⟨hdepl, hans hpend hmem⟩
  | reported r hrow hr hmoves => exact .of_report hmoves hrow
  | rollback r acknowledged ha hr hok => exact .of_rollback hok hnot
  | created source target confirmation acknowledged failback answer ha _ _ _ _ hc' =>
    exact .of_created (captured_failoverRuns _ _ _ _) (captured_view _ _) hc' hnot
  | maintenance m hmoves => exact .of_eq hmoves.failover
  | maintenanceStarted hstart => exact .of_eq hstart.failover

/-- The same of the reinitialisations. -/
structure RebuildsKept (c c' : HACluster) : Prop where
  rebuilds : ∀ n ∈ c.nodes.ids, (c.node n).keepalivedStatus = .pendingAgent →
    ((∃ m ∈ c'.maintenanceRuns.ids, (c'.maintenanceRun m).RebuildsAround n) ↔
      ∃ m ∈ c.maintenanceRuns.ids, (c.maintenanceRun m).RebuildsAround n)
  exposed : (∃ m ∈ c.maintenanceRuns.ids, (c.maintenanceRun m).isRebuilt = true) →
    (∃ m ∈ c'.maintenanceRuns.ids, (c'.maintenanceRun m).isRebuilt = true) ∨ NopreemptDeployed c

section Rebuilds

variable {s : Sys} {e : Event} {m : RunId} {n : NodeId}

theorem HAMaintenanceRun.RebuildsAround.isRebuilt {run : HAMaintenanceRun}
    (h : run.RebuildsAround n) : run.isRebuilt = true := by
  refine decide_eq_true ⟨h.1, h.2.1, ?_⟩
  rw [h.2.2.1]
  rfl

/-- What a step that deploys nothing anew does to a reinitialisation: it is not rebuilt any more,
or its place in the rebuild stays. -/
inductive RebuildStep (s : Sys) (e : Event) (m : RunId) : Prop
  /-- The run is over, or not there yet. -/
  | left (hrebuilt : ((step s e).cluster.maintenanceRun m).isRebuilt = false)
  /-- The run goes on. -/
  | continued
      (hrebuilt : (s.cluster.maintenanceRun m).isRebuilt = true →
        ((step s e).cluster.maintenanceRun m).isRebuilt = true)
      (hph : ((step s e).cluster.maintenanceRun m).phase = (s.cluster.maintenanceRun m).phase ∨
        (((step s e).cluster.maintenanceRun m).phase ≠ .waitingForVip ∧
          ((s.cluster.maintenanceRun m).phase = .waitingForVip →
            ∀ n ∈ s.cluster.nodes.ids, (s.cluster.node n).keepalivedStatus = .deployed)))

theorem rebuild_step (hm : m ∈ s.cluster.maintenanceRuns.ids)
    (hoper : (s.cluster.maintenanceRun m).operation = .reinitialise)
    (hnot : ¬ Redeployed s.cluster (step s e).cluster) : RebuildStep s e m := by
  have hoper' : ((step s e).cluster.maintenanceRun m).operation = .reinitialise := by
    rw [operation_step hm]
    exact hoper
  cases @reinitialisation_step s e m hm hoper with
  | same hrow =>
    refine .continued (fun hrebuilt ↦ ?_) (.inl ?_)
    · rw [hrow]
      exact hrebuilt
    · rw [hrow]
  | advanced inputs hact hrunning =>
    have hdeployment : ReinitialisationDeployment s.cluster m (step s e).cluster := by
      rw [step_cluster, hact, clusterStep, if_pos hm]
      exact .advanceReinitialisation
    cases hdeployment with
    | redeployed hnew => exact absurd hnew hnot
    | left _ hrebuilt => exact .left hrebuilt
    | continued _ hstat hph =>
      refine .continued (fun hrebuilt ↦ ?_) (hph.imp_right fun h ↦ ⟨h.1, h.2.2⟩)
      obtain ⟨-, -, hbef⟩ := of_decide_eq_true hrebuilt
      refine decide_eq_true ⟨hoper', hstat.trans hrunning, ?_⟩
      rcases hph with hsame | ⟨-, hafter, -⟩
      · rw [hsame]
        exact hbef
      · exact hafter
  | answered phase hafter hph hstat =>
    -- The two results of a reinitialisation come before and after the rebuild.
    have hphases : phase ≠ .waitingForVip ∧ (s.cluster.maintenanceRun m).phase ≠ .waitingForVip ∧
        ((s.cluster.maintenanceRun m).phase.isRebuilt = true → phase.isRebuilt = true) := by
      revert hafter
      rw [phaseAfterResult, if_neg (by rw [hoper]; decide)]
      generalize (s.cluster.maintenanceRun m).phase = before
      intro hafter
      cases before <;> cases hafter <;> decide
    refine .continued (fun hrebuilt ↦ ?_) (.inr ⟨?_, fun h ↦ absurd h hphases.2.1⟩)
    · obtain ⟨-, hrunning, hbef⟩ := of_decide_eq_true hrebuilt
      refine decide_eq_true ⟨hoper', hstat.trans hrunning, ?_⟩
      rw [hph]
      exact hphases.2.2 hbef
    · rw [hph]
      exact hphases.1

/-- A run that rebuilds after a step is not new. -/
theorem mem_of_rebuildsAround (hm : m ∈ (step s e).cluster.maintenanceRuns.ids)
    (hrebuilds : ((step s e).cluster.maintenanceRun m).RebuildsAround n) :
    m ∈ s.cluster.maintenanceRuns.ids := by
  rcases maintenance_step s e with ⟨hids, -⟩ | hstart
  · exact hids ▸ hm
  · rw [hstart.ids, mem_append, mem_singleton] at hm
    rcases hm with hm | rfl
    · exact hm
    · obtain ⟨hph, -⟩ := hstart.new.reinitialise hrebuilds.1
      have hwait := hph.symm.trans hrebuilds.2.2.1
      cases hwait

/-- **The reinitialisations of a step** that deploys nothing anew. -/
theorem rebuildsKept_step (hexcl : ExclusionFrom rebuilding s.cluster)
    (hsole : SoleMaintenance s.cluster) (hkeeps : KeepsDeployment s e)
    (hnot : ¬ Redeployed s.cluster (step s e).cluster) :
    RebuildsKept s.cluster (step s e).cluster := by
  refine ⟨fun n hn hpend ↦ ⟨?_, ?_⟩, ?_⟩
  · rintro ⟨m, hm, hrebuilds⟩
    have hold := mem_of_rebuildsAround hm hrebuilds
    have hevolves := @maintenanceRun_evolves m s e hold
    have hoper := hevolves.operation.symm.trans hrebuilds.1
    have hrebuilt := hrebuilds.isRebuilt
    obtain ⟨-, hstat, hph, hdes⟩ := hrebuilds
    refine ⟨m, hold, hoper, ?_, ?_, hevolves.desiredActive.symm.trans hdes⟩
    · exact (hevolves.status (isActive_of_running hstat)).symm.trans hstat
    · cases rebuild_step hold hoper hnot with
      | left hleft => exact absurd (hleft.symm.trans hrebuilt) (by decide)
      | continued _ hgoes =>
        rcases hgoes with hsame | ⟨hne, -⟩
        · exact hsame.symm.trans hph
        · exact absurd hph hne
  · rintro ⟨m, hm, hrebuilds⟩
    have hrebuilt := hrebuilds.isRebuilt
    cases rebuild_step hm hrebuilds.1 hnot with
    | left hleft =>
      have hans := (hkeeps.rebuilds m hm hrebuilt hleft).2
      exact absurd (.inr ⟨m, hm, hrebuilds⟩)
        (hans.not_mayPreempt hexcl hsole hn hpend)
    | continued hgoes hph =>
      obtain ⟨hoper, hstat, -⟩ := of_decide_eq_true (hgoes hrebuilt)
      refine ⟨m, maintenanceRuns_grow hm, hoper, hstat, ?_, ?_⟩
      · rcases hph with hsame | ⟨-, hdepl⟩
        · exact hsame.trans hrebuilds.2.2.1
        · rw [hdepl hrebuilds.2.2.1 n hn] at hpend
          cases hpend
      · rw [(maintenanceRun_evolves hm).desiredActive]
        exact hrebuilds.2.2.2
  · rintro ⟨m, hm, hrebuilt⟩
    have hrun := of_decide_eq_true hrebuilt
    cases rebuild_step hm hrun.1 hnot with
    | left hleft => exact .inr (hkeeps.rebuilds m hm hrebuilt hleft).1
    | continued hgoes => exact .inl ⟨m, maintenanceRuns_grow hm, hgoes hrebuilt⟩

end Rebuilds

/-! ### Offers under one generation -/

/-- What a run leaves of the offers: within one generation, a node that has still to answer had
still to answer all along, and is offered the text it was offered before. -/
structure Consistent (c c' : HACluster) : Prop where
  ids : c'.nodes.ids = c.nodes.ids
  generation : c.keepalivedGeneration ≤ c'.keepalivedGeneration
  kept : c'.keepalivedGeneration = c.keepalivedGeneration → ∀ n ∈ c.nodes.ids,
    (c'.node n).keepalivedStatus = .pendingAgent → (c.node n).keepalivedStatus = .pendingAgent ∧
      SameRendering c c' n ∧ (MayPreempt c' n ↔ MayPreempt c n)

section Offers

variable {c c' c'' : HACluster} {n : NodeId} {a a' : KeepalivedAction}

theorem Consistent.trans (h : Consistent c c') (h' : Consistent c' c'') : Consistent c c'' := by
  refine ⟨h'.ids.trans h.ids, h.generation.trans h'.generation, fun hsame n hn hpend ↦ ?_⟩
  have hle := h.generation
  have hle' := h'.generation
  obtain ⟨hpend', hrendering', hpreempt'⟩ :=
    h'.kept (by omega) n (h.ids.symm ▸ hn) hpend
  obtain ⟨hpending₀, hrendering, hpreempt⟩ := h.kept (by omega) n hn hpend'
  exact ⟨hpending₀, hrendering.trans hrendering', hpreempt'.trans hpreempt⟩

/-- Consistent states offer a node the same action. -/
theorem Consistent.offers (h : Consistent c c')
    (htgt : controlledPreemptionTarget c = some n ↔ MayPreempt c n)
    (htgt' : controlledPreemptionTarget c' = some n ↔ MayPreempt c' n)
    (hoffer : desiredKeepalivedAction c n = .ok (some a))
    (hoffer' : desiredKeepalivedAction c' n = .ok (some a'))
    (hgen : a'.generation = a.generation) : a' = a := by
  obtain ⟨hn, -, hsame, hcont, hid, hsum⟩ := desiredKeepalivedAction_eq_ok hoffer
  obtain ⟨-, hpend', hsame', hcont', hid', hsum'⟩ := desiredKeepalivedAction_eq_ok hoffer'
  have heq : c'.keepalivedGeneration = c.keepalivedGeneration := by
    rw [← hsame', hgen, hsame]
  obtain ⟨-, hrendering, hpreempt⟩ := h.kept heq n hn hpend'
  have hconfiguration : a'.configuration = a.configuration := by
    rw [hcont', hcont, hrendering.content]
    congr 1
    rw [decide_eq_decide, htgt, htgt', hpreempt]
  rcases a with ⟨id, generation, configuration, checksum⟩
  rcases a' with ⟨id', generation', configuration', checksum'⟩
  dsimp only at *
  subst hgen hconfiguration
  rw [hid, hid', hsum, hsum', heq]

end Offers

/-- **Offers of a step.** -/
theorem consistent_step (hexcl : ExclusionFrom rebuilding s.cluster)
    (hsole : SoleMaintenance s.cluster) (hkeeps : KeepsDeployment s e) :
    Consistent s.cluster (step s e).cluster := by
  by_cases hnot : Redeployed s.cluster (step s e).cluster
  · exact ⟨hnot.ids, hnot.generation.le, fun hsame ↦ absurd hsame hnot.generation.ne'⟩
  have hmoves := movesKept_step hexcl hsole hkeeps hnot
  have hrebuilds := rebuildsKept_step hexcl hsole hkeeps hnot
  have hpreempt (n : NodeId) (hn : n ∈ s.cluster.nodes.ids)
      (hpend : (s.cluster.node n).keepalivedStatus = .pendingAgent) :
      MayPreempt (step s e).cluster n ↔ MayPreempt s.cluster n :=
    or_congr (hmoves.moves n hn hpend) (hrebuilds.rebuilds n hn hpend)
  cases deployment_step hkeeps.observes hkeeps.adopts with
  | redeployed hnew => exact absurd hnew hnot
  | kept hkept =>
    refine ⟨hkept.ids, hkept.generation, fun hsame n hn hpend ↦ ?_⟩
    rw [hkept.status] at hpend
    exact ⟨hpend, hkept.rendering hsame n hn hpend, hpreempt n hn hpend⟩
  | answered k hans =>
    refine ⟨hans.ids, (hans.rendering k).generation.ge, fun _ n hn hpend ↦ ?_⟩
    have hne : n ≠ k := by
      rintro rfl
      obtain ⟨a, -, ⟨hdepl, -⟩ | herror⟩ := hans.offered
      · rw [hdepl] at hpend
        cases hpend
      · rw [herror] at hpend
        cases hpend
    have hstat := congrArg Deployment.keepalivedStatus (hans.others n hne)
    have hbef : (s.cluster.node n).keepalivedStatus = .pendingAgent := hstat.symm.trans hpend
    exact ⟨hbef, hans.rendering n, hpreempt n hn hbef⟩

/-! ### What is left deployed -/

theorem MayPreempt.exposed (h : MayPreempt c n) : Exposed c := by
  rcases h with ⟨r, hr, hmoves⟩ | ⟨m, hm, hrebuilds⟩
  · refine .inl ⟨r, hr, decide_eq_true ⟨hmoves.1, ?_⟩⟩
    exact FailoverPhase.isExposed_of_isMoving hmoves.isMoving
  · exact .inr ⟨m, hm, hrebuilds.isRebuilt⟩

theorem Exposed.of_runs (h : Exposed c) (hfail : c'.failoverRuns = c.failoverRuns)
    (hmaint : c'.maintenanceRuns = c.maintenanceRuns) : Exposed c' := by
  unfold Exposed HACluster.failoverRun HACluster.maintenanceRun at h ⊢
  rw [hfail, hmaint]
  exact h

theorem NopreemptDeployed.kept (h : NopreemptDeployed c)
    (hkept : DeploymentsKept c c') : NopreemptDeployed c' := by
  intro n hn hdepl
  rw [hkept.ids] at hn
  rw [hkept.status] at hdepl
  unfold HoldsNopreempt
  rw [hkept.checksum]
  exact h n hn hdepl

/-- A node that answers outside a move holds `nopreempt`. -/
theorem NopreemptDeployed.answered (h : NopreemptDeployed c) (hans : DeploymentAnswered c n c')
    (htgt : controlledPreemptionTarget c ≠ some n) : NopreemptDeployed c' := by
  intro k hk hdepl
  rw [hans.ids] at hk
  by_cases hkn : k = n
  · subst hkn
    obtain ⟨a, hoffer, ⟨-, hsum⟩ | herror⟩ := hans.offered
    · obtain ⟨-, -, -, hcont, -, hdigest⟩ := desiredKeepalivedAction_eq_ok hoffer
      rw [decide_eq_false htgt] at hcont
      refine ⟨c, c.node k, ?_⟩
      rw [hsum, hdigest, hcont]
    · rw [herror] at hdepl
      cases hdepl
  · have hstat := congrArg Deployment.keepalivedStatus (hans.others k hkn)
    have hsum := congrArg Deployment.keepalivedConfigChecksum (hans.others k hkn)
    obtain ⟨c₀, node₀, hheld⟩ := h k hk (hstat.symm.trans hdepl)
    exact ⟨c₀, node₀, hsum.trans hheld⟩

/-- **Deployments of a step**: a configuration that may preempt is accounted for by some run. -/
theorem exposed_step (hexcl : ExclusionFrom rebuilding s.cluster)
    (hsole : SoleMaintenance s.cluster) (hkeeps : KeepsDeployment s e)
    (h : Exposed s.cluster ∨ NopreemptDeployed s.cluster) :
    Exposed (step s e).cluster ∨ NopreemptDeployed (step s e).cluster := by
  by_cases hnot : Redeployed s.cluster (step s e).cluster
  · refine .inr fun n hn hdepl ↦ ?_
    rw [hnot.pending n (hnot.ids ▸ hn)] at hdepl
    cases hdepl
  have hexpo : Exposed s.cluster →
      Exposed (step s e).cluster ∨ NopreemptDeployed s.cluster := by
    rintro (hmoved | hrebuilt)
    · exact ((movesKept_step hexcl hsole hkeeps hnot).exposed hmoved).imp_left .inl
    · exact ((rebuildsKept_step hexcl hsole hkeeps hnot).exposed hrebuilt).imp_left .inr
  cases deployment_step hkeeps.observes hkeeps.adopts with
  | redeployed hnew => exact absurd hnew hnot
  | kept hkept =>
    rcases h.elim hexpo .inr with hafter | hclean
    · exact .inl hafter
    · exact .inr (hclean.kept hkept)
  | answered n hans =>
    by_cases htgt : controlledPreemptionTarget s.cluster = some n
    · have hmay := (controlledPreemptionTarget_eq_some_iff hexcl hsole).1 htgt
      exact .inl (hmay.exposed.of_runs hans.failover hans.maintenance)
    · rcases h with hbef | hclean
      · exact .inl (hbef.of_runs hans.failover hans.maintenance)
      · exact .inr (hclean.answered hans htgt)

/-! ### Runs -/

/-- The invariant of a run that keeps its deployments. -/
structure DeploymentInvariant (h : List (Sys × Event)) (s : Sys) : Prop where
  exclusive : ExclusionFrom rebuilding s.cluster
  sole : SoleMaintenance s.cluster
  accounted : Exposed s.cluster ∨ NopreemptDeployed s.cluster
  past : ∀ t ∈ h, Consistent t.1.cluster s.cluster ∧ ExclusionFrom rebuilding t.1.cluster ∧
    SoleMaintenance t.1.cluster

section Runs

variable {s₀ s : Sys} {h : List (Sys × Event)}

/-- Readiness looks for failover runs and for the mode, and a reinitialisation holds the mode. -/
theorem exclusionFrom_step {e : Event} (hexcl : ExclusionFrom rebuilding s.cluster)
    (hsole : SoleMaintenance s.cluster) (hkeeps : KeepsDeployment s e) :
    ExclusionFrom rebuilding (step s e).cluster := by
  refine hexcl.step hsole hkeeps.rollback fun _ _ _ _ _ _ _ hrdy _ ↦ ?_
  have hstart := readyToStart_of_blockers hrdy
  refine ⟨fun r hr ↦ isActive_of_activeFailover_none hstart.noFailover hr, fun m hm hkind ↦ ?_⟩
  by_contra hlive
  rw [Bool.not_eq_false] at hlive
  have hreconcile : (s.cluster.maintenanceRun m).operation ≠ .reconcile := by
    rw [hkind]
    decide
  have hmode := hexcl.mode m hm hlive hkind hreconcile
  exact absurd (hstart.noMaintenance.symm.trans hmode) (by decide)

theorem deploymentInvariant (hinit : Initial s₀) (hclean : NopreemptDeployed s₀.cluster)
    (hh : haMachine.History s₀ h s) (hkeeps : ∀ t ∈ h, KeepsDeployment t.1 t.2) :
    DeploymentInvariant h s := by
  induction hh with
  | nil =>
    exact ⟨.initial hinit, soleMaintenance (Machine.History.nil.reachable hinit), .inr hclean,
      fun t ht ↦ absurd ht not_mem_nil⟩
  | @cons h s e hh ih =>
    obtain ⟨hexcl, hsole, haccounted, hpast⟩ :=
      ih fun t ht ↦ hkeeps t (mem_cons_of_mem _ ht)
    have hstep := hkeeps (s, e) mem_cons_self
    have hcons := consistent_step hexcl hsole hstep
    refine ⟨exclusionFrom_step hexcl hsole hstep, soleMaintenance ((hh.cons e).reachable hinit),
      exposed_step hexcl hsole hstep haccounted, fun t ht ↦ ?_⟩
    rcases mem_cons.1 ht with rfl | ht
    · exact ⟨hcons, hexcl, hsole⟩
    · obtain ⟨hbef, hrest⟩ := hpast t ht
      exact ⟨hbef.trans hcons, hrest⟩

/-- **Offers and deployments.** In a run that keeps its deployments, a node is offered one
configuration under one generation, and when no failover and no reinitialisation is active every
node that is deployed holds a `nopreempt` configuration. -/
theorem keepalived_consistent (hinit : Initial s₀) (hclean : NopreemptDeployed s₀.cluster)
    (hh : haMachine.History s₀ h s) (hkeeps : ∀ t ∈ h, KeepsDeployment t.1 t.2) :
    (∀ t ∈ h, ∀ n a a', desiredKeepalivedAction t.1.cluster n = .ok (some a) →
      desiredKeepalivedAction s.cluster n = .ok (some a') → a'.generation = a.generation → a' = a) ∧
    ((∀ r ∈ s.cluster.failoverRuns.ids, (s.cluster.failoverRun r).status.isActive = false) →
      (∀ m ∈ s.cluster.maintenanceRuns.ids, (s.cluster.maintenanceRun m).operation = .reinitialise →
        (s.cluster.maintenanceRun m).status ≠ .running) →
      ∀ n ∈ s.cluster.nodes.ids, (s.cluster.node n).keepalivedStatus = .deployed →
        HoldsNopreempt (s.cluster.node n)) := by
  obtain ⟨hexcl, hsole, haccounted, hpast⟩ := deploymentInvariant hinit hclean hh hkeeps
  constructor
  · intro t ht n a a' hoffer hoffer' hgen
    obtain ⟨hcons, hexcl', hsole'⟩ := hpast t ht
    exact hcons.offers (controlledPreemptionTarget_eq_some_iff hexcl' hsole')
      (controlledPreemptionTarget_eq_some_iff hexcl hsole) hoffer hoffer' hgen
  · intro hfail hmaint
    refine haccounted.resolve_left ?_
    rintro (⟨r, hr, hexpo⟩ | ⟨m, hm, hrebuilt⟩)
    · exact absurd ((hfail r hr).symm.trans (of_decide_eq_true hexpo).1) (by decide)
    · obtain ⟨hoper, hrunning, -⟩ := of_decide_eq_true hrebuilt
      exact hmaint m hm hoper hrunning

end Runs

/-! ### A move that is given up -/

theorem keepalivedContent_ne (c : HACluster) (node : HANode) :
    keepalivedContent c node true ≠ keepalivedContent c node false := by
  intro h
  have hlen := congrArg String.length h
  have hdelay : (toString "    preempt_delay 3\n").length = 20 := rfl
  have hnone : (toString "    nopreempt\n").length = 14 := rfl
  unfold keepalivedContent at hlen
  simp only [String.length_append, if_true, Bool.false_eq_true, if_false] at hlen
  omega

theorem exists_offer (h : (desiredKeepalivedAction c n).toOption.join.isSome = true) :
    ∃ a, desiredKeepalivedAction c n = .ok (some a) := by
  rcases hoffer : desiredKeepalivedAction c n with message | - | a
  · rw [hoffer] at h
    cases h
  · rw [hoffer] at h
    cases h
  · exact ⟨a, rfl⟩

/-- A node of a cluster that moves nothing but the Virtual IP. -/
def plainNode (name host : String) (owner : Bool) (priority : ℕ) : HANode :=
  { sampleNode name owner false 0 0 with
    managementHost := some host, networkInterface := some "eth0", vrrpPriority := some priority
    keepalivedConfigChecksum :=
      some (.keepalivedConfig (keepalivedContent sampleCluster (sampleNode name owner false 0 0)
        false)) }

/-- Two such nodes, deployed. -/
def plainSys : Sys :=
  { sampleSys with
    cluster :=
      { sampleCluster with
        deploymentMode := some .dnsOnly, publicId := "a", virtualIp := some "192.0.2.10"
        prefixLength := some 24, vrrpRouterId := some 51
        nodes :=
          { sampleCluster.nodes with
            row := fun n ↦ if n = 1 then plainNode "first" "192.0.2.2" true 150
              else plainNode "second" "192.0.2.3" false 100 } } }

theorem plainSys_initial : Initial plainSys :=
  ⟨rfl, rfl, rfl, rfl, rfl, rfl, le_rfl, rfl, fun _ ↦ rfl, fun _ ↦ rfl, rfl⟩

theorem plainSys_nopreempt : NopreemptDeployed plainSys.cluster := by
  intro n hn _
  rcases mem_cons.1 hn with rfl | hn
  · exact ⟨_, _, rfl⟩
  · obtain rfl := mem_singleton.1 hn
    exact ⟨_, _, rfl⟩

/-- The Virtual IP is to move to the second node. -/
def plainMovingRun : List Event :=
  [⟨0, .reconcileClusterLeases (.ok none)⟩,
    ⟨0, .startControlledFailover 2 "home" true (.ok ()) (.ok none)⟩]

/-- Nobody has answered yet. -/
def plainWaitingRun : List Event := plainMovingRun ++ [⟨seconds 1, .advanceFailover⟩]

/-- Nobody answers, and the run stops safely. -/
def plainStoppedRun : List Event := plainMovingRun ++ [⟨seconds 61, .advanceFailover⟩]

/-- The second node is offered two configurations under one generation. -/
theorem keepalived_offers_differ :
    Initial plainSys ∧ NopreemptDeployed plainSys.cluster ∧
    ∃ a a', desiredKeepalivedAction (haMachine.run plainSys plainMovingRun).cluster 2 =
        .ok (some a) ∧
      desiredKeepalivedAction (haMachine.run plainSys plainStoppedRun).cluster 2 = .ok (some a') ∧
      a'.generation = a.generation ∧ a'.checksum ≠ a.checksum := by
  refine ⟨plainSys_initial, plainSys_nopreempt, ?_⟩
  obtain ⟨a, hoffer⟩ := exists_offer (c := (haMachine.run plainSys plainMovingRun).cluster)
    (n := 2) (by decide +kernel)
  obtain ⟨a', hoffer'⟩ := exists_offer (c := (haMachine.run plainSys plainStoppedRun).cluster)
    (n := 2) (by decide +kernel)
  refine ⟨a, a', hoffer, hoffer', ?_, fun hsum ↦ ?_⟩
  · obtain ⟨-, -, hsame, -⟩ := desiredKeepalivedAction_eq_ok hoffer
    obtain ⟨-, -, hsame', -⟩ := desiredKeepalivedAction_eq_ok hoffer'
    rw [hsame, hsame']
    decide +kernel
  · obtain ⟨-, -, -, hcont, -, hdigest⟩ := desiredKeepalivedAction_eq_ok hoffer
    obtain ⟨-, -, -, hcont', -, hdigest'⟩ := desiredKeepalivedAction_eq_ok hoffer'
    have hrendering : SameRendering (haMachine.run plainSys plainMovingRun).cluster
        (haMachine.run plainSys plainStoppedRun).cluster 2 :=
      ⟨by decide +kernel, by decide +kernel, by decide +kernel, by decide +kernel,
        by decide +kernel, by decide +kernel, by decide +kernel⟩
    rw [decide_eq_true (by decide +kernel)] at hcont
    rw [decide_eq_false (by decide +kernel), hrendering.content] at hcont'
    rw [hdigest, hdigest', hcont, hcont', Digest.keepalivedConfig.injEq] at hsum
    exact keepalivedContent_ne _ _ hsum.symm

/-- A step of the engines beside which no run ends keeps the deployments. -/
theorem KeepsDeployment.quiet
    (hrunning : ∀ r ∈ s.cluster.failoverRuns.ids,
      ((step s e).cluster.failoverRun r).status = .running)
    (hmaint : s.cluster.maintenanceRuns.ids = [])
    (hact : match e.action with
      | .requestFailoverRollback _ _ | .ingestEvent _ _ | .observe _ _ => False
      | _ => True) : KeepsDeployment s e where
  stops r hr _ _ hstat := by
    rw [hrunning r hr] at hstat
    cases hstat
  restores r hr _ hstat := by
    rw [hrunning r hr] at hstat
    cases hstat
  rebuilds m hm := by
    rw [hmaint] at hm
    cases hm
  rollback r acknowledged c' ha := by
    rw [ha] at hact
    exact hact.elim
  adopts n event ha := by
    rw [ha] at hact
    exact hact.elim
  observes n node ha := by
    rw [ha] at hact
    exact hact.elim

/-- The second node has still to answer, and is offered the same configuration as a moment ago. -/
theorem keepalived_consistent_moving :
    (∀ t ∈ haMachine.trace [] plainSys plainWaitingRun, ∀ n a a',
      desiredKeepalivedAction t.1.cluster n = .ok (some a) →
      desiredKeepalivedAction (haMachine.run plainSys plainWaitingRun).cluster n = .ok (some a') →
      a'.generation = a.generation → a' = a) ∧
    (desiredKeepalivedAction (haMachine.run plainSys plainWaitingRun).cluster
      2).toOption.join.isSome = true := by
  refine ⟨(keepalived_consistent plainSys_initial plainSys_nopreempt
    (Machine.History.nil.trace plainWaitingRun) fun t ht ↦ ?_).1, by decide +kernel⟩
  simp only [plainWaitingRun, plainMovingRun, cons_append, nil_append, Machine.trace,
    mem_cons, not_mem_nil, or_false] at ht
  rcases ht with rfl | rfl | rfl
  · exact .quiet (by decide +kernel) (by decide +kernel) trivial
  · exact .quiet (by decide +kernel) (by decide +kernel) trivial
  · exact .quiet (by decide +kernel) (by decide +kernel) trivial

end Kaya.HA
