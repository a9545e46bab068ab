import Kaya.HA.ReinitialisationSteps
import Kaya.HA.FailoverCompletion
import Kaya.HA.Reports

/-!
# What becomes of a Keepalived deployment

A rendered configuration is a function of a few columns: the identity and the network of the cluster,
the deployment generation, and interface and priority of the node. `deploymentView` is these columns
with the two that track the deployment on a node, and most units of work leave the view alone.

A new deployment (`Redeployed`) takes a new generation and starts over on **every** node. It is the
only way back to `PENDING_AGENT`, so within one generation a node is offered configurations until the
first answer and never again. `FailoverDeployment` says which steps of a failover run request one, and
what the others leave.
-/

namespace Kaya.HA

/-! ### The view -/

/-- The columns of a node that a deployment reads and writes. -/
structure Deployment where
  networkInterface : Option String
  vrrpPriority : Option ℕ
  keepalivedStatus : KeepalivedStatus
  keepalivedConfigChecksum : Option Digest

/-- The deployment of a node. -/
def HANode.deployment (node : HANode) : Deployment :=
  ⟨node.networkInterface, node.vrrpPriority, node.keepalivedStatus, node.keepalivedConfigChecksum⟩

/-- The columns a configuration is rendered from, with the deployments of the nodes. -/
structure DeploymentView where
  publicId : String
  virtualIp : Option String
  prefixLength : Option ℕ
  vrrpRouterId : Option ℕ
  keepalivedGeneration : ℕ
  nodeIds : List NodeId
  node : NodeId → Deployment

/-- The view of a cluster, with the given columns of its nodes. -/
def viewOf (columns : HANode → Deployment) (c : HACluster) : DeploymentView where
  publicId := c.publicId
  virtualIp := c.virtualIp
  prefixLength := c.prefixLength
  vrrpRouterId := c.vrrpRouterId
  keepalivedGeneration := c.keepalivedGeneration
  nodeIds := c.nodes.ids
  node n := columns (c.node n)

/-- The view of a cluster. -/
def deploymentView (c : HACluster) : DeploymentView := viewOf HANode.deployment c

/-- The deployment of a node without its priority, which the ownership reconciliation writes. -/
def HANode.deployed (node : HANode) : Deployment := { node.deployment with vrrpPriority := none }

/-- The two clusters render the same configurations for a node. -/
structure SameRendering (c c' : HACluster) (n : NodeId) : Prop where
  publicId : c'.publicId = c.publicId
  virtualIp : c'.virtualIp = c.virtualIp
  prefixLength : c'.prefixLength = c.prefixLength
  vrrpRouterId : c'.vrrpRouterId = c.vrrpRouterId
  generation : c'.keepalivedGeneration = c.keepalivedGeneration
  networkInterface : (c'.node n).networkInterface = (c.node n).networkInterface
  vrrpPriority : (c'.node n).vrrpPriority = (c.node n).vrrpPriority

section View

variable {c c' : HACluster} {n : NodeId} {columns : HANode → Deployment}

theorem SameRendering.content (h : SameRendering c c' n) (allowPreemption : Bool) :
    keepalivedContent c' (c'.node n) allowPreemption =
      keepalivedContent c (c.node n) allowPreemption := by
  unfold keepalivedContent clusterTag
  rw [h.publicId, h.virtualIp, h.prefixLength, h.vrrpRouterId, h.generation, h.networkInterface,
    h.vrrpPriority]

theorem SameRendering.trans {c'' : HACluster} (h : SameRendering c c' n)
    (h' : SameRendering c' c'' n) : SameRendering c c'' n where
  publicId := h'.publicId.trans h.publicId
  virtualIp := h'.virtualIp.trans h.virtualIp
  prefixLength := h'.prefixLength.trans h.prefixLength
  vrrpRouterId := h'.vrrpRouterId.trans h.vrrpRouterId
  generation := h'.generation.trans h.generation
  networkInterface := h'.networkInterface.trans h.networkInterface
  vrrpPriority := h'.vrrpPriority.trans h.vrrpPriority

theorem node_of_view (h : deploymentView c' = deploymentView c) :
    (c'.node n).deployment = (c.node n).deployment :=
  congrFun (congrArg DeploymentView.node h) n

theorem viewOf_modifyNode {f : HANode → HANode} (hf : columns (f (c.node n)) = columns (c.node n)) :
    viewOf columns (c.modifyNode n f) = viewOf columns c := by
  unfold viewOf
  congr 1
  funext k
  rw [node_of_modifyNode]
  split <;> rename_i hk
  · rw [hk]
    exact hf
  · rfl

theorem viewOf_mapNodes {f : NodeId → HANode → HANode}
    (hf : ∀ n node, columns (f n node) = columns node) :
    viewOf columns (c.mapNodes f) = viewOf columns c := by
  unfold viewOf
  congr 1
  funext k
  rw [node_of_mapNodes]
  split
  · exact hf _ _
  · rfl

section

variable (h : deploymentView c' = deploymentView c)

include h

theorem status_of_view :
    (c'.node n).keepalivedStatus = (c.node n).keepalivedStatus :=
  congrArg Deployment.keepalivedStatus (node_of_view h)

theorem checksum_of_view :
    (c'.node n).keepalivedConfigChecksum = (c.node n).keepalivedConfigChecksum :=
  congrArg Deployment.keepalivedConfigChecksum (node_of_view h)

theorem generation_of_view :
    c'.keepalivedGeneration = c.keepalivedGeneration :=
  congrArg DeploymentView.keepalivedGeneration h

theorem nodeIds_of_view : c'.nodes.ids = c.nodes.ids :=
  congrArg DeploymentView.nodeIds h

theorem SameRendering.of_view :
    SameRendering c c' n where
  publicId := congrArg DeploymentView.publicId h
  virtualIp := congrArg DeploymentView.virtualIp h
  prefixLength := congrArg DeploymentView.prefixLength h
  vrrpRouterId := congrArg DeploymentView.vrrpRouterId h
  generation := generation_of_view h
  networkInterface := congrArg Deployment.networkInterface (node_of_view h)
  vrrpPriority := congrArg Deployment.vrrpPriority (node_of_view h)

end

end View

/-- A new deployment: another generation, and every node waits for its agent. -/
structure Redeployed (c c' : HACluster) : Prop where
  ids : c'.nodes.ids = c.nodes.ids
  generation : c.keepalivedGeneration < c'.keepalivedGeneration
  pending : ∀ n ∈ c.nodes.ids, (c'.node n).keepalivedStatus = .pendingAgent

section Redeployed

variable {c c₁ c₂ : HACluster} {r m : RunId} {now : DateTime} {target : NodeId} {rolledBack : Bool}

theorem mapNodes_pending {f : NodeId → HANode → HANode}
    (hf : ∀ n node, (f n node).keepalivedStatus = .pendingAgent) :
    ∀ n ∈ c.nodes.ids, ((c.mapNodes f).node n).keepalivedStatus = .pendingAgent := by
  intro n hn
  rw [node_of_mapNodes, if_pos hn]
  exact hf _ _

theorem moveVip_redeployed : Redeployed c (moveVip c r target now) :=
  ⟨rfl, Nat.lt_succ_self _, mapNodes_pending fun _ _ ↦ rfl⟩

theorem complete_redeployed : Redeployed c (complete c r rolledBack) :=
  ⟨rfl, Nat.lt_succ_self _, mapNodes_pending fun _ _ ↦ rfl⟩

theorem requestRuntimeRebuild_redeployed : Redeployed c (requestRuntimeRebuild c m target now) :=
  ⟨rfl, Nat.lt_succ_self _, mapNodes_pending fun _ _ ↦ rfl⟩

/-- A deployment requested after a step that has left the view. -/
theorem Redeployed.after (h : Redeployed c₁ c₂)
    (hview : deploymentView c₁ = deploymentView c) : Redeployed c c₂ := by
  have hids := nodeIds_of_view hview
  refine ⟨h.ids.trans hids, ?_, fun n hn ↦ h.pending n (hids ▸ hn)⟩
  rw [← generation_of_view hview]
  exact h.generation

/-- A step that leaves the view of a new deployment. -/
theorem Redeployed.before (h : Redeployed c c₁)
    (hview : deploymentView c₂ = deploymentView c₁) : Redeployed c c₂ := by
  refine ⟨(nodeIds_of_view hview).trans h.ids, ?_, fun n hn ↦ ?_⟩
  · rw [generation_of_view hview]
    exact h.generation
  · rw [status_of_view hview]
    exact h.pending n hn

end Redeployed

/-! ### Steps of a failover run -/

/-- The phases in which the destination may preempt. -/
def FailoverPhase.isMoving : FailoverPhase → Bool
  | movingVip | rollbackMovingVip => true
  | _ => false

/-- The phases from the move of the Virtual IP to the completion of the run. -/
def FailoverPhase.isExposed : FailoverPhase → Bool
  | movingVip | promotingTarget | verifyingTarget | rollbackMovingVip | rollbackPromotingSource
  | rollbackVerifyingSource => true
  | _ => false

/-- What a step of the run `r` does to the deployments. -/
inductive FailoverDeployment (c : HACluster) (r : RunId) (c' : HACluster) : Prop
  /-- Everything is deployed anew: the Virtual IP moves, or the run is complete. -/
  | redeployed (hnew : Redeployed c c')
  /-- The run stops safely. -/
  | stopped (hview : deploymentView c' = deploymentView c)
      (hstat : (c'.failoverRun r).status = .failedSafe)
      (hmov : (c'.failoverRun r).phase.isMoving = false)
  /-- The run gives the move up and restores DHCP. -/
  | restored (hview : deploymentView c' = deploymentView c)
      (hbef : (c.failoverRun r).phase = .movingVip)
      (hstat : (c'.failoverRun r).status = .rollingBack)
      (hmov : (c'.failoverRun r).phase.isMoving = false)
      (hexpo : (c'.failoverRun r).phase.isExposed = true)
  /-- The run goes on. It leaves a move only when every node has been deployed. -/
  | continued (hview : deploymentView c' = deploymentView c)
      (hstat : (c'.failoverRun r).status = (c.failoverRun r).status)
      (hmove : (c'.failoverRun r).phase = (c.failoverRun r).phase ∨
        ((c'.failoverRun r).phase.isMoving = false ∧ ((c.failoverRun r).phase.isMoving = true →
          ∀ n ∈ c.nodes.ids, (c.node n).keepalivedStatus = .deployed)))
      (hexpo : (c.failoverRun r).phase.isExposed = true → (c'.failoverRun r).phase.isExposed = true)

namespace FailoverDeployment

variable {c c₁ c₂ : HACluster} {r : RunId} {now : DateTime} {rolledBack : Bool}
  {phase : FailoverPhase}

theorem refl : FailoverDeployment c r c :=
  .continued rfl rfl (.inl rfl) fun h ↦ h

theorem safeFailure (message : String) : FailoverDeployment c r (safeFailure c r message) := by
  have hrow := failoverRun_of_modify (safeFailure_failoverRuns c r message)
  exact .stopped rfl (by rw [hrow]) (by rw [hrow]; rfl)

/-- The run goes to a phase outside the move. -/
theorem setFailoverPhase (hmov : phase.isMoving = false)
    (hmove : (c.failoverRun r).phase.isMoving = true →
      ∀ n ∈ c.nodes.ids, (c.node n).keepalivedStatus = .deployed)
    (hexpo : (c.failoverRun r).phase.isExposed = true → phase.isExposed = true) :
    FailoverDeployment c r (setFailoverPhase c r phase) := by
  have hrow := failoverRun_of_modify (setFailoverPhase_failoverRuns c r phase)
  refine .continued rfl ?_ (.inr ⟨?_, hmove⟩) ?_
  · rw [hrow]
  · rw [hrow]
    exact hmov
  · rw [hrow]
    exact hexpo

/-- One more attempt under another role generation. -/
theorem bump {f : HAFailoverRun → HAFailoverRun}
    (hf : ∀ run, (f run).phase = phase ∧ (f run).status = run.status)
    (hmov : phase.isMoving = false) (hbef : (c.failoverRun r).phase.isMoving = false)
    (hexpo : (c.failoverRun r).phase.isExposed = true → phase.isExposed = true) :
    FailoverDeployment c r ((bumpRoleGeneration c r).modifyFailover r f) := by
  have hrow := failoverRun_of_modify (bump_failoverRuns c r f)
  refine .continued rfl ?_ (.inr ⟨?_, fun h ↦ ?_⟩) ?_
  · rw [hrow, (hf _).2]
  · rw [hrow, (hf _).1]
    exact hmov
  · rw [hbef] at h
    cases h
  · rw [hrow, (hf _).1]
    exact hexpo

/-- Waiting for the release of DHCP, forward or back. -/
theorem verifyRelease (hph : (c.failoverRun r).phase =
      if rolledBack then .verifyingRollbackTargetRelease else .verifyingSourceDhcpRelease) :
    FailoverDeployment c r (verifyRelease c r rolledBack now) := by
  have hbef : (c.failoverRun r).phase.isMoving = false ∧
      (c.failoverRun r).phase.isExposed = false := by
    rw [hph]
    cases rolledBack
    · exact ⟨rfl, rfl⟩
    · exact ⟨rfl, rfl⟩
  unfold HA.verifyRelease
  dsimp only
  split
  · exact .redeployed (moveVip_redeployed.after rfl)
  split
  · rcases hretry : queueSafeDhcpReleaseRetry c r rolledBack now with - | c'
    · exact .safeFailure _
    · rw [queueSafeDhcpReleaseRetry_eq_some hretry]
      refine .bump (fun _ ↦ ⟨rfl, rfl⟩) ?_ hbef.1 fun h ↦ ?_
      · cases rolledBack
        · rfl
        · rfl
      · rw [hbef.2] at h
        cases h
  · exact .refl

/-- Waiting for the Virtual IP, forward or back. -/
theorem awaitVip
    (hph : (c.failoverRun r).phase = if rolledBack then .rollbackMovingVip else .movingVip) :
    FailoverDeployment c r (awaitVip c r rolledBack now) := by
  unfold HA.awaitVip
  dsimp only
  split <;> rename_i hmoved
  · refine .setFailoverPhase ?_ (fun _ ↦ hmoved.2.2) fun _ ↦ ?_
    · split
      · split <;> rfl
      · split <;> rfl
    · split
      · split <;> rfl
      · split <;> rfl
  split
  · split <;> rename_i hrestores
    · have hrow := failoverRun_of_modify (restoreDhcp_failoverRuns c r (vipMoveFailure c
        (c.failoverRun r)))
      refine .restored rfl ?_ ?_ ?_ ?_
      · rw [hph]
        rw [Bool.not_eq_true'] at hrestores
        rw [hrestores.1]
        rfl
      · rw [hrow]
      · rw [hrow]
        rfl
      · rw [hrow]
        rfl
    · exact .safeFailure _
  · exact .refl

theorem switchPhase : FailoverDeployment c r (switchPhase c r now) := by
  unfold HA.switchPhase
  dsimp only
  split <;> rename_i hph
  · split
    · refine .setFailoverPhase rfl (fun h ↦ ?_) fun h ↦ ?_
      · rw [hph] at h
        cases h
      · rw [hph] at h
        cases h
    · exact .refl
  · exact .verifyRelease hph
  · exact .verifyRelease hph
  · split
    · refine .setFailoverPhase rfl (fun h ↦ ?_) fun _ ↦ rfl
      rw [hph] at h
      cases h
    · exact .refl
  · exact .awaitVip hph
  · exact .awaitVip hph
  · exact .refl

theorem verifyFinal (hph : (c.failoverRun r).phase =
      if rolledBack then .rollbackVerifyingSource else .verifyingTarget) :
    FailoverDeployment c r (verifyFinal c r rolledBack now) := by
  unfold HA.verifyFinal
  dsimp only
  split
  · exact .redeployed complete_redeployed
  split
  · rcases hrepair : queueSafeDhcpRepair c r rolledBack now with - | c'
    · exact .safeFailure _
    · rw [(queueSafeDhcpRepair_eq_some hrepair).2]
      refine .bump (fun _ ↦ ⟨rfl, rfl⟩) ?_ ?_ fun _ ↦ ?_
      · cases rolledBack <;> rfl
      · rw [hph]
        cases rolledBack <;> rfl
      · cases rolledBack <;> rfl
  · exact .refl

/-- Two steps in a row. -/
theorem trans (h : FailoverDeployment c r c₁) (h' : FailoverDeployment c₁ r c₂) :
    FailoverDeployment c r c₂ := by
  cases h with
  | redeployed hnew =>
    cases h' with
    | redeployed hnew' =>
      refine .redeployed ⟨hnew'.ids.trans hnew.ids, hnew.generation.trans hnew'.generation, ?_⟩
      exact fun n hn ↦ hnew'.pending n (hnew.ids ▸ hn)
    | stopped hview => exact .redeployed (hnew.before hview)
    | restored hview => exact .redeployed (hnew.before hview)
    | continued hview => exact .redeployed (hnew.before hview)
  | stopped hview hstat hmov =>
    cases h' with
    | redeployed hnew' => exact .redeployed (hnew'.after hview)
    | stopped hview' hstat' hmov' => exact .stopped (hview'.trans hview) hstat' hmov'
    | restored hview' hbef' =>
      rw [hbef'] at hmov
      cases hmov
    | continued hview' hstat' hmove' hexpo' =>
      refine .stopped (hview'.trans hview) (hstat'.trans hstat) ?_
      rcases hmove' with hsame | ⟨hmov', -⟩
      · rw [hsame]
        exact hmov
      · exact hmov'
  | restored hview hbef hstat hmov hexpo =>
    cases h' with
    | redeployed hnew' => exact .redeployed (hnew'.after hview)
    | stopped hview' hstat' hmov' => exact .stopped (hview'.trans hview) hstat' hmov'
    | restored hview' hbef' =>
      rw [hbef'] at hmov
      cases hmov
    | continued hview' hstat' hmove' hexpo' =>
      refine .restored (hview'.trans hview) hbef (hstat'.trans hstat) ?_ (hexpo' hexpo)
      rcases hmove' with hsame | ⟨hmov', -⟩
      · rw [hsame]
        exact hmov
      · exact hmov'
  | continued hview hstat hmove hexpo =>
    cases h' with
    | redeployed hnew' => exact .redeployed (hnew'.after hview)
    | stopped hview' hstat' hmov' => exact .stopped (hview'.trans hview) hstat' hmov'
    | restored hview' hbef' hstat' hmov' hexpo' =>
      refine .restored (hview'.trans hview) ?_ hstat' hmov' hexpo'
      rcases hmove with hsame | ⟨hmov, -⟩
      · exact hsame.symm.trans hbef'
      · rw [hbef'] at hmov
        cases hmov
    | continued hview' hstat' hmove' hexpo' =>
      refine .continued (hview'.trans hview) (hstat'.trans hstat) ?_
        fun h ↦ hexpo' (hexpo h)
      rcases hmove with hsame | ⟨hmov, hdepl⟩
      · rcases hmove' with hsame' | ⟨hmov', hdepl'⟩
        · exact .inl (hsame'.trans hsame)
        · refine .inr ⟨hmov', fun hbef n hn ↦ ?_⟩
          rw [← status_of_view hview]
          exact hdepl' (by rw [hsame]; exact hbef) n (nodeIds_of_view hview ▸ hn)
      · refine .inr ⟨?_, hdepl⟩
        rcases hmove' with hsame' | ⟨hmov', -⟩
        · rw [hsame']
          exact hmov
        · exact hmov'

theorem advanceRun : FailoverDeployment c r (advanceRun c r now) := by
  unfold HA.advanceRun
  dsimp only
  split
  · have hrow := failoverRun_of_modify (misclassified_failoverRuns c r)
    exact .stopped rfl (by rw [hrow]) (by rw [hrow]; rfl)
  split
  · exact .redeployed complete_redeployed
  split
  · exact .redeployed complete_redeployed
  · refine (@switchPhase c r now).trans ?_
    unfold verifyPhase
    split <;> rename_i hph
    · exact .verifyFinal hph
    · exact .verifyFinal hph
    · exact .refl

end FailoverDeployment

/-! ### Units of work that leave the view -/

section Kept

variable {c c' : HACluster} {n : NodeId} {r m : RunId} {now : DateTime} {generation : ℕ}
  {checksum : Option Digest} {status : ResultStatus} {message : String} {action : DhcpActionType}

theorem applyDhcpReport_deployment (hb : HAAgentHeartbeat) (node : HANode) :
    (applyDhcpReport hb now node).deployment = node.deployment := by
  unfold applyDhcpReport
  dsimp only
  split
  · rfl
  · rfl

theorem applyHeartbeat_deployment (hb : HAAgentHeartbeat) (node : HANode) :
    (applyHeartbeat c hb now node).deployment = node.deployment := by
  unfold applyHeartbeat
  dsimp only
  split
  · exact applyDhcpReport_deployment hb _
  · exact applyDhcpReport_deployment hb _

theorem storeHeartbeat_view (hb : HAAgentHeartbeat) :
    deploymentView (storeHeartbeat c n hb now) = deploymentView c :=
  viewOf_modifyNode (applyHeartbeat_deployment hb _)

theorem evaluateRecovery_view : deploymentView (evaluateRecovery c) = deploymentView c := by
  unfold evaluateRecovery
  split
  · rfl
  · rfl

theorem persistLeasePlan_view (plan : Except String LeasePlan) :
    deploymentView (persistLeasePlan c now plan).1 = deploymentView c := by
  obtain ⟨state, snapshots, hwrit⟩ := @persistLeasePlan_writes c now plan
  rw [hwrit]
  rfl

theorem recordLeaseStageResult_view
    (h : recordLeaseStageResult c n generation checksum status message = .ok c') :
    deploymentView c' = deploymentView c := by
  obtain ⟨state, snapshots, rfl | rfl⟩ := recordLeaseStageResult_writes h
  · show deploymentView (c.modifyNode n fun node ↦ { node with leaseGeneration := generation }) = _
    exact viewOf_modifyNode rfl
  · rfl

theorem recordMaintenanceActionResult_view
    (h : recordMaintenanceActionResult c n action generation checksum status message now = .ok c') :
    deploymentView c' = deploymentView c := by
  obtain ⟨runs, clusterStatus, rfl⟩ := recordMaintenanceActionResult_writes h
  rfl

theorem recordFailoverActionResult_view
    (h : recordFailoverActionResult c n action generation checksum status message now = .ok c') :
    deploymentView c' = deploymentView c := by
  unfold recordFailoverActionResult at h
  split at h
  · dsimp only at h
    split at h
    · cases h
    split at h <;> cases h <;> rfl
  · cases h

theorem startDhcpSelfHeal_view (forceRetry : Bool) :
    deploymentView (startDhcpSelfHeal c forceRetry now) = deploymentView c := by
  obtain ⟨runs, mode, hwrit⟩ := @startDhcpSelfHeal_writes c now forceRetry
  rw [hwrit]
  rfl

theorem advanceDhcpSelfHeal_view :
    deploymentView (advanceDhcpSelfHeal c m now) = deploymentView c := by
  obtain ⟨runs, mode, status, hwrit⟩ := @advanceDhcpSelfHeal_writes c m now
  rw [hwrit]
  rfl

theorem createFailoverRun_deployment {source target : NodeId} {managed : Bool} :
    (deploymentView (createFailoverRun c source target managed now).1 = deploymentView c ∧
      startPhase managed c.leaseReplication ≠ .movingVip) ∨
      Redeployed c (createFailoverRun c source target managed now).1 := by
  unfold createFailoverRun
  dsimp only
  split <;> rename_i hph
  · exact .inr (moveVip_redeployed.after rfl)
  · exact .inl ⟨rfl, hph⟩

theorem requestFailoverRollback_deployment {acknowledged : Bool}
    (h : requestFailoverRollback c r acknowledged now = .ok c') :
    (deploymentView c' = deploymentView c ∧ (c'.failoverRun r).phase.isMoving = false) ∨
      Redeployed c c' := by
  obtain ⟨-, ⟨-, -, rfl⟩ | ⟨-, reason, rfl⟩ | ⟨reason, rfl⟩⟩ := requestFailoverRollback_eq_ok h
  · exact .inr (complete_redeployed.after rfl)
  · refine .inl ⟨rfl, ?_⟩
    rw [failoverRun_of_modify (rollbackNoted_failoverRuns c r _ reason)]
    rfl
  · refine .inl ⟨rfl, ?_⟩
    rw [failoverRun_of_modify (rollbackNoted_failoverRuns c r _ reason)]
    rfl

end Kept

/-! ### Units of work that go on with the deployments -/

/-- The deployments go on: whoever has answered has answered, and within the generation a
configuration that is still to be answered is rendered as before. -/
structure DeploymentsKept (c c' : HACluster) : Prop where
  ids : c'.nodes.ids = c.nodes.ids
  generation : c.keepalivedGeneration ≤ c'.keepalivedGeneration
  status : ∀ n, (c'.node n).keepalivedStatus = (c.node n).keepalivedStatus
  checksum : ∀ n, (c'.node n).keepalivedConfigChecksum = (c.node n).keepalivedConfigChecksum
  rendering : c'.keepalivedGeneration = c.keepalivedGeneration → ∀ n ∈ c.nodes.ids,
    (c.node n).keepalivedStatus = .pendingAgent → SameRendering c c' n

/-- An event that adopts its node as the owner, and with it new priorities. -/
def adoptsOwner (c : HACluster) (n : NodeId) (event : HAAgentEventItem) (now : DateTime) : Bool :=
  let node := c.node n
  event.eventType = "automatic_failover_completed" ∧ c.automaticFailoverEnabled ∧
    event.generation = .whole c.keepalivedGeneration ∧ node.observedRole = some .active ∧
    node.vipOwned ∧ node.dnsHealthy = some true ∧
    (!piholeManagesDhcp c ∨ (dhcpObservation node (.topology now)).active)

section Continued

variable {c c' : HACluster} {n : NodeId} {m : RunId} {now : DateTime}

theorem DeploymentsKept.of_view (h : deploymentView c' = deploymentView c) :
    DeploymentsKept c c' where
  ids := nodeIds_of_view h
  generation := (generation_of_view h).ge
  status _ := status_of_view h
  checksum _ := checksum_of_view h
  rendering _ _ _ _ := .of_view h

/-- New priorities, when no configuration is on its way. -/
theorem DeploymentsKept.of_deployed (h : viewOf HANode.deployed c' = viewOf HANode.deployed c)
    (hnone : ∀ n ∈ c.nodes.ids, (c.node n).keepalivedStatus ≠ .pendingAgent) :
    DeploymentsKept c c' where
  ids := congrArg DeploymentView.nodeIds h
  generation := (congrArg DeploymentView.keepalivedGeneration h).ge
  status n := congrArg (fun v ↦ (v.node n).keepalivedStatus) h
  checksum n := congrArg (fun v ↦ (v.node n).keepalivedConfigChecksum) h
  rendering _ n hn hpend := absurd hpend (hnone n hn)

/-- A reconciliation may take over a generation that both agents report. -/
theorem DeploymentsKept.of_generation
    (h : deploymentView c' =
      { deploymentView c with keepalivedGeneration := c'.keepalivedGeneration })
    (hle : c.keepalivedGeneration ≤ c'.keepalivedGeneration) : DeploymentsKept c c' where
  ids := congrArg DeploymentView.nodeIds h
  generation := hle
  status n := congrArg (fun v ↦ (v.node n).keepalivedStatus) h
  checksum n := congrArg (fun v ↦ (v.node n).keepalivedConfigChecksum) h
  rendering hsame n _ _ := by
    rw [hsame] at h
    exact .of_view h

theorem le_agreedGeneration (column : HANode → ℕ) (stored : ℕ) :
    stored ≤ agreedGeneration c column stored := by
  unfold agreedGeneration
  split
  · split <;> omega
  · exact le_rfl

theorem correctStoredState_kept (i : ClusterInspection) :
    DeploymentsKept c (correctStoredState c i) := by
  unfold correctStoredState
  dsimp only
  split
  · exact .of_generation rfl (le_agreedGeneration _ _)
  · refine .of_generation ?_ (le_agreedGeneration _ _)
    exact viewOf_mapNodes fun _ _ ↦ rfl

theorem DeploymentsKept.before {c'' : HACluster} (h : DeploymentsKept c c')
    (hview : deploymentView c'' = deploymentView c') : DeploymentsKept c c'' where
  ids := (nodeIds_of_view hview).trans h.ids
  generation := by
    rw [generation_of_view hview]
    exact h.generation
  status n := (status_of_view hview).trans (h.status n)
  checksum n := (checksum_of_view hview).trans (h.checksum n)
  rendering hsame n hn hpend := by
    rw [generation_of_view hview] at hsame
    exact (h.rendering hsame n hn hpend).trans (.of_view hview)

theorem reconcileClusterState_kept (stalled : StalledRecovery) :
    DeploymentsKept c (reconcileClusterState c m stalled now) := by
  unfold reconcileClusterState
  dsimp only
  split
  · exact .of_view rfl
  split
  · exact .of_view rfl
  · exact (correctStoredState_kept _).before evaluateRecovery_view

theorem reportConflict_deployed (previous : ClusterStatus) (reporting : Option NodeId)
    (pending : Bool) : viewOf HANode.deployed (reportConflict c previous reporting pending now) =
      viewOf HANode.deployed c := by
  obtain ⟨events, hwrit⟩ := reportConflict_writes c now previous reporting pending
  rw [hwrit]
  rfl

theorem adoptOwner_deployed (previous : Option NodeId) (owner : NodeId) (completed : Bool) :
    viewOf HANode.deployed (adoptOwner c previous owner completed now) =
      viewOf HANode.deployed c := by
  unfold adoptOwner
  dsimp only
  split
  · show viewOf HANode.deployed (c.mapNodes fun n node ↦
      { followOwner owner n node with
        vrrpPriority := if n = owner then some 150 else some 100 }) = _
    exact viewOf_mapNodes fun _ _ ↦ rfl
  · rfl

theorem reclassifyConflict_deployed (since : DateTime) (until? : Option DateTime) :
    viewOf HANode.deployed (reclassifyConflict c since until?) = viewOf HANode.deployed c := by
  obtain ⟨events, hwrit⟩ := reclassifyConflict_writes c since until?
  rw [hwrit]
  rfl

theorem retireOwners_deployed (owner : NodeId) (completed : HAEvent) :
    viewOf HANode.deployed (retireOwners c owner completed now) = viewOf HANode.deployed c := by
  unfold retireOwners
  rw [reclassifyConflict_deployed]
  refine viewOf_mapNodes fun n node ↦ ?_
  split
  · rfl
  · rfl

theorem reconcileVipOwnership_kept (reporting : Option NodeId) :
    DeploymentsKept c (reconcileVipOwnership c reporting now) := by
  have hreport : viewOf HANode.deployed (reportConflict (observeOwner c
      (transitionPending c reporting now) now) c.status reporting
      (transitionPending c reporting now) now) = viewOf HANode.deployed c :=
    reportConflict_deployed _ _ _
  unfold reconcileVipOwnership
  split <;> rename_i hdepl
  · exact .of_view rfl
  -- Ownership is looked at only when every node has answered.
  have hnone (n : NodeId) (hn : n ∈ c.nodes.ids) :
      (c.node n).keepalivedStatus ≠ .pendingAgent := by
    intro hpend
    refine hdepl (.inr (List.any_eq_true.2 ⟨n, hn, ?_⟩))
    rw [hpend]
    rfl
  dsimp only
  split
  · exact .of_deployed hreport hnone
  split
  · exact .of_deployed ((adoptOwner_deployed _ _ _).trans hreport) hnone
  · exact .of_deployed ((retireOwners_deployed _ _).trans
      ((adoptOwner_deployed _ _ _).trans hreport)) hnone

theorem ingestEvent_kept {event : HAAgentEventItem} (hadopts : adoptsOwner c n event now = true →
      ∀ k ∈ c.nodes.ids, (c.node k).keepalivedStatus ≠ .pendingAgent) :
    DeploymentsKept c (ingestEvent c n event now) := by
  unfold ingestEvent adoptVerifiedAutomaticOwner
  dsimp only
  split
  · exact .of_view rfl
  split <;> rename_i hrefused
  · exact .of_view rfl
  split <;> rename_i hinactive
  · exact .of_view rfl
  refine .of_deployed ?_ (hadopts ?_)
  · rw [reclassifyConflict_deployed]
    show viewOf HANode.deployed (c.mapNodes fun k node ↦
      { followOwner n k node with
        vipOwned := k = n, vrrpPriority := if k = n then some 150 else some 100 }) = _
    exact viewOf_mapNodes fun _ _ ↦ rfl
  · simp only [not_or, not_not, Bool.not_eq_true', Bool.not_eq_false] at hrefused
    obtain ⟨htype, hautomatic, hgen, hrole, howned, hdns⟩ := hrefused
    refine decide_eq_true ⟨htype, hautomatic, hgen, hrole, howned, hdns, ?_⟩
    by_contra hnot
    rw [not_or, Bool.not_eq_true', Bool.not_eq_false] at hnot
    exact hinactive ⟨hnot.1, by simpa using hnot.2⟩

end Continued

/-! ### Steps of a reinitialisation -/

/-- The phases from the rebuild of the runtime to the end of the run. -/
def MaintenancePhase.isRebuilt : MaintenancePhase → Bool
  | waitingForVip | promotingActive | verifyingDhcpActivation | verifying => true
  | _ => false

/-- The run has rebuilt the runtime and is not over. -/
def HAMaintenanceRun.isRebuilt (run : HAMaintenanceRun) : Bool :=
  run.operation = .reinitialise ∧ run.status = .running ∧ run.phase.isRebuilt

/-- What a step of the reinitialisation `m` does to the deployments. -/
inductive ReinitialisationDeployment (c : HACluster) (m : RunId) (c' : HACluster) : Prop
  /-- The runtime is rebuilt. -/
  | redeployed (hnew : Redeployed c c')
  /-- The run is over, starts over or has not come to the rebuild yet. -/
  | left (hview : deploymentView c' = deploymentView c)
      (hrebuilt : (c'.maintenanceRun m).isRebuilt = false)
  /-- The run goes on. It leaves the rebuild only when every node has been deployed. -/
  | continued (hview : deploymentView c' = deploymentView c)
      (hstat : (c'.maintenanceRun m).status = (c.maintenanceRun m).status)
      (hph : (c'.maintenanceRun m).phase = (c.maintenanceRun m).phase ∨
        ((c'.maintenanceRun m).phase ≠ .waitingForVip ∧
          (c'.maintenanceRun m).phase.isRebuilt = true ∧
          ((c.maintenanceRun m).phase = .waitingForVip →
            ∀ n ∈ c.nodes.ids, (c.node n).keepalivedStatus = .deployed)))

namespace ReinitialisationDeployment

variable {c c₁ : HACluster} {m : RunId} {now : DateTime} {target standby : NodeId}
  {inputs : ReinitialisationInputs} {phase : MaintenancePhase}

theorem refl : ReinitialisationDeployment c m c := .continued rfl rfl (.inl rfl)

theorem failSafe (message : String) (hview : deploymentView c₁ = deploymentView c) :
    ReinitialisationDeployment c m (failSafe c₁ m message) := by
  refine .left hview ?_
  rw [HA.failSafe, modifyMaintenance_row]
  simp [HAMaintenanceRun.isRebuilt]

theorem finish (hview : deploymentView c₁ = deploymentView c) :
    ReinitialisationDeployment c m (finishReinitialisation c₁ m target) := by
  refine .left ?_ ?_
  · refine Eq.trans ?_ hview
    show viewOf HANode.deployment (c₁.mapNodes (followOwner target)) = _
    exact viewOf_mapNodes fun _ _ ↦ rfl
  · simp [HAMaintenanceRun.isRebuilt, (finishReinitialisation_row).2]

/-- The run goes to a phase before the rebuild. -/
theorem prepare (hview : deploymentView c₁ = deploymentView c) (hph : phase.isRebuilt = false) :
    ReinitialisationDeployment c m (setPhase c₁ m phase now) := by
  refine .left hview ?_
  simp [HAMaintenanceRun.isRebuilt, setPhase_phase, hph]

/-- The run goes to a phase after the rebuild. -/
theorem proceed (hph : phase ≠ .waitingForVip ∧ phase.isRebuilt = true)
    (hdepl : ∀ n ∈ c.nodes.ids, (c.node n).keepalivedStatus = .deployed) :
    ReinitialisationDeployment c m (setPhase c m phase now) := by
  refine .continued rfl (setPhase_status _) (.inr ?_)
  rw [setPhase_phase]
  exact ⟨hph.1, hph.2, fun _ ↦ hdepl⟩

theorem awaitReports : ReinitialisationDeployment c m (awaitReports c m target inputs now) := by
  unfold HA.awaitReports
  dsimp only
  split
  · refine .continued rfl ?_ (.inl ?_)
    · rw [modifyMaintenance_row]
    · rw [modifyMaintenance_row]
  split
  · exact .finish rfl
  · exact .prepare rfl rfl

theorem backUp : ReinitialisationDeployment c m (backUp c m inputs now) := by
  unfold HA.backUp
  dsimp only
  split
  · exact .failSafe _ rfl
  · exact .failSafe _ rfl
  · exact .prepare rfl rfl

theorem synchronise : ReinitialisationDeployment c m (synchronise c m inputs now) := by
  unfold HA.synchronise
  split
  · exact .failSafe _ rfl
  · refine .prepare rfl ?_
    split <;> rfl

theorem stageDhcp : ReinitialisationDeployment c m (stageDhcp c m inputs now) := by
  have hview := @persistLeasePlan_view c now (inspectClusterLeases c inputs.leases)
  unfold HA.stageDhcp reconcileClusterLeases
  split <;> rename_i c' hpersist <;> rw [hpersist] at hview
  · exact .failSafe _ hview
  split
  · exact .failSafe _ hview
  · exact .prepare hview rfl

theorem verifyDhcpRelease : ReinitialisationDeployment c m (verifyDhcpRelease c m standby now) := by
  unfold HA.verifyDhcpRelease
  split
  · refine .left rfl ?_
    rw [modifyMaintenance_row]
    simp [HAMaintenanceRun.isRebuilt, setPhase_phase, MaintenancePhase.isRebuilt]
  split
  · exact .failSafe _ rfl
  · exact .refl

theorem awaitRebuild : ReinitialisationDeployment c m (awaitRebuild c m target inputs now) := by
  unfold HA.awaitRebuild
  dsimp only
  split
  · exact .failSafe _ rfl
  split <;> rename_i hrdy
  · exact .refl
  split
  · split
    · exact .failSafe _ rfl
    · exact .refl
  · have hdepl (n : NodeId) (hn : n ∈ c.nodes.ids) :
        (c.node n).keepalivedStatus = .deployed := by
      by_contra hne
      exact hrdy (.inr (List.any_eq_true.2 ⟨n, hn, decide_eq_true hne⟩))
    split
    · exact .proceed ⟨by decide, rfl⟩ hdepl
    · exact .proceed ⟨by decide, rfl⟩ hdepl

theorem verifyDhcpActivation (hbef : (c.maintenanceRun m).phase = .verifyingDhcpActivation) :
    ReinitialisationDeployment c m (verifyDhcpActivation c m target standby inputs now) := by
  unfold HA.verifyDhcpActivation
  dsimp only
  split
  · refine .continued rfl ?_ (.inr ?_)
    · rw [modifyMaintenance_row]
      exact setPhase_status _
    · rw [modifyMaintenance_row, hbef]
      dsimp only
      rw [setPhase_phase]
      exact ⟨by decide, rfl, fun h ↦ by cases h⟩
  split
  · exact .failSafe _ rfl
  · exact .refl

theorem verifyInvariants :
    ReinitialisationDeployment c m (verifyInvariants c m target standby inputs now) := by
  unfold HA.verifyInvariants
  split
  · exact .finish rfl
  split
  · exact .failSafe _ rfl
  · exact .refl

theorem reinitialisationPhase :
    ReinitialisationDeployment c m (reinitialisationPhase c m target standby inputs now) := by
  unfold HA.reinitialisationPhase
  split <;> rename_i hbef
  · exact .awaitReports
  · exact .backUp
  · exact .synchronise
  · exact .stageDhcp
  · split
    · exact .prepare rfl rfl
    · exact .refl
  · split
    · exact .prepare rfl rfl
    · exact .prepare rfl rfl
  · exact .verifyDhcpRelease
  · exact .redeployed requestRuntimeRebuild_redeployed
  · exact .awaitRebuild
  · exact .verifyDhcpActivation hbef
  · exact .verifyInvariants
  · exact .refl

theorem advanceReinitialisation {processStartedAt : DateTime} : ReinitialisationDeployment c m
    (advanceReinitialisation c m inputs processStartedAt now) := by
  unfold HA.advanceReinitialisation
  dsimp only
  split
  · exact .refl
  split
  · exact .failSafe _ rfl
  split
  · exact .refl
  split
  · refine .left rfl ?_
    rw [modifyMaintenance_row]
    simp [HAMaintenanceRun.isRebuilt, setPhase_phase, MaintenancePhase.isRebuilt]
  · exact .reinitialisationPhase

end ReinitialisationDeployment

/-! ### Steps of the system -/

/-- The node `n` answers the configuration it is offered. -/
structure DeploymentAnswered (c : HACluster) (n : NodeId) (c' : HACluster) : Prop where
  offered : ∃ a, desiredKeepalivedAction c n = .ok (some a) ∧
    (((c'.node n).keepalivedStatus = .deployed ∧
        (c'.node n).keepalivedConfigChecksum = some a.checksum) ∨
      (c'.node n).keepalivedStatus = .error)
  ids : c'.nodes.ids = c.nodes.ids
  others : ∀ k, k ≠ n → (c'.node k).deployment = (c.node k).deployment
  rendering : ∀ k, SameRendering c c' k
  failover : c'.failoverRuns = c.failoverRuns
  maintenance : c'.maintenanceRuns = c.maintenanceRuns

/-- What a unit of work does to the deployments. -/
inductive DeploymentStep (c c' : HACluster) : Prop
  | redeployed (hnew : Redeployed c c')
  | kept (hkept : DeploymentsKept c c')
  | answered (n : NodeId) (hans : DeploymentAnswered c n c')

section Steps

variable {c c' c₁ : HACluster} {n : NodeId} {now : DateTime} {result : HAAgentActionResult}

theorem DeploymentStep.refl : DeploymentStep c c := .kept (.of_view rfl)

theorem DeploymentStep.of_view (h : deploymentView c' = deploymentView c) : DeploymentStep c c' :=
  .kept (.of_view h)

/-- The columns a result writes on the node that answers. -/
def answerNode (result : HAAgentActionResult) (node : HANode) : HANode :=
  match result.status with
  | .failed =>
    { node with
      keepalivedStatus := .error, keepalivedConfigChecksum := none
      keepalivedLastError := some result.message }
  | .applied =>
    { node with
      keepalivedStatus := .deployed, keepalivedConfigChecksum := result.checksum
      keepalivedLastError := none, configGeneration := result.generation }

theorem applyKeepalivedResult_view :
    deploymentView (applyKeepalivedResult c n result) =
      deploymentView (c.modifyNode n (answerNode result)) := by
  unfold applyKeepalivedResult
  split <;> rename_i hstat
  · have hanswer : answerNode result = fun node ↦
        { node with
          keepalivedStatus := .error, keepalivedConfigChecksum := none
          keepalivedLastError := some result.message } := by
      funext node
      rw [answerNode, hstat]
    rw [hanswer]
    rfl
  · have hanswer : answerNode result = fun node ↦
        { node with
          keepalivedStatus := .deployed, keepalivedConfigChecksum := result.checksum
          keepalivedLastError := none, configGeneration := result.generation } := by
      funext node
      rw [answerNode, hstat]
    rw [hanswer]
    dsimp only
    split
    · rfl
    · rfl

theorem answerNode_rendering (k : NodeId) :
    SameRendering c (c.modifyNode n (answerNode result)) k := by
  have hcolumns (node : HANode) :
      (answerNode result node).networkInterface = node.networkInterface ∧
        (answerNode result node).vrrpPriority = node.vrrpPriority := by
    unfold answerNode
    split
    · exact ⟨rfl, rfl⟩
    · exact ⟨rfl, rfl⟩
  refine ⟨rfl, rfl, rfl, rfl, rfl, ?_, ?_⟩
  · rw [node_of_modifyNode]
    split
    · exact (hcolumns _).1
    · rfl
  · rw [node_of_modifyNode]
    split
    · exact (hcolumns _).2
    · rfl

theorem applyKeepalivedResult_answered (htype : result.actionType = .keepalivedApply)
    (hresult : AcceptedResult c n result now c')
    (hview : deploymentView c' = deploymentView (c.modifyNode n (answerNode result)))
    (hfail : c'.failoverRuns = c.failoverRuns)
    (hmaint : c'.maintenanceRuns = c.maintenanceRuns) : DeploymentAnswered c n c' := by
  have hself : (c'.node n).deployment = (answerNode result (c.node n)).deployment := by
    rw [node_of_view hview, node_of_modifyNode, if_pos rfl]
  refine ⟨?_, congrArg DeploymentView.nodeIds hview, fun k hk ↦ ?_,
    fun k ↦ (answerNode_rendering k).trans (.of_view hview), hfail, hmaint⟩
  · obtain ⟨expected, hexp, -, -, hsum⟩ := hresult.offered
    rw [htype] at hexp
    rcases hoffer : desiredKeepalivedAction c n with message | - | a
    · rw [expectedAction, hoffer] at hexp
      cases hexp
    · rw [expectedAction, hoffer] at hexp
      cases hexp
    · rw [expectedAction, hoffer] at hexp
      cases hexp
      refine ⟨a, rfl, ?_⟩
      rcases hstat : result.status with - | -
      · rw [answerNode, hstat] at hself
        have hdepl := congrArg Deployment.keepalivedStatus hself
        have happ := congrArg Deployment.keepalivedConfigChecksum hself
        exact .inl ⟨hdepl, happ.trans (hsum hstat)⟩
      · rw [answerNode, hstat] at hself
        have herror := congrArg Deployment.keepalivedStatus hself
        exact .inr herror
  · rw [node_of_view hview, node_of_modifyNode, if_neg hk]

theorem commitActionResult_deployment : DeploymentStep c (commitActionResult c n result now) := by
  rcases commitActionResult_cases c n result now with hsame | hacc
  · rw [hsame]
    exact .refl
  obtain ⟨c₁, happly, hstore⟩ := hacc.applied
  have hview : deploymentView (commitActionResult c n result now) = deploymentView c₁ := by
    rw [hstore]
    rfl
  unfold applyActionResult at happly
  split at happly <;> rename_i htype
  · cases happly
    exact .of_view (hview.trans (viewOf_modifyNode rfl))
  · exact .of_view (hview.trans (recordLeaseStageResult_view happly))
  · cases happly
    obtain ⟨hfail, hmaint, -⟩ := applyKeepalivedResult_runs n result
    refine .answered n (applyKeepalivedResult_answered htype hacc
      (hview.trans applyKeepalivedResult_view) ?_ ?_)
    · rw [hstore]
      exact hfail
    · rw [hstore]
      exact hmaint
  · split at happly
    · exact .of_view (hview.trans (recordMaintenanceActionResult_view happly))
    · exact .of_view (hview.trans (recordFailoverActionResult_view happly))

theorem captured_view (managed : Bool) (answer : LeaseAnswer) :
    deploymentView (captured c managed answer now) = deploymentView c := by
  unfold captured
  split
  · exact persistLeasePlan_view _
  · rfl

theorem startControlledFailover_deployment (target : NodeId) (confirmation : String)
    (acknowledged : Bool) (failback : Except String Unit) (answer : LeaseAnswer) :
    DeploymentStep c
      (startControlledFailover c target confirmation acknowledged failback answer now).1 := by
  rcases startControlledFailover_cases c now target confirmation acknowledged failback
    answer with hsame | ⟨-, -, hcapt⟩ | ⟨source, -, -, -, -, hcreated⟩
  · rw [hsame]
    exact .refl
  · rw [hcapt]
    exact .of_view (persistLeasePlan_view _)
  · rw [hcreated]
    rcases createFailoverRun_deployment with ⟨hview, -⟩ | hnew
    · exact .of_view (hview.trans (captured_view _ _))
    · exact .redeployed (hnew.after (captured_view _ _))

theorem FailoverDeployment.step {r : RunId} (h : FailoverDeployment c r c') :
    DeploymentStep c c' := by
  cases h with
  | redeployed hnew => exact .redeployed hnew
  | stopped hview => exact .of_view hview
  | restored hview => exact .of_view hview
  | continued hview => exact .of_view hview

theorem ReinitialisationDeployment.step {m : RunId} (h : ReinitialisationDeployment c m c') :
    DeploymentStep c c' := by
  cases h with
  | redeployed hnew => exact .redeployed hnew
  | left hview => exact .of_view hview
  | continued hview => exact .of_view hview

end Steps

/-- **One step.** An outright change of a node's row keeps the columns of the deployment, and an
adopting event finds no configuration on its way: every other unit of work deploys everything anew,
takes one node's answer, or goes on with the deployments. -/
theorem deployment_step {s : Sys} {e : Event}
    (hobserve : ∀ n node, e.action = .observe n node →
      node.deployment = (s.cluster.node n).deployment)
    (hadopts : ∀ n event, e.action = .ingestEvent n event →
      adoptsOwner s.cluster n event e.now = true →
      ∀ k ∈ s.cluster.nodes.ids, (s.cluster.node k).keepalivedStatus ≠ .pendingAgent) :
    DeploymentStep s.cluster (step s e).cluster := by
  obtain ⟨now, a⟩ := e
  rw [step_cluster]
  cases a with
  | observe n node =>
    exact .of_view (viewOf_modifyNode (hobserve n node rfl))
  | heartbeat n hb =>
    dsimp only [clusterStep]
    split
    · exact .of_view (storeHeartbeat_view hb)
    · exact .refl
  | reconcileVipOwnership reporting => exact .kept (reconcileVipOwnership_kept reporting)
  | evaluateRecovery => exact .of_view evaluateRecovery_view
  | actionResult n result =>
    dsimp only [clusterStep]
    split
    · exact .refl
    · exact commitActionResult_deployment
  | ingestEvent n event => exact .kept (ingestEvent_kept (hadopts n event rfl))
  | startControlledFailover => exact startControlledFailover_deployment _ _ _ _ _
  | advanceFailover =>
    rcases hr : activeFailover s.cluster with - | r
    · show DeploymentStep _ (advanceFailover s.cluster now)
      rw [advanceFailover_of_none hr]
      exact .refl
    · show DeploymentStep _ (advanceFailover s.cluster now)
      rw [advanceFailover, hr]
      exact FailoverDeployment.advanceRun.step
  | requestFailoverRollback r acknowledged =>
    dsimp only [clusterStep]
    split
    · refine committed_of .refl fun c' hok ↦ ?_
      rcases requestFailoverRollback_deployment hok with ⟨hview, -⟩ | hnew
      · exact .of_view hview
      · exact .redeployed hnew
    · exact .refl
  | startReconciliation =>
    rw [clusterStep]
    refine committed_of .refl fun c' hok ↦ .of_view ?_
    obtain ⟨-, -, rfl⟩ := startReconciliation_eq_ok hok
    rfl
  | startReinitialisation =>
    rw [clusterStep]
    refine committed_of .refl fun c' hok ↦ .of_view ?_
    obtain ⟨-, -, -, rfl⟩ := startReinitialisation_eq_ok hok
    rfl
  | reconcileClusterState m stalled =>
    dsimp only [clusterStep]
    split
    · exact .kept (reconcileClusterState_kept stalled)
    · exact .refl
  | advanceReinitialisation m inputs =>
    dsimp only [clusterStep]
    split
    · exact ReinitialisationDeployment.advanceReinitialisation.step
    · exact .refl
  | startDhcpSelfHeal forceRetry => exact .of_view (startDhcpSelfHeal_view forceRetry)
  | advanceDhcpSelfHeal m =>
    dsimp only [clusterStep]
    split
    · exact .of_view advanceDhcpSelfHeal_view
    · exact .refl
  | reconcileClusterLeases answer => exact .of_view (persistLeasePlan_view _)
  | persistLeaseInspection inputs answer =>
    dsimp only [clusterStep]
    split
    · exact .of_view (persistLeasePlan_view _)
    · exact .refl
  | _ => exact .refl

end Kaya.HA
