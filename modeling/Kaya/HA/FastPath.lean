import Kaya.HA.SplitBrain

/-!
# The fast path of a heartbeat

`record_heartbeat` skips the whole reconciliation when the heartbeat changes nothing on a healthy
cluster. The test looks at the reporting node: its observation signature, the age of its previous
heartbeat, the stored status, the maintenance mode.

What it does not look at is the clock of anybody else. `reconcile_vip_ownership` counts the nodes
that are fresh *now*, so a peer that has gone silent, or whose DHCP observation has grown old, changes
the answer without changing anything the test reads. `fastPath_sound_iff` says when the skipped
reconciliation would really have changed nothing, and `fastPath_hides_silent_peer` is the other case:
one node keeps reporting, the other is silent for a minute, and the cluster stays `HEALTHY`.
-/

namespace Kaya.HA

/-- Keepalived is deployed on the cluster and on all its nodes. -/
def keepalivedDeployed (c : HACluster) : Bool :=
  c.keepalivedStatus = .deployed ∧ ∀ n ∈ c.nodes.ids, (c.node n).keepalivedStatus = .deployed

/-- The last heartbeat of a node is older than forty-five seconds. -/
def silent (node : HANode) (now : DateTime) : Bool :=
  node.lastHeartbeatAt.any fun t ↦ t < now - seconds 45

/-- Exactly one fresh node reports the Virtual IP, it is the current active node, and everything
about all nodes is healthy. -/
def healthyUnderActive (c : HACluster) (now : DateTime) : Bool :=
  (vipOwners c (.topology now)).length = 1 ∧
    soleVipOwner c (.topology now) = c.currentActiveNodeId ∧ fullyHealthy c now

/-- Skipping the reconciliation after a heartbeat hides nothing: it would have left the status and
the current active node, and no silent node is behind a `HEALTHY` cluster. -/
structure FastPathSound (c : HACluster) (n : NodeId) (hb : HAAgentHeartbeat) (now : DateTime) :
    Prop where
  status : (reconcileVipOwnership (storeHeartbeat c n hb now) (some n) now).status =
    (storeHeartbeat c n hb now).status
  currentActiveNodeId :
    (reconcileVipOwnership (storeHeartbeat c n hb now) (some n) now).currentActiveNodeId =
      (storeHeartbeat c n hb now).currentActiveNodeId
  silent : ∀ m ∈ c.nodes.ids, m ≠ n → silent (c.node m) now → ∀ inputs processStartedAt,
    (recordHeartbeat c n hb inputs processStartedAt now).status ≠ .healthy

section Reconciliation

variable {c : HACluster} {now : DateTime}

/-- The columns of the cluster that the reconciliation decides. -/
def verdict (c : HACluster) : ClusterStatus × Option NodeId := (c.status, c.currentActiveNodeId)

theorem verdict_reportConflict (previous : ClusterStatus) (reporting : Option NodeId)
    (pending : Bool) : verdict (reportConflict c previous reporting pending now) = verdict c := by
  obtain ⟨events, hwrit⟩ := reportConflict_writes c now previous reporting pending
  rw [hwrit]
  rfl

theorem verdict_adoptOwner (previous : Option NodeId) (owner : NodeId) (completed : Bool) :
    verdict (adoptOwner c previous owner completed now) = verdict c := by
  unfold adoptOwner
  dsimp only
  split <;> rfl

theorem verdict_retireOwners (owner : NodeId) (completed : HAEvent) :
    verdict (retireOwners c owner completed now) = verdict c := by
  unfold retireOwners reclassifyConflict
  dsimp only
  split <;> rfl

/-- **The verdict of the reconciliation** is that of `observeOwner`; adoption and retirement leave
it. -/
theorem verdict_reconcileVipOwnership (hdepl : keepalivedDeployed c)
    (reporting : Option NodeId) :
    verdict (reconcileVipOwnership c reporting now) =
      verdict (observeOwner c (transitionPending c reporting now) now) := by
  simp only [keepalivedDeployed, Bool.decide_and, Bool.and_eq_true, decide_eq_true_eq]
    at hdepl
  have hguard : ¬ (c.keepalivedStatus ≠ .deployed ∨
      c.nodes.ids.any fun n ↦ (c.node n).keepalivedStatus ≠ .deployed) := by
    rintro (hclus | hnode)
    · exact hclus hdepl.1
    · obtain ⟨n, hn, hne⟩ := List.any_eq_true.1 hnode
      exact of_decide_eq_true hne (hdepl.2 n hn)
  unfold reconcileVipOwnership
  rw [if_neg hguard]
  dsimp only
  split
  · exact verdict_reportConflict _ _ _
  · split
    · rw [verdict_adoptOwner]
      exact verdict_reportConflict _ _ _
    · rw [verdict_retireOwners, verdict_adoptOwner]
      exact verdict_reportConflict _ _ _

theorem reconcileVipOwnership_of_not_deployed (h : ¬ keepalivedDeployed c)
    (reporting : Option NodeId) : reconcileVipOwnership c reporting now = c := by
  unfold reconcileVipOwnership
  rw [if_pos]
  by_contra hguard
  rw [not_or, not_not, List.any_eq_true] at hguard
  refine h (decide_eq_true ⟨hguard.1, fun n hn ↦ ?_⟩)
  by_contra hne
  exact hguard.2 ⟨n, hn, decide_eq_true hne⟩

/-- A `HEALTHY` cluster stays as it is exactly when its one owner is the current active node and
everything is healthy. -/
theorem verdict_observeOwner_iff (hstat : c.status = .healthy) (pending : Bool) :
    verdict (observeOwner c pending now) = verdict c ↔ healthyUnderActive c now := by
  have hverdict : verdict (observeOwner c pending now) = verdict c ↔
      (observeOwner c pending now).status = .healthy ∧
        soleVipOwner c (.topology now) = c.currentActiveNodeId := by
    rw [verdict, verdict, Prod.mk.injEq, hstat]
    rfl
  rw [hverdict]
  have hhealthy : (observeOwner c pending now).status = .healthy ↔
      (vipOwners c (.topology now)).length = 1 ∧ fullyHealthy c now := by
    dsimp only [observeOwner]
    split
    · rename_i h
      exact ⟨fun _ ↦ h, fun _ ↦ rfl⟩
    · rename_i h
      refine ⟨fun hne ↦ ?_, fun hpos ↦ absurd hpos h⟩
      split at hne <;> cases hne
  rw [hhealthy]
  simp only [healthyUnderActive, Bool.decide_and, Bool.decide_eq_true, Bool.and_eq_true,
    decide_eq_true_eq]
  tauto

end Reconciliation

section Heartbeat

variable {c : HACluster} {n : NodeId} {hb : HAAgentHeartbeat} {now : DateTime}

theorem status_of_not_needsReconciliation (h : needsReconciliation c n hb now = false) :
    c.status = .healthy := by
  simp only [needsReconciliation, Bool.decide_or, Bool.or_eq_false_iff, decide_eq_false_iff_not,
    not_not] at h
  exact h.2.2.1

/-- A heartbeat leaves the deployment status of every node. -/
theorem keepalivedDeployed_storeHeartbeat :
    keepalivedDeployed (storeHeartbeat c n hb now) = keepalivedDeployed c := by
  have hnode : ∀ m, ((storeHeartbeat c n hb now).node m).keepalivedStatus =
      (c.node m).keepalivedStatus := by
    intro m
    rw [storeHeartbeat, node_of_modifyNode]
    split
    · unfold applyHeartbeat applyDhcpReport
      dsimp only
      split <;> split <;> rfl
    · rfl
  have hids : (storeHeartbeat c n hb now).nodes.ids = c.nodes.ids := Table.modify_ids _ _ _
  unfold keepalivedDeployed
  rw [hids]
  simp only [hnode]
  rfl

theorem recordHeartbeat_of_fastPath (hacc : heartbeatAccepted (c.node n) hb now = true)
    (hskip : needsReconciliation c n hb now = false) (inputs : ReinitialisationInputs)
    (processStartedAt : DateTime) :
    recordHeartbeat c n hb inputs processStartedAt now = storeHeartbeat c n hb now := by
  simp [recordHeartbeat, hacc, hskip]

/-- **When the fast path is sound.** For every cluster and every accepted heartbeat that skips the
reconciliation, nothing is hidden exactly when no other node has gone silent and either Keepalived is
not deployed, so that the reconciliation does nothing, or the reports on file with this one among
them are healthy under the current active node. -/
theorem fastPath_sound_iff (c : HACluster) (n : NodeId) (hb : HAAgentHeartbeat) (now : DateTime)
    (hacc : heartbeatAccepted (c.node n) hb now = true)
    (hskip : needsReconciliation c n hb now = false) :
    FastPathSound c n hb now ↔ (∀ m ∈ c.nodes.ids, m ≠ n → ¬ silent (c.node m) now) ∧
        (keepalivedDeployed c → healthyUnderActive (storeHeartbeat c n hb now) now) := by
  have hhealthy := status_of_not_needsReconciliation hskip
  have hstat : (storeHeartbeat c n hb now).status = .healthy := hhealthy
  have hrecord := recordHeartbeat_of_fastPath hacc hskip
  constructor
  · intro hsound
    refine ⟨fun m hm hne hsilent ↦ ?_, fun hdepl ↦ ?_⟩
    · refine hsound.silent m hm hne hsilent {} 0 ?_
      rw [hrecord]
      exact hstat
    · have hsto : keepalivedDeployed (storeHeartbeat c n hb now) := by
        rw [keepalivedDeployed_storeHeartbeat]
        exact hdepl
      refine (verdict_observeOwner_iff hstat _).1
        ((verdict_reconcileVipOwnership hsto (some n)).symm.trans ?_)
      exact Prod.ext hsound.status hsound.currentActiveNodeId
  · rintro ⟨hheard, hhealthy⟩
    have hverdict : verdict (reconcileVipOwnership (storeHeartbeat c n hb now) (some n) now) =
        verdict (storeHeartbeat c n hb now) := by
      by_cases hdepl : keepalivedDeployed (storeHeartbeat c n hb now)
      · rw [verdict_reconcileVipOwnership hdepl]
        rw [keepalivedDeployed_storeHeartbeat] at hdepl
        exact (verdict_observeOwner_iff hstat _).2 (hhealthy hdepl)
      · rw [reconcileVipOwnership_of_not_deployed hdepl]
    exact ⟨congrArg Prod.fst hverdict, congrArg Prod.snd hverdict,
      fun m hm hne hsilent ↦ absurd hsilent (hheard m hm hne)⟩

end Heartbeat

section Sample

/-- The first node has reported at half a minute; the second one was last heard at the start. -/
def quietCluster : HACluster :=
  (step sampleSys ⟨seconds 30, .heartbeat 1 (sampleHeartbeat true true 0)⟩).cluster

theorem fastPath_sound_reporting :
    FastPathSound quietCluster 1 (sampleHeartbeat true true 0) (seconds 40) :=
  (fastPath_sound_iff quietCluster 1 (sampleHeartbeat true true 0) (seconds 40)
    (by decide) (by decide +kernel)).2 (by decide +kernel)

/-- **A silent peer behind a healthy cluster.** The first node reports again after a minute: the
reconciliation is skipped and the cluster stays `HEALTHY`, although the second node has been silent
for a minute and the reconciliation would have called the cluster `DEGRADED`. -/
theorem fastPath_hides_silent_peer :
    haMachine.Reachable
        (step sampleSys ⟨seconds 30, .heartbeat 1 (sampleHeartbeat true true 0)⟩) ∧
      heartbeatAccepted (quietCluster.node 1) (sampleHeartbeat true true 0) (seconds 60) ∧
      needsReconciliation quietCluster 1 (sampleHeartbeat true true 0) (seconds 60) = false ∧
      silent (quietCluster.node 2) (seconds 60) ∧
      (recordHeartbeat quietCluster 1 (sampleHeartbeat true true 0) {} 0
        (seconds 60)).status = .healthy ∧
      (reconcileVipOwnership (storeHeartbeat quietCluster 1 (sampleHeartbeat true true 0)
        (seconds 60)) (some 1) (seconds 60)).status = .degraded :=
  ⟨sampleSys_reachable [⟨seconds 30, .heartbeat 1 (sampleHeartbeat true true 0)⟩], by decide,
    by decide +kernel, by decide, by decide +kernel, by decide +kernel⟩

end Sample

end Kaya.HA
