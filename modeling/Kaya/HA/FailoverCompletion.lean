import Kaya.HA.Invariants

/-!
# What a completed failover rests on

A run becomes `SUCCEEDED` or `ROLLED_BACK` at five places: twice at the top of `advance_failover`,
twice in its closing verification, and once inside `request_failover_rollback`. The first four ask
`_requested_topology_is_verified`, the last one two cached Virtual-IP flags and one observation.

`CompletionEvidence` is what a completed handover should rest on: both nodes heard, one owner of the
Virtual IP and of DHCP, the other node positively observed not to serve. Neither guard gives it.
The verified topology quantifies over **fresh** nodes, so the node that was left may simply be
silent; the rollback shortcut never looks at the target at all. The exact conditions are
`completion_evidence`: an advance has the evidence exactly when both nodes have been heard, the
shortcut exactly when the target's observation is neither unknown nor active.
-/

namespace Kaya.HA

/-- A run that reached its end as planned, in either direction. -/
def FailoverStatus.isComplete : FailoverStatus → Bool
  | succeeded | rolledBack => true
  | running | rollingBack | failedSafe => false

theorem FailoverStatus.isComplete_of_isActive {status : FailoverStatus}
    (h : status.isActive = true) : status.isComplete = false := by
  cases status <;> cases h <;> rfl

/-- What a step that completes a run on `active` should have observed, and what it records. -/
structure CompletionEvidence (c : HACluster) (now : DateTime) (active standby : NodeId)
    (c' : HACluster) : Prop where
  activeFresh : heartbeatIsFresh (c.node active) (.failover now) = true
  standbyFresh : heartbeatIsFresh (c.node standby) (.failover now) = true
  vipOwner : vipOwners c (.failover now) = [active]
  dhcpOwner : dhcpOwners c (.failover now) = [active]
  recorded : c'.currentActiveNodeId = some active ∧ c'.authoritativeNodeId = some active
  standbyKnown : (dhcpObservation (c.node standby) (.failover now)).state ≠ .unknown
  standbyQuiet : (dhcpObservation (c.node standby) (.failover now)).state ≠ .active

/-! ### Where an advance completes -/

section Advance

variable {c c' : HACluster} {r : RunId} {now : DateTime} {rolledBack : Bool}

/-- The row an update leaves. -/
theorem failoverRun_of_modify {c : HACluster} {f : HAFailoverRun → HAFailoverRun}
    (h : c'.failoverRuns = c.failoverRuns.modify r f) : c'.failoverRun r = f (c.failoverRun r) := by
  rw [HACluster.failoverRun, h, Table.modify_row_self]

theorem safeFailure_isComplete (message : String) :
    ((safeFailure c r message).failoverRun r).status.isComplete = false := by
  rw [failoverRun_of_modify (safeFailure_failoverRuns c r message)]
  rfl

section

variable (hrow : (c.failoverRun r).status.isComplete = false)

include hrow

theorem queueSafeDhcpReleaseRetry_isComplete
    (h : queueSafeDhcpReleaseRetry c r rolledBack now = some c') :
    (c'.failoverRun r).status.isComplete = false := by
  rw [queueSafeDhcpReleaseRetry_eq_some h, failoverRun_of_modify (bump_failoverRuns c r _)]
  exact hrow

theorem queueSafeDhcpRepair_isComplete
    (h : queueSafeDhcpRepair c r rolledBack now = some c') :
    (c'.failoverRun r).status.isComplete = false := by
  rw [(queueSafeDhcpRepair_eq_some h).2, failoverRun_of_modify (bump_failoverRuns c r _)]
  exact hrow

theorem verifyRelease_isComplete :
    ((verifyRelease c r rolledBack now).failoverRun r).status.isComplete = false := by
  unfold verifyRelease
  dsimp only
  split
  · rw [failoverRun_of_modify (moveVip_failoverRuns c r now _ _)]
    exact hrow
  split
  · rcases hretry : queueSafeDhcpReleaseRetry c r rolledBack now with - | c'
    · exact safeFailure_isComplete _
    · exact queueSafeDhcpReleaseRetry_isComplete hrow hretry
  · exact hrow

theorem awaitVip_isComplete :
    ((awaitVip c r rolledBack now).failoverRun r).status.isComplete = false := by
  unfold awaitVip
  dsimp only
  split
  · rw [failoverRun_of_modify (setFailoverPhase_failoverRuns c r _)]
    exact hrow
  split
  · split
    · rw [failoverRun_of_modify (restoreDhcp_failoverRuns c r _)]
      rfl
    · exact safeFailure_isComplete _
  · exact hrow

/-- The phase switch completes nothing. -/
theorem switchPhase_isComplete :
    ((switchPhase c r now).failoverRun r).status.isComplete = false := by
  unfold switchPhase
  dsimp only
  split
  · split
    · rw [failoverRun_of_modify (setFailoverPhase_failoverRuns c r _)]
      exact hrow
    · exact hrow
  · exact verifyRelease_isComplete hrow
  · exact verifyRelease_isComplete hrow
  · split
    · rw [failoverRun_of_modify (setFailoverPhase_failoverRuns c r _)]
      exact hrow
    · exact hrow
  · exact awaitVip_isComplete hrow
  · exact awaitVip_isComplete hrow
  · exact hrow

/-- A closing verification that completes the run has verified the topology. -/
theorem verifyFinal_completes
    (hdone : ((verifyFinal c r rolledBack now).failoverRun r).status.isComplete = true) :
    requestedTopologyIsVerified c (c.failoverRun r) rolledBack now = true ∧
      verifyFinal c r rolledBack now = complete c r rolledBack := by
  unfold verifyFinal at hdone ⊢
  dsimp only at hdone ⊢
  split at hdone <;> rename_i hver
  · exact ⟨hver, if_pos hver⟩
  exfalso
  split at hdone
  · rcases hrepair : queueSafeDhcpRepair c r rolledBack now with - | c' <;> rw [hrepair] at hdone
    · exact absurd (hdone.symm.trans (safeFailure_isComplete _)) (by decide)
    · exact absurd (hdone.symm.trans (queueSafeDhcpRepair_isComplete hrow hrepair)) (by decide)
  · exact absurd (hdone.symm.trans hrow) (by decide)

end

/-- An advance that completes a run ends in `_complete`, on a verified topology. -/
theorem advanceRun_completes (hlive : (c.failoverRun r).status.isActive = true)
    (hdone : ((advanceRun c r now).failoverRun r).status.isComplete = true) :
    ∃ c₁ rolledBack, RunMoves c now r c c₁ ∧
      requestedTopologyIsVerified c (c₁.failoverRun r) rolledBack now = true ∧
      advanceRun c r now = complete c₁ r rolledBack := by
  have hrow := FailoverStatus.isComplete_of_isActive hlive
  have hswitchRow : ((switchPhase c r now).failoverRun r).status.isComplete = false :=
    switchPhase_isComplete hrow
  -- `_complete` is called at four sites: before the phase switch and after it, in each direction.
  unfold advanceRun at hdone ⊢
  dsimp only at hdone ⊢
  split at hdone <;> rename_i hguard
  · exact absurd (hdone.symm.trans (safeFailure_isComplete _)) (by decide)
  rw [if_neg hguard]
  split at hdone <;> rename_i hfwd
  · exact ⟨c, false, .refl, hfwd.2, if_pos hfwd⟩
  rw [if_neg hfwd]
  split at hdone <;> rename_i hback
  · exact ⟨c, true, .refl, hback.2, if_pos hback⟩
  rw [if_neg hback]
  have hswitch : RunMoves c now r c (switchPhase c r now) :=
    switchPhase_moves hlive (managed_of_not_misclassified hguard)
  -- After the switch the verification reads the same reports, by the frame.
  unfold verifyPhase at hdone ⊢
  split at hdone
  · obtain ⟨hver, heq⟩ := verifyFinal_completes hswitchRow hdone
    rw [← requestedTopologyIsVerified_frame, hswitch.frame, requestedTopologyIsVerified_frame]
      at hver
    exact ⟨_, false, hswitch, hver, heq⟩
  · obtain ⟨hver, heq⟩ := verifyFinal_completes hswitchRow hdone
    rw [← requestedTopologyIsVerified_frame, hswitch.frame, requestedTopologyIsVerified_frame]
      at hver
    exact ⟨_, true, hswitch, hver, heq⟩
  · exact absurd (hdone.symm.trans hswitchRow) (by decide)

end Advance

/-! ### Evidence -/

/-- What a completed run records. -/
theorem complete_recorded (c : HACluster) (r : RunId) (rolledBack : Bool) :
    (complete c r rolledBack).currentActiveNodeId =
        some ((c.failoverRun r).destination rolledBack) ∧
      (complete c r rolledBack).authoritativeNodeId =
        some ((c.failoverRun r).destination rolledBack) :=
  ⟨rfl, rfl⟩

section Evidence

variable {c c' : HACluster} {now : DateTime} {run : HAFailoverRun}

/-- The two ends of a run in either direction. -/
theorem RunNodes.ends (h : RunNodes c run) (rolledBack : Bool) :
    run.origin rolledBack ∈ c.nodes.ids ∧ run.origin rolledBack ≠ run.destination rolledBack := by
  cases rolledBack
  · exact ⟨h.source, h.ne.symm⟩
  · exact ⟨h.target, h.ne⟩

/-- A verified topology gives the evidence exactly when both nodes have been heard. -/
theorem evidence_iff_of_verified (hnodes : RunNodes c run) (hman : run.dhcpManaged = true)
    {rolledBack : Bool} (hver : requestedTopologyIsVerified c run rolledBack now = true)
    (hrec : c'.currentActiveNodeId = some (run.destination rolledBack) ∧
      c'.authoritativeNodeId = some (run.destination rolledBack)) :
    CompletionEvidence c now (run.destination rolledBack) (run.origin rolledBack) c' ↔
      heartbeatIsFresh (c.node run.sourceNodeId) (.failover now) = true ∧
        heartbeatIsFresh (c.node run.targetNodeId) (.failover now) = true := by
  have hends : heartbeatIsFresh (c.node run.sourceNodeId) (.failover now) = true ∧
      heartbeatIsFresh (c.node run.targetNodeId) (.failover now) = true ↔
      heartbeatIsFresh (c.node (run.destination rolledBack)) (.failover now) = true ∧
        heartbeatIsFresh (c.node (run.origin rolledBack)) (.failover now) = true := by
    cases rolledBack
    · exact and_comm
    · exact Iff.rfl
  rw [hends]
  refine ⟨fun h ↦ ⟨h.activeFresh, h.standbyFresh⟩, fun ⟨hheard, hfresh⟩ ↦ ?_⟩
  simp only [requestedTopologyIsVerified, reconcileTopology, hman, decide_eq_true_eq,
    Bool.not_true, Bool.false_eq_true, false_or] at hver
  obtain ⟨hvip, hdhcp, hunk, -, -⟩ := hver
  obtain ⟨hmem, hne⟩ := hnodes.ends rolledBack
  -- The owner lists speak of fresh nodes only: this is where the standby has to be one.
  refine ⟨hheard, hfresh, hvip, hdhcp, hrec, ?_, ?_⟩
  · intro hst
    have hlisted := mem_dhcpUnknown.2 ⟨mem_freshNodes.2 ⟨hmem, hfresh⟩, hst⟩
    rw [hunk] at hlisted
    exact List.not_mem_nil hlisted
  · intro hst
    have hserving : (dhcpObservation (c.node (run.origin rolledBack)) (.failover now)).active =
        true := by
      rw [DHCPObservation.active, hst]
      rfl
    have hlisted := mem_dhcpOwners.2 ⟨hmem, hserving⟩
    rw [hdhcp, List.mem_singleton] at hlisted
    exact hne hlisted

/-- The rollback shortcut gives the evidence exactly when the target's observation is neither
unknown nor active. -/
theorem evidence_iff_of_shortcut (hnodes : RunNodes c run)
    (howned : (c.node run.sourceNodeId).vipOwned = true ∧
      (c.node run.targetNodeId).vipOwned = false)
    (hserving : dhcpActive c run.sourceNodeId now = true)
    (hrec : c'.currentActiveNodeId = some run.sourceNodeId ∧
      c'.authoritativeNodeId = some run.sourceNodeId) :
    CompletionEvidence c now run.sourceNodeId run.targetNodeId c' ↔
      (dhcpObservation (c.node run.targetNodeId) (.failover now)).state ≠ .unknown ∧
        (dhcpObservation (c.node run.targetNodeId) (.failover now)).state ≠ .active := by
  refine ⟨fun h ↦ ⟨h.standbyKnown, h.standbyQuiet⟩, fun ⟨hknown, hquiet⟩ ↦ ?_⟩
  have hfresh : heartbeatIsFresh (c.node run.sourceNodeId) (.failover now) = true :=
    heartbeatIsFresh_of_active hserving
  refine ⟨hfresh, heartbeatIsFresh_of_dhcpObservation_ne_unknown hknown, ?_, ?_, hrec, hknown,
    hquiet⟩
  · refine eq_singleton_of_nodup (freshNodes_nodup.filter _) ?_ fun n hn ↦ ?_
    · exact mem_vipOwners.2 ⟨mem_freshNodes.2 ⟨hnodes.source, hfresh⟩, howned.1⟩
    · obtain ⟨hlisted, hvip⟩ := mem_vipOwners.1 hn
      rcases hnodes.cover (mem_freshNodes.1 hlisted).1 with rfl | rfl
      · rfl
      · rw [howned.2] at hvip
        cases hvip
  · refine eq_singleton_of_nodup dhcpOwners_nodup ?_ fun n hn ↦ ?_
    · exact mem_dhcpOwners.2 ⟨hnodes.source, hserving⟩
    · obtain ⟨hmem, hlive⟩ := mem_dhcpOwners.1 hn
      rcases hnodes.cover hmem with rfl | rfl
      · rfl
      · exact absurd (by simpa [DHCPObservation.active] using hlive) hquiet

end Evidence

/-! ### Completing steps -/

/-- An advance that completes a run completes the active run. -/
theorem advanceFailover_completes {c : HACluster} {r : RunId} {now : DateTime}
    (hdone : ((advanceFailover c now).failoverRun r).status.isComplete = true)
    (hnew : ((advanceFailover c now).failoverRun r).status ≠ (c.failoverRun r).status) :
    ∃ c₁ rolledBack, RunMoves c now r c c₁ ∧
      requestedTopologyIsVerified c (c₁.failoverRun r) rolledBack now = true ∧
      advanceFailover c now = complete c₁ r rolledBack := by
  rcases hr : activeFailover c with - | r'
  · rw [advanceFailover_of_none hr] at hnew
    exact absurd rfl hnew
  · have hmoves : RunMoves c now r' c (advanceFailover c now) := advanceFailover_moves hr
    obtain rfl : r = r' := by
      by_contra hne
      rw [hmoves.others r hne] at hnew
      exact hnew rfl
    unfold advanceFailover at hdone ⊢
    rw [hr] at hdone ⊢
    exact advanceRun_completes (Table.newest?_eq_some hr).2 hdone

/-- The status a completed run has, and the direction it tells. -/
theorem complete_status (c : HACluster) (r : RunId) (rolledBack : Bool) :
    decide (((complete c r rolledBack).failoverRun r).status = .rolledBack) = rolledBack := by
  rw [failoverRun_of_modify (complete_failoverRuns c r rolledBack)]
  cases rolledBack <;> rfl

/-- **Evidence of a completion.** In every reachable state, for a managed run: an advance that
completes it shows the evidence exactly when both nodes have a fresh heartbeat, and a rollback
request that completes it exactly when the target's observation is neither unknown nor active. -/
theorem completion_evidence {s : Sys} (hs : haMachine.Reachable s) {r : RunId}
    (hr : r ∈ s.cluster.failoverRuns.ids) (hman : (s.cluster.failoverRun r).dhcpManaged = true)
    (now : DateTime) :
    (∀ rolledBack, ((advanceFailover s.cluster now).failoverRun r).status.isComplete = true →
      ((advanceFailover s.cluster now).failoverRun r).status ≠ (s.cluster.failoverRun r).status →
      rolledBack = decide (((advanceFailover s.cluster now).failoverRun r).status = .rolledBack) →
      (CompletionEvidence s.cluster now ((s.cluster.failoverRun r).destination rolledBack)
          ((s.cluster.failoverRun r).origin rolledBack) (advanceFailover s.cluster now) ↔
        heartbeatIsFresh (s.cluster.node (s.cluster.failoverRun r).sourceNodeId) (.failover now) =
            true ∧
          heartbeatIsFresh (s.cluster.node (s.cluster.failoverRun r).targetNodeId) (.failover now) =
            true)) ∧
    (∀ acknowledged c', requestFailoverRollback s.cluster r acknowledged now = .ok c' →
      (c'.failoverRun r).status.isComplete = true →
      (CompletionEvidence s.cluster now (s.cluster.failoverRun r).sourceNodeId
          (s.cluster.failoverRun r).targetNodeId c' ↔
        (dhcpObservation (s.cluster.node (s.cluster.failoverRun r).targetNodeId)
            (.failover now)).state ≠ .unknown ∧
          (dhcpObservation (s.cluster.node (s.cluster.failoverRun r).targetNodeId)
            (.failover now)).state ≠ .active)) := by
  have hnodes := runNodes hs hr
  constructor
  · intro rolledBack hdone hnew hdirection
    obtain ⟨c₁, rolledBack', hmoves, hver, heq⟩ := advanceFailover_completes hdone hnew
    rw [heq, complete_status] at hdirection
    subst hdirection
    -- The moves before `_complete` keep the two ends of the run.
    obtain ⟨hsrc, htgt, -, -⟩ := FailoverMove.identity_run hmoves.moves
    have hdest : (c₁.failoverRun r).destination rolledBack =
        (s.cluster.failoverRun r).destination rolledBack := by
      unfold HAFailoverRun.destination
      rw [hsrc, htgt]
    have horigin : (c₁.failoverRun r).origin rolledBack =
        (s.cluster.failoverRun r).origin rolledBack := by
      unfold HAFailoverRun.origin
      rw [hsrc, htgt]
    have hnodes₁ : RunNodes s.cluster (c₁.failoverRun r) :=
      ⟨hnodes.two, hsrc ▸ hnodes.source, htgt ▸ hnodes.target,
        by rw [hsrc, htgt]; exact hnodes.ne⟩
    rw [heq, ← hdest, ← horigin, ← hsrc, ← htgt]
    exact evidence_iff_of_verified hnodes₁ (FailoverMove.managed_run hmoves.moves hman) hver
      (complete_recorded c₁ r rolledBack)
  · intro acknowledged c' hok hdone
    -- Only the shortcut completes the run; the other two answers leave it rolling back.
    obtain ⟨-, ⟨howned, hserved, rfl⟩ | ⟨-, reason, rfl⟩ | ⟨reason, rfl⟩⟩ :=
      requestFailoverRollback_eq_ok hok
    · have hserving : dhcpActive s.cluster (s.cluster.failoverRun r).sourceNodeId now = true := by
        rcases hserved with hfalse | hserving
        · rw [hman] at hfalse
          cases hfalse
        · exact hserving
      have hbase : (rollbackBase s.cluster r).failoverRun r =
          { s.cluster.failoverRun r with
            roleGeneration := s.cluster.roleGeneration + 1, status := .rollingBack } :=
        failoverRun_of_modify (bump_failoverRuns { s.cluster with maintenanceMode := true } r _)
      have hrec := complete_recorded (rollbackBase s.cluster r) r true
      rw [hbase] at hrec
      exact evidence_iff_of_shortcut hnodes howned hserving hrec
    · rw [failoverRun_of_modify (rollbackNoted_failoverRuns s.cluster r _ reason)] at hdone
      cases hdone
    · rw [failoverRun_of_modify (rollbackNoted_failoverRuns s.cluster r _ reason)] at hdone
      cases hdone

/-- The second node has taken over, and both nodes keep reporting. -/
def heardRun : List Event :=
  samplePromotingRun ++ [⟨seconds 100, .heartbeat 1 (sampleHeartbeat false false 0)⟩,
    ⟨seconds 100, .heartbeat 2 (sampleHeartbeat true true 1)⟩]

/-- The second node has taken over, and nothing has been heard of the first one for 130 seconds. -/
def silentRun : List Event :=
  samplePromotingRun ++ [⟨seconds 130, .heartbeat 2 (sampleHeartbeat true true 1)⟩]

/-- The Virtual IP did not move, both nodes serve DHCP, and the run has failed safely. -/
def splitRun : List Event :=
  sampleMovingRun ++ [⟨seconds 61, .heartbeat 1 (sampleHeartbeat true true 0)⟩,
    ⟨seconds 61, .heartbeat 2 (sampleHeartbeat false true 1)⟩, ⟨seconds 61, .advanceFailover⟩]

/-- With both nodes heard, the sample handover completes on full evidence. -/
theorem completion_evidence_heard :
    CompletionEvidence (haMachine.run sampleSys heardRun).cluster (seconds 100) 2 1
      (advanceFailover (haMachine.run sampleSys heardRun).cluster (seconds 100)) := by
  have h := ((completion_evidence (sampleSys_reachable heardRun) (r := 1) (by decide +kernel)
    (by decide +kernel) (seconds 100)).1 false (by decide +kernel) (by decide +kernel)
    (by decide +kernel)).2 ⟨by decide +kernel, by decide +kernel⟩
  have hdest : ((haMachine.run sampleSys heardRun).cluster.failoverRun 1).destination false =
      2 := by decide +kernel
  have horigin : ((haMachine.run sampleSys heardRun).cluster.failoverRun 1).origin false = 1 := by
    decide +kernel
  rwa [hdest, horigin] at h

/-- A handover completes without a report of the first node, and a rollback completes with two
DHCP servers. -/
theorem completion_without_evidence :
    (haMachine.Reachable (haMachine.run sampleSys silentRun) ∧
      ((haMachine.run sampleSys silentRun).cluster.failoverRun 1).dhcpManaged = true ∧
      ((haMachine.run sampleSys silentRun).cluster.failoverRun 1).status = .running ∧
      ((advanceFailover (haMachine.run sampleSys silentRun).cluster
        (seconds 130)).failoverRun 1).status = .succeeded ∧
      ¬ CompletionEvidence (haMachine.run sampleSys silentRun).cluster (seconds 130) 2 1
        (advanceFailover (haMachine.run sampleSys silentRun).cluster (seconds 130))) ∧
    (haMachine.Reachable (haMachine.run sampleSys splitRun) ∧
      ((haMachine.run sampleSys splitRun).cluster.failoverRun 1).dhcpManaged = true ∧
      (requestFailoverRollback (haMachine.run sampleSys splitRun).cluster 1 true
        (seconds 61)).toOption.map (fun c' ↦ (c'.failoverRun 1).status) = some .rolledBack ∧
      dhcpOwners (haMachine.run sampleSys splitRun).cluster (.failover (seconds 61)) = [1, 2]) := by
  refine ⟨⟨sampleSys_reachable _, by decide +kernel, by decide +kernel, by decide +kernel, ?_⟩,
    sampleSys_reachable _, by decide +kernel, by decide +kernel, by decide +kernel⟩
  intro h
  have hsilent : heartbeatIsFresh ((haMachine.run sampleSys silentRun).cluster.node 1)
      (.failover (seconds 130)) = false := by decide +kernel
  exact absurd (h.standbyFresh.symm.trans hsilent) (by decide)

end Kaya.HA
