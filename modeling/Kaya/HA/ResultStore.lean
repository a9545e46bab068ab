import Kaya.HA.FailoverCompletion

/-!
# Results that are not consumed

Agent results are stored under their `action_id` and answered from the store when they come again.
The identifier of a DHCP action names the run, the action and the node — **not** the generation. A
run that enters the same phase twice, after a release retry, a DHCP repair or a second rollback,
therefore offers an action under an identifier that already has a row: the agent applies it, reports
`APPLIED` with the new generation and checksum, is answered from the store, and the run stays where
it is.

`result_consumed_iff` is the exact condition under which a reported result moves the run on: nothing
is stored under the identifier, and no maintenance action is offered to the node at the same time
(such an action takes the result's place, and then refuses it). Behind it lies that the advance
which follows an accepted result cannot fall back into the phase: the retries need the verification
to have lasted 30 or 45 seconds, and the result has just restarted it (`advanceRun_after_result`).
-/

namespace Kaya.HA

/-! ### The advance that follows a result -/

section Advance

variable {c : HACluster} {r : RunId} {now : DateTime}

theorem not_late (n : ℕ) (h : (c.failoverRun r).report.verificationStartedAt = some now) :
    ¬ seconds n < now - verificationStartedAt (c.failoverRun r) := by
  have hpos : 0 ≤ seconds n := Int.mul_nonneg (Int.natCast_nonneg n) (by decide)
  rw [verificationStartedAt, h, Option.getD_some]
  omega

theorem complete_afterResult (c : HACluster) (r : RunId) (rolledBack : Bool) :
    ((complete c r rolledBack).failoverRun r).phase.afterResult = none := by
  rw [failoverRun_of_modify (complete_failoverRuns c r rolledBack)]
  cases rolledBack <;> rfl

/-- A release verification that has just started waits or moves the Virtual IP. -/
theorem verifyRelease_fresh (rolledBack : Bool)
    (hstarted : (c.failoverRun r).report.verificationStartedAt = some now) :
    verifyRelease c r rolledBack now = c ∨
      ((verifyRelease c r rolledBack now).failoverRun r).phase =
        if rolledBack then .rollbackMovingVip else .movingVip := by
  unfold verifyRelease
  dsimp only
  split
  · right
    rw [failoverRun_of_modify (moveVip_failoverRuns c r now _ _)]
  · rw [if_neg (not_late 45 hstarted)]
    exact .inl rfl

/-- A final verification that has just started waits or completes the run. -/
theorem verifyFinal_fresh (rolledBack : Bool)
    (hstarted : (c.failoverRun r).report.verificationStartedAt = some now) :
    verifyFinal c r rolledBack now = c ∨
      ((verifyFinal c r rolledBack now).failoverRun r).phase.afterResult = none := by
  unfold verifyFinal
  dsimp only
  split
  · exact .inr (complete_afterResult c r rolledBack)
  · rw [if_neg (not_late 30 hstarted)]
    exact .inl rfl

/-- A phase in which the closing verification has nothing to do. -/
theorem verifyPhase_of_phase {phase : FailoverPhase} (hph : (c.failoverRun r).phase = phase)
    (hne : phase ≠ .verifyingTarget ∧ phase ≠ .rollbackVerifyingSource) :
    verifyPhase c r now = c := by
  unfold verifyPhase
  rw [hph]
  split
  · exact absurd rfl hne.1
  · exact absurd rfl hne.2
  · rfl

/-- The advance of a run whose release verification has just started. -/
theorem advance_release (rolledBack : Bool)
    (hph : (c.failoverRun r).phase =
      if rolledBack then .verifyingRollbackTargetRelease else .verifyingSourceDhcpRelease)
    (hstarted : (c.failoverRun r).report.verificationStartedAt = some now) :
    ((verifyPhase (switchPhase c r now) r now).failoverRun r).phase.afterResult = none := by
  have hswitch : switchPhase c r now = verifyRelease c r rolledBack now := by
    unfold switchPhase
    dsimp only
    rw [hph]
    cases rolledBack <;> rfl
  rw [hswitch]
  rcases verifyRelease_fresh rolledBack hstarted with hsame | hmoved
  · rw [hsame, verifyPhase_of_phase hph (by cases rolledBack <;> decide), hph]
    cases rolledBack <;> rfl
  · rw [verifyPhase_of_phase hmoved (by cases rolledBack <;> decide), hmoved]
    cases rolledBack <;> rfl

/-- The advance of a run whose final verification has just started. -/
theorem advance_final (rolledBack : Bool)
    (hph : (c.failoverRun r).phase =
      if rolledBack then .rollbackVerifyingSource else .verifyingTarget)
    (hstarted : (c.failoverRun r).report.verificationStartedAt = some now) :
    ((verifyPhase (switchPhase c r now) r now).failoverRun r).phase.afterResult = none := by
  have hswitch : switchPhase c r now = c := by
    unfold switchPhase
    dsimp only
    rw [hph]
    cases rolledBack <;> rfl
  have hverify : verifyPhase c r now = verifyFinal c r rolledBack now := by
    unfold verifyPhase
    rw [hph]
    cases rolledBack <;> rfl
  rw [hswitch, hverify]
  rcases verifyFinal_fresh rolledBack hstarted with hsame | hdone
  · rw [hsame, hph]
    cases rolledBack <;> rfl
  · exact hdone

/-- A result leads to the verification of a release or of the final topology. -/
theorem FailoverPhase.afterResult_eq_some {phase phase' : FailoverPhase}
    (h : phase.afterResult = some phase') :
    ∃ rolledBack : Bool, phase' = (if rolledBack then .verifyingRollbackTargetRelease
        else .verifyingSourceDhcpRelease) ∨
      phase' = (if rolledBack then .rollbackVerifyingSource else .verifyingTarget) := by
  cases phase <;> cases h
  · exact ⟨false, .inl rfl⟩
  · exact ⟨false, .inr rfl⟩
  · exact ⟨true, .inl rfl⟩
  · exact ⟨true, .inr rfl⟩

/-- An advance right after a result does not lead back into a phase that waits for one. -/
theorem advanceRun_after_result {phase : FailoverPhase}
    (hph : phase.afterResult = some (c.failoverRun r).phase)
    (hstarted : (c.failoverRun r).report.verificationStartedAt = some now) :
    ((advanceRun c r now).failoverRun r).phase.afterResult = none := by
  unfold advanceRun
  dsimp only
  split
  · rw [failoverRun_of_modify (misclassified_failoverRuns c r)]
    rfl
  split
  · exact complete_afterResult c r false
  split
  · exact complete_afterResult c r true
  obtain ⟨rolledBack, hrelease | hfinal⟩ := FailoverPhase.afterResult_eq_some hph
  · exact advance_release rolledBack hrelease hstarted
  · exact advance_final rolledBack hfinal hstarted

end Advance

/-! ### The endpoint -/

section Endpoint

variable {c : HACluster} {n : NodeId} {now : DateTime} {a : DhcpAction} {r : RunId}

/-- The active run is found by key, status and date alone. -/
theorem activeFailover_congr {c c' : HACluster} (hids : c'.failoverRuns.ids = c.failoverRuns.ids)
    (hrows : ∀ j, (c'.failoverRun j).status = (c.failoverRun j).status ∧
      (c'.failoverRun j).createdAt = (c.failoverRun j).createdAt) :
    activeFailover c' = activeFailover c := by
  refine Table.newest?_congr hids (fun j ↦ (hrows j).2) fun j ↦ ?_
  rw [(hrows j).1]

/-- An offered action is accepted as the failover result it is, when nothing is in its way. -/
theorem acceptActionResult_of_offer (hoffer : desiredFailoverAction c n now = some a)
    (hr : activeFailover c = some r) (hmaint : desiredMaintenanceAction c n now = none)
    (message : String) :
    ∃ phase, (c.failoverRun r).phase.afterResult = some phase ∧
      acceptActionResult c n (a.result .applied message) now =
        .ok (storeResult (setFailoverPhase (markVerificationStarted c r now) r phase) n
          (a.result .applied message)) := by
  obtain ⟨phase, hph⟩ := afterResult_of_desiredFailoverAction hoffer hr
  obtain ⟨r', hr', -, hact, -⟩ := desiredFailoverAction_eq_some hoffer
  obtain rfl : r' = r := Option.some.inj (hr'.symm.trans hr)
  have hgen : a.generation = (c.failoverRun r').roleGeneration := by
    rw [hact]
    rfl
  have hexp : expectedAction c n (.dhcp a.actionType) now = .ok (some a.expected) := by
    unfold expectedAction
    dsimp only
    rw [hmaint, hoffer]
    rfl
  have happly : applyActionResult c n (a.result .applied message) now =
      .ok (setFailoverPhase (markVerificationStarted c r' now) r' phase) := by
    simp only [applyActionResult, DhcpAction.result, hmaint, recordFailoverActionResult, hr,
      hoffer, hgen, hph]
    simp
  exact ⟨phase, hph, acceptActionResult_of_applied hexp rfl rfl rfl happly⟩

/-- A result that something is in the way of leaves the cluster as it is. -/
theorem committed_recordActionResult_of_blocked (hoffer : desiredFailoverAction c n now = some a)
    (message : String)
    (hblocked : storedResult c a.actionId ≠ none ∨ desiredMaintenanceAction c n now ≠ none) :
    committed c (recordActionResult c n (a.result .applied message) now) = c := by
  obtain ⟨r, hr, -, hact, -⟩ := desiredFailoverAction_eq_some hoffer
  unfold recordActionResult
  rcases hsto : storedResult c (a.result .applied message).actionId with - | row
  · have hnone : storedResult c a.actionId = none := hsto
    obtain ⟨b, hb⟩ := Option.ne_none_iff_exists'.1 (hblocked.resolve_left (not_not.2 hnone))
    obtain ⟨m, hm, -, hmaint, -⟩ := desiredMaintenanceAction_eq_some hb
    -- The maintenance action answers for the node: by its identifier where the types agree, by
    -- its checksum where they do not.
    have herror : ∃ error, acceptActionResult c n (a.result .applied message) now = .error error := by
      unfold acceptActionResult expectedAction
      dsimp only [DhcpAction.result]
      rw [hb, hoffer]
      dsimp only [Option.map_some]
      by_cases htype : b.actionType = a.actionType
      · rw [if_pos htype]
        refine ⟨_, if_pos (.inl ?_)⟩
        rw [hact, DhcpAction.expected, hmaint]
        simp [failoverAction, maintenanceAction]
      · rw [if_neg htype]
        have hsum : some a.checksum ≠ some b.checksum := by
          rw [hact, hmaint]
          simp [failoverAction, maintenanceAction]
        simp only [DhcpAction.expected, ne_eq, not_true_eq_false, or_self, and_false, if_false,
          applyActionResult, hb, Option.isSome_some, if_true, recordMaintenanceActionResult, hm]
        rw [if_pos (.inr hsum)]
        exact ⟨_, rfl⟩
    obtain ⟨error, herror⟩ := herror
    dsimp only
    rw [herror]
    rfl
  · dsimp only
    split
    · rfl
    · rfl

/-- **Consumption.** The result of an offered failover action moves the run out of the phase that
waits for it exactly when nothing is stored under the action's identifier and no maintenance action
is offered to the node. -/
theorem result_consumed_iff (hoffer : desiredFailoverAction c n now = some a)
    (hr : activeFailover c = some r) (message : String) :
    ((committed c (recordActionResult c n (a.result .applied message) now)).failoverRun r).phase ≠
        (c.failoverRun r).phase ↔
      storedResult c a.actionId = none ∧ desiredMaintenanceAction c n now = none := by
  constructor
  · intro hleft
    by_contra hblocked
    rw [not_and_or] at hblocked
    rw [committed_recordActionResult_of_blocked hoffer message hblocked] at hleft
    exact hleft rfl
  · rintro ⟨hsto, hmaint⟩
    obtain ⟨phase, hph, haccept⟩ := acceptActionResult_of_offer hoffer hr hmaint message
    unfold recordActionResult
    have hnone : storedResult c (a.result .applied message).actionId = none := hsto
    rw [hnone, haccept]
    dsimp only [Except.map, committed]
    -- The same request then advances the run, at the moment its verification starts.
    generalize hc₂ : storeResult (setFailoverPhase (markVerificationStarted c r now) r phase) n
      (a.result .applied message) = c₂
    have hruns : (reconcileVipOwnership c₂ none now).failoverRuns =
        c.failoverRuns.modify r fun run ↦
          { run with phase, report := { run.report with verificationStartedAt := some now } } := by
      have hframe := congrArg HACluster.failoverRuns (reconcileVipOwnership_frame c₂ now none)
      refine Eq.trans hframe ?_
      rw [← hc₂]
      exact reported_failoverRuns c r now phase
    have hrow := failoverRun_of_modify hruns
    have hlive : activeFailover (reconcileVipOwnership c₂ none now) = some r := by
      rw [← hr]
      refine activeFailover_congr (by rw [hruns, Table.modify_ids]) fun j ↦ ?_
      simp only [HACluster.failoverRun, hruns, Table.modify_row]
      split
      · exact ⟨rfl, rfl⟩
      · exact ⟨rfl, rfl⟩
    have hadvance : advanceFailover (reconcileVipOwnership c₂ none now) now =
        advanceRun (reconcileVipOwnership c₂ none now) r now := by
      unfold advanceFailover
      rw [hlive]
    rw [hadvance]
    have hrep : (c.failoverRun r).phase.afterResult =
        some ((reconcileVipOwnership c₂ none now).failoverRun r).phase := by
      rw [hrow]
      exact hph
    have hafter := advanceRun_after_result hrep (by rw [hrow])
    intro hsame
    rw [hsame, hph] at hafter
    cases hafter

end Endpoint

/-- A heartbeat of the first node that has stopped listening but still counts as running: neither
active nor released. -/
def undecidedHeartbeat : HAAgentHeartbeat :=
  { sampleHeartbeat true false 0 with
    dhcpConfigured := some true, dhcpListenerActive := some false
    dhcpRuntimeState := some .running }

/-- The first node has reported the demotion, and after 46 seconds without a verified release the
engine asks for it again, under a new generation. -/
def retriedRun : List Event :=
  sampleStartedRun ++ [⟨0, .actionResult 1 (sampleApplied .demote 1 2)⟩,
    ⟨seconds 46, .heartbeat 1 undecidedHeartbeat⟩,
    ⟨seconds 46, .heartbeat 2 (sampleHeartbeat false false 1)⟩, ⟨seconds 46, .advanceFailover⟩]

/-- The first demotion of the sample handover is consumed. -/
theorem result_consumed_sample :
    ((committed (haMachine.run sampleSys sampleStartedRun).cluster
      (recordActionResult (haMachine.run sampleSys sampleStartedRun).cluster 1
        ((sampleDemotion 2 true).result .applied "") 0)).failoverRun 1).phase ≠
    ((haMachine.run sampleSys sampleStartedRun).cluster.failoverRun 1).phase :=
  (result_consumed_iff (by decide +kernel) (by decide +kernel) "").2
    ⟨by decide +kernel, by decide +kernel⟩

/-- The repeated demotion is offered, applied and reported, and the run stays where it is. -/
theorem repeated_result_not_consumed :
    haMachine.Reachable (haMachine.run sampleSys retriedRun) ∧
    piholeManagesDhcp (haMachine.run sampleSys retriedRun).cluster = true ∧
    activeFailover (haMachine.run sampleSys retriedRun).cluster = some 1 ∧
    desiredFailoverAction (haMachine.run sampleSys retriedRun).cluster 1 (seconds 46) =
      some (sampleDemotion 3 false) ∧
    (recordActionResult (haMachine.run sampleSys retriedRun).cluster 1
      ((sampleDemotion 3 false).result .applied "") (seconds 46)).isOk = true ∧
    ((haMachine.run sampleSys retriedRun).cluster.failoverRun 1).phase = .demotingSource ∧
    ((committed (haMachine.run sampleSys retriedRun).cluster
      (recordActionResult (haMachine.run sampleSys retriedRun).cluster 1
        ((sampleDemotion 3 false).result .applied "") (seconds 46))).failoverRun 1).phase =
      .demotingSource :=
  ⟨sampleSys_reachable _, by decide +kernel, by decide +kernel, by decide +kernel,
    by decide +kernel, by decide +kernel, by decide +kernel⟩

end Kaya.HA
