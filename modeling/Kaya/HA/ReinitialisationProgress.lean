import Kaya.HA.Invariants

/-!
# Progress of a reinitialisation that waits for an agent

In `DEMOTING_STANDBY` and `PROMOTING_ACTIVE` a reinitialisation advances by the result of one agent
and by nothing else: `advance_reinitialisation` has no branch for these phases. Three asynchronous
channels meet here, and two of them can close.

* `desired_maintenance_action` withdraws the action as soon as a report shows the wanted state, and
  `record_maintenance_action_result` compares a result with what is offered *when it arrives*. A
  heartbeat that overtakes the result of the action it shows is enough.
* A demotion is withdrawn too while it is not authorised.
* The identifier of the action names the run, the type and the node. A run that comes back to the
  phase after a restart offers an identifier whose result is stored already, and a stored result is
  not handed on.

`ReinitialisationLive` is that the run can go on, and `reinitialisation_live_iff` says exactly when:
after a restart of the server, or with an action that is still offered and not yet answered.
-/

namespace Kaya.HA

open List

/-- A running reinitialisation in one of the phases that wait for an agent. -/
structure AwaitsAgent (c : HACluster) (m : RunId) : Prop where
  mem : m ∈ c.maintenanceRuns.ids
  operation : (c.maintenanceRun m).operation = .reinitialise
  status : (c.maintenanceRun m).status = .running
  phase : (c.maintenanceRun m).phase = .demotingStandby ∨
    (c.maintenanceRun m).phase = .promotingActive

/-- The run can leave its phase: some node is offered an action and any result of it is accepted
and counts, or the next advance does it. -/
def ReinitialisationLive (s : Sys) (m : RunId) (now : DateTime) : Prop :=
  (∃ n ∈ s.cluster.nodes.ids, ∃ a, desiredMaintenanceAction s.cluster n now = some a ∧
    ∀ status message, ∃ c', recordActionResult s.cluster n (a.result status message) now = .ok c' ∧
      (c'.maintenanceRun m).phase ≠ (s.cluster.maintenanceRun m).phase) ∨ ∀ inputs,
    ((advanceReinitialisation s.cluster m inputs s.processStartedAt now).maintenanceRun m).phase ≠
      (s.cluster.maintenanceRun m).phase

/-- The addressed agent has not reported the wanted state, the action may be issued, and no result
is stored under its identifier. -/
inductive Unanswered (c : HACluster) (m : RunId) (now : DateTime) : Prop
  | demotion {target standby : NodeId}
      (hph : (c.maintenanceRun m).phase = .demotingStandby)
      (htgt : (c.maintenanceRun m).desiredActiveNodeId = some target)
      (hstby : c.peerFor target = some standby)
      (hserving : Maintenance.dhcpReleased c standby now = false)
      (hallow : (authoriseDhcpDemotion c standby now (some target) true
        ((c.maintenanceRun m).authoritativeNodeId = some target)).allowed = true)
      (hnew : storedResult c (.maintenance m .demote standby) = none)
  | promotion {target : NodeId}
      (hph : (c.maintenanceRun m).phase = .promotingActive)
      (htgt : (c.maintenanceRun m).desiredActiveNodeId = some target)
      (hidle : Maintenance.dhcpActive c target now = false)
      (hnew : storedResult c (.maintenance m .promote target) = none)

section Waiting

variable {c : HACluster} {m : RunId} {n target : NodeId} {now processStartedAt : DateTime}
  {a : DhcpAction} {result : HAAgentActionResult}

/-- The only active maintenance run is the one looked up. -/
theorem SoleMaintenance.active (h : SoleMaintenance c) (hm : m ∈ c.maintenanceRuns.ids)
    (hlive : (c.maintenanceRun m).status.isActive = true) : activeMaintenance c = some m := by
  obtain ⟨k, hk⟩ : ∃ k, activeMaintenance c = some k := Table.newest?_isSome_of_mem hm hlive
  obtain ⟨hmem, hother⟩ := Table.newest?_eq_some hk
  rw [h m hm k hmem hlive hother]
  exact hk

/-- Two nodes: whoever is not the target is its peer. -/
theorem peerFor_eq (htwo : c.nodes.ids.length = 2) (htgt : target ∈ c.nodes.ids)
    (hn : n ∈ c.nodes.ids) (hne : n ≠ target) : c.peerFor target = some n := by
  rcases hpeer : c.peerFor target with - | k
  · have hnone := find?_eq_none.1 hpeer n hn
    simp [hne] at hnone
  · have hk : k ∈ c.nodes.ids := mem_of_find?_eq_some hpeer
    have hkne : k ≠ target := by simpa using find?_some hpeer
    rcases eq_or_eq_of_length_two htwo htgt hk hkne hn with rfl | rfl
    · exact absurd rfl hne
    · rfl

/-- There is a peer. -/
theorem exists_peerFor (htwo : c.nodes.ids.length = 2) (htgt : target ∈ c.nodes.ids) :
    ∃ standby ∈ c.nodes.ids, standby ≠ target ∧ c.peerFor target = some standby := by
  obtain ⟨x, y, hids⟩ := length_eq_two.1 htwo
  have hnodup := c.nodes.nodup
  rw [hids, nodup_cons, mem_singleton] at hnodup
  have hx : x ∈ c.nodes.ids := by simp [hids]
  have hy : y ∈ c.nodes.ids := by simp [hids]
  by_cases hxt : x = target
  · have hyt : y ≠ target := fun h ↦ hnodup.1 (hxt.trans h.symm)
    exact ⟨y, hy, hyt, peerFor_eq htwo htgt hy hyt⟩
  · exact ⟨x, hx, hxt, peerFor_eq htwo htgt hx hxt⟩

/-! ### The offer -/

/-- What a reinitialisation offers, and when. -/
theorem reinitialisationAction_eq_some (h : reinitialisationAction c m n now = some a) :
    ∃ target, (c.maintenanceRun m).desiredActiveNodeId = some target ∧
      (((c.maintenanceRun m).phase = .demotingStandby ∧ n ≠ target ∧
          Maintenance.dhcpReleased c n now = false ∧
          (authoriseDhcpDemotion c n now (some target) true
            ((c.maintenanceRun m).authoritativeNodeId = some target)).allowed = true ∧
          a.actionId = .maintenance m .demote n) ∨
        ((c.maintenanceRun m).phase = .promotingActive ∧ n = target ∧
          Maintenance.dhcpActive c n now = false ∧ a.actionId = .maintenance m .promote n)) := by
  unfold reinitialisationAction at h
  dsimp only at h
  split at h
  · cases h
  rename_i target htgt
  refine ⟨target, htgt, ?_⟩
  split at h <;> rename_i hdemoting
  · split at h <;> rename_i hallow
    · cases h
      exact .inl ⟨hdemoting.1, hdemoting.2.1, by simpa using hdemoting.2.2, hallow, rfl⟩
    · cases h
  split at h <;> rename_i hprom
  · cases h
    exact .inr ⟨hprom.1, hprom.2.1, by simpa using hprom.2.2, rfl⟩
  · cases h

/-- An unanswered action is offered to a node of the cluster. -/
theorem Unanswered.offered (h : Unanswered c m now)
    (hnodes : ∃ target ∈ c.nodes.ids, (c.maintenanceRun m).desiredActiveNodeId = some target) :
    ∃ n ∈ c.nodes.ids, ∃ a, reinitialisationAction c m n now = some a ∧
      storedResult c a.actionId = none := by
  cases h with
  | @demotion target standby hph htgt hstby hserving hallow hnew =>
    have hmem : standby ∈ c.nodes.ids := mem_of_find?_eq_some hstby
    have hne : standby ≠ target := by simpa using find?_some hstby
    let decision := authoriseDhcpDemotion c standby now (some target) true
      ((c.maintenanceRun m).authoritativeNodeId = some target)
    refine ⟨standby, hmem, maintenanceAction c m standby .demote false decision.ownerHandover, ?_,
      hnew⟩
    simp [reinitialisationAction, htgt, hph, hserving, hne, hallow, decision]
  | @promotion target hph htgt hidle hnew =>
    obtain ⟨target', hmem, htgt'⟩ := hnodes
    obtain rfl : target' = target := Option.some.inj (htgt'.symm.trans htgt)
    refine ⟨target', hmem, maintenanceAction c m target' .promote false false, ?_, hnew⟩
    simp [reinitialisationAction, htgt, hph, hidle]

/-! ### The answer -/

theorem modifyMaintenance_row (c : HACluster) (m : RunId)
    (f : HAMaintenanceRun → HAMaintenanceRun) :
    (c.modifyMaintenance m f).maintenanceRun m = f (c.maintenanceRun m) :=
  Table.modify_row_self _ _ _

theorem setPhase_phase (c : HACluster) (m : RunId) (phase : MaintenancePhase) (now : DateTime) :
    ((setPhase c m phase now).maintenanceRun m).phase = phase := by
  rw [setPhase, modifyMaintenance_row]

/-- What follows a result in the same request leaves maintenance alone. -/
theorem engines_maintenanceRuns (c : HACluster) (now : DateTime) :
    (advanceFailover (reconcileVipOwnership c none now) now).maintenanceRuns =
      c.maintenanceRuns := by
  have howner := congrArg HACluster.maintenanceRuns (reconcileVipOwnership_frame c now none)
  have hadvance := congrArg HACluster.maintenanceRuns
    (advanceFailover_frame (reconcileVipOwnership c none now) now).1
  exact hadvance.trans howner

/-- A result of the offered action takes the run to the next phase, unless one is stored under its
identifier. -/
theorem recordActionResult_of_offer (hm : activeMaintenance c = some m)
    (hoffer : desiredMaintenanceAction c n now = some a) (hnew : storedResult c a.actionId = none)
    {phase : MaintenancePhase} (hph : phaseAfterResult (c.maintenanceRun m) = some phase)
    (status : ResultStatus) (message : String) :
    ∃ c', recordActionResult c n (a.result status message) now = .ok c' ∧
      (c'.maintenanceRun m).phase = phase := by
  have hexp : expectedAction c n (.dhcp a.actionType) now = .ok (some a.expected) := by
    simp only [expectedAction, hoffer, if_true]
  obtain ⟨c₁, happly, hrow⟩ : ∃ c₁, applyActionResult c n (a.result status message) now = .ok c₁ ∧
      (c₁.maintenanceRun m).phase = phase := by
    simp only [applyActionResult, DhcpAction.result, hoffer, Option.isSome_some, if_true,
      recordMaintenanceActionResult, hm, ne_eq, not_true_eq_false, or_self, if_false, hph]
    cases status with
    | applied => exact ⟨_, rfl, setPhase_phase ..⟩
    | failed => exact ⟨_, rfl, by rw [modifyMaintenance_row, setPhase_phase]⟩
  have haccept : acceptActionResult c n (a.result status message) now =
      .ok (storeResult c₁ n (a.result status message)) :=
    acceptActionResult_of_applied hexp rfl rfl rfl happly
  refine ⟨advanceFailover (reconcileVipOwnership (storeResult c₁ n (a.result status message)) none
    now) now, ?_, ?_⟩
  · have hnone : storedResult c (a.result status message).actionId = none := hnew
    unfold recordActionResult
    rw [hnone, haccept]
    rfl
  · rw [HACluster.maintenanceRun, engines_maintenanceRuns]
    exact hrow

/-- A result whose identifier is stored changes nothing. -/
theorem recordActionResult_of_stored {row : HAAgentActionResultRow}
    (hsto : storedResult c result.actionId = some row) {c' : HACluster}
    (hok : recordActionResult c n result now = .ok c') : c' = c := by
  unfold recordActionResult at hok
  rw [hsto] at hok
  dsimp only at hok
  split at hok
  · cases hok
  · cases hok
    rfl

/-- A result of an action that is no longer offered is rejected. -/
theorem recordActionResult_of_withdrawn (hnew : storedResult c result.actionId = none)
    (hexp : expectedAction c n result.actionType now = .ok none) :
    recordActionResult c n result now =
      .error "The action result does not match the node's current desired generation." := by
  rw [recordActionResult, hnew]
  dsimp only
  rw [acceptActionResult, hexp]
  rfl

/-! ### Advancing -/

/-- Advancing leaves a waiting phase only to start over after a restart. -/
theorem AwaitsAgent.advance (h : AwaitsAgent c m) (inputs : ReinitialisationInputs)
    (hresumed : restartPending (c.maintenanceRun m) processStartedAt = false)
    (htgt : (c.maintenanceRun m).desiredActiveNodeId = some target) :
    advanceReinitialisation c m inputs processStartedAt now = c := by
  unfold advanceReinitialisation
  dsimp only
  rw [if_neg (by simp [h.operation, h.status]), htgt]
  dsimp only
  split
  · rfl
  rw [if_neg (by simp [hresumed])]
  unfold reinitialisationPhase
  rcases h.phase with hph | hph <;> rw [hph]

theorem AwaitsAgent.restart (h : AwaitsAgent c m) (inputs : ReinitialisationInputs)
    (hpend : restartPending (c.maintenanceRun m) processStartedAt = true) {standby : NodeId}
    (htgt : (c.maintenanceRun m).desiredActiveNodeId = some target)
    (hstby : c.peerFor target = some standby) :
    ((advanceReinitialisation c m inputs processStartedAt now).maintenanceRun m).phase =
      .waitingForReports := by
  have hpeer : c.nodes.ids.find? (· ≠ target) = some standby := hstby
  unfold advanceReinitialisation
  dsimp only
  rw [if_neg (by simp [h.operation, h.status]), htgt]
  dsimp only
  rw [hpeer]
  dsimp only
  rw [if_pos hpend, modifyMaintenance_row, setPhase_phase]

/-- A waiting phase is followed by its verification. -/
theorem AwaitsAgent.phaseAfterResult (h : AwaitsAgent c m) :
    ∃ phase, phaseAfterResult (c.maintenanceRun m) = some phase ∧
      phase ≠ (c.maintenanceRun m).phase := by
  have hother : ¬ (c.maintenanceRun m).operation = .dhcpSelfHeal := by
    rw [h.operation]
    decide
  unfold HA.phaseAfterResult
  rw [if_neg hother]
  rcases h.phase with hph | hph
  · exact ⟨.verifyingDhcpRelease, by rw [hph], by rw [hph]; decide⟩
  · exact ⟨.verifyingDhcpActivation, by rw [hph], by rw [hph]; decide⟩

end Waiting

/-! ### Every reachable state -/

/-- **Exactly when a waiting reinitialisation can go on**, in every reachable state and at every
time: when the server has been restarted since the run last looked, or when the action is still
unanswered. -/
theorem reinitialisation_live_iff {s : Sys} (hs : haMachine.Reachable s) {m : RunId}
    (hm : AwaitsAgent s.cluster m) (now : DateTime) :
    ReinitialisationLive s m now ↔
      restartPending (s.cluster.maintenanceRun m) s.processStartedAt = true ∨
        Unanswered s.cluster m now := by
  obtain ⟨htwo, target, hmem, htgt⟩ := reinitialisationNodes hs hm.mem hm.operation
  obtain ⟨standby, -, -, hstby⟩ := exists_peerFor htwo hmem
  have hlive : activeMaintenance s.cluster = some m :=
    (soleMaintenance hs).active hm.mem (by rw [hm.status]; rfl)
  have hoffers (n : NodeId) :
      desiredMaintenanceAction s.cluster n now = reinitialisationAction s.cluster m n now := by
    simp [desiredMaintenanceAction, hlive, hm.status, hm.operation]
  constructor
  · rintro (⟨n, hn, a, hoffer, hanswer⟩ | hadvance)
    · right
      -- A stored result would be answered from the store, and the run would stay.
      have hnew : storedResult s.cluster a.actionId = none := by
        by_contra hsto
        obtain ⟨row, hrow⟩ := Option.ne_none_iff_exists'.1 hsto
        obtain ⟨c', hok, hleaves⟩ := hanswer .applied ""
        have hresult : storedResult s.cluster (a.result .applied "").actionId = some row := hrow
        rw [recordActionResult_of_stored hresult hok] at hleaves
        exact hleaves rfl
      rw [hoffers] at hoffer
      obtain ⟨target', htgt', hcase⟩ := reinitialisationAction_eq_some hoffer
      obtain rfl : target' = target := Option.some.inj (htgt'.symm.trans htgt)
      rcases hcase with ⟨hph, hne, hserving, hallow, hid⟩ | ⟨hph, rfl, hidle, hid⟩
      · rw [hid] at hnew
        exact .demotion hph htgt (peerFor_eq htwo hmem hn hne) hserving hallow hnew
      · rw [hid] at hnew
        exact .promotion hph htgt hidle hnew
    · left
      by_contra hresumed
      rw [Bool.not_eq_true] at hresumed
      have hsame : advanceReinitialisation s.cluster m {} s.processStartedAt now = s.cluster :=
        hm.advance {} hresumed htgt
      exact hadvance {} (by rw [hsame])
  · rintro (hpend | hopen)
    · refine .inr fun inputs ↦ ?_
      rw [hm.restart inputs hpend htgt hstby]
      rcases hm.phase with hph | hph <;> rw [hph] <;> decide
    · obtain ⟨n, hn, a, hoffer, hnew⟩ := hopen.offered ⟨target, hmem, htgt⟩
      obtain ⟨phase, hph, hne⟩ := hm.phaseAfterResult
      rw [← hoffers] at hoffer
      refine .inl ⟨n, hn, a, hoffer, fun status message ↦ ?_⟩
      obtain ⟨c', hok, hrow⟩ := recordActionResult_of_offer hlive hoffer hnew hph status message
      exact ⟨c', hok, by rw [hrow]; exact hne⟩

/-- Both nodes serve DHCP, and a reinitialisation around the first one waits for a snapshot of the
leases of `authority` to be staged. -/
def stagingRun (authority : NodeId) : List Event :=
  [⟨0, .heartbeat 2 (sampleHeartbeat false true 0)⟩, ⟨0, .startReinitialisation 1 authority true⟩,
    ⟨0, .advanceReinitialisation 1 {}⟩, ⟨0, .advanceReinitialisation 1 {}⟩,
    ⟨0, .advanceReinitialisation 1 {}⟩,
    ⟨0, .advanceReinitialisation 1 { leases := .ok (some sampleLeases) }⟩]

/-- The second node has staged the snapshot and is asked to stop DHCP. -/
def demotingRun : List Event :=
  stagingRun 1 ++
    [⟨0, .download 2 1⟩, ⟨0, .stage 2⟩, ⟨0, .actionResult 2 (sampleStaged 1 sampleLeases)⟩,
      ⟨0, .advanceReinitialisation 1 {}⟩, ⟨0, .advanceReinitialisation 1 {}⟩]

/-- The demotion is offered, and its result will count. -/
theorem reinitialisation_live_sample :
    AwaitsAgent (haMachine.run sampleSys demotingRun).cluster 1 ∧
      ReinitialisationLive (haMachine.run sampleSys demotingRun) 1 0 := by
  have hawaits : AwaitsAgent (haMachine.run sampleSys demotingRun).cluster 1 :=
    ⟨by decide +kernel, by decide +kernel, by decide +kernel, .inl (by decide +kernel)⟩
  refine ⟨hawaits, (reinitialisation_live_iff (sampleSys_reachable _) hawaits 0).2 (.inr ?_)⟩
  exact .demotion (by decide +kernel) (by decide +kernel : _ = some 1)
    (by decide +kernel : _ = some 2) (by decide +kernel) (by decide +kernel) (by decide +kernel)

/-- The heartbeat that shows the stopped server overtakes the result of the demotion. -/
def overtakenRun : List Event :=
  demotingRun ++ [⟨0, .heartbeat 2 (sampleHeartbeat false false 1)⟩]

/-- Nothing is offered, the result is rejected when it arrives, and advancing does nothing. -/
theorem reinitialisation_stuck_after_heartbeat :
    haMachine.Reachable (haMachine.run sampleSys overtakenRun) ∧
    AwaitsAgent (haMachine.run sampleSys overtakenRun).cluster 1 ∧
    (∃ a, desiredMaintenanceAction (haMachine.run sampleSys demotingRun).cluster 2 0 = some a ∧
      recordActionResult (haMachine.run sampleSys overtakenRun).cluster 2 (a.result .applied "") 0 =
        .error "The action result does not match the node's current desired generation.") ∧
    (∀ n ∈ (haMachine.run sampleSys overtakenRun).cluster.nodes.ids,
      desiredMaintenanceAction (haMachine.run sampleSys overtakenRun).cluster n 0 = none) ∧
    (∀ inputs, advanceReinitialisation (haMachine.run sampleSys overtakenRun).cluster 1 inputs
      (haMachine.run sampleSys overtakenRun).processStartedAt 0 =
        (haMachine.run sampleSys overtakenRun).cluster) ∧
    ¬ ReinitialisationLive (haMachine.run sampleSys overtakenRun) 1 0 := by
  have hawaits : AwaitsAgent (haMachine.run sampleSys overtakenRun).cluster 1 :=
    ⟨by decide +kernel, by decide +kernel, by decide +kernel, .inl (by decide +kernel)⟩
  have hnone : ∀ n ∈ (haMachine.run sampleSys overtakenRun).cluster.nodes.ids,
      desiredMaintenanceAction (haMachine.run sampleSys overtakenRun).cluster n 0 = none := by
    decide +kernel
  have hadvance (inputs : ReinitialisationInputs) :
      advanceReinitialisation (haMachine.run sampleSys overtakenRun).cluster 1 inputs
        (haMachine.run sampleSys overtakenRun).processStartedAt 0 =
          (haMachine.run sampleSys overtakenRun).cluster :=
    hawaits.advance inputs (by decide +kernel) (by decide +kernel : _ = some 1)
  refine ⟨sampleSys_reachable _, hawaits, ?_, hnone, hadvance, ?_⟩
  · refine ⟨⟨.maintenance 1 .demote 2, .demote, 1, .maintenanceAction .demote 1 1 2, 1, false, false,
      false⟩, by decide +kernel, ?_⟩
    exact recordActionResult_of_withdrawn (by decide +kernel) (by decide +kernel)
  · rintro (⟨n, hn, a, hoffer, -⟩ | hleaves)
    · rw [hnone n hn] at hoffer
      cases hoffer
    · exact hleaves {} (by rw [hadvance])

end Kaya.HA
