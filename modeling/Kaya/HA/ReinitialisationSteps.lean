import Kaya.HA.SelfHealLatch

/-!
# What a step of a reinitialisation has seen

`advance_reinitialisation` has fourteen phases, a restart edge that leads back to the first one, and
two ways to succeed. `ReinitialisationMove` lists what one call can do to the row of its run, **with
the evidence** the call had: the inspection since the start of the phase for the promotion and for
the two successes, the released standby for the rebuild.

`ReinitialisationStep` is the same for any step of the system: a run of this kind is left alone,
advanced, or moved on by an agent's result (`reinitialisation_step`).
-/

namespace Kaya.HA

/-- The phases before the standby is known to have released DHCP. -/
def MaintenancePhase.isPreparation : MaintenancePhase → Bool
  | backingUp | synchronising | stagingDhcp | waitingForDhcpStage | normalisingStandby
  | demotingStandby => true
  | _ => false

/-- The inspection of a phase: reports that are fresh now and no older than the phase. -/
def phaseInspection (c : HACluster) (run : HAMaintenanceRun) (stalled : StalledRecovery)
    (now : DateTime) : ClusterInspection :=
  inspectCluster c (.topology now (some run.phaseStartedAt)) stalled

/-- What `advance_reinitialisation` can do to the row of its run. -/
inductive ReinitialisationMove (c : HACluster) (stalled : StalledRecovery) (now : DateTime)
    (run run' : HAMaintenanceRun) : Prop
  /-- The run waits. -/
  | stay (hph : run'.phase = run.phase) (hstat : run'.status = run.status)
  /-- The run stops safely. -/
  | stop (hph : run'.phase = .paused) (hstat : run'.status = .failedSafe)
  /-- A new process starts over. -/
  | restart (hph : run'.phase = .waitingForReports) (hstat : run'.status = run.status)
  /-- The run prepares the change of ownership. -/
  | prepare (hph : run'.phase.isPreparation = true) (hstat : run'.status = run.status)
  /-- The standby is seen without DHCP, where the cluster manages it. -/
  | released (target standby : NodeId) (htgt : run.desiredActiveNodeId = some target)
      (hstby : c.nodes.ids.find? (· ≠ target) = some standby)
      (hrel : piholeManagesDhcp c = true → Maintenance.dhcpReleased c standby now = true)
      (hph : run'.phase = .rebuildingHa) (hstat : run'.status = run.status)
  /-- The runtime is rebuilt around the new active node. -/
  | rebuild (hbef : run.phase = .rebuildingHa) (hph : run'.phase = .waitingForVip)
      (hstat : run'.status = run.status)
  /-- The new active node is seen as the only owner of the Virtual IP. -/
  | promote (target : NodeId) (htgt : run.desiredActiveNodeId = some target)
      (hbef : run.phase = .waitingForVip)
      (hfresh : (phaseInspection c run stalled now).fresh = true)
      (hvip : (phaseInspection c run stalled now).vipOwnerIds = [target])
      (hph : run'.phase = .promotingActive) (hstat : run'.status = run.status)
  /-- Ownership is in place, and the invariants are to be verified. -/
  | verify (hbef : run.phase = .waitingForVip ∨ run.phase = .verifyingDhcpActivation)
      (hph : run'.phase = .verifying) (hstat : run'.status = run.status)
  /-- The run succeeds. -/
  | finish (target : NodeId) (htgt : run.desiredActiveNodeId = some target)
      (hfresh : (phaseInspection c run stalled now).fresh = true)
      (hvip : (phaseInspection c run stalled now).vipOwnerIds = [target])
      (hdhcp : piholeManagesDhcp c = true →
        (phaseInspection c run stalled now).dhcpOwnerIds = [target])
      (hph : run'.phase = .complete) (hstat : run'.status = .succeeded)

section Moves

variable {c : HACluster} {m : RunId} {now : DateTime} {target standby : NodeId}
  {inputs : ReinitialisationInputs} {run : HAMaintenanceRun}

theorem failSafe_move (message : String) {stalled : StalledRecovery} {c₁ : HACluster} :
    ReinitialisationMove c stalled now run ((failSafe c₁ m message).maintenanceRun m) := by
  rw [failSafe, modifyMaintenance_row]
  exact .stop rfl rfl

theorem setPhase_status (phase : MaintenancePhase) :
    ((setPhase c m phase now).maintenanceRun m).status = (c.maintenanceRun m).status := by
  rw [setPhase, modifyMaintenance_row]

theorem finishReinitialisation_row :
    ((finishReinitialisation c m target).maintenanceRun m).phase = .complete ∧
      ((finishReinitialisation c m target).maintenanceRun m).status = .succeeded := by
  rw [finishReinitialisation, modifyMaintenance_row]
  exact ⟨rfl, rfl⟩

theorem awaitReports_move (htgt : (c.maintenanceRun m).desiredActiveNodeId = some target) :
    ReinitialisationMove c inputs.stalled now (c.maintenanceRun m)
      ((awaitReports c m target inputs now).maintenanceRun m) := by
  unfold awaitReports
  dsimp only
  split <;> rename_i hfresh
  · rw [modifyMaintenance_row]
    exact .stay rfl rfl
  split <;> rename_i hcorrect
  · obtain ⟨hvip, hdhcp, -⟩ := hcorrect
    refine .finish target htgt (by simpa [phaseInspection] using hfresh) hvip (fun hman ↦ ?_)
      finishReinitialisation_row.1 finishReinitialisation_row.2
    have hman' : ¬ (!piholeManagesDhcp c) = true := by simp [hman]
    exact hdhcp.resolve_left hman'
  · refine .prepare ?_ ?_
    · rw [setPhase_phase]
      rfl
    · rw [setPhase_status, modifyMaintenance_row]

theorem backUp_move : ReinitialisationMove c inputs.stalled now (c.maintenanceRun m)
    ((backUp c m inputs now).maintenanceRun m) := by
  unfold backUp
  dsimp only
  split
  · exact failSafe_move _
  · exact failSafe_move _
  · refine .prepare ?_ (setPhase_status _)
    rw [setPhase_phase]
    rfl

theorem synchronise_move : ReinitialisationMove c inputs.stalled now (c.maintenanceRun m)
    ((synchronise c m inputs now).maintenanceRun m) := by
  unfold synchronise
  split
  · exact failSafe_move _
  · refine .prepare ?_ (setPhase_status _)
    rw [setPhase_phase]
    split <;> rfl

theorem stageDhcp_move : ReinitialisationMove c inputs.stalled now (c.maintenanceRun m)
    ((stageDhcp c m inputs now).maintenanceRun m) := by
  obtain ⟨hruns, -, -⟩ := persistLeasePlan_maintenance c now (inspectClusterLeases c inputs.leases)
  unfold stageDhcp reconcileClusterLeases
  split <;> rename_i c' hpersist <;> rw [hpersist] at hruns
  · exact failSafe_move _
  split
  · exact failSafe_move _
  · refine .prepare ?_ ?_
    · rw [setPhase_phase]
      rfl
    · rw [setPhase_status, HACluster.maintenanceRun, hruns]

theorem verifyDhcpRelease_move (htgt : (c.maintenanceRun m).desiredActiveNodeId = some target)
    (hstby : c.nodes.ids.find? (· ≠ target) = some standby) :
    ReinitialisationMove c inputs.stalled now (c.maintenanceRun m)
      ((verifyDhcpRelease c m standby now).maintenanceRun m) := by
  unfold verifyDhcpRelease
  split <;> rename_i hrel
  · refine .released target standby htgt hstby (fun _ ↦ hrel) ?_ ?_
    · rw [modifyMaintenance_row]
      exact setPhase_phase _ _ _ _
    · rw [modifyMaintenance_row]
      exact setPhase_status _
  split
  · exact failSafe_move _
  · exact .stay rfl rfl

theorem awaitRebuild_move (htgt : (c.maintenanceRun m).desiredActiveNodeId = some target)
    (hbef : (c.maintenanceRun m).phase = .waitingForVip) :
    ReinitialisationMove c inputs.stalled now (c.maintenanceRun m)
      ((awaitRebuild c m target inputs now).maintenanceRun m) := by
  unfold awaitRebuild
  dsimp only
  split
  · exact failSafe_move _
  split <;> rename_i hrdy
  · exact .stay rfl rfl
  split <;> rename_i hvip
  · split
    · exact failSafe_move _
    · exact .stay rfl rfl
  rw [not_or, Bool.not_eq_true', Bool.not_eq_false] at hrdy
  split
  · exact .promote target htgt hbef hrdy.1 (not_not.1 hvip) (setPhase_phase _ _ _ _)
      (setPhase_status _)
  · exact .verify (.inl hbef) (setPhase_phase _ _ _ _) (setPhase_status _)

theorem verifyDhcpActivation_move
    (hbef : (c.maintenanceRun m).phase = .verifyingDhcpActivation) :
    ReinitialisationMove c inputs.stalled now (c.maintenanceRun m)
      ((verifyDhcpActivation c m target standby inputs now).maintenanceRun m) := by
  unfold verifyDhcpActivation
  dsimp only
  split
  · refine .verify (.inr hbef) ?_ ?_
    · rw [modifyMaintenance_row]
      exact setPhase_phase _ _ _ _
    · rw [modifyMaintenance_row]
      exact setPhase_status _
  split
  · exact failSafe_move _
  · exact .stay rfl rfl

/-- A list of blockers is empty only when every one of its parts is. -/
theorem validateClusterInvariants_eq_nil {stalled : StalledRecovery}
    (h : validateClusterInvariants c m target standby stalled now = []) :
    (phaseInspection c (c.maintenanceRun m) stalled now).fresh = true ∧
      (phaseInspection c (c.maintenanceRun m) stalled now).vipOwnerIds = [target] ∧
      (piholeManagesDhcp c = true →
        (phaseInspection c (c.maintenanceRun m) stalled now).dhcpOwnerIds = [target]) := by
  unfold phaseInspection
  unfold validateClusterInvariants at h
  dsimp only at h
  have hnil := eraseDups_eq_nil.1 h
  simp only [List.append_eq_nil_iff] at hnil
  obtain ⟨⟨⟨⟨⟨⟨⟨hfresh, hvip⟩, hdhcp⟩, -⟩, -⟩, -⟩, -⟩, -⟩ := hnil
  refine ⟨?_, ?_, fun hman ↦ ?_⟩
  · by_contra hstale
    rw [if_pos (by simpa using hstale)] at hfresh
    cases hfresh
  · by_contra hne
    rw [if_pos hne] at hvip
    cases hvip
  · by_contra hne
    rw [if_pos ⟨hman, hne⟩] at hdhcp
    cases hdhcp

theorem verifyInvariants_move (htgt : (c.maintenanceRun m).desiredActiveNodeId = some target) :
    ReinitialisationMove c inputs.stalled now (c.maintenanceRun m)
      ((verifyInvariants c m target standby inputs now).maintenanceRun m) := by
  unfold verifyInvariants
  split <;> rename_i hblockers
  · obtain ⟨hfresh, hvip, hdhcp⟩ := validateClusterInvariants_eq_nil hblockers
    exact .finish target htgt hfresh hvip hdhcp finishReinitialisation_row.1
      finishReinitialisation_row.2
  split
  · exact failSafe_move _
  · exact .stay rfl rfl

theorem reinitialisationPhase_move
    (htgt : (c.maintenanceRun m).desiredActiveNodeId = some target)
    (hstby : c.nodes.ids.find? (· ≠ target) = some standby) :
    ReinitialisationMove c inputs.stalled now (c.maintenanceRun m)
      ((reinitialisationPhase c m target standby inputs now).maintenanceRun m) := by
  unfold reinitialisationPhase
  split <;> rename_i hbef
  · exact awaitReports_move htgt
  · exact backUp_move
  · exact synchronise_move
  · exact stageDhcp_move
  · split
    · refine .prepare ?_ (setPhase_status _)
      rw [setPhase_phase]
      rfl
    · exact .stay rfl rfl
  · split <;> rename_i hserving
    · refine .prepare ?_ (setPhase_status _)
      rw [setPhase_phase]
      rfl
    · refine .released target standby htgt hstby (fun hman ↦ ?_)
        (setPhase_phase _ _ _ _) (setPhase_status _)
      by_contra hrel
      exact hserving ⟨hman, by simpa using hrel⟩
  · exact verifyDhcpRelease_move htgt hstby
  · exact .rebuild hbef (setPhase_phase _ _ _ _) (setPhase_status _)
  · exact awaitRebuild_move htgt hbef
  · exact verifyDhcpActivation_move hbef
  · exact verifyInvariants_move htgt
  · exact .stay rfl rfl

/-- **Inversion** of `advance_reinitialisation`. -/
theorem advanceReinitialisation_move {processStartedAt : DateTime} :
    ReinitialisationMove c inputs.stalled now (c.maintenanceRun m)
      ((advanceReinitialisation c m inputs processStartedAt now).maintenanceRun m) := by
  unfold advanceReinitialisation
  dsimp only
  split
  · exact .stay rfl rfl
  split <;> rename_i htgt
  · exact failSafe_move _
  split <;> rename_i hstby
  · exact .stay rfl rfl
  split
  · refine .restart ?_ ?_
    · rw [modifyMaintenance_row]
      exact setPhase_phase _ _ _ _
    · rw [modifyMaintenance_row]
      exact setPhase_status _
  · exact reinitialisationPhase_move htgt hstby

end Moves

/-! ### Steps of the system -/

/-- What a step of the system does to the row of a reinitialisation. -/
inductive ReinitialisationStep (s : Sys) (e : Event) (m : RunId) : Prop
  /-- The row is left alone. -/
  | same (hrow : (step s e).cluster.maintenanceRun m = s.cluster.maintenanceRun m)
  /-- The run is advanced. -/
  | advanced (inputs : ReinitialisationInputs) (hact : e.action = .advanceReinitialisation m inputs)
      (hrun : (s.cluster.maintenanceRun m).status = .running)
      (hmove : ReinitialisationMove s.cluster inputs.stalled e.now (s.cluster.maintenanceRun m)
        ((step s e).cluster.maintenanceRun m))
  /-- An agent's result moves the run on. -/
  | answered (phase : MaintenancePhase)
      (hafter : phaseAfterResult (s.cluster.maintenanceRun m) = some phase)
      (hph : ((step s e).cluster.maintenanceRun m).phase = phase)
      (hstat : ((step s e).cluster.maintenanceRun m).status = (s.cluster.maintenanceRun m).status)

section Steps

variable {s : Sys} {e : Event} {m : RunId}

/-- A result moves the active run to the phase after it, and leaves its status. -/
theorem recordMaintenanceActionResult_active {c c' : HACluster} {now : DateTime} {n : NodeId}
    {action : DhcpActionType} {generation : ℕ} {checksum : Option Digest} {status : ResultStatus}
    {message : String} (hm : activeMaintenance c = some m)
    (h : recordMaintenanceActionResult c n action generation checksum status message now = .ok c') :
    ∃ phase, phaseAfterResult (c.maintenanceRun m) = some phase ∧
      (c'.maintenanceRun m).phase = phase ∧
      (c'.maintenanceRun m).status = (c.maintenanceRun m).status := by
  unfold recordMaintenanceActionResult at h
  rw [hm] at h
  split at h
  · rename_i k expected hk hexp
    obtain rfl : m = k := Option.some.inj hk
    obtain ⟨k, hk', -, -, phase, hph⟩ := desiredMaintenanceAction_eq_some hexp
    obtain rfl : m = k := Option.some.inj (hm.symm.trans hk')
    refine ⟨phase, hph, ?_⟩
    split at h
    · cases h
    dsimp only at h
    rw [hph] at h
    split at h <;> cases h <;> rename_i hsome <;> cases hsome
    · rw [setPhase, modifyMaintenance_row, noteActionResult, modifyMaintenance_row]
      exact ⟨rfl, rfl⟩
    · rw [modifyMaintenance_row, setPhase, modifyMaintenance_row, noteActionResult,
        modifyMaintenance_row]
      exact ⟨rfl, rfl⟩
  · cases h

/-- **Inversion.** The row of a reinitialisation is left alone, advanced, or answered. -/
theorem reinitialisation_step (hm : m ∈ s.cluster.maintenanceRuns.ids)
    (hoper : (s.cluster.maintenanceRun m).operation = .reinitialise) :
    ReinitialisationStep s e m := by
  cases maintenance_change s e with
  | same hruns => exact .same (by rw [HACluster.maintenanceRun, hruns])
  | reconciled k stalled hk hact hc' =>
    refine .same ?_
    rw [hc']
    by_cases hkm : m = k
    · subst hkm
      have hother : (s.cluster.maintenanceRun m).operation ≠ .reconcile := by
        rw [hoper]
        decide
      rw [reconcileClusterState]
      dsimp only
      rw [if_pos (.inl hother)]
    · exact reconcileClusterState_effect.others m hkm
  | reinitialised k inputs hk hact hc' =>
    by_cases hkm : m = k
    · subst hkm
      by_cases hrun : (s.cluster.maintenanceRun m).status = .running
      · refine .advanced inputs hact hrun ?_
        rw [hc']
        exact advanceReinitialisation_move
      · refine .same ?_
        rw [hc', advanceReinitialisation_of_ne (.inr hrun)]
    · refine .same ?_
      rw [hc']
      exact advanceReinitialisation_effect.others m hkm
  | healed k hk hact hc' =>
    refine .same ?_
    rw [hc']
    by_cases hkm : m = k
    · subst hkm
      rw [advanceDhcpSelfHeal_of_ne (.inl (by rw [hoper]; decide))]
    · exact advanceDhcpSelfHeal_effect.others m hkm
  | answered n result action c₁ hact hok hc' =>
    obtain ⟨k, hk, heffect⟩ := recordMaintenanceActionResult_effect hok
    by_cases hkm : m = k
    · subst hkm
      obtain ⟨phase, hafter, hph, hstat⟩ := recordMaintenanceActionResult_active hk hok
      exact .answered phase hafter (by rw [hc']; exact hph) (by rw [hc']; exact hstat)
    · refine .same ?_
      rw [hc']
      exact heffect.others m hkm
  | startedReconciliation hact hok => exact .same (startReconciliation_row hok hm)
  | startedReinitialisation desiredActive authority acknowledged hact hok =>
    exact .same (startReinitialisation_row hok hm)
  | evaluated forceRetry hact hc' =>
    refine .same ?_
    rw [hc']
    refine (startDhcpSelfHeal_evaluation _ _ _).row hm ?_
    simp [isFailedSelfHeal, hoper]

/-- The operation of a run never changes. -/
theorem operation_step (hm : m ∈ s.cluster.maintenanceRuns.ids) :
    ((step s e).cluster.maintenanceRun m).operation = (s.cluster.maintenanceRun m).operation :=
  (maintenanceRun_evolves hm).operation

end Steps

end Kaya.HA
