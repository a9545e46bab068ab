import Kaya.HA.ReinitialisationProgress

/-!
# Who writes the rows of the maintenance runs

`maintenance_step` says that rows evolve. The laws about single runs need more: *which* unit of work
wrote the row, and what it had seen. `MaintenanceChange` lists the writers — the three advances, an
agent's result, the three starts — and `maintenance_change` says that nothing else touches a row.

A run that has ended is final except for its failure latch: only an evaluation of the self-heal
rewrites it, and only to clear the latch (`ended_row`).
-/

namespace Kaya.HA

/-- The unit of work that wrote the maintenance rows. -/
inductive MaintenanceChange (s : Sys) (e : Event) (c' : HACluster) : Prop
  /-- Nothing was written. -/
  | same (hruns : c'.maintenanceRuns = s.cluster.maintenanceRuns)
  /-- A reconciliation was advanced. -/
  | reconciled (m : RunId) (stalled : StalledRecovery) (hm : m ∈ s.cluster.maintenanceRuns.ids)
      (hact : e.action = .reconcileClusterState m stalled)
      (hc' : c' = reconcileClusterState s.cluster m stalled e.now)
  /-- A reinitialisation was advanced. -/
  | reinitialised (m : RunId) (inputs : ReinitialisationInputs)
      (hm : m ∈ s.cluster.maintenanceRuns.ids)
      (hact : e.action = .advanceReinitialisation m inputs)
      (hc' : c' = advanceReinitialisation s.cluster m inputs s.processStartedAt e.now)
  /-- A self-heal was advanced. -/
  | healed (m : RunId) (hm : m ∈ s.cluster.maintenanceRuns.ids)
      (hact : e.action = .advanceDhcpSelfHeal m)
      (hc' : c' = advanceDhcpSelfHeal s.cluster m e.now)
  /-- An agent's result was handed to the active run. -/
  | answered (n : NodeId) (result : HAAgentActionResult) (action : DhcpActionType) (c₁ : HACluster)
      (hact : e.action = .actionResult n result)
      (hok : recordMaintenanceActionResult s.cluster n action result.generation result.checksum
        result.status result.message e.now = .ok c₁)
      (hc' : c' = storeResult c₁ n result)
  /-- A reconciliation was started. -/
  | startedReconciliation (hact : e.action = .startReconciliation)
      (hok : startReconciliation s.cluster e.now = .ok c')
  /-- A reinitialisation was started. -/
  | startedReinitialisation (desiredActive authority : NodeId) (acknowledged : Bool)
      (hact : e.action = .startReinitialisation desiredActive authority acknowledged)
      (hok : startReinitialisation s.cluster desiredActive authority acknowledged e.now = .ok c')
  /-- The self-heal was evaluated, and perhaps started. -/
  | evaluated (forceRetry : Bool) (hact : e.action = .startDhcpSelfHeal forceRetry)
      (hc' : c' = startDhcpSelfHeal s.cluster forceRetry e.now)

section Change

variable {s : Sys} {e : Event} {c c' : HACluster}

theorem failoverFrame_maintenanceRuns (h : failoverFrame c' = failoverFrame c) :
    c'.maintenanceRuns = c.maintenanceRuns := by
  have hruns := congrArg HACluster.maintenanceRuns h
  exact hruns

theorem ownershipFrame_maintenanceRuns
    (h : ownershipFrame c' = ownershipFrame c) : c'.maintenanceRuns = c.maintenanceRuns := by
  have hruns := congrArg HACluster.maintenanceRuns h
  exact hruns

theorem applyActionResult_change {n : NodeId} {result : HAAgentActionResult} {c₁ : HACluster}
    (hact : e.action = .actionResult n result)
    (h : applyActionResult s.cluster n result e.now = .ok c₁) :
    MaintenanceChange s e (storeResult c₁ n result) := by
  unfold applyActionResult at h
  split at h
  · cases h
    exact .same rfl
  · exact .same (recordLeaseStageResult_runs h).2.1
  · cases h
    exact .same (applyKeepalivedResult_runs n result).2.1
  · rename_i action _
    split at h
    · exact .answered n result action c₁ hact h rfl
    · obtain ⟨r, -, hmoves⟩ := recordFailoverActionResult_moves h
      have hruns := failoverFrame_maintenanceRuns hmoves.frame
      exact .same hruns

theorem startControlledFailover_maintenanceRuns {now : DateTime} {target : NodeId}
    {confirmation : String} {acknowledged : Bool} {failback : Except String Unit}
    {answer : LeaseAnswer} :
    (startControlledFailover c target confirmation acknowledged failback answer
      now).1.maintenanceRuns = c.maintenanceRuns := by
  rcases startControlledFailover_cases c now target confirmation acknowledged failback
    answer with hsame | ⟨-, -, hcapt⟩ | ⟨source, -, -, -, -, hcreated⟩
  · rw [hsame]
  · rw [hcapt]
    exact (persistLeasePlan_maintenance c now (inspectClusterLeases c answer)).1
  · rw [hcreated, failoverFrame_maintenanceRuns (createFailoverRun_frame _ _ _ _ _)]
    exact captured_maintenanceRuns _ _ _ _

/-- **Inversion.** Every step leaves the maintenance rows, or is one of the seven writers. -/
theorem maintenance_change (s : Sys) (e : Event) : MaintenanceChange s e (step s e).cluster := by
  obtain ⟨now, a⟩ := e
  rw [step_cluster]
  cases a with
  | heartbeat n hb =>
    dsimp only [clusterStep]
    split
    · exact .same rfl
    · exact .same rfl
  | reconcileVipOwnership reporting =>
    exact .same (ownershipFrame_maintenanceRuns (reconcileVipOwnership_frame _ _ _))
  | evaluateRecovery => exact .same (ownershipFrame_maintenanceRuns (evaluateRecovery_frame _))
  | actionResult n result =>
    dsimp only [clusterStep]
    split
    · exact .same rfl
    rcases commitActionResult_cases s.cluster n result now with hsame | hacc
    · rw [hsame]
      exact .same rfl
    · obtain ⟨c₁, happly, hstore⟩ := hacc.applied
      rw [hstore]
      exact applyActionResult_change rfl happly
  | ingestEvent n event =>
    exact .same (ownershipFrame_maintenanceRuns (ingestEvent_frame _ _ _ _))
  | startControlledFailover => exact .same startControlledFailover_maintenanceRuns
  | advanceFailover =>
    exact .same (failoverFrame_maintenanceRuns (advanceFailover_frame _ _).1)
  | requestFailoverRollback r acknowledged =>
    dsimp only [clusterStep]
    split
    · rcases hreq : requestFailoverRollback s.cluster r acknowledged now with message | c'
      · exact .same rfl
      · exact .same (failoverFrame_maintenanceRuns (requestFailoverRollback_moves hreq).frame)
    · exact .same rfl
  | startReconciliation =>
    dsimp only [clusterStep]
    rcases hstart : startReconciliation s.cluster now with message | c'
    · exact .same rfl
    · exact .startedReconciliation rfl hstart
  | reconcileClusterState m stalled =>
    dsimp only [clusterStep]
    split <;> rename_i hm
    · exact .reconciled m stalled hm rfl rfl
    · exact .same rfl
  | startReinitialisation desiredActive authority acknowledged =>
    dsimp only [clusterStep]
    rcases hstart : startReinitialisation s.cluster desiredActive authority acknowledged now with
      message | c'
    · exact .same rfl
    · exact .startedReinitialisation desiredActive authority acknowledged rfl hstart
  | advanceReinitialisation m inputs =>
    dsimp only [clusterStep]
    split <;> rename_i hm
    · exact .reinitialised m inputs hm rfl rfl
    · exact .same rfl
  | startDhcpSelfHeal forceRetry => exact .evaluated forceRetry rfl rfl
  | advanceDhcpSelfHeal m =>
    dsimp only [clusterStep]
    split <;> rename_i hm
    · exact .healed m hm rfl rfl
    · exact .same rfl
  | reconcileClusterLeases answer =>
    exact .same (persistLeasePlan_maintenance s.cluster now
      (inspectClusterLeases s.cluster answer)).1
  | persistLeaseInspection inputs answer =>
    dsimp only [clusterStep]
    split
    · exact .same (persistLeasePlan_maintenance s.cluster now (inspectLeasePlan inputs answer)).1
    · exact .same rfl
  | _ => exact .same rfl

end Change

/-! ### Single rows -/

section Rows

variable {c c' : HACluster} {m k : RunId} {now : DateTime} {s : Sys} {e : Event}

/-- An advance leaves a run that has ended. -/
theorem reconcileClusterState_of_ended {stalled : StalledRecovery}
    (h : (c.maintenanceRun m).status.isActive = false) :
    reconcileClusterState c m stalled now = c := by
  unfold reconcileClusterState
  exact if_pos (.inr (by simp [h]))

theorem advanceReinitialisation_of_ne {inputs : ReinitialisationInputs} {started : DateTime}
    (h : (c.maintenanceRun m).operation ≠ .reinitialise ∨ (c.maintenanceRun m).status ≠ .running) :
    advanceReinitialisation c m inputs started now = c := by
  unfold advanceReinitialisation
  exact if_pos h

theorem advanceDhcpSelfHeal_of_ne
    (h : (c.maintenanceRun m).operation ≠ .dhcpSelfHeal ∨ (c.maintenanceRun m).status ≠ .running) :
    advanceDhcpSelfHeal c m now = c := by
  unfold advanceDhcpSelfHeal
  exact if_pos h

theorem ne_running_of_ended (h : (c.maintenanceRun m).status.isActive = false) :
    (c.maintenanceRun m).status ≠ .running := by
  intro hrun
  rw [hrun] at h
  cases h

/-- The row of a run that is inserted, or one of the rows in use. -/
theorem insertMaintenance_row {run : HAMaintenanceRun}
    (hm : m ∈ (insertMaintenance c run).maintenanceRuns.ids) :
    (m ∈ c.maintenanceRuns.ids ∧ (insertMaintenance c run).maintenanceRun m = c.maintenanceRun m) ∨
    (insertMaintenance c run).maintenanceRun m = run := by
  rcases List.mem_append.1 hm with hold | hnew
  · exact .inl ⟨hold, Table.insert_row_of_mem _ _ hold⟩
  · obtain rfl := List.mem_singleton.1 hnew
    exact .inr (Table.insert_row_fresh _ _)

/-- A new run leaves the rows in use. -/
theorem startReconciliation_row (h : startReconciliation c now = .ok c')
    (hm : m ∈ c.maintenanceRuns.ids) : c'.maintenanceRun m = c.maintenanceRun m := by
  obtain ⟨-, -, rfl⟩ := startReconciliation_eq_ok h
  exact Table.insert_row_of_mem _ _ hm

theorem startReinitialisation_row {desiredActive authority : NodeId} {acknowledged : Bool}
    (h : startReinitialisation c desiredActive authority acknowledged now = .ok c')
    (hm : m ∈ c.maintenanceRuns.ids) : c'.maintenanceRun m = c.maintenanceRun m := by
  obtain ⟨-, -, -, rfl⟩ := startReinitialisation_eq_ok h
  exact Table.insert_row_of_mem _ _ hm

/-- The row of a run after an agent's result: only the active run is written. -/
theorem recordMaintenanceActionResult_row {n : NodeId} {action : DhcpActionType} {generation : ℕ}
    {checksum : Option Digest} {status : ResultStatus} {message : String}
    (h : recordMaintenanceActionResult c n action generation checksum status message now = .ok c')
    (hended : (c.maintenanceRun m).status.isActive = false) :
    c'.maintenanceRun m = c.maintenanceRun m := by
  obtain ⟨k, hk, heffect⟩ := recordMaintenanceActionResult_effect h
  refine heffect.others m ?_
  rintro rfl
  have hlive := (Table.newest?_eq_some hk).2
  exact absurd (hended.symm.trans hlive) (by decide)

/-- **A run that has ended** is rewritten by an evaluation of the self-heal only. -/
theorem ended_row (hm : m ∈ s.cluster.maintenanceRuns.ids)
    (hended : (s.cluster.maintenanceRun m).status.isActive = false)
    (hevaluated : ∀ forceRetry, e.action ≠ .startDhcpSelfHeal forceRetry) :
    (step s e).cluster.maintenanceRun m = s.cluster.maintenanceRun m := by
  cases maintenance_change s e with
  | same hruns => rw [HACluster.maintenanceRun, hruns]
  | reconciled k stalled hk hact hc' =>
    rw [hc']
    by_cases hkm : m = k
    · subst hkm
      rw [reconcileClusterState_of_ended hended]
    · exact reconcileClusterState_effect.others m hkm
  | reinitialised k inputs hk hact hc' =>
    rw [hc']
    by_cases hkm : m = k
    · subst hkm
      rw [advanceReinitialisation_of_ne (.inr (ne_running_of_ended hended))]
    · exact advanceReinitialisation_effect.others m hkm
  | healed k hk hact hc' =>
    rw [hc']
    by_cases hkm : m = k
    · subst hkm
      rw [advanceDhcpSelfHeal_of_ne (.inr (ne_running_of_ended hended))]
    · exact advanceDhcpSelfHeal_effect.others m hkm
  | answered n result action c₁ hact hok hc' =>
    rw [hc']
    show c₁.maintenanceRun m = _
    exact recordMaintenanceActionResult_row hok hended
  | startedReconciliation hact hok => exact startReconciliation_row hok hm
  | startedReinitialisation desiredActive authority acknowledged hact hok =>
    exact startReinitialisation_row hok hm
  | evaluated forceRetry hact hc' => exact absurd hact (hevaluated forceRetry)

/-- The row of a run evolves. -/
theorem maintenanceRun_evolves {s : Sys} {e : Event} (hm : m ∈ s.cluster.maintenanceRuns.ids) :
    RunEvolves (s.cluster.maintenanceRun m) ((step s e).cluster.maintenanceRun m) := by
  rcases maintenance_step s e with ⟨-, hrows⟩ | hstart
  · exact hrows m hm
  · exact hstart.old m hm

/-- Runs are never removed. -/
theorem maintenanceRuns_grow {s : Sys} {e : Event} (hm : m ∈ s.cluster.maintenanceRuns.ids) :
    m ∈ (step s e).cluster.maintenanceRuns.ids := by
  rcases maintenance_step s e with ⟨hids, -⟩ | hstart
  · rw [hids]
    exact hm
  · rw [hstart.ids]
    exact List.mem_append_left _ hm

/-- An ended run stays ended. -/
theorem ended_step (hm : m ∈ s.cluster.maintenanceRuns.ids)
    (hended : (s.cluster.maintenanceRun m).status.isActive = false) :
    ((step s e).cluster.maintenanceRun m).status.isActive = false := by
  have hevolves := @maintenanceRun_evolves m s e hm
  by_contra hlive
  rw [Bool.not_eq_false] at hlive
  have hsame := hevolves.status hlive
  rw [hsame, hended] at hlive
  cases hlive

end Rows

end Kaya.HA
