import Kaya.HA.Invariants

/-!
# One workflow at a time

A cluster should be under at most one failover, and never under failover and maintenance at once.
Five entry points share the work of keeping it so, and each looks at a different part of the state:

| entry point                 | active failover | active maintenance | `maintenance_mode` |
|-----------------------------|-----------------|--------------------|--------------------|
| `start_controlled_failover` | yes             | no                 | yes                |
| `start_reconciliation`      | yes             | yes                | no                 |
| `start_reinitialisation`    | yes             | yes                | no                 |
| `start_dhcp_self_heal`      | yes             | yes                | yes                |
| `request_failover_rollback` | no              | no                 | no                 |

The mode stands in for active maintenance only where a run has set it, and a reconciliation does
not. So a failover can start beside a reconciliation, and a rollback beside anything. Runs in which
these two things do not happen (`KeepsExclusion`) are exclusive throughout
(`exclusive_of_keepsExclusion`).
-/

namespace Kaya.HA

/-- At most one failover run is active, and none beside an active maintenance run. -/
structure Exclusive (c : HACluster) : Prop where
  oneFailover : ∀ r ∈ c.failoverRuns.ids, ∀ r' ∈ c.failoverRuns.ids,
    (c.failoverRun r).status.isActive = true → (c.failoverRun r').status.isActive = true → r = r'
  notBoth : ∀ r ∈ c.failoverRuns.ids, ∀ m ∈ c.maintenanceRuns.ids,
    (c.failoverRun r).status.isActive = true → (c.maintenanceRun m).status.isActive = false

/-- A rollback that would be accepted finds no active run of either kind, and a failover to the
standby that would be started finds no active maintenance run. -/
def KeepsExclusion (s : Sys) (e : Event) : Prop :=
  match e.action with
  | .requestFailoverRollback r acknowledged =>
    acknowledged = true → ((s.cluster.failoverRun r).status = .failedSafe ∨
        recoverUnhealthyActive s.cluster (s.cluster.failoverRun r) = true) →
      activeFailover s.cluster = none ∧ activeMaintenance s.cluster = none
  | .startControlledFailover target confirmation acknowledged _ _ =>
    acknowledged = true ∧ PyText.strip confirmation = s.cluster.name →
      (failoverReadiness s.cluster e.now).blockers = [] →
        (failoverReadiness s.cluster e.now).target = some target →
          activeMaintenance s.cluster = none
  | _ => True

/-- The invariant: exclusion, and a mode that covers every maintenance run but a reconciliation. -/
structure ExclusionInvariant (c : HACluster) : Prop extends Exclusive c where
  mode : ∀ m ∈ c.maintenanceRuns.ids, (c.maintenanceRun m).status.isActive = true →
    (c.maintenanceRun m).operation ≠ .reconcile → c.maintenanceMode = true

/-- The same, with an eye on the given kinds of maintenance only. -/
structure ExclusionFrom (kinds : MaintenanceOperation → Prop) (c : HACluster) : Prop where
  oneFailover : ∀ r ∈ c.failoverRuns.ids, ∀ r' ∈ c.failoverRuns.ids,
    (c.failoverRun r).status.isActive = true → (c.failoverRun r').status.isActive = true → r = r'
  notBoth : ∀ r ∈ c.failoverRuns.ids, ∀ m ∈ c.maintenanceRuns.ids,
    (c.failoverRun r).status.isActive = true → kinds (c.maintenanceRun m).operation →
      (c.maintenanceRun m).status.isActive = false
  mode : ∀ m ∈ c.maintenanceRuns.ids, (c.maintenanceRun m).status.isActive = true →
    kinds (c.maintenanceRun m).operation → (c.maintenanceRun m).operation ≠ .reconcile →
      c.maintenanceMode = true

/-- No failover run and no maintenance run of the given kinds is active. -/
structure AtRest (kinds : MaintenanceOperation → Prop) (c : HACluster) : Prop where
  failover : ∀ r ∈ c.failoverRuns.ids, (c.failoverRun r).status.isActive = false
  maintenance : ∀ m ∈ c.maintenanceRuns.ids, kinds (c.maintenanceRun m).operation →
    (c.maintenanceRun m).status.isActive = false

section Steps

variable {c c' : HACluster} {now : DateTime} {kinds : MaintenanceOperation → Prop} {r m : RunId}

theorem isActive_of_activeFailover_none (h : activeFailover c = none)
    (hr : r ∈ c.failoverRuns.ids) : (c.failoverRun r).status.isActive = false :=
  Table.newest?_eq_none_iff.1 h r hr

theorem isActive_of_activeMaintenance_none (h : activeMaintenance c = none)
    (hm : m ∈ c.maintenanceRuns.ids) : (c.maintenanceRun m).status.isActive = false :=
  Table.newest?_eq_none_iff.1 h m hm

/-- A run that is active after evolving was active before. -/
theorem RunEvolves.wasActive {run run' : HAMaintenanceRun} (h : RunEvolves run run')
    (hlive : run'.status.isActive = true) : run.status.isActive = true := by
  rw [← h.status hlive]
  exact hlive

/-- Moves of one run, with every other failover run and the maintenance at rest. -/
theorem ExclusionFrom.alone (hmoves : RowMoves c now r c')
    (hothers : ∀ j ∈ c.failoverRuns.ids, j ≠ r → (c.failoverRun j).status.isActive = false)
    (hruns : c'.maintenanceRuns = c.maintenanceRuns)
    (hidle : ∀ m ∈ c.maintenanceRuns.ids, kinds (c.maintenanceRun m).operation →
      (c.maintenanceRun m).status.isActive = false) : ExclusionFrom kinds c' := by
  have hidle' (m : RunId) (hm : m ∈ c'.maintenanceRuns.ids)
      (hkind : kinds (c'.maintenanceRun m).operation) :
      (c'.maintenanceRun m).status.isActive = false := by
    rw [HACluster.maintenanceRun, hruns] at hkind ⊢
    exact hidle m (hruns ▸ hm) hkind
  have honly (j : RunId) (hj : j ∈ c'.failoverRuns.ids)
      (hlive : (c'.failoverRun j).status.isActive = true) : j = r := by
    by_contra hne
    rw [hmoves.others j hne] at hlive
    exact absurd ((hothers j (hmoves.ids ▸ hj) hne).symm.trans hlive) (by decide)
  refine ⟨fun j hj j' hj' ha ha' ↦ ?_, fun _ _ m hm _ hkind ↦ hidle' m hm hkind,
    fun m hm hlive hkind _ ↦ ?_⟩
  · rw [honly j hj ha, honly j' hj' ha']
  · exact absurd ((hidle' m hm hkind).symm.trans hlive) (by decide)

/-- A step of the failover engine on the active run. -/
theorem ExclusionFrom.advance (h : ExclusionFrom kinds c)
    (hr : activeFailover c = some r) (hmoves : RowMoves c now r c')
    (hruns : c'.maintenanceRuns = c.maintenanceRuns) : ExclusionFrom kinds c' := by
  obtain ⟨hmem, hlive⟩ := Table.newest?_eq_some hr
  refine .alone hmoves (fun j hj hne ↦ ?_) hruns
    fun m hm hkind ↦ h.notBoth r hmem m hm hlive hkind
  by_contra hother
  exact hne (h.oneFailover j hj r hmem (by simpa using hother) hlive)

/-- The maintenance runs evolve, and none of them is reactivated. -/
theorem ExclusionFrom.evolve (h : ExclusionFrom kinds c)
    (hfail : c'.failoverRuns = c.failoverRuns)
    (hids : c'.maintenanceRuns.ids = c.maintenanceRuns.ids)
    (hevolves : ∀ m, RunEvolves (c.maintenanceRun m) (c'.maintenanceRun m))
    (hmode : ∀ m ∈ c.maintenanceRuns.ids, (c'.maintenanceRun m).status.isActive = true →
      c'.maintenanceMode = c.maintenanceMode) : ExclusionFrom kinds c' := by
  refine ⟨?_, fun r hr m hm hlive hkind ↦ ?_, fun m hm hlive hkind hoper ↦ ?_⟩
  · unfold HACluster.failoverRun
    rw [hfail]
    exact h.oneFailover
  · rw [HACluster.failoverRun, hfail] at hlive
    rw [(hevolves m).operation] at hkind
    by_contra hother
    rw [Bool.not_eq_false] at hother
    have hidle := h.notBoth r (hfail ▸ hr) m (hids ▸ hm) hlive hkind
    exact absurd (hidle.symm.trans ((hevolves m).wasActive hother)) (by decide)
  · rw [hids] at hm
    rw [(hevolves m).operation] at hkind hoper
    rw [hmode m hm hlive]
    exact h.mode m hm ((hevolves m).wasActive hlive) hkind hoper

/-- The active maintenance run takes a step. -/
theorem ExclusionFrom.maintain (h : ExclusionFrom kinds c) (hsole : SoleMaintenance c)
    (hmoves : MaintenanceMoves c m c') : ExclusionFrom kinds c' := by
  have hevolves (k : RunId) : RunEvolves (c.maintenanceRun k) (c'.maintenanceRun k) := by
    by_cases hk : k = m
    · subst hk
      exact hmoves.row
    · rw [hmoves.others k hk]
      exact .refl _
  refine h.evolve hmoves.failover hmoves.ids hevolves fun k hk hlive ↦ ?_
  rcases hmoves.mode with hsame | ⟨-, hended⟩
  · exact hsame
  · -- The mode is cleared by the end of the one active run, and that is `k`.
    obtain rfl := hsole k hk m hmoves.mem ((hevolves k).wasActive hlive) hmoves.wasActive
    exact absurd (hended.symm.trans hlive) (by decide)

/-- A maintenance run starts on a cluster at rest. -/
theorem ExclusionFrom.start (h : MaintenanceStarts c now c') : ExclusionFrom kinds c' := by
  have hrest (r : RunId) (hr : r ∈ c'.failoverRuns.ids) :
      (c'.failoverRun r).status.isActive = false := by
    rw [HACluster.failoverRun, h.failover]
    exact isActive_of_activeFailover_none h.noFailover (h.failover ▸ hr)
  refine ⟨fun r hr _ _ ha ↦ absurd ((hrest r hr).symm.trans ha) (by decide),
    fun r hr _ _ ha ↦ absurd ((hrest r hr).symm.trans ha) (by decide), ?_⟩
  intro m hm hlive _ hoper
  rw [h.ids, List.mem_append, List.mem_singleton] at hm
  rcases hm with hm | rfl
  · have hidle := isActive_of_activeMaintenance_none h.noMaintenance hm
    exact absurd (hidle.symm.trans ((h.old m hm).wasActive hlive)) (by decide)
  · exact h.new.mode.resolve_left hoper

/-- A failover run is created on a cluster at rest. -/
theorem ExclusionFrom.create {base : HACluster} {source target : NodeId} {managed : Bool}
    (hrest : AtRest kinds base) :
    ExclusionFrom kinds (createFailoverRun base source target managed now).1 := by
  have hruns : (createFailoverRun base source target managed now).1.maintenanceRuns =
      base.maintenanceRuns := by
    have h := congrArg HACluster.maintenanceRuns
      (createFailoverRun_frame base now source target managed)
    exact h
  have hidle (m : RunId)
      (hm : m ∈ (createFailoverRun base source target managed now).1.maintenanceRuns.ids)
      (hkind : kinds
        ((createFailoverRun base source target managed now).1.maintenanceRun m).operation) :
      ((createFailoverRun base source target managed now).1.maintenanceRun m).status.isActive =
        false := by
    rw [HACluster.maintenanceRun, hruns] at hkind ⊢
    exact hrest.maintenance m (hruns ▸ hm) hkind
  have honly (r : RunId)
      (hr : r ∈ (createFailoverRun base source target managed now).1.failoverRuns.ids)
      (hlive : ((createFailoverRun base source target managed now).1.failoverRun r).status.isActive
        = true) : r = base.failoverRuns.freshKey := by
    rw [createFailoverRun_ids, List.mem_append, List.mem_singleton] at hr
    rcases hr with hr | hr
    · rw [createFailoverRun_old _ _ _ _ _ hr] at hlive
      exact absurd ((hrest.failover r hr).symm.trans hlive) (by decide)
    · exact hr
  refine ⟨fun r hr r' hr' ha ha' ↦ ?_, fun _ _ m hm _ hkind ↦ hidle m hm hkind,
    fun m hm hlive hkind _ ↦ ?_⟩
  · rw [honly r hr ha, honly r' hr' ha']
  · exact absurd ((hidle m hm hkind).symm.trans hlive) (by decide)

end Steps

/-- **One step**, when rollbacks and starts are accepted on a cluster at rest only. -/
theorem ExclusionFrom.step {s : Sys} {e : Event} {kinds : MaintenanceOperation → Prop}
    (h : ExclusionFrom kinds s.cluster) (hsole : SoleMaintenance s.cluster)
    (hrollback : ∀ r acknowledged c', e.action = .requestFailoverRollback r acknowledged →
      requestFailoverRollback s.cluster r acknowledged e.now = .ok c' → AtRest kinds s.cluster)
    (hstart : ∀ target confirmation acknowledged failback answer,
      e.action = .startControlledFailover target confirmation acknowledged failback answer →
      acknowledged = true ∧ PyText.strip confirmation = s.cluster.name →
      (failoverReadiness s.cluster e.now).blockers = [] →
      (failoverReadiness s.cluster e.now).target = some target → AtRest kinds s.cluster) :
    ExclusionFrom kinds (step s e).cluster := by
  cases step_kind s e with
  | idle hfail hmaint hmode =>
    exact h.evolve hfail hmaint.ids hmaint.rows fun _ _ _ ↦ hmode
  | advanced r _ hr hmoves hruns => exact h.advance hr hmoves hruns
  | reported r _ hr hmoves hruns => exact h.advance hr hmoves hruns
  | rollback r acknowledged ha hr hacc =>
    -- The request looks for no other run: the condition on the step does.
    have hrest := hrollback r acknowledged _ ha hacc
    have hmoves := requestFailoverRollback_moves hacc
    have hruns := congrArg HACluster.maintenanceRuns hmoves.frame
    exact .alone hmoves.rows (fun j hj _ ↦ hrest.failover j hj) hruns hrest.maintenance
  | created source target confirmation acknowledged failback answer ha hconf hrdy _ htgt hc' =>
    have hrest := hstart target confirmation acknowledged failback answer ha hconf hrdy htgt
    rw [hc']
    refine .create ⟨fun r hr ↦ ?_, fun m hm hkind ↦ ?_⟩
    · rw [captured_failoverRuns] at hr
      rw [HACluster.failoverRun, captured_failoverRuns]
      exact hrest.failover r hr
    · rw [captured_maintenanceRuns] at hm
      rw [HACluster.maintenanceRun, captured_maintenanceRuns] at hkind ⊢
      exact hrest.maintenance m hm hkind
  | maintenance m hmoves => exact h.maintain hsole hmoves
  | maintenanceStarted hstart => exact .start hstart

variable {s : Sys}

/-- Nothing has run on a new cluster. -/
theorem ExclusionFrom.initial {kinds : MaintenanceOperation → Prop} (hinit : Initial s) :
    ExclusionFrom kinds s.cluster := by
  refine ⟨?_, ?_, ?_⟩
  · intro r hr
    rw [hinit.failoverRuns] at hr
    exact absurd hr List.not_mem_nil
  · intro r hr
    rw [hinit.failoverRuns] at hr
    exact absurd hr List.not_mem_nil
  · intro m hm
    rw [hinit.maintenanceRuns] at hm
    exact absurd hm List.not_mem_nil

theorem exclusionInvariant_iff {c : HACluster} :
    ExclusionInvariant c ↔ ExclusionFrom (fun _ ↦ True) c := by
  constructor
  · intro h
    exact ⟨h.oneFailover, fun r hr m hm hlive _ ↦ h.notBoth r hr m hm hlive,
      fun m hm hlive _ ↦ h.mode m hm hlive⟩
  · intro h
    exact ⟨⟨h.oneFailover, fun r hr m hm hlive ↦ h.notBoth r hr m hm hlive trivial⟩,
      fun m hm hlive ↦ h.mode m hm hlive trivial⟩

/-- **One step.** -/
theorem ExclusionInvariant.step {e : Event} (h : ExclusionInvariant s.cluster)
    (hsole : SoleMaintenance s.cluster) (hok : KeepsExclusion s e) :
    ExclusionInvariant (step s e).cluster := by
  rw [exclusionInvariant_iff] at h ⊢
  refine h.step hsole (fun r acknowledged c' ha hacc ↦ ?_)
    fun target confirmation acknowledged failback answer ha hconf hrdy htgt ↦ ?_
  · unfold KeepsExclusion at hok
    rw [ha] at hok
    obtain ⟨hacknowledged, hstat⟩ := requestFailoverRollback_guard hacc
    obtain ⟨hfail, hmaint⟩ := hok hacknowledged hstat
    exact ⟨fun r hr ↦ isActive_of_activeFailover_none hfail hr,
      fun m hm _ ↦ isActive_of_activeMaintenance_none hmaint hm⟩
  · -- Readiness looks for failover runs, the condition for maintenance.
    unfold KeepsExclusion at hok
    rw [ha] at hok
    have hmaint := hok hconf hrdy htgt
    have hfail := (readyToStart_of_blockers hrdy).noFailover
    exact ⟨fun r hr ↦ isActive_of_activeFailover_none hfail hr,
      fun m hm _ ↦ isActive_of_activeMaintenance_none hmaint hm⟩

/-- **Every run.** If no step of a run accepts a rollback beside an active run or starts a failover
beside active maintenance, every state of the run is exclusive. -/
theorem exclusive_of_keepsExclusion {s : Sys} (hs : haMachine.ReachableBy KeepsExclusion s) :
    Exclusive s.cluster := by
  have hinv : ExclusionInvariant s.cluster := by
    induction hs with
    | start hinit => exact exclusionInvariant_iff.2 (.initial hinit)
    | next e hs he ih => exact ih.step (soleMaintenance hs) he
  exact hinv.toExclusive

/-- The sample handover keeps the condition, so it is exclusive. -/
theorem exclusive_sample : Exclusive (haMachine.run sampleSys samplePromotingRun).cluster := by
  refine exclusive_of_keepsExclusion (.run (.start sampleSys_initial) ?_)
  refine ⟨trivial, trivial, trivial, trivial, fun _ _ _ ↦ ?_, trivial, trivial, trivial, trivial,
    trivial, trivial, trivial⟩
  decide +kernel

/-- A reconciliation is started, then a failover beside it. -/
def besideReconciliationRun : List Event :=
  sampleStagedRun ++ [⟨0, .startReconciliation⟩, sampleStart]

/-- A failover runs beside an active reconciliation. -/
theorem failover_beside_reconciliation :
    haMachine.Reachable (haMachine.run sampleSys besideReconciliationRun) ∧
    activeFailover (haMachine.run sampleSys besideReconciliationRun).cluster = some 1 ∧
    activeMaintenance (haMachine.run sampleSys besideReconciliationRun).cluster = some 1 ∧
    ¬ Exclusive (haMachine.run sampleSys besideReconciliationRun).cluster := by
  refine ⟨sampleSys_reachable _, by decide +kernel, by decide +kernel, fun h ↦ ?_⟩
  have hidle := h.notBoth 1 (by decide +kernel) 1 (by decide +kernel) (by decide +kernel)
  exact absurd hidle (by decide +kernel)

end Kaya.HA
