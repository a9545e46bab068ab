import Kaya.HA.SystemSteps

/-!
# Invariants of every reachable state

What holds whatever the operators, the agents and the environment do.

* The two nodes of a failover run are the two nodes of the cluster (`RunNodes`), and generations are
  positive (`roleGeneration_pos`, `runGeneration_pos`).
* At most one maintenance run is active (`soleMaintenance`) — every way to start one looks for
  another — and a reinitialisation has chosen one of two existing nodes (`ReinitialisationNodes`).

Laws about the rows of failover runs are proved by one rule, `failoverRun_invariant`: a new row has
the property, and no move loses it. Laws about the rows of maintenance runs that only read what a
run never changes are proved by `maintenanceRun_invariant`.
-/

namespace Kaya.HA

open List

/-! ### Two rules -/

section Rules

variable {ok : Sys → Event → Prop} {s : Sys}

/-- The rows of the failover runs after a step, given what a new row satisfies. -/
theorem failoverRun_step {e : Event} {P : HAFailoverRun → Prop}
    (hrows : ∀ r ∈ s.cluster.failoverRuns.ids, P (s.cluster.failoverRun r))
    (hmove : ∀ run run', P run → FailoverMove s.cluster e.now run run' → P run')
    (hnew : ∀ source target answer run, (failoverReadiness s.cluster e.now).blockers = [] →
      (failoverReadiness s.cluster e.now).source = some source →
      (failoverReadiness s.cluster e.now).target = some target →
      NewRun (captured s.cluster (failoverReadiness s.cluster e.now).dhcpManaged answer e.now)
        source target (failoverReadiness s.cluster e.now).dhcpManaged e.now run → P run) :
    ∀ r ∈ (step s e).cluster.failoverRuns.ids, P ((step s e).cluster.failoverRun r) := by
  have hsame (h : (step s e).cluster.failoverRuns = s.cluster.failoverRuns) :
      ∀ r ∈ (step s e).cluster.failoverRuns.ids, P ((step s e).cluster.failoverRun r) := by
    unfold HACluster.failoverRun
    rw [h]
    exact hrows
  have hrun {run run' : HAFailoverRun}
      (h : Relation.ReflTransGen (FailoverMove s.cluster e.now) run run') (hp : P run) : P run' := by
    induction h with
    | refl => exact hp
    | tail _ hlast ih => exact hmove _ _ ih hlast
  -- One run moves, and every other row is the row it was.
  have hmoved {r : RunId} (h : RowMoves s.cluster e.now r (step s e).cluster) :
      ∀ j ∈ (step s e).cluster.failoverRuns.ids, P ((step s e).cluster.failoverRun j) := by
    intro j hj
    rw [h.ids] at hj
    by_cases hjr : j = r
    · subst hjr
      exact hrun h.moves (hrows j hj)
    · rw [h.others j hjr]
      exact hrows j hj
  cases step_kind s e with
  | idle h => exact hsame h
  | maintenance _ h => exact hsame h.failover
  | maintenanceStarted h => exact hsame h.failover
  | advanced r _ _ h => exact hmoved h
  | reported r _ _ h => exact hmoved h
  | rollback r _ _ _ hok => exact hmoved (requestFailoverRollback_moves hok).rows
  | created source target _ _ _ answer _ _ hrdy hsrc htgt hc' =>
    intro j hj
    rcases created_row hc' hj with ⟨hold, hrow⟩ | hrow
    · rw [hrow]
      exact hrows j hold
    · exact hnew source target answer _ hrdy hsrc htgt hrow

/-- **Rows of failover runs.** A property of rows that new rows have and moves keep holds of every
run in every reachable state. -/
theorem failoverRun_invariant {P : HACluster → HAFailoverRun → Prop}
    (hstable : ∀ s e run, P s.cluster run → P (step s e).cluster run)
    (hmove : ∀ c now run run', P c run → FailoverMove c now run run' → P c run')
    (hnew : ∀ s e source target answer run, haMachine.ReachableBy ok s → ok s e →
      (failoverReadiness s.cluster e.now).blockers = [] →
      (failoverReadiness s.cluster e.now).source = some source →
      (failoverReadiness s.cluster e.now).target = some target →
      NewRun (captured s.cluster (failoverReadiness s.cluster e.now).dhcpManaged answer e.now)
        source target (failoverReadiness s.cluster e.now).dhcpManaged e.now run →
      P s.cluster run) (hs : haMachine.ReachableBy ok s) :
    ∀ r ∈ s.cluster.failoverRuns.ids, P s.cluster (s.cluster.failoverRun r) := by
  induction hs with
  | start hinit =>
    intro r hr
    rw [hinit.failoverRuns] at hr
    exact absurd hr not_mem_nil
  | @next s e hs he ih =>
    intro r hr
    refine hstable s e _ (failoverRun_step ih (fun _ _ ↦ hmove _ _ _ _) ?_ r hr)
    intro source target answer run hrdy hsrc htgt hrow
    exact hnew s e source target answer run hs he hrdy hsrc htgt hrow

/-- **Rows of maintenance runs.** A property that a run never loses by evolving and that every new
run has holds of every run in every reachable state. -/
theorem maintenanceRun_invariant {P : HACluster → HAMaintenanceRun → Prop}
    (hstable : ∀ s e run, P s.cluster run → P (step s e).cluster run)
    (hevolve : ∀ c run run', P c run → RunEvolves run run' → P c run')
    (hnew : ∀ c c' now run, NewMaintenance c c' now run → P c run)
    (hs : haMachine.ReachableBy ok s) :
    ∀ m ∈ s.cluster.maintenanceRuns.ids, P s.cluster (s.cluster.maintenanceRun m) := by
  induction hs with
  | start hinit =>
    intro m hm
    rw [hinit.maintenanceRuns] at hm
    exact absurd hm not_mem_nil
  | @next s e hs he ih =>
    intro m hm
    refine hstable s e _ ?_
    rcases maintenance_step s e with ⟨hids, hrows⟩ | hstart
    · rw [haMachine_step, hids] at hm
      exact hevolve _ _ _ (ih m hm) (hrows m hm)
    · rw [haMachine_step, hstart.ids, mem_append, mem_singleton] at hm
      rcases hm with hm | rfl
      · exact hevolve _ _ _ (ih m hm) (hstart.old m hm)
      · exact hnew _ _ _ _ hstart.new

end Rules

/-! ### The nodes and generations of a failover run -/

/-- The source and the target of a run are the two nodes of the cluster. -/
structure RunNodes (c : HACluster) (run : HAFailoverRun) : Prop where
  two : c.nodes.ids.length = 2
  source : run.sourceNodeId ∈ c.nodes.ids
  target : run.targetNodeId ∈ c.nodes.ids
  ne : run.targetNodeId ≠ run.sourceNodeId

/-- Two different elements of a list of two are all of it. -/
theorem eq_or_eq_of_length_two {l : List ℕ} {a b n : ℕ} (hl : l.length = 2) (ha : a ∈ l)
    (hb : b ∈ l) (hne : b ≠ a) (hn : n ∈ l) : n = a ∨ n = b := by
  obtain ⟨x, y, rfl⟩ := length_eq_two.1 hl
  simp only [mem_cons, not_mem_nil, or_false] at ha hb hn
  omega

/-- The node a run ends with and the node it leaves are all nodes. -/
theorem RunNodes.cover {c : HACluster} {run : HAFailoverRun} (h : RunNodes c run) {n : NodeId}
    (hn : n ∈ c.nodes.ids) : n = run.sourceNodeId ∨ n = run.targetNodeId :=
  eq_or_eq_of_length_two h.two h.source h.target h.ne hn

section Reachable

variable {ok : Sys → Event → Prop} {s : Sys} {r : RunId} {c : HACluster}

theorem runNodes (hs : haMachine.ReachableBy ok s)
    (hr : r ∈ s.cluster.failoverRuns.ids) : RunNodes s.cluster (s.cluster.failoverRun r) := by
  refine failoverRun_invariant (P := RunNodes) ?_ ?_ ?_ hs r hr
  · intro s e run h
    have hids := step_nodeIds s e
    exact ⟨by rw [hids]; exact h.two, by rw [hids]; exact h.source, by rw [hids]; exact h.target,
      h.ne⟩
  · intro c now run run' h hmove
    obtain ⟨hsrc, htgt, -, -⟩ := hmove.identity
    exact ⟨h.two, hsrc ▸ h.source, htgt ▸ h.target, by rw [hsrc, htgt]; exact h.ne⟩
  · intro s e source target answer run _ _ hrdy hsrc htgt hnew
    obtain ⟨hmem, hmem', hne, -⟩ := readiness_nodes hsrc htgt
    refine ⟨(readyToStart_of_blockers hrdy).twoNodes, ?_, ?_, ?_⟩
    · rw [hnew.source]
      exact hmem
    · rw [hnew.target]
      exact hmem'
    · rw [hnew.source, hnew.target]
      exact hne

/-- The role generation of the cluster starts at one. -/
theorem roleGeneration_pos (hs : haMachine.ReachableBy ok s) : 1 ≤ s.cluster.roleGeneration := by
  refine hs.invariant (P := fun s ↦ 1 ≤ s.cluster.roleGeneration) ?_ ?_
  · intro s hinit
    exact hinit.roleGeneration
  · intro s e h _
    exact h.trans (step_roleGeneration s e)

theorem FailoverMove.generation_pos {now : DateTime} {run run' : HAFailoverRun}
    (h : FailoverMove c now run run') (hrun : 1 ≤ run.roleGeneration) :
    1 ≤ run'.roleGeneration := by
  cases h <;> first
    | exact hrun
    | dsimp only; omega

theorem runGeneration_pos (hs : haMachine.ReachableBy ok s)
    (hr : r ∈ s.cluster.failoverRuns.ids) : 1 ≤ (s.cluster.failoverRun r).roleGeneration := by
  refine failoverRun_invariant (P := fun _ run ↦ 1 ≤ run.roleGeneration) ?_ ?_ ?_ hs r hr
  · exact fun _ _ _ h ↦ h
  · exact fun _ _ _ _ h hmove ↦ hmove.generation_pos h
  · intro s e source target answer run _ _ _ _ _ hnew
    rw [hnew.roleGeneration]
    exact Nat.le_add_left 1 _

/-! ### Maintenance runs -/

/-- A reinitialisation has chosen one of two existing nodes. -/
def ReinitialisationNodes (c : HACluster) (run : HAMaintenanceRun) : Prop :=
  run.operation = .reinitialise → c.nodes.ids.length = 2 ∧
    ∃ target ∈ c.nodes.ids, run.desiredActiveNodeId = some target

theorem reinitialisationNodes (hs : haMachine.ReachableBy ok s) {m : RunId}
    (hm : m ∈ s.cluster.maintenanceRuns.ids) :
    ReinitialisationNodes s.cluster (s.cluster.maintenanceRun m) := by
  refine maintenanceRun_invariant (P := ReinitialisationNodes) ?_ ?_ ?_ hs m hm
  · intro s e run h hoper
    rw [step_nodeIds]
    exact h hoper
  · intro c run run' h hevolves hoper
    rw [hevolves.desiredActive]
    exact h (hevolves.operation ▸ hoper)
  · intro c c' now run hnew hoper
    exact (hnew.reinitialise hoper).2.2

/-- At most one maintenance run is active. -/
def SoleMaintenance (c : HACluster) : Prop :=
  ∀ m ∈ c.maintenanceRuns.ids, ∀ m' ∈ c.maintenanceRuns.ids,
    (c.maintenanceRun m).status.isActive = true → (c.maintenanceRun m').status.isActive = true →
      m = m'

/-- Runs that only evolve stay alone. -/
theorem SoleMaintenance.evolves {c' : HACluster} (h : SoleMaintenance c)
    (hids : c'.maintenanceRuns.ids = c.maintenanceRuns.ids)
    (hrows : ∀ m ∈ c.maintenanceRuns.ids, RunEvolves (c.maintenanceRun m) (c'.maintenanceRun m)) :
    SoleMaintenance c' := by
  intro m hm m' hm' hlive hlive'
  rw [hids] at hm hm'
  refine h m hm m' hm' ?_ ?_
  · rw [← (hrows m hm).status hlive]
    exact hlive
  · rw [← (hrows m' hm').status hlive']
    exact hlive'

theorem soleMaintenance (hs : haMachine.ReachableBy ok s) : SoleMaintenance s.cluster := by
  refine hs.invariant (P := fun s ↦ SoleMaintenance s.cluster) ?_ ?_
  · intro s hinit m hm
    rw [hinit.maintenanceRuns] at hm
    exact absurd hm not_mem_nil
  · intro s e h _
    rcases maintenance_step s e with ⟨hids, hrows⟩ | hstart
    · exact h.evolves hids hrows
    · have hidle (m : RunId) (hm : m ∈ s.cluster.maintenanceRuns.ids) :
          ((step s e).cluster.maintenanceRun m).status.isActive = false := by
        by_contra hlive
        rw [Bool.not_eq_false] at hlive
        have hbef := Table.newest?_eq_none_iff.1 hstart.noMaintenance m hm
        have hsame := (hstart.old m hm).status hlive
        rw [hsame] at hlive
        exact absurd (hlive.symm.trans hbef) (by decide)
      intro m hm m' hm' hlive hlive'
      rw [haMachine_step, hstart.ids, mem_append, mem_singleton] at hm hm'
      rcases hm with hm | rfl
      · exact absurd ((hidle m hm).symm.trans hlive) (by decide)
      rcases hm' with hm' | rfl
      · exact absurd ((hidle m' hm').symm.trans hlive') (by decide)
      · rfl

end Reachable

end Kaya.HA
