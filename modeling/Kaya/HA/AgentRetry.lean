import Kaya.HA.AgentLoop
import Kaya.HA.FailoverCompletion
import Kaya.HA.ReinitialisationSafety

/-!
# A result that can never be delivered

The identifier of a DHCP action names the run, the action and the node, and **not** the generation.
The agent compares identifiers only: while a result waits under one, an action that the server offers
under it again is not executed. The server compares generations as well, so it refuses a waiting
result of an older generation. Neither side gives way: the agent keeps sending what the server keeps
refusing (`agent_wedges`).

Behind "keeps refusing" lies that generations never fall: those of the cluster, and those of a
failover run, which never exceed the cluster's (`offerGeneration_step`).
-/

namespace Kaya.HA

open List

/-! ### The generation of a run -/

/-- A run whose generation is one the cluster has had moves forward within this bound. -/
structure GenerationMoves (c c' : HACluster) (r : RunId) : Prop where
  cluster : c.roleGeneration ≤ c'.roleGeneration
  run : (c.failoverRun r).roleGeneration ≤ c.roleGeneration →
    (c.failoverRun r).roleGeneration ≤ (c'.failoverRun r).roleGeneration ∧
      (c'.failoverRun r).roleGeneration ≤ c'.roleGeneration

namespace GenerationMoves

variable {c c' c'' : HACluster} {r : RunId} {now : DateTime} {rolledBack : Bool}
  {f : HAFailoverRun → HAFailoverRun}

theorem refl : GenerationMoves c c r := ⟨le_rfl, fun h ↦ ⟨le_rfl, h⟩⟩

theorem trans (h : GenerationMoves c c' r) (h' : GenerationMoves c' c'' r) :
    GenerationMoves c c'' r where
  cluster := h.cluster.trans h'.cluster
  run hrun := by
    obtain ⟨hle, hbound⟩ := h.run hrun
    obtain ⟨hle', hbound'⟩ := h'.run hbound
    exact ⟨hle.trans hle', hbound'⟩

/-- The row keeps its generation. -/
theorem of_row (hruns : c'.failoverRuns = c.failoverRuns.modify r f)
    (hclus : c'.roleGeneration = c.roleGeneration)
    (hf : ∀ run, (f run).roleGeneration = run.roleGeneration) : GenerationMoves c c' r where
  cluster := hclus.ge
  run hrun := by
    rw [failoverRun_of_modify hruns, hf, hclus]
    exact ⟨le_rfl, hrun⟩

/-- The row takes the new generation of the cluster. -/
theorem of_bump (hruns : c'.failoverRuns = c.failoverRuns.modify r f)
    (hclus : c'.roleGeneration = c.roleGeneration + 1)
    (hf : ∀ run, (f run).roleGeneration = c.roleGeneration + 1) : GenerationMoves c c' r where
  cluster := by omega
  run hrun := by
    rw [failoverRun_of_modify hruns, hf, hclus]
    omega

theorem safeFailure (message : String) : GenerationMoves c (safeFailure c r message) r :=
  .of_row (safeFailure_failoverRuns c r message) rfl fun _ ↦ rfl

theorem setFailoverPhase (phase : FailoverPhase) :
    GenerationMoves c (setFailoverPhase c r phase) r :=
  .of_row (setFailoverPhase_failoverRuns c r phase) rfl fun _ ↦ rfl

theorem complete : GenerationMoves c (complete c r rolledBack) r :=
  .of_row (complete_failoverRuns c r rolledBack) rfl fun _ ↦ rfl

theorem bump (hf : ∀ run, (f run).roleGeneration = run.roleGeneration) :
    GenerationMoves c ((bumpRoleGeneration c r).modifyFailover r f) r :=
  .of_bump (bump_failoverRuns c r f) rfl fun _ ↦ hf _

theorem verifyRelease : GenerationMoves c (verifyRelease c r rolledBack now) r := by
  unfold HA.verifyRelease
  dsimp only
  split
  · exact .of_row (moveVip_failoverRuns c r now _ _) rfl fun _ ↦ rfl
  split
  · rcases hretry : queueSafeDhcpReleaseRetry c r rolledBack now with - | c'
    · exact .safeFailure _
    · rw [queueSafeDhcpReleaseRetry_eq_some hretry]
      exact .bump fun _ ↦ rfl
  · exact .refl

theorem awaitVip : GenerationMoves c (awaitVip c r rolledBack now) r := by
  unfold HA.awaitVip
  dsimp only
  split
  · exact .setFailoverPhase _
  split
  · split
    · exact .of_bump (restoreDhcp_failoverRuns c r _) rfl fun _ ↦ rfl
    · exact .safeFailure _
  · exact .refl

theorem switchPhase : GenerationMoves c (switchPhase c r now) r := by
  unfold HA.switchPhase
  dsimp only
  split
  · split
    · exact .setFailoverPhase _
    · exact .refl
  · exact .verifyRelease
  · exact .verifyRelease
  · split
    · exact .setFailoverPhase _
    · exact .refl
  · exact .awaitVip
  · exact .awaitVip
  · exact .refl

theorem verifyFinal : GenerationMoves c (verifyFinal c r rolledBack now) r := by
  unfold HA.verifyFinal
  dsimp only
  split
  · exact .complete
  split
  · rcases hrepair : queueSafeDhcpRepair c r rolledBack now with - | c'
    · exact .safeFailure _
    · rw [(queueSafeDhcpRepair_eq_some hrepair).2]
      exact .bump fun _ ↦ rfl
  · exact .refl

theorem advanceRun : GenerationMoves c (advanceRun c r now) r := by
  unfold HA.advanceRun
  dsimp only
  split
  · exact .of_row (misclassified_failoverRuns c r) rfl fun _ ↦ rfl
  split
  · exact .complete
  split
  · exact .complete
  · refine (@switchPhase c r now).trans ?_
    unfold verifyPhase
    split
    · exact .verifyFinal
    · exact .verifyFinal
    · exact .refl

theorem requestFailoverRollback {acknowledged : Bool}
    (h : requestFailoverRollback c r acknowledged now = .ok c') : GenerationMoves c c' r := by
  obtain ⟨-, ⟨-, -, rfl⟩ | ⟨-, reason, rfl⟩ | ⟨reason, rfl⟩⟩ := requestFailoverRollback_eq_ok h
  · exact .of_bump (rollbackCompleted_failoverRuns c r) rfl fun _ ↦ rfl
  · exact .of_bump (rollbackNoted_failoverRuns c r _ reason) rfl fun _ ↦ rfl
  · exact .of_bump (rollbackNoted_failoverRuns c r _ reason) rfl fun _ ↦ rfl

end GenerationMoves

/-- The generation of every run is one the cluster has had. -/
def BoundedGenerations (c : HACluster) : Prop :=
  ∀ r ∈ c.failoverRuns.ids, (c.failoverRun r).roleGeneration ≤ c.roleGeneration

/-- Every run keeps its place, and its generation rises within the bound. -/
structure GenerationsRise (c c' : HACluster) : Prop where
  bounded : BoundedGenerations c'
  runs : ∀ r ∈ c.failoverRuns.ids, r ∈ c'.failoverRuns.ids ∧
    (c.failoverRun r).roleGeneration ≤ (c'.failoverRun r).roleGeneration

section Generations

variable {s : Sys} {e : Event} {c c' : HACluster} {r : RunId} {now : DateTime}

theorem GenerationsRise.of_runs (h : BoundedGenerations c)
    (hruns : c'.failoverRuns = c.failoverRuns) (hclus : c.roleGeneration ≤ c'.roleGeneration) :
    GenerationsRise c c' := by
  unfold BoundedGenerations HACluster.failoverRun at h
  refine ⟨fun r hr ↦ ?_, fun r hr ↦ ?_⟩
  · rw [hruns] at hr
    rw [HACluster.failoverRun, hruns]
    exact (h r hr).trans hclus
  · rw [HACluster.failoverRun, HACluster.failoverRun, hruns]
    exact ⟨hr, le_rfl⟩

theorem GenerationsRise.trans {c'' : HACluster} (h : GenerationsRise c c')
    (h' : GenerationsRise c' c'') : GenerationsRise c c'' := by
  refine ⟨h'.bounded, fun r hr ↦ ?_⟩
  obtain ⟨hr', hle⟩ := h.runs r hr
  obtain ⟨hr'', hle'⟩ := h'.runs r hr'
  exact ⟨hr'', hle.trans hle'⟩

theorem GenerationsRise.of_moves (h : BoundedGenerations c) (hmove : GenerationMoves c c' r)
    (hids : c'.failoverRuns.ids = c.failoverRuns.ids)
    (hothers : ∀ j, j ≠ r → c'.failoverRun j = c.failoverRun j) : GenerationsRise c c' := by
  have hboth (j : RunId) (hj : j ∈ c.failoverRuns.ids) :
      (c.failoverRun j).roleGeneration ≤ (c'.failoverRun j).roleGeneration ∧
        (c'.failoverRun j).roleGeneration ≤ c'.roleGeneration := by
    by_cases hjr : j = r
    · subst hjr
      exact hmove.run (h j hj)
    · rw [hothers j hjr]
      exact ⟨le_rfl, (h j hj).trans hmove.cluster⟩
  refine ⟨fun j hj ↦ ?_, fun j hj ↦ ?_⟩
  · rw [hids] at hj
    exact (hboth j hj).2
  · rw [hids]
    exact ⟨hj, (hboth j hj).1⟩

theorem GenerationsRise.created {source target : NodeId} {managed : Bool}
    (h : BoundedGenerations c) :
    GenerationsRise c (createFailoverRun c source target managed now).1 := by
  have hclus : (createFailoverRun c source target managed now).1.roleGeneration =
      c.roleGeneration + 1 := by
    unfold createFailoverRun
    dsimp only
    split
    · rfl
    · rfl
  have hnew := createFailoverRun_new c now source target managed
  refine ⟨fun j hj ↦ ?_, fun j hj ↦ ?_⟩
  · rw [createFailoverRun_ids, mem_append, mem_singleton] at hj
    rcases hj with hj | rfl
    · rw [createFailoverRun_old c now source target managed hj, hclus]
      exact (h j hj).trans (Nat.le_succ _)
    · rw [hnew.roleGeneration, hclus]
  · rw [createFailoverRun_ids, createFailoverRun_old c now source target managed hj]
    exact ⟨mem_append_left _ hj, le_rfl⟩

theorem captured_steady {managed : Bool} {answer : LeaseAnswer} :
    Steady c (captured c managed answer now) := by
  unfold captured
  split
  · exact .persist _
  · exact .refl

/-- **One step.** Generations rise within their bound. -/
theorem generations_step (h : BoundedGenerations s.cluster) :
    GenerationsRise s.cluster (step s e).cluster := by
  have hclus := step_roleGeneration s e
  cases step_kind s e with
  | idle hruns => exact .of_runs h hruns hclus
  | advanced r hact hr hmoves =>
    have hstep : (step s e).cluster = advanceRun s.cluster r e.now := by
      rw [step_cluster, hact]
      show advanceFailover s.cluster e.now = _
      rw [advanceFailover, hr]
    rw [hstep] at hmoves ⊢
    exact .of_moves h .advanceRun hmoves.ids hmoves.others
  | reported r hrow hr hmoves =>
    obtain ⟨phase, -, hrow⟩ := hrow
    refine .of_moves h ⟨hclus, fun hbound ↦ ?_⟩ hmoves.ids hmoves.others
    rw [hrow]
    exact ⟨le_rfl, hbound.trans hclus⟩
  | rollback r acknowledged hact hr hok =>
    have hmoves := requestFailoverRollback_moves hok
    exact .of_moves h (.requestFailoverRollback hok) hmoves.ids hmoves.others
  | created source target _ _ _ answer _ _ _ _ _ hc' =>
    have hcapt : GenerationsRise s.cluster
        (captured s.cluster (failoverReadiness s.cluster e.now).dhcpManaged answer e.now) :=
      .of_runs h (captured_failoverRuns _ _ _ _) captured_steady.generation
    rw [hc']
    exact hcapt.trans (.created hcapt.bounded)
  | maintenance m hmoves => exact .of_runs h hmoves.failover hclus
  | maintenanceStarted hstart => exact .of_runs h hstart.failover hclus

theorem boundedGenerations (hs : haMachine.Reachable s) : BoundedGenerations s.cluster := by
  refine hs.invariant (P := fun s ↦ BoundedGenerations s.cluster) ?_ fun _ _ h ↦
    (generations_step h).bounded
  intro s hinit r hr
  rw [hinit.failoverRuns] at hr
  cases hr

end Generations

/-! ### What the server refuses -/

/-- The generation a result has to carry under an identifier. -/
def offerGeneration (c : HACluster) : ActionId → ℕ
  | .failover r _ _ => (c.failoverRun r).roleGeneration
  | .maintenance _ _ _ => c.roleGeneration
  | .lease _ generation _ => generation
  | .keepalived generation _ => generation
  | .resolver _ generation => generation

section Server

variable {s : Sys} {e : Event} {c : HACluster} {n : NodeId} {now : DateTime}
  {result : HAAgentActionResult} {a : DhcpAction}

theorem desiredMaintenanceAction_generation (h : desiredMaintenanceAction c n now = some a) :
    a.generation = offerGeneration c a.actionId := by
  obtain ⟨m, -, -, hact, -⟩ := desiredMaintenanceAction_eq_some h
  rw [hact]
  rfl

theorem desiredFailoverAction_generation (h : desiredFailoverAction c n now = some a) :
    a.generation = offerGeneration c a.actionId := by
  obtain ⟨r, -, -, hact, -⟩ := desiredFailoverAction_eq_some h
  rw [hact]
  rfl

theorem desiredKeepalivedAction_generation {action : KeepalivedAction}
    (h : desiredKeepalivedAction c n = .ok (some action)) :
    action.generation = offerGeneration c action.actionId := by
  obtain ⟨-, -, hgeneration, -, hid, -⟩ := desiredKeepalivedAction_eq_ok h
  rw [hgeneration, hid]
  rfl

theorem desiredLeaseAction_generation {action : LeaseAction}
    (h : desiredLeaseAction c n = some action) :
    action.generation = offerGeneration c action.actionId := by
  unfold desiredLeaseAction at h
  split at h
  · cases h
  split at h
  · cases h
  split at h
  · cases h
  split at h
  · cases h
  cases h
  rfl

/-- Whatever a result is compared with carries the generation of its identifier. -/
theorem expectedAction_generation {actionType : ActionType} {expected : ExpectedAction}
    (h : expectedAction c n actionType now = .ok (some expected)) :
    expected.generation = offerGeneration c expected.actionId := by
  have hfail (h : (desiredFailoverAction c n now).map (·.expected) = some expected) :
      expected.generation = offerGeneration c expected.actionId := by
    obtain ⟨a, ha, rfl⟩ := Option.map_eq_some_iff.1 h
    exact desiredFailoverAction_generation ha
  unfold expectedAction at h
  split at h
  · unfold desiredResolverAction at h
    dsimp only at h
    split at h
    · cases h
    · cases h
      rfl
  · rcases hkeep : desiredKeepalivedAction c n with message | - | action
    · rw [hkeep] at h
      cases h
    · rw [hkeep] at h
      cases h
    · rw [hkeep] at h
      cases h
      exact desiredKeepalivedAction_generation hkeep
  · obtain ⟨action, hact, rfl⟩ := Option.map_eq_some_iff.1 (Except.ok.inj h)
    exact desiredLeaseAction_generation hact
  · split at h
    · rename_i m hm
      split at h
      · cases h
        exact desiredMaintenanceAction_generation hm
      · exact hfail (Except.ok.inj h)
    · exact hfail (Except.ok.inj h)

/-- The result can no longer be taken: what is stored under its identifier is another node's, or
nothing is and its generation has passed. -/
structure Obsolete (c : HACluster) (n : NodeId) (result : HAAgentActionResult) : Prop where
  stored : ∀ row, storedResult c result.actionId = some row → row.nodeId ≠ n
  older : storedResult c result.actionId = none →
    result.generation < offerGeneration c result.actionId
  run : ∀ r action node, result.actionId = .failover r action node → r ∈ c.failoverRuns.ids

/-- An obsolete result is refused. -/
theorem Obsolete.refused (h : Obsolete c n result) :
    (recordActionResult c n result now).isOk = false := by
  unfold recordActionResult
  rcases hsto : storedResult c result.actionId with - | row
  · rcases haccept : acceptActionResult c n result now with message | c'
    · rfl
    · obtain ⟨expected, hexp, hid, hgeneration, -⟩ :=
        (acceptActionResult_eq_ok hsto haccept).offered
      have hoffer := expectedAction_generation hexp
      have hlt := h.older hsto
      rw [hid] at hlt
      omega
  · dsimp only
    rw [if_pos (h.stored row hsto)]
    rfl

theorem offerGeneration_step (hbounded : BoundedGenerations s.cluster) {id : ActionId}
    (hrun : ∀ r action node, id = .failover r action node → r ∈ s.cluster.failoverRuns.ids) :
    offerGeneration s.cluster id ≤ offerGeneration (step s e).cluster id := by
  cases id with
  | failover r action node =>
    exact ((generations_step hbounded).runs r (hrun r action node rfl)).2
  | maintenance => exact step_roleGeneration s e
  | lease => exact le_rfl
  | keepalived => exact le_rfl
  | resolver => exact le_rfl

/-- A stored result stays. -/
theorem storedResult_step {id : ActionId} {row : HAAgentActionResultRow}
    (h : storedResult s.cluster id = some row) : storedResult (step s e).cluster id = some row := by
  unfold storedResult at h ⊢
  rcases step_steady s e with hsteady | ⟨k, other, -, -, hacc⟩
  · rw [hsteady.results]
    exact h
  · obtain ⟨c₁, happly, hstore⟩ := hacc.applied
    rw [hstore, storeResult, (Steady.applyActionResult happly).results, find?_append, h]
    rfl

/-- **One step.** An obsolete result stays obsolete, unless another one is stored in its place. -/
theorem Obsolete.step (hbounded : BoundedGenerations s.cluster) (h : Obsolete s.cluster n result)
    (hothers : ∀ k other, e.action = .actionResult k other →
      other.actionId = result.actionId → other = result) :
    Obsolete (step s e).cluster n result := by
  have hrise := @generations_step s e hbounded
  have hoffer := @offerGeneration_step s e hbounded result.actionId h.run
  have hnone (hbef : storedResult s.cluster result.actionId = none) :
      storedResult (HA.step s e).cluster result.actionId = none := by
    unfold storedResult at hbef ⊢
    rcases step_steady s e with hsteady | ⟨k, other, hact, -, hacc⟩
    · rw [hsteady.results]
      exact hbef
    · obtain ⟨c₁, happly, hstore⟩ := hacc.applied
      rw [hstore, storeResult, (Steady.applyActionResult happly).results, find?_append,
        hbef, Option.none_or, find?_eq_none]
      intro row hrow
      rw [mem_singleton.1 hrow, decide_eq_true_eq]
      intro hid
      -- what is stored under the identifier would be the result itself, and it was accepted
      obtain rfl := hothers k other hact hid
      obtain ⟨expected, hexp, hid, hgeneration, -⟩ := hacc.offered
      have hlt := h.older hbef
      have hgen := expectedAction_generation hexp
      rw [hid] at hlt
      omega
  refine ⟨fun row hrow ↦ ?_, fun hafter ↦ ?_, fun r action node hid ↦
    (hrise.runs r (h.run r action node hid)).1⟩
  · rcases hbef : storedResult s.cluster result.actionId with - | old
    · rw [hnone hbef] at hrow
      cases hrow
    · rw [storedResult_step hbef] at hrow
      cases hrow
      exact h.stored _ hbef
  · rcases hbef : storedResult s.cluster result.actionId with - | old
    · exact (h.older hbef).trans_le hoffer
    · rw [storedResult_step hbef] at hafter
      cases hafter

/-- **A run.** -/
theorem Obsolete.history (hs : haMachine.Reachable s) (h : Obsolete s.cluster n result)
    {l : List (Sys × Event)} {s' : Sys} (hh : haMachine.History s l s')
    (hothers : ∀ t ∈ l, ∀ k other, t.2.action = .actionResult k other →
      other.actionId = result.actionId → other = result) :
    haMachine.Reachable s' ∧ Obsolete s'.cluster n result := by
  induction hh with
  | nil => exact ⟨hs, h⟩
  | @cons l s e _ ih =>
    obtain ⟨hs, h⟩ := ih fun t ht ↦ hothers t (mem_cons_of_mem _ ht)
    exact ⟨hs.step e, h.step (boundedGenerations hs) (hothers (s, e) mem_cons_self)⟩

end Server

/-! ### What the agent ignores -/

section Agent

variable {store : AgentStore} {desired : DesiredState} {answers : HelperAnswers} {now : DateTime}
  {result : HAAgentActionResult} {id : ActionId}

theorem reconcileKeepalived_failover :
    (reconcileKeepalived store desired answers).pending .failover = store.pending .failover := by
  unfold reconcileKeepalived
  split
  · rfl
  · dsimp only
    rw [AgentStore.setPending_pending_of_ne (by decide)]
    unfold applyDesiredKeepalived
    dsimp only
    split
    · rfl
    split
    · rfl
    split
    · rfl
    split
    · rfl
    · rfl

theorem reconcileLeaseSnapshot_failover :
    (reconcileLeaseSnapshot store desired answers).pending .failover = store.pending .failover := by
  unfold reconcileLeaseSnapshot
  split
  · rfl
  · dsimp only
    rw [AgentStore.setPending_pending_of_ne (by decide)]
    unfold stageLeaseSnapshot
    split
    · rfl
    · rfl

theorem reconcileResolver_failover :
    (reconcileResolver store desired answers).pending .failover = store.pending .failover := by
  unfold reconcileResolver
  split
  · rfl
  split
  · rfl
  · exact AgentStore.setPending_pending_of_ne (by decide)

theorem submitPending_failover {key : PendingKey} {posted : Bool}
    (h : .failover ≠ key ∨ posted = false) :
    (submitPending store key posted).pending .failover = store.pending .failover := by
  unfold submitPending
  split
  · rfl
  split <;> rename_i hposted
  · refine AgentStore.setPending_pending_of_ne (h.resolve_right ?_)
    rw [hposted]
    decide
  · rfl

/-- **The early return.** While a result waits, no action with its identifier is executed, and no
reconciliation replaces the result. -/
theorem reconcileDesired_of_waiting (hpend : store.pending .failover = some result)
    (hid : ∀ action, desired.failover = some action → action.actionId = result.actionId) :
    (reconcileDesired store desired answers now).2 = none ∧
      (reconcileDesired store desired answers now).1.pending .failover = some result := by
  have hkept : (reconcileLeaseSnapshot
      (reconcileKeepalived (adoptDesired store desired now) desired answers) desired
      answers).pending .failover = some result := by
    rw [reconcileLeaseSnapshot_failover, reconcileKeepalived_failover]
    exact hpend
  unfold reconcileDesired
  split
  · exact ⟨rfl, hpend⟩
  dsimp only
  split
  · exact ⟨rfl, reconcileResolver_failover.trans hkept⟩
  · rename_i action hact
    rw [hkept, if_pos (by simp [hid action hact])]
    exact ⟨rfl, hkept⟩

/-- The same for a whole cycle in which the server does not take the result. -/
theorem runOnce_of_waiting {cycle : AgentCycle} (hpend : store.pending .failover = some result)
    (hid : ∀ action, cycle.desired.failover = some action → action.actionId = result.actionId)
    (hposted : cycle.posted .failover = false) :
    (runOnce store cycle).2 = none ∧ (runOnce store cycle).1.pending .failover = some result := by
  obtain ⟨hexecuted, hkept⟩ :=
    @reconcileDesired_of_waiting store cycle.desired cycle.answers cycle.now result hpend hid
  refine ⟨hexecuted, ?_⟩
  unfold runOnce
  dsimp only
  rw [submitPending_failover (.inl (by decide)), submitPending_failover (.inr hposted),
    submitPending_failover (.inl (by decide)), submitPending_failover (.inl (by decide))]
  exact hkept

/-- **Any number of cycles.** -/
theorem runCycles_of_waiting (cycles : List AgentCycle)
    (hpend : store.pending .failover = some result)
    (hcycles : ∀ cycle ∈ cycles, cycle.posted .failover = false ∧
      ∀ action, cycle.desired.failover = some action → action.actionId = result.actionId) :
    (runCycles store cycles).2 = [] ∧
      (runCycles store cycles).1.pending .failover = some result := by
  induction cycles generalizing store with
  | nil => exact ⟨rfl, hpend⟩
  | cons cycle cycles ih =>
    obtain ⟨hposted, hid⟩ := hcycles cycle mem_cons_self
    obtain ⟨hexecuted, hkept⟩ := runOnce_of_waiting hpend hid hposted
    obtain ⟨hlater, hend⟩ := ih hkept fun cycle hcycle ↦
      hcycles cycle (mem_cons_of_mem _ hcycle)
    unfold runCycles
    dsimp only
    rw [hexecuted, hlater]
    exact ⟨rfl, hend⟩

end Agent

/-! ### Both sides -/

section Wedge

variable {s : Sys} {n : NodeId} {now : DateTime} {desired : DesiredState} {action : DhcpAction}
  {store : AgentStore} {result : HAAgentActionResult}

theorem desiredState_failover {c : HACluster} (h : desiredState c n now = .ok desired) :
    desired.failover = (desiredMaintenanceAction c n now <|> desiredFailoverAction c n now) := by
  unfold desiredState at h
  rcases hkeep : desiredKeepalivedAction c n with message | keepalived
  · rw [hkeep] at h
    cases h
  · rw [hkeep] at h
    cases h
    rfl

/-- An offered DHCP action carries the generation of its identifier, and its run exists. -/
theorem offer_generation (hdes : desiredState s.cluster n now = .ok desired)
    (hact : desired.failover = some action) :
    action.generation = offerGeneration s.cluster action.actionId ∧
      ∀ r type node, action.actionId = .failover r type node →
        r ∈ s.cluster.failoverRuns.ids := by
  rw [desiredState_failover hdes] at hact
  rcases hmaint : desiredMaintenanceAction s.cluster n now with - | offered
  · rw [hmaint] at hact
    have hfail : desiredFailoverAction s.cluster n now = some action := hact
    obtain ⟨r, hr, -, hrow, -⟩ := desiredFailoverAction_eq_some hfail
    refine ⟨desiredFailoverAction_generation hfail, fun k type node hid ↦ ?_⟩
    rw [hrow] at hid
    cases hid
    exact (Table.newest?_eq_some hr).1
  · rw [hmaint] at hact
    have hsame : offered = action := Option.some.inj hact
    subst hsame
    obtain ⟨m, -, -, hrow, -⟩ := desiredMaintenanceAction_eq_some hmaint
    refine ⟨desiredMaintenanceAction_generation hmaint, fun k type node hid ↦ ?_⟩
    rw [hrow] at hid
    cases hid

/-- A refused result under the identifier of a newer offer is obsolete. -/
theorem Obsolete.of_refused (hdes : desiredState s.cluster n now = .ok desired)
    (hact : desired.failover = some action) (hid : result.actionId = action.actionId)
    (hnewer : result.generation < action.generation)
    (hrefused : (recordActionResult s.cluster n result now).isOk = false) :
    Obsolete s.cluster n result := by
  obtain ⟨hgeneration, hrun⟩ := offer_generation hdes hact
  refine ⟨fun row hrow hnode ↦ ?_, fun _ ↦ ?_, fun r type node hresult ↦ ?_⟩
  · rw [recordActionResult, hrow] at hrefused
    dsimp only at hrefused
    rw [if_neg (not_not.2 hnode)] at hrefused
    cases hrefused
  · rw [hid, ← hgeneration]
    exact hnewer
  · exact hrun r type node (hid.symm.trans hresult)

/-- **The agent wedges.** Whenever the server offers a DHCP action whose generation is greater than
that of the result waiting under its identifier, and refuses this result, the agent neither executes
the action nor replaces the result — in the next reconciliation, and in any number of cycles in which
nothing else is offered. And the server refuses the result it is sent in every state it can then
reach, as long as no other result is sent under the identifier. -/
theorem agent_wedges (hs : haMachine.Reachable s)
    (hdes : desiredState s.cluster n now = .ok desired)
    (hact : desired.failover = some action) (hpend : store.pending .failover = some result)
    (hid : result.actionId = action.actionId) (hnewer : result.generation < action.generation)
    (hrefused : (recordActionResult s.cluster n result now).isOk = false) :
    (∀ answers clock, (reconcileDesired store desired answers clock).2 = none ∧
      (reconcileDesired store desired answers clock).1.pending .failover = some result) ∧
    (∀ cycles : List AgentCycle, (∀ cycle ∈ cycles, cycle.posted .failover = false ∧
        ∀ offered, cycle.desired.failover = some offered → offered.actionId = action.actionId) →
      (runCycles store cycles).2 = [] ∧
        (runCycles store cycles).1.pending .failover = some result) ∧
    ∀ l s', haMachine.History s l s' → (∀ t ∈ l, ∀ k other, t.2.action = .actionResult k other →
        other.actionId = action.actionId → other = result) →
      ∀ clock, (recordActionResult s'.cluster n result clock).isOk = false := by
  have hobsolete := Obsolete.of_refused hdes hact hid hnewer hrefused
  refine ⟨fun answers clock ↦ ?_, fun cycles hcycles ↦ ?_, fun l s' hh hothers clock ↦ ?_⟩
  · refine reconcileDesired_of_waiting hpend fun offered hoffered ↦ ?_
    obtain rfl : action = offered := Option.some.inj (hact.symm.trans hoffered)
    exact hid.symm
  · exact runCycles_of_waiting cycles hpend fun cycle hcycle ↦
      ⟨(hcycles cycle hcycle).1, fun offered hoffered ↦
        ((hcycles cycle hcycle).2 offered hoffered).trans hid.symm⟩
  · rw [← hid] at hothers
    exact (hobsolete.history hs hh hothers).2.refused

end Wedge

section Sample

/-- The cluster whose owner has lost its DHCP setting, under automatic failover. -/
def automaticDriftSys : Sys :=
  { driftSys with cluster :=
      { driftSys.cluster with automaticFailoverEnabled := true, keepalivedGeneration := 1 } }

/-- The repair of the first node has been started. -/
def repairOffered : Sys := step automaticDriftSys ⟨0, .startDhcpSelfHeal false⟩

/-- The second node takes over, which gives the repair another generation. -/
def repairReoffered : Sys :=
  haMachine.run repairOffered
    [⟨seconds 1, .heartbeat 1 (driftHeartbeat false)⟩, ⟨seconds 1, .heartbeat 2
        { sampleHeartbeat true true 0 with dhcpObservationStatus := some .fresh }⟩,
      ⟨seconds 1, .ingestEvent 2
        { eventType := "automatic_failover_completed", generation := .whole 1
          occurredAt := seconds 1 }⟩]

/-- The agent of the first node, which owns the Virtual IP. -/
def ownerStore : AgentStore := { runtime := { vipOwned := true, observedRole := some .active } }

/-- No helper can be asked. -/
def noHelpers : HelperAnswers := ⟨.error "", .error "", .error "no lease file", .error ""⟩

/-- The result of the repair under its first generation. -/
def repairResult : HAAgentActionResult :=
  { actionId := .maintenance 1 .promote 1, actionType := .dhcp .promote, generation := 1
    status := .failed, checksum := some (.maintenanceAction .promote 1 1 1)
    message := "no lease file" }

theorem repairReoffered_reachable : haMachine.Reachable repairReoffered := by
  have hinit : Initial automaticDriftSys :=
    ⟨rfl, rfl, rfl, rfl, rfl, rfl, le_rfl, rfl, fun _ ↦ rfl, fun _ ↦ rfl, rfl⟩
  exact .run _ (.next _ (.start hinit) trivial)

theorem agent_wedges_repair :
    ∃ desired, desiredState repairReoffered.cluster 1 (seconds 1) = .ok desired ∧
      ∀ answers clock, (reconcileDesired (ownerStore.setPending .failover (some repairResult))
        desired answers clock).2 = none := by
  have hok : (desiredState repairReoffered.cluster 1 (seconds 1)).isOk = true := by decide +kernel
  rcases hdes : desiredState repairReoffered.cluster 1 (seconds 1) with message | desired
  · rw [hdes] at hok
    cases hok
  have hact : desired.failover =
      some { actionId := .maintenance 1 .promote 1, actionType := .promote, generation := 2
             checksum := .maintenanceAction .promote 1 2 1, leaseGeneration := 0
             restoreOriginal := false, configurationOnly := true
             ownerHandoverAuthorised := false } := by
    rw [desiredState_failover hdes]
    decide +kernel
  refine ⟨desired, rfl, fun answers clock ↦ ?_⟩
  exact ((agent_wedges repairReoffered_reachable hdes hact
    (AgentStore.setPending_pending _ _ _) rfl (by decide) (by decide +kernel)).1 answers clock).1

/-- **An ignored offer.** The agent executes the first offer and cannot deliver its result; the second
offer, of a greater generation, it ignores, and its result is refused. -/
theorem agent_ignores_newer_offer : haMachine.Reachable repairReoffered ∧
    ∃ offered reoffered, desiredState repairOffered.cluster 1 0 = .ok offered ∧
      desiredState repairReoffered.cluster 1 (seconds 1) = .ok reoffered ∧
      offered.failover.map (·.generation) = some 1 ∧
      reoffered.failover.map (·.generation) = some 2 ∧
      offered.failover.map (·.actionId) = reoffered.failover.map (·.actionId) ∧
      (runCycles ownerStore
        [⟨0, offered, noHelpers, fun _ ↦ false⟩]).2.map (·.generation) = [1] ∧ (runCycles ownerStore
        [⟨0, offered, noHelpers, fun _ ↦ false⟩,
          ⟨seconds 1, reoffered, noHelpers, fun _ ↦ false⟩]).2.map (·.generation) = [1] ∧
      (runCycles ownerStore
        [⟨0, offered, noHelpers, fun _ ↦ false⟩,
          ⟨seconds 1, reoffered, noHelpers, fun _ ↦ false⟩]).1.pending .failover =
        some repairResult ∧
      (recordActionResult repairReoffered.cluster 1 repairResult (seconds 1)).isOk = false := by
  refine ⟨repairReoffered_reachable, _, _, rfl, rfl, ?_⟩
  decide +kernel

end Sample

end Kaya.HA
