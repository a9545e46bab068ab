import Kaya.HA.LeaseSteps

/-!
# Invariants of lease replication

Snapshots are numbered, and the number only grows. The laws that survive every interleaving of
captures, downloads, stagings and reports are two groups.

* **The columns** (`LeaseColumns`). Generations are unique and bounded by `desired_generation`, which
  is one of them; a snapshot goes to the peer of its source; a snapshot that counts as staged has
  been staged by its target, which holds it or a later one; and while replication is `PENDING` or
  `CURRENT`, the desired snapshot is addressed to the replication target and has that status.
* **The agents** (`LeaseAgents`). An agent never downloads or stages an older generation than the one
  it holds, and never reports one it has not staged.

What is *not* an invariant, and is the subject of the next module: that the generation an agent
holds is the one a running failover has frozen.
-/

namespace Kaya.HA

open List

/-- The desired generation of a cluster; zero before anything has been captured. -/
def desiredOf (view : Option HALeaseReplicationState × List HALeaseSnapshot) : ℕ :=
  view.1.elim 0 (·.desiredGeneration)

theorem leaseState_desired (c : HACluster) :
    (leaseState c).desiredGeneration = desiredOf (leaseView c) := by
  unfold leaseState desiredOf leaseView
  cases c.leaseReplication <;> rfl

/-! ### The columns -/

/-- The laws of the lease columns, given who is whose peer and what the agents have staged. -/
structure LeaseColumns (peer : NodeId → Option NodeId)
    (view : Option HALeaseReplicationState × List HALeaseSnapshot) (staged : NodeId → ℕ) :
    Prop where
  positive : ∀ snapshot ∈ view.2, 1 ≤ snapshot.generation
  bounded : ∀ snapshot ∈ view.2, snapshot.generation ≤ desiredOf view
  unique : (view.2.map HALeaseSnapshot.generation).Nodup
  addressed : ∀ snapshot ∈ view.2, peer snapshot.sourceNodeId = some snapshot.targetNodeId
  payload : ∀ snapshot ∈ view.2, ∃ leases,
    snapshot.checksum = .leasePayload snapshot.sourceNodeId leases
  latest : ∀ snapshot ∈ view.2, ∃ last ∈ view.2,
    last.generation = desiredOf view ∧ snapshot.generation ≤ last.generation
  held : ∀ snapshot ∈ view.2, snapshot.status = .staged →
    snapshot.generation ≤ staged snapshot.targetNodeId
  replicated : ∀ state, view.1 = some state → state.status = .pending ∨ state.status = .current →
    ∃ snapshot ∈ view.2, snapshot.generation = state.desiredGeneration ∧
      state.targetNodeId = some snapshot.targetNodeId ∧
      (state.status = .current → snapshot.status = .staged) ∧
      (state.status = .pending → snapshot.status = .pending)

/-- A plan that replicates from a node to its peer. -/
def PlanAddressed (peer : NodeId → Option NodeId) (plan : Except String LeasePlan) : Prop :=
  ∀ p, plan = .ok p → peer p.sourceId = some p.targetId

section Columns

variable {peer : NodeId → Option NodeId} {staged : NodeId → ℕ}
  {view : Option HALeaseReplicationState × List HALeaseSnapshot} {plan : LeasePlan}
  {status : SnapshotStatus}

/-- Agents may stage more. -/
theorem LeaseColumns.mono {staged' : NodeId → ℕ} (h : LeaseColumns peer view staged)
    (hle : ∀ n, staged n ≤ staged' n) : LeaseColumns peer view staged' :=
  ⟨h.positive, h.bounded, h.unique, h.addressed, h.payload, h.latest,
    fun snapshot hmem hstg ↦ (h.held snapshot hmem hstg).trans (hle _), h.replicated⟩

/-- A generation identifies its snapshot. -/
theorem LeaseColumns.eq_of_generation (h : LeaseColumns peer view staged) {a b : HALeaseSnapshot}
    (ha : a ∈ view.2) (hb : b ∈ view.2) (hab : a.generation = b.generation) : a = b :=
  inj_on_of_nodup_map h.unique ha hb hab

variable {c : HACluster} {now : DateTime}
  {snapshot : HALeaseSnapshot} {state : HALeaseReplicationState}

/-- The latest snapshot is the desired one. -/
theorem LeaseColumns.latestSnapshot (h : LeaseColumns peer (leaseView c) staged)
    (hlatest : latestSnapshot c = some snapshot) :
    snapshot ∈ c.leaseSnapshots ∧ snapshot.generation = desiredOf (leaseView c) := by
  have hmem : snapshot ∈ c.leaseSnapshots := argmax_mem hlatest
  obtain ⟨last, hlast, hdes, -⟩ := h.latest snapshot hmem
  have hle : last.generation ≤ snapshot.generation := le_of_mem_argmax hlast hlatest
  have hbound := h.bounded snapshot hmem
  exact ⟨hmem, by omega⟩

theorem nextLeaseGeneration_gt (c : HACluster) :
    desiredOf (leaseView c) < nextLeaseGeneration c := by
  unfold nextLeaseGeneration
  rw [leaseState_desired]
  omega

/-- The desired generation never falls when a plan is persisted. -/
theorem LeaseWrite.desired_le {plan : Except String LeasePlan}
    {snapshots : List HALeaseSnapshot} (h : LeaseWrite c now plan state snapshots) :
    desiredOf (leaseView c) ≤ desiredOf (some state, snapshots) := by
  cases h with
  | blocked | inapplicable | reused => exact (leaseState_desired c).ge
  | captured => exact (nextLeaseGeneration_gt c).le

/-- A write that keeps the snapshots and the desired generation keeps the laws, if what it says of
the desired snapshot is true. -/
theorem LeaseColumns.keep (h : LeaseColumns peer (leaseView c) staged)
    (hdes : state.desiredGeneration = (leaseState c).desiredGeneration)
    (hreplicated : state.status = .pending ∨ state.status = .current →
      ∃ snapshot ∈ c.leaseSnapshots, snapshot.generation = state.desiredGeneration ∧
        state.targetNodeId = some snapshot.targetNodeId ∧
        (state.status = .current → snapshot.status = .staged) ∧
        (state.status = .pending → snapshot.status = .pending)) :
    LeaseColumns peer (some state, c.leaseSnapshots) staged := by
  have hsame : desiredOf (some state, c.leaseSnapshots) = desiredOf (leaseView c) :=
    hdes.trans (leaseState_desired c)
  refine ⟨h.positive, ?_, h.unique, h.addressed, h.payload, ?_, h.held, ?_⟩
  · rw [hsame]
    exact h.bounded
  · rw [hsame]
    exact h.latest
  · rintro state' ⟨⟩ hstat
    exact hreplicated hstat

/-- A snapshot that still carries the plan's digest goes to the plan's target. -/
theorem LeaseColumns.target_of_checksum (h : LeaseColumns peer (leaseView c) staged)
    (hplan : PlanAddressed peer (.ok plan)) (hmem : snapshot ∈ c.leaseSnapshots)
    (hsum : snapshot.checksum = .leasePayload plan.sourceId plan.leases) :
    snapshot.targetNodeId = plan.targetId := by
  obtain ⟨leases, hpayload⟩ := h.payload snapshot hmem
  -- Equal digests have equal sources, and a source has one peer.
  have hsrc : snapshot.sourceNodeId = plan.sourceId := by
    rw [hpayload] at hsum
    injection hsum
  have htgt : some snapshot.targetNodeId = some plan.targetId := by
    rw [← h.addressed snapshot hmem, hsrc]
    exact hplan plan rfl
  exact Option.some.inj htgt

/-- A capture appends a pending snapshot above every earlier generation. -/
theorem LeaseColumns.capture (h : LeaseColumns peer (leaseView c) staged)
    (hplan : PlanAddressed peer (.ok plan))
    (hdes : state.desiredGeneration = nextLeaseGeneration c)
    (htgt : state.targetNodeId = some plan.targetId) (hstat : state.status = .pending) :
    LeaseColumns peer (some state, c.leaseSnapshots ++ [planSnapshot c plan]) staged := by
  have hlt := nextLeaseGeneration_gt c
  have hnew : (planSnapshot c plan).generation = nextLeaseGeneration c := rfl
  have hafter : desiredOf (some state, c.leaseSnapshots ++ [planSnapshot c plan]) =
      nextLeaseGeneration c := hdes
  have hmem_new : planSnapshot c plan ∈ c.leaseSnapshots ++ [planSnapshot c plan] :=
    mem_append_right _ (mem_singleton_self _)
  -- A law of all snapshots holds of the old ones by `h`, and of the new one by construction.
  have hcases {P : HALeaseSnapshot → Prop} (hold : ∀ snapshot ∈ c.leaseSnapshots, P snapshot)
      (hlast : P (planSnapshot c plan)) :
      ∀ snapshot ∈ c.leaseSnapshots ++ [planSnapshot c plan], P snapshot := by
    intro snapshot hmem
    rcases mem_append.1 hmem with hmem | hmem
    · exact hold snapshot hmem
    · rw [mem_singleton.1 hmem]
      exact hlast
  have hle : ∀ snapshot ∈ c.leaseSnapshots ++ [planSnapshot c plan],
      snapshot.generation ≤ nextLeaseGeneration c :=
    hcases (fun snapshot hold ↦ ((h.bounded snapshot hold).trans_lt hlt).le) le_rfl
  refine ⟨?_, ?_, ?_, ?_, ?_, ?_, ?_, ?_⟩
  · exact hcases h.positive (Nat.le_add_left 1 _)
  · rw [hafter]
    exact hle
  · rw [map_append, map_singleton]
    refine Nodup.append h.unique (nodup_singleton _) fun g hg hg' ↦ ?_
    obtain ⟨snapshot, hold, rfl⟩ := mem_map.1 hg
    have hbound := h.bounded snapshot hold
    rw [mem_singleton, hnew] at hg'
    omega
  · exact hcases h.addressed (hplan plan rfl)
  · exact hcases h.payload ⟨plan.leases, rfl⟩
  · intro snapshot hmem
    exact ⟨planSnapshot c plan, hmem_new, hafter.symm, hle snapshot hmem⟩
  · exact hcases h.held nofun
  · rintro state' ⟨⟩ -
    refine ⟨planSnapshot c plan, hmem_new, hdes.symm, htgt, ?_, fun _ ↦ rfl⟩
    intro hcur
    rw [hstat] at hcur
    cases hcur

/-- Persisting a plan keeps the laws. -/
theorem LeaseColumns.persist (h : LeaseColumns peer (leaseView c) staged)
    {plan : Except String LeasePlan} (hplan : PlanAddressed peer plan)
    {state : HALeaseReplicationState} {snapshots : List HALeaseSnapshot}
    (hwrite : LeaseWrite c now plan state snapshots) :
    LeaseColumns peer (some state, snapshots) staged := by
  cases hwrite with
  | blocked message =>
    refine h.keep rfl fun hstat ↦ ?_
    rcases hstat with hstat | hstat <;> cases hstat
  | @inapplicable plan happl =>
    refine h.keep rfl fun hstat ↦ ?_
    rcases hstat with hstat | hstat <;> cases hstat
  | @reused plan snapshot happl hlatest hsum hstat =>
    refine h.keep rfl fun _ ↦ ?_
    obtain ⟨hmem, hgeneration⟩ := h.latestSnapshot hlatest
    have htgt := h.target_of_checksum hplan hmem hsum
    refine ⟨snapshot, hmem, hgeneration.trans (leaseState_desired c).symm,
      congrArg some htgt.symm, ?_, ?_⟩
    · intro hcur
      by_contra hnot
      dsimp only at hcur
      rw [if_neg hnot] at hcur
      cases hcur
    · intro hpend
      dsimp only at hpend
      rcases hcase : snapshot.status <;> rw [hcase] at hpend hstat
      · cases hpend
      · exact absurd rfl hstat
  | @captured plan happl => exact h.capture hplan rfl rfl rfl

/-- The rows of a table whose status at one generation changes. -/
theorem mem_setSnapshotStatus {generation : ℕ}
    (hmem : snapshot ∈ (setSnapshotStatus c generation status).leaseSnapshots) :
    ∃ old ∈ c.leaseSnapshots, snapshot.generation = old.generation ∧
      snapshot.sourceNodeId = old.sourceNodeId ∧ snapshot.targetNodeId = old.targetNodeId ∧
      snapshot.checksum = old.checksum ∧
      snapshot.status = if old.generation = generation then status else old.status := by
  obtain ⟨old, hold, rfl⟩ := mem_map.1 hmem
  refine ⟨old, hold, ?_⟩
  split
  · exact ⟨rfl, rfl, rfl, rfl, rfl⟩
  · exact ⟨rfl, rfl, rfl, rfl, rfl⟩

theorem setSnapshotStatus_generations (generation : ℕ) (status : SnapshotStatus) :
    (setSnapshotStatus c generation status).leaseSnapshots.map HALeaseSnapshot.generation =
      c.leaseSnapshots.map HALeaseSnapshot.generation := by
  unfold setSnapshotStatus
  rw [map_map]
  refine map_congr_left fun snapshot _ ↦ ?_
  simp only [Function.comp_apply]
  split
  · rfl
  · rfl

/-- A snapshot survives a change of status, with the status the change gives it. -/
theorem exists_setSnapshotStatus {generation : ℕ} {status : SnapshotStatus}
    {old : HALeaseSnapshot} (hold : old ∈ c.leaseSnapshots) :
    ∃ snapshot ∈ (setSnapshotStatus c generation status).leaseSnapshots,
      snapshot.generation = old.generation ∧ snapshot.targetNodeId = old.targetNodeId ∧
      snapshot.status = if old.generation = generation then status else old.status := by
  refine ⟨_, mem_map.2 ⟨old, hold, rfl⟩, ?_⟩
  split
  · exact ⟨rfl, rfl, rfl⟩
  · exact ⟨rfl, rfl, rfl⟩

/-- A staging result keeps the laws, provided that a success is true. -/
theorem LeaseColumns.report (h : LeaseColumns peer (leaseView c) staged)
    {state' : HALeaseReplicationState} (hst : c.leaseReplication = some state)
    (hpend : state.status = .pending) (htgt' : state'.targetNodeId = state.targetNodeId)
    (hdes' : state'.desiredGeneration = state.desiredGeneration)
    (hstat : (state'.status = .current ∧ status = .staged) ∨
      (state'.status = .error ∧ status = .failed))
    (hheld : status = .staged → ∀ n, state.targetNodeId = some n →
      state.desiredGeneration ≤ staged n) :
    LeaseColumns peer
      (some state', (setSnapshotStatus c state.desiredGeneration status).leaseSnapshots)
      staged := by
  have hsame : desiredOf (some state',
      (setSnapshotStatus c state.desiredGeneration status).leaseSnapshots) =
      desiredOf (leaseView c) := by
    simp only [desiredOf, leaseView, hst, Option.elim_some, hdes']
  obtain ⟨last, hlast, hgeneration, htgt, -⟩ := h.replicated state hst (.inl hpend)
  refine ⟨?_, ?_, ?_, ?_, ?_, ?_, ?_, ?_⟩
  · intro snapshot hmem
    obtain ⟨old, hold, hgen, -⟩ := mem_setSnapshotStatus hmem
    rw [hgen]
    exact h.positive old hold
  · intro snapshot hmem
    obtain ⟨old, hold, hgen, -⟩ := mem_setSnapshotStatus hmem
    rw [hsame, hgen]
    exact h.bounded old hold
  · rw [setSnapshotStatus_generations]
    exact h.unique
  · intro snapshot hmem
    obtain ⟨old, hold, -, hsrc, htgt, -⟩ := mem_setSnapshotStatus hmem
    rw [hsrc, htgt]
    exact h.addressed old hold
  · intro snapshot hmem
    obtain ⟨old, hold, -, hsrc, -, hsum, -⟩ := mem_setSnapshotStatus hmem
    rw [hsrc, hsum]
    exact h.payload old hold
  · intro snapshot hmem
    obtain ⟨old, hold, hgen, -⟩ := mem_setSnapshotStatus hmem
    obtain ⟨last', hlast', hdes, hle⟩ := h.latest old hold
    obtain ⟨new, hnew, hnewgen, -⟩ := exists_setSnapshotStatus hlast'
    rw [hsame, hgen]
    exact ⟨new, hnew, hnewgen.trans hdes, by rw [hnewgen]; exact hle⟩
  · intro snapshot hmem hstg
    obtain ⟨old, hold, hgen, -, holdtarget, -, holdstatus⟩ := mem_setSnapshotStatus hmem
    rw [hgen, holdtarget]
    rw [holdstatus] at hstg
    split at hstg <;> rename_i hcase
    · -- The reported snapshot: its target is the one that reported it.
      obtain rfl := h.eq_of_generation hold hlast (hcase.trans hgeneration.symm)
      rw [hgeneration]
      exact hheld hstg _ htgt
    · exact h.held old hold hstg
  · rintro state'' ⟨⟩ hcase
    obtain ⟨new, hnew, hnewgen, hnewtarget, hnewstatus⟩ := exists_setSnapshotStatus hlast
    refine ⟨new, hnew, ?_, ?_, fun hcur ↦ ?_, fun hagain ↦ ?_⟩
    · rw [hnewgen, hgeneration, hdes']
    · rw [hnewtarget, htgt', htgt]
    · rcases hstat with ⟨-, rfl⟩ | ⟨herror, -⟩
      · rw [hnewstatus, if_pos hgeneration]
      · rw [herror] at hcur
        cases hcur
    · rcases hstat with ⟨hother, -⟩ | ⟨hother, -⟩ <;> rw [hother] at hagain <;> cases hagain

end Columns

/-! ### The agents -/

/-- The laws of what agents hold and what has been prepared. -/
structure LeaseAgents (s : Sys) : Prop where
  downloads : ∀ n k, s.download n = some k → k ≤ desiredOf (leaseView s.cluster) ∧ s.staged n ≤ k
  staged : ∀ n, s.staged n ≤ desiredOf (leaseView s.cluster)
  reports : ∀ n k, (n, k) ∈ s.reports → k ≤ s.staged n
  inspections : ∀ inputs ∈ s.inspections, s.cluster.peerFor inputs.sourceId = some inputs.targetId ∧
      inputs.continuityEnabled = leaseContinuityEnabled s.cluster

/-- The invariant of lease replication. -/
structure LeaseInvariant (s : Sys) : Prop where
  columns : LeaseColumns s.cluster.peerFor (leaseView s.cluster) s.staged
  agents : LeaseAgents s

section Agents

variable {s : Sys} {e : Event} {c : HACluster} {inputs : LeaseInspectionInputs}
  {answer : LeaseAnswer} {n : NodeId} {generation : ℕ} {snapshot : HALeaseSnapshot}
  {plan : LeasePlan}

/-- Replication goes from a node to its peer. -/
theorem leaseNodes_peer {source target : NodeId}
    (h : leaseNodes c = .ok (source, target)) : c.peerFor source = some target := by
  unfold leaseNodes at h
  dsimp only at h
  split at h
  · cases h
  split at h <;> rename_i hpeer
  · cases h
  · cases h
    exact hpeer

theorem prepareLeaseInspection_eq_ok (h : prepareLeaseInspection c = .ok inputs) :
    leaseNodes c = .ok (inputs.sourceId, inputs.targetId) ∧
      inputs.continuityEnabled = leaseContinuityEnabled c := by
  unfold prepareLeaseInspection at h
  rcases hnodes : leaseNodes c with message | ⟨source, target⟩ <;> rw [hnodes] at h <;> cases h
  exact ⟨rfl, rfl⟩

/-- A plan keeps the ends it was prepared with, and it is applicable when continuity is enabled and
the Pi-hole answered with leases. -/
theorem inspectLeasePlan_eq_ok (h : inspectLeasePlan inputs answer = .ok plan) :
    plan.sourceId = inputs.sourceId ∧ plan.targetId = inputs.targetId ∧
      (plan.applicable = true ∨ inputs.continuityEnabled = false ∨ answer = .ok none) := by
  unfold inspectLeasePlan at h
  split at h <;> rename_i hcont
  · cases h
    exact ⟨rfl, rfl, .inr (.inl (by simpa using hcont))⟩
  split at h
  · cases h
  · cases h
    exact ⟨rfl, rfl, .inr (.inr rfl)⟩
  · cases h
    exact ⟨rfl, rfl, .inl rfl⟩

/-- What a plan of the system looks like. -/
theorem PlanOf.eq_ok (h : LeaseAgents s) (hplan : PlanOf s answer (.ok plan)) :
    s.cluster.peerFor plan.sourceId = some plan.targetId ∧
      (plan.applicable = true ∨ leaseContinuityEnabled s.cluster = false ∨ answer = .ok none) := by
  have hinputs : ∃ inputs, (s.cluster.peerFor inputs.sourceId = some inputs.targetId ∧
      inputs.continuityEnabled = leaseContinuityEnabled s.cluster) ∧
      inspectLeasePlan inputs answer = .ok plan := by
    rcases hplan with hplan | ⟨inputs, hmem, hplan⟩
    · unfold inspectClusterLeases at hplan
      rcases hprep : prepareLeaseInspection s.cluster with message | inputs <;>
        rw [hprep] at hplan
      · cases hplan
      · obtain ⟨hnodes, hcont⟩ := prepareLeaseInspection_eq_ok hprep
        exact ⟨inputs, ⟨leaseNodes_peer hnodes, hcont⟩, hplan.symm⟩
    · exact ⟨inputs, h.inspections inputs hmem, hplan.symm⟩
  obtain ⟨inputs, ⟨hpeer, hcont⟩, hok⟩ := hinputs
  obtain ⟨hsrc, htgt, happl⟩ := inspectLeasePlan_eq_ok hok
  rw [hsrc, htgt, ← hcont]
  exact ⟨hpeer, happl⟩

theorem PlanOf.addressed {plan : Except String LeasePlan} (h : LeaseAgents s)
    (hplan : PlanOf s answer plan) : PlanAddressed s.cluster.peerFor plan := by
  rintro p rfl
  exact (hplan.eq_ok h).1

theorem step_peerFor (s : Sys) (e : Event) : (step s e).cluster.peerFor = s.cluster.peerFor := by
  funext n
  unfold HACluster.peerFor
  rw [step_nodeIds]

theorem step_leaseContinuityEnabled (s : Sys) (e : Event) :
    leaseContinuityEnabled (step s e).cluster = leaseContinuityEnabled s.cluster := by
  unfold leaseContinuityEnabled
  rw [step_deploymentMode]

theorem desiredLeaseAction_eq_some {offered : LeaseAction}
    (h : desiredLeaseAction c n = some offered) :
    ∃ state snapshot, c.leaseReplication = some state ∧ state.status = .pending ∧
      state.targetNodeId = some n ∧ snapshotAt c state.desiredGeneration = some snapshot ∧
      snapshot.status = .pending ∧
      offered = ⟨.lease n snapshot.generation snapshot.checksum, snapshot.generation,
        snapshot.checksum⟩ := by
  unfold desiredLeaseAction at h
  split at h <;> rename_i hst
  · cases h
  split at h <;> rename_i hassigned
  · cases h
  rw [not_or, not_not, not_not] at hassigned
  split at h <;> rename_i hsnap
  · cases h
  split at h <;> rename_i hpend
  · cases h
  cases h
  exact ⟨_, _, hst, hassigned.1, hassigned.2, hsnap, not_not.1 hpend, rfl⟩

theorem snapshotAt_eq_some (h : snapshotAt c generation = some snapshot) :
    snapshot ∈ c.leaseSnapshots ∧ snapshot.generation = generation :=
  ⟨mem_of_find?_eq_some h, by simpa using find?_some h⟩

/-- **The columns, one step.** -/
theorem LeaseInvariant.columns_step (h : LeaseInvariant s) :
    LeaseColumns (step s e).cluster.peerFor (leaseView (step s e).cluster) s.staged ∧
      desiredOf (leaseView s.cluster) ≤ desiredOf (leaseView (step s e).cluster) := by
  rw [step_peerFor]
  cases step_leaseChange s e with
  | unchanged hview =>
    rw [hview]
    exact ⟨h.columns, le_rfl⟩
  | @persisted answer plan _ hplan hview =>
    obtain ⟨state, snapshots, hpersist, hwrite⟩ := persistLeasePlan_write s.cluster e.now plan
    rw [hview, hpersist]
    exact ⟨h.columns.persist (hplan.addressed h.agents) hwrite, hwrite.desired_le⟩
  | @reported n result offered c' _ hstg hoffer _ hok hview =>
    obtain ⟨state, snapshot, hst, htgt, hdes, -, hresult⟩ :=
      recordLeaseStageResult_eq_ok hok
    obtain ⟨state', -, hst', hpend, -⟩ := desiredLeaseAction_eq_some hoffer
    obtain rfl : state' = state := Option.some.inj (hst'.symm.trans hst)
    have hbef : desiredOf (leaseView s.cluster) = state'.desiredGeneration := by
      simp only [desiredOf, leaseView, hst, Option.elim_some]
    rw [hview, hbef]
    rcases hresult with ⟨happ, hview'⟩ | ⟨-, hview'⟩ <;> rw [hview', ← hdes]
    · refine ⟨h.columns.report hst hpend rfl rfl (.inl ⟨rfl, rfl⟩) ?_, le_rfl⟩
      intro _ k hk
      obtain rfl : n = k := Option.some.inj (htgt.symm.trans hk)
      rw [hdes]
      exact h.agents.reports n _ (hstg happ)
    · refine ⟨h.columns.report hst hpend rfl rfl (.inr ⟨rfl, rfl⟩) ?_, le_rfl⟩
      intro hfalse
      cases hfalse

/-- The agents and the monitor at rest. -/
theorem LeaseAgents.rest (h : LeaseAgents s) {s' : Sys}
    (hdes : desiredOf (leaseView s.cluster) ≤ desiredOf (leaseView s'.cluster))
    (hpeer : s'.cluster.peerFor = s.cluster.peerFor)
    (hcont : leaseContinuityEnabled s'.cluster = leaseContinuityEnabled s.cluster)
    (hdown : s'.download = s.download) (hstg : s'.staged = s.staged)
    (hreports : s'.reports = s.reports)
    (hinspections : ∀ inputs ∈ s'.inspections, inputs ∈ s.inspections) : LeaseAgents s' := by
  refine ⟨?_, ?_, ?_, ?_⟩
  · intro n k hk
    rw [hdown] at hk
    rw [hstg]
    exact ⟨(h.downloads n k hk).1.trans hdes, (h.downloads n k hk).2⟩
  · intro n
    rw [hstg]
    exact (h.staged n).trans hdes
  · intro n k hk
    rw [hreports] at hk
    rw [hstg]
    exact h.reports n k hk
  · intro inputs hinputs
    rw [hpeer, hcont]
    exact h.inspections inputs (hinspections inputs hinputs)

/-- An agent downloads the desired snapshot. -/
theorem snapshotForAgent_eq_ok (h : snapshotForAgent c n generation = .ok snapshot) :
    generation = desiredOf (leaseView c) := by
  unfold snapshotForAgent at h
  split at h <;> rename_i hst
  · cases h
  split at h <;> rename_i hassigned
  · cases h
  rw [not_or, not_not, not_not] at hassigned
  rw [← hassigned.2]
  simp only [desiredOf, leaseView, hst, Option.elim_some]

/-- An inspection that is prepared takes its nodes in the direction of replication. -/
theorem LeaseInvariant.prepare (h : LeaseInvariant s)
    (hprep : prepareLeaseInspection s.cluster = .ok inputs) :
    LeaseInvariant { s with inspections := s.inspections ++ [inputs] } := by
  refine ⟨h.columns, h.agents.downloads, h.agents.staged, h.agents.reports, ?_⟩
  intro inputs' hmem
  rcases mem_append.1 hmem with hold | hnew
  · exact h.agents.inspections inputs' hold
  · obtain ⟨hnodes, henab⟩ := prepareLeaseInspection_eq_ok hprep
    rw [mem_singleton.1 hnew]
    exact ⟨leaseNodes_peer hnodes, henab⟩

/-- What an agent downloads is the desired generation, so nothing it holds is newer. -/
theorem LeaseInvariant.download (h : LeaseInvariant s)
    (hsnap : snapshotForAgent s.cluster n generation = .ok snapshot) :
    LeaseInvariant
      { s with download := fun k ↦ if k = n then some generation else s.download k } := by
  have hgeneration := snapshotForAgent_eq_ok hsnap
  refine ⟨h.columns, ?_, h.agents.staged, h.agents.reports, h.agents.inspections⟩
  intro k g hg
  dsimp only at hg ⊢
  split at hg
  · cases hg
    exact ⟨hgeneration.le, hgeneration ▸ h.agents.staged k⟩
  · exact h.agents.downloads k g hg

/-- An agent that writes its download moves forward, and may report it. -/
theorem LeaseInvariant.stage (h : LeaseInvariant s) (hdown : s.download n = some generation) :
    LeaseInvariant { s with
      download := fun k ↦ if k = n then none else s.download k
      staged := fun k ↦ if k = n then generation else s.staged k
      reports := (n, generation) :: s.reports } := by
  obtain ⟨hle, hheld⟩ := h.agents.downloads n generation hdown
  have hmono (k : NodeId) : s.staged k ≤ if k = n then generation else s.staged k := by
    split <;> rename_i hk
    · rw [hk]
      exact hheld
    · exact le_rfl
  refine ⟨h.columns.mono hmono, ?_, ?_, ?_, h.agents.inspections⟩
  · intro k g hg
    dsimp only at hg ⊢
    split at hg <;> rename_i hk
    · cases hg
    · rw [if_neg hk]
      exact h.agents.downloads k g hg
  · intro k
    dsimp only
    split
    · exact hle
    · exact h.agents.staged k
  · intro k g hg
    rcases mem_cons.1 hg with hnew | hold
    · cases hnew
      exact (if_pos rfl).ge
    · exact (h.agents.reports k g hold).trans (hmono k)

/-- **One step.** -/
theorem LeaseInvariant.step (h : LeaseInvariant s) (e : Event) : LeaseInvariant (step s e) := by
  obtain ⟨hcolumns, hdes⟩ := h.columns_step (e := e)
  have hpeer := step_peerFor s e
  have hcont := step_leaseContinuityEnabled s e
  -- Every event but three leaves the agents alone and starts no inspection.
  have hrest (hdown : (HA.step s e).download = s.download)
      (hstg : (HA.step s e).staged = s.staged) (hreports : (HA.step s e).reports = s.reports)
      (hinspections : ∀ inputs ∈ (HA.step s e).inspections, inputs ∈ s.inspections) :
      LeaseInvariant (HA.step s e) :=
    ⟨by rw [hstg]; exact hcolumns,
      h.agents.rest hdes hpeer hcont hdown hstg hreports hinspections⟩
  obtain ⟨now, a⟩ := e
  cases a with
  | prepareLeaseInspection =>
    rcases hprep : prepareLeaseInspection s.cluster with message | inputs <;>
      simp only [HA.step, environmentStep, hprep, clusterStep]
    · exact h
    · exact h.prepare hprep
  | download n generation =>
    rcases hsnap : snapshotForAgent s.cluster n generation with message | snapshot <;>
      simp only [HA.step, environmentStep, hsnap, clusterStep]
    · exact h
    · exact h.download hsnap
  | stage n =>
    rcases hdown : s.download n with - | generation <;>
      simp only [HA.step, environmentStep, hdown, clusterStep]
    · exact h
    · exact h.stage hdown
  | restart =>
    refine hrest rfl rfl rfl fun inputs hmem ↦ ?_
    exact absurd hmem not_mem_nil
  | persistLeaseInspection inputs answer =>
    exact hrest rfl rfl rfl fun _ hmem ↦ mem_of_mem_erase hmem
  | _ => exact hrest rfl rfl rfl fun _ hmem ↦ hmem

/-- **Every run.** -/
theorem leaseInvariant {ok : Sys → Event → Prop} (hs : haMachine.ReachableBy ok s) :
    LeaseInvariant s := by
  refine hs.invariant (fun s hinit ↦ ?_) fun s e h _ ↦ h.step e
  have hview : leaseView s.cluster = (none, []) := by
    simp only [leaseView, hinit.leaseReplication, hinit.leaseSnapshots]
  constructor
  · rw [hview]
    refine ⟨?_, ?_, nodup_nil, ?_, ?_, ?_, ?_, ?_⟩ <;> simp
  · refine ⟨?_, ?_, ?_, ?_⟩
    · intro n k hk
      rw [hinit.download n] at hk
      cases hk
    · intro n
      rw [hinit.staged n]
      exact Nat.zero_le _
    · intro n k hk
      rw [hinit.reports] at hk
      exact absurd hk not_mem_nil
    · intro inputs hmem
      rw [hinit.inspections] at hmem
      exact absurd hmem not_mem_nil

end Agents

/-- **What the cluster calls current is current**: the agent of the target holds the desired
generation, whatever was captured, downloaded, staged or reported in between. -/
theorem current_leases_staged {s : Sys} (hs : haMachine.Reachable s)
    {state : HALeaseReplicationState} (hst : s.cluster.leaseReplication = some state)
    (hcur : state.status = .current) :
    ∃ target, state.targetNodeId = some target ∧ s.staged target = state.desiredGeneration := by
  have hinv := leaseInvariant hs
  obtain ⟨snapshot, hmem, hgeneration, htgt, hstg, -⟩ :=
    hinv.columns.replicated state hst (.inr hcur)
  refine ⟨snapshot.targetNodeId, htgt, le_antisymm ?_ ?_⟩
  · have hbound := hinv.agents.staged snapshot.targetNodeId
    rwa [desiredOf, leaseView, hst] at hbound
  · exact hgeneration ▸ hinv.columns.held snapshot hmem (hstg hcur)

theorem current_leases_staged_sample : ∃ target,
    (leaseState (haMachine.run sampleSys sampleStagedRun).cluster).targetNodeId = some target ∧
      (haMachine.run sampleSys sampleStagedRun).staged target =
        (leaseState (haMachine.run sampleSys sampleStagedRun).cluster).desiredGeneration :=
  current_leases_staged (sampleSys_reachable _) (by decide +kernel) (by decide +kernel)

end Kaya.HA
