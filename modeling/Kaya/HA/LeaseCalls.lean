import Kaya.HA.LeaseInvariants

/-!
# Lease replication, call by call

The two writers of the lease columns on their own: `reconcile_cluster_leases`, with whatever plan an
inspection yields, and `record_lease_stage_result`, called by anyone with anything. A `LeaseLog` is
a cluster with what the calls so far have done to it — the most recent successful plan, and who
staged each generation — and `leaseMachine` makes one call after the other.

`record_lease_stage_result` compares a result with the *target* and the *desired generation* of the
state row. It does not look at the status, so after an inapplicable plan it still takes a result for
the generation before it, and an inapplicable plan may have turned source and target around
(`stageResult_after_swap`). Its one caller in the service asks `desired_lease_action` first, which
offers nothing unless the last plan was applicable; under that gate the columns keep their laws
(`leaseLaws`).
-/

namespace Kaya.HA

open List Option

/-- A cluster, its most recent successful plan, and the node that staged a generation last. -/
structure LeaseLog where
  cluster : HACluster
  plan : Option LeasePlan
  stagedBy : ℕ → Option NodeId

/-- A call of one of the two writers. -/
inductive LeaseCall
  | reconcile (plan : Except String LeasePlan)
  | stageResult (n : NodeId) (generation : ℕ) (checksum : Option Digest) (status : ResultStatus)
      (message : String)

namespace LeaseLog

/-- The log after a call. -/
def call (s : LeaseLog) (now : DateTime) : LeaseCall → LeaseLog
  | .reconcile plan =>
    { s with cluster := (persistLeasePlan s.cluster now plan).1, plan := plan.toOption <|> s.plan }
  | .stageResult n generation checksum status message =>
    match recordLeaseStageResult s.cluster n generation checksum status message with
    | .error _ => s
    | .ok c =>
      { s with
        cluster := c
        stagedBy := fun g ↦
          if g = generation ∧ status = .applied then some n else s.stagedBy g }

/-- The newest generation asked for. -/
def desired (s : LeaseLog) : ℕ := (leaseState s.cluster).desiredGeneration

/-- The newest generation applied. -/
def applied (s : LeaseLog) : ℕ := (leaseState s.cluster).appliedGeneration

end LeaseLog

/-- Calls on a cluster whose leases have never been captured. -/
def leaseMachine : Machine LeaseLog (DateTime × LeaseCall) where
  init s := s.cluster.leaseReplication = none ∧ s.cluster.leaseSnapshots = [] ∧ s.plan = none
  step s e := s.call e.1 e.2

/-- A plan replicates from one node of the cluster to the other. -/
def BetweenNodes (s : LeaseLog) (e : DateTime × LeaseCall) : Prop :=
  match e.2 with
  | .reconcile plan => PlanAddressed s.cluster.peerFor plan
  | .stageResult .. => True

/-- The same, and a staging result is recorded only while the last plan was an applicable one. -/
def GatedCalls (s : LeaseLog) (e : DateTime × LeaseCall) : Prop :=
  BetweenNodes s e ∧
    match e.2 with
    | .reconcile _ => True
    | .stageResult .. => s.plan.any (·.applicable) = true

/-- The laws of the lease columns. -/
structure LeaseLaws (s : LeaseLog) : Prop where
  distinct : (s.cluster.leaseSnapshots.map HALeaseSnapshot.generation).Nodup
  bounded : ∀ snapshot ∈ s.cluster.leaseSnapshots, snapshot.generation ≤ s.desired
  attained : s.cluster.leaseSnapshots ≠ [] →
    ∃ snapshot ∈ s.cluster.leaseSnapshots, snapshot.generation = s.desired
  empty : s.cluster.leaseSnapshots = [] → s.desired = 0
  applied : s.applied ≤ s.desired
  current : (leaseState s.cluster).status = .current →
    s.applied = s.desired ∧ ∃ plan, s.plan = some plan ∧
      ∃ snapshot ∈ s.cluster.leaseSnapshots, snapshot.generation = s.desired ∧
        snapshot.status = .staged ∧ snapshot.checksum = .leasePayload plan.sourceId plan.leases ∧
        s.stagedBy snapshot.generation = some plan.targetId
  rejected : ∀ now n generation checksum status message text,
    recordLeaseStageResult s.cluster n generation checksum status message = .error text →
      s.call now (.stageResult n generation checksum status message) = s

/-! ### The invariant -/

/-- What the calls keep, in terms of the state row, the snapshots, the last plan and the stagers. -/
structure LeaseRows (peer : NodeId → Option NodeId) (state : HALeaseReplicationState)
    (snapshots : List HALeaseSnapshot) (last : Option LeasePlan) (stagedBy : ℕ → Option NodeId) :
    Prop where
  unique : (snapshots.map HALeaseSnapshot.generation).Nodup
  bounded : ∀ snapshot ∈ snapshots, snapshot.generation ≤ state.desiredGeneration
  attained : snapshots ≠ [] → ∃ snapshot ∈ snapshots, snapshot.generation = state.desiredGeneration
  empty : snapshots = [] → state.desiredGeneration = 0
  addressed : ∀ snapshot ∈ snapshots, ∃ leases,
    peer snapshot.sourceNodeId = some snapshot.targetNodeId ∧
      snapshot.checksum = .leasePayload snapshot.sourceNodeId leases
  applied : state.appliedGeneration ≤ state.desiredGeneration
  newest : ∀ snapshot ∈ snapshots, snapshot.generation = state.desiredGeneration →
    snapshot.status = .staged → state.appliedGeneration = state.desiredGeneration
  staged : ∀ snapshot ∈ snapshots, snapshot.status = .staged →
    stagedBy snapshot.generation = some snapshot.targetNodeId
  aligned : ∀ plan, last = some plan → plan.applicable = true →
    state.targetNodeId = some plan.targetId ∧
      ∃ snapshot ∈ snapshots, snapshot.generation = state.desiredGeneration ∧
        snapshot.targetNodeId = plan.targetId ∧
        snapshot.checksum = .leasePayload plan.sourceId plan.leases
  current : state.status = .current → last.any (·.applicable) = true ∧
    ∃ snapshot ∈ snapshots, snapshot.generation = state.desiredGeneration ∧
      snapshot.status = .staged
  pending : state.status = .pending → last.any (·.applicable) = true

namespace LeaseRows

variable {peer : NodeId → Option NodeId} {c : HACluster} {now : DateTime} {last : Option LeasePlan}
  {stagedBy : ℕ → Option NodeId} {state state' : HALeaseReplicationState}
  {snapshots : List HALeaseSnapshot} {snapshot : HALeaseSnapshot} {plan : LeasePlan}

/-- A generation identifies its snapshot. -/
theorem eq_of_generation (h : LeaseRows peer state snapshots last stagedBy) {a b : HALeaseSnapshot}
    (ha : a ∈ snapshots) (hb : b ∈ snapshots) (hab : a.generation = b.generation) : a = b :=
  inj_on_of_nodup_map h.unique ha hb hab

/-- The latest snapshot is the desired one. -/
theorem latest (h : LeaseRows peer (leaseState c) c.leaseSnapshots last stagedBy)
    (hlatest : latestSnapshot c = some snapshot) :
    snapshot ∈ c.leaseSnapshots ∧ snapshot.generation = (leaseState c).desiredGeneration := by
  have hmem : snapshot ∈ c.leaseSnapshots := argmax_mem hlatest
  obtain ⟨newest, hnewest, hdes⟩ := h.attained (ne_nil_of_mem hmem)
  have hle : newest.generation ≤ snapshot.generation := le_of_mem_argmax hnewest hlatest
  have hbound := h.bounded snapshot hmem
  exact ⟨hmem, by omega⟩

/-- Equal digests have equal sources, and a source has one peer. -/
theorem target_of_checksum (h : LeaseRows peer state snapshots last stagedBy)
    (hplan : PlanAddressed peer (.ok plan)) (hmem : snapshot ∈ snapshots)
    (hchecksum : snapshot.checksum = .leasePayload plan.sourceId plan.leases) :
    snapshot.targetNodeId = plan.targetId := by
  obtain ⟨leases, haddressed, hpayload⟩ := h.addressed snapshot hmem
  have hsrc : snapshot.sourceNodeId = plan.sourceId := by
    rw [hpayload] at hchecksum
    injection hchecksum
  rw [hsrc, hplan plan rfl] at haddressed
  exact (some.inj haddressed).symm

/-- A write that keeps the snapshots, the counters and the stagers keeps the laws, if what it says
of the last plan and of the desired snapshot is true. -/
theorem keep (h : LeaseRows peer state snapshots last stagedBy) {last' : Option LeasePlan}
    (hdes : state'.desiredGeneration = state.desiredGeneration)
    (happ : state'.appliedGeneration = state.appliedGeneration)
    (halign : ∀ plan, last' = some plan → plan.applicable = true →
      state'.targetNodeId = some plan.targetId ∧
        ∃ snapshot ∈ snapshots, snapshot.generation = state.desiredGeneration ∧
          snapshot.targetNodeId = plan.targetId ∧
          snapshot.checksum = .leasePayload plan.sourceId plan.leases)
    (hcur : state'.status = .current → last'.any (·.applicable) = true ∧
      ∃ snapshot ∈ snapshots, snapshot.generation = state.desiredGeneration ∧
        snapshot.status = .staged)
    (hpend : state'.status = .pending → last'.any (·.applicable) = true) :
    LeaseRows peer state' snapshots last' stagedBy where
  unique := h.unique
  bounded := by rw [hdes]; exact h.bounded
  attained := by rw [hdes]; exact h.attained
  empty := by rw [hdes]; exact h.empty
  addressed := h.addressed
  applied := by rw [hdes, happ]; exact h.applied
  newest := by rw [hdes, happ]; exact h.newest
  staged := h.staged
  aligned := by rw [hdes]; exact halign
  current := by rw [hdes]; exact hcur
  pending := hpend

/-- A capture appends a pending snapshot above every earlier generation. -/
theorem capture (h : LeaseRows peer (leaseState c) c.leaseSnapshots last stagedBy)
    (hplan : PlanAddressed peer (.ok plan)) (happl : plan.applicable = true) :
    LeaseRows peer
      { capturedState c now plan with
        desiredGeneration := nextLeaseGeneration c, status := .pending }
      (c.leaseSnapshots ++ [planSnapshot c plan]) (some plan) stagedBy := by
  have hgt : (leaseState c).desiredGeneration < nextLeaseGeneration c := by
    rw [leaseState_desired]
    exact nextLeaseGeneration_gt c
  have hold {snapshot : HALeaseSnapshot} (hmem : snapshot ∈ c.leaseSnapshots) :
      snapshot.generation < nextLeaseGeneration c :=
    (h.bounded snapshot hmem).trans_lt hgt
  have hnew : planSnapshot c plan ∈ c.leaseSnapshots ++ [planSnapshot c plan] := by simp
  refine ⟨?_, ?_, fun _ ↦ ⟨_, hnew, rfl⟩, by simp, ?_, h.applied.trans hgt.le, ?_, ?_, ?_, ?_, ?_⟩
  · rw [map_append, map_singleton, nodup_append]
    refine ⟨h.unique, nodup_singleton _, fun g hg g' hg' heq ↦ ?_⟩
    obtain ⟨snapshot, hmem, rfl⟩ := mem_map.1 hg
    rw [mem_singleton.1 hg'] at heq
    exact absurd heq (hold hmem).ne
  · intro snapshot hmem
    rcases mem_append.1 hmem with hmem | hmem
    · exact (hold hmem).le
    · rw [mem_singleton.1 hmem]
      exact le_rfl
  · intro snapshot hmem
    rcases mem_append.1 hmem with hmem | hmem
    · exact h.addressed snapshot hmem
    · rw [mem_singleton.1 hmem]
      exact ⟨plan.leases, hplan plan rfl, rfl⟩
  · intro snapshot hmem hgen hstg
    rcases mem_append.1 hmem with hmem | hmem
    · exact absurd hgen (hold hmem).ne
    · rw [mem_singleton.1 hmem] at hstg
      cases hstg
  · intro snapshot hmem hstg
    rcases mem_append.1 hmem with hmem | hmem
    · exact h.staged snapshot hmem hstg
    · rw [mem_singleton.1 hmem] at hstg
      cases hstg
  · rintro _ ⟨⟩ -
    exact ⟨rfl, planSnapshot c plan, hnew, rfl, rfl, rfl⟩
  · intro hcur
    cases hcur
  · exact fun _ ↦ happl

/-- Persisting a plan keeps the laws. -/
theorem persist (h : LeaseRows peer (leaseState c) c.leaseSnapshots last stagedBy)
    {plan : Except String LeasePlan} (hplan : PlanAddressed peer plan)
    (hwrite : LeaseWrite c now plan state snapshots) :
    LeaseRows peer state snapshots (plan.toOption <|> last) stagedBy := by
  cases hwrite with
  | blocked message =>
    exact h.keep rfl rfl h.aligned (fun hcur ↦ by cases hcur) fun hpend ↦ by
      cases hpend
  | @inapplicable plan happl =>
    refine h.keep rfl rfl ?_ (fun hcur ↦ by cases hcur) fun hpend ↦ by cases hpend
    rintro _ ⟨⟩ hyes
    rw [happl] at hyes
    cases hyes
  | @reused plan snapshot happl hlatest hchecksum hstat =>
    obtain ⟨hmem, hgen⟩ := h.latest hlatest
    refine h.keep rfl rfl ?_ (fun hcur ↦ ⟨happl, snapshot, hmem, hgen, ?_⟩)
      fun _ ↦ happl
    · rintro _ ⟨⟩ -
      exact ⟨rfl, snapshot, hmem, hgen, h.target_of_checksum hplan hmem hchecksum, hchecksum⟩
    · by_contra hnot
      dsimp only at hcur
      rw [if_neg hnot] at hcur
      cases hcur
  | @captured plan happl => exact h.capture hplan happl

/-- A staging result keeps the laws while the last plan is applicable: the node it comes from is
then the target of the desired snapshot. -/
theorem report (h : LeaseRows peer state c.leaseSnapshots last stagedBy)
    (hgate : last.any (·.applicable) = true) {n : NodeId} (htgt : state.targetNodeId = some n)
    {status : ResultStatus} {mark : SnapshotStatus}
    (htgt' : state'.targetNodeId = state.targetNodeId)
    (hdes' : state'.desiredGeneration = state.desiredGeneration)
    (hresult : (status = .applied ∧ mark = .staged ∧ state'.status = .current ∧
        state'.appliedGeneration = state.desiredGeneration) ∨
      (status = .failed ∧ mark = .failed ∧ state'.status = .error ∧
        state'.appliedGeneration = state.appliedGeneration)) :
    LeaseRows peer state' (setSnapshotStatus c state.desiredGeneration mark).leaseSnapshots last
      fun g ↦ if g = state.desiredGeneration ∧ status = .applied then some n else stagedBy g := by
  obtain ⟨plan, rfl, happl⟩ : ∃ plan, last = some plan ∧ plan.applicable = true := by
    rcases last with - | plan
    · cases hgate
    · exact ⟨plan, rfl, hgate⟩
  obtain ⟨hplan, newest, hnewest, hgen, hnode, hchecksum⟩ := h.aligned plan rfl happl
  obtain rfl : n = plan.targetId := some.inj (htgt.symm.trans hplan)
  have hcount : state'.appliedGeneration ≤ state.desiredGeneration := by
    rcases hresult with ⟨-, -, -, happ⟩ | ⟨-, -, -, happ⟩
    · exact happ.le
    · exact happ.le.trans h.applied
  obtain ⟨marked, hmarked, hsame, hmarkedTarget, -⟩ :=
    @exists_setSnapshotStatus c state.desiredGeneration mark newest hnewest
  refine ⟨?_, ?_, ?_, ?_, ?_, by rw [hdes']; exact hcount, ?_, ?_, ?_, ?_, ?_⟩
  · rw [setSnapshotStatus_generations]
    exact h.unique
  · intro snapshot hmem
    obtain ⟨old, hold, hg, -⟩ := mem_setSnapshotStatus hmem
    rw [hdes', hg]
    exact h.bounded old hold
  · intro _
    exact ⟨marked, hmarked, by rw [hsame, hdes', hgen]⟩
  · intro hnone
    rw [hnone] at hmarked
    exact absurd hmarked not_mem_nil
  · intro snapshot hmem
    obtain ⟨old, hold, -, hsrc, htgt, hsum, -⟩ := mem_setSnapshotStatus hmem
    rw [hsrc, htgt, hsum]
    exact h.addressed old hold
  · intro snapshot hmem hg hstg
    obtain ⟨old, hold, hg', -, -, -, hstat⟩ := mem_setSnapshotStatus hmem
    rw [hdes'] at hg ⊢
    rw [if_pos (hg'.symm.trans hg)] at hstat
    rcases hresult with ⟨-, -, -, happ⟩ | ⟨-, rfl, -, -⟩
    · exact happ
    · exact absurd (hstat.symm.trans hstg) (by decide)
  · intro snapshot hmem hstg
    obtain ⟨old, hold, hg, -, htgt, -, hstat⟩ := mem_setSnapshotStatus hmem
    by_cases hdes : old.generation = state.desiredGeneration
    · -- The snapshot just marked: it is the desired one, and it goes to the reporting node.
      rw [if_pos hdes] at hstat
      obtain rfl : old = newest := h.eq_of_generation hold hnewest (hdes.trans hgen.symm)
      rcases hresult with ⟨rfl, -, -, -⟩ | ⟨-, rfl, -, -⟩
      · rw [if_pos ⟨hg.trans hdes, rfl⟩, htgt, hnode]
      · exact absurd (hstat.symm.trans hstg) (by decide)
    · rw [if_neg hdes] at hstat
      rw [if_neg (fun hboth ↦ hdes (hg.symm.trans hboth.1)), hg, htgt]
      exact h.staged old hold (hstat.symm.trans hstg)
  · rintro _ ⟨⟩ -
    obtain ⟨old, hold, hg, -, htgt, hsum, -⟩ := mem_setSnapshotStatus hmarked
    obtain rfl : old = newest := h.eq_of_generation hold hnewest (hg.symm.trans hsame)
    exact ⟨htgt'.trans hplan, marked, hmarked, by rw [hsame, hdes', hgen],
      htgt.trans hnode, hsum.trans hchecksum⟩
  · intro hcur
    rcases hresult with ⟨-, rfl, -, -⟩ | ⟨-, -, herror, -⟩
    · obtain ⟨snapshot, hmem, hg, -, hstat⟩ :=
        @exists_setSnapshotStatus c state.desiredGeneration .staged newest hnewest
      rw [if_pos hgen] at hstat
      exact ⟨happl, snapshot, hmem, by rw [hg, hdes', hgen], hstat⟩
    · exact absurd (herror.symm.trans hcur) (by decide)
  · exact fun _ ↦ happl

end LeaseRows

/-! ### The laws, over every sequence of calls -/

/-- The invariant of the log. -/
def LeaseLog.Kept (s : LeaseLog) : Prop :=
  LeaseRows s.cluster.peerFor (leaseState s.cluster) s.cluster.leaseSnapshots s.plan s.stagedBy

variable {c : HACluster} {s : LeaseLog}

theorem leaseState_of_view {state : HALeaseReplicationState}
    {snapshots : List HALeaseSnapshot} (h : leaseView c = (some state, snapshots)) :
    leaseState c = state ∧ c.leaseSnapshots = snapshots := by
  have hst : c.leaseReplication = some state := congrArg Prod.fst h
  have hsnaps : c.leaseSnapshots = snapshots := congrArg Prod.snd h
  exact ⟨by rw [leaseState, hst, getD_some], hsnaps⟩

theorem peerFor_of_steady {c' : HACluster} (h : Steady c c') : c'.peerFor = c.peerFor := by
  funext n
  rw [HACluster.peerFor, HACluster.peerFor, h.nodeIds]

theorem LeaseLog.Kept.init (h : leaseMachine.init s) : s.Kept := by
  obtain ⟨hst, hsnaps, hplan⟩ := h
  have hdefault : leaseState s.cluster = {} := by rw [leaseState, hst, getD_none]
  unfold LeaseLog.Kept
  rw [hdefault, hsnaps, hplan]
  refine ⟨nodup_nil, by simp, by simp, fun _ ↦ rfl, by simp, le_rfl, by simp, by simp, by simp,
    ?_, ?_⟩
  · intro hcur
    cases hcur
  · intro hpend
    cases hpend

theorem LeaseLog.Kept.reconcile (h : s.Kept) (now : DateTime) {plan : Except String LeasePlan}
    (hplan : PlanAddressed s.cluster.peerFor plan) : (s.call now (.reconcile plan)).Kept := by
  obtain ⟨state, snapshots, hview, hwrite⟩ := persistLeasePlan_write s.cluster now plan
  obtain ⟨hst, hsnaps⟩ := leaseState_of_view hview
  show LeaseRows (persistLeasePlan s.cluster now plan).1.peerFor
    (leaseState (persistLeasePlan s.cluster now plan).1)
    (persistLeasePlan s.cluster now plan).1.leaseSnapshots (plan.toOption <|> s.plan) s.stagedBy
  rw [peerFor_of_steady (Steady.persist plan), hst, hsnaps]
  exact LeaseRows.persist h hplan hwrite

theorem LeaseLog.Kept.stageResult (h : s.Kept) (now : DateTime) (n : NodeId)
    (generation : ℕ) (checksum : Option Digest) (status : ResultStatus) (message : String)
    (hgate : s.plan.any (·.applicable) = true) :
    (s.call now (.stageResult n generation checksum status message)).Kept := by
  rcases hrecord : recordLeaseStageResult s.cluster n generation checksum status message with
    text | c' <;> simp only [LeaseLog.call, hrecord]
  · exact h
  obtain ⟨state, snapshot, hst, htgt, rfl, -, hresult⟩ := recordLeaseStageResult_eq_ok hrecord
  have hrow : leaseState s.cluster = state := by rw [leaseState, hst, getD_some]
  unfold LeaseLog.Kept at h
  rw [hrow] at h
  unfold LeaseLog.Kept
  rw [peerFor_of_steady (Steady.recordLeaseStageResult hrecord)]
  rcases hresult with ⟨rfl, hview⟩ | ⟨rfl, hview⟩
  · obtain ⟨hst', hsnaps⟩ := leaseState_of_view hview
    rw [hst', hsnaps]
    exact h.report hgate htgt rfl rfl (.inl ⟨rfl, rfl, rfl, rfl⟩)
  · obtain ⟨hst', hsnaps⟩ := leaseState_of_view hview
    rw [hst', hsnaps]
    exact h.report hgate htgt rfl rfl (.inr ⟨rfl, rfl, rfl, rfl⟩)

/-- One gated call keeps the invariant, and so does a sequence of them. -/
theorem leaseLog_kept (hs : leaseMachine.ReachableBy GatedCalls s) : s.Kept := by
  refine hs.invariant (fun s hinit ↦ LeaseLog.Kept.init hinit) ?_
  rintro s ⟨now, plan | ⟨n, generation, checksum, status, message⟩⟩ h ⟨hbetween, hgate⟩
  · exact h.reconcile now hbetween
  · exact h.stageResult now n generation checksum status message hgate

/-- **Lease replication.** After every sequence of calls in which a staging result is recorded only
while the last successful plan is applicable, the laws of the lease columns hold; and a staging
action is offered only then, so the gate of the service is such a gate. -/
theorem leaseLaws {s : LeaseLog} (hs : leaseMachine.ReachableBy GatedCalls s) :
    LeaseLaws s ∧ ∀ n offered, desiredLeaseAction s.cluster n = some offered →
      s.plan.any (·.applicable) = true := by
  have h : s.Kept := leaseLog_kept hs
  refine ⟨⟨h.unique, h.bounded, h.attained, h.empty, h.applied, fun hcur ↦ ?_, ?_⟩, ?_⟩
  · obtain ⟨happl, snapshot, hmem, hgen, hstg⟩ := h.current hcur
    rcases hplan : s.plan with - | plan <;> rw [hplan] at happl
    · cases happl
    obtain ⟨-, newest, hnewest, hgen', htgt, hchecksum⟩ := h.aligned plan hplan happl
    obtain rfl : snapshot = newest :=
      h.eq_of_generation hmem hnewest (hgen.trans hgen'.symm)
    refine ⟨h.newest snapshot hmem hgen hstg, plan, rfl, snapshot, hmem, hgen,
      hstg, hchecksum, ?_⟩
    rw [h.staged snapshot hmem hstg, htgt]
  · intro now n generation checksum status message text hrej
    simp only [LeaseLog.call, hrej]
  · intro n offered hoffer
    obtain ⟨state, snapshot, hst, hpend, -⟩ := desiredLeaseAction_eq_some hoffer
    refine h.pending ?_
    rw [leaseState, hst, getD_some]
    exact hpend

/-! ### Two sequences of calls on the sample cluster -/

/-- The sample cluster before anything has been captured. -/
def sampleLog : LeaseLog := ⟨sampleCluster, none, fun _ ↦ none⟩

/-- The leases of the first node are captured for the second. -/
def sampleCapture : DateTime × LeaseCall := ⟨0, .reconcile (.ok ⟨true, 1, 2, sampleLeases⟩)⟩

/-- A node says that it has staged the first generation. -/
def sampleStageResult (n : NodeId) : DateTime × LeaseCall :=
  ⟨0, .stageResult n 1 (some (.leasePayload 1 sampleLeases)) .applied ""⟩

/-- The second node stages what was captured. -/
theorem leaseLaws_staged :
    (leaseState (leaseMachine.run sampleLog [sampleCapture, sampleStageResult 2]).cluster).status =
        .current ∧
      LeaseLaws (leaseMachine.run sampleLog [sampleCapture, sampleStageResult 2]) := by
  refine ⟨by decide +kernel, (leaseLaws (.run (.start ⟨rfl, rfl, rfl⟩) ?_)).1⟩
  refine ⟨⟨?_, trivial⟩, ⟨trivial, rfl⟩, trivial⟩
  rintro _ ⟨⟩
  decide +kernel

/-- Before the second node has answered, the authority moves to it and DHCP is found disabled there.
The plan is inapplicable, the desired generation is still the first one, and its target is now the
first node: a result of the first node makes replication `CURRENT`, with a snapshot of the plan
before, which was addressed to the second. -/
theorem stageResult_after_swap : ¬ ∀ s, leaseMachine.ReachableBy BetweenNodes s → LeaseLaws s := by
  intro hall
  let calls : List (DateTime × LeaseCall) :=
    [sampleCapture, ⟨0, .reconcile (.ok ⟨false, 2, 1, []⟩)⟩, sampleStageResult 1]
  have hreach : leaseMachine.ReachableBy BetweenNodes (leaseMachine.run sampleLog calls) := by
    refine .run (.start ⟨rfl, rfl, rfl⟩) ⟨?_, ?_, trivial, trivial⟩
    · rintro _ ⟨⟩
      decide +kernel
    · rintro _ ⟨⟩
      decide +kernel
  have hstat : (leaseState (leaseMachine.run sampleLog calls).cluster).status = .current := by
    decide +kernel
  obtain ⟨-, plan, hplan, snapshot, hmem, -, -, hchecksum, -⟩ := (hall _ hreach).current hstat
  have hlast : (leaseMachine.run sampleLog calls).plan = some ⟨false, 2, 1, []⟩ := by decide +kernel
  have hsnaps : ∀ snapshot ∈ (leaseMachine.run sampleLog calls).cluster.leaseSnapshots,
      snapshot.checksum ≠ .leasePayload 2 [] := by decide +kernel
  rw [hlast] at hplan
  cases hplan
  exact hsnaps snapshot hmem hchecksum

end Kaya.HA
