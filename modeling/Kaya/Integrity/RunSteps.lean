import Kaya.Integrity.Runs

/-!
# What one step does to the runs

Every event but the queueing and the claiming of a run leaves the runs as they are or over, and a
process goes on with its run or ends (`Goes`). From that, in every reachable state the slot belongs
to one queued or running run, and a run that has been claimed has one process (`RunInvariant`).
-/

namespace Kaya.Integrity

open Option List
open Kaya.HA (DateTime)

variable {s t : Audits} {p : ℕ} {x x' : Process}

/-- The run of a process. -/
def Process.runId : Process → Option ℕ
  | idle => none
  | claimed id => some id
  | executing x => some x.runId

/-- What holds of the runs in every reachable state. -/
structure RunInvariant (s : Audits) : Prop where
  /-- The slot belongs to the runs that are queued or running. -/
  slot : ∀ id ∈ s.runs.ids, ((s.runs.row id).activeSlot = true ↔
    (s.runs.row id).status = .queued ∨ (s.runs.row id).status = .running)
  /-- The slot is unique. -/
  unique : ∀ i ∈ s.runs.ids, ∀ j ∈ s.runs.ids, (s.runs.row i).activeSlot = true →
    (s.runs.row j).activeSlot = true → i = j
  /-- The run of a process has been claimed. -/
  claimed : ∀ (p : ℕ) (x : Process) (r : ℕ), s.processes[p]? = some x → x.runId = some r →
    r ∈ s.runs.ids ∧ (s.runs.row r).status ≠ .queued ∧
      ∃ start ≤ s.clock, (s.runs.row r).startedAt = some start
  /-- A run has one process. -/
  alone : ∀ (p q : ℕ) (x y : Process) (r : ℕ), s.processes[p]? = some x →
    s.processes[q]? = some y → x.runId = some r → y.runId = some r → p = q
  /-- `now` is the start of the run. -/
  now : ∀ (p : ℕ) (x : Execution), s.processes[p]? = some (.executing x) →
    (s.runs.row x.runId).startedAt = some x.now

theorem RunInvariant.now_le (hs : RunInvariant s) {x : Execution}
    (hx : s.processes[p]? = some (.executing x)) : x.now ≤ s.clock := by
  obtain ⟨-, -, start, hstart, hrow⟩ := hs.claimed p _ _ hx rfl
  have hnow := hs.now p x hx
  exact some.inj (hnow.symm.trans hrow) ▸ hstart

/-! ### Steps that neither queue nor claim -/

/-- A run before and after such a step. -/
structure Ends (run run' : DataIntegrityRun) : Prop where
  startedAt : run'.startedAt = run.startedAt
  status : (run'.status = run.status ∧ run'.activeSlot = run.activeSlot) ∨ run'.over = true

theorem Ends.refl (run : DataIntegrityRun) : Ends run run := ⟨rfl, .inl ⟨rfl, rfl⟩⟩

/-- A process before and after such a step. -/
inductive Continues (s : Audits) : Process → Process → Prop
  | refl (x : Process) : Continues s x x
  | idle (x : Process) : Continues s x .idle
  | begin {x : Execution} {id : ℕ} (hid : x.runId = id)
      (hnow : (s.runs.row id).startedAt = some x.now) (hph : x.phase.writes = false) :
      Continues s (.claimed id) (.executing x)
  | next {x x' : Execution} (hid : x'.runId = x.runId) (hnow : x'.now = x.now)
      (hph : x'.phase.writes = true → x.phase.writes = true ∨
        (s.runs.row x.runId).status = .running) :
      Continues s (.executing x) (.executing x')

theorem Continues.runId (h : Continues s x x') {r : ℕ} (hr : x'.runId = some r) :
    x.runId = some r := by
  cases h with
  | refl => exact hr
  | idle => exact absurd hr (by simp [Process.runId])
  | begin hid => exact (congrArg some hid).symm.trans hr
  | next hid => exact (congrArg some hid).symm.trans hr

/-- A step that neither queues nor claims a run. -/
structure Goes (s t : Audits) : Prop where
  clock : s.clock ≤ t.clock
  ids : t.runs.ids = s.runs.ids
  runs : ∀ id ∈ s.runs.ids, Ends (s.runs.row id) (t.runs.row id)
  processes : ∀ (p : ℕ) (x' : Process), t.processes[p]? = some x' →
    ∃ x, s.processes[p]? = some x ∧ Continues s x x'

theorem over_iff {run : DataIntegrityRun} : run.over = true ↔
    run.activeSlot = false ∧ run.status ≠ .queued ∧ run.status ≠ .running := by
  simp [DataIntegrityRun.over, and_assoc]

theorem RunInvariant.goes (hs : RunInvariant s) (h : Goes s t) : RunInvariant t := by
  have hlive : ∀ id ∈ s.runs.ids, (t.runs.row id).activeSlot = true →
      (s.runs.row id).activeSlot = true := by
    intro id hid hslot
    obtain ⟨-, hsame⟩ | hover := (h.runs id hid).status
    · exact hsame.symm.trans hslot
    · exact absurd hslot (by simp [(over_iff.1 hover).1])
  refine ⟨fun id hid ↦ ?_, fun i hi j hj hi' hj' ↦ ?_, fun p x' r hx' hr ↦ ?_,
    fun p q x' y' r hx' hy' hxr hyr ↦ ?_, fun p x' hx' ↦ ?_⟩
  · rw [h.ids] at hid
    obtain ⟨hstat, hslot⟩ | hover := (h.runs id hid).status
    · rw [hstat, hslot]
      exact hs.slot id hid
    · obtain ⟨hslot, hqueued, hrunning⟩ := over_iff.1 hover
      simp [hslot, hqueued, hrunning]
  · rw [h.ids] at hi hj
    exact hs.unique i hi j hj (hlive i hi hi') (hlive j hj hj')
  · obtain ⟨x, hx, hc⟩ := h.processes p x' hx'
    obtain ⟨hmem, hqueued, start, hstart, hrow⟩ := hs.claimed p x r hx (hc.runId hr)
    refine ⟨h.ids ▸ hmem, ?_, start, hstart.trans h.clock, (h.runs r hmem).startedAt.trans hrow⟩
    obtain ⟨hstat, -⟩ | hover := (h.runs r hmem).status
    · exact hstat ▸ hqueued
    · exact (over_iff.1 hover).2.1
  · obtain ⟨x, hx, hcx⟩ := h.processes p x' hx'
    obtain ⟨y, hy, hcy⟩ := h.processes q y' hy'
    exact hs.alone p q x y r hx hy (hcx.runId hxr) (hcy.runId hyr)
  · obtain ⟨x, hx, hc⟩ := h.processes p _ hx'
    have hrow : (t.runs.row x'.runId).startedAt = (s.runs.row x'.runId).startedAt :=
      (h.runs _ (hs.claimed p x _ hx (hc.runId rfl)).1).startedAt
    rw [hrow]
    cases hc with
    | refl => exact hs.now p x' hx
    | begin hid hnow => exact hid ▸ hnow
    | next hid hnow => rw [hid, hnow]; exact hs.now p _ hx

/-- Processes after one of them has gone on. -/
theorem continues_set (hx : s.processes[p]? = some x) (hc : Continues s x x') (q : ℕ)
    (y' : Process) (hy' : (s.processes.set p x')[q]? = some y') :
    ∃ y, s.processes[q]? = some y ∧ Continues s y y' := by
  by_cases hpq : p = q
  · subst hpq
    obtain ⟨hlt, -⟩ := List.getElem?_eq_some_iff.1 hx
    rw [getElem?_set_self hlt] at hy'
    exact ⟨x, hx, some.inj hy' ▸ hc⟩
  · rw [getElem?_set_ne hpq] at hy'
    exact ⟨y', hy', .refl y'⟩

/-- A step of a process that leaves the runs as they are. -/
theorem Goes.process (hx : s.processes[p]? = some x) (hc : Continues s x x') :
    Goes s (s.goes p x') :=
  ⟨le_rfl, rfl, fun _ _ ↦ .refl _, continues_set hx hc⟩

/-- A step of a process that writes its run. -/
theorem Goes.run (hx : s.processes[p]? = some x) (hc : Continues s x x') (findings : Table Finding)
    {r : ℕ} {f : DataIntegrityRun → DataIntegrityRun}
    (hf : Ends (s.runs.row r) (f (s.runs.row r))) :
    Goes s ({ s with findings, runs := s.runs.modify r f }.goes p x') := by
  refine ⟨le_rfl, rfl, fun id _ ↦ ?_, continues_set hx hc⟩
  show Ends (s.runs.row id) ((s.runs.modify r f).row id)
  rw [Table.modify_row]
  split
  next h => exact h ▸ hf
  · exact .refl _

theorem mem_of_isRunning {id : ℕ} (h : s.isRunning id = true) :
    id ∈ s.runs.ids ∧ (s.runs.row id).status = .running := by
  obtain ⟨run, hrun, hstat⟩ := (any_eq_true _ _).1 h
  obtain ⟨hmem, rfl⟩ := s.runs.get?_eq_some.1 hrun
  exact ⟨hmem, of_decide_eq_true hstat⟩

theorem goes_check {x : Execution} {findingType : FindingType} {rest : List FindingType}
    (hx : s.processes[p]? = some (.executing x)) (result : Option CheckResult) :
    Goes s (s.check p x findingType rest result) := by
  cases result with
  | some result => exact .process hx (.next rfl rfl fun h ↦ absurd h (by simp [Phase.writes]))
  | none => exact .process hx (.next rfl rfl fun h ↦ absurd h (by simp [Phase.writes]))

theorem goes_failRun {x : Execution} (hx : s.processes[p]? = some (.executing x)) :
    Goes s (s.failRun p x) := by
  refine .run hx (.idle _) s.findings ?_
  split
  · exact ⟨rfl, .inr (by simp [DataIntegrityRun.over])⟩
  · exact .refl _

/-- A step of `execute_run`. -/
theorem goes_advance (hs : RunInvariant s) (hx : s.processes[p]? = some x) (notify : Bool) :
    Goes s (s.advance p notify x) := by
  cases x with
  | idle => exact ⟨le_rfl, rfl, fun _ _ ↦ .refl _, fun p x hx ↦ ⟨x, hx, .refl x⟩⟩
  | claimed id =>
    obtain ⟨-, -, start, -, hstart⟩ := hs.claimed p _ id hx rfl
    show Goes s (s.begin p id)
    rw [Audits.begin]
    split
    · exact .process hx (.begin rfl (by simp [hstart]) rfl)
    · exact .process hx (.idle _)
  | executing x =>
    simp only [Audits.advance]
    split
    · rw [Audits.begins]
      split
      next h => exact .process hx (.next rfl rfl fun _ ↦ .inr (mem_of_isRunning h).2)
      · exact .process hx (.idle _)
    · exact ⟨le_rfl, rfl, fun _ _ ↦ .refl _, fun p x hx ↦ ⟨x, hx, .refl x⟩⟩
    · rw [Audits.heartbeat]
      split
      · refine .run hx ?_ s.findings ?_
        · exact .next rfl rfl fun h ↦ absurd h (by simp [Phase.writes])
        · exact ⟨rfl, .inl ⟨rfl, rfl⟩⟩
      · exact .process hx (.idle _)
    next hph => exact .process hx (.next rfl rfl fun _ ↦ .inl (by rw [hph, Phase.writes]))
    next hph =>
      refine .run hx ?_ _ ?_
      · exact .next rfl rfl fun _ ↦ .inl (by rw [hph, Phase.writes])
      · exact ⟨rfl, .inl ⟨rfl, rfl⟩⟩
    next hph =>
      simp only [Audits.resolvePage]
      split
      · exact .process hx (.next rfl rfl fun _ ↦ .inl (by rw [hph, Phase.writes]))
      · exact ⟨le_rfl, rfl, fun _ _ ↦ .refl _,
          continues_set hx (.next rfl rfl fun _ ↦ .inl (by rw [hph, Phase.writes]))⟩
    · refine .run hx (.idle _) _ ⟨rfl, .inr ?_⟩
      simp only [DataIntegrityRun.over]
      split
      · simp
      · simp

theorem goes_recoverStaleRuns (s : Audits) : Goes s s.recoverStaleRuns := by
  refine ⟨le_rfl, rfl, fun id hid ↦ ?_, fun p x hx ↦ ⟨x, hx, .refl x⟩⟩
  simp only [Audits.recoverStaleRuns, Table.mapRows_row, if_pos hid]
  split
  · exact ⟨rfl, .inr (by simp [DataIntegrityRun.over])⟩
  · exact .refl _

theorem goes_act (s : Audits) (id : ℕ) (action : Finding → Except String Finding) :
    Goes s (s.act id action) := by
  have hsame : ∀ findings, Goes s { s with findings } := fun findings ↦
    ⟨le_rfl, rfl, fun _ _ ↦ .refl _, fun p x hx ↦ ⟨x, hx, .refl x⟩⟩
  rw [Audits.act]
  split
  · split
    · exact hsame _
    · exact hsame s.findings
  · exact hsame s.findings

theorem runs_act (s : Audits) (id : ℕ) (action : Finding → Except String Finding) :
    (s.act id action).runs = s.runs := by
  rw [Audits.act]
  split
  · split
    · rfl
    · rfl
  · rfl

theorem processes_act (s : Audits) (id : ℕ) (action : Finding → Except String Finding) :
    (s.act id action).processes = s.processes := by
  rw [Audits.act]
  split
  · split
    · rfl
    · rfl
  · rfl

theorem goes_crash (s : Audits) (p : ℕ) : Goes s (s.goes p .idle) := by
  cases hx : s.processes[p]? with
  | none =>
    have hsame : s.processes.set p .idle = s.processes :=
      set_eq_of_length_le (getElem?_eq_none_iff.1 hx)
    refine ⟨le_rfl, rfl, fun _ _ ↦ .refl _, fun q y hy ↦ ⟨y, ?_, .refl y⟩⟩
    exact (congrArg (·[q]?) hsame).symm.trans hy
  | some x => exact .process hx (.idle x)

/-! ### Queueing and claiming -/

theorem mem_of_queuedRun {id : ℕ} (h : s.queuedRun = some id) :
    id ∈ s.runs.ids ∧ (s.runs.row id).status = .queued := by
  have hmem := (mem_insertionSort _).1 (mem_of_head? h)
  obtain ⟨hid, hstat⟩ := s.runs.mem_select.1 hmem
  exact ⟨hid, of_decide_eq_true hstat⟩

/-- A claim sets a queued run running for an idle process. -/
theorem RunInvariant.claim (hs : RunInvariant s) (hx : s.processes[p]? = some .idle) :
    RunInvariant (s.claimQueuedRun p) := by
  simp only [Audits.claimQueuedRun]
  split
  · exact hs
  next id hid =>
    obtain ⟨hmem, hqueued⟩ := mem_of_queuedRun hid
    obtain ⟨hlt, -⟩ := List.getElem?_eq_some_iff.1 hx
    let claimed : DataIntegrityRun → DataIntegrityRun := fun run ↦
      { run with status := .running, startedAt := some s.clock, heartbeatAt := some s.clock }
    have hslot : ∀ i,
        ((s.runs.modify id claimed).row i).activeSlot = (s.runs.row i).activeSlot := by
      intro i
      rw [Table.modify_row]
      split
      · rfl
      · rfl
    have hother : ∀ (q : ℕ) (y : Process) (r : ℕ), s.processes[q]? = some y → y.runId = some r →
        r ≠ id := by
      rintro q y r hy hr rfl
      exact (hs.claimed q y r hy hr).2.1 hqueued
    have hprocesses : ∀ (q : ℕ) (y : Process), (s.processes.set p (.claimed id))[q]? = some y →
        q = p ∧ y = .claimed id ∨ q ≠ p ∧ s.processes[q]? = some y := by
      intro q y hy
      by_cases hpq : p = q
      · subst hpq
        rw [getElem?_set_self hlt] at hy
        exact .inl ⟨rfl, (some.inj hy).symm⟩
      · rw [getElem?_set_ne hpq] at hy
        exact .inr ⟨Ne.symm hpq, hy⟩
    refine ⟨fun i hi ↦ ?_, fun i hi j hj hi' hj' ↦ ?_, fun q y r hy hr ↦ ?_,
      fun q q' y y' r hy hy' hr hr' ↦ ?_, fun q y hy ↦ ?_⟩
    · show ((s.runs.modify id claimed).row i).activeSlot = true ↔
        ((s.runs.modify id claimed).row i).status = .queued ∨
          ((s.runs.modify id claimed).row i).status = .running
      rw [hslot, hs.slot i hi, Table.modify_row]
      split
      next h => simp [h, hqueued, claimed]
      · rfl
    · exact hs.unique i hi j hj ((hslot i).symm.trans hi') ((hslot j).symm.trans hj')
    · obtain ⟨rfl, rfl⟩ | ⟨-, hy⟩ := hprocesses q y hy
      · obtain rfl := some.inj hr
        refine ⟨hmem, ?_, s.clock, le_rfl, ?_⟩
        · simp [Audits.goes]
        · simp [Audits.goes]
      · have hne := hother q y r hy hr
        simpa [Audits.goes, Table.modify_row_of_ne _ hne] using hs.claimed q y r hy hr
    · obtain ⟨rfl, rfl⟩ | ⟨-, hy⟩ := hprocesses q y hy
      · obtain rfl := some.inj hr
        obtain ⟨rfl, rfl⟩ | ⟨-, hy'⟩ := hprocesses q' y' hy'
        · rfl
        · exact absurd rfl (hother q' y' _ hy' hr')
      · obtain ⟨-, hy'⟩ | ⟨-, hy'⟩ := hprocesses q' y' hy'
        · rw [hy'] at hr'
          exact absurd (some.inj hr').symm (hother q y r ‹_› hr)
        · exact hs.alone q q' y y' r hy hy' hr hr'
    · obtain ⟨-, hy⟩ | ⟨-, hy⟩ := hprocesses q _ hy
      · exact absurd hy (by simp)
      · have hne := hother q _ _ hy rfl
        simpa [Audits.goes, Table.modify_row_of_ne _ hne] using hs.now q y hy

theorem RunInvariant.insert (hs : RunInvariant s) {run : DataIntegrityRun}
    (hfree : s.runs.exists? (·.activeSlot) = false) (hqueued : run.status = .queued)
    (hslot : run.activeSlot = true) : RunInvariant { s with runs := s.runs.insert run } := by
  have hnone := s.runs.exists?_eq_false.1 hfree
  have hrow := fun id (hid : id ∈ s.runs.ids) ↦ s.runs.insert_row_of_mem run hid
  have hmem : ∀ {i : ℕ}, i ∈ (s.runs.insert run).ids → i ∈ s.runs.ids ∨ i = s.runs.freshKey := by
    intro i hi
    simpa using hi
  have hfresh : ∀ i ∈ (s.runs.insert run).ids,
      ((s.runs.insert run).row i).activeSlot = true → i = s.runs.freshKey := by
    intro i hi hslot
    obtain hi | hi := hmem hi
    · rw [hrow i hi] at hslot
      exact absurd hslot (by simp [hnone i hi])
    · exact hi
  refine ⟨fun i hi ↦ ?_, fun i hi j hj hi' hj' ↦ ?_, fun q y r hy hr ↦ ?_, hs.alone,
    fun q y hy ↦ ?_⟩
  · obtain hi | rfl := hmem hi
    · rw [hrow i hi]
      exact hs.slot i hi
    · simp [hqueued, hslot]
  · exact (hfresh i hi hi').trans (hfresh j hj hj').symm
  · obtain ⟨hid, hrest⟩ := hs.claimed q y r hy hr
    exact ⟨mem_append_left _ hid, (hrow r hid).symm ▸ hrest⟩
  · exact (congrArg _ (hrow _ (hs.claimed q _ _ hy rfl).1)).trans (hs.now q y hy)

theorem RunInvariant.queue (hs : RunInvariant s) (audited : Bool) :
    RunInvariant (s.queueAudit audited) := by
  have hrecov := hs.goes (goes_recoverStaleRuns s)
  simp only [Audits.queueAudit]
  split
  · exact hrecov
  next h =>
    rw [Bool.or_eq_true, not_or, Bool.not_eq_true] at h
    exact hrecov.insert h.1 rfl rfl

/-! ### Every event -/

/-- What an event does to the runs: a claim, a queueing, or less. -/
theorem RunInvariant.step (hs : RunInvariant s) (e : AuditEvent) :
    RunInvariant (auditStep s e) := by
  cases e with
  | tick microseconds =>
    refine hs.goes ⟨?_, rfl, fun _ _ ↦ .refl _, fun p x hx ↦ ⟨x, hx, .refl x⟩⟩
    exact Int.le_add_of_nonneg_right (Int.natCast_nonneg _)
  | queue audited => exact hs.queue audited
  | recover => exact hs.goes (goes_recoverStaleRuns s)
  | claim p =>
    simp only [auditStep]
    split
    next hx => exact hs.claim hx
    · exact hs
  | check p result =>
    simp only [auditStep]
    split
    next hx =>
      split
      · exact hs.goes (goes_check hx result)
      · exact hs
    · exact hs
  | next p notify =>
    simp only [auditStep]
    cases hx : s.processes[p]? with
    | none => exact hs
    | some x => exact hs.goes (goes_advance hs hx notify)
  | fail p =>
    simp only [auditStep]
    split
    next hx => exact hs.goes (goes_failRun hx)
    · exact hs
  | crash p => exact hs.goes (goes_crash s p)
  | _ =>
    simp only [auditStep]
    exact hs.goes (goes_act ..)

/-- What holds of the runs in every reachable state. -/
theorem runInvariant (hs : auditMachine.Reachable s) : RunInvariant s := by
  refine Machine.Reachable.invariant (fun s hinit ↦ ?_) (fun s e hs ↦ hs.step e) hs
  obtain ⟨hover, hidle, -⟩ := hinit
  have hnone : ∀ (p : ℕ) (x : Process) (r : ℕ), s.processes[p]? = some x → x.runId ≠ some r := by
    intro p x r hx
    rw [hidle x (mem_of_getElem? hx)]
    simp [Process.runId]
  refine ⟨fun id hid ↦ ?_, fun i hi j _ hi' _ ↦ ?_, fun p x r hx hr ↦ absurd hr (hnone p x r hx),
    fun p _ x _ r hx _ hr _ ↦ absurd hr (hnone p x r hx), fun p x hx ↦ absurd rfl (hnone p _ _ hx)⟩
  · obtain ⟨hslot, hqueued, hrunning⟩ := over_iff.1 (hover id hid)
    simp [hslot, hqueued, hrunning]
  · exact absurd hi' (by simp [(over_iff.1 (hover i hi)).1])

/-- One run is queued or running at most, and one process executes a run. -/
structure RunsAlone (s : Audits) : Prop where
  active : ∀ i ∈ s.runs.ids, ∀ j ∈ s.runs.ids,
    ((s.runs.row i).status = .queued ∨ (s.runs.row i).status = .running) →
      ((s.runs.row j).status = .queued ∨ (s.runs.row j).status = .running) → i = j
  executed : ∀ (p q : ℕ) (x y : Process) (r : ℕ), s.processes[p]? = some x →
    s.processes[q]? = some y → x.runId = some r → y.runId = some r → p = q

/-- **Runs are alone**, however audits are queued, recovered, claimed, delayed and killed. -/
theorem runs_alone (hs : auditMachine.Reachable s) : RunsAlone s where
  active i hi j hj hlive hlive' := by
    have hruns := runInvariant hs
    exact hruns.unique i hi j hj ((hruns.slot i hi).2 hlive) ((hruns.slot j hj).2 hlive')
  executed := (runInvariant hs).alone

/-- One process is in the midst of a run while the other one asks for another. -/
theorem runs_alone_audit :
    RunsAlone (auditMachine.run beforeAudits (auditTo 0 sharedAddress ++ [.queue true, .claim 1])) :=
  runs_alone (.run _ (.start beforeAudits_init))

end Kaya.Integrity
