import Kaya.Integrity.RunSteps

/-!
# One audit at a time

A run holds the active slot while it is queued or running, and the slot is unique. A process writes
findings once it has passed the look at the status of its run (`Phase.writes`), and looks at it no
more: the lease is the heartbeat, which the batches renew and the pages do not.

Where `recover_stale_runs` marks no run that is past that look (`spares`), the run of a process that
writes is running (`WriteInvariant`), so no other process writes, and an interrupted run neither
changes a finding nor its status (`one_audit`).
-/

namespace Kaya.Integrity

open Kaya.HA (DateTime seconds)

variable {s t : Audits} {p r : ℕ} {x : Process}

/-- The process writes findings for the run. -/
def Process.writesFor (id : ℕ) : Process → Bool
  | executing x => x.runId = id && x.phase.writes
  | _ => false

theorem Process.exists_of_writesFor (h : x.writesFor r = true) :
    ∃ y, x = .executing y ∧ y.phase.writes = true := by
  cases x with
  | idle => exact absurd h (by simp [Process.writesFor])
  | claimed id => exact absurd h (by simp [Process.writesFor])
  | executing y => exact ⟨y, rfl, (Bool.and_eq_true_iff.1 h).2⟩

/-- No audit interferes with another one. -/
structure Exclusive (s : Audits) : Prop where
  /-- One process writes findings. -/
  one : ∀ (p q : ℕ) (x y : Execution), s.processes[p]? = some (.executing x) →
    s.processes[q]? = some (.executing y) → x.phase.writes = true → y.phase.writes = true → p = q
  /-- The process of an interrupted run changes no finding. -/
  findings : ∀ (e : AuditEvent) (p : ℕ) (x : Process) (r : ℕ), e.process = some p →
    s.processes[p]? = some x → x.runId = some r → (s.runs.row r).status = .interrupted →
      (auditStep s e).findings = s.findings
  /-- An interrupted run stays interrupted. -/
  status : ∀ (e : AuditEvent), ∀ r ∈ s.runs.ids, (s.runs.row r).status = .interrupted →
    ((auditStep s e).runs.row r).status = .interrupted

/-- `recover_stale_runs` marks no run that is past the look at its status. -/
def spares (s : Audits) : AuditEvent → Bool
  | .queue _ | .recover => s.staleRuns.all fun id ↦ s.processes.all fun x ↦ !x.writesFor id
  | _ => true

/-! ### The run of a process that writes -/

/-- What holds as long as no run that is past the look at its status is marked. -/
structure WriteInvariant (s : Audits) : Prop extends RunInvariant s where
  writing : ∀ (p : ℕ) (x : Execution), s.processes[p]? = some (.executing x) →
    x.phase.writes = true → (s.runs.row x.runId).status = .running

theorem WriteInvariant.goes (hs : WriteInvariant s) (h : Goes s t)
    (hkept : ∀ (p : ℕ) (x : Execution), t.processes[p]? = some (.executing x) →
      (t.runs.row x.runId).status = (s.runs.row x.runId).status) : WriteInvariant t := by
  refine ⟨hs.toRunInvariant.goes h, fun p x' hx' hph' ↦ (hkept p x' hx').trans ?_⟩
  obtain ⟨x, hx, hc⟩ := h.processes p _ hx'
  cases hc with
  | refl => exact hs.writing p x' hx hph'
  | begin _ _ hph => exact absurd hph' (by simp [hph])
  | @next x _ hid _ hph =>
    rw [hid]
    exact (hph hph').elim (hs.writing p x hx) id

/-- The processes of other runs, after one has ended. -/
theorem status_of_ended (hs : RunInvariant s) (hx : s.processes[p]? = some x)
    (hr : x.runId = some r) (f : DataIntegrityRun → DataIntegrityRun) (q : ℕ) (y : Execution)
    (hy : (s.processes.set p .idle)[q]? = some (.executing y)) :
    ((s.runs.modify r f).row y.runId).status = (s.runs.row y.runId).status := by
  have hne : p ≠ q := by
    rintro rfl
    obtain ⟨hlt, -⟩ := List.getElem?_eq_some_iff.1 hx
    rw [List.getElem?_set_self hlt] at hy
    exact absurd hy (by simp)
  rw [List.getElem?_set_ne hne] at hy
  have hrun : y.runId ≠ r := fun h ↦ hne (hs.alone p q x _ r hx hy hr (congrArg some h))
  rw [Table.modify_row_of_ne _ hrun]

/-- The heartbeat keeps the status. -/
theorem status_heartbeat (id : ℕ) (now : DateTime) :
    ((s.runs.modify r fun run ↦ { run with heartbeatAt := some now }).row id).status =
      (s.runs.row id).status := by
  rw [Table.modify_row]
  split
  · rfl
  · rfl

section

variable (hs : WriteInvariant s)

include hs

theorem WriteInvariant.advance
    (hx : s.processes[p]? = some x) (notify : Bool) : WriteInvariant (s.advance p notify x) := by
  refine hs.goes (goes_advance hs.toRunInvariant hx notify) fun q y hy ↦ ?_
  cases x with
  | idle => rfl
  | claimed id =>
    simp only [Audits.advance, Audits.begin]
    split
    · rfl
    · rfl
  | executing x =>
    simp only [Audits.advance] at hy ⊢
    split at hy
    · simp only [Audits.begins]
      split
      · rfl
      · rfl
    · rfl
    · simp only [Audits.heartbeat]
      split
      · exact status_heartbeat _ _
      · rfl
    · rfl
    · exact status_heartbeat _ _
    · simp only [Audits.resolvePage]
      split
      · rfl
      · rfl
    · simp only [Audits.finish, Audits.goes]
      exact status_of_ended hs.toRunInvariant hx rfl _ q y hy

/-- The run of a process that writes is not marked. -/
theorem WriteInvariant.recover
    (hok : ∀ id ∈ s.staleRuns, ∀ x ∈ s.processes, x.writesFor id = false) :
    WriteInvariant s.recoverStaleRuns := by
  refine ⟨hs.toRunInvariant.goes (goes_recoverStaleRuns s), fun p x hx hph ↦ ?_⟩
  have hspared : x.runId ∉ s.staleRuns := fun hstale ↦
    absurd (hok _ hstale _ (List.mem_of_getElem? hx)) (by simp [Process.writesFor, hph])
  simp only [Audits.recoverStaleRuns, Table.mapRows_row, if_neg hspared, ite_self]
  exact hs.writing p x hx hph

theorem WriteInvariant.queue
    (hok : ∀ id ∈ s.staleRuns, ∀ x ∈ s.processes, x.writesFor id = false) (audited : Bool) :
    WriteInvariant (s.queueAudit audited) := by
  refine ⟨hs.toRunInvariant.queue audited, ?_⟩
  have hrecov := hs.recover hok
  simp only [Audits.queueAudit]
  split
  · exact hrecov.writing
  · intro p x hx hph
    have hmem := (hrecov.claimed p _ _ hx rfl).1
    exact (congrArg _ (Table.insert_row_of_mem _ _ hmem)).trans (hrecov.writing p x hx hph)

theorem WriteInvariant.claim (hx : s.processes[p]? = some .idle) :
    WriteInvariant (s.claimQueuedRun p) := by
  refine ⟨hs.toRunInvariant.claim hx, ?_⟩
  simp only [Audits.claimQueuedRun]
  split
  · exact hs.writing
  next id hid =>
    intro q y hy hph
    obtain ⟨hlt, -⟩ := List.getElem?_eq_some_iff.1 hx
    have hne : p ≠ q := by
      rintro rfl
      exact absurd hy (by simp [Audits.goes, List.getElem?_set_self hlt])
    have hold : s.processes[q]? = some (.executing y) :=
      (List.getElem?_set_ne hne).symm.trans hy
    have hrun : y.runId ≠ id := by
      rintro rfl
      exact (hs.claimed q _ _ hold rfl).2.1 (mem_of_queuedRun hid).2
    simp only [Audits.goes, Table.modify_row_of_ne _ hrun]
    exact hs.writing q y hold hph

/-- A step that spares the processes that write keeps it. -/
theorem WriteInvariant.step {e : AuditEvent} (hok : spares s e = true) :
    WriteInvariant (auditStep s e) := by
  have hsame : ∀ t, Goes s t → t.runs = s.runs → WriteInvariant t := fun t h hruns ↦
    hs.goes h fun _ _ _ ↦ by rw [hruns]
  have hspared (hok : (s.staleRuns.all fun id ↦ s.processes.all fun x ↦ !x.writesFor id) = true) :
      ∀ id ∈ s.staleRuns, ∀ x ∈ s.processes, x.writesFor id = false := by
    simpa using hok
  cases e with
  | tick microseconds =>
    refine hsame _ ⟨?_, rfl, fun _ _ ↦ .refl _, fun p x hx ↦ ⟨x, hx, .refl x⟩⟩ rfl
    exact Int.le_add_of_nonneg_right (Int.natCast_nonneg _)
  | queue audited => exact hs.queue (hspared hok) audited
  | recover => exact hs.recover (hspared hok)
  | claim p =>
    simp only [auditStep]
    split
    next hx => exact hs.claim hx
    · exact hs
  | check p result =>
    simp only [auditStep]
    split
    next hx =>
      split
      · refine hsame _ (goes_check hx result) ?_
        cases result with
        | some result => rfl
        | none => rfl
      · exact hs
    · exact hs
  | next p notify =>
    simp only [auditStep]
    cases hx : s.processes[p]? with
    | none => exact hs
    | some x => exact hs.advance hx notify
  | fail p =>
    simp only [auditStep]
    split
    next hx =>
      refine hs.goes (goes_failRun hx) fun q y hy ↦ ?_
      show ((s.runs.modify _ _).row y.runId).status = _
      exact status_of_ended hs.toRunInvariant hx rfl _ q y hy
    · exact hs
  | crash p => exact hsame _ (goes_crash s p) rfl
  | _ =>
    simp only [auditStep]
    exact hsame _ (goes_act ..) (runs_act ..)

end

/-! ### Exclusive audits -/

/-- A step of a process that does not write leaves the findings. -/
theorem findings_advance (notify : Bool) (hph : ∀ y, x = .executing y → y.phase.writes = false) :
    (s.advance p notify x).findings = s.findings := by
  cases x with
  | idle => rfl
  | claimed id =>
    simp only [Audits.advance, Audits.begin]
    split
    · rfl
    · rfl
  | executing x =>
    have hx := hph x rfl
    simp only [Audits.advance]
    split
    · simp only [Audits.begins]
      split
      · rfl
      · rfl
    · rfl
    · simp only [Audits.heartbeat]
      split
      · rfl
      · rfl
    next h => exact absurd hx (by simp [h, Phase.writes])
    next h => exact absurd hx (by simp [h, Phase.writes])
    next h => exact absurd hx (by simp [h, Phase.writes])
    next h => exact absurd hx (by simp [h, Phase.writes])

/-- A step of a process leaves a run that has been interrupted. -/
theorem WriteInvariant.status_advance (hs : WriteInvariant s)
    (hx : s.processes[p]? = some x) (hr : (s.runs.row r).status = .interrupted) (notify : Bool) :
    ((s.advance p notify x).runs.row r).status = .interrupted := by
  cases x with
  | idle => exact hr
  | claimed id =>
    simp only [Audits.advance, Audits.begin]
    split
    · exact hr
    · exact hr
  | executing x =>
    simp only [Audits.advance]
    split
    · simp only [Audits.begins]
      split
      · exact hr
      · exact hr
    · exact hr
    · simp only [Audits.heartbeat]
      split
      · exact (status_heartbeat _ _).trans hr
      · exact hr
    · exact hr
    · exact (status_heartbeat _ _).trans hr
    · simp only [Audits.resolvePage]
      split
      · exact hr
      · exact hr
    next h =>
      have hrunning := hs.writing p x hx (by rw [h, Phase.writes])
      have hne : r ≠ x.runId := by
        rintro rfl
        exact absurd (hr.symm.trans hrunning) (by simp)
      simp only [Audits.finish, Audits.goes, Table.modify_row_of_ne _ hne]
      exact hr

theorem status_recoverStaleRuns (hr : (s.runs.row r).status = .interrupted) :
    (s.recoverStaleRuns.runs.row r).status = .interrupted := by
  simp only [Audits.recoverStaleRuns, Table.mapRows_row]
  split
  · split
    · rfl
    · exact hr
  · exact hr

/-- An interrupted run stays interrupted. -/
theorem WriteInvariant.status_step (hs : WriteInvariant s) (e : AuditEvent)
    (hmem : r ∈ s.runs.ids) (hr : (s.runs.row r).status = .interrupted) :
    ((auditStep s e).runs.row r).status = .interrupted := by
  cases e with
  | tick microseconds => exact hr
  | queue audited =>
    simp only [auditStep, Audits.queueAudit]
    split
    · exact status_recoverStaleRuns hr
    · show ((s.recoverStaleRuns.runs.insert _).row r).status = .interrupted
      rw [Table.insert_row_of_mem _ _ (show r ∈ s.recoverStaleRuns.runs.ids from hmem)]
      exact status_recoverStaleRuns hr
  | recover => exact status_recoverStaleRuns hr
  | claim p =>
    simp only [auditStep]
    split
    · simp only [Audits.claimQueuedRun]
      split
      · exact hr
      next id hid =>
        have hne : r ≠ id := by
          rintro rfl
          exact absurd (hr.symm.trans (mem_of_queuedRun hid).2) (by simp)
        simp only [Audits.goes, Table.modify_row_of_ne _ hne]
        exact hr
    · exact hr
  | check p result =>
    simp only [auditStep]
    split
    · split
      · cases result with
        | some result => exact hr
        | none => exact hr
      · exact hr
    · exact hr
  | next p notify =>
    simp only [auditStep]
    cases hx : s.processes[p]? with
    | none => exact hr
    | some x => exact hs.status_advance hx hr notify
  | fail p =>
    simp only [auditStep]
    split
    next x hx =>
      have hslot : (s.runs.row r).activeSlot = false := by
        simpa [hr] using hs.slot r hmem
      simp only [Audits.failRun, Audits.goes, Table.modify_row]
      split
      next h => simp only [hslot, Bool.false_eq_true, if_false, hr]
      · exact hr
    · exact hr
  | crash p => exact hr
  | _ =>
    simp only [auditStep, runs_act]
    exact hr

/-- The process of an interrupted run does not write. -/
theorem WriteInvariant.findings_step (hs : WriteInvariant s) {e : AuditEvent}
    (he : e.process = some p) (hx : s.processes[p]? = some x) (hxr : x.runId = some r)
    (hr : (s.runs.row r).status = .interrupted) : (auditStep s e).findings = s.findings := by
  cases e with
  | check q result =>
    simp only [auditStep]
    split
    · split
      · cases result with
        | some result => rfl
        | none => rfl
      · rfl
    · rfl
  | next q notify =>
    obtain rfl := Option.some.inj he
    simp only [auditStep, hx]
    refine findings_advance notify fun y hy ↦ Bool.eq_false_iff.2 fun hph ↦ ?_
    subst hy
    have hrunning := hs.writing q y hx hph
    rw [Option.some.inj hxr, hr] at hrunning
    exact absurd hrunning (by simp)
  | fail q =>
    simp only [auditStep]
    split
    · rfl
    · rfl
  | crash q => rfl
  | _ => exact absurd he (by simp [AuditEvent.process])

theorem WriteInvariant.exclusive (hs : WriteInvariant s) : Exclusive s where
  one p q x y hx hy hxphase hyphase := by
    obtain ⟨hxmem, -⟩ := hs.claimed p _ _ hx rfl
    obtain ⟨hymem, -⟩ := hs.claimed q _ _ hy rfl
    have hxslot := (hs.slot _ hxmem).2 (.inr (hs.writing p x hx hxphase))
    have hyslot := (hs.slot _ hymem).2 (.inr (hs.writing q y hy hyphase))
    have hsame := hs.unique _ hxmem _ hymem hxslot hyslot
    exact hs.alone p q _ _ x.runId hx hy rfl (congrArg some hsame.symm)
  findings _ _ _ _ he hx hxr hr := hs.findings_step he hx hxr hr
  status e _ hmem hr := hs.status_step e hmem hr

theorem writeInvariant (hs : auditMachine.ReachableBy (spares · · = true) s) : WriteInvariant s :=
  hs.invariant
    (fun s hinit ↦ ⟨runInvariant (.start hinit), fun p x hx ↦
      absurd (hinit.2.1 _ (List.mem_of_getElem? hx)) (by simp)⟩)
    fun _ _ hs hok ↦ hs.step hok

/-- **One audit at a time**, where no run past the look at its status is marked as interrupted. -/
theorem one_audit (hs : auditMachine.ReachableBy (spares · · = true) s) : Exclusive s :=
  (writeInvariant hs).exclusive

/-! ### Examples -/

/-- Two audits of which the second begins when the first has not been heard of for ten minutes. -/
def overlappingAudits : List AuditEvent :=
  auditTo 0 sharedAddress ++ [.tick 601000000] ++ auditTo 1 ⟨[], false⟩

theorem one_audit_example :
    Exclusive (auditMachine.run beforeAudits
      (wholeAudit 0 ++ [.tick 601000000] ++ auditTo 1 sharedAddress)) :=
  one_audit (.run (.start beforeAudits_init) (by decide +kernel))

/-- **Two audits at a time**: no batch and no page of the first one has renewed its heartbeat, so
the queueing of the second one marks it as interrupted. It writes all the same. -/
theorem audits_overlap : ¬ ∀ s, auditMachine.Reachable s → Exclusive s := by
  intro hall
  have hs := hall (auditMachine.run beforeAudits overlappingAudits)
    (.run _ (.start beforeAudits_init))
  have hfirst : ((auditMachine.run beforeAudits overlappingAudits).processes[0]?).any
      (·.writesFor 1) = true := by decide +kernel
  have hsecond : ((auditMachine.run beforeAudits overlappingAudits).processes[1]?).any
      (·.writesFor 2) = true := by decide +kernel
  obtain ⟨_, hx, hxwrites⟩ := (Option.any_eq_true _ _).1 hfirst
  obtain ⟨_, hy, hywrites⟩ := (Option.any_eq_true _ _).1 hsecond
  obtain ⟨x, rfl, hxphase⟩ := Process.exists_of_writesFor hxwrites
  obtain ⟨y, rfl, hyphase⟩ := Process.exists_of_writesFor hywrites
  exact absurd (hs.one 0 1 x y hx hy hxphase hyphase) (by omega)

end Kaya.Integrity
