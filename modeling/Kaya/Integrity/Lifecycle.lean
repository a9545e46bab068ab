import Kaya.Integrity.FindingSteps

/-!
# The lifecycle of findings

The rules that the runs and the administrators keep, whatever the checks report and however the
steps interleave (`Lifecycle`). `RunChange` says once what a step of a run can do to a finding, and
every rule about the steps of a run is read off it.
-/

namespace Kaya.Integrity

open List
open Kaya.HA (DateTime)

variable {s : Audits} {e : AuditEvent} {x : Execution} {i p : ℕ} {now start : DateTime}
  {finding finding' : Finding}

/-- The event is a step of the execution. -/
def Executes (s : Audits) (e : AuditEvent) (x : Execution) : Prop :=
  ∃ p, e.process = some p ∧ s.processes[p]? = some (.executing x)

/-- The lifecycle of the findings, in a state and in the steps from it. -/
structure Lifecycle (s : Audits) : Prop where
  /-- There is one finding for a key. -/
  keys : UniqueKeys s.findings
  /-- A run resolves what a check has looked for to its end and the run has not detected. -/
  resolved : ∀ e x, Executes s e x → ∀ i ∈ s.findings.ids, (s.findings.row i).status ≠ .resolved →
    ((auditStep s e).findings.row i).status = .resolved →
      ∃ result, ((s.findings.row i).key.findingType, result) ∈ x.results ∧
        result.truncated = false ∧ (s.findings.row i).key ∉ x.detectedKeys
  /-- What is newly resolved or ignored while a run executes is decided since the run began. -/
  decides : ∀ (e : AuditEvent) (p : ℕ) (x : Execution), s.processes[p]? = some (.executing x) →
    ∀ i ∈ s.findings.ids, ((auditStep s e).findings.row i).status ≠ (s.findings.row i).status ∨
        ((auditStep s e).findings.row i).ignoredFingerprint ≠
          (s.findings.row i).ignoredFingerprint → ¬ ((auditStep s e).findings.row i).isActive →
        ((auditStep s e).findings.row i).decidedSince x.now = true
  /-- A run leaves what was decided since it began. -/
  decided : ∀ e x, Executes s e x → ∀ i ∈ s.findings.ids,
    (s.findings.row i).decidedSince x.now = true → (auditStep s e).findings.row i = s.findings.row i
  /-- What is ignored for the evidence that the run detects stays ignored for it. -/
  ignored : ∀ e x, Executes s e x → ∀ i ∈ s.findings.ids, (s.findings.row i).status = .ignored →
    (s.findings.row i).key ∈ x.detectedKeys → (∀ d ∈ x.detections, d.key = (s.findings.row i).key →
      (s.findings.row i).ignoredFingerprint = some d.fingerprint) →
      ((auditStep s e).findings.row i).status = .ignored ∧
        ((auditStep s e).findings.row i).ignoredFingerprint = (s.findings.row i).ignoredFingerprint
  /-- With other evidence the finding needs review, unless the batch reports it once more. -/
  reopened : ∀ (p : ℕ) (notify : Bool) (x : Execution) (rest : List Detection) (i : ℕ),
    s.processes[p]? = some (.executing x) → x.phase = .persisting rest → i ∈ s.findings.ids →
    (s.findings.row i).status = .ignored → (s.findings.row i).decidedSince x.now = false →
    ∀ same d later, (rest.take Audits.persistBatch).filter (·.key = (s.findings.row i).key) =
      same ++ d :: later →
    (∀ d' ∈ same, (s.findings.row i).ignoredFingerprint = some d'.fingerprint) →
    (s.findings.row i).ignoredFingerprint ≠ some d.fingerprint →
      ((auditStep s (.next p notify)).findings.row i).status =
        .active (later.getLast?.elim .needsReview Detection.initial)
  /-- What a run has detected is active when the run completes, or decided since the run began, or
  ignored for the evidence that was detected. -/
  detected : ∀ (p : ℕ) (notify : Bool) (x : Execution) (lastId : ℕ),
    s.processes[p]? = some (.executing x) → x.phase = .resolving [] lastId →
      ∀ d ∈ x.detections, Detected (auditStep s (.next p notify)).findings x.now d

/-! ### The detections of a batch -/

namespace Finding

theorem applyDetection_ne_resolved {d : Detection} {run : Option (ℕ × Option DateTime)}
    (h : finding.status ≠ .resolved) : (finding.applyDetection d run now).1.status ≠ .resolved := by
  cases hdec : (run.bind Prod.snd).any finding.decidedSince with
  | true =>
    rw [applyDetection_of_decided hdec]
    exact h
  | false =>
    cases hstat : finding.status with
    | active status => simp [applyDetection_of_active hstat]
    | resolved => exact absurd hstat h
    | ignored =>
      by_cases hsame : finding.ignoredFingerprint = some d.fingerprint
      · simp [(applyDetection_of_same run now hstat hsame).1]
      · simp [applyDetection_of_other now hstat hdec hsame]

end Finding

variable {run : ℕ × Option DateTime}

theorem applyAll_ne_resolved (h : finding.status ≠ .resolved) (ds : List Detection) :
    (applyAll run now finding ds).status ≠ .resolved := by
  induction ds generalizing finding with
  | nil => exact h
  | cons d ds ih => exact ih (Finding.applyDetection_ne_resolved h)

theorem applyAll_of_decided {id : ℕ} (h : finding.decidedSince start = true) (ds : List Detection) :
    applyAll (id, some start) now finding ds = finding := by
  induction ds with
  | nil => rfl
  | cons d ds ih =>
    have hrun : ((some (id, some start)).bind Prod.snd).any finding.decidedSince = true := h
    rw [applyAll, foldl_cons, Finding.applyDetection_of_decided hrun]
    exact ih

theorem applyAll_of_active {status : ActiveStatus} (h : finding.status = .active status)
    (ds : List Detection) : (applyAll run now finding ds).status =
      .active (ds.getLast?.elim status Detection.initial) := by
  induction ds generalizing finding status with
  | nil => exact h
  | cons d ds ih =>
    rw [applyAll, foldl_cons]
    refine (ih (Finding.applyDetection_of_active h)).trans ?_
    rw [getLast?_cons]
    cases ds.getLast? with
    | none => rfl
    | some d' => rfl

theorem applyAll_of_same (run : ℕ × Option DateTime) (now : DateTime)
    (h : finding.status = .ignored) {ds : List Detection}
    (hsame : ∀ d ∈ ds, finding.ignoredFingerprint = some d.fingerprint) :
    (applyAll run now finding ds).status = .ignored ∧
      (applyAll run now finding ds).ignoredFingerprint = finding.ignoredFingerprint ∧
      (applyAll run now finding ds).ignoredAt = finding.ignoredAt := by
  induction ds generalizing finding with
  | nil => exact ⟨h, rfl, rfl⟩
  | cons d ds ih =>
    obtain ⟨hignored, hprint, hat⟩ :=
      Finding.applyDetection_of_same (some run) now h (hsame d mem_cons_self)
    obtain ⟨hignored', hprint', hat'⟩ := ih hignored fun d' hd' ↦
      hprint.trans (hsame d' (mem_cons_of_mem _ hd'))
    exact ⟨hignored', hprint'.trans hprint, hat'.trans hat⟩

/-- The first detection with other evidence. -/
theorem applyAll_of_other {id : ℕ} (h : finding.status = .ignored)
    (hnot : finding.decidedSince start = false) {same later : List Detection} {d : Detection}
    (hsame : ∀ d ∈ same, finding.ignoredFingerprint = some d.fingerprint)
    (hother : finding.ignoredFingerprint ≠ some d.fingerprint) :
    (applyAll (id, some start) now finding (same ++ d :: later)).status =
      .active (later.getLast?.elim .needsReview Detection.initial) := by
  obtain ⟨hignored, hprint, hat⟩ := applyAll_of_same (id, some start) now h hsame
  have hnot' : (applyAll (id, some start) now finding same).decidedSince start = false := by
    simpa only [Finding.decidedSince, hignored, hat, h] using hnot
  have hrun : ((some (id, some start)).bind Prod.snd).any
      (applyAll (id, some start) now finding same).decidedSince = false := hnot'
  have hreview := Finding.applyDetection_of_other now hignored hrun (hprint ▸ hother)
  rw [applyAll, foldl_append, foldl_cons]
  exact applyAll_of_active hreview later

/-! ### What a run changes -/

/-- What a step of a run does to a finding. -/
inductive RunChange (s : Audits) (x : Execution) (finding : Finding) : Finding → Prop
  | same : RunChange s x finding finding
  | batch (rest : List Detection) (hph : x.phase = .persisting rest) :
      RunChange s x finding (applyAll (x.runId, some x.now) x.now finding
        ((rest.take Audits.persistBatch).filter (·.key = finding.key)))
  | absent (rest : List FindingType) (lastId : ℕ)
      (hph : x.phase = .resolving (finding.key.findingType :: rest) lastId)
      (hkey : finding.key ∉ x.detectedKeys) (hignored : ¬ finding.ignoredAt.any (x.now ≤ ·) = true)
      (hstat : finding.status ≠ .resolved) :
      RunChange s x finding (finding.resolve s.clock "not_detected" (some x.runId))
  | notified (hlive : finding.isActive) :
      RunChange s x finding
        { finding with notifiedFingerprint := some finding.evidenceFingerprint }

theorem mem_stalePage {findingType : FindingType} {lastId : ℕ}
    (h : i ∈ s.stalePage x findingType lastId) : i ∈ s.findings.ids ∧
      (s.findings.row i).key.findingType = findingType ∧ (s.findings.row i).status ≠ .resolved := by
  have hmem := (mem_insertionSort _).1 (mem_of_mem_take h)
  obtain ⟨hi, hrow⟩ := mem_filter.1 hmem
  obtain ⟨htype, hstat, -⟩ := of_decide_eq_true hrow
  exact ⟨hi, htype, hstat⟩

theorem isActive_of_mem_criticalFindings (h : i ∈ s.criticalFindings x) :
    (s.findings.row i).isActive := by
  have hmem := (mem_insertionSort _).1 (mem_of_mem_take h)
  obtain ⟨-, hrow⟩ := mem_filter.1 hmem
  obtain ⟨hres, hignored, -⟩ := of_decide_eq_true hrow
  cases hstat : (s.findings.row i).status with
  | active status => exact ⟨status, hstat⟩
  | resolved => exact absurd hstat hres
  | ignored => exact absurd hstat hignored

theorem FindingInvariant.batch_row (hs : FindingInvariant s)
    (hx : s.processes[p]? = some (.executing x)) (hi : i ∈ s.findings.ids) (rest : List Detection) :
    ((s.persistBatchOf p x rest).findings.row i) =
      applyAll (x.runId, some x.now) x.now (s.findings.row i)
        ((rest.take Audits.persistBatch).filter (·.key = (s.findings.row i).key)) := by
  have hrow := foldl_persist_row (s := s) (x := x) hs.keys hi (rest.take Audits.persistBatch)
  rw [hs.now p x hx] at hrow
  exact hrow

theorem FindingInvariant.runChange_advance (hs : FindingInvariant s)
    (hx : s.processes[p]? = some (.executing x)) (notify : Bool) (hi : i ∈ s.findings.ids) :
    RunChange s x (s.findings.row i) ((s.advance p notify (.executing x)).findings.row i) := by
  simp only [Audits.advance]
  split
  · simp only [Audits.begins]
    split
    · exact .same
    · exact .same
  · exact .same
  · simp only [Audits.heartbeat]
    split
    · exact .same
    · exact .same
  · exact .same
  next d rest hph =>
    exact hs.batch_row hx hi (d :: rest) ▸ .batch (d :: rest) hph
  next findingType rest lastId hph =>
    simp only [Audits.resolvePage]
    split
    · exact .same
    · simp only [Audits.goes, Table.mapRows_row, if_pos hi]
      split
      next hpage =>
        obtain ⟨-, htype, hstat⟩ := mem_stalePage hpage
        rw [Audits.resolveStale]
        split
        · exact .same
        next hnot =>
          obtain ⟨hkey, hignored⟩ := not_or.1 hnot
          exact .absent rest lastId (htype ▸ hph) hkey hignored hstat
      · exact .same
  · simp only [Audits.finish, Audits.goes, Table.mapRows_row, if_pos hi]
    split
    next h => exact .notified (isActive_of_mem_criticalFindings h.2)
    · exact .same

/-- **A step of a run**, as one finding sees it. -/
theorem FindingInvariant.runChange (hs : FindingInvariant s) (he : Executes s e x)
    (hi : i ∈ s.findings.ids) :
    RunChange s x (s.findings.row i) ((auditStep s e).findings.row i) := by
  obtain ⟨p, hp, hx⟩ := he
  cases e with
  | check q result =>
    simp only [auditStep]
    split
    · split
      · cases result with
        | some result => exact .same
        | none => exact .same
      · exact .same
    · exact .same
  | next q notify =>
    obtain rfl := Option.some.inj hp
    simp only [auditStep, hx]
    exact hs.runChange_advance hx notify hi
  | fail q =>
    simp only [auditStep]
    split
    · exact .same
    · exact .same
  | crash q => exact .same
  | _ => exact absurd hp (by simp [AuditEvent.process])

/-! ### The rules -/

theorem RunChange.not_detected (h : RunChange s x finding finding')
    (hstat : finding.status ≠ .resolved) (hres : finding'.status = .resolved) :
    (∃ rest lastId, x.phase = .resolving (finding.key.findingType :: rest) lastId) ∧
      finding.key ∉ x.detectedKeys := by
  cases h with
  | same => exact absurd hres hstat
  | batch rest hph => exact absurd hres (applyAll_ne_resolved hstat _)
  | absent rest lastId hph hkey => exact ⟨⟨rest, lastId, hph⟩, hkey⟩
  | notified => exact absurd hres hstat

theorem RunChange.of_decided (h : RunChange s x finding finding')
    (hdec : finding.decidedSince x.now = true) : finding' = finding := by
  cases h with
  | same => rfl
  | batch rest hph => exact applyAll_of_decided hdec _
  | absent rest lastId hph hkey hignored hstat =>
    cases hcases : finding.status with
    | active status => simp [Finding.decidedSince, hcases] at hdec
    | resolved => exact absurd hcases hstat
    | ignored =>
      simp only [Finding.decidedSince, hcases] at hdec
      exact absurd hdec hignored
  | notified hlive =>
    obtain ⟨status, hstat⟩ := hlive
    simp [Finding.decidedSince, hstat] at hdec

theorem RunChange.of_ignored (h : RunChange s x finding finding')
    (hstat : finding.status = .ignored) (hkey : finding.key ∈ x.detectedKeys)
    (hsame : ∀ d ∈ x.detections, d.key = finding.key →
      finding.ignoredFingerprint = some d.fingerprint)
    (hrest : ∀ rest, x.phase = .persisting rest → ∀ d ∈ rest, d ∈ x.detections) :
    finding'.status = .ignored ∧ finding'.ignoredFingerprint = finding.ignoredFingerprint := by
  cases h with
  | same => exact ⟨hstat, rfl⟩
  | batch rest hph =>
    have hbatch : ∀ d ∈ (rest.take Audits.persistBatch).filter (·.key = finding.key),
        finding.ignoredFingerprint = some d.fingerprint := by
      intro d hd
      obtain ⟨hmem, hdkey⟩ := mem_filter.1 hd
      exact hsame d (hrest rest hph d (mem_of_mem_take hmem)) (of_decide_eq_true hdkey)
    obtain ⟨hignored, hprint, -⟩ :=
      applyAll_of_same (x.runId, some x.now) x.now hstat hbatch
    exact ⟨hignored, hprint⟩
  | absent rest lastId hph hkey' => exact absurd hkey hkey'
  | notified => exact ⟨hstat, rfl⟩

/-- The invariant says what the lifecycle asks for. -/
theorem FindingInvariant.lifecycle_of (hs : FindingInvariant s) : Lifecycle s where
  keys := hs.keys
  resolved e x he i hi hstat hres := by
    obtain ⟨⟨rest, lastId, hph⟩, hkey⟩ := (hs.runChange he hi).not_detected hstat hres
    obtain ⟨p, -, hx⟩ := he
    have hsound := hs.sound p x hx
    simp only [Execution.Sound, hph] at hsound
    have hcomplete := hsound.1 _ mem_cons_self
    simp only [Execution.completeTypes, mem_map, mem_filter] at hcomplete
    obtain ⟨⟨findingType, result⟩, ⟨hmem, htruncated⟩, htype⟩ := hcomplete
    exact ⟨result, htype ▸ hmem, by simpa using htruncated, hkey⟩
  decides e p x hx i hi hne hnot := by
    have hevolves := (evolvesAll_step s e).rows i hi
    exact Finding.decidedSince_mono (hevolves.decides hne hnot) (hs.toRunInvariant.now_le hx)
  decided e x he i hi hdec := (hs.runChange he hi).of_decided hdec
  ignored e x he i hi hstat hkey hsame := by
    refine (hs.runChange he hi).of_ignored hstat hkey hsame fun rest hph d hd ↦ ?_
    obtain ⟨p, -, hx⟩ := he
    have hsound := hs.sound p x hx
    simp only [Execution.Sound, hph] at hsound
    obtain ⟨done, hdone, -⟩ := hsound
    exact hdone ▸ mem_append_right _ hd
  reopened p notify x rest i hx hph hi hstat hnot same d later hbatch hsame hother := by
    cases rest with
    | nil => exact absurd hbatch (by simp)
    | cons d' rest =>
      simp only [auditStep, hx, Option.elim_some, Audits.advance, hph]
      rw [hs.batch_row hx hi, hbatch]
      exact applyAll_of_other hstat hnot hsame hother
  detected p notify x lastId hx hph d hd := by
    have hsound := hs.sound p x hx
    simp only [Execution.Sound, hph] at hsound
    exact (hsound.2 d hd).evolves (evolvesAll_step s _) (hs.toRunInvariant.now_le hx)

/-- **The lifecycle of findings**, in every reachable state. -/
theorem lifecycle (hs : auditMachine.Reachable s) :
    Lifecycle s := (findingInvariant hs).lifecycle_of

/-- The finding of an audit is ignored before the next one detects it with other evidence. -/
def ignoredBetween : List AuditEvent :=
  wholeAudit 0 ++
    [.tick 1000000, .ignore 1 "A known pair of devices" sharedAddress, .tick 1000000] ++
    auditTo 1 ⟨[⟨⟨.duplicateActiveIp, "192.0.2.7|4|-|-|any"⟩, "second", none, none⟩], false⟩

theorem lifecycle_example : Lifecycle (auditMachine.run beforeAudits ignoredBetween) :=
  lifecycle (.run _ (.start beforeAudits_init))

example : (((auditMachine.run beforeAudits ignoredBetween).findings.row 1).status = .ignored) ∧
    ((auditMachine.run beforeAudits (ignoredBetween ++ [.next 1 false])).findings.row 1).status =
      .active .needsReview := by decide +kernel

/-- The rule without the exception: other evidence always leaves the finding to review. -/
def AlwaysReviewed (s : Audits) : Prop :=
  ∀ (p : ℕ) (notify : Bool) (x : Execution) (rest : List Detection) (i : ℕ),
    s.processes[p]? = some (.executing x) → x.phase = .persisting rest → i ∈ s.findings.ids →
    (s.findings.row i).status = .ignored → (s.findings.row i).decidedSince x.now = false →
    (∃ d ∈ rest.take Audits.persistBatch, d.key = (s.findings.row i).key ∧
      (s.findings.row i).ignoredFingerprint ≠ some d.fingerprint) →
      ((auditStep s (.next p notify)).findings.row i).status = .active .needsReview

/-- What the check of orphaned assignments reports of one of them. -/
def orphanReports (fingerprints : List String) : CheckResult where
  detections := fingerprints.map fun fingerprint ↦
    ⟨⟨.orphanedOpenAssignment, "7"⟩, fingerprint, none, none⟩

/-- An audit up to the look at its status, where only that check reports something. -/
def orphanAudit (p : ℕ) (result : CheckResult) : List AuditEvent :=
  [.queue true, .claim p, .next p false] ++ (checks.flatMap fun findingType ↦
    [.check p (some (if findingType = .orphanedOpenAssignment then result else ⟨[], false⟩)),
      .next p false]) ++ [.next p false]

/-- A finding is ignored, and the next audit reports its key twice, with other evidence. -/
def reportedTwice : List AuditEvent :=
  orphanAudit 0 (orphanReports ["first"]) ++ List.replicate 16 (.next 0 false) ++
    [.tick 1000000, .ignore 1 "A known orphan" (orphanReports ["first"]), .tick 1000000] ++
    orphanAudit 1 (orphanReports ["second", "second"])

/-- A process that writes a batch with other evidence for a finding which was not decided since. -/
def Audits.reportsAnew (s : Audits) (id : ℕ) : Process → Bool
  | .executing x =>
    match x.phase with
    | .persisting rest =>
      ((s.findings.row id).decidedSince x.now = false) ∧
        ∃ d ∈ rest.take Audits.persistBatch, d.key = (s.findings.row id).key ∧
          (s.findings.row id).ignoredFingerprint ≠ some d.fingerprint
    | _ => false
  | _ => false

/-- **A key that is reported twice ends open**: the first report makes the finding one to review, and
the second one finds it active. -/
theorem reported_twice_open : ¬ ∀ s, auditMachine.Reachable s → AlwaysReviewed s := by
  intro hall
  have hs := hall (auditMachine.run beforeAudits reportedTwice) (.run _ (.start beforeAudits_init))
  have hbatch : ((auditMachine.run beforeAudits reportedTwice).processes[1]?).any
      ((auditMachine.run beforeAudits reportedTwice).reportsAnew 1) = true := by decide +kernel
  obtain ⟨process, hx, hproc⟩ := (Option.any_eq_true _ _).1 hbatch
  cases process with
  | executing x =>
    cases hph : x.phase with
    | persisting rest =>
      simp only [Audits.reportsAnew, hph] at hproc
      obtain ⟨hnot, hother⟩ := of_decide_eq_true hproc
      have hstat := hs 1 false x rest 1 hx hph (by decide +kernel) (by decide +kernel) hnot
        hother
      revert hstat
      decide +kernel
    | _ => simp [Audits.reportsAnew, hph] at hproc
  | _ => exact absurd hproc (by simp [Audits.reportsAnew])

end Kaya.Integrity
