import Kaya.Integrity.Model
import Kaya.Library.Machine

/-!
# Audit runs

The runs of audits with the processes that execute them, as a machine. Each event is one transaction
or one check: `queue_audit`, `recover_stale_runs`, `claim_queued_run`, a check of `execute_run` with
the report it comes to, the next step of `execute_run`, an exception in it, and the three actions of
an administrator. Any number of processes run side by side, and time passes between any two events.

`execute_run` reads the status of its run when it starts, in every heartbeat and once after the last
check. From there on it only writes: it persists the detections in batches, resolves what it has not
detected in pages, and sets the status of the run (`Phase.writes`).
-/

namespace Kaya.Integrity

open Kaya.HA (DateTime seconds)

/-! ### The state -/

/-- Where `execute_run` is. -/
inductive Phase
  /-- The checks that are left. -/
  | checking (rest : List FindingType)
  /-- The heartbeat after a check. -/
  | beating (rest : List FindingType)
  /-- The detections that are left. -/
  | persisting (rest : List Detection)
  /-- The types that are left, with the last id of the first one. -/
  | resolving (rest : List FindingType) (lastId : ℕ)

/-- The phases after the last look at the status of the run. -/
def Phase.writes : Phase → Bool
  | checking _ | beating _ => false
  | persisting _ | resolving _ _ => true

/-- What `execute_run` holds: `results` in the order of the checks, and whether `errors` has an
entry. -/
structure Execution where
  runId : ℕ
  now : DateTime
  results : List (FindingType × CheckResult)
  errors : Bool
  phase : Phase

/-- `detections`. -/
def Execution.detections (x : Execution) : List Detection :=
  x.results.flatMap fun result ↦ result.2.detections

/-- `detected_keys`. -/
def Execution.detectedKeys (x : Execution) : List FindingKey := x.detections.map Detection.key

/-- The types whose check came to its end. -/
def Execution.completeTypes (x : Execution) : List FindingType :=
  (x.results.filter fun result ↦ !result.2.truncated).map Prod.fst

/-- A process: at rest, with a claimed run, or in `execute_run`. -/
inductive Process
  | idle
  | claimed (runId : ℕ)
  | executing (x : Execution)

structure Audits where
  clock : DateTime
  findings : Table Finding
  runs : Table DataIntegrityRun
  processes : List Process

namespace Audits

variable (s : Audits)

/-- The state after a process has gone on. -/
def goes (p : ℕ) (process : Process) : Audits :=
  { s with processes := s.processes.set p process }

/-! ### Queueing and claiming -/

/-- `STALE_AFTER`. -/
def staleAfter : DateTime := seconds 600

/-- `recover_stale_runs`: the runs it finds. -/
def staleRuns : List ℕ :=
  ((s.runs.select (·.activeSlot)).take 10).filter fun id ↦
    let run := s.runs.row id
    ((run.heartbeatAt.or run.startedAt).getD run.queuedAt) < s.clock - staleAfter

/-- `recover_stale_runs`. -/
def recoverStaleRuns : Audits :=
  { s with
    runs := s.runs.mapRows fun id run ↦
      if id ∈ s.staleRuns then
        { run with status := .interrupted, activeSlot := false, completedAt := some s.clock }
      else run }

/-- `queue_audit`, where the request is audited or not. -/
def queueAudit (audited : Bool) : Audits :=
  let recovered := s.recoverStaleRuns
  -- The slot is unique, and an audit that is not recorded is rolled back.
  if recovered.runs.exists? (·.activeSlot) || !audited then recovered
  else
    { recovered with
      runs := recovered.runs.insert { status := .queued, activeSlot := true, queuedAt := s.clock } }

/-- The first queued run. -/
def queuedRun : Option ℕ :=
  ((s.runs.select (·.status = .queued)).insertionSort (· ≤ ·)).head?

/-- `claim_queued_run`. -/
def claimQueuedRun (p : ℕ) : Audits :=
  match s.queuedRun with
  | none => s
  | some id =>
    let runs := s.runs.modify id fun run ↦
      { run with status := .running, startedAt := some s.clock, heartbeatAt := some s.clock }
    { s with runs }.goes p (.claimed id)

/-! ### `execute_run` -/

/-- The run is there and its status is `running`. -/
def isRunning (id : ℕ) : Bool := (s.runs.get? id).any (·.status = .running)

/-- The start. -/
def begin (p id : ℕ) : Audits :=
  if s.isRunning id then
    s.goes p (.executing
      ⟨id, (s.runs.row id).startedAt.getD s.clock, [], false, .checking checks⟩)
  else s.goes p .idle

/-- A check, with its report or the exception it raises. -/
def check (p : ℕ) (x : Execution) (findingType : FindingType) (rest : List FindingType)
    (result : Option CheckResult) : Audits :=
  match result with
  | some result =>
    s.goes p (.executing
      { x with
        results := x.results ++ [(findingType, result)]
        errors := x.errors || result.truncated
        phase := .beating rest })
  | none => s.goes p (.executing { x with errors := true, phase := .beating rest })

/-- `_heartbeat`. -/
def heartbeat (p : ℕ) (x : Execution) (rest : List FindingType) : Audits :=
  if s.isRunning x.runId then
    { s with
      runs := s.runs.modify x.runId fun run ↦ { run with heartbeatAt := some s.clock } }.goes p
      (.executing { x with phase := .checking rest })
  else s.goes p .idle

/-- The look at the status after the checks. -/
def begins (p : ℕ) (x : Execution) : Audits :=
  if s.isRunning x.runId then s.goes p (.executing { x with phase := .persisting x.detections })
  else s.goes p .idle

/-- `PERSIST_BATCH`. -/
def persistBatch : ℕ := 200

/-- One detection of a batch. -/
def persist (x : Execution) (findings : Table Finding) (d : Detection) : Table Finding :=
  match findings.ids.find? fun id ↦ (findings.row id).key = d.key with
  | none => findings.insert (d.finding (some x.runId) x.now)
  | some id => findings.modify id fun finding ↦
      (finding.applyDetection d (some (x.runId, (s.runs.row x.runId).startedAt)) x.now).1

/-- A batch of detections. -/
def persistBatchOf (p : ℕ) (x : Execution) (rest : List Detection) : Audits :=
  { s with
    findings := (rest.take persistBatch).foldl (s.persist x) s.findings
    runs := s.runs.modify x.runId fun run ↦ { run with heartbeatAt := some s.clock } }.goes p
    (.executing { x with phase := .persisting (rest.drop persistBatch) })

/-- The query for a page of findings that the run has not detected. -/
def stalePage (x : Execution) (findingType : FindingType) (lastId : ℕ) : List ℕ :=
  let found := s.findings.ids.filter fun id ↦
    let finding := s.findings.row id
    finding.key.findingType = findingType ∧ finding.status ≠ .resolved ∧
      finding.lastDetectedAt < x.now ∧ lastId < id
  (found.insertionSort (· ≤ ·)).take persistBatch

/-- A finding of a page, unless it is still present or was decided after the run began. -/
def resolveStale (x : Execution) (finding : Finding) : Finding :=
  if finding.key ∈ x.detectedKeys ∨ finding.ignoredAt.any (x.now ≤ ·) then finding
  else finding.resolve s.clock "not_detected" (some x.runId)

/-- A page of findings. -/
def resolvePage (p : ℕ) (x : Execution) (findingType : FindingType) (rest : List FindingType)
    (lastId : ℕ) : Audits :=
  let page := s.stalePage x findingType lastId
  match page.getLast? with
  | none => s.goes p (.executing { x with phase := .resolving rest 0 })
  | some last =>
    { s with
      findings := s.findings.mapRows fun id finding ↦
        if id ∈ page then s.resolveStale x finding else finding }.goes p
      (.executing { x with phase := .resolving (findingType :: rest) last })

/-- `_notify_critical`: the findings it sends. -/
def criticalFindings (x : Execution) : List ℕ :=
  let found := s.findings.ids.filter fun id ↦
    let finding := s.findings.row id
    finding.status ≠ .resolved ∧ finding.status ≠ .ignored ∧ finding.severity = .critical ∧
      finding.lastRunId = some x.runId ∧
      finding.notifiedFingerprint ≠ some finding.evidenceFingerprint
  (found.insertionSort (· ≤ ·)).take 500

/-- The last commit: the findings are sent where the site wants that, and the run is over. -/
def finish (p : ℕ) (x : Execution) (notify : Bool) : Audits :=
  { s with
    findings := s.findings.mapRows fun id finding ↦
      if notify ∧ id ∈ s.criticalFindings x then
        { finding with notifiedFingerprint := some finding.evidenceFingerprint }
      else finding
    runs := s.runs.modify x.runId fun run ↦
      { run with
        status := if x.errors then .incomplete else .completed
        activeSlot := false
        completedAt := some s.clock } }.goes p .idle

/-- What follows an exception in `execute_run`. -/
def failRun (p : ℕ) (x : Execution) : Audits :=
  { s with
    runs := s.runs.modify x.runId fun run ↦
      if run.activeSlot then
        { run with status := .failed, activeSlot := false, completedAt := some s.clock }
      else run }.goes p .idle

/-- The next step of a process, other than a check. -/
def advance (p : ℕ) (notify : Bool) : Process → Audits
  | .idle => s
  | .claimed id => s.begin p id
  | .executing x =>
    match x.phase with
    | .checking [] => s.begins p x
    | .checking (_ :: _) => s
    | .beating rest => s.heartbeat p x rest
    | .persisting [] => s.goes p (.executing { x with phase := .resolving x.completeTypes 0 })
    | .persisting (d :: rest) => s.persistBatchOf p x (d :: rest)
    | .resolving (findingType :: rest) lastId => s.resolvePage p x findingType rest lastId
    | .resolving [] _ => s.finish p x notify

/-- An action on one finding. -/
def act (id : ℕ) (action : Finding → Except String Finding) : Audits :=
  if id ∈ s.findings.ids then
    match action (s.findings.row id) with
    | .ok finding => { s with findings := s.findings.modify id fun _ ↦ finding }
    | .error _ => s
  else s

end Audits

/-! ### Events -/

inductive AuditEvent
  | tick (microseconds : ℕ)
  | queue (audited : Bool)
  | recover
  | claim (p : ℕ)
  | check (p : ℕ) (result : Option CheckResult)
  | next (p : ℕ) (notify : Bool)
  | fail (p : ℕ)
  | crash (p : ℕ)
  | ignore (id : ℕ) (reason : String) (result : CheckResult)
  | reopen (id : ℕ) (result : CheckResult)
  | revalidate (id : ℕ) (result : CheckResult)

/-- The process of an event. -/
def AuditEvent.process : AuditEvent → Option ℕ
  | check p _ | next p _ | fail p | crash p => some p
  | _ => none

def auditStep (s : Audits) : AuditEvent → Audits
  | .tick microseconds => { s with clock := s.clock + microseconds }
  | .queue audited => s.queueAudit audited
  | .recover => s.recoverStaleRuns
  | .claim p =>
    match s.processes[p]? with
    | some .idle => s.claimQueuedRun p
    | _ => s
  | .check p result =>
    match s.processes[p]? with
    | some (.executing x) =>
      match x.phase with
      | .checking (findingType :: rest) => s.check p x findingType rest result
      | _ => s
    | _ => s
  | .next p notify => (s.processes[p]?).elim s (s.advance p notify)
  | .fail p =>
    match s.processes[p]? with
    | some (.executing x) => s.failRun p x
    | _ => s
  | .crash p => s.goes p .idle
  | .ignore id reason result => s.act id fun finding ↦ finding.ignore reason result s.clock
  | .reopen id result => s.act id fun finding ↦ finding.reopen result s.clock
  | .revalidate id result => s.act id fun finding ↦ .ok (finding.revalidate result s.clock).1

/-- Audits: to begin with no run is under way, no process is at work, and the findings have keys of
their own. -/
def auditMachine : Machine Audits AuditEvent where
  init s := (∀ id ∈ s.runs.ids, (s.runs.row id).over = true) ∧ (∀ x ∈ s.processes, x = .idle) ∧
    ∀ i ∈ s.findings.ids, ∀ j ∈ s.findings.ids,
      (s.findings.row i).key = (s.findings.row j).key → i = j
  step := auditStep

/-! ### A sample audit -/

/-- Two processes before the first audit. -/
def beforeAudits : Audits where
  clock := 0
  findings := ⟨[], fun _ ↦ Detection.finding ⟨⟨.duplicateActiveIp, ""⟩, "", none, none⟩ none 0,
    List.nodup_nil⟩
  runs := ⟨[], fun _ ↦ { status := .queued, activeSlot := false, queuedAt := 0 }, List.nodup_nil⟩
  processes := [.idle, .idle]

/-- An audit up to the look at its status, where every check reports the same. -/
def auditTo (p : ℕ) (result : CheckResult) : List AuditEvent :=
  [.queue true, .claim p, .next p false] ++
    (checks.flatMap fun _ ↦ [.check p (some result), .next p false]) ++ [.next p false]

/-- A report of a shared address. -/
def sharedAddress : CheckResult where
  detections := [⟨⟨.duplicateActiveIp, "192.0.2.7|4|-|-|any"⟩, "first", none, none⟩]

/-- An audit that detects the shared address and ends. -/
def wholeAudit (p : ℕ) : List AuditEvent :=
  auditTo p sharedAddress ++ List.replicate 16 (.next p false)

theorem beforeAudits_init : auditMachine.init beforeAudits :=
  ⟨by simp [beforeAudits], by simp [beforeAudits], by simp [beforeAudits]⟩

end Kaya.Integrity
