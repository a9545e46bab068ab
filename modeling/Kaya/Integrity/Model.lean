import Kaya.HA.Model
import Kaya.Library.Checks

/-!
# Data integrity findings

The rows of the data integrity module, and what its functions do to one finding: `apply_detection`,
`resolve_finding`, `revalidate_finding`, `ignore_finding` and `reopen_finding`.

A finding is named by its type and its subject; the digest that the table stores stands for the two.
What the checks read is not here: a check is its report, and `detectSubject` what the report of a
check for one subject says of a finding. The columns that only describe a finding to its reader are
left out.

`applyDetection` refuses to undo what was decided after its run began (`decidedSince`).
-/

namespace Kaya.Integrity

open Kaya.HA (DateTime seconds)

/-! ### Rows -/

/-- The types of findings, in the order of `CHECKS`. -/
inductive FindingType
  | duplicateConfirmedMac
  | managedStaticAssignment
  | duplicateActiveIp
  | duplicateOpenAssignment
  | obsoleteDhcpAssignment
  | suspectDhcpClientId
  | staticHostnameAutoFilled
  | dnsAssetLinkConflict
  | orphanedOpenAssignment
  | orphanedConfirmedEvidence
  | invalidAssignmentInterval
  | assignmentProvenanceMismatch
  deriving DecidableEq

/-- `CHECKS`. -/
def checks : List FindingType :=
  [.duplicateConfirmedMac, .managedStaticAssignment, .duplicateActiveIp, .duplicateOpenAssignment,
    .obsoleteDhcpAssignment, .suspectDhcpClientId, .staticHostnameAutoFilled, .dnsAssetLinkConflict,
    .orphanedOpenAssignment, .orphanedConfirmedEvidence, .invalidAssignmentInterval,
    .assignmentProvenanceMismatch]

/-- `ACTIVE_STATUSES`. -/
inductive ActiveStatus
  | opened
  | needsReview
  deriving DecidableEq

/-- `STATUSES`. -/
inductive FindingStatus
  | active (status : ActiveStatus)
  | resolved
  | ignored
  deriving DecidableEq

inductive Severity
  | info
  | warning
  | critical
  deriving DecidableEq

namespace FindingType

/-- The `initial_status` of the definition. -/
def initialStatus : FindingType → ActiveStatus
  | managedStaticAssignment | obsoleteDhcpAssignment => .opened
  | orphanedOpenAssignment | orphanedConfirmedEvidence => .opened
  | _ => .needsReview

/-- The `severity` of the definition. -/
def severity : FindingType → Severity
  | duplicateConfirmedMac | duplicateActiveIp => .critical
  | orphanedConfirmedEvidence | assignmentProvenanceMismatch => .info
  | _ => .warning

end FindingType

/-- What the digest `finding_key` is taken of. -/
structure FindingKey where
  findingType : FindingType
  subject : String
  deriving DecidableEq

/-- `Detection`. -/
structure Detection where
  key : FindingKey
  fingerprint : String
  severity : Option Severity := none
  status : Option ActiveStatus := none

/-- The status a detection gives to a finding: `detection.status or definition.initial_status`. -/
def Detection.initial (d : Detection) : ActiveStatus :=
  d.status.getD d.key.findingType.initialStatus

/-- `CheckResult`. -/
structure CheckResult where
  detections : List Detection
  truncated : Bool := false

/-- `DataIntegrityFinding`. -/
structure Finding where
  key : FindingKey
  severity : Severity
  status : FindingStatus
  evidenceFingerprint : String
  firstDetectedAt : DateTime
  lastDetectedAt : DateTime
  lastRunId : Option ℕ := none
  resolvedAt : Option DateTime := none
  resolvedRunId : Option ℕ := none
  resolution : Option String := none
  ignoredAt : Option DateTime := none
  ignoreReason : Option String := none
  ignoredFingerprint : Option String := none
  reopenedCount : ℕ := 0
  notifiedFingerprint : Option String := none

inductive RunStatus
  | queued
  | running
  | completed
  | incomplete
  | failed
  | interrupted
  deriving DecidableEq

/-- `DataIntegrityRun`. -/
structure DataIntegrityRun where
  status : RunStatus
  /-- `active_slot` is set. -/
  activeSlot : Bool
  queuedAt : DateTime
  startedAt : Option DateTime := none
  heartbeatAt : Option DateTime := none
  completedAt : Option DateTime := none

/-- The run is neither queued nor running. -/
def DataIntegrityRun.over (run : DataIntegrityRun) : Bool :=
  !run.activeSlot && run.status ≠ .queued && run.status ≠ .running

/-- The outcomes that a run counts. -/
inductive Outcome
  | new
  | reopened

/-! ### One finding -/

/-- `apply_detection` for a detection without a finding. -/
def Detection.finding (d : Detection) (runId : Option ℕ) (now : DateTime) : Finding where
  key := d.key
  severity := d.severity.getD d.key.findingType.severity
  status := .active d.initial
  evidenceFingerprint := d.fingerprint
  firstDetectedAt := now
  lastDetectedAt := now
  lastRunId := runId

namespace Finding

variable (finding : Finding)

/-- An administrator resolved or ignored the finding at or after an instant. -/
def decidedSince (start : DateTime) : Bool :=
  match finding.status with
  | .resolved => finding.resolvedAt.any (start ≤ ·)
  | .ignored => finding.ignoredAt.any (start ≤ ·)
  | .active _ => false

/-- The columns that every detection of a finding writes. -/
def detectedAs (d : Detection) (runId : Option ℕ) (now : DateTime) : Finding :=
  { finding with
    severity := d.severity.getD d.key.findingType.severity
    lastDetectedAt := now
    lastRunId := runId.or finding.lastRunId
    evidenceFingerprint := d.fingerprint }

/-- `apply_detection` for a finding that exists. A run is its id and its `started_at`. -/
def applyDetection (d : Detection) (run : Option (ℕ × Option DateTime)) (now : DateTime) :
    Finding × Option Outcome :=
  if (run.bind Prod.snd).any finding.decidedSince then (finding, none)
  else
    let detected := finding.detectedAs d (run.map Prod.fst) now
    match finding.status with
    | .resolved =>
      ({ detected with
          status := .active d.initial
          reopenedCount := finding.reopenedCount + 1
          resolvedAt := none
          resolvedRunId := none
          resolution := none }, some .reopened)
    | .ignored =>
      if finding.ignoredFingerprint ≠ some d.fingerprint then
        ({ detected with
            status := .active .needsReview
            reopenedCount := finding.reopenedCount + 1
            ignoredAt := none
            ignoreReason := none
            ignoredFingerprint := none }, some .reopened)
      else (detected, none)
    | .active _ => ({ detected with status := .active d.initial }, none)

/-- `resolve_finding`. -/
def resolve (now : DateTime) (resolution : String) (runId : Option ℕ) : Finding :=
  if finding.status = .resolved then finding
  else
    { finding with
      status := .resolved
      resolvedAt := some now
      resolvedRunId := runId
      resolution := some resolution }

/-- `detect_subject`: what the check of the finding's type reports for its subject. -/
def detectSubject (result : CheckResult) : Option Detection :=
  if finding.key.subject = "" then none else result.detections.find? (·.key = finding.key)

/-- `revalidate_finding`: the finding, and whether it is still detected. -/
def revalidate (result : CheckResult) (now : DateTime) : Finding × Bool :=
  match finding.detectSubject result with
  | none => (finding.resolve now "verified_absent" none, false)
  | some d => ((finding.applyDetection d none now).1, true)

/-- `_clean_reason`. -/
def cleanReason (value : String) : Except String String :=
  let text := " ".intercalate
    (((value.toList.splitOnP PyText.isSpace).filter (· ≠ [])).map String.ofList)
  if 5 ≤ text.length ∧ text.length ≤ 500 then .ok text
  else .error "Give a reason of 5 to 500 characters."

/-- `ignore_finding`. A finding that is ignored for its evidence already is left to the rollback. -/
def ignore (reason : String) (result : CheckResult) (now : DateTime) : Except String Finding := do
  let reason ← cleanReason reason
  let (current, detected) := finding.revalidate result now
  return if !detected then current
    else if current.status = .ignored ∧
        current.ignoredFingerprint = some current.evidenceFingerprint then finding
    else
      { current with
        status := .ignored
        ignoredAt := some now
        ignoreReason := some reason
        ignoredFingerprint := some current.evidenceFingerprint }

/-- `reopen_finding`. -/
def reopen (result : CheckResult) (now : DateTime) : Except String Finding := do
  require (finding.status = .ignored) "Only an ignored finding can be reopened."
  let reopened : Finding :=
    { finding with
      status := .active finding.key.findingType.initialStatus
      ignoredAt := none
      ignoreReason := none
      ignoredFingerprint := none
      reopenedCount := finding.reopenedCount + 1 }
  return (reopened.revalidate result now).1

/-! ### What the functions keep -/

@[simp] theorem applyDetection_key (d : Detection) (run : Option (ℕ × Option DateTime))
    (now : DateTime) : (finding.applyDetection d run now).1.key = finding.key := by
  rw [applyDetection]
  split
  · rfl
  · dsimp only
    split
    · rfl
    · split
      · rfl
      · rfl
    · rfl

@[simp] theorem resolve_key (now : DateTime) (resolution : String) (runId : Option ℕ) :
    (finding.resolve now resolution runId).key = finding.key := by
  rw [resolve]
  split
  · rfl
  · rfl

end Finding

end Kaya.Integrity
