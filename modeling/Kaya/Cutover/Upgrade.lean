import Kaya.Cutover.Recovery

/-!
# Upgrades, statement by statement

`run_upgrade`, with the `migrate` that it calls. The process can be killed before every statement,
and every statement can raise, before or after it has taken effect. Statements in a row that touch
neither the state file nor the marker of the target are one `Stage`. What a run reads on its way are
its `Readings`; no theorem asks which they are.

The other calls write once. One that raises or is killed before that has done nothing, like one that
is refused. Anyone can write the disk at any time.
-/

namespace Kaya.Cutover

open Migration (MigrationState)

/-- What a run reads on its way. -/
structure Readings where
  /-- `dry_run`, of the first `preflight`. -/
  sourceRevision : Option String
  sourceFingerprint : String
  targetRevision : String
  /-- Of the verified backup. -/
  snapshotFingerprint : String
  /-- Of the second `preflight`. -/
  convertedFingerprint : String
  /-- `fingerprint_before`. -/
  fingerprintBefore : String
  /-- `uuid4()`. -/
  migrationId : String

/-- `report["result"]`. -/
inductive MigrationResult
  | incomplete
  | completed
  deriving DecidableEq

/-- A run with its variables. -/
structure Run (δ : Type) where
  target : δ
  /-- `state_source_path`. -/
  stateSourcePath : String
  /-- `persisted_recovery["original_source_fingerprint"]`. -/
  recoveryFingerprint : Option String
  readings : Readings
  sourceRevision : Option String := none
  targetRevision : Option String := none
  originalSourceFingerprint : Option String := none
  originalSourceSnapshotFingerprint : Option String := none
  conversionSourceFingerprint : Option String := none
  result : MigrationResult := .incomplete
  /-- The result that `migrate` has returned. -/
  returned : Option MigrationResult := none

/-- The statement that is next. -/
inductive Stage
  | enteringPrecheck
  | preflighting
  | backingUp
  | enteringMaintenance
  | converting
  | preflightingConversion
  -- `migrate`
  | checkingTarget
  | backingUpConversion
  | enteringBackedUp
  | creatingMarker
  | preparingTarget
  | enteringPostgresPrepared
  | startingCopy
  | enteringMigrating
  | copying
  | enteringValidating
  | startingValidation
  | validating
  | completing
  | checkingSource
  | enteringPostgresReady
  | measuring
  | markingFailed
  | reporting
  -- `run_upgrade` again
  | checkingResult
  | recordingPostgresReady
  | writingReport
  | enteringCutoverPending
  | enteringPostgresActive
  | returning
  | handling (migrationId : Option String)
  deriving DecidableEq

variable {δ : Type}

/-- The source is of an older revision. -/
def Run.converts (run : Run δ) : Bool :=
  (present run.sourceRevision).any (some · ≠ run.targetRevision)

namespace Stage

/-- The statement after it. -/
def next (run : Run δ) : Stage → Option Stage
  | .enteringPrecheck => some .preflighting
  | .preflighting => some .backingUp
  | .backingUp => some .enteringMaintenance
  | .enteringMaintenance => some (if run.converts then .converting else .checkingTarget)
  | .converting => some .preflightingConversion
  | .preflightingConversion => some .checkingTarget
  | .checkingTarget => some .backingUpConversion
  | .backingUpConversion => some .enteringBackedUp
  | .enteringBackedUp => some .creatingMarker
  | .creatingMarker => some .preparingTarget
  | .preparingTarget => some .enteringPostgresPrepared
  | .enteringPostgresPrepared => some .startingCopy
  | .startingCopy => some .enteringMigrating
  | .enteringMigrating => some .copying
  | .copying => some .enteringValidating
  | .enteringValidating => some .startingValidation
  | .startingValidation => some .validating
  | .validating => some .completing
  | .completing => some .checkingSource
  | .checkingSource => some .enteringPostgresReady
  | .enteringPostgresReady => some .measuring
  | .measuring => some .reporting
  | .markingFailed => some (.handling run.readings.migrationId)
  | .reporting => some .checkingResult
  | .checkingResult => some .recordingPostgresReady
  | .recordingPostgresReady => some .writingReport
  | .writingReport => some .enteringCutoverPending
  | .enteringCutoverPending => some .enteringPostgresActive
  | .enteringPostgresActive => some .returning
  | .returning => none
  | .handling _ => none

/-- The statement is inside the `try` of `migrate`. -/
def isGuarded : Stage → Bool
  | .creatingMarker => true
  | .preparingTarget => true
  | .enteringPostgresPrepared => true
  | .startingCopy => true
  | .enteringMigrating => true
  | .copying => true
  | .enteringValidating => true
  | .startingValidation => true
  | .validating => true
  | .completing => true
  | .checkingSource => true
  | .enteringPostgresReady => true
  | .measuring => true
  | _ => false

/-- Where an exception leads. What `markingFailed` raises is only logged. -/
def afterException (run : Run δ) (stage : Stage) : Option Stage :=
  match stage with
  | .enteringPrecheck => none
  | .handling _ => none
  | .markingFailed => some (.handling run.readings.migrationId)
  | _ => some (if stage.isGuarded then .markingFailed else .handling none)

/-- The statement raises by itself. -/
def refuses (run : Run δ) (target : Target) : Stage → Bool
  | .preflighting => target ≠ .empty
  | .preflightingConversion => target ≠ .empty
  | .checkingTarget => target ≠ .empty
  | .checkingResult => run.returned ≠ some .completed
  | _ => false

/-- The variables after the statement. -/
def assign (run : Run δ) : Stage → Run δ
  | .preflighting =>
    let original :=
      (present run.recoveryFingerprint).or (some run.readings.sourceFingerprint)
    { run with
      sourceRevision := run.readings.sourceRevision
      targetRevision := some run.readings.targetRevision
      originalSourceFingerprint := original
      conversionSourceFingerprint := original }
  | .backingUp =>
    { run with originalSourceSnapshotFingerprint := some run.readings.snapshotFingerprint }
  | .preflightingConversion =>
    { run with conversionSourceFingerprint := some run.readings.convertedFingerprint }
  | .measuring => { run with result := .completed }
  | .reporting => { run with returned := some run.result }
  | _ => run

end Stage

/-! ### The state file -/

/-- The fields that most states have. -/
def Run.persisted (run : Run δ) (state : UpgradeState) (engine : DatabaseEngine) : Persisted where
  state := state
  databaseEngine := some engine
  sourceFingerprint := run.originalSourceFingerprint
  originalSourceFingerprint := run.originalSourceFingerprint
  originalSourceSnapshotFingerprint := run.originalSourceSnapshotFingerprint
  conversionSourceFingerprint := run.conversionSourceFingerprint
  targetRevision := run.targetRevision

/-- With the identity from the report. -/
def Run.reported (run : Run δ) (state : UpgradeState) (engine : DatabaseEngine) : Persisted :=
  { run.persisted state engine with
    conversionSourceFingerprint := some run.readings.fingerprintBefore
    migrationId := some run.readings.migrationId }

/-- What the statement writes to the state file. -/
def Stage.written (run : Run δ) : Stage → Option Persisted
  | .enteringPrecheck =>
    some {
      state := .precheck
      databaseEngine := some .sqlite
      sourcePath := some run.stateSourcePath }
  | .enteringMaintenance =>
    some { run.persisted .maintenance .sqlite with
      sourcePath := some run.stateSourcePath
      sourceRevision := run.sourceRevision }
  | .enteringBackedUp => some (run.persisted .backedUp .sqlite)
  | .enteringPostgresPrepared => some (run.persisted .postgresPrepared .sqlite)
  | .enteringMigrating => some (run.persisted .migrating .sqlite)
  | .enteringValidating => some (run.persisted .validating .sqlite)
  | .enteringPostgresReady => some (run.persisted .postgresReady .postgresql)
  | .recordingPostgresReady => some (run.reported .postgresReady .postgresql)
  | .enteringCutoverPending =>
    some { run.reported .cutoverPending .sqlite with sourcePath := some run.stateSourcePath }
  | .enteringPostgresActive =>
    some { run.reported .postgresActive .postgresql with sourcePath := some run.stateSourcePath }
  | .handling migrationId =>
    some { run.persisted .failed .sqlite with
      sourcePath := some run.stateSourcePath
      migrationId := migrationId }
  | _ => none

/-! ### The target -/

/-- `_state_update`. -/
def Target.stateUpdate (target : Target) (migrationId : String) (state : MigrationState) : Target :=
  match target with
  | .marked rows =>
    .marked (rows.map fun row ↦ if row.migrationId = migrationId then { row with state } else row)
  | _ => target

/-- The row of `_state_create`. -/
def Run.markerRow (run : Run δ) : MarkerRow where
  migrationId := run.readings.migrationId
  state := .preparing
  sourceFingerprint := run.readings.fingerprintBefore
  originalSourceFingerprint := run.originalSourceFingerprint
  conversionSourceFingerprint := some run.readings.fingerprintBefore
  originalSourceSnapshotFingerprint := run.originalSourceSnapshotFingerprint
  sourceRevision := run.targetRevision
  targetRevision := run.targetRevision

/-- What the statement leaves in the target. -/
def Stage.effect (run : Run δ) (target : Target) : Stage → Target
  | .creatingMarker => .marked [run.markerRow]
  | .startingCopy => target.stateUpdate run.readings.migrationId .copying
  | .startingValidation => target.stateUpdate run.readings.migrationId .validating
  | .completing => target.stateUpdate run.readings.migrationId .completed
  | .markingFailed => target.stateUpdate run.readings.migrationId .failed
  | _ => target

/-! ### The machine -/

/-- The disk, the state file, the targets and the run in progress. The other fields are of the past:
whether an upgrade has written the state file, the run that has written it last, as it was then, and
the targets for which it has said `POSTGRES_ACTIVE`. -/
structure Upgrade (δ : Type) where
  disk : Disk
  marker : Option Persisted
  targets : δ → Target
  process : Option (Run δ × Stage) := none
  started : Bool := false
  writer : Option (Run δ) := none
  authoritative : List δ := []

def Disk.isFile (disk : Disk) (path : String) : Bool := (disk.files path).isSome

/-- The beginning of `run_upgrade`, up to the first write. -/
def startUpgrade (host : Host) (disk : Disk) (marker : Option Persisted) (target : δ)
    (sourcePath : String) (recoveryBackup : Option String) (readings : Readings) :
    Except String (Run δ) := do
  let persistedRecovery := marker.filter fun _ ↦ recoveryBackup.isSome
  require (recoveryBackup.all fun backup ↦ disk.isFile (host.resolve backup))
    "Verified recovery backup is not available for retry."
  let source := (recoveryBackup.map host.resolve).getD sourcePath
  let installation ← detectInstallation host.resolve disk.isFile marker (.sqlite false source)
  require (installation.state = .sqliteActive ∨ installation.state = .precheck)
    ("SQLite upgrade is not eligible from state " ++ installation.state.value ++ ".")
  return {
    target
    stateSourcePath :=
      (persistedRecovery.bind fun persisted ↦ present persisted.sourcePath).getD sourcePath
    recoveryFingerprint := persistedRecovery.bind (·.originalSourceFingerprint)
    readings }

/-- The statement has been taken, and the process goes on at `next`. -/
def Upgrade.take [DecidableEq δ] (s : Upgrade δ) (run : Run δ) (stage : Stage)
    (next : Option Stage) : Upgrade δ :=
  { s with
    marker := (stage.written run).or s.marker
    targets := Function.update s.targets run.target (stage.effect run (s.targets run.target))
    process := next.map (stage.assign run, ·)
    started := s.started || (stage.written run).isSome
    writer := if (stage.written run).isSome then some run else s.writer
    authoritative :=
      if stage = .enteringPostgresActive then run.target :: s.authoritative else s.authoritative }

/-- The statement has not been taken. -/
def Upgrade.leave (s : Upgrade δ) (run : Run δ) (stage : Stage) : Upgrade δ :=
  { s with process := (stage.afterException run).map (run, ·) }

inductive UpgradeEvent (δ : Type)
  /-- Someone writes the disk. -/
  | writeDisk (disk : Disk)
  | runUpgrade (target : δ) (sourcePath : String) (recoveryBackup : Option String)
    (readings : Readings)
  | proceed
  /-- An exception, before or after the statement has taken effect. -/
  | raise (taken : Bool)
  | kill
  | cleanFailedTarget (target : δ) (migrationId sourceFingerprint : String) (hasDataDir : Bool)
  | prepareFailedRetry (sourceFingerprint : String)
  | prepareFailedPretargetRetry (target : δ)

/-- A retry is prepared, where it is permitted. -/
def Upgrade.permit (s : Upgrade δ) (outcome : Except String (String × Persisted)) : Upgrade δ :=
  match outcome with
  | .ok (_, written) => { s with marker := some written, writer := none }
  | .error _ => s

/-- A call with no other in progress. -/
def Upgrade.call [DecidableEq δ] (host : Host) (s : Upgrade δ) : UpgradeEvent δ → Upgrade δ
  | .runUpgrade target sourcePath recoveryBackup readings =>
    match startUpgrade host s.disk s.marker target sourcePath recoveryBackup readings with
    | .ok run => { s with process := some (run, .enteringPrecheck) }
    | .error _ => s
  | .cleanFailedTarget target migrationId sourceFingerprint hasDataDir =>
    match cleanFailedTarget host s.disk s.marker (s.targets target) migrationId sourceFingerprint
        hasDataDir with
    | .ok cleaned => { s with targets := Function.update s.targets target cleaned }
    | .error _ => s
  | .prepareFailedRetry sourceFingerprint =>
    s.permit (prepareFailedRetry host s.disk s.marker sourceFingerprint)
  | .prepareFailedPretargetRetry target =>
    s.permit (prepareFailedPretargetRetry host s.disk s.marker (s.targets target))
  | _ => s

/-- The run in progress. -/
def Upgrade.progress [DecidableEq δ] (s : Upgrade δ) (run : Run δ) (stage : Stage) :
    UpgradeEvent δ → Upgrade δ
  | .proceed =>
    if stage.refuses run (s.targets run.target) then s.leave run stage
    else s.take run stage (stage.next run)
  | .raise taken =>
    if taken && !stage.refuses run (s.targets run.target) then
      s.take run stage (stage.afterException run)
    else s.leave run stage
  | .kill => { s with process := none }
  | _ => s

def upgradeStep [DecidableEq δ] (host : Host) (s : Upgrade δ) (e : UpgradeEvent δ) : Upgrade δ :=
  match e, s.process with
  | .writeDisk disk, _ => { s with disk }
  | e, none => s.call host e
  | e, some (run, stage) => s.progress run stage e

/-- No upgrade has been started. -/
structure UpgradeInitial (s : Upgrade δ) : Prop where
  marker : ∀ persisted ∈ s.marker, persisted.state = .sqliteActive
  process : s.process = none
  started : s.started = false
  authoritative : s.authoritative = []

def upgradeMachine [DecidableEq δ] (host : Host) : Machine (Upgrade δ) (UpgradeEvent δ) where
  init := UpgradeInitial
  step := upgradeStep host

end Kaya.Cutover
