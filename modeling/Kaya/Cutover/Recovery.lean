import Kaya.Cutover.Installation
import Kaya.Cutover.LogicalFingerprint
import Kaya.Migration.Marker

/-!
# Recovery from a failed upgrade

`_verified_backup_snapshot` and what is built on it: `clean_failed_target`, `prepare_failed_retry`
and `prepare_failed_pretarget_retry`. A call reads the disk, the state file and the target, and
returns what it is to leave behind. What the file system, SQLite and Alembic say is in `Host`.

A retry is permitted only where the source and a verified backup hold the same (`PermitsRetry`), and
a target is cleaned only where its own marker is failed (`cleanFailedTarget_eq_ok`).
-/

namespace Kaya.Cutover

open List
open Function (Injective)
open Migration (MigrationState)

/-! ### The revisions -/

/-- `ScriptDirectory`: the revisions with their parents, and the expected head. -/
structure Script where
  revisions : List (String × List String)
  expectedHead : String
  /-- Every parent is a revision. -/
  closed : ∀ revision ∈ revisions, ∀ parent ∈ revision.2, parent ∈ revisions.map Prod.fst

namespace Script

variable (script : Script)

/-- `down_revision`. -/
def parents (revision : String) : List String := (script.revisions.lookup revision).getD []

/-- The parents that are yet to come. -/
def remaining (visited : List String) : ℕ :=
  ((script.revisions.filter (·.1 ∉ visited)).map (·.2.length)).sum

theorem parents_add_remaining {revision : String} {visited : List String} (h : revision ∉ visited) :
    (script.parents revision).length + script.remaining (revision :: visited) ≤
      script.remaining visited := by
  have hlist : ∀ revisions : List (String × List String),
      ((revisions.lookup revision).getD []).length +
          ((revisions.filter (·.1 ∉ revision :: visited)).map (·.2.length)).sum ≤
        ((revisions.filter (·.1 ∉ visited)).map (·.2.length)).sum := by
    intro revisions
    induction revisions with
    | nil => simp
    | cons head rest ih =>
      obtain ⟨key, down⟩ := head
      rw [lookup_cons]
      by_cases hkey : revision = key
      · subst hkey
        rw [filter_cons_of_neg (by simp), filter_cons_of_pos (by simpa using h),
          beq_self_eq_true, map_cons, sum_cons]
        exact Nat.add_le_add_left (Nat.le_trans (Nat.le_add_left _ _) ih) down.length
      · rw [beq_eq_false_iff_ne.2 hkey]
        by_cases hvisited : key ∈ visited
        · rwa [filter_cons_of_neg (by simp [hvisited]),
            filter_cons_of_neg (by simpa using hvisited)]
        · rw [filter_cons_of_pos (by simpa [hvisited] using Ne.symm hkey),
            filter_cons_of_pos (by simpa using hvisited), map_cons, map_cons, sum_cons, sum_cons]
          show ((rest.lookup revision).getD []).length + (down.length + _) ≤ down.length + _
          omega
  exact hlist script.revisions

/-- The loop of `is_supported_lineage`. -/
def walk (candidate : String) (visited : List String) : List String → Bool
  | [] => false
  | current :: pending =>
    if current ∈ visited then walk candidate visited pending
    else if current = candidate then true
    else walk candidate (current :: visited) ((script.parents current).reverse ++ pending)
termination_by pending => pending.length + script.remaining visited
decreasing_by
  · simp
  · have := script.parents_add_remaining ‹current ∉ visited›
    simp only [List.length_append, List.length_reverse, List.length_cons]
    omega

/-- `is_supported_lineage`. -/
def isSupportedLineage (targetRevision : Option String) (candidate : String) : Bool :=
  candidate ≠ "" &&
    match targetRevision.filter (· ≠ "") with
    | none => false
    | some target =>
      candidate ∈ script.revisions.map Prod.fst && target ∈ script.revisions.map Prod.fst &&
        (script.walk candidate [] [target] ||
          candidate = script.expectedHead && script.expectedHead = target)

end Script

/-! ### The disk and the target -/

/-- The metadata of a backup. -/
structure BackupMetadata where
  sourceFilename : Option String := none
  sourceRevision : Option String := none
  targetRevision : Option String := none
  backupFilename : Option String := none
  sourceFingerprint : Option String := none
  backupSha256 : Option String := none
  snapshotFingerprint : Option String := none

/-- Everything but the state file. -/
structure Disk where
  /-- The databases and backups, by their resolved paths. -/
  files : String → Option SqliteFile
  /-- The names of `*.json` in the backup directory with what they hold, in the order of `glob`. -/
  metadata : List (String × Option BackupMetadata)

/-- What the calls ask of others. -/
structure Host where
  script : Script
  /-- `hexdigest`. -/
  sha256 : List UInt8 → String
  resolve : String → String
  /-- `data_dir / "backups"`. -/
  backupDir : String
  /-- `relative_to(data_dir.resolve())`. -/
  inDataDir : String → Bool
  /-- `validate_sqlite_readable`. -/
  readable : SqliteFile → Bool
  /-- The results of the queries of `_logical_sqlite_fingerprint`. -/
  contents : SqliteFile → Option LogicalContent
  /-- The first row of `alembic_version`. -/
  revision : SqliteFile → Option String
  /-- `prepare_database` on a copy: the revision that it reaches, and the copy. -/
  prepareDatabase : SqliteFile → Option (String × SqliteFile)

/-- A row of `kaya_migration_state`. What may be absent are columns that older tables lack. -/
structure MarkerRow where
  migrationId : String
  state : MigrationState
  sourceFingerprint : String
  originalSourceFingerprint : Option String
  conversionSourceFingerprint : Option String
  originalSourceSnapshotFingerprint : Option String
  sourceRevision : Option String
  targetRevision : Option String
  deriving DecidableEq

/-- The schema of the target: without tables, with tables, or with the table of markers, whose
latest row comes first. -/
inductive Target
  | empty
  | other
  | marked (rows : List MarkerRow)
  deriving DecidableEq

/-- `backup_dir / name`. -/
def Host.backupPath (host : Host) (name : String) : String := host.backupDir ++ "/" ++ name

/-- `_logical_sqlite_fingerprint` of a file. -/
def Host.logicalFingerprint (host : Host) (file : SqliteFile) : Except String String := do
  let content ← found (host.contents file) "file is not a database"
  logicalSqliteFingerprint host.sha256 content

/-- A text that Python takes for true. -/
def present (value : Option String) : Option String := value.filter (· ≠ "")

/-- `Path(path).name`, of a resolved path. -/
def fileName (path : String) : String := (path.splitOn "/").getLastD ""

/-- A backup is named by a file name. -/
def isFileName (name : String) : Bool := name ≠ "" && name ≠ "." && !name.contains '/'

/-! ### The verified backup -/

/-- The original fingerprint, `_original_source_fingerprint`. -/
def Persisted.originalFingerprint (persisted : Persisted) : Option String :=
  (present persisted.originalSourceFingerprint).or persisted.sourceFingerprint

/-- `_persisted_source_path`. -/
def persistedSourcePath (host : Host) (persisted : Persisted) : Except String String := do
  let value ← found (present persisted.sourcePath)
    "Refusing recovery: FAILED marker has no source path."
  require (host.inDataDir (host.resolve value))
    "Refusing recovery: FAILED source path is outside the data directory."
  return host.resolve value

/-- The snapshot, the revision and the path of a backup. -/
structure VerifiedBackup where
  snapshot : String
  revision : String
  path : String

/-- The file of a backup, where it is as the metadata says. -/
def recordedBackup (host : Host) (disk : Disk) (metadata : BackupMetadata) (name : String) :
    Option SqliteFile :=
  (disk.files (host.backupPath name)).filter fun file ↦
    metadata.backupSha256 = some (host.sha256 file.main) && host.readable file

/-- The snapshot is that of the state file, or, where that has none, not against the metadata. -/
def isKnownSnapshot (persisted : Persisted) (metadata : BackupMetadata) (snapshot : String) :
    Bool :=
  match present persisted.originalSourceSnapshotFingerprint with
  | some stored => snapshot = stored
  | none => metadata.snapshotFingerprint.all (· = snapshot)

/-- An iteration of `_verified_backup_snapshot`. -/
def backupCandidate (host : Host) (disk : Disk) (persisted : Persisted) (source : String)
    (sourceRevision : Option String) (metadata : BackupMetadata) : Option VerifiedBackup := do
  let revision ← metadata.sourceRevision
  let name ← metadata.backupFilename.filter isFileName
  guard (metadata.sourceFilename = some (fileName source))
  guard (sourceRevision.all (· = revision))
  guard (metadata.targetRevision = persisted.targetRevision)
  guard (host.script.isSupportedLineage persisted.targetRevision revision)
  let file ← recordedBackup host disk metadata name
  let snapshot ← (host.logicalFingerprint file).toOption
  guard (isKnownSnapshot persisted metadata snapshot)
  return { snapshot, revision, path := host.backupPath name }

/-- `_verified_backup_snapshot`. -/
def verifiedBackupSnapshot (host : Host) (disk : Disk) (persisted : Persisted) (source : String) :
    Except String VerifiedBackup :=
  found
    (disk.metadata.findSome? fun entry ↦ entry.2.bind <|
      backupCandidate host disk persisted source (present persisted.sourceRevision))
    "Refusing recovery: no verified pre-migration backup proves the source lineage."

/-- The errors about a source that is not as its backup. -/
structure SourceErrors where
  revisionChanged : String
  contentChanged : String

/-- The revision of an isolated copy of the source, which has to be as the backup. -/
def isolatedSourceRevision (host : Host) (disk : Disk) (source : String) (backup : VerifiedBackup)
    (errors : SourceErrors) : Except String String := do
  let isolated ← found (disk.files source) "No such file or directory"
  require (host.readable isolated) "file is not a database"
  let revision ← found (host.revision isolated)
    "Refusing recovery: FAILED source has no single Alembic revision."
  require (revision = backup.revision) errors.revisionChanged
  let snapshot ← host.logicalFingerprint isolated
  require (snapshot = backup.snapshot) errors.contentChanged
  return revision

/-- What `_validate_failed_source_identity` returns. -/
structure FailedSource where
  persisted : Persisted
  source : String
  revision : String
  backup : VerifiedBackup

/-- `_validate_failed_source_identity`. -/
def validateFailedSourceIdentity (host : Host) (disk : Disk) (marker : Option Persisted)
    (migrationId originalSourceFingerprint : String) : Except String FailedSource := do
  let persisted ← found (marker.filter (·.state = .failed))
    "Refusing recovery: source marker is not FAILED."
  require (persisted.migrationId = some migrationId)
    "Refusing recovery: source migration ID does not match."
  require (persisted.originalFingerprint = some originalSourceFingerprint)
    "Refusing recovery: source fingerprint does not match FAILED marker."
  let source ← persistedSourcePath host persisted
  let backup ← verifiedBackupSnapshot host disk persisted source
  let revision ← isolatedSourceRevision host disk source backup {
    revisionChanged :=
      "Refusing recovery: FAILED source revision does not match verified backup lineage."
    contentChanged := "Refusing recovery: logical SQLite source changed after failure." }
  require ((present persisted.originalSourceSnapshotFingerprint).all (· = backup.snapshot))
    "Refusing recovery: persisted source snapshot identity is invalid."
  return { persisted, source, revision, backup }

/-! ### Cleaning a failed target -/

/-- What `_legacy_historical_target_matches` reads of the row. -/
structure ConversionIdentity where
  sourceFingerprint : String
  sourceRevision : Option String
  targetRevision : Option String

/-- The loop over the backups of conversions: a name that is no file name ends it. -/
def retainedConversion (host : Host) (disk : Disk) (row : ConversionIdentity) :
    List (String × Option BackupMetadata) → Option String
  | [] => none
  | (_, none) :: rest => retainedConversion host disk row rest
  | (_, some metadata) :: rest =>
    if metadata.sourceRevision ≠ row.sourceRevision ∨ metadata.targetRevision ≠ row.targetRevision ∨
        metadata.sourceFingerprint ≠ some row.sourceFingerprint then
      retainedConversion host disk row rest
    else
      -- the parent directory is a file name, but not within the backups
      match metadata.backupFilename.filter fun name ↦ isFileName name && name ≠ ".." with
      | none => none
      | some name =>
        match (recordedBackup host disk metadata name).bind
            fun file ↦ (host.logicalFingerprint file).toOption with
        | some fingerprint => some fingerprint
        | none => retainedConversion host disk row rest

/-- The logical fingerprint of the backup after an upgrade to the revision. -/
def rebuiltConversion (host : Host) (disk : Disk) (targetRevision : Option String)
    (backup : VerifiedBackup) : Option String := do
  let file ← disk.files backup.path
  guard (host.readable file)
  let (revision, upgraded) ← host.prepareDatabase file
  guard (some revision = targetRevision)
  (host.logicalFingerprint upgraded).toOption

/-- `_legacy_historical_target_matches`. -/
def legacyHistoricalTargetMatches (host : Host) (disk : Disk) (sourceRevision : String)
    (row : ConversionIdentity) (backup : VerifiedBackup) : Bool :=
  row.sourceFingerprint.length = 64 &&
    row.sourceFingerprint.toList.all (· ∈ "0123456789abcdef".toList) &&
    some sourceRevision ≠ row.sourceRevision &&
    row.sourceRevision = some host.script.expectedHead &&
    row.targetRevision = some host.script.expectedHead &&
    match retainedConversion host disk row
        (disk.metadata.mergeSort fun entry entry' ↦ entry'.1 ≤ entry.1) with
    | none => false
    | some retained => rebuiltConversion host disk row.targetRevision backup = some retained

/-- The row is of a conversion of the failed source. -/
def conversionMatches (host : Host) (disk : Disk) (source : Option FailedSource) (row : MarkerRow)
    (conversionFingerprint sourceFingerprint : String) : Bool :=
  conversionFingerprint = sourceFingerprint || source.any fun source ↦
    legacyHistoricalTargetMatches host disk source.revision
      { sourceFingerprint := conversionFingerprint
        sourceRevision := row.sourceRevision
        targetRevision := row.targetRevision } source.backup

/-- The row of the marker that is to be cleaned. -/
def failedRow (target : Target) (migrationId : String) : Except String MarkerRow :=
  match target with
  | .marked rows =>
    found (rows.head?.filter fun row ↦ row.state = .failed && row.migrationId = migrationId)
      "Refusing cleanup: target is not the matching failed migration target."
  | _ => .error "Refusing cleanup: target has no Kaya migration marker."

/-- The identity of the row, with the columns that it has. -/
def requireRowIdentity (host : Host) (disk : Disk) (source : Option FailedSource) (row : MarkerRow)
    (sourceFingerprint : String) : Except String Unit :=
  match row.originalSourceFingerprint with
  | some original => do
    require (original = sourceFingerprint)
      "Refusing cleanup: target original source fingerprint does not match."
    let source' ← found source
      "Refusing cleanup: target logical source snapshot identity does not match."
    require (row.originalSourceSnapshotFingerprint = some source'.backup.snapshot)
      "Refusing cleanup: target logical source snapshot identity does not match."
    let conversion ← found (row.conversionSourceFingerprint.filter (·.length = 64))
      "Refusing cleanup: target conversion source identity is invalid."
    require (conversionMatches host disk source row conversion sourceFingerprint)
      "Refusing cleanup: target conversion source identity does not match."
  | none =>
    require (conversionMatches host disk source row row.sourceFingerprint sourceFingerprint)
      "Refusing cleanup: target is not the matching failed migration target."

/-- The failed source, for a call with a data directory. -/
def failedSource (host : Host) (disk : Disk) (marker : Option Persisted)
    (migrationId sourceFingerprint : String) (hasDataDir : Bool) :
    Except String (Option FailedSource) :=
  if hasDataDir then
    (validateFailedSourceIdentity host disk marker migrationId sourceFingerprint).map some
  else .ok none

/-- `clean_failed_target`, which leaves an empty schema. -/
def cleanFailedTarget (host : Host) (disk : Disk) (marker : Option Persisted) (target : Target)
    (migrationId sourceFingerprint : String) (hasDataDir : Bool) : Except String Target := do
  let source ← failedSource host disk marker migrationId sourceFingerprint hasDataDir
  let row ← failedRow target migrationId
  requireRowIdentity host disk source row sourceFingerprint
  return .empty

/-! ### Permitting a retry -/

/-- `prepare_failed_retry`: the path of the backup, and what is written. -/
def prepareFailedRetry (host : Host) (disk : Disk) (marker : Option Persisted)
    (sourceFingerprint : String) : Except String (String × Persisted) := do
  let migrationId := (marker.bind fun persisted ↦ present persisted.migrationId).getD ""
  let failed ← validateFailedSourceIdentity host disk marker migrationId sourceFingerprint
  return (failed.backup.path, {
    state := .precheck
    databaseEngine := some .sqlite
    sourcePath := some failed.source
    sourceFingerprint := some sourceFingerprint
    originalSourceFingerprint := some sourceFingerprint
    originalSourceSnapshotFingerprint := some failed.backup.snapshot
    conversionSourceFingerprint := present failed.persisted.conversionSourceFingerprint })

/-- `prepare_failed_pretarget_retry`. -/
def prepareFailedPretargetRetry (host : Host) (disk : Disk) (marker : Option Persisted)
    (target : Target) : Except String (String × Persisted) := do
  let persisted ← found (marker.filter (·.state = .failed))
    "Refusing pre-target retry: source marker is not FAILED."
  require (persisted.migrationId = none)
    "Refusing pre-target retry: migration target may have started."
  require (persisted.databaseEngine = some .sqlite)
    "Refusing pre-target retry: PostgreSQL is authoritative."
  let fingerprint ← found (persisted.sourceFingerprint.filter (·.length = 64))
    "Refusing pre-target retry: FAILED source identity is missing."
  require (persisted.originalSourceFingerprint.all (· = fingerprint))
    "Refusing pre-target retry: original source identity is inconsistent."
  let source ← persistedSourcePath host persisted
  require (sourceFingerprint host.sha256 (disk.files source) = fingerprint)
    "Refusing pre-target retry: source fingerprint does not match FAILED marker."
  let backup ← verifiedBackupSnapshot host disk persisted source
  let _ ← isolatedSourceRevision host disk source backup {
    revisionChanged :=
      "Refusing pre-target retry: source revision does not match backup lineage."
    contentChanged := "Refusing pre-target retry: source snapshot identity changed." }
  require (persisted.originalSourceSnapshotFingerprint = some backup.snapshot)
    "Refusing pre-target retry: persisted snapshot identity is invalid."
  require (persisted.conversionSourceFingerprint.all (· = fingerprint))
    "Refusing pre-target retry: conversion source identity is inconsistent."
  require (target = .empty)
    "Refusing pre-target retry: PostgreSQL target migration evidence exists."
  return (backup.path, {
    state := .precheck
    databaseEngine := some .sqlite
    sourcePath := some source
    sourceFingerprint := some fingerprint
    originalSourceFingerprint := some fingerprint
    originalSourceSnapshotFingerprint := some backup.snapshot
    conversionSourceFingerprint :=
      (present persisted.conversionSourceFingerprint).or (some fingerprint)
    targetRevision := persisted.targetRevision
    migrationId := none })

/-! ### A permitted retry -/

variable {host : Host} {disk : Disk} {marker : Option Persisted}
  {fingerprint source revision migrationId : String} {persisted written : Persisted}
  {backup : VerifiedBackup} {errors : SourceErrors} {target : Target}

/-- The backup is a readable file, with the digest of its metadata. -/
structure IsVerifiedBackup (host : Host) (disk : Disk) (path : String) (file : SqliteFile) :
    Prop where
  exists_file : disk.files path = some file
  readable : host.readable file = true
  recorded : ∃ entry ∈ disk.metadata, ∃ metadata ∈ entry.2, ∃ name ∈ metadata.backupFilename,
    path = host.backupPath name ∧ metadata.backupSha256 = some (host.sha256 file.main)

/-- The source and the verified backup hold the same. -/
def SameAsBackup (host : Host) (disk : Disk) (source backup : String) : Prop :=
  ∃ sourceFile backupFile content, disk.files source = some sourceFile ∧
    IsVerifiedBackup host disk backup backupFile ∧ host.contents sourceFile = some content ∧
      host.contents backupFile = some content

theorem contents_of_logicalFingerprint (hsha : Injective host.sha256) {file file' : SqliteFile}
    (h : host.logicalFingerprint file = .ok fingerprint)
    (h' : host.logicalFingerprint file' = .ok fingerprint) :
    ∃ content, host.contents file = some content ∧ host.contents file' = some content := by
  rw [Host.logicalFingerprint, found_bind_eq_ok] at h h'
  obtain ⟨content, hcont, hprint⟩ := h
  obtain ⟨content', hcont', hprint'⟩ := h'
  obtain rfl := logicalSqliteFingerprint_inj hsha hprint hprint'
  exact ⟨content, hcont, hcont'⟩

theorem toOption_eq_some {m : Except String String} {a : String} (h : m.toOption = some a) :
    m = .ok a := by
  cases m with
  | ok b => exact congrArg _ (Option.some.inj h)
  | error e => exact absurd h (by simp [Except.toOption])

/-- What a candidate has been checked for. -/
theorem isVerifiedBackup_of_candidate {sourceRevision : Option String}
    {entry : String × Option BackupMetadata} {metadata : BackupMetadata}
    (hentry : entry ∈ disk.metadata) (hmetadata : entry.2 = some metadata)
    (h : backupCandidate host disk persisted source sourceRevision metadata = some backup) :
    ∃ file, IsVerifiedBackup host disk backup.path file ∧
      host.logicalFingerprint file = .ok backup.snapshot := by
  simp only [backupCandidate, Option.bind_eq_bind, Option.bind_eq_some_iff, Option.pure_def,
    Option.guard_eq_some', exists_const, Option.some.injEq] at h
  obtain ⟨revision, -, name, hname, -, -, -, -, file, hfile, snapshot, hsnap, -, rfl⟩ := h
  obtain ⟨hexists, hrec⟩ := Option.filter_eq_some_iff.1 hfile
  rw [Bool.and_eq_true, decide_eq_true_eq] at hrec
  exact ⟨file, ⟨hexists, hrec.2, entry, hentry, metadata, hmetadata,
    name, (Option.filter_eq_some_iff.1 hname).1, rfl, hrec.1⟩, toOption_eq_some hsnap⟩

theorem isVerifiedBackup_of_snapshot
    (h : verifiedBackupSnapshot host disk persisted source = .ok backup) :
    ∃ file, IsVerifiedBackup host disk backup.path file ∧
      host.logicalFingerprint file = .ok backup.snapshot := by
  obtain ⟨entry, hentry, hcand⟩ := exists_of_findSome?_eq_some (found_eq_ok.1 h)
  obtain ⟨metadata, hmetadata, hbackup⟩ := Option.bind_eq_some_iff.1 hcand
  exact isVerifiedBackup_of_candidate hentry hmetadata hbackup

theorem isolatedSourceRevision_eq_ok
    (h : isolatedSourceRevision host disk source backup errors = .ok revision) :
    ∃ file, disk.files source = some file ∧ host.logicalFingerprint file = .ok backup.snapshot := by
  rw [isolatedSourceRevision, found_bind_eq_ok] at h
  obtain ⟨file, hfile, h⟩ := h
  rw [require_bind_eq_ok, found_bind_eq_ok] at h
  obtain ⟨-, current, -, h⟩ := h
  rw [require_bind_eq_ok, bind_eq_ok] at h
  obtain ⟨-, snapshot, hsnap, h⟩ := h
  obtain ⟨rfl, -⟩ := require_bind_eq_ok.1 h
  exact ⟨file, hfile, hsnap⟩

/-- A verified backup with the snapshot of the source. -/
theorem sameAsBackup_of_checks (hsha : Injective host.sha256)
    (hbackup : verifiedBackupSnapshot host disk persisted source = .ok backup)
    (hsrc : isolatedSourceRevision host disk source backup errors = .ok revision) :
    SameAsBackup host disk source backup.path := by
  obtain ⟨backupFile, hver, hbackupFile⟩ := isVerifiedBackup_of_snapshot hbackup
  obtain ⟨sourceFile, hfile, hsourceFile⟩ := isolatedSourceRevision_eq_ok hsrc
  obtain ⟨content, hcont, hcont'⟩ :=
    contents_of_logicalFingerprint hsha hsourceFile hbackupFile
  exact ⟨sourceFile, backupFile, content, hfile, hver, hcont, hcont'⟩

/-- The checks that all ways to recover have in common. -/
theorem validateFailedSourceIdentity_eq_ok {failed : FailedSource}
    (h : validateFailedSourceIdentity host disk marker migrationId fingerprint = .ok failed) :
    marker = some failed.persisted ∧ failed.persisted.state = .failed ∧
      failed.persisted.migrationId = some migrationId ∧
        (Injective host.sha256 → SameAsBackup host disk failed.source failed.backup.path) := by
  rw [validateFailedSourceIdentity, found_bind_eq_ok] at h
  obtain ⟨persisted, hpers, h⟩ := h
  obtain ⟨rfl, hfailed⟩ := Option.filter_eq_some_iff.1 hpers
  rw [require_bind_eq_ok, require_bind_eq_ok, bind_eq_ok] at h
  obtain ⟨hid, -, source, -, h⟩ := h
  obtain ⟨backup, hbackup, h⟩ := bind_eq_ok.1 h
  obtain ⟨revision, hrevision, h⟩ := bind_eq_ok.1 h
  rw [require_bind_eq_ok, pure_eq_ok] at h
  obtain ⟨-, rfl⟩ := h
  exact ⟨rfl, of_decide_eq_true hfailed, hid, fun hsha ↦
    sameAsBackup_of_checks hsha hbackup hrevision⟩

/-- What a call that permits a retry has found, and what it writes. -/
structure PermitsRetry (host : Host) (disk : Disk) (marker : Option Persisted) (backup : String)
    (written : Persisted) : Prop where
  failed : ∃ persisted, marker = some persisted ∧ persisted.state = .failed
  precheck : written.state = .precheck
  /-- As far as the digests tell. -/
  same : ∃ source, written.sourcePath = some source ∧
    (Injective host.sha256 → SameAsBackup host disk source backup)

/-- **`prepare_failed_retry` permits a retry of a source that is as its verified backup.** -/
theorem permitsRetry_of_prepareFailedRetry {backup : String}
    (h : prepareFailedRetry host disk marker fingerprint = .ok (backup, written)) :
    PermitsRetry host disk marker backup written := by
  obtain ⟨failed, hfailed, h⟩ := bind_eq_ok.1 h
  obtain ⟨hmarker, hst, -, hsame⟩ := validateFailedSourceIdentity_eq_ok hfailed
  obtain ⟨rfl, rfl⟩ := Prod.mk.inj (pure_eq_ok.1 h)
  exact ⟨⟨failed.persisted, hmarker, hst⟩, rfl, failed.source, rfl, hsame⟩

/-- **So does `prepare_failed_pretarget_retry`.** -/
theorem permitsRetry_of_prepareFailedPretargetRetry {backup : String}
    (h : prepareFailedPretargetRetry host disk marker target = .ok (backup, written)) :
    PermitsRetry host disk marker backup written := by
  rw [prepareFailedPretargetRetry, found_bind_eq_ok] at h
  obtain ⟨persisted, hpers, h⟩ := h
  obtain ⟨rfl, hfailed⟩ := Option.filter_eq_some_iff.1 hpers
  rw [require_bind_eq_ok, require_bind_eq_ok, found_bind_eq_ok] at h
  obtain ⟨-, -, fingerprint, -, h⟩ := h
  rw [require_bind_eq_ok, bind_eq_ok] at h
  obtain ⟨-, source, -, h⟩ := h
  rw [require_bind_eq_ok, bind_eq_ok] at h
  obtain ⟨-, verified, hver, h⟩ := h
  obtain ⟨revision, hrevision, h⟩ := bind_eq_ok.1 h
  rw [require_bind_eq_ok, require_bind_eq_ok, require_bind_eq_ok, pure_eq_ok] at h
  obtain ⟨-, -, -, h⟩ := h
  obtain ⟨rfl, rfl⟩ := Prod.mk.inj h
  exact ⟨⟨persisted, rfl, of_decide_eq_true hfailed⟩, rfl, source, rfl, fun hsha ↦
    sameAsBackup_of_checks hsha hver hrevision⟩

/-! ### A target that is cleaned -/

/-- **Only a target is cleaned whose own marker is failed and has the given id.** -/
theorem cleanFailedTarget_eq_ok {target' : Target} {dataDir : Bool}
    (h : cleanFailedTarget host disk marker target migrationId fingerprint dataDir = .ok target') :
    target' = .empty ∧ ∃ row rows, target = .marked (row :: rows) ∧ row.state = .failed ∧
      row.migrationId = migrationId := by
  obtain ⟨source, -, h⟩ := bind_eq_ok.1 h
  obtain ⟨row, hrow, h⟩ := bind_eq_ok.1 h
  obtain ⟨-, -, h⟩ := bind_eq_ok.1 h
  refine ⟨(pure_eq_ok.1 h).symm, ?_⟩
  cases target with
  | marked rows =>
    obtain ⟨hhead, hmatch⟩ := Option.filter_eq_some_iff.1 (found_eq_ok.1 hrow)
    obtain ⟨rest, rfl⟩ := head?_eq_some_iff.1 hhead
    rw [Bool.and_eq_true, decide_eq_true_eq, decide_eq_true_eq] at hmatch
    exact ⟨row, rest, rfl, hmatch⟩
  | _ => exact absurd hrow (by simp [failedRow])

end Kaya.Cutover
