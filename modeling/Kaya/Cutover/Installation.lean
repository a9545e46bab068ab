import Kaya.Library.Checks

/-!
# The state file of an upgrade

`_write_state` replaces `kaya-database-upgrade.json` as a whole; `detect_installation` and
`authoritative_database_url` are what startup makes of it. Fields that nothing reads again are left
out: `updated_at`, `target_url`, `progress`, `error` and `recovery_artifacts_retained`.

From a file that an upgrade has written, an SQLite URL is never returned
(`authoritativeDatabaseUrl_sqlite`).
-/

namespace Kaya.Cutover

inductive UpgradeState
  | newPostgresInstall
  | existingPostgresInstall
  | sqliteActive
  | precheck
  | maintenance
  | backedUp
  | postgresPrepared
  | migrating
  | validating
  | postgresReady
  | cutoverPending
  | postgresActive
  | failed
  | unsupportedOrAmbiguous
  deriving DecidableEq

/-- The value of the state, which is also its text. -/
def UpgradeState.value : UpgradeState → String
  | .newPostgresInstall => "NEW_POSTGRES_INSTALL"
  | .existingPostgresInstall => "EXISTING_POSTGRES_INSTALL"
  | .sqliteActive => "SQLITE_ACTIVE"
  | .precheck => "PRECHECK"
  | .maintenance => "MAINTENANCE"
  | .backedUp => "BACKED_UP"
  | .postgresPrepared => "POSTGRES_PREPARED"
  | .migrating => "MIGRATING"
  | .validating => "VALIDATING"
  | .postgresReady => "POSTGRES_READY"
  | .cutoverPending => "CUTOVER_PENDING"
  | .postgresActive => "POSTGRES_ACTIVE"
  | .failed => "FAILED"
  | .unsupportedOrAmbiguous => "UNSUPPORTED_OR_AMBIGUOUS"

inductive DatabaseEngine
  | sqlite
  | postgresql
  | unknown
  deriving DecidableEq

/-- The object in the state file. -/
structure Persisted where
  state : UpgradeState
  databaseEngine : Option DatabaseEngine := none
  sourcePath : Option String := none
  sourceRevision : Option String := none
  sourceFingerprint : Option String := none
  originalSourceFingerprint : Option String := none
  originalSourceSnapshotFingerprint : Option String := none
  conversionSourceFingerprint : Option String := none
  targetRevision : Option String := none
  migrationId : Option String := none

/-- A configured URL, as `make_url` takes it apart. -/
inductive DatabaseUrl
  | sqlite (hasHost : Bool) (database : String)
  | postgresql (text : String)
  | other (text : String)

def DatabaseUrl.isSqlite : DatabaseUrl → Bool
  | .sqlite .. => true
  | _ => false

def DatabaseUrl.isPostgresql : DatabaseUrl → Bool
  | .postgresql _ => true
  | _ => false

structure Installation where
  state : UpgradeState
  databaseEngine : DatabaseEngine
  sourcePath : Option String
  reason : String := ""

/-- `sqlite_database_path`. -/
def sqliteDatabasePath (resolve : String → String) : DatabaseUrl → Except String (Option String)
  | .sqlite true _ => .error "SQLite database URLs must reference a local file."
  | .sqlite false database =>
    if database = "" ∨ database = ":memory:" then .ok none else .ok (some (resolve database))
  | _ => .ok none

/-- `engine_name`. -/
def engineName (databaseUrl : DatabaseUrl) (source : Option String) : DatabaseEngine :=
  if source.isSome then .sqlite else if databaseUrl.isPostgresql then .postgresql else .unknown

/-- The installation with a state file. -/
def markedInstallation (persisted : Persisted) (engine : DatabaseEngine) (source : Option String) :
    Installation :=
  if persisted.state = .postgresActive ∧ engine ≠ .postgresql then
    { state := .unsupportedOrAmbiguous
      databaseEngine := engine
      sourcePath := source
      reason := "authoritative PostgreSQL state conflicts with configuration" }
  else { state := persisted.state, databaseEngine := engine, sourcePath := source }

/-- The installation without a state file. -/
def unmarkedInstallation (isFile : String → Bool) (engine : DatabaseEngine) :
    Option String → Installation
  | some source =>
    if isFile source then { state := .sqliteActive, databaseEngine := engine, sourcePath := source }
    else
      { state := .unsupportedOrAmbiguous
        databaseEngine := engine
        sourcePath := source
        reason := "SQLite is not a valid fresh-install database; configure PostgreSQL" }
  | none =>
    if engine = .postgresql then
      { state := .existingPostgresInstall, databaseEngine := engine, sourcePath := none }
    else
      { state := .unsupportedOrAmbiguous
        databaseEngine := engine
        sourcePath := none
        reason := "database configuration is not supported" }

/-- `detect_installation`. -/
def detectInstallation (resolve : String → String) (isFile : String → Bool)
    (persisted : Option Persisted) (databaseUrl : DatabaseUrl) : Except String Installation := do
  let source ← sqliteDatabasePath resolve databaseUrl
  let engine := engineName databaseUrl source
  return persisted.elim (unmarkedInstallation isFile engine source)
    (markedInstallation · engine source)

/-- The states in which startup is refused. -/
def UpgradeState.needsRecovery : UpgradeState → Bool
  | .failed => true
  | .precheck => true
  | .maintenance => true
  | .backedUp => true
  | .postgresPrepared => true
  | .migrating => true
  | .validating => true
  | .postgresReady => true
  | .cutoverPending => true
  | .unsupportedOrAmbiguous => true
  | _ => false

/-- `authoritative_database_url`. -/
def authoritativeDatabaseUrl (resolve : String → String) (isFile : String → Bool)
    (persisted : Option Persisted) (configuredUrl : DatabaseUrl) : Except String DatabaseUrl := do
  let installation ← detectInstallation resolve isFile persisted configuredUrl
  require (¬ (installation.state = .unsupportedOrAmbiguous ∧ installation.reason ≠ ""))
    installation.reason
  require (¬ (installation.state = .postgresActive ∧ configuredUrl.isPostgresql = false))
    "PostgreSQL is authoritative but the configured database is not PostgreSQL."
  require (installation.state.needsRecovery = false)
    "Kaya database upgrade state requires operator recovery before startup."
  return configuredUrl

/-! ### Which URL startup takes -/

variable {resolve : String → String} {isFile : String → Bool} {persisted : Option Persisted}
  {configuredUrl url : DatabaseUrl}

/-- The states that an upgrade writes. -/
def UpgradeState.isUpgrade (state : UpgradeState) : Prop :=
  state.needsRecovery = true ∨ state = .postgresActive

theorem detectInstallation_persisted {persisted : Persisted} {installation : Installation}
    (h : detectInstallation resolve isFile (some persisted) configuredUrl = .ok installation) :
    installation.state = persisted.state ∨ installation.state = .unsupportedOrAmbiguous := by
  obtain ⟨source, -, h⟩ := bind_eq_ok.1 h
  obtain rfl := pure_eq_ok.1 h
  rw [Option.elim_some, markedInstallation]
  split
  · exact .inr rfl
  · exact .inl rfl

/-- **An upgrade that has been started keeps startup from SQLite.** -/
theorem authoritativeDatabaseUrl_sqlite
    (h : authoritativeDatabaseUrl resolve isFile persisted configuredUrl = .ok url)
    (hsqlite : url.isSqlite = true) : ∀ marker ∈ persisted, ¬ marker.state.isUpgrade := by
  rintro marker rfl hupgrade
  obtain ⟨installation, hinstallation, h⟩ := bind_eq_ok.1 h
  simp only [require_bind_eq_ok, pure_eq_ok] at h
  obtain ⟨-, hlive, hrecovery, rfl⟩ := h
  have hnot : configuredUrl.isPostgresql = false := by
    cases configuredUrl with
    | sqlite => rfl
    | _ => exact absurd hsqlite (by simp [DatabaseUrl.isSqlite])
  obtain hst | hst := detectInstallation_persisted hinstallation
  · rw [hst] at hlive hrecovery
    obtain hneeds | rfl' := hupgrade
    · exact absurd (hneeds.symm.trans hrecovery) (by simp)
    · exact hlive ⟨rfl', hnot⟩
  · rw [hst] at hrecovery
    exact absurd hrecovery (by simp [UpgradeState.needsRecovery])

end Kaya.Cutover
