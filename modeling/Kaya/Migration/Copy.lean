import Kaya.Migration.Plan
import Kaya.Migration.Validation
import Mathlib.Data.PNat.Notation

/-!
# Copying the tables

`_copy_table` for the tables in the order of the plan, and `_restore_deferred_foreign_keys`, against
a target that enforces its foreign keys: after each `INSERT` and each `UPDATE` every foreign key of
the row must have a null column or a parent, as PostgreSQL checks immediate constraints at the end
of a statement.

**Outside.** Other constraints, the transactions, since no exception is handled before the end of
`migrate`, and the counts and hashes that go to the report.
-/

namespace Kaya.Migration

/-! ### The target -/

/-- The rows of each table. -/
abbrev Database := String → List Row

/-- `MATCH SIMPLE`. -/
def satisfies (db : Database) (row : Row) (key : ForeignKey) : Bool :=
  (∃ column ∈ key.constrainedColumns, row column = .none) ∨
    ∃ parent ∈ db key.referredTable, ∀ pair ∈ key.constrainedColumns.zip key.referredColumns,
      row pair.1 = parent pair.2

/-- The foreign keys of a row. -/
def checkForeignKeys (table : TargetTable) (db : Database) (row : Row) :
    Except MigrationError Unit :=
  table.foreignKeys.forM fun key ↦
    require (satisfies db row key) (.foreignKeyViolation (table.dependency key).label)

/-- `INSERT`. -/
def insertRow (table : TargetTable) (db : Database) (row : Row) :
    Except MigrationError Database := do
  let db' := Function.update db table.name (db table.name ++ [row])
  checkForeignKeys table db' row
  return db'

/-- `UPDATE … SET … WHERE` for the rows that match. -/
def updateRows (table : TargetTable) (db : Database) (isMatch : Row → Bool) (set : Row → Row) :
    Except MigrationError Database := do
  let db' := Function.update db table.name
    ((db table.name).map fun row ↦ if isMatch row then set row else row)
  ((db table.name).filter isMatch).forM fun row ↦ checkForeignKeys table db' (set row)
  return db'

/-! ### Rows -/

/-- The converted cells by their columns. -/
def rowOf (columns : List Column) (cells : List Value) : Row := fun name ↦
  (((columns.map (·.name)).zip cells).lookup name).getD .none

/-- A row of `converted`. -/
def convertedRow (lib : Parsing) (table : TableSchema) (row : Row) : Except MigrationError Row :=
  (convertRow lib table row).map (rowOf table.columns)

/-- A row with null in some columns. -/
def without (hidden : String → Bool) (row : Row) : Row := fun name ↦
  if hidden name then .none else row name

/-- The values of the primary key. -/
def TargetTable.keyOf (table : TargetTable) (row : Row) : List Value := table.primaryKey.map row

/-- `SELECT … ORDER BY` on SQLite. -/
def readBy {κ : Type} [LinearOrder κ] (key : Value → κ) (columns : List String)
    (rows : List Row) : List Row :=
  rows.insertionSort fun row row' ↦
    (columns.map fun name ↦ key (row name)) ≤ columns.map fun name ↦ key (row' name)

/-- `while rows := cursor.fetchmany(size)`, for so many rows at most. -/
def fetchBatches (size : ℕ+) : ℕ → List Row → List (List Row)
  | 0, _ => []
  | fuel + 1, rows =>
    if rows = [] then [] else rows.take size :: fetchBatches size fuel (rows.drop size)

/-! ### The copy -/

/-- `ALEMBIC_SEEDED_DATA_TABLES`. -/
def alembicSeededDataTables : List String := ["hardware_asset_tag_sequences"]

section Copy

variable (lib : Parsing) (sha256 : List UInt8 → List Char)

/-- `_hash_rows([row], columns)`. -/
def hashRow (table : TargetTable) (row : Row) : List Char :=
  sha256 (utf8 (streamText lib sha256 table.columns [cellsOf table.toTableSchema row]))

/-- A batch of `_copy_table`. -/
def copyBatch (table : TargetTable) (existing : List Row) (deferredColumns : List String)
    (db : Database) (batch : List Row) : Except MigrationError Database := do
  let converted ← batch.mapM (convertedRow lib table.toTableSchema)
  converted.forM fun row ↦
    match existing.find? fun old ↦ table.keyOf old = table.keyOf row with
    | none => .ok ()
    | some old => require (hashRow lib sha256 table row = hashRow lib sha256 table old)
        (.sqliteToPostgres ("Target contains conflicting pre-existing data in " ++ table.name ++
          " primary key " ++ lib.reprOf (table.keyOf row) ++ "."))
  let toInsert := converted.filter fun row ↦
    (existing.find? fun old ↦ table.keyOf old = table.keyOf row).isNone
  (toInsert.map (without (· ∈ deferredColumns))).foldlM (insertRow table) db

/-- `_copy_table`, of rows in the order of the source. -/
def copyTable (table : TargetTable) (batchSize : ℕ+) (deferredColumns : List String)
    (rows : List Row) (db : Database) : Except MigrationError Database :=
  let existing := if table.primaryKey = [] then [] else db table.name
  let isSeeded := table.name ∈ alembicSeededDataTables ∧ existing ≠ []
  (fetchBatches batchSize rows.length rows).foldlM
    (copyBatch lib sha256 table (if isSeeded then [] else existing) deferredColumns)
    (if isSeeded then Function.update db table.name [] else db)

/-! ### The restoration -/

variable {κ : Type} [LinearOrder κ] (key : Value → κ) (schema : List TargetTable)
  (source : Database)

/-- The `UPDATE` for a row of the source. -/
def restoreRow (table : TargetTable) (edge : ForeignKeyDependency) (db : Database) (row : Row) :
    Except MigrationError Database :=
  updateRows table db (fun old ↦ table.primaryKey.all fun name ↦ old name = row name ∧
      row name ≠ .none)
    fun old name ↦ if name ∈ edge.childColumns then row name else old name

/-- `Base.metadata.tables[name]`. -/
def tableNamed (name : String) : Except MigrationError TargetTable :=
  found (schema.find? (·.name = name)) .malformed

/-- A dependency of `_restore_deferred_foreign_keys`. -/
def restoreDependency (db : Database) (edge : ForeignKeyDependency) :
    Except MigrationError Database := do
  let table ← tableNamed schema edge.childTable
  require (table.primaryKey ≠ []) (.sqliteToPostgres
    ("Cannot restore deferred foreign key without a primary key: " ++ edge.label ++ "."))
  (readBy key table.primaryKey (source edge.childTable)).foldlM (restoreRow table edge) db

/-- `deferred_by_table`. -/
def deferredByTable (plan : DependencyPlan) (table : String) : List String :=
  (plan.deferred.filter (·.childTable = table)).flatMap (·.childColumns)

/-- The tables in the order of the plan, and then the deferred columns. -/
def copyPlanned (batchSize : ℕ+) (plan : DependencyPlan) (start : Database) :
    Except MigrationError Database := do
  let db ← plan.order.foldlM (fun db name ↦ do
    let table ← tableNamed schema name
    copyTable lib sha256 table batchSize (deferredByTable plan name)
      (readBy key table.orderColumns (source name)) db) start
  plan.deferred.foldlM (restoreDependency key schema source) db

end Copy

end Kaya.Migration
