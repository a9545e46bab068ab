import Kaya.Migration.CopyTables

/-!
# Restoring the deferred columns

After the copy every table has its rows, with null in its deferred columns. An `UPDATE` of
`_restore_deferred_foreign_keys` finds the row by its primary key and reveals the columns of one
dependency; it violates no foreign key, since all tables have their rows. After the last dependency
nothing is hidden (`copyPlanned_complete`).
-/

namespace Kaya.Migration

open List

section Restoration

variable {κ : Type} [LinearOrder κ] {order : Value → κ} {lib : Parsing}
  {sha256 : List UInt8 → List Char} {schema : List TargetTable} {source db : Database}
  {plan : DependencyPlan} {table : TargetTable} {key : ForeignKey} {row row' : Row}
  {hidden : String → Row → String → Bool} {columns : List String} {child name : String}
  {E : MigrationError → Prop}

/-! ### A row -/

/-- All rows are there, with null in the hidden columns. -/
structure HasTables (order : Value → κ) (lib : Parsing) (schema : List TargetTable)
    (source : Database) (plan : DependencyPlan) (hidden : String → Row → String → Bool)
    (db : Database) : Prop where
  eq : ∀ table ∈ schema, db table.name =
    written lib table (hidden table.name) (readBy order table.orderColumns (source table.name))
  deferred : ∀ child row name, hidden child row name = true → name ∈ deferredByTable plan child

/-- The columns of a dependency are no longer hidden in a row. -/
def reveal (table : TargetTable) (columns : List String) (row : Row)
    (hidden : String → Row → String → Bool) : String → Row → String → Bool :=
  fun child row' name ↦ hidden child row' name &&
    !(child = table.name ∧ table.keyOf row' = table.keyOf row ∧ name ∈ columns)

theorem reveal_of_ne (h : child ≠ table.name) :
    reveal table columns row hidden child = hidden child := by
  funext row' name
  simp [reveal, h]

theorem reveal_of_key_ne (h : table.keyOf row' ≠ table.keyOf row) (child : String) :
    reveal table columns row hidden child row' = hidden child row' := by
  funext name
  simp [reveal, h]

theorem reveal_le (h : reveal table columns row hidden child row' name = true) :
    hidden child row' name = true :=
  (Bool.and_eq_true_iff.1 h).1

theorem reveal_self (h : name ∈ columns) :
    reveal table columns row hidden table.name row name = false := by
  simp [reveal, h]

/-- Revealing more hides nothing again. -/
theorem reveal_eq_false (h : hidden child row' name = false) :
    reveal table columns row hidden child row' name = false := by
  rw [Bool.eq_false_iff] at h ⊢
  exact mt reveal_le h

variable (hschema : IsSchema schema) (hsrc : IsSource schema source) (hplan : IsPlan schema plan)
include hschema hplan

/-- With all rows there, no foreign key is violated. -/
theorem HasTables.satisfies (hdb : HasTables order lib schema source plan hidden db)
    (hsrc : IsSource schema source) (htable : table ∈ schema) (hkey : key ∈ table.foreignKeys)
    (hrow : row ∈ source table.name) :
    satisfies db (without (hidden table.name row) (converted lib table row)) key = true := by
  have hforeign := hschema.isForeignKey table htable key hkey
  refine satisfies_of_rows (hsrc.satisfies table htable row hrow key hkey)
    (fun name hname ↦ ?_) ?_
  · rw [without_apply, converted_apply (hforeign.constrained name hname)]
    split
    · exact .inl rfl
    · exact .inr rfl
  · obtain ⟨parent, hparent, hname, hreferred⟩ := hforeign.referred
    exact hasRows_of_written hname hreferred (hdb.eq parent hparent)
      (fun row hrow ↦ mem_readBy.2 hrow)
      fun row name hhidden ↦ hplan.nullable_of_mem hschema hparent (hdb.deferred _ _ _ hhidden)

/-- The primary key is never hidden. -/
theorem HasTables.key_apply (hdb : HasTables order lib schema source plan hidden db)
    (htable : table ∈ schema) (hkey : key ∈ table.foreignKeys) (hname : name ∈ table.primaryKey)
    (row : Row) : without (hidden table.name row) (converted lib table row) name = row name := by
  obtain ⟨hcolumn, hnot⟩ := hschema.isKeyColumn table htable (ne_nil_of_mem hkey) name hname
  have hshown : hidden table.name row name = false := by
    rw [Bool.eq_false_iff]
    intro hhidden
    exact absurd (hplan.nullable_of_mem hschema htable (hdb.deferred _ _ _ hhidden))
      (by simp [hnot])
  rw [without_of_not hshown, converted_apply hcolumn]

include hsrc

/-- A row after the `UPDATE` for a row of the source. -/
theorem HasTables.update_row (hdb : HasTables order lib schema source plan hidden db)
    (htable : table ∈ schema) (hkey : key ∈ table.foreignKeys) (hrow : row ∈ source table.name)
    (hrow' : row' ∈ source table.name) :
    (if (table.primaryKey.all fun name ↦
        without (hidden table.name row') (converted lib table row') name = row name ∧
          row name ≠ .none) = true
      then fun name ↦ if name ∈ key.constrainedColumns then row name
        else without (hidden table.name row') (converted lib table row') name
      else without (hidden table.name row') (converted lib table row')) =
    without (reveal table key.constrainedColumns row hidden table.name row')
      (converted lib table row') := by
  have hmatch : (table.primaryKey.all fun name ↦
      without (hidden table.name row') (converted lib table row') name = row name ∧
        row name ≠ .none) = true ↔ table.keyOf row' = table.keyOf row := by
    rw [all_eq_true, TargetTable.keyOf, TargetTable.keyOf, map_inj_left]
    refine forall₂_congr fun name hname ↦ ?_
    rw [decide_eq_true_eq, hdb.key_apply hschema hplan htable hkey hname,
      and_iff_left (hsrc.ne_none table htable row hrow name hname)]
  by_cases hsame : table.keyOf row' = table.keyOf row
  · obtain rfl := inj_on_of_nodup_map (hsrc.nodup table htable) hrow' hrow hsame
    rw [if_pos (hmatch.2 rfl)]
    funext name
    by_cases hname : name ∈ key.constrainedColumns
    · rw [if_pos hname, without_of_not (reveal_self hname), converted_apply
        ((hschema.isForeignKey table htable key hkey).constrained name hname)]
    · rw [if_neg hname, without_apply, without_apply]
      simp [reveal, hname]
  · rw [if_neg (mt hmatch.1 hsame), reveal_of_key_ne hsame]

/-- A row is restored. -/
theorem yields_restoreRow (hdb : HasTables order lib schema source plan hidden db)
    (htable : table ∈ schema) (hkey : key ∈ table.foreignKeys) (hrow : row ∈ source table.name) :
    Yields E (HasTables order lib schema source plan
        (reveal table key.constrainedColumns row hidden))
      (restoreRow table (table.dependency key) db row) := by
  rw [restoreRow, updateRows]
  have hrows := hdb.eq table htable
  have hdb' : HasTables order lib schema source plan
      (reveal table key.constrainedColumns row hidden)
      (Function.update db table.name ((db table.name).map fun old ↦
        if (table.primaryKey.all fun name ↦ old name = row name ∧ row name ≠ .none) = true
        then fun name ↦ if name ∈ key.constrainedColumns then row name else old name
        else old)) := by
    refine ⟨fun table' htable' ↦ ?_, fun child row' name h ↦ hdb.deferred _ _ _ (reveal_le h)⟩
    by_cases hsame : table'.name = table.name
    · obtain rfl := hschema.eq_of_name htable' htable hsame
      rw [Function.update_self, hrows, written, written, map_map]
      refine map_congr_left fun row' hrow' ↦ ?_
      exact hdb.update_row hschema hsrc hplan htable hkey hrow (mem_readBy.1 hrow')
    · rw [Function.update_of_ne hsame, reveal_of_ne hsame]
      exact hdb.eq table' htable'
  refine Yields.bind (Yields.forM _ fun old hold ↦ Yields.forM _ fun key' hkey' ↦
    Yields.require ?_) fun _ _ ↦ hdb'
  obtain ⟨hmem, hmatch⟩ := mem_filter.1 hold
  rw [hrows] at hmem
  obtain ⟨row', hrow', rfl⟩ := mem_map.1 hmem
  have hnew := hdb.update_row hschema hsrc hplan htable hkey hrow (mem_readBy.1 hrow')
  rw [if_pos hmatch] at hnew
  have hsatisfies := hdb'.satisfies hschema hplan hsrc htable hkey' (mem_readBy.1 hrow')
  rw [← hnew] at hsatisfies
  exact hsatisfies

/-! ### All dependencies -/

/-- Nothing of these dependencies is hidden any more. -/
def IsRevealed (source : Database) (hidden : String → Row → String → Bool)
    (edges : List ForeignKeyDependency) : Prop :=
  ∀ edge ∈ edges, ∀ row ∈ source edge.childTable, ∀ name ∈ edge.childColumns,
    hidden edge.childTable row name = false

/-- A dependency is restored. -/
theorem yields_restoreDependency {edges : List ForeignKeyDependency}
    {edge : ForeignKeyDependency} (hdb : HasTables order lib schema source plan hidden db)
    (hrevealed : IsRevealed source hidden edges) (hedge : edge ∈ plan.deferred) :
    Yields E (fun db' ↦ ∃ hidden', HasTables order lib schema source plan hidden' db' ∧
        IsRevealed source hidden' (edges ++ [edge]))
      (restoreDependency order schema source db edge) := by
  obtain ⟨table, htable, key, hkey, rfl, -⟩ := hplan.exists_key hedge
  rw [restoreDependency]
  have hname : (table.dependency key).childTable = table.name := rfl
  simp only [hname, tableNamed_eq_ok hschema htable]
  refine (Yields.require (hschema.primaryKey table htable)).bind fun _ _ ↦ ?_
  refine Yields.imp (Yields.foldlM _ (I := fun done db' ↦ ∃ hidden',
    HasTables order lib schema source plan hidden' db' ∧ IsRevealed source hidden' edges ∧
      ∀ row ∈ done, ∀ name ∈ key.constrainedColumns, hidden' table.name row name = false) ?_ ?_)
    ?_
  · exact ⟨hidden, hdb, hrevealed, fun _ h ↦ absurd h not_mem_nil⟩
  · rintro done row rest db' hrows ⟨hidden', hdb', hrevealed', hdone⟩
    have hrow : row ∈ source table.name := by
      have hmem : row ∈ readBy order table.primaryKey (source table.name) := by
        rw [hrows]
        exact mem_append_right _ mem_cons_self
      exact mem_readBy.1 hmem
    refine (yields_restoreRow hschema hsrc hplan hdb' htable hkey hrow).imp fun db'' hdb'' ↦ ?_
    refine ⟨_, hdb'', fun edge hedge row hrow name hname ↦
      reveal_eq_false (hrevealed' edge hedge row hrow name hname), fun row' hmem name hname ↦ ?_⟩
    rcases mem_append.1 hmem with hmem | hmem
    · exact reveal_eq_false (hdone row' hmem name hname)
    · obtain rfl := mem_singleton.1 hmem
      exact reveal_self hname
  · rintro db' ⟨hidden', hdb', hrevealed', hdone⟩
    refine ⟨hidden', hdb', fun edge hmem ↦ ?_⟩
    rcases mem_append.1 hmem with hmem | hmem
    · exact hrevealed' edge hmem
    · obtain rfl := mem_singleton.1 hmem
      exact fun row hrow ↦ hdone row (mem_readBy.2 hrow)

/-- After all dependencies every table has its converted rows. -/
theorem yields_restoreDeferred (hdb : HasTables order lib schema source plan hidden db) :
    Yields E (fun db' ↦ ∀ table ∈ schema, db' table.name =
        (readBy order table.orderColumns (source table.name)).map (converted lib table))
      (plan.deferred.foldlM (restoreDependency order schema source) db) := by
  refine Yields.imp (Yields.foldlM _ (I := fun done db' ↦ ∃ hidden',
    HasTables order lib schema source plan hidden' db' ∧ IsRevealed source hidden' done) ?_ ?_) ?_
  · exact ⟨hidden, hdb, fun _ h ↦ absurd h not_mem_nil⟩
  · rintro done edge rest db' hedges ⟨hidden', hdb', hrevealed⟩
    refine yields_restoreDependency hschema hsrc hplan hdb' hrevealed ?_
    rw [hedges]
    exact mem_append_right _ mem_cons_self
  · rintro db' ⟨hidden', hdb', hrevealed⟩ table htable
    rw [hdb'.eq table htable]
    refine map_congr_left fun row hrow ↦ funext fun name ↦ without_of_not ?_
    rw [Bool.eq_false_iff]
    intro hhidden
    obtain ⟨edge, hedge, hchild, hname⟩ := mem_deferredByTable.1 (hdb'.deferred _ _ _ hhidden)
    have hshown := hrevealed edge hedge row (hchild ▸ mem_readBy.1 hrow) name hname
    rw [hchild, hhidden] at hshown
    exact absurd hshown (by simp)

end Restoration

/-! ### The whole copy -/

theorem convertRow_ne_foreignKeyViolation {lib : Parsing} {table : TableSchema} {row : Row}
    {e : MigrationError} (h : convertRow lib table row = .error e) (constraint : String) :
    e ≠ .foreignKeyViolation constraint := by
  have hcell : ∀ column value, Yields (fun e ↦ e ≠ .foreignKeyViolation constraint)
      (fun _ ↦ True) (convertValue lib column value) := by
    intro column value
    have hparsed : ∀ {α : Type} (constructor : α → Value) (x : Option α),
        Yields (fun e ↦ e ≠ .foreignKeyViolation constraint) (fun _ ↦ True)
          (parsed constructor x) := by
      intro α constructor x
      cases x with
      | none => exact MigrationError.noConfusion
      | some a => trivial
    rw [convertValue.eq_def]
    split <;> first | trivial | exact hparsed _ _ | skip
    split
    · trivial
    · split
      · trivial
      · exact MigrationError.noConfusion
  exact (yields_iff.1 (Yields.mapM table.columns fun column _ ↦ hcell column _)).2 e h

/-- A reference to an id. -/
def referenceTo (table column : String) : ForeignKey where
  constrainedColumns := [column]
  referredTable := table
  referredColumns := ["id"]

def dnsProviders : TargetTable where
  name := "dns_providers"
  columns := [⟨"id", .integer⟩, ⟨"ha_cluster_id", .integer⟩]
  nodup := by decide
  nullable := (· = "ha_cluster_id")
  primaryKey := ["id"]
  foreignKeys := [referenceTo "ha_clusters" "ha_cluster_id"]

def haClusters : TargetTable where
  name := "ha_clusters"
  columns := [⟨"id", .integer⟩, ⟨"authoritative_node_id", .integer⟩,
    ⟨"automatic_sync_enabled", .boolean⟩]
  nodup := by decide
  nullable := (· = "authoritative_node_id")
  primaryKey := ["id"]
  foreignKeys := [referenceTo "ha_nodes" "authoritative_node_id"]

def haNodes : TargetTable where
  name := "ha_nodes"
  columns := [⟨"id", .integer⟩, ⟨"cluster_id", .integer⟩, ⟨"integration_reference_id", .integer⟩]
  nodup := by decide
  nullable := (· = "integration_reference_id")
  primaryKey := ["id"]
  foreignKeys := [referenceTo "ha_clusters" "cluster_id",
    referenceTo "dns_providers" "integration_reference_id"]

def runbookPages : TargetTable where
  name := "runbook_pages"
  columns := [⟨"id", .integer⟩, ⟨"parent_id", .integer⟩]
  nodup := by decide
  nullable := (· = "parent_id")
  primaryKey := ["id"]
  foreignKeys := [referenceTo "runbook_pages" "parent_id"]

def hardwareAssetTagSequences : TargetTable where
  name := "hardware_asset_tag_sequences"
  columns := [⟨"id", .integer⟩, ⟨"next_number", .integer⟩]
  nodup := by decide
  nullable _ := false
  primaryKey := ["id"]
  foreignKeys := []

/-- Three tables that refer to each other, one to itself, and the one that Alembic seeds. -/
def cyclicSchema : List TargetTable :=
  [dnsProviders, haClusters, haNodes, runbookPages, hardwareAssetTagSequences]

/-- A row, by its cells. -/
def rowWith (cells : List (String × Value)) : Row := fun name ↦ (cells.lookup name).getD .none

/-- Two pages are each the parent of the other. -/
def cyclicSource : Database
  | "dns_providers" => [rowWith [("id", .int 3), ("ha_cluster_id", .int 1)]]
  | "ha_clusters" => [rowWith [("id", .int 1), ("authoritative_node_id", .int 7),
      ("automatic_sync_enabled", .int 1)]]
  | "ha_nodes" => [rowWith [("id", .int 7), ("cluster_id", .int 1),
      ("integration_reference_id", .int 3)]]
  | "runbook_pages" => [rowWith [("id", .int 1), ("parent_id", .int 2)],
      rowWith [("id", .int 2), ("parent_id", .int 1)]]
  | "hardware_asset_tag_sequences" => [rowWith [("id", .int 1), ("next_number", .int 42)]]
  | _ => []

/-- After the migrations of Alembic. -/
def seededTarget : Database
  | "hardware_asset_tag_sequences" => [rowWith [("id", .int 1), ("next_number", .int 1)]]
  | _ => []

/-- Every cycle loses an edge. -/
def cyclicPlan : DependencyPlan where
  order := ["dns_providers", "ha_clusters", "hardware_asset_tag_sequences", "runbook_pages",
    "ha_nodes"]
  deferred := [dnsProviders.dependency (referenceTo "ha_clusters" "ha_cluster_id"),
    haClusters.dependency (referenceTo "ha_nodes" "authoritative_node_id"),
    runbookPages.dependency (referenceTo "runbook_pages" "parent_id")]

/-- The cells of a table. -/
def cellsIn (table : TargetTable) (rows : List Row) : List (List Value) :=
  rows.map fun row ↦ table.columns.map fun column ↦ row column.name

/-- A table after the copy, one row at a time. -/
def cyclicCells (table : TargetTable) : List (List Value) :=
  cellsIn table <| ((copyPlanned sampleParsing sampleSha256 sqliteKey cyclicSchema cyclicSource
    ⟨1, Nat.one_pos⟩ cyclicPlan seededTarget).toOption.getD seededTarget) table.name

theorem dependencyPlan_cyclic : dependencyPlan 100 cyclicSchema = .ok cyclicPlan := by
  decide +kernel

theorem isSchema_cyclic : IsSchema cyclicSchema where
  nodup := by decide
  primaryKey := by decide +kernel
  isForeignKey := by decide +kernel
  isKeyColumn := by decide +kernel

theorem isSource_cyclic : IsSource cyclicSchema cyclicSource where
  satisfies := by decide +kernel
  nodup := by decide +kernel
  ne_none := by decide +kernel

end Kaya.Migration
