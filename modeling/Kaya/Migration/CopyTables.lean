import Kaya.Migration.Copy

/-!
# Tables in the order of the plan

For the tables of the application and a source that satisfies its foreign keys. When a table is
copied, its deferred columns are null and the tables its other foreign keys refer to are complete,
so that no row is rejected (`yields_copyTables`).

A key column has a type that is not converted. Foreign keys have key columns and refer to key
columns that are not null. So a row of the target satisfies a foreign key if its values are null or
those of its row in the source, and every row of the parent table has its referred values
(`satisfies_of_rows`).
-/

namespace Kaya.Migration

open List Function

/-! ### Tables and sources -/

/-- A column whose values are not converted. -/
def TargetTable.IsKeyColumn (table : TargetTable) (name : String) : Prop :=
  ∃ column ∈ table.columns, column.name = name ∧ (column.type = .integer ∨ column.type = .string)

instance (table : TargetTable) (name : String) : Decidable (table.IsKeyColumn name) :=
  inferInstanceAs (Decidable (∃ column ∈ table.columns, column.name = name ∧
    (column.type = .integer ∨ column.type = .string)))

/-- A foreign key of the application. -/
structure IsForeignKey (schema : List TargetTable) (table : TargetTable) (key : ForeignKey) :
    Prop where
  ne_nil : key.constrainedColumns ≠ []
  length : key.constrainedColumns.length = key.referredColumns.length
  constrained : ∀ name ∈ key.constrainedColumns, table.IsKeyColumn name
  referred : ∃ parent ∈ schema, parent.name = key.referredTable ∧
    ∀ name ∈ key.referredColumns, parent.IsKeyColumn name ∧ parent.nullable name = false

instance (schema : List TargetTable) (table : TargetTable) (key : ForeignKey) :
    Decidable (IsForeignKey schema table key) :=
  decidable_of_iff (key.constrainedColumns ≠ [] ∧
      key.constrainedColumns.length = key.referredColumns.length ∧
      (∀ name ∈ key.constrainedColumns, table.IsKeyColumn name) ∧
      ∃ parent ∈ schema, parent.name = key.referredTable ∧
        ∀ name ∈ key.referredColumns, parent.IsKeyColumn name ∧ parent.nullable name = false)
    ⟨fun h ↦ ⟨h.1, h.2.1, h.2.2.1, h.2.2.2⟩,
      fun h ↦ ⟨h.ne_nil, h.length, h.constrained, h.referred⟩⟩

/-- The tables of the application. -/
structure IsSchema (schema : List TargetTable) : Prop where
  nodup : (schema.map (·.name)).Nodup
  primaryKey : ∀ table ∈ schema, table.primaryKey ≠ []
  isForeignKey : ∀ table ∈ schema, ∀ key ∈ table.foreignKeys, IsForeignKey schema table key
  isKeyColumn : ∀ table ∈ schema, table.foreignKeys ≠ [] → ∀ name ∈ table.primaryKey,
    table.IsKeyColumn name ∧ table.nullable name = false

/-- A source with these tables. -/
structure IsSource (schema : List TargetTable) (source : Database) : Prop where
  satisfies : ∀ table ∈ schema, ∀ row ∈ source table.name, ∀ key ∈ table.foreignKeys,
    satisfies source row key = true
  nodup : ∀ table ∈ schema, ((source table.name).map table.keyOf).Nodup
  ne_none : ∀ table ∈ schema, ∀ row ∈ source table.name, ∀ name ∈ table.primaryKey, row name ≠ .none

variable {schema : List TargetTable} {table : TargetTable}

theorem IsSchema.eq_of_name (h : IsSchema schema) {table' : TargetTable} (htable : table ∈ schema)
    (htable' : table' ∈ schema) (hname : table.name = table'.name) : table = table' :=
  inj_on_of_nodup_map h.nodup htable htable' hname

theorem tableNamed_eq_ok (h : IsSchema schema)
    (htable : table ∈ schema) : tableNamed schema table.name = .ok table := by
  rw [tableNamed, found_eq_ok]
  cases hfind : schema.find? (·.name = table.name) with
  | none => exact absurd (find?_eq_none.1 hfind table htable) (by simp)
  | some table' =>
    have hname := find?_some hfind
    exact congrArg some (h.eq_of_name (mem_of_find?_eq_some hfind) htable
      (of_decide_eq_true hname))

/-! ### Converted rows -/

section Rows

variable {lib : Parsing} {table : TargetTable} {row row' : Row} {name : String}

/-- A row after `_convert_value`, as far as it can be converted. -/
def converted (lib : Parsing) (table : TargetTable) (row : Row) : Row :=
  ((convertedRow lib table.toTableSchema row).toOption).getD row

theorem converted_of_ok (h : convertedRow lib table.toTableSchema row = .ok row') :
    converted lib table row = row' := by
  rw [converted, h]
  rfl

/-- Every cell is under the name of its column. -/
theorem rowOf_apply {f : Column → Except MigrationError Value} {columns : List Column}
    {cells : List Value} (hnodup : (columns.map (·.name)).Nodup)
    (hcells : columns.map f = cells.map .ok) :
    ∀ column ∈ columns, f column = .ok (rowOf columns cells column.name) := by
  induction columns generalizing cells with
  | nil => exact fun _ h ↦ absurd h not_mem_nil
  | cons column columns ih =>
    cases cells with
    | nil => exact absurd hcells (by simp)
    | cons cell cells =>
      obtain ⟨hcell, hrest⟩ := cons.inj hcells
      obtain ⟨hnot, hnodup⟩ := nodup_cons.1 hnodup
      intro column' hmem
      rcases mem_cons.1 hmem with rfl | hmem
      · rw [hcell]
        simp [rowOf]
      · have hmap : column'.name ∈ columns.map (·.name) := mem_map_of_mem hmem
        have hne : (column'.name == column.name) = false :=
          beq_false_of_ne fun hname ↦ hnot (show column.name ∈ _ from hname ▸ hmap)
        rw [ih hnodup hrest column' hmem]
        simp [rowOf, lookup_cons, hne]

theorem converted_apply (h : table.IsKeyColumn name) : converted lib table row name = row name := by
  cases hrow : convertedRow lib table.toTableSchema row with
  | error e =>
    rw [converted, hrow]
    rfl
  | ok row' =>
    rw [converted_of_ok hrow]
    obtain ⟨cells, hcells, rfl⟩ := map_eq_ok.1 hrow
    obtain ⟨column, hmem, rfl, htype⟩ := h
    have hcell := rowOf_apply table.nodup (convertRow_eq_ok.1 hcells) column hmem
    have hkept : convertValue lib column (row column.name) = .ok (row column.name) := by
      rcases htype with htype | htype <;> cases hvalue : row column.name <;>
        simp [convertValue, htype]
    exact Except.ok.inj (hcell.symm.trans hkept)

/-- The rows of a table, with null in the hidden columns. -/
def written (lib : Parsing) (table : TargetTable) (hidden : Row → String → Bool)
    (rows : List Row) : List Row :=
  rows.map fun row ↦ without (hidden row) (converted lib table row)

theorem without_apply (hidden : String → Bool) (row : Row) (name : String) :
    without hidden row name = if hidden name then .none else row name :=
  rfl

theorem without_of_not {hidden : String → Bool} (h : hidden name = false) :
    without hidden row name = row name := by
  rw [without_apply, h]
  rfl

/-- A row of the target satisfies a foreign key. -/
theorem satisfies_of_rows {source db : Database} {row : Row} {key : ForeignKey}
    (hsrc : satisfies source row key = true)
    (hchild : ∀ name ∈ key.constrainedColumns, row' name = .none ∨ row' name = row name)
    (hparent : ∀ parent ∈ source key.referredTable, ∃ parent' ∈ db key.referredTable,
      ∀ name ∈ key.referredColumns, parent' name = parent name) : satisfies db row' key = true := by
  rw [satisfies, decide_eq_true_eq] at hsrc ⊢
  by_cases hnull : ∃ column ∈ key.constrainedColumns, row' column = .none
  · exact .inl hnull
  · have hvalue : ∀ name ∈ key.constrainedColumns, row' name = row name := fun name hname ↦
      (hchild name hname).resolve_left fun hnone ↦ hnull ⟨name, hname, hnone⟩
    rcases hsrc with ⟨name, hname, hnone⟩ | ⟨parent, hmem, hpairs⟩
    · exact absurd ⟨name, hname, (hvalue name hname).trans hnone⟩ hnull
    · obtain ⟨parent', hmem', hreferred⟩ := hparent parent hmem
      refine .inr ⟨parent', hmem', fun pair hpair ↦ ?_⟩
      obtain ⟨hconstrained, hrefer⟩ := of_mem_zip hpair
      rw [hvalue pair.1 hconstrained, hreferred pair.2 hrefer]
      exact hpairs pair hpair

end Rows

/-! ### Copying a table -/

theorem fetchBatches_flatten (size : ℕ+) (fuel : ℕ) (rows : List Row)
    (hfuel : rows.length ≤ fuel) : (fetchBatches size fuel rows).flatten = rows := by
  induction fuel generalizing rows with
  | zero => exact (length_eq_zero_iff.1 (Nat.le_zero.1 hfuel)).symm
  | succ fuel ih =>
    rw [fetchBatches]
    split
    next h => exact h.symm
    next h =>
      have hsize : 0 < (size : ℕ) := size.2
      have hlen := length_pos_iff.2 h
      rw [flatten_cons, ih _ (by rw [length_drop]; omega), take_append_drop]

/-- What an error of the copy says: a row of the source cannot be converted. -/
def IsConversionError (lib : Parsing) (schema : List TargetTable) (source : Database)
    (e : MigrationError) : Prop :=
  ∃ table ∈ schema, ∃ row ∈ source table.name, convertRow lib table.toTableSchema row = .error e

section CopyTable

variable {lib : Parsing} {sha256 : List UInt8 → List Char} {schema : List TargetTable}
  {source db : Database} {table : TargetTable} {rows : List Row} {row : Row}

theorem yields_mapM_convertedRow (htable : table ∈ schema)
    (hrows : ∀ row ∈ rows, row ∈ source table.name) :
    Yields (IsConversionError lib schema source)
      (fun rows' ↦ rows' = rows.map (converted lib table) ∧
        ∀ row ∈ rows, convertedRow lib table.toTableSchema row = .ok (converted lib table row))
      (rows.mapM (convertedRow lib table.toTableSchema)) := by
  induction rows with
  | nil => exact ⟨rfl, fun _ h ↦ absurd h not_mem_nil⟩
  | cons row rows ih =>
    rw [mapM_cons]
    have hrow : Yields (IsConversionError lib schema source)
        (fun row' ↦ convertedRow lib table.toTableSchema row = .ok row')
        (convertedRow lib table.toTableSchema row) := by
      refine yields_iff.2 ⟨fun _ h ↦ h, fun e he ↦ ?_⟩
      refine ⟨table, htable, row, hrows row mem_cons_self, ?_⟩
      cases hcells : convertRow lib table.toTableSchema row with
      | ok cells => exact absurd he (by simp [convertedRow, hcells, Except.map])
      | error e' => simpa [convertedRow, hcells, Except.map] using he
    refine hrow.bind fun row' hrow' ↦ (ih fun row hmem ↦
      hrows row (mem_cons_of_mem _ hmem)).bind fun rows' hrows' ↦ ?_
    obtain ⟨rfl, hall⟩ := hrows'
    obtain rfl := converted_of_ok hrow'
    refine ⟨rfl, fun row hmem ↦ ?_⟩
    rcases mem_cons.1 hmem with rfl | hmem
    · exact hrow'
    · exact hall row hmem

/-- A row is inserted if it has its parents. -/
theorem yields_insertRow {E : MigrationError → Prop}
    (h : ∀ key ∈ table.foreignKeys,
      satisfies (Function.update db table.name (db table.name ++ [row])) row key = true) :
    Yields E (· = Function.update db table.name (db table.name ++ [row]))
      (insertRow table db row) :=
  (Yields.forM _ fun key hkey ↦ .require (h key hkey)).bind fun _ _ ↦ rfl

/-- Every row of the table that is referred to is in the target. -/
def HasRows (source db : Database) (key : ForeignKey) : Prop :=
  ∀ parent ∈ source key.referredTable, ∃ parent' ∈ db key.referredTable,
    ∀ name ∈ key.referredColumns, parent' name = parent name

/-- A foreign key is deferred, or refers to a table that has been copied. -/
def IsReady (source db : Database) (table : TargetTable) (deferredColumns : List String) : Prop :=
  ∀ key ∈ table.foreignKeys, (∃ name ∈ key.constrainedColumns, name ∈ deferredColumns) ∨
    key.referredTable ≠ table.name ∧ HasRows source db key

variable (hschema : IsSchema schema) (hsrc : IsSource schema source) (htable : table ∈ schema)
  {deferredColumns : List String}
include hschema hsrc htable

section

variable (hrdy : IsReady source db table deferredColumns)

include hrdy

theorem satisfies_of_isReady
    (hrow : row ∈ source table.name) {key : ForeignKey} (hkey : key ∈ table.foreignKeys)
    (rows : List Row) :
    satisfies (Function.update db table.name rows)
      (without (· ∈ deferredColumns) (converted lib table row)) key = true := by
  rcases hrdy key hkey with ⟨name, hname, hdeferred⟩ | ⟨hne, hrows⟩
  · rw [satisfies, decide_eq_true_eq]
    exact .inl ⟨name, hname, if_pos (decide_eq_true hdeferred)⟩
  · refine satisfies_of_rows (hsrc.satisfies table htable row hrow key hkey)
      (fun name hname ↦ ?_) fun parent hparent ↦ ?_
    · rw [without_apply, converted_apply
        ((hschema.isForeignKey table htable key hkey).constrained name hname)]
      split
      · exact .inl rfl
      · exact .inr rfl
    · rw [update_of_ne hne]
      exact hrows parent hparent

/-- A batch adds its rows to those before. -/
theorem yields_copyBatch {batch : List Row}
    (hbatch : ∀ row ∈ batch, row ∈ source table.name) (rows : List Row) :
    Yields (IsConversionError lib schema source)
      (fun db' ↦ db' = Function.update db table.name
          (rows ++ written lib table (fun _ ↦ (· ∈ deferredColumns)) batch) ∧
        ∀ row ∈ batch, convertedRow lib table.toTableSchema row = .ok (converted lib table row))
      (copyBatch lib sha256 table [] deferredColumns (Function.update db table.name rows)
        batch) := by
  refine (yields_mapM_convertedRow htable hbatch).bind ?_
  rintro _ ⟨rfl, hall⟩
  have hchecks : Yields (IsConversionError lib schema source) (fun _ ↦ True)
      ((batch.map (converted lib table)).forM fun _ ↦ (.ok () : Except MigrationError Unit)) :=
    Yields.forM _ fun _ _ ↦ trivial
  refine hchecks.bind fun _ _ ↦ ?_
  simp only [find?_nil, Option.isNone_none, filter_true, map_map]
  refine Yields.imp (Yields.foldlM (written lib table (fun _ ↦ (· ∈ deferredColumns)) batch)
    (I := fun done db' ↦ db' = update db table.name (rows ++ done)) ?_ ?_)
    fun db' hdb' ↦ ⟨hdb', hall⟩
  · rw [append_nil]
  · rintro done row' rest db' hwritten rfl
    have hmem : row' ∈ written lib table (fun _ ↦ (· ∈ deferredColumns)) batch := by
      rw [hwritten]
      exact mem_append_right _ mem_cons_self
    obtain ⟨row, hrow, rfl⟩ := mem_map.1 hmem
    rw [← append_assoc]
    refine Yields.imp (yields_insertRow fun key hkey ↦ ?_) fun db' hdb' ↦ ?_
    · rw [update_idem]
      exact satisfies_of_isReady hschema hsrc htable hrdy (hbatch row hrow) hkey _
    · rwa [update_idem, update_self] at hdb'

/-- A table is copied into an empty one, or one that Alembic has seeded. -/
theorem yields_copyTable
    (hrows : ∀ row ∈ rows, row ∈ source table.name)
    (hstart : db table.name ≠ [] → table.name ∈ alembicSeededDataTables) (batchSize : ℕ+) :
    Yields (IsConversionError lib schema source)
      (fun db' ↦ db' = Function.update db table.name
          (written lib table (fun _ ↦ (· ∈ deferredColumns)) rows) ∧
        ∀ row ∈ rows, convertedRow lib table.toTableSchema row = .ok (converted lib table row))
      (copyTable lib sha256 table batchSize deferredColumns rows db) := by
  have hempty : copyTable lib sha256 table batchSize deferredColumns rows db =
      (fetchBatches batchSize rows.length rows).foldlM
        (copyBatch lib sha256 table [] deferredColumns) (update db table.name []) := by
    simp only [copyTable, if_neg (hschema.primaryKey table htable)]
    by_cases hnil : db table.name = []
    · have hsame : update db table.name [] = db := by
        rw [← hnil, update_eq_self]
      simp only [hnil, ne_eq, not_true, and_false, if_false, hsame]
    · simp only [hstart hnil, ne_eq, hnil, not_false_iff, and_self, if_true]
  have hflatten := fetchBatches_flatten batchSize rows.length rows le_rfl
  rw [hempty]
  refine Yields.imp (Yields.foldlM _
    (I := fun done db' ↦ db' = update db table.name
        (written lib table (fun _ ↦ (· ∈ deferredColumns)) done.flatten) ∧ ∀ row ∈ done.flatten,
        convertedRow lib table.toTableSchema row = .ok (converted lib table row)) ?_ ?_)
    fun db' hdb' ↦ hflatten ▸ hdb'
  · exact ⟨rfl, fun _ h ↦ absurd h not_mem_nil⟩
  · rintro done batch rest db' hbatches ⟨rfl, hall⟩
    have hbatch : ∀ row ∈ batch, row ∈ source table.name := by
      intro row hmem
      refine hrows row ?_
      rw [← hflatten, hbatches]
      simp only [flatten_append, flatten_cons, mem_append, hmem, true_or, or_true]
    refine (yields_copyBatch hschema hsrc htable hrdy hbatch _).imp ?_
    rintro _ ⟨rfl, hall'⟩
    rw [flatten_append, flatten_cons, flatten_nil, append_nil]
    refine ⟨by simp only [written, map_append], fun row hmem ↦ ?_⟩
    rcases mem_append.1 hmem with hmem | hmem
    · exact hall row hmem
    · exact hall' row hmem

end

end CopyTable

/-! ### Copying all tables -/

section CopyTables

variable {κ : Type} [LinearOrder κ] {order : Value → κ} {lib : Parsing}
  {sha256 : List UInt8 → List Char} {schema : List TargetTable} {source start db : Database}
  {plan : DependencyPlan} {table : TargetTable} {rows : List Row} {key : ForeignKey} {name : String}

theorem mem_readBy {columns : List String} {row : Row} :
    row ∈ readBy order columns rows ↔ row ∈ rows :=
  mem_insertionSort _

/-- A table with its rows has those that are referred to. -/
theorem hasRows_of_written {parent : TargetTable}
    {hidden : Row → String → Bool} (hname : parent.name = key.referredTable)
    (hreferred : ∀ name ∈ key.referredColumns,
      parent.IsKeyColumn name ∧ parent.nullable name = false)
    (hdb : db parent.name = written lib parent hidden rows)
    (hrows : ∀ row ∈ source parent.name, row ∈ rows)
    (hnullable : ∀ row name, hidden row name = true → parent.nullable name = true) :
    HasRows source db key := by
  intro row hrow
  rw [← hname] at hrow ⊢
  refine ⟨without (hidden row) (converted lib parent row), ?_, fun name hmem ↦ ?_⟩
  · rw [hdb]
    exact mem_map_of_mem (hrows row hrow)
  · obtain ⟨hkey, hnot⟩ := hreferred name hmem
    have hshown : hidden row name = false := by
      rw [Bool.eq_false_iff]
      exact fun hhidden ↦ absurd (hnullable row name hhidden) (by simp [hnot])
    rw [without_of_not hshown, converted_apply hkey]

theorem IsSchema.mem_dependencyEdges (hschema : IsSchema schema) (htable : table ∈ schema)
    (hkey : key ∈ table.foreignKeys) : table.dependency key ∈ dependencyEdges schema := by
  have hforeign := hschema.isForeignKey table htable key hkey
  obtain ⟨parent, hparent, hname, -⟩ := hforeign.referred
  exact Migration.mem_dependencyEdges.2 ⟨table, htable, key, hkey,
    ⟨hname ▸ mem_map_of_mem hparent, hforeign.ne_nil, hforeign.length⟩, rfl⟩

theorem mem_deferredByTable {child : String} : name ∈ deferredByTable plan child ↔
    ∃ edge ∈ plan.deferred, edge.childTable = child ∧ name ∈ edge.childColumns := by
  simp only [deferredByTable, mem_flatMap, mem_filter, decide_eq_true_eq, and_assoc]

/-- The foreign key of a deferred dependency. -/
theorem IsPlan.exists_key (hplan : IsPlan schema plan) {edge : ForeignKeyDependency}
    (hedge : edge ∈ plan.deferred) : ∃ table ∈ schema, ∃ key ∈ table.foreignKeys,
      table.dependency key = edge ∧ ∀ name ∈ edge.childColumns, table.nullable name = true := by
  obtain ⟨hmem, hnullable⟩ := hplan.nullable edge hedge
  obtain ⟨table, htable, key, hkey, -, rfl⟩ := mem_dependencyEdges.1 hmem
  exact ⟨table, htable, key, hkey, rfl, all_eq_true.1 hnullable⟩

theorem IsPlan.nullable_of_mem (hplan : IsPlan schema plan) (hschema : IsSchema schema)
    (htable : table ∈ schema) (h : name ∈ deferredByTable plan table.name) :
    table.nullable name = true := by
  obtain ⟨edge, hedge, hchild, hname⟩ := mem_deferredByTable.1 h
  obtain ⟨table', htable', key, -, rfl, hnullable⟩ := hplan.exists_key hedge
  obtain rfl := hschema.eq_of_name htable' htable hchild
  exact hnullable name hname

/-- A table as it has been copied. -/
def IsCopied (order : Value → κ) (lib : Parsing) (source : Database) (plan : DependencyPlan)
    (db : Database) (table : TargetTable) : Prop :=
  db table.name = written lib table (fun _ ↦ (· ∈ deferredByTable plan table.name))
      (readBy order table.orderColumns (source table.name)) ∧ ∀ row ∈ source table.name,
      convertedRow lib table.toTableSchema row = .ok (converted lib table row)

/-- The tables before it have been copied. -/
theorem isReady_of_isCopied (hschema : IsSchema schema) (hplan : IsPlan schema plan)
    (htable : table ∈ schema) {earlier later : List String}
    (horder : plan.order = earlier ++ table.name :: later)
    (hcopied : ∀ parent ∈ schema, parent.name ∈ earlier →
      IsCopied order lib source plan db parent) :
    IsReady source db table (deferredByTable plan table.name) := by
  intro key hkey
  have hforeign := hschema.isForeignKey table htable key hkey
  rcases hplan.before _ (hschema.mem_dependencyEdges htable hkey) with hdeferred | hbef
  · obtain ⟨name, hname⟩ := exists_mem_of_ne_nil _ hforeign.ne_nil
    exact .inl ⟨name, hname, mem_deferredByTable.2 ⟨_, hdeferred, rfl, hname⟩⟩
  · have hearlier : key.referredTable ∈ earlier := hbef earlier later horder
    have hnodup := hplan.perm.nodup_iff.2 hschema.nodup
    rw [horder, nodup_append] at hnodup
    refine .inr ⟨hnodup.2.2 _ hearlier _ mem_cons_self, ?_⟩
    obtain ⟨parent, hparent, hname, hreferred⟩ := hforeign.referred
    exact hasRows_of_written hname hreferred
      (hcopied parent hparent (by rwa [hname])).1 (fun row hrow ↦ mem_readBy.2 hrow)
      fun row name hhidden ↦ hplan.nullable_of_mem hschema hparent (of_decide_eq_true hhidden)

/-- The copy of all tables. -/
theorem yields_copyTables (hschema : IsSchema schema) (hsrc : IsSource schema source)
    (hplan : IsPlan schema plan)
    (hstart : ∀ table ∈ schema, start table.name ≠ [] → table.name ∈ alembicSeededDataTables)
    (batchSize : ℕ+) :
    Yields (IsConversionError lib schema source)
      (fun db ↦ ∀ table ∈ schema, IsCopied order lib source plan db table)
      (plan.order.foldlM (fun db name ↦ do
        let table ← tableNamed schema name
        copyTable lib sha256 table batchSize (deferredByTable plan name)
          (readBy order table.orderColumns (source name)) db) start) := by
  refine Yields.imp (Yields.foldlM _ (I := fun done db ↦ ∀ table ∈ schema,
    (table.name ∈ done → IsCopied order lib source plan db table) ∧
      (table.name ∉ done → db table.name = start table.name)) ?_ ?_) fun db hdb table htable ↦ ?_
  · exact fun table _ ↦ ⟨fun h ↦ absurd h not_mem_nil, fun _ ↦ rfl⟩
  · intro earlier name later db horder hinv
    have hname : name ∈ schema.map (·.name) := by
      rw [← hplan.perm.mem_iff, horder]
      exact mem_append_right _ mem_cons_self
    obtain ⟨table, htable, rfl⟩ := mem_map.1 hname
    have hnew : table.name ∉ earlier := by
      have hnodup := hplan.perm.nodup_iff.2 hschema.nodup
      rw [horder, nodup_append] at hnodup
      exact fun h ↦ hnodup.2.2 _ h _ mem_cons_self rfl
    have hrdy : IsReady source db table (deferredByTable plan table.name) :=
      isReady_of_isCopied hschema hplan htable horder fun parent hparent ↦ (hinv parent hparent).1
    simp only [tableNamed_eq_ok hschema htable]
    refine (yields_copyTable hschema hsrc htable hrdy (fun row ↦ mem_readBy.1)
      (fun hne ↦ hstart table htable ((hinv table htable).2 hnew ▸ hne)) batchSize).imp ?_
    rintro _ ⟨rfl, hall⟩ table' htable'
    by_cases hsame : table'.name = table.name
    · obtain rfl := hschema.eq_of_name htable' htable hsame
      refine ⟨fun _ ↦ ⟨update_self .., fun row hrow ↦ hall row (mem_readBy.2 hrow)⟩,
        fun h ↦ absurd (mem_append_right _ mem_cons_self) h⟩
    · have hiff : table'.name ∈ earlier ++ [table.name] ↔ table'.name ∈ earlier := by
        simp only [mem_append, mem_singleton, hsame, or_false]
      rw [hiff, IsCopied, update_of_ne hsame]
      exact hinv table' htable'
  · exact (hdb table htable).1 (hplan.perm.mem_iff.2 (mem_map_of_mem htable))

end CopyTables

end Kaya.Migration
