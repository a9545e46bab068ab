import Kaya.Library.ByteFields
import Kaya.Library.Enumeration
import Kaya.Migration.RowText
import Mathlib.Tactic.FinCases

/-!
# Validation of the target

The checks of `_validate_target` on one table: the rows of both databases are counted, converted and
hashed, each in the order of its own database. `ORDER BY` names the column `id`, or all columns
where a table has none. Each database compares cells by a sort key of its own, which is a parameter:
SQLite has NULLs first and compares texts by code points, PostgreSQL has NULLs last and compares
texts by its collation.

What is accepted is the same multiset of rows (`sameRows_of_validateTable`). The same multiset is
accepted exactly where the two orders agree on its rows (`validateTable_iff`), as they do on integer
ids but not on texts.

**Outside.** The batches of `fetchmany` and the ids that only go to the report.
-/

namespace Kaya.Migration

open List
open Function (Injective)

/-! ### The checks -/

/-- `'id' if 'id' in columns else ', '.join(columns)`. -/
def TableSchema.orderColumns (table : TableSchema) : List String :=
  if "id" ∈ table.columns.map (·.name) then ["id"] else table.columns.map (·.name)

variable (lib : Parsing) (sha256 : List UInt8 → List Char) (table : TableSchema)

/-- `.encode("utf-8")`. -/
def utf8 (text : List Char) : List UInt8 := (String.ofList text).toByteArray.data.toList

/-- `_update_digest` for one row. The digest is what has been hashed. -/
def updateDigest (digest : List Char) (row : Row) : Except MigrationError (List Char) := do
  let cells ← convertRow lib table row
  return digest ++ (rowText lib sha256 table.columns cells ++ ['\n'])

/-- `_stream_source_hash` and `_stream_target_hash`. -/
def streamHash (rows : List Row) : Except MigrationError (ℕ × List Char) := do
  let digest ← rows.foldlM (updateDigest lib sha256 table) []
  return (rows.length, sha256 (utf8 digest))

/-- What `_validate_target` checks of a table. -/
def validateTable (source target : List Row) : Except MigrationError Unit := do
  require (source.length = target.length) (.sqliteToPostgres
    ("Row-count mismatch for " ++ table.name ++ ": source=" ++ toString source.length ++
      " target=" ++ toString target.length ++ "."))
  let (sourceCount, sourceHash) ← streamHash lib sha256 table source
  let (targetCount, targetHash) ← streamHash lib sha256 table target
  require (sourceCount = targetCount ∧ sourceHash = targetHash) (.sqliteToPostgres
    ("Deterministic integrity hash mismatch for " ++ table.name ++ "."))

/-! ### What is accepted -/

theorem utf8_injective : Injective utf8 := by
  intro text text' h
  have hbytes : (String.ofList text).toByteArray = (String.ofList text').toByteArray :=
    ByteArray.ext (Array.toList_inj.1 h)
  exact String.ofList_injective (String.toByteArray_inj.1 hbytes)

variable {lib sha256 table} {rows source target : List Row}

theorem foldlM_updateDigest_eq_ok {digest text : List Char} :
    rows.foldlM (updateDigest lib sha256 table) digest = .ok text ↔
      ∃ cells, rows.mapM (convertRow lib table) = .ok cells ∧
        digest ++ streamText lib sha256 table.columns cells = text := by
  induction rows generalizing digest with
  | nil => simp [streamText, pure_eq_ok]
  | cons row rows ih =>
    rw [foldlM_cons, bind_eq_ok, mapM_cons]
    constructor
    · rintro ⟨digest', hdigest, hrest⟩
      obtain ⟨cells, hcells, hpure⟩ := bind_eq_ok.1 hdigest
      obtain ⟨rest, hrows, htext⟩ := ih.1 hrest
      refine ⟨cells :: rest, bind_eq_ok.2 ⟨cells, hcells, bind_eq_ok.2 ⟨rest, hrows, rfl⟩⟩, ?_⟩
      rw [← htext, ← pure_eq_ok.1 hpure, streamText_cons, ← append_assoc]
    · rintro ⟨all, hall, htext⟩
      obtain ⟨cells, hcells, hrest⟩ := bind_eq_ok.1 hall
      obtain ⟨rest, hrows, hpure⟩ := bind_eq_ok.1 hrest
      refine ⟨_, bind_eq_ok.2 ⟨cells, hcells, rfl⟩, ih.2 ⟨rest, hrows, ?_⟩⟩
      rw [← htext, ← pure_eq_ok.1 hpure, streamText_cons]
      exact append_assoc _ _ _

theorem streamHash_eq_ok {count : ℕ} {hash : List Char} :
    streamHash lib sha256 table rows = .ok (count, hash) ↔
      ∃ cells, rows.mapM (convertRow lib table) = .ok cells ∧ rows.length = count ∧
        sha256 (utf8 (streamText lib sha256 table.columns cells)) = hash := by
  rw [streamHash, bind_eq_ok]
  constructor
  · rintro ⟨digest, hdigest, hpure⟩
    obtain ⟨cells, hcells, rfl⟩ := foldlM_updateDigest_eq_ok.1 hdigest
    obtain ⟨hcount, hhash⟩ := Prod.mk.inj (pure_eq_ok.1 hpure)
    exact ⟨cells, hcells, hcount, hhash⟩
  · rintro ⟨cells, hcells, rfl, rfl⟩
    exact ⟨_, foldlM_updateDigest_eq_ok.2 ⟨cells, hcells, rfl⟩, rfl⟩

/-- The cells of a stored row. -/
def cellsOf (table : TableSchema) (row : Row) : List Value :=
  table.columns.map fun column ↦ row column.name

/-- PostgreSQL stores the rows in a table with these columns. -/
def Typed (table : TableSchema) (rows : List Row) : Prop :=
  ∀ row ∈ rows, ∀ column ∈ table.columns, HasType column.type (row column.name)

/-- Nothing is converted in the target. -/
theorem convertRow_of_typed (lib : Parsing) {row : Row}
    (h : ∀ column ∈ table.columns, HasType column.type (row column.name)) :
    convertRow lib table row = .ok (cellsOf table row) := by
  rw [convertRow_eq_ok, cellsOf, map_map]
  exact map_congr_left fun column hcolumn ↦ convertValue_of_hasType lib (h column hcolumn)

theorem isStored_cellsOf {row : Row}
    (h : ∀ column ∈ table.columns, HasType column.type (row column.name)) :
    IsStored table.columns (cellsOf table row) := by
  refine ⟨length_map _, fun v hv d heq ↦ ?_⟩
  obtain ⟨column, hcolumn, rfl⟩ := mem_map.1 hv
  have htype := h column hcolumn
  rw [heq] at htype
  exact not_hasType_decimal _ _ htype

theorem mapM_of_typed (lib : Parsing) (h : Typed table rows) :
    rows.mapM (convertRow lib table) = .ok (rows.map (cellsOf table)) := by
  rw [mapM_eq_ok_iff, map_map]
  exact map_congr_left fun row hrow ↦ convertRow_of_typed lib (h row hrow)

/-- Accepted is what is the same row by row. -/
theorem validateTable_eq_ok (hsha : Injective sha256) (htgt : Typed table target) :
    validateTable lib sha256 table source target = .ok () ↔
      source.mapM (convertRow lib table) = .ok (target.map (cellsOf table)) := by
  have hsto : ∀ cells ∈ target.map (cellsOf table), IsStored table.columns cells := by
    intro cells hcells
    obtain ⟨row, hrow, rfl⟩ := mem_map.1 hcells
    exact isStored_cellsOf (htgt row hrow)
  rw [validateTable, require_bind_eq_ok]
  constructor
  · rintro ⟨-, h⟩
    obtain ⟨⟨count, hash⟩, hsrc, h⟩ := bind_eq_ok.1 h
    obtain ⟨⟨count', hash'⟩, htgt', h⟩ := bind_eq_ok.1 h
    obtain ⟨-, hhash⟩ := require_eq_ok.1 h
    obtain ⟨cells, hcells, -, rfl⟩ := streamHash_eq_ok.1 hsrc
    obtain ⟨cells', hcells', -, rfl⟩ := streamHash_eq_ok.1 htgt'
    obtain rfl : cells' = _ := Except.ok.inj (hcells'.symm.trans (mapM_of_typed lib htgt))
    have hlen : ∀ row ∈ cells, row.length = table.columns.length := by
      intro row hrow
      have hmem : Except.ok row ∈ source.map (convertRow lib table) :=
        mapM_eq_ok_iff.1 hcells ▸ mem_map_of_mem hrow
      obtain ⟨r, -, hr⟩ := mem_map.1 hmem
      exact convertRow_length hr
    rw [hcells, streamText_inj hsha table.nodup hsto hlen
      (utf8_injective (hsha hhash.symm))]
  · intro h
    have hlen : source.length = target.length := by
      simpa using congrArg length (mapM_eq_ok_iff.1 h)
    refine ⟨hlen, bind_eq_ok.2 ⟨_, streamHash_eq_ok.2 ⟨_, h, rfl, rfl⟩, ?_⟩⟩
    exact bind_eq_ok.2 ⟨_, streamHash_eq_ok.2 ⟨_, mapM_of_typed lib htgt, rfl, rfl⟩,
      require_eq_ok.2 ⟨hlen, rfl⟩⟩

/-! ### The orders -/

/-- Both tables hold the same multiset of converted rows. -/
def SameRows (lib : Parsing) (table : TableSchema) (source target : List Row) : Prop :=
  ∃ cells cells', source.mapM (convertRow lib table) = .ok cells ∧
    target.mapM (convertRow lib table) = .ok cells' ∧ cells.Perm cells'

theorem sameRows_iff (htgt : Typed table target) : SameRows lib table source target ↔
    (source.map (convertRow lib table)).Perm (target.map (convertRow lib table)) := by
  have hcells' := mapM_eq_ok_iff.1 (mapM_of_typed lib htgt)
  constructor
  · rintro ⟨cells, cells', hcells, htgt', hperm⟩
    rw [mapM_eq_ok_iff.1 hcells, mapM_eq_ok_iff.1 htgt']
    exact hperm.map _
  · intro hperm
    have hrange : source.map (convertRow lib table) ∈ Set.range (map Except.ok) := by
      rw [Set.range_list_map]
      intro x hx
      rw [hperm.mem_iff, hcells'] at hx
      obtain ⟨cells, -, rfl⟩ := mem_map.1 hx
      exact ⟨cells, rfl⟩
    obtain ⟨cells, hcells⟩ := hrange
    rw [← hcells, hcells'] at hperm
    exact ⟨cells, _, mapM_eq_ok_iff.2 hcells.symm, mapM_of_typed lib htgt,
      (map_perm_map_iff fun _ _ ↦ Except.ok.inj).1 hperm⟩

theorem validateTable_eq_ok_iff (hsha : Injective sha256) (htgt : Typed table target) :
    validateTable lib sha256 table source target = .ok () ↔
      source.map (convertRow lib table) = target.map (convertRow lib table) := by
  rw [validateTable_eq_ok hsha htgt, mapM_eq_ok_iff,
    ← mapM_eq_ok_iff.1 (mapM_of_typed lib htgt)]

section Orders

variable {κ κ' : Type*} [LinearOrder κ] [LinearOrder κ'] {key : Value → κ} {key' : Value → κ'}

/-- The sort key of a row, for the order of cells by `key`. -/
def orderKey {κ : Type*} (key : Value → κ) (table : TableSchema) (row : Row) : List κ :=
  table.orderColumns.map fun name ↦ key (row name)

/-- Rows with one sort key hold the same: the id is the primary key, and where all columns are the
sort key, the collation tells texts apart. -/
def Keyed (key : Value → κ) (table : TableSchema) (rows : List Row) : Prop :=
  ∀ a ∈ rows, ∀ b ∈ rows, orderKey key table a = orderKey key table b →
    cellsOf table a = cellsOf table b

theorem mem_columns_of_mem_orderColumns {name : String} (h : name ∈ table.orderColumns) :
    ∃ column ∈ table.columns, column.name = name := by
  rw [TableSchema.orderColumns] at h
  split at h
  next hid => exact mem_map.1 (mem_singleton.1 h ▸ hid)
  next => exact mem_map.1 h

theorem orderKey_congr {κ : Type*} {key : Value → κ} {a b : Row}
    (h : cellsOf table a = cellsOf table b) : orderKey key table a = orderKey key table b := by
  refine map_congr_left fun name hname ↦ ?_
  obtain ⟨column, hcolumn, rfl⟩ := mem_columns_of_mem_orderColumns hname
  rw [map_inj_left.1 h column hcolumn]

theorem convertRow_eq_iff {a b : Row} (htgt : Typed table target) (ha : a ∈ target)
    (hb : b ∈ target) : convertRow lib table a = convertRow lib table b ↔
      cellsOf table a = cellsOf table b := by
  rw [convertRow_of_typed lib (htgt a ha), convertRow_of_typed lib (htgt b hb),
    Except.ok.injEq]

/-- What is accepted holds the same rows. -/
theorem sameRows_of_validateTable (hsha : Injective sha256) (htgt : Typed table target)
    {rows rows' : List Row} (hrows : IsRead (orderKey key table) source rows)
    (hrows' : IsRead (orderKey key' table) target rows')
    (h : validateTable lib sha256 table rows rows' = .ok ()) :
    SameRows lib table source target := by
  have htyped : Typed table rows' := fun row hrow ↦ htgt row (hrows'.perm.mem_iff.1 hrow)
  rw [validateTable_eq_ok_iff hsha htyped] at h
  rw [sameRows_iff htgt]
  exact ((hrows.perm.symm.map _).trans (h ▸ .refl _)).trans (hrows'.perm.map _)

/-- The check of a table accepts the same rows and nothing else exactly where the databases order
the rows of the table alike. -/
theorem validateTable_iff (hsha : Injective sha256) (htgt : Typed table target)
    (hkeyed : Keyed key' table target) :
    (∀ rows rows', IsRead (orderKey key table) source rows →
        IsRead (orderKey key' table) target rows' →
        (validateTable lib sha256 table rows rows' = .ok () ↔ SameRows lib table source target)) ↔
      (SameRows lib table source target →
        OrdersAgree (orderKey key table) (orderKey key' table) (convertRow lib table)
          (convertRow lib table) source target) := by
  constructor
  · intro h hsame
    refine ordersAgree_of_map_eq (fun a ha b hb ↦ ?_) fun rows rows' hrows hrows' ↦ ?_
    · rw [convertRow_eq_iff htgt ha hb]
      exact ⟨hkeyed a ha b hb, orderKey_congr⟩
    · have htyped : Typed table rows' := fun row hrow ↦ htgt row (hrows'.perm.mem_iff.1 hrow)
      exact (validateTable_eq_ok_iff hsha htyped).1 ((h rows rows' hrows hrows').2 hsame)
  · intro h rows rows' hrows hrows'
    have htyped : Typed table rows' := fun row hrow ↦ htgt row (hrows'.perm.mem_iff.1 hrow)
    refine ⟨sameRows_of_validateTable hsha htgt hrows hrows', fun hsame ↦ ?_⟩
    rw [validateTable_eq_ok_iff hsha htyped]
    exact (h hsame).map_eq ((sameRows_iff htgt).1 hsame) hrows hrows'

end Orders

/-! ### Two addresses -/

/-- A hash without collisions. -/
def sampleSha256 (bytes : List UInt8) : List Char :=
  bytes.flatMap fun byte ↦ fixedDigits 16 2 byte.toNat

theorem sampleSha256_injective : Injective sampleSha256 := hexText_injective

/-- The first of January. -/
def sampleTime : PyDateTime where
  year := 2026
  month := 1
  day := 1
  hour := 0
  minute := 0
  second := 0
  microsecond := 0

def sampleParsing : Parsing where
  floatOfInt _ := .nan
  floatOfDecimal _ := .nan
  decimalOf _ := none
  normalize := id
  datetimeOf _ := some sampleTime
  dateOf _ := some sampleTime.toPyDate
  reprOf _ := ""

/-- `traffic_endpoint_aggregates`. -/
def trafficEndpointAggregates : TableSchema where
  name := "traffic_endpoint_aggregates"
  columns :=
    [⟨"endpoint_ip", .string⟩, ⟨"bucket_seconds", .integer⟩, ⟨"bucket_start", .datetime⟩,
      ⟨"source_id", .integer⟩, ⟨"exporter_identity", .string⟩, ⟨"direction", .string⟩,
      ⟨"address_family", .integer⟩, ⟨"bytes_total", .integer⟩, ⟨"packets_total", .integer⟩,
      ⟨"sample_count", .integer⟩, ⟨"data_quality", .string⟩, ⟨"last_observed_at", .datetime⟩]
  nodup := by decide

/-- The traffic of an address, where the times are given by `bucketStart`. -/
def sampleTraffic (bucketStart : Value) (endpointIp : String) : Row
  | "endpoint_ip" => .str endpointIp
  | "bucket_start" => bucketStart
  | "exporter_identity" => .str "router"
  | "direction" => .str "in"
  | "data_quality" => .str "complete"
  | "last_observed_at" => .none
  | _ => .int 300

/-- The traffic of some addresses in SQLite. -/
def sampleSource (addresses : List String) : List Row :=
  addresses.map (sampleTraffic (.str "2026-01-01 00:00:00.000000"))

/-- And in PostgreSQL. -/
def sampleTarget (addresses : List String) : List Row :=
  addresses.map (sampleTraffic (.datetime sampleTime))

/-- SQLite: NULLs first, texts by code points. -/
def sqliteKey : Value → List ℤ
  | .none => [0]
  | .int n => [1, n]
  | .str s => 2 :: s.toList.map fun c ↦ (c.toNat : ℤ)
  | _ => [3]

/-- PostgreSQL: NULLs last, texts by a collation that has punctuation before digits and letters. -/
def postgresKey : Value → List ℤ
  | .int n => [1, n]
  | .str s => 2 :: s.toList.map fun c ↦ if c.isAlphanum then 1000 + c.toNat else c.toNat
  | .datetime d => [3, d.year, d.month, d.day, d.hour, d.minute, d.second, d.microsecond]
  | .none => [9]
  | _ => [8]

theorem typed_sampleTarget (addresses : List String) :
    Typed trafficEndpointAggregates (sampleTarget addresses) := by
  intro row hrow column hcolumn
  obtain ⟨address, -, rfl⟩ := mem_map.1 hrow
  fin_cases hcolumn <;> exact trivial

theorem convertRow_sampleTraffic (address : String) :
    convertRow sampleParsing trafficEndpointAggregates
        (sampleTraffic (.str "2026-01-01 00:00:00.000000") address) =
      convertRow sampleParsing trafficEndpointAggregates
        (sampleTraffic (.datetime sampleTime) address) := rfl

theorem sameRows_sample (addresses : List String) : SameRows sampleParsing
    trafficEndpointAggregates (sampleSource addresses) (sampleTarget addresses) := by
  rw [sameRows_iff (typed_sampleTarget addresses), sampleSource, sampleTarget, map_map, map_map]
  refine .of_eq (map_congr_left fun address _ ↦ ?_)
  rw [Function.comp_apply, Function.comp_apply, convertRow_sampleTraffic]

/-- The addresses are in the order of both databases, for the primary key. -/
theorem ordersAgree_sample : OrdersAgree (orderKey sqliteKey trafficEndpointAggregates)
    (orderKey postgresKey trafficEndpointAggregates)
    (convertRow sampleParsing trafficEndpointAggregates)
    (convertRow sampleParsing trafficEndpointAggregates) (sampleSource ["10.0.0.1", "10.0.0.2"])
    (sampleTarget ["10.0.0.1", "10.0.0.2"]) := by
  unfold OrdersAgree
  decide +kernel

theorem keyed_sample : Keyed postgresKey trafficEndpointAggregates
    (sampleTarget ["10.0.0.1", "10.0.0.2"]) := by
  unfold Keyed
  decide +kernel

/-- Addresses that both databases order alike. -/
theorem validateTable_iff_example :
    validateTable sampleParsing sampleSha256 trafficEndpointAggregates
      (sampleSource ["10.0.0.1", "10.0.0.2"]) (sampleTarget ["10.0.0.1", "10.0.0.2"]) =
        .ok () := by
  have hsrc : IsRead (orderKey sqliteKey trafficEndpointAggregates)
      (sampleSource ["10.0.0.1", "10.0.0.2"]) (sampleSource ["10.0.0.1", "10.0.0.2"]) :=
    ⟨.refl _, by decide +kernel⟩
  have htgt : IsRead (orderKey postgresKey trafficEndpointAggregates)
      (sampleTarget ["10.0.0.1", "10.0.0.2"]) (sampleTarget ["10.0.0.1", "10.0.0.2"]) :=
    ⟨.refl _, by decide +kernel⟩
  exact ((validateTable_iff sampleSha256_injective (typed_sampleTarget _) keyed_sample).2
    (fun _ ↦ ordersAgree_sample) _ _ hsrc htgt).2 (sameRows_sample _)

/-- Two IPv6 addresses, in the order of SQLite. -/
def ipv6Addresses : List String := ["fd00:12::1", "fd00:1::1"]

/-- A faithful copy of them is rejected. -/
theorem not_validateTable_iff : ¬ ∀ rows rows',
    IsRead (orderKey sqliteKey trafficEndpointAggregates) (sampleSource ipv6Addresses) rows →
    IsRead (orderKey postgresKey trafficEndpointAggregates) (sampleTarget ipv6Addresses) rows' →
    (validateTable sampleParsing sampleSha256 trafficEndpointAggregates rows rows' = .ok () ↔
      SameRows sampleParsing trafficEndpointAggregates (sampleSource ipv6Addresses)
        (sampleTarget ipv6Addresses)) := by
  intro h
  have hsrc : IsRead (orderKey sqliteKey trafficEndpointAggregates)
      (sampleSource ipv6Addresses) (sampleSource ipv6Addresses) := ⟨.refl _, by decide +kernel⟩
  have htgt : IsRead (orderKey postgresKey trafficEndpointAggregates)
      (sampleTarget ipv6Addresses) (sampleTarget ipv6Addresses.reverse) :=
    ⟨.swap _ _ _, by decide +kernel⟩
  have hacc := (h _ _ hsrc htgt).2 (sameRows_sample _)
  rw [validateTable_eq_ok_iff sampleSha256_injective (typed_sampleTarget _)] at hacc
  exact absurd hacc (by decide +kernel)

end Kaya.Migration
