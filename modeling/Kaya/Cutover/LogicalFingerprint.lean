import Kaya.Library.ByteFields
import Kaya.Library.Checks
import Kaya.Library.UTF8

/-!
# The fingerprints of an SQLite database

`_logical_sqlite_fingerprint` hashes what a database holds: the lines of its schema, and for each
table the lines of its columns and the rows with the types of their values. `_source_fingerprint`
hashes its files.

What is hashed tells the content (`logicalStream_inj`). The proof reads the fields of a content as
words over their tags: a row ends where the next field is no value, the rows end where a table
begins, and so on.
-/

namespace Kaya.Cutover

open List
open Function (Injective)

abbrev Text := List Char

/-- `typeof(column), column`. -/
inductive SqliteValue
  | null
  | integer (n : BitVec 64)
  | real (bits : BitVec 64)
  | text (value : Text)
  | blob (value : List UInt8)

/-- A table, with `PRAGMA table_info` as lines, and its rows in the order of the query. -/
structure TableContent where
  name : Text
  columns : List Text
  rows : List (List SqliteValue)

/-- What the queries return, with the rows of the schema as lines. -/
structure LogicalContent where
  schema : List Text
  tables : List TableContent

/-- The tags of `_digest_field`. -/
inductive FieldTag
  | schema
  | table
  | column
  | row
  | type
  | value

def FieldTag.name : FieldTag → String
  | .schema => "schema"
  | .table => "table"
  | .column => "column"
  | .row => "row"
  | .type => "type"
  | .value => "value"

/-- The tag as it is hashed. -/
def FieldTag.bytes (tag : FieldTag) : List UInt8 := UTF8.encode tag.name.toList ++ [0]

/-- `sqlite_type`. -/
def SqliteValue.typeName : SqliteValue → String
  | .null => "null"
  | .integer _ => "integer"
  | .real _ => "real"
  | .text _ => "text"
  | .blob _ => "blob"

/-- The bytes of the value. -/
def SqliteValue.bytes : SqliteValue → List UInt8
  | .null => UTF8.encode "null".toList
  | .integer n => toBytesBig 8 n.toNat
  | .real bits => toBytesBig 8 bits.toNat
  | .text value => UTF8.encode value
  | .blob value => value

/-- A field before its length is known to fit. -/
abbrev RawField := FieldTag × List UInt8

/-- `_digest_sqlite_value`. -/
def valueFields (value : SqliteValue) : List RawField :=
  [(.type, UTF8.encode value.typeName.toList), (.value, value.bytes)]

/-- A text under a tag. -/
def lineFields (tag : FieldTag) (line : Text) : List RawField := [(tag, UTF8.encode line)]

def rowFields (row : List SqliteValue) : List RawField :=
  (.row, UTF8.encode "start".toList) :: row.flatMap valueFields

def tableFields (table : TableContent) : List RawField :=
  lineFields .table table.name ++
    (table.columns.flatMap (lineFields .column) ++ table.rows.flatMap rowFields)

/-- The calls of `_digest_field`. -/
def contentFields (content : LogicalContent) : List RawField :=
  content.schema.flatMap (lineFields .schema) ++ content.tables.flatMap tableFields

/-- `_digest_field`, which raises where the length does not fit. -/
def digestField (field : RawField) : Except String (TaggedField FieldTag) :=
  if h : field.2.length < 256 ^ 8 then .ok ⟨field.1, field.2, h⟩
  else .error "int too big to convert"

/-- All that is hashed. -/
def logicalStream (content : LogicalContent) : Except String (List UInt8) :=
  ((contentFields content).mapM digestField).map (·.flatMap (TaggedField.bytes FieldTag.bytes))

/-- `_logical_sqlite_fingerprint`. -/
def logicalSqliteFingerprint (sha256 : List UInt8 → String) (content : LogicalContent) :
    Except String String :=
  (logicalStream content).map sha256

/-- A database file with its log. -/
structure SqliteFile where
  main : List UInt8
  wal : Option (List UInt8) := none

/-- One file, for `_source_fingerprint`. -/
def fingerprintPart (label : String) (file : Option (List UInt8)) : List UInt8 :=
  UTF8.encode label.toList ++ 0 ::
    match file with
    | none => UTF8.encode "missing".toList ++ [0]
    | some bytes => UTF8.encode (toString bytes.length).toList ++ 0 :: bytes

/-- `_source_fingerprint`. -/
def sourceFingerprint (sha256 : List UInt8 → String) (file : Option SqliteFile) : String :=
  sha256 (fingerprintPart "database" (file.map (·.main)) ++
    fingerprintPart "wal" (file.bind (·.wal)))

/-! ### What is hashed tells the content -/

theorem SqliteValue.eq_of_bytes {value value' : SqliteValue}
    (htype : value.typeName = value'.typeName) (hbytes : value.bytes = value'.bytes) :
    value = value' := by
  cases value <;> cases value' <;> simp [SqliteValue.typeName] at htype
  case null.null => rfl
  case integer.integer n n' =>
    exact congrArg _ (BitVec.eq_of_toNat_eq (toBytesBig_inj n.isLt n'.isLt hbytes))
  case real.real bits bits' =>
    exact congrArg _ (BitVec.eq_of_toNat_eq (toBytesBig_inj bits.isLt bits'.isLt hbytes))
  case text.text text text' => exact congrArg _ (UTF8.encode_injective hbytes)
  case blob.blob blob blob' => exact congrArg _ hbytes

theorem isPrefixCode_valueFields : IsPrefixCode valueFields := by
  refine isPrefixCode_of_length (n := 2) (fun value value' h ↦ ?_) fun _ ↦ rfl
  obtain ⟨htype, hvalue⟩ := cons.inj h
  exact SqliteValue.eq_of_bytes
    (String.toList_injective (UTF8.encode_injective (Prod.mk.inj htype).2))
    (Prod.mk.inj (singleton_inj.1 hvalue)).2

/-- A row goes on until there is no value. -/
theorem isCode_rowFields : IsCode (EndsBefore (·.1 = .type)) rowFields := by
  refine IsCode.const_append [_] (isPrefixCode_valueFields.flatMap_endsBefore (fun value ↦ ?_)
    (fun _ _ ↦ trivial) fun _ _ ↦ trivial)
  exact ⟨_, _, rfl, rfl⟩

/-- The rows go on until there is neither a row nor a value. -/
theorem isCode_rows :
    IsCode (EndsBefore fun field : RawField ↦ field.1 = .row ∨ field.1 = .type)
      fun rows : List (List SqliteValue) ↦ rows.flatMap rowFields := by
  refine isCode_rowFields.flatMap_endsBefore (fun row ↦ ⟨_, _, rfl, .inl rfl⟩)
    (fun rest hrest ↦ hrest.mono fun _ ↦ .inr) fun row rest ↦ ?_
  exact endsBefore_cons.2 (by simp)

theorem isPrefixCode_lineFields (tag : FieldTag) : IsPrefixCode (lineFields tag) :=
  isPrefixCode_of_length (n := 1) (fun _ _ h ↦
    UTF8.encode_injective (Prod.mk.inj (singleton_inj.1 h)).2) fun _ ↦ rfl

theorem isCode_lines (tag : FieldTag) :
    IsCode (EndsBefore (·.1 = tag)) fun lines : List Text ↦ lines.flatMap (lineFields tag) :=
  (isPrefixCode_lineFields tag).flatMap_endsBefore (fun _ ↦ ⟨_, _, rfl, rfl⟩)
    (fun _ _ ↦ trivial) fun _ _ ↦ trivial

/-- The tags inside a table. -/
def FieldTag.isInner (tag : FieldTag) : Prop := tag = .column ∨ tag = .row ∨ tag = .type

theorem isCode_tableFields : IsCode (EndsBefore (·.1.isInner)) tableFields := by
  have hinner : IsCode (EndsBefore fun field : RawField ↦ field.1.isInner)
      fun parts : List Text × List (List SqliteValue) ↦
        parts.1.flatMap (lineFields .column) ++ parts.2.flatMap rowFields := by
    refine (isCode_lines .column).append
      (isCode_rows.mono fun rest hrest ↦ hrest.mono fun _ ↦ .inr) ?_
    intro rows rest hrest
    cases rows with
    | nil => exact hrest.mono fun _ ↦ .inl
    | cons row rows => exact endsBefore_cons.2 (by simp)
  refine ((isPrefixCode_lineFields .table).append hinner fun _ _ _ ↦ trivial).comp
    (u := fun table : TableContent ↦ (table.name, table.columns, table.rows)) ?_
  rintro ⟨name, columns, rows⟩ ⟨name', columns', rows'⟩ h
  simpa using h

/-- The fields of a content tell the content. -/
theorem contentFields_injective : Injective contentFields := by
  have htables : IsCode (EndsBefore fun field : RawField ↦ field.1 = .table ∨ field.1.isInner)
      fun tables : List TableContent ↦ tables.flatMap tableFields := by
    refine isCode_tableFields.flatMap_endsBefore (fun table ↦ ⟨_, _, rfl, .inl rfl⟩)
      (fun rest hrest ↦ hrest.mono fun _ ↦ .inr) fun table rest ↦ ?_
    exact endsBefore_cons.2 (by simp [FieldTag.isInner])
  rintro ⟨schema, tables⟩ ⟨schema', tables'⟩ h
  have hbef : ∀ tables : List TableContent,
      EndsBefore (·.1 = .schema) (tables.flatMap tableFields) := by
    intro tables
    cases tables with
    | nil => exact endsBefore_nil
    | cons table tables => exact endsBefore_cons.2 (by simp)
  obtain ⟨rfl, hrest⟩ := isCode_lines .schema _ _ _ _ (hbef tables) (hbef tables') h
  have hwords : tables.flatMap tableFields ++ [] = tables'.flatMap tableFields ++ [] := by
    rw [append_nil, append_nil]
    exact hrest
  obtain ⟨rfl, -⟩ := htables tables tables' [] [] endsBefore_nil endsBefore_nil hwords
  rfl

theorem isPrefixCode_tagBytes : IsPrefixCode FieldTag.bytes := by
  have hnames : IsCode (StartsIn (· = 0)) fun tag : FieldTag ↦ UTF8.encode tag.name.toList := by
    refine isCode_startsIn (fun tag tag' h ↦ ?_) fun tag ↦ ?_
    · have hname := String.toList_injective (UTF8.encode_injective h)
      cases tag <;> cases tag' <;> simp [FieldTag.name] at hname ⊢
    · have hnone : (UTF8.encode tag.name.toList).all (· ≠ 0) = true := by
        cases tag <;> decide
      exact fun byte hbyte ↦ of_decide_eq_true (all_eq_true.1 hnone byte hbyte)
  exact hnames.append_const fun rest _ ↦ startsIn_cons.2 rfl

theorem eq_of_digestField {raw : RawField} {field : TaggedField FieldTag}
    (h : digestField raw = .ok field) : raw = (field.tag, field.value) := by
  rw [digestField] at h
  split at h
  next =>
    obtain rfl := Except.ok.inj h
    rfl
  next => exact absurd h (by simp)

theorem eq_map_of_digestFields {raw : List RawField} {fields : List (TaggedField FieldTag)}
    (h : raw.mapM digestField = .ok fields) :
    raw = fields.map fun field ↦ (field.tag, field.value) := by
  induction raw generalizing fields with
  | nil =>
    rw [mapM_nil, pure_eq_ok] at h
    rw [← h, map_nil]
  | cons head rest ih =>
    rw [mapM_cons, bind_eq_ok] at h
    obtain ⟨field, hfield, hafter⟩ := h
    obtain ⟨fields', hfields', heq⟩ := bind_eq_ok.1 hafter
    rw [← pure_eq_ok.1 heq, map_cons, ← eq_of_digestField hfield, ← ih hfields']

/-- **What is hashed tells the content.** -/
theorem logicalStream_inj {content content' : LogicalContent} {stream : List UInt8}
    (h : logicalStream content = .ok stream) (h' : logicalStream content' = .ok stream) :
    content = content' := by
  obtain ⟨fields, hfields, rfl⟩ := map_eq_ok.1 h
  obtain ⟨fields', hfields', hstream⟩ := map_eq_ok.1 h'
  obtain rfl : fields' = fields :=
    TaggedField.flatMap_bytes_injective isPrefixCode_tagBytes hstream
  exact contentFields_injective
    ((eq_map_of_digestFields hfields).trans (eq_map_of_digestFields hfields').symm)

/-- Without collisions, the fingerprint tells the content. -/
theorem logicalSqliteFingerprint_inj {sha256 : List UInt8 → String} (hsha : Injective sha256)
    {content content' : LogicalContent} {fingerprint : String}
    (h : logicalSqliteFingerprint sha256 content = .ok fingerprint)
    (h' : logicalSqliteFingerprint sha256 content' = .ok fingerprint) : content = content' := by
  obtain ⟨stream, hstream, rfl⟩ := map_eq_ok.1 h
  obtain ⟨stream', hstream', hsame⟩ := map_eq_ok.1 h'
  obtain rfl := hsha hsame
  exact logicalStream_inj hstream hstream'

end Kaya.Cutover
