import Kaya.Library.Checks
import Kaya.Library.PrefixCode
import Mathlib.Data.List.Sort
import Mathlib.Data.String.Basic

/-!
# Cells and their text

The values that the drivers of both databases give, `_convert_value`, and the text of a row that is
hashed: `json.dumps` of the `_canonical` cells, with sorted keys.

**Outside.** Reading ISO times and decimals, and rounding an integer to a `float`, are parameters
(`Parsing`). The drivers give nothing else than these values for the columns of the application, so
that the last line of `_canonical` is left out.
-/

namespace Kaya.Migration

/-! ### Values -/

/-- A `float`. NaNs are not told apart. -/
inductive PyFloat
  | nan
  | infinite (negative : Bool)
  | finite (negative : Bool) (exponent : Fin 2047) (fraction : Fin (16 ^ 13))
  deriving DecidableEq

/-- A `date`. -/
structure PyDate where
  year : Fin (10 ^ 4)
  month : Fin (10 ^ 2)
  day : Fin (10 ^ 2)
  deriving DecidableEq

/-- A `datetime` without a time zone. -/
structure PyDateTime extends PyDate where
  hour : Fin (10 ^ 2)
  minute : Fin (10 ^ 2)
  second : Fin (10 ^ 2)
  microsecond : Fin (10 ^ 6)
  deriving DecidableEq

/-- A value of a cell. A `Decimal` is given by its `str`. -/
inductive Value
  | none
  | bool (b : Bool)
  | int (n : ℤ)
  | float (x : PyFloat)
  | decimal (text : String)
  | datetime (d : PyDateTime)
  | date (d : PyDate)
  | bytes (b : List UInt8)
  | str (s : String)
  deriving DecidableEq

/-- The types of the columns of the application. `Integer` and `BigInteger`, and `String` and
`Text`, are treated alike. -/
inductive ColumnType
  | boolean
  | largeBinary
  | float
  | datetime
  | date
  | integer
  | string
  deriving DecidableEq

/-- A column of `Base.metadata`. -/
structure Column where
  name : String
  type : ColumnType

/-- A table of `Base.metadata`. -/
structure TableSchema where
  name : String
  columns : List Column
  /-- The names of the columns are different. -/
  nodup : (columns.map (·.name)).Nodup

/-- A row, by the names of its columns. -/
abbrev Row := String → Value

/-- What the standard library reads and writes. -/
structure Parsing where
  /-- `float(n)`. -/
  floatOfInt : ℤ → PyFloat
  /-- `float(d)`. -/
  floatOfDecimal : String → PyFloat
  /-- `Decimal(str(value))`. -/
  decimalOf : Value → Option String
  /-- `str(d.normalize())`. -/
  normalize : String → String
  /-- `datetime.fromisoformat(s).replace(tzinfo=None)`. -/
  datetimeOf : String → Option PyDateTime
  /-- `date.fromisoformat`. -/
  dateOf : String → Option PyDate
  /-- `repr` of a tuple. -/
  reprOf : List Value → String

/-! ### Conversion -/

/-- What a migration raises. -/
inductive MigrationError
  | sqliteToPostgres (message : String)
  /-- An exception of the standard library. -/
  | malformed
  | recursionError
  /-- What PostgreSQL answers to a row without its parent. -/
  | foreignKeyViolation (constraint : String)
  deriving DecidableEq

/-- `value in (0, False, "0", "false", "FALSE")`. -/
def isFalse : Value → Bool
  | .bool b => !b
  | .int n => n = 0
  | .float (.finite _ exponent fraction) => exponent = 0 ∧ fraction = 0
  | .str s => s = "0" ∨ s = "false" ∨ s = "FALSE"
  | _ => false

/-- `value in (1, True, "1", "true", "TRUE")`. -/
def isTrue : Value → Bool
  | .bool b => b
  | .int n => n = 1
  | .float (.finite negative exponent fraction) =>
    negative = false ∧ exponent = 1023 ∧ fraction = 0
  | .str s => s = "1" ∨ s = "true" ∨ s = "TRUE"
  | _ => false

/-- `s.replace("Z", "+00:00")`. -/
def replaceZ (s : String) : String :=
  String.ofList (s.toList.flatMap fun c ↦ if c = 'Z' then "+00:00".toList else [c])

/-- A value of the standard library, or its exception. -/
def parsed {α : Type*} (constructor : α → Value) : Option α → Except MigrationError Value
  | some a => .ok (constructor a)
  | none => .error .malformed

/-- `_convert_value`. -/
def convertValue (lib : Parsing) (column : Column) (value : Value) :
    Except MigrationError Value :=
  match column.type, value with
  | _, .none => .ok .none
  | .boolean, value =>
    if isFalse value then .ok (.bool false)
    else if isTrue value then .ok (.bool true)
    else .error (.sqliteToPostgres
      ("Malformed Boolean value encountered in column '" ++ column.name ++ "'."))
  | .float, .int n => .ok (.float (lib.floatOfInt n))
  | .float, .float x => .ok (.float x)
  | .float, .decimal d => .ok (.float (lib.floatOfDecimal d))
  -- `Float` is a `Numeric`, and a text or a `bool` is no number.
  | .float, value => parsed .decimal (lib.decimalOf value)
  | .datetime, .str s => parsed .datetime (lib.datetimeOf (replaceZ s))
  | .date, .str s => parsed .date (lib.dateOf s)
  | _, value => .ok value

/-- PostgreSQL stores the value in a column of this type. -/
def HasType : ColumnType → Value → Prop
  | _, .none => True
  | .boolean, .bool _ => True
  | .largeBinary, .bytes _ => True
  | .float, .float _ => True
  | .datetime, .datetime _ => True
  | .date, .date _ => True
  | .integer, .int _ => True
  | .string, .str _ => True
  | _, _ => False

/-- The converted cells of a row. -/
def convertRow (lib : Parsing) (table : TableSchema) (row : Row) :
    Except MigrationError (List Value) :=
  table.columns.mapM fun column ↦ convertValue lib column (row column.name)

variable {lib : Parsing} {table : TableSchema} {row : Row} {cells : List Value}

theorem convertRow_eq_ok :
    convertRow lib table row = .ok cells ↔
      (table.columns.map fun column ↦ convertValue lib column (row column.name)) =
        cells.map .ok :=
  mapM_eq_ok_iff

theorem convertRow_length
    (h : convertRow lib table row = .ok cells) : cells.length = table.columns.length := by
  simpa using (congrArg List.length (convertRow_eq_ok.1 h)).symm

theorem not_hasType_decimal (type : ColumnType) (d : String) : ¬HasType type (.decimal d) := by
  cases type <;> exact id

theorem convertValue_of_hasType (lib : Parsing) {column : Column} {value : Value}
    (h : HasType column.type value) : convertValue lib column value = .ok value := by
  obtain ⟨name, type⟩ := column
  cases type <;> cases value <;> first | rfl | exact absurd h id | skip
  next b => cases b <;> rfl

/-! ### Texts of values -/

/-- The text of a finite number without its sign. -/
def magnitude (exponent : Fin 2047) (fraction : Fin (16 ^ 13)) : List Char :=
  if exponent = 0 then
    if fraction = 0 then "0x0.0p+0".toList
    else "0x0.".toList ++ fixedDigits 16 13 fraction ++ "p-1022".toList
  else "0x1.".toList ++ fixedDigits 16 13 fraction ++ 'p' ::
    if 1023 ≤ exponent.val then '+' :: Nat.toDigits 10 (exponent - 1023)
    else '-' :: Nat.toDigits 10 (1023 - exponent)

/-- `x.hex()`. -/
def PyFloat.hex : PyFloat → List Char
  | .nan => "nan".toList
  | .infinite negative => (if negative then ['-'] else []) ++ "inf".toList
  | .finite negative exponent fraction =>
    (if negative then ['-'] else []) ++ magnitude exponent fraction

/-- `d.isoformat()`. -/
def PyDate.isoformat (d : PyDate) : List Char :=
  fixedDigits 10 4 d.year ++ '-' :: (fixedDigits 10 2 d.month ++ '-' :: fixedDigits 10 2 d.day)

/-- `d.isoformat(timespec="microseconds")`. -/
def PyDateTime.isoformat (d : PyDateTime) : List Char :=
  d.toPyDate.isoformat ++ 'T' :: (fixedDigits 10 2 d.hour ++ ':' :: (fixedDigits 10 2 d.minute ++
    ':' :: (fixedDigits 10 2 d.second ++ '.' :: fixedDigits 10 6 d.microsecond)))

/-- A value of a `_canonical` cell. -/
inductive Scalar
  | bool (b : Bool)
  | int (n : ℕ)
  | str (s : List Char)

/-- `_canonical`, as a dictionary. -/
def canonical (lib : Parsing) (sha256 : List UInt8 → List Char) :
    Value → List (String × Scalar)
  | .none => [("type", .str "null".toList)]
  | .bool b => [("type", .str "boolean".toList), ("value", .bool b)]
  | .int n => [("type", .str "integer".toList), ("value", .str (intText n))]
  | .float x => [("type", .str "float".toList), ("value", .str x.hex)]
  | .decimal d => [("type", .str "numeric".toList), ("value", .str (lib.normalize d).toList)]
  | .datetime d => [("type", .str "datetime".toList), ("value", .str d.isoformat)]
  | .date d => [("type", .str "date".toList), ("value", .str d.isoformat)]
  | .bytes b =>
    [("type", .str "binary".toList), ("sha256", .str (sha256 b)), ("length", .int b.length)]
  | .str s => [("type", .str "text".toList), ("value", .str s.toList)]

/-! ### JSON -/

/-- The characters with a short escape. -/
def shortEscapes : List (Char × Char) :=
  [('\\', '\\'), ('"', '"'), (Char.ofNat 8, 'b'), (Char.ofNat 12, 'f'), ('\n', 'n'), ('\r', 'r'),
    ('\t', 't')]

/-- A character within a text. -/
def escape (c : Char) : List Char :=
  match shortEscapes.find? (·.1 = c) with
  | some e => ['\\', e.2]
  | none => if c.toNat < 32 then '\\' :: 'u' :: fixedDigits 16 4 c.toNat else [c]

/-- A text. -/
def stringText (s : List Char) : List Char := '"' :: (s.flatMap escape ++ ['"'])

/-- A value of a cell. -/
def scalarText : Scalar → List Char
  | .bool true => "true".toList
  | .bool false => "false".toList
  | .int n => Nat.toDigits 10 n
  | .str s => stringText s

section Objects

variable {α : Type*} (valueText : α → List Char)

/-- A key with its value. -/
def fieldText (field : String × α) : List Char :=
  stringText field.1.toList ++ (": ".toList ++ valueText field.2)

/-- Fields in their order. -/
def fieldsText : List (String × α) → List Char
  | [] => "{}".toList
  | field :: fields => '{' :: (fieldText valueText field ++
      (fields.flatMap (fun field ↦ ", ".toList ++ fieldText valueText field) ++ ['}']))

/-- `sort_keys=True`. -/
def sortKeys (fields : List (String × α)) : List (String × α) :=
  fields.insertionSort fun p q ↦ p.1 ≤ q.1

/-- A dictionary. -/
def objectText (fields : List (String × α)) : List Char := fieldsText valueText (sortKeys fields)

end Objects

/-- A row of converted cells, in the order of the columns. -/
def rowText (lib : Parsing) (sha256 : List UInt8 → List Char) (columns : List Column)
    (row : List Value) : List Char :=
  objectText (objectText scalarText)
    ((columns.map (·.name)).zip (row.map (canonical lib sha256)))

end Kaya.Migration
