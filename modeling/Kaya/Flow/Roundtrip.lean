import Kaya.Flow.DecodeSafety
import Mathlib.Data.Nat.Digits.Defs

/-!
# Decoding what an exporter encodes

An exporter's view of a datagram — a header, one template, the records of that template, each
flowset padded with zero bytes — and what `decode` makes of it. The fields of a record are found
where the template puts them (`fieldBytes`), and their numbers are read in base 256
(`bigEndian`).
-/

namespace Kaya.Flow

open List

/-! ### Encoding -/

/-- A 16-bit number, most significant byte first. -/
def be16 (n : ℕ) : List UInt8 := [UInt8.ofNat (n / 256), UInt8.ofNat n]

/-- A 32-bit number, most significant byte first. -/
def be32 (n : ℕ) : List UInt8 := be16 (n / 65536) ++ be16 n

/-- The header of a datagram. -/
def encodeHeader (header : DatagramHeader) : List UInt8 :=
  be16 header.version ++ be16 header.count ++ be32 header.sysUptime ++ be32 header.unixSecs ++
    be32 header.sequence ++ be32 header.sourceId

/-- One field of a template. -/
def encodeField (field : TemplateField) : List UInt8 := be16 field.fieldId ++ be16 field.length

/-- A template record. -/
def encodeTemplate (templateId : ℕ) (fields : List TemplateField) : List UInt8 :=
  be16 templateId ++ be16 fields.length ++ fields.flatMap encodeField

/-- A flowset with its identifier and length. -/
def encodeFlowset (flowsetId : ℕ) (body : List UInt8) : List UInt8 :=
  be16 flowsetId ++ be16 (body.length + 4) ++ body

/-- What an exporter sends: a template and its records, with padding after each. -/
structure Announcement where
  header : DatagramHeader
  templateId : ℕ
  fields : List TemplateField
  records : List (List UInt8)
  templatePadding : ℕ
  dataPadding : ℕ

namespace Announcement

/-- The template flowset's body. -/
def templateBody (a : Announcement) : List UInt8 :=
  encodeTemplate a.templateId a.fields ++ List.replicate a.templatePadding 0

/-- The data flowset's body. -/
def dataBody (a : Announcement) : List UInt8 :=
  a.records.flatten ++ List.replicate a.dataPadding 0

/-- The datagram. -/
def encode (a : Announcement) : List UInt8 :=
  encodeHeader a.header ++ encodeFlowset 0 a.templateBody ++ encodeFlowset a.templateId a.dataBody

/-- What an exporter can send in one datagram of version 9: numbers fit their widths, the template
and the records are of the sizes that are supported, and the datagram is not oversized. -/
structure Valid (a : Announcement) : Prop where
  version : a.header.version = 9
  count : a.header.count < 2 ^ 16
  sysUptime : a.header.sysUptime < 2 ^ 32
  unixSecs : a.header.unixSecs < 2 ^ 32
  sequence : a.header.sequence < 2 ^ 32
  sourceId : a.header.sourceId < 2 ^ 32
  templateId : 256 ≤ a.templateId ∧ a.templateId < 2 ^ 16
  fieldCount : 1 ≤ a.fields.length ∧ a.fields.length ≤ 64
  fieldIds : ∀ field ∈ a.fields, field.fieldId < 2 ^ 16
  fieldLengths : ∀ field ∈ a.fields, 1 ≤ field.length ∧ field.length ≤ 2048
  distinct : (a.fields.map TemplateField.fieldId).Nodup
  width : 4 ≤ recordWidth a.fields
  recordCount : a.records.length ≤ 512
  recordLengths : ∀ record ∈ a.records, record.length = recordWidth a.fields
  templatePadding : a.templatePadding ≤ 3
  dataPadding : a.dataPadding ≤ 3
  size : a.encode.length ≤ 8192

end Announcement

/-! ### Where the fields are -/

/-- Offset and length of a field in a record. -/
def locate : List TemplateField → ℕ → Option (ℕ × ℕ)
  | [], _ => none
  | field :: fields, id =>
    if field.fieldId = id then some (0, field.length)
    else (locate fields id).map fun place ↦ (field.length + place.1, place.2)

/-- The bytes of a field in a record. -/
def fieldBytes (fields : List TemplateField) (record : List UInt8) : RawFields := fun id ↦
  (locate fields id).map fun place ↦ (record.drop place.1).take place.2

/-- The number that bytes denote in base 256, the last one least significant. -/
def bigEndian (bytes : List UInt8) : ℕ := Nat.ofDigits 256 (bytes.reverse.map UInt8.toNat)

theorem fromBytes_eq_bigEndian (bytes : List UInt8) : fromBytes bytes = bigEndian bytes := by
  rw [fromBytes, bigEndian]
  induction bytes using reverseRecOn with
  | nil => rfl
  | append_singleton bytes b ih =>
    rw [foldl_append, foldl_cons, foldl_nil, ih, reverse_append]
    simp [Nat.ofDigits_cons, Nat.add_comm]

/-! ### What a record should hold -/

/-- The value of an integer field: at most eight bytes, most significant first. -/
def integerOf (bytes : Option (List UInt8)) : Option ℕ :=
  (bytes.filter (·.length ≤ 8)).map bigEndian

/-- The value of an address field. -/
def addressOf (bytes : Option (List UInt8)) : Option IPAddr :=
  bytes.bind fun bytes ↦
    if bytes.length = 4 then some (.v4 (bigEndian bytes))
    else if bytes.length = 16 then some (.v6 (bigEndian bytes))
    else none

/-- A counter: the sum of its two directional fields when the record has any directional field, else
its plain field, for which there is a second identifier. -/
def totalOf (bytes : RawFields) (forward reverse plain second : ℕ) : Option ℕ :=
  if ∃ field ∈ [231, 232, 298, 299], integerOf (bytes field) ≠ none then
    some ((integerOf (bytes forward)).getD 0 + (integerOf (bytes reverse)).getD 0)
  else integerOf ((bytes plain).or (bytes second))

/-- A decoded record holds the values of the fields it was sent with. -/
structure RecordAgrees (bytes : RawFields) (recordIndex : ℕ) (r : FlowRecord) : Prop where
  recordIndex : r.recordIndex = recordIndex
  sourcePort : r.sourcePort = integerOf (bytes 7)
  destinationPort : r.destinationPort = integerOf (bytes 11)
  translatedSourcePort : r.translatedSourcePort = integerOf (bytes 227)
  translatedDestinationPort : r.translatedDestinationPort = integerOf (bytes 228)
  protocol : r.protocol = integerOf (bytes 4)
  inputInterface : r.inputInterface = integerOf (bytes 10)
  outputInterface : r.outputInterface = integerOf (bytes 14)
  forwardBytes : r.forwardBytes = integerOf (bytes 231)
  reverseBytes : r.reverseBytes = integerOf (bytes 232)
  forwardPackets : r.forwardPackets = integerOf (bytes 298)
  reversePackets : r.reversePackets = integerOf (bytes 299)
  bytesTotal : r.bytesTotal = totalOf bytes 231 232 1 85
  packetsTotal : r.packetsTotal = totalOf bytes 298 299 2 86
  sourceIp : r.sourceIp = (addressOf (bytes 8)).or (addressOf (bytes 27))
  destinationIp : r.destinationIp = (addressOf (bytes 12)).or (addressOf (bytes 28))
  translatedSourceIp : r.translatedSourceIp = addressOf (bytes 225)
  translatedDestinationIp : r.translatedDestinationIp = addressOf (bytes 226)

/-- The records agree with what was sent, in number and in order. -/
def Announcement.Agrees (a : Announcement) (records : List FlowRecord) : Prop :=
  records.length = a.records.length ∧ ∀ i record, a.records[i]? = some record →
    ∃ r, records[i]? = some r ∧ RecordAgrees (fieldBytes a.fields record) i r

section Values

variable {raw : RawFields}

theorem fieldValue_eq_integerOf (raw : RawFields) (field : ℕ) :
    fieldValue raw [field] = integerOf (raw field) := by
  rw [fieldValue, integerOf]
  cases hraw : raw field with
  | none => simp [hraw]
  | some bytes =>
    by_cases hlen : bytes.length ≤ 8
    · simp [hraw, hlen, fromBytes_eq_bigEndian]
    · simp [hraw, hlen, Nat.lt_of_not_le hlen]

theorem fieldValue_pair_eq_integerOf (raw : RawFields) (field second : ℕ) :
    fieldValue raw [field, second] = integerOf ((raw field).or (raw second)) := by
  rw [← fieldValue_eq_integerOf (fun _ ↦ (raw field).or (raw second)) 0]
  cases hraw : raw field with
  | none => cases hsecond : raw second <;> simp [fieldValue, hraw, hsecond]
  | some bytes => simp [fieldValue, hraw]

theorem fieldAddress_eq_addressOf (raw : RawFields) (field : ℕ) :
    fieldAddress raw field = addressOf (raw field) := by
  rw [fieldAddress, addressOf]
  simp only [fromBytes_eq_bigEndian]
  rfl

theorem totalOf_eq (raw : RawFields) (forward reverse plain second : ℕ) :
    (if (fieldValue raw [231]).isSome || (fieldValue raw [232]).isSome ||
        (fieldValue raw [298]).isSome || (fieldValue raw [299]).isSome then
      some (directionalSum (fieldValue raw [forward]) (fieldValue raw [reverse]))
    else fieldValue raw [plain, second]) = totalOf raw forward reverse plain second := by
  simp only [fieldValue_eq_integerOf, fieldValue_pair_eq_integerOf]
  rw [totalOf, directionalSum]
  refine ite_cond_congr (propext ?_)
  simp only [Bool.or_eq_true, Option.isSome_iff_ne_none, mem_cons, not_mem_nil, or_false,
    exists_eq_or_imp, exists_eq_left, or_assoc]

/-- **A normalised record agrees** with the fields it is made from. -/
theorem normaliseRecord_agrees {exporter : String} {header : DatagramHeader} {recordIndex : ℕ}
    {r : FlowRecord} (h : normaliseRecord raw exporter header recordIndex = some r) :
    RecordAgrees raw recordIndex r := by
  rw [normaliseRecord] at h
  obtain ⟨flowStart, -, h⟩ := Option.bind_eq_some_iff.mp h
  obtain ⟨flowEnd, -, h⟩ := Option.bind_eq_some_iff.mp h
  obtain rfl := Option.some.inj h
  exact {
    recordIndex := rfl
    sourcePort := fieldValue_eq_integerOf raw 7
    destinationPort := fieldValue_eq_integerOf raw 11
    translatedSourcePort := fieldValue_eq_integerOf raw 227
    translatedDestinationPort := fieldValue_eq_integerOf raw 228
    protocol := fieldValue_eq_integerOf raw 4
    inputInterface := fieldValue_eq_integerOf raw 10
    outputInterface := fieldValue_eq_integerOf raw 14
    forwardBytes := fieldValue_eq_integerOf raw 231
    reverseBytes := fieldValue_eq_integerOf raw 232
    forwardPackets := fieldValue_eq_integerOf raw 298
    reversePackets := fieldValue_eq_integerOf raw 299
    bytesTotal := totalOf_eq raw 231 232 1 85
    packetsTotal := totalOf_eq raw 298 299 2 86
    sourceIp := by rw [← fieldAddress_eq_addressOf, ← fieldAddress_eq_addressOf]; rfl
    destinationIp := by rw [← fieldAddress_eq_addressOf, ← fieldAddress_eq_addressOf]; rfl
    translatedSourceIp := fieldAddress_eq_addressOf raw 225
    translatedDestinationIp := fieldAddress_eq_addressOf raw 226 }

end Values

/-! ### Reading numbers back -/

section Numbers

variable {n : ℕ} {rest : List UInt8}

theorem fromBytes_be16 (hn : n < 2 ^ 16) : fromBytes (be16 n) = n := by
  simp only [fromBytes, be16, foldl_cons, foldl_nil, UInt8.toNat_ofNat']
  omega

theorem fromBytes_be32 (hn : n < 2 ^ 32) : fromBytes (be32 n) = n := by
  simp only [fromBytes, be32, be16, cons_append, nil_append, foldl_cons,
    foldl_nil, UInt8.toNat_ofNat']
  omega

theorem unpack_zero_be16 (hn : n < 2 ^ 16) (rest : List UInt8) :
    unpack (be16 n ++ rest) 0 2 = n := by
  conv_rhs => rw [← fromBytes_be16 hn]
  rfl

theorem unpack_zero_be32 (hn : n < 2 ^ 32) (rest : List UInt8) :
    unpack (be32 n ++ rest) 0 4 = n := by
  conv_rhs => rw [← fromBytes_be32 hn]
  rfl

/-- Past a number of two bytes. -/
theorem unpack_be16_append (n : ℕ) (rest : List UInt8) (offset length : ℕ) :
    unpack (be16 n ++ rest) (offset + 2) length = unpack rest offset length := by
  rw [unpack, unpack, Nat.add_comm, ← drop_drop]
  rfl

/-- Past a number of four bytes. -/
theorem unpack_be32_append (n : ℕ) (rest : List UInt8) (offset length : ℕ) :
    unpack (be32 n ++ rest) (offset + 4) length = unpack rest offset length := by
  rw [unpack, unpack, Nat.add_comm, ← drop_drop]
  rfl

/-- **The header is read back.** -/
theorem readHeader_encodeHeader {header : DatagramHeader} (hversion : header.version < 2 ^ 16)
    (hcount : header.count < 2 ^ 16) (huptime : header.sysUptime < 2 ^ 32)
    (hsecs : header.unixSecs < 2 ^ 32) (hseq : header.sequence < 2 ^ 32)
    (hsrc : header.sourceId < 2 ^ 32) (rest : List UInt8) :
    FlowDecoder.readHeader (encodeHeader header ++ rest) = header := by
  rw [FlowDecoder.readHeader, encodeHeader]
  simp only [append_assoc]
  rw [unpack_zero_be16 hversion, unpack_be16_append _ _ 0, unpack_zero_be16 hcount,
    unpack_be16_append _ _ 2, unpack_be16_append _ _ 0, unpack_zero_be32 huptime,
    unpack_be16_append _ _ 6, unpack_be16_append _ _ 4, unpack_be32_append _ _ 0,
    unpack_zero_be32 hsecs, unpack_be16_append _ _ 10, unpack_be16_append _ _ 8,
    unpack_be32_append _ _ 4, unpack_be32_append _ _ 0, unpack_zero_be32 hseq,
    unpack_be16_append _ _ 14, unpack_be16_append _ _ 12, unpack_be32_append _ _ 8,
    unpack_be32_append _ _ 4, unpack_be32_append _ _ 0, unpack_zero_be32 hsrc]

end Numbers

/-! ### Reading templates back -/

section Templates

variable {fields : List TemplateField} {templateId padding : ℕ}

theorem parseFields_encode (hids : ∀ field ∈ fields, field.fieldId < 2 ^ 16)
    (hlens : ∀ field ∈ fields, 1 ≤ field.length ∧ field.length ≤ 2048) (rest : List UInt8) :
    parseFields fields.length (fields.flatMap encodeField ++ rest) = .ok (fields, rest) := by
  induction fields with
  | nil => rfl
  | cons field fields ih =>
    obtain ⟨hid, hids⟩ := forall_mem_cons.mp hids
    obtain ⟨hlen, hlens⟩ := forall_mem_cons.mp hlens
    have hlong : ¬(be16 field.fieldId ++ (be16 field.length ++
        (fields.flatMap encodeField ++ rest))).length < 4 := by
      simp [be16]
    rw [length_cons, parseFields, flatMap_cons, encodeField, append_assoc,
      append_assoc, if_neg hlong, unpack_zero_be16 hid, unpack_be16_append _ _ 0,
      unpack_zero_be16 (by omega)]
    dsimp only
    rw [if_neg (by omega)]
    show (parseFields fields.length (fields.flatMap encodeField ++ rest)).map _ = _
    rw [ih hids hlens]
    rfl

/-- What follows the last template is less than four zero bytes. -/
theorem parseTemplates_padding (h : padding ≤ 3) (isOptions : Bool) (fuel : ℕ) :
    parseTemplates isOptions fuel (List.replicate padding 0) =
      .ok ([], List.replicate padding 0) := by
  cases fuel with
  | zero => rfl
  | succ fuel =>
    rw [parseTemplates]
    split <;> rename_i hempty
    · rw [hempty]
    · rw [if_pos (by rw [length_replicate]; omega), if_neg (by simp)]

/-- **The template is read back.** -/
theorem parseTemplates_encode (hid : 256 ≤ templateId ∧ templateId < 2 ^ 16)
    (hcount : 1 ≤ fields.length ∧ fields.length ≤ 64)
    (hids : ∀ field ∈ fields, field.fieldId < 2 ^ 16)
    (hlens : ∀ field ∈ fields, 1 ≤ field.length ∧ field.length ≤ 2048)
    (hpadding : padding ≤ 3) (fuel : ℕ) :
    parseTemplates false (fuel + 1) (encodeTemplate templateId fields ++ .replicate padding 0) =
      .ok ([(templateId, fields)], .replicate padding 0) := by
  rw [encodeTemplate, append_assoc, append_assoc]
  have hlong : ¬(be16 templateId ++ (be16 fields.length ++
      (fields.flatMap encodeField ++ replicate padding 0))).length < 4 := by
    simp [be16]
  rw [parseTemplates, if_neg (by simp [be16]), if_neg hlong, unpack_zero_be16 hid.2,
    unpack_be16_append _ _ 0, unpack_zero_be16 (by omega)]
  dsimp only
  have htemplate : parseTemplate false fields.length
      (fields.flatMap encodeField ++ replicate padding 0) =
        .ok (fields, replicate padding 0) := by
    rw [parseTemplate, templateFieldCount, if_neg Bool.false_ne_true, if_pos hcount]
    exact parseFields_encode hids hlens _
  have hdrop : (be16 templateId ++ (be16 fields.length ++
      (fields.flatMap encodeField ++ replicate padding 0))).drop 4 =
        fields.flatMap encodeField ++ replicate padding 0 := rfl
  rw [if_neg (by omega), hdrop, htemplate]
  dsimp only
  rw [parseTemplates_padding hpadding]
  rfl

end Templates

/-! ### Cutting records -/

section Records

variable {fields : List TemplateField} {id : ℕ} {place : ℕ × ℕ} {record rest : List UInt8}
  {records : List (List UInt8)}

theorem locate_eq_none_iff : locate fields id = none ↔ id ∉ fields.map TemplateField.fieldId := by
  induction fields with
  | nil => simp [locate]
  | cons field fields ih =>
    rw [locate, map_cons, mem_cons, not_or]
    split <;> rename_i hid
    · simp [hid]
    · rw [Option.map_eq_none_iff, ih]
      exact ⟨fun h ↦ ⟨Ne.symm hid, h⟩, And.right⟩

/-- A field lies within its record. -/
theorem locate_le (h : locate fields id = some place) : place.1 + place.2 ≤ recordWidth fields := by
  induction fields generalizing place with
  | nil => cases h
  | cons field fields ih =>
    rw [locate] at h
    rw [recordWidth, map_cons, sum_cons, ← recordWidth]
    split at h
    · cases h
      omega
    · obtain ⟨later, hlater, rfl⟩ := Option.map_eq_some_iff.mp h
      have := ih hlater
      dsimp only
      omega

/-- What follows a record is not part of its fields. -/
theorem fieldBytes_append (h : record.length = recordWidth fields) (rest : List UInt8) :
    fieldBytes fields (record ++ rest) = fieldBytes fields record := by
  funext id
  rw [fieldBytes, fieldBytes]
  cases hplace : locate fields id with
  | none => rfl
  | some place =>
    have hle := locate_le hplace
    simp only [Option.map_some]
    rw [drop_append_of_le_length (by omega),
      take_append_of_le_length (by rw [length_drop]; omega)]

/-- **Cutting finds the fields.** With distinct identifiers nothing is overwritten. -/
theorem cutFields_eq (hdist : (fields.map TemplateField.fieldId).Nodup) (bytes : List UInt8)
    (raw : RawFields) (id : ℕ) :
    cutFields fields bytes raw id = (fieldBytes fields bytes id).or (raw id) := by
  induction fields generalizing bytes raw with
  | nil => rfl
  | cons field fields ih =>
    rw [map_cons, nodup_cons] at hdist
    rw [cutFields, ih hdist.2, fieldBytes, fieldBytes, locate]
    by_cases hid : field.fieldId = id
    · have hlast : locate fields id = none := locate_eq_none_iff.mpr (hid ▸ hdist.1)
      rw [hlast, if_pos hid, ← hid, Function.update_self]
      rfl
    · rw [if_neg hid, Function.update_of_ne (Ne.symm hid), Option.map_map]
      simp only [Function.comp_def, drop_drop]

theorem cutRecords_eq (hdist : (fields.map TemplateField.fieldId).Nodup)
    (hlens : ∀ record ∈ records, record.length = recordWidth fields) (rest : List UInt8) :
    cutRecords fields records.length (records.flatten ++ rest) =
      records.map (fieldBytes fields) := by
  induction records with
  | nil => rfl
  | cons record records ih =>
    obtain ⟨hlen, hlens⟩ := forall_mem_cons.mp hlens
    rw [length_cons, cutRecords, flatten_cons, append_assoc, ← hlen,
      drop_left, ih hlens, map_cons, ← fieldBytes_append hlen]
    congr 1
    funext id
    rw [cutFields_eq hdist, Option.or_none]

theorem length_flatten_records (hlens : ∀ record ∈ records, record.length = recordWidth fields) :
    records.flatten.length = records.length * recordWidth fields := by
  rw [length_flatten, map_congr_left hlens, map_const', sum_replicate, nsmul_eq_mul]
  rfl

/-- **The records are read back**, whatever the remainder that the padding leaves. -/
theorem flowsetRecords_encode (hdist : (fields.map TemplateField.fieldId).Nodup)
    (hwidth : 4 ≤ recordWidth fields)
    (hlens : ∀ record ∈ records, record.length = recordWidth fields) {padding : ℕ}
    (hpadding : padding ≤ 3) :
    flowsetRecords (records.flatten ++ List.replicate padding 0) fields =
      .ok (records.map (fieldBytes fields)) := by
  have hlen : (records.flatten ++ replicate padding (0 : UInt8)).length =
      padding + recordWidth fields * records.length := by
    rw [length_append, length_flatten_records hlens, length_replicate, Nat.add_comm, Nat.mul_comm]
  have hmod : (padding + recordWidth fields * records.length) % recordWidth fields = padding := by
    rw [Nat.add_mul_mod_self_left, Nat.mod_eq_of_lt (by omega)]
  have hdiv : (padding + recordWidth fields * records.length) / recordWidth fields =
      records.length := by
    rw [Nat.add_mul_div_left _ _ (by omega), Nat.div_eq_of_lt (by omega), Nat.zero_add]
  have hdrop : (records.flatten ++ replicate padding (0 : UInt8)).drop
      (padding + recordWidth fields * records.length - padding) = replicate padding 0 := by
    rw [Nat.add_sub_cancel_left, Nat.mul_comm, ← length_flatten_records hlens, drop_left]
  rw [flowsetRecords, hlen, hmod, hdrop, hdiv, if_neg (by omega), if_neg (by simp; omega),
    cutRecords_eq hdist hlens]

end Records

/-! ### Framing -/

section Framing

variable {flowsetId : ℕ} {body rest : List UInt8}

theorem length_encodeFlowset (flowsetId : ℕ) (body : List UInt8) :
    (encodeFlowset flowsetId body).length = body.length + 4 := by
  simp [encodeFlowset, be16]

/-- **A flowset is framed** by its length. -/
theorem frames_encodeFlowset (hid : flowsetId < 2 ^ 16) (hbody : body.length + 4 < 2 ^ 16)
    (rest : List UInt8) (fuel : ℕ) :
    frames (fuel + 1) (encodeFlowset flowsetId body ++ rest) =
      ((flowsetId, body) :: (frames fuel rest).1, (frames fuel rest).2) := by
  have hlen := length_encodeFlowset flowsetId body
  have hunpack : unpack (encodeFlowset flowsetId body ++ rest) 2 2 = body.length + 4 := by
    rw [encodeFlowset, append_assoc, append_assoc, unpack_be16_append _ _ 0, unpack_zero_be16 hbody]
  have hflowset : unpack (encodeFlowset flowsetId body ++ rest) 0 2 = flowsetId := by
    rw [encodeFlowset, append_assoc, append_assoc, unpack_zero_be16 hid]
  have hnonempty : encodeFlowset flowsetId body ++ rest ≠ [] := by
    rw [← length_pos_iff_ne_nil, length_append]
    omega
  have hframe : (encodeFlowset flowsetId body).drop 4 = body := rfl
  rw [frames, if_neg hnonempty, if_neg (by rw [length_append]; omega), hunpack, hflowset]
  dsimp only
  rw [if_neg (by rw [length_append]; omega), ← hlen, drop_left, take_left, hframe]

end Framing

/-! ### The records of an announcement -/

section Decoding

variable {a : Announcement} {d : FlowDecoder} {exporter : String} {now : ℤ}
  {header : DatagramHeader} {result : DecodeResult}

/-- Records within the packet's limit, with their times in range, are normalised one by one. -/
theorem normaliseAll_eq_ok (exporter : String) (raws : List RawFields) (records : List FlowRecord)
    (hlimit : records.length + raws.length ≤ 512) (hall : ∀ raw ∈ raws, TimesInRange raw header) :
    ∃ news, normaliseAll exporter header raws records = .ok (records ++ news) ∧
      news.length = raws.length ∧ ∀ i raw, raws[i]? = some raw →
        ∃ r, news[i]? = some r ∧ RecordAgrees raw (records.length + i) r := by
  induction raws generalizing records with
  | nil => exact ⟨[], by rw [normaliseAll, append_nil], rfl, by simp⟩
  | cons raw raws ih =>
    obtain ⟨hraw, hall⟩ := forall_mem_cons.mp hall
    rw [length_cons] at hlimit
    have hsome := (normaliseRecord_isSome_iff exporter records.length).mpr hraw
    obtain ⟨r, hr⟩ := Option.isSome_iff_exists.mp hsome
    have hlen : (records ++ [r]).length = records.length + 1 := length_append
    obtain ⟨news, hnews, hcount, hagrees⟩ := ih (records ++ [r]) (by omega) hall
    refine ⟨r :: news, ?_, by rw [length_cons, hcount, length_cons], ?_⟩
    · rw [normaliseAll, if_neg (by omega), hr]
      dsimp only
      rw [hnews, append_assoc, singleton_append]
    · intro i raw' hi
      cases i with
      | zero =>
        cases hi
        exact ⟨r, rfl, normaliseRecord_agrees hr⟩
      | succ i =>
        obtain ⟨r', hr', hagree⟩ := hagrees i raw' hi
        rw [hlen, Nat.add_assoc, Nat.add_comm 1 i] at hagree
        exact ⟨r', hr', hagree⟩

theorem Announcement.encode_eq (a : Announcement) : a.encode = encodeHeader a.header ++
    (encodeFlowset 0 a.templateBody ++ encodeFlowset a.templateId a.dataBody) := by
  rw [Announcement.encode, append_assoc]

theorem Announcement.length_encode (a : Announcement) :
    a.encode.length = 28 + a.templateBody.length + a.dataBody.length := by
  have hheader : (encodeHeader a.header).length = 20 := rfl
  rw [a.encode_eq, length_append, length_append, length_encodeFlowset,
    length_encodeFlowset, hheader]
  omega

theorem Announcement.Valid.readHeader_encode (h : a.Valid) :
    FlowDecoder.readHeader a.encode = a.header := by
  rw [a.encode_eq]
  exact readHeader_encodeHeader (by rw [h.version]; norm_num) h.count h.sysUptime h.unixSecs
    h.sequence h.sourceId _

/-- The datagram has two flowsets, and the framing ends with it. -/
theorem Announcement.Valid.flowsets_encode (h : a.Valid) : FlowDecoder.flowsets a.encode =
    ([(0, a.templateBody), (a.templateId, a.dataBody)], none) := by
  have hsize := h.size
  rw [a.length_encode] at hsize
  obtain ⟨fuel, hfuel⟩ : ∃ fuel, a.encode.length = fuel + 3 :=
    ⟨a.encode.length - 3, by rw [a.length_encode]; omega⟩
  have hrest : a.encode.drop 20 =
      encodeFlowset 0 a.templateBody ++ (encodeFlowset a.templateId a.dataBody ++ []) := by
    rw [a.encode_eq, append_nil]
    rfl
  rw [FlowDecoder.flowsets, hfuel, hrest, frames_encodeFlowset (by norm_num) (by omega),
    frames_encodeFlowset h.templateId.2 (by omega)]
  rfl

theorem Announcement.Valid.flowsetTemplates_encode (h : a.Valid) :
    flowsetTemplates false a.templateBody = .ok [(a.templateId, a.fields)] := by
  have hlen : a.templateBody.length = a.templateBody.length - 1 + 1 := by
    have : 4 ≤ a.templateBody.length := by simp [templateBody, encodeTemplate, be16]
    omega
  rw [flowsetTemplates, hlen, templateBody,
    parseTemplates_encode h.templateId h.fieldCount h.fieldIds h.fieldLengths h.templatePadding]
  simp

namespace FlowDecoder

/-- **The loop over an announcement**: the template is installed and used at once. -/
theorem decodeFlowsets_encode (h : a.Valid) (d : FlowDecoder) (exporter : String)
    (result : DecodeResult) (now : ℤ) :
    ∃ base : DecodeResult, (decodeFlowsets exporter a.header none now
      [(0, a.templateBody), (a.templateId, a.dataBody)] d result).2 =
        (normaliseAll exporter a.header (a.records.map (fieldBytes a.fields)) result.records).map
          fun records ↦ { base with records } := by
  set key : TemplateKey := (exporter, a.header.sourceId, a.templateId) with hkey
  set template : FlowTemplate := ⟨a.templateId, a.fields, false, now⟩ with htemplate
  have hinstall : ∃ base : DecodeResult, base.records = result.records ∧
      d.decodeFlowset exporter a.header (0, a.templateBody) result now =
        .ok ({ d with templates := d.templates.set key template }, base) := by
    rw [decodeFlowset, if_pos rfl, decodeTemplates, h.flowsetTemplates_encode]
    refine ⟨_, ?_, rfl⟩
    rfl
  obtain ⟨base, hrecords, hflowset⟩ := hinstall
  refine ⟨base, ?_⟩
  have hid := h.templateId.1
  have hfresh : isExpired { d with templates := d.templates.set key template } template now =
      false := by
    rw [isExpired, htemplate, sub_self]
    exact decide_eq_false (by simp [second])
  rw [decodeFlowsets, hflowset]
  dsimp only
  rw [decodeFlowsets, decodeFlowset, if_neg (by dsimp only; omega), if_neg (by dsimp only; omega),
    if_pos (by exact hid), decodeData, ← hkey]
  dsimp only
  rw [Dict.get?_set_self]
  dsimp only
  rw [hfresh, if_neg Bool.false_ne_true, htemplate, if_neg Bool.false_ne_true]
  dsimp only
  rw [Announcement.dataBody, flowsetRecords_encode h.distinct h.width h.recordLengths h.dataPadding]
  dsimp only
  rw [hrecords]
  cases normaliseAll exporter a.header (a.records.map (fieldBytes a.fields)) result.records with
  | error failure => rfl
  | ok records => rfl

variable {identify : String → Option String} {identity : String}

/-- The records of a call are those of its loop. -/
theorem decode_snd_eq_ok_iff {datagram : List UInt8}
    (hheader : checkHeader identify datagram identity = .ok exporter) (P : List FlowRecord → Prop) :
    (∃ result, (d.decode identify datagram identity now).2 = .ok result ∧ P result.records) ↔
      ∃ result, (decodeFlowsets exporter (readHeader datagram) (flowsets datagram).2 now
        (flowsets datagram).1 (d.observe (exporter, (readHeader datagram).sourceId)
          (readHeader datagram))
        { sequenceGap := d.sequenceGap (exporter, (readHeader datagram).sourceId)
            (readHeader datagram)
          exporterRestart := d.restarted (exporter, (readHeader datagram).sourceId)
            (readHeader datagram).sysUptime }).2 = .ok result ∧ P result.records := by
  rw [decode, hheader]
  dsimp only
  split <;> rename_i hloop <;> rw [hloop]
  · rename_i result
    constructor
    · rintro ⟨_, hok, hrecords⟩
      cases hok
      exact ⟨result, rfl, hrecords⟩
    · rintro ⟨_, hok, hrecords⟩
      cases hok
      exact ⟨_, rfl, hrecords⟩

theorem checkHeader_encode (h : a.Valid) (hident : identify identity = some exporter) :
    checkHeader identify a.encode identity =
      if a.header.count > 512 then .error .recordLimit else .ok exporter := by
  have hsize := h.size
  rw [checkHeader, if_neg (by omega), if_neg (by rw [a.length_encode]; omega),
    h.readHeader_encode, if_neg (by rw [h.version]; simp), hident]

/-- **Decoding inverts encoding** exactly when the header counts no more than 512 records and the
switched times are in the range of a `datetime`. -/
theorem decode_encode_iff (h : a.Valid) {identify : String → Option String} {identity : String}
    (hident : identify identity = some exporter) (d : FlowDecoder) (now : ℤ) :
    (∃ result, (d.decode identify a.encode identity now).2 = .ok result ∧ a.Agrees result.records) ↔
      a.header.count ≤ 512 ∧
        ∀ record ∈ a.records, TimesInRange (fieldBytes a.fields record) a.header := by
  have hheader := checkHeader_encode h hident
  by_cases hcount : a.header.count > 512
  · rw [if_pos hcount] at hheader
    have hrefused : ¬a.header.count ≤ 512 := by omega
    simp [decode, hheader, hrefused]
  rw [if_neg hcount] at hheader
  rw [decode_snd_eq_ok_iff hheader a.Agrees, h.flowsets_encode, h.readHeader_encode]
  obtain ⟨base, hloop⟩ := decodeFlowsets_encode h
    (d.observe (exporter, a.header.sourceId) a.header) exporter
    { sequenceGap := d.sequenceGap (exporter, a.header.sourceId) a.header
      exporterRestart := d.restarted (exporter, a.header.sourceId) a.header.sysUptime } now
  rw [hloop]
  constructor
  · rintro ⟨result, hok, -⟩
    refine ⟨by omega, fun record hrecord ↦ ?_⟩
    by_contra hout
    have hmem : fieldBytes a.fields record ∈
        (a.records.map (fieldBytes a.fields)).take (512 - ([] : List FlowRecord).length) := by
      rw [take_of_length_le (by simpa using h.recordCount)]
      exact mem_map_of_mem hrecord
    have hraise : normaliseAll exporter a.header (a.records.map (fieldBytes a.fields)) [] =
        .error .valueError := (normaliseAll_valueError_iff []).mpr ⟨_, hmem, hout⟩
    rw [hraise] at hok
    cases hok
  · rintro ⟨-, hall⟩
    obtain ⟨news, hnews, hlen, hagrees⟩ := normaliseAll_eq_ok exporter
      (a.records.map (fieldBytes a.fields)) []
      (by simpa using h.recordCount) (by simpa using hall)
    rw [hnews]
    refine ⟨_, rfl, by simpa using hlen, fun i record hi ↦ ?_⟩
    have hraw : (a.records.map (fieldBytes a.fields))[i]? = some (fieldBytes a.fields record) := by
      rw [getElem?_map, hi, Option.map_some]
    simpa using hagrees i _ hraw

end FlowDecoder

end Decoding

/-! ### Sample announcements -/

/-- A template of a protocol, a source port, an IPv4 address and a byte counter, and two records. -/
def sampleAnnouncement : Announcement where
  header := ⟨9, 3, 1000, 1700000000, 7, 1⟩
  templateId := 256
  fields := [⟨4, 1⟩, ⟨7, 2⟩, ⟨8, 4⟩, ⟨1, 4⟩]
  records := [[6, 1, 187, 192, 0, 2, 9, 0, 0, 5, 220], [17, 0, 53, 192, 0, 2, 10, 0, 0, 0, 80]]
  templatePadding := 0
  dataPadding := 2

theorem sampleAnnouncement_valid : sampleAnnouncement.Valid := by
  constructor <;> decide

/-- A last switched time of eight bytes, far beyond the last year a `datetime` has. -/
def overflowAnnouncement : Announcement where
  header := ⟨9, 2, 1000, 1700000000, 7, 1⟩
  templateId := 256
  fields := [⟨21, 8⟩]
  records := [List.replicate 8 255]
  templatePadding := 0
  dataPadding := 0

theorem overflowAnnouncement_valid : overflowAnnouncement.Valid := by
  constructor <;> decide

namespace FlowDecoder

theorem decode_encode_sample : ∃ result,
    ((FlowDecoder.new 16 60).decode some sampleAnnouncement.encode "192.0.2.1" 0).2 = .ok result ∧
      sampleAnnouncement.Agrees result.records := by
  refine (decode_encode_iff sampleAnnouncement_valid rfl _ 0).mpr
    ⟨by decide, fun record hrecord ↦ ?_⟩
  rw [sampleAnnouncement, mem_cons, mem_singleton] at hrecord
  obtain rfl | rfl := hrecord
  · exact ⟨fun _ msec hmsec ↦ (nomatch hmsec), fun msec hmsec ↦ (nomatch hmsec)⟩
  · exact ⟨fun _ msec hmsec ↦ (nomatch hmsec), fun msec hmsec ↦ (nomatch hmsec)⟩

/-- A record with that time is not decoded. -/
theorem decode_encode_overflow : overflowAnnouncement.Valid ∧ ¬∃ result,
    ((FlowDecoder.new 16 60).decode some overflowAnnouncement.encode "192.0.2.1" 0).2 =
        .ok result ∧ overflowAnnouncement.Agrees result.records := by
  refine ⟨overflowAnnouncement_valid, ?_⟩
  have hraised : ((FlowDecoder.new 16 60).decode some overflowAnnouncement.encode "192.0.2.1" 0).2 =
      .error .valueError := by decide +kernel
  rintro ⟨result, hok, -⟩
  rw [hraised] at hok
  cases hok

end FlowDecoder

end Kaya.Flow
