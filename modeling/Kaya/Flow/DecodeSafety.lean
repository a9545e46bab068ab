import Kaya.Flow.TemplateCache

/-!
# What can escape from `decode`

Widths and values of fields come from the wire. Everything `decode` does with them is total or
raises `FlowDecodeError`, except one conversion: a switched time is added to the exporter's boot
time without the range check that `_timestamp_from_msec` makes, and a field of eight bytes reaches
far beyond the last year a `datetime` has.
-/

namespace Kaya.Flow

open List

/-- The switched times that are converted for a record are in the range of a `datetime`. The first
one is only converted when there is no usable creation time. -/
def TimesInRange (raw : RawFields) (header : DatagramHeader) : Prop :=
  (timestampFromMsec (fieldValue raw [152]) = none → ∀ msec ∈ fieldValue raw [22],
    (switchTime header.unixSecs header.sysUptime msec).isSome = true) ∧
  ∀ msec ∈ fieldValue raw [21], (switchTime header.unixSecs header.sysUptime msec).isSome = true

theorem map_eq_error_iff {ε α β : Type*} {x : Except ε α} {f : α → β} {e : ε} :
    x.map f = .error e ↔ x = .error e := by
  cases x with
  | error e' => simp [Except.map]
  | ok a => simp [Except.map]

section Records

variable {raw : RawFields} {raws : List RawFields} {header : DatagramHeader} {exporter : String}

theorem fieldTime_isSome_iff {field : ℕ} : (fieldTime raw header field).isSome = true ↔
    ∀ msec ∈ fieldValue raw [field],
      (switchTime header.unixSecs header.sysUptime msec).isSome = true := by
  rw [fieldTime]
  cases fieldValue raw [field] with
  | none => simp
  | some msec => simp

theorem flowStartTime_isSome_iff : (flowStartTime raw header).isSome = true ↔
    (timestampFromMsec (fieldValue raw [152]) = none → ∀ msec ∈ fieldValue raw [22],
      (switchTime header.unixSecs header.sysUptime msec).isSome = true) := by
  rw [flowStartTime]
  cases timestampFromMsec (fieldValue raw [152]) with
  | none => exact ⟨fun h _ ↦ fieldTime_isSome_iff.mp h, fun h ↦ fieldTime_isSome_iff.mpr (h rfl)⟩
  | some t => simp

/-- A record is normalised exactly when its times are in range. -/
theorem normaliseRecord_isSome_iff (exporter : String) (recordIndex : ℕ) :
    (normaliseRecord raw exporter header recordIndex).isSome = true ↔ TimesInRange raw header := by
  rw [TimesInRange, ← flowStartTime_isSome_iff, ← fieldTime_isSome_iff, normaliseRecord]
  cases flowStartTime raw header with
  | none => simp
  | some flowStart =>
    cases fieldTime raw header 21 with
    | none => simp
    | some flowEnd => simp

/-- The records of one flowset raise `ValueError` exactly when one of those within the packet's limit
has a time out of range. -/
theorem normaliseAll_valueError_iff (records : List FlowRecord) :
    normaliseAll exporter header raws records = .error .valueError ↔
      ∃ raw ∈ raws.take (512 - records.length), ¬TimesInRange raw header := by
  induction raws generalizing records with
  | nil => simp [normaliseAll]
  | cons raw raws ih =>
    rw [normaliseAll]
    split <;> rename_i hlimit
    · have hzero : 512 - records.length = 0 := Nat.sub_eq_zero_of_le hlimit
      rw [hzero, take_zero]
      simp
    · have hsucc : 512 - records.length = 512 - (records.length + 1) + 1 := by omega
      rw [hsucc, take_succ_cons]
      cases hrecord : normaliseRecord raw exporter header records.length with
      | none =>
        have hout : ¬TimesInRange raw header := by
          rw [← normaliseRecord_isSome_iff exporter records.length, hrecord]
          simp
        exact ⟨fun _ ↦ ⟨raw, mem_cons_self .., hout⟩, fun _ ↦ rfl⟩
      | some record =>
        have hin : TimesInRange raw header := by
          rw [← normaliseRecord_isSome_iff exporter records.length, hrecord]
          rfl
        show normaliseAll exporter header raws (records ++ [record]) = _ ↔ _
        rw [ih, length_append, length_singleton]
        constructor
        · rintro ⟨raw', hmem, hout⟩
          exact ⟨raw', mem_cons_of_mem _ hmem, hout⟩
        · rintro ⟨raw', hmem, hout⟩
          rcases mem_cons.mp hmem with rfl | hlater
          · exact absurd hin hout
          · exact ⟨raw', hlater, hout⟩

end Records

namespace FlowDecoder

/-- The records of a data flowset that are normalised: those of a usable template, up to the packet's
limit. -/
def flowsetRaws (d : FlowDecoder) (exporter : String) (header : DatagramHeader) (flowset : Flowset)
    (result : DecodeResult) (now : ℤ) : List RawFields :=
  if flowset.1 < 256 then []
  else match d.templates.get? (exporter, header.sourceId, flowset.1) with
    | none => []
    | some template =>
      if d.isExpired template now || template.isOptions then []
      else match flowsetRecords flowset.2 template.fields with
        | .error _ => []
        | .ok raws => raws.take (512 - result.records.length)

/-- The records of a datagram's flowsets, up to the flowset at which it is rejected. -/
def normalisedRaws (exporter : String) (header : DatagramHeader) (now : ℤ) :
    List Flowset → FlowDecoder → DecodeResult → List RawFields
  | [], _, _ => []
  | flowset :: flowsets, d, result =>
    d.flowsetRaws exporter header flowset result now ++
      match d.decodeFlowset exporter header flowset result now with
      | .error _ => []
      | .ok (d, result) => normalisedRaws exporter header now flowsets d result

section Escapes

variable {d : FlowDecoder} {exporter : String} {header : DatagramHeader} {flowset : Flowset}
  {result : DecodeResult} {now : ℤ} {flowsets : List Flowset}

theorem decodeTemplates_ne_valueError {sourceId : ℕ} {isOptions : Bool} {body : List UInt8} :
    d.decodeTemplates exporter sourceId isOptions body result now ≠ .error .valueError := by
  unfold decodeTemplates
  split
  · exact fun h ↦ nomatch h
  · exact fun h ↦ nomatch h

theorem decodeData_valueError_iff {body : List UInt8} {templateId : ℕ} (hid : 256 ≤ templateId) :
    d.decodeData exporter header templateId body result now = .error .valueError ↔
      ∃ raw ∈ d.flowsetRaws exporter header (templateId, body) result now,
        ¬TimesInRange raw header := by
  rw [decodeData, flowsetRaws, if_neg (Nat.not_lt.mpr hid)]
  cases d.templates.get? (exporter, header.sourceId, templateId) with
  | none => simp
  | some template =>
    dsimp only
    by_cases hexpired : d.isExpired template now = true
    · simp [hexpired]
    by_cases hoptions : template.isOptions = true
    · simp [hexpired, hoptions]
    rw [if_neg hexpired, if_neg hoptions, if_neg (by simp [hexpired, hoptions])]
    cases flowsetRecords body template.fields with
    | error category => simp
    | ok raws =>
      dsimp only
      rw [map_eq_error_iff, normaliseAll_valueError_iff]

/-- One flowset raises `ValueError` exactly when one of its records has a time out of range. -/
theorem decodeFlowset_valueError_iff (d : FlowDecoder) (exporter : String)
    (header : DatagramHeader) (flowset : Flowset) (result : DecodeResult) (now : ℤ) :
    d.decodeFlowset exporter header flowset result now = .error .valueError ↔
      ∃ raw ∈ d.flowsetRaws exporter header flowset result now, ¬TimesInRange raw header := by
  unfold decodeFlowset
  split <;> rename_i h0
  · rw [flowsetRaws, if_pos (by omega)]
    simp [decodeTemplates_ne_valueError]
  split <;> rename_i h1
  · rw [flowsetRaws, if_pos (by omega)]
    simp [decodeTemplates_ne_valueError]
  split <;> rename_i hdata
  · rw [map_eq_error_iff, decodeData_valueError_iff hdata]
  · rw [flowsetRaws, if_pos (by omega)]
    simp

theorem decodeFlowsets_valueError_iff (framing : Option DecodeCategory) :
    (decodeFlowsets exporter header framing now flowsets d result).2 = .error .valueError ↔
      ∃ raw ∈ normalisedRaws exporter header now flowsets d result, ¬TimesInRange raw header := by
  induction flowsets generalizing d result with
  | nil =>
    cases framing with
    | none => simp [decodeFlowsets, normalisedRaws]
    | some category => simp [decodeFlowsets, normalisedRaws]
  | cons flowset flowsets ih =>
    rw [decodeFlowsets, normalisedRaws]
    have hflowset := decodeFlowset_valueError_iff d exporter header flowset result now
    cases houtcome : d.decodeFlowset exporter header flowset result now with
    | error failure =>
      rw [houtcome] at hflowset
      dsimp only
      rw [append_nil, ← hflowset, Except.error.injEq, Except.error.injEq]
    | ok next =>
      rw [houtcome] at hflowset
      simp only [reduceCtorEq, false_iff, not_exists, not_and, not_not] at hflowset
      dsimp only
      rw [ih]
      simp only [mem_append]
      constructor
      · rintro ⟨raw, hmem, hout⟩
        exact ⟨raw, .inr hmem, hout⟩
      · rintro ⟨raw, hmem | hmem, hout⟩
        · exact absurd (hflowset raw hmem) hout
        · exact ⟨raw, hmem, hout⟩

/-- The records that a call comes to normalise. -/
def normalisedBy (identify : String → Option String) (d : FlowDecoder) (datagram : List UInt8)
    (identity : String) (now : ℤ) : List RawFields :=
  match checkHeader identify datagram identity with
  | .error _ => []
  | .ok exporter =>
    let header := readHeader datagram
    let key := (exporter, header.sourceId)
    normalisedRaws exporter header now (FlowDecoder.flowsets datagram).1 (d.observe key header)
      { sequenceGap := d.sequenceGap key header
        exporterRestart := d.restarted key header.sysUptime }

theorem decode_valueError_iff (identify : String → Option String) (d : FlowDecoder)
    (datagram : List UInt8) (identity : String) (now : ℤ) :
    (d.decode identify datagram identity now).2 = .error .valueError ↔
      ∃ raw ∈ d.normalisedBy identify datagram identity now,
        ¬TimesInRange raw (readHeader datagram) := by
  rw [decode, normalisedBy]
  cases checkHeader identify datagram identity with
  | error category => simp
  | ok exporter =>
    dsimp only
    rw [← decodeFlowsets_valueError_iff (FlowDecoder.flowsets datagram).2]
    split <;> rename_i hloop <;> rw [hloop]
    simp

/-- **What escapes.** A call returns or raises `FlowDecodeError` exactly when the switched times of
the records it normalises are in the range of a `datetime`. -/
theorem decode_total_iff (identify : String → Option String) (d : FlowDecoder)
    (datagram : List UInt8) (identity : String) (now : ℤ) :
    ((∃ result, (d.decode identify datagram identity now).2 = .ok result) ∨
        ∃ error, (d.decode identify datagram identity now).2 = .error (.flowDecodeError error)) ↔
      ∀ raw ∈ d.normalisedBy identify datagram identity now,
        TimesInRange raw (readHeader datagram) := by
  have hescape := decode_valueError_iff identify d datagram identity now
  have hexcept : ((∃ result, (d.decode identify datagram identity now).2 = .ok result) ∨
      ∃ error, (d.decode identify datagram identity now).2 = .error (.flowDecodeError error)) ↔
      ¬(d.decode identify datagram identity now).2 = .error .valueError := by
    rcases (d.decode identify datagram identity now).2 with (error | _) | result <;> simp
  rw [hexcept, hescape]
  simp only [not_exists, not_and, not_not]

/-- A template of one eight-byte last-switched field, and a record with the largest value of it. -/
def overflowDatagram : Datagram where
  bytes := sampleHeader [0, 0, 3, 232] [101, 0, 0, 0] [0, 0, 0, 7] ++
    [0, 0, 0, 12, 1, 0, 0, 1, 0, 21, 0, 8] ++ [1, 0, 0, 12, 255, 255, 255, 255, 255, 255, 255, 255]
  identity := "192.0.2.1"
  now := 0

/-- A switched time beyond the year 9999 leaves `decode` as a `ValueError`. -/
theorem overflow_escapes :
    ¬((∃ result, ((FlowDecoder.new).decode some overflowDatagram.bytes "192.0.2.1" 0).2 =
          .ok result) ∨
        ∃ error, ((FlowDecoder.new).decode some overflowDatagram.bytes "192.0.2.1" 0).2 =
          .error (.flowDecodeError error)) := by
  have hescape : ((FlowDecoder.new).decode some overflowDatagram.bytes "192.0.2.1" 0).2 =
      .error .valueError := by decide +kernel
  rw [hescape]
  rintro (⟨result, hresult⟩ | ⟨error, herror⟩)
  · cases hresult
  · cases herror

end Escapes

end FlowDecoder

end Kaya.Flow
