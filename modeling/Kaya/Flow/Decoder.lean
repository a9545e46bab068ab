import Kaya.Flow.Model

/-!
# Normalised records

`NetFlowV9Decoder._normalise` of `app/services/flow_protocol.py`: from the raw fields of one data
record, cut along its template, to the record the collector processes. The packet's framing, its
template cache and its sequence bookkeeping are outside; they decide which raw fields there are, not
what becomes of them.

`Decoded` are the records the collector can receive. What the accounting relies on is
`Decoded.directional_counts`: a record with directional counters is charged their sum and is never
taken for a cumulative one.
-/

namespace Kaya.Flow

/-- The raw fields of a data record, by field identifier. -/
abbrev RawFields := ℕ → Option (List UInt8)

/-- `int.from_bytes(…, "big")`. -/
def fromBytes (bytes : List UInt8) : ℕ := bytes.foldl (fun n b ↦ 256 * n + b.toNat) 0

/-- `value`: the first present field of the candidates, when it is at most eight bytes long. -/
def fieldValue (raw : RawFields) (candidates : List ℕ) : Option ℕ := do
  let bytes ← candidates.findSome? raw
  if bytes.length ≤ 8 then some (fromBytes bytes) else none

/-- `_ip`: four bytes are an IPv4 address, sixteen an IPv6 address. -/
def fieldAddress (raw : RawFields) (field : ℕ) : Option IPAddr := do
  let bytes ← raw field
  if bytes.length = 4 then some (.v4 (fromBytes bytes))
  else if bytes.length = 16 then some (.v6 (fromBytes bytes))
  else none

/-- `_timestamp_from_msec`. -/
def timestampFromMsec (value : Option ℕ) : Option DateTime :=
  (value.filter (· ≤ 4102444800000)).map fun msec ↦ msec * 1000

/-- `EVENT_TYPES.get`. -/
def eventTypeOf : ℕ → Option EventType
  | 1 => some .create
  | 2 => some .teardown
  | 3 => some .denied
  | 4 => some .alert
  | 5 => some .update
  | _ => none

/-- The sum of two directional counters, of which one may be absent. -/
def directionalSum (forward reverse : Option ℕ) : ℕ := forward.getD 0 + reverse.getD 0

/-- `_normalise`. -/
def normalise (raw : RawFields) (exporter : String) (sourceId sequence recordIndex unixSecs : ℕ) :
    NormalizedFlowRecord :=
  let value := fieldValue raw
  let event := value [233]
  let forwardBytes := value [231]
  let reverseBytes := value [232]
  let forwardPackets := value [298]
  let reversePackets := value [299]
  let isNsel := forwardBytes.isSome || reverseBytes.isSome || forwardPackets.isSome ||
    reversePackets.isSome
  { exporterIdentity := exporter
    sourceId := sourceId
    sequence := sequence
    recordIndex := recordIndex
    observedAt := (timestampFromMsec (value [323])).getD (unixSecs * second)
    sourceIp := (fieldAddress raw 8).or (fieldAddress raw 27)
    destinationIp := (fieldAddress raw 12).or (fieldAddress raw 28)
    inputInterface := value [10]
    outputInterface := value [14]
    translatedSourceIp := fieldAddress raw 225
    translatedDestinationIp := fieldAddress raw 226
    bytesTotal := if isNsel then some (directionalSum forwardBytes reverseBytes) else value [1, 85]
    packetsTotal :=
      if isNsel then some (directionalSum forwardPackets reversePackets) else value [2, 86]
    forwardBytes := forwardBytes
    reverseBytes := reverseBytes
    forwardPackets := forwardPackets
    reversePackets := reversePackets
    direction := if (value [10]).isSome || (value [14]).isSome then .bidirectional else .unknown
    eventType := event.bind eventTypeOf
    connectionId := (value [148]).map toString
    cumulativeCounters := !isNsel && event.isSome
    dataQuality :=
      if (isNsel && (forwardBytes.isSome || reverseBytes.isSome)) ||
          (!isNsel && (value [1, 85]).isSome) then .complete else .partialData }

/-- A record the decoder returned for a packet of some exporter, whose identity is the text of its
address. -/
def Decoded (r : NormalizedFlowRecord) : Prop :=
  ∃ raw exporter sourceId sequence recordIndex unixSecs, exporter ≠ "" ∧
    r = normalise raw exporter sourceId sequence recordIndex unixSecs

theorem Decoded.exporterIdentity_ne {r : NormalizedFlowRecord} (h : Decoded r) :
    r.exporterIdentity ≠ "" := by
  obtain ⟨raw, exporter, _, _, _, _, hne, rfl⟩ := h
  exact hne

/-- A directional record carries the sums of its counters, and they are not cumulative. -/
theorem Decoded.directional_counts {r : NormalizedFlowRecord} (h : Decoded r)
    (hdir : r.directional = true) :
    r.bytesTotal = some (directionalSum r.forwardBytes r.reverseBytes) ∧
      r.packetsTotal = some (directionalSum r.forwardPackets r.reversePackets) ∧
      r.cumulativeCounters = false := by
  obtain ⟨raw, exporter, _, _, _, _, _, rfl⟩ := h
  simp only [NormalizedFlowRecord.directional, normalise] at hdir
  simp only [normalise, hdir, if_true, Bool.not_true, Bool.false_and, and_self]

end Kaya.Flow
