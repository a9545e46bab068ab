import Kaya.Flow.Usage
import Kaya.Library.Machine

/-!
# The flow collector

`process_records` of `app/services/flow_collector.py`, from the claim of an event key to the removal
of expired rows, with the `commit` its only caller ends the transaction with.

A record is first *admitted*: its event key is claimed, and a cumulative counter is turned into a
delta against the stored counter of its connection. What an accepted record charges is its
`Posting`; the four rollups of `Kaya.Flow.Usage` are written from it.

A batch that raises is rolled back as a whole: `none`.
-/

namespace Kaya.Flow

/-- `DEDUP_RETENTION`. -/
def dedupRetention : ℤ := 48 * 3600 * second

/-- `COUNTER_RETENTION`. -/
def counterRetention : ℤ := 2 * 24 * 3600 * second

/-! ### Collector state -/

/-- `_state`: the collector state of a source. A missing row is added and **flushed**, which writes
every other pending object too and fails when the source does not exist. -/
def ensureState (s : Session) (sourceId : ℕ) : Option Session :=
  if s.states.any (·.sourceId = sourceId) then some s
  else if (s.inventory.source sourceId).isSome then
    Session.flush { s with states := s.states ++ [{ sourceId := sourceId }] }
  else none

/-- Edit the collector state of a source. -/
def modifyState (s : Session) (sourceId : ℕ)
    (f : TrafficFlowCollectorState → TrafficFlowCollectorState) : Session :=
  { s with states := s.states.map fun row ↦ if row.sourceId = sourceId then f row else row }

/-! ### Replay protection -/

/-- `_event_key`. -/
def eventKey (r : NormalizedFlowRecord) (sourceId : ℕ) : EventKey where
  sourceId := sourceId
  exporterIdentity := r.exporterIdentity
  sequence := r.sequence
  recordIndex := r.recordIndex
  connectionId := r.connectionId
  eventType := r.eventType
  observedAt := r.observedAt
  bytesTotal := r.bytesTotal
  packetsTotal := r.packetsTotal

/-- The event key is stored, expired or not. -/
def claimed (rows : List TrafficFlowDeduplication) (key : EventKey) : Bool :=
  rows.any (·.eventKey = key)

/-- The row a claim inserts. -/
def claimRow (sourceId : ℕ) (key : EventKey) (now : DateTime) : TrafficFlowDeduplication :=
  { sourceId, eventKey := key, processedAt := now, expiresAt := now + dedupRetention }

/-- `_claim_event`, when the key is new. -/
def claimEvent (s : Session) (sourceId : ℕ) (key : EventKey) (now : DateTime) : Session :=
  { s with deduplication := s.deduplication ++ [claimRow sourceId key now] }

/-! ### Cumulative counters -/

/-- The counter a record is charged against: only for cumulative counters with a connection and a
byte count. -/
def counterKey (r : NormalizedFlowRecord) (sourceId : ℕ) : Option CounterKey :=
  if r.cumulativeCounters && r.bytesTotal.isSome then
    (r.connectionId.filter (· ≠ "")).map fun connection ↦
      (sourceId, r.exporterIdentity, connection)
  else none

/-- The byte and packet counts charged for a record, with the quality they carry. -/
structure Charge where
  bytes : ℕ
  packets : ℕ
  quality : DataQuality

/-- The charge of a record that is not cumulative: its own counts. -/
def plainCharge (r : NormalizedFlowRecord) : Charge where
  bytes := r.bytesTotal.getD 0
  packets := r.packetsTotal.getD 0
  quality := r.dataQuality

/-- The charge of a cumulative record against the stored counter of its connection; `none` for an
event older than the last one. A counter that went down is taken for a reset and charged whole. -/
def cumulativeCharge (counter : Option TrafficFlowCounterState) (r : NormalizedFlowRecord) :
    Option Charge :=
  if counter.any fun c ↦ c.lastEventAt.any (r.observedAt < ·) then none
  else
    let byteCount := r.bytesTotal.getD 0
    let lastBytes := counter.bind (·.lastBytes)
    let reset := lastBytes.any (byteCount < ·)
    let bytes := if reset then byteCount else byteCount - lastBytes.getD 0
    let quality := if reset then .partialData else r.dataQuality
    some <| match counter.bind (·.lastPackets), r.packetsTotal with
      | some last, some packets =>
        if last ≤ packets then { bytes, packets := packets - last, quality }
        else { bytes, packets, quality := .partialData }
      | _, packets =>
        { bytes, packets := packets.getD 0,
          quality := if r.eventType = some .create ∨ r.eventType = none then quality
            else .partialData }

/-- The counter after a record. -/
def advanceCounter (c : TrafficFlowCounterState) (r : NormalizedFlowRecord) (now : DateTime) :
    TrafficFlowCounterState :=
  { c with
    lastEventAt := some r.observedAt
    lastBytes := r.bytesTotal
    lastPackets := r.packetsTotal
    lastEventType := r.eventType
    expiresAt := now + counterRetention }

/-- The counter object of a connection seen for the first time. -/
def newCounter (k : CounterKey) (r : NormalizedFlowRecord) (now : DateTime) :
    TrafficFlowCounterState :=
  advanceCounter { sourceId := k.1, exporterIdentity := k.2.1, connectionId := k.2.2,
                   expiresAt := now + counterRetention } r now

/-- Store the counter: through the loaded object, or as a new one. -/
def writeCounter (table : SessionTable TrafficFlowCounterState) (k : CounterKey)
    (r : NormalizedFlowRecord) (now : DateTime) : SessionTable TrafficFlowCounterState :=
  if (table.first? (·.key = k)).isSome then table.edit (·.key = k) (advanceCounter · r now)
  else table.add (newCounter k r now)

/-! ### Admission -/

/-- What becomes of a record. -/
inductive Admission
  | duplicate
  | outOfOrder
  | accepted (p : Posting)

/-- Claim the record's event key and convert its counters. -/
def admitRecord (now : DateTime) (sourceId : ℕ) (r : NormalizedFlowRecord) (s : Session) :
    Session × Admission :=
  let key := eventKey r sourceId
  if claimed s.deduplication key then (s, .duplicate)
  else
    let s := claimEvent s sourceId key now
    let posting (c : Charge) : Posting :=
      { record := r, sourceId, bytes := c.bytes, packets := c.packets, quality := c.quality }
    match counterKey r sourceId with
    | none => (s, .accepted (posting (plainCharge r)))
    | some k =>
      match cumulativeCharge (s.counterStates.first? (·.key = k)) r with
      | none => (s, .outOfOrder)
      | some charge =>
        ({ s with counterStates := writeCounter s.counterStates k r now },
          .accepted (posting charge))

/-! ### Batches -/

/-- The counts `process_records` returns. -/
structure Counters where
  accepted : ℕ := 0
  duplicates : ℕ := 0
  outOfOrder : ℕ := 0
  aggregates : ℕ := 0

/-- The state of the loop over the records. -/
structure Batch where
  session : Session
  usage : List TrafficEndpointAggregate := []
  counters : Counters := {}

/-- Write the rollups of an accepted record. -/
def post (clock : HostClock) (s : Session) (p : Posting) : Session :=
  persistDeviceTraffic clock (accountingAggregate clock (aggregate clock s p) p) p

/-- The source a record is processed for: the caller's, else the one in its header. -/
def effectiveSource (sourceId : Option ℕ) (r : NormalizedFlowRecord) : ℕ :=
  sourceId.getD r.sourceId

/-- The body of the loop, after the collector state was looked up. -/
def settle (clock : HostClock) (now : DateTime) (source : ℕ) (b : Batch)
    (r : NormalizedFlowRecord) : Batch :=
  match admitRecord now source r b.session with
  | (s, .duplicate) => { b with
      session := modifyState s source fun st ↦ { st with duplicateEvents := st.duplicateEvents + 1 }
      counters := { b.counters with duplicates := b.counters.duplicates + 1 } }
  | (s, .outOfOrder) => { b with
      session := modifyState s source fun st ↦
        { st with outOfOrderEvents := st.outOfOrderEvents + 1 }
      counters := { b.counters with outOfOrder := b.counters.outOfOrder + 1 } }
  | (s, .accepted p) =>
    { session := modifyState (post clock s p) source fun st ↦
        { st with
          lastValidFlowAt := some r.observedAt
          lastAggregateWriteAt := some now
          packetsAccepted := st.packetsAccepted + 1 }
      usage := addEndpointUsage s.inventory b.usage p
      counters := { b.counters with
        accepted := b.counters.accepted + 1
        aggregates := b.counters.aggregates + 1 } }

/-- One iteration over a record. -/
def processRecord (clock : HostClock) (now : DateTime) (sourceId : Option ℕ) (b : Batch)
    (r : NormalizedFlowRecord) : Option Batch := do
  let s ← ensureState b.session (effectiveSource sourceId r)
  return settle clock now (effectiveSource sourceId r) { b with session := s } r

/-- The loop. -/
def processAll (clock : HostClock) (now : DateTime) (sourceId : Option ℕ) :
    Batch → List NormalizedFlowRecord → Option Batch
  | b, [] => some b
  | b, r :: records => do
    let b ← processRecord clock now sourceId b r
    processAll clock now sourceId b records

/-- The bulk deletes that end the batch. -/
def expire (now : DateTime) (s : Session) : Session :=
  { s with
    deduplication := s.deduplication.filter fun row ↦ !decide (row.expiresAt < now)
    counterStates := s.counterStates.deleteWhere fun c ↦ c.expiresAt < now }

/-- `process_records`. -/
def processRecords (clock : HostClock) (now : DateTime) (sourceId : Option ℕ)
    (records : List NormalizedFlowRecord) (s : Session) : Option (Session × Counters) := do
  let b ← processAll clock now sourceId { session := s } records
  return (expire now (flushEndpointUsage b.usage b.session), b.counters)

/-- `process_records` in a transaction of its own, followed by `commit`. -/
def ingest (clock : HostClock) (now : DateTime) (sourceId : Option ℕ)
    (records : List NormalizedFlowRecord) (db : Database) : Option Database := do
  let (s, _) ← processRecords clock now sourceId records db.session
  s.commit

/-! ### The collector over time -/

/-- A decoded datagram as a worker processes it. -/
structure Datagram where
  now : DateTime
  sourceId : Option ℕ
  records : List NormalizedFlowRecord

/-- The worker's transaction: a batch that raises leaves the database as it was. -/
def receive (clock : HostClock) (db : Database) (d : Datagram) : Database :=
  (ingest clock d.now d.sourceId d.records db).getD db

/-- The collector, started on a database without rollups. -/
def collector (clock : HostClock) : Machine Database Datagram where
  init db := db.flowAggregates = [] ∧ db.accountingAggregates = [] ∧ db.endpointAggregates = [] ∧
    db.deviceAggregates = []
  step := receive clock

end Kaya.Flow
