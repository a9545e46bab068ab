import Kaya.Flow.Attribution
import Kaya.Library.Double

/-!
# Rows written for one accepted record

The four rollups of the collector, each as the rows one accepted record contributes and the
statement that writes them:

* `_aggregate` and `_accounting_aggregate` of `app/services/flow_collector.py`;
* `persist_device_traffic` of `app/services/device_traffic.py`;
* `EndpointUsageBatch` of `app/services/endpoint_traffic.py`, which merges the contributions of a
  whole batch in memory and upserts them at its end.

Only the PostgreSQL and SQLite statements are modelled: the application runs on no other dialect.
-/

namespace Kaya.Flow

/-! ### Buckets -/

/-- `int(value.timestamp())` of a naive `datetime`, which the host reads in its own time zone. -/
abbrev HostClock := DateTime → ℤ

/-- The UTC reading, `int((value - _EPOCH).total_seconds())`. -/
def utcClock : HostClock := fun value ↦ Double.trunc (Double.toDouble (value / second))

/-- `_bucket`: the start of the bucket that contains `value`. -/
def bucket (clock : HostClock) (value : DateTime) (seconds : ℕ) : DateTime :=
  (clock value - clock value % seconds) * second

/-- `endpoint_traffic.bucket_start`: the same on the UTC reading, whatever the host. -/
def bucketStart (value : DateTime) (seconds : ℕ) : DateTime := bucket utcClock value seconds

/-- `RESOLUTIONS`. -/
def resolutions : List ℕ := [300, 3600, 86400]

/-- `case((table.x > excluded.x, excluded.x), else_=table.x)` and its mirror. -/
def earliest (a b : DateTime) : DateTime := if a > b then b else a

@[inherit_doc earliest]
def latest (a b : DateTime) : DateTime := if a < b then b else a

theorem earliest_eq_min (a b : DateTime) : earliest a b = min a b := by
  rw [earliest]
  split_ifs with h
  · exact (min_eq_right h.le).symm
  · exact (min_eq_left (not_lt.1 h)).symm

theorem latest_eq_max (a b : DateTime) : latest a b = max a b := by
  rw [latest]
  split_ifs with h
  · exact (max_eq_right h.le).symm
  · exact (max_eq_left (not_lt.1 h)).symm

/-- `partial` when either side is. -/
def DataQuality.merge (a b : DataQuality) : DataQuality :=
  if a = .partialData ∨ b = .partialData then .partialData else .complete

/-! ### The accepted record -/

/-- An accepted record with what is charged for it, after replay protection and counter deltas. -/
structure Posting where
  record : NormalizedFlowRecord
  sourceId : ℕ
  bytes : ℕ
  packets : ℕ
  quality : DataQuality
  deriving DecidableEq

/-! ### Flow totals -/

/-- The values of `_aggregate`. -/
def flowRow (clock : HostClock) (p : Posting) : TrafficFlowAggregate where
  sourceId := p.sourceId
  exporterIdentity := p.record.exporterIdentity
  bucketStart := bucket clock p.record.observedAt 300
  bucketSeconds := 300
  direction := p.record.direction
  bytesTotal := p.bytes
  packetsTotal := p.packets
  dataQuality := p.quality
  firstObservedAt := p.record.observedAt
  lastObservedAt := p.record.observedAt

/-- `on_conflict_do_update` of `_aggregate`. -/
def TrafficFlowAggregate.merge (row new : TrafficFlowAggregate) : TrafficFlowAggregate :=
  { row with
    bytesTotal := row.bytesTotal + new.bytesTotal
    packetsTotal := row.packetsTotal + new.packetsTotal
    sampleCount := row.sampleCount + new.sampleCount
    dataQuality := row.dataQuality.merge new.dataQuality
    firstObservedAt := earliest row.firstObservedAt new.firstObservedAt
    lastObservedAt := latest row.lastObservedAt new.lastObservedAt }

/-- `_aggregate`. A record without bytes and packets writes nothing. -/
def aggregate (clock : HostClock) (s : Session) (p : Posting) : Session :=
  if p.bytes = 0 ∧ p.packets = 0 then s
  else { s with
    flowAggregates := Ledger.upsert TrafficFlowAggregate.key TrafficFlowAggregate.merge
      (flowRow clock p) s.flowAggregates }

/-! ### Classified totals -/

/-- The values of `_accounting_aggregate` at one resolution. -/
def accountingRow (clock : HostClock) (inv : Inventory) (source : TrafficSource) (p : Posting)
    (seconds : ℕ) : TrafficFlowAccountingAggregate :=
  let classification := classifyFlow p.record source.interfaces inv.networks
  let attribution := resolveFlowAttribution inv p.record
  { sourceId := p.sourceId
    exporterIdentity := p.record.exporterIdentity
    bucketStart := bucket clock p.record.observedAt seconds
    bucketSeconds := seconds
    trafficClass := classification.trafficClass
    bytesTotal := p.bytes
    packetsTotal := p.packets
    dataQuality := p.quality
    classificationConfidence := classification.confidence
    attributionState := attribution.state
    unresolvedReason := attribution.unresolvedReason
    firstObservedAt := p.record.observedAt
    lastObservedAt := p.record.observedAt }

/-- `on_conflict_do_update` of `_accounting_aggregate`. -/
def TrafficFlowAccountingAggregate.merge (row new : TrafficFlowAccountingAggregate) :
    TrafficFlowAccountingAggregate :=
  { row with
    bytesTotal := row.bytesTotal + new.bytesTotal
    packetsTotal := row.packetsTotal + new.packetsTotal
    sampleCount := row.sampleCount + new.sampleCount
    dataQuality := row.dataQuality.merge new.dataQuality
    classificationConfidence :=
      if row.classificationConfidence = new.classificationConfidence then
        row.classificationConfidence
      else if row.classificationConfidence = .unknown then new.classificationConfidence
      else .mixed
    attributionState :=
      if row.attributionState = new.attributionState then row.attributionState
      else if row.attributionState = .unknown then new.attributionState
      else .mixed
    unresolvedReason := match row.unresolvedReason with
      | none => new.unresolvedReason
      | some reason => if new.unresolvedReason = some reason then some reason else some .mixed
    firstObservedAt := earliest row.firstObservedAt new.firstObservedAt
    lastObservedAt := latest row.lastObservedAt new.lastObservedAt }

/-- `_accounting_aggregate`. -/
def accountingAggregate (clock : HostClock) (s : Session) (p : Posting) : Session :=
  match s.inventory.source p.sourceId with
  | none => s
  | some source => { s with
    accountingAggregates := Ledger.upsertAll TrafficFlowAccountingAggregate.key
      TrafficFlowAccountingAggregate.merge
      (resolutions.map (accountingRow clock s.inventory source p)) s.accountingAggregates }

/-! ### Monitored devices -/

/-- One entry of `direction_specs`; the amounts of a directional record may be absent. -/
structure DirectionSpec where
  direction : UsageDirection
  address : Option IPAddr
  interfaceIndex : Option ℕ
  attribution : Option FlowAttribution := none
  bytes : Option ℕ := none
  packets : Option ℕ := none

/-- Both directions of a directional record, charged to its **initiator**. -/
def initiatorSpecs (r : NormalizedFlowRecord) (attribution : Option FlowAttribution) :
    List DirectionSpec :=
  [⟨.upload, r.sourceIp, r.inputInterface, attribution, r.forwardBytes, r.forwardPackets⟩,
    ⟨.download, r.sourceIp, r.outputInterface, attribution, r.reverseBytes, r.reversePackets⟩]

/-- Both directions of a directional record, charged to its **responder**. -/
def responderSpecs (r : NormalizedFlowRecord) (attribution : Option FlowAttribution) :
    List DirectionSpec :=
  [⟨.upload, r.destinationIp, r.outputInterface, attribution, r.reverseBytes, r.reversePackets⟩,
    ⟨.download, r.destinationIp, r.inputInterface, attribution, r.forwardBytes, r.forwardPackets⟩]

/-- `direction_specs`: a directional record is charged to **one** endpoint, the initiator before
the responder; any other record is the source's upload and the destination's download. -/
def directionSpecs (inv : Inventory) (r : NormalizedFlowRecord) : List DirectionSpec :=
  if r.directional then
    let sourceAttribution := resolveFlowAttribution inv r r.sourceIp
    let destinationAttribution := resolveFlowAttribution inv r r.destinationIp
    if sourceAttribution.state = .resolved then initiatorSpecs r (some sourceAttribution)
    else if destinationAttribution.state = .resolved then
      responderSpecs r (some destinationAttribution)
    else if (assignmentForRecord inv r r.sourceIp).isSome then initiatorSpecs r none
    else if (assignmentForRecord inv r r.destinationIp).isSome then responderSpecs r none
    else [⟨.upload, r.sourceIp, r.inputInterface, none, r.forwardBytes, r.forwardPackets⟩,
      ⟨.download, r.destinationIp, r.outputInterface, none, r.reverseBytes, r.reversePackets⟩]
  else [{ direction := .upload, address := r.sourceIp, interfaceIndex := r.inputInterface },
    { direction := .download, address := r.destinationIp, interfaceIndex := r.outputInterface }]

/-- One direction of a record, attributed to a monitored device. -/
structure DeviceCharge where
  direction : UsageDirection
  bytes : ℕ
  packets : ℕ
  attribution : FlowAttribution
  assignment : Option AssetNetworkAssignment
  period : TrafficDeviceMonitoringPeriod
  interfaceId : Option ℕ

/-- The body of the loop over `direction_specs`, up to the rows it writes. -/
def deviceCharge (inv : Inventory) (source : TrafficSource) (p : Posting) (spec : DirectionSpec) :
    Option DeviceCharge := do
  let r := p.record
  let bytes := if r.directional then spec.bytes.getD 0 else p.bytes
  let packets := if r.directional then spec.packets.getD 0 else p.packets
  if bytes = 0 ∧ packets = 0 then none
  else do
    let attribution := spec.attribution.getD (resolveFlowAttribution inv r spec.address)
    let managed := if attribution.state = .resolved then
      attribution.ipRecordId.bind (trafficMonitoringFor inv) else none
    let assignment := if managed.any (·.isEnabled) then none
      else assignmentForRecord inv r spec.address
    if attribution.state ≠ .resolved ∧ assignment = none then none
    else do
      let monitor ← match assignment with
        | some a => inv.monitoring.find? fun row ↦ row.assignmentId = some a.id ∧ row.isEnabled
        | none => managed
      if !monitor.isEnabled then none
      else do
        let period ← monitoringPeriod inv monitor.id assignment r.observedAt
        return {
          direction := spec.direction
          bytes, packets, attribution, assignment, period
          interfaceId := (source.interfaces.find? (·.interfaceIndex = spec.interfaceIndex)).map
            (·.id) }

/-- The values of `persist_device_traffic` at one resolution. -/
def deviceRow (clock : HostClock) (p : Posting) (charge : DeviceCharge) (seconds : ℕ) :
    TrafficDeviceAggregate where
  periodId := charge.period.id
  ipAddressId := if charge.attribution.state = .resolved then charge.attribution.ipRecordId else none
  assetId := charge.assignment.bind (·.assetId)
  assignmentId := charge.assignment.map (·.id)
  endpointAddress := charge.assignment.map (·.address)
  addressFamily := charge.assignment.map (·.addressFamily)
  exporterIdentity := charge.assignment.map fun _ ↦ p.record.exporterIdentity
  sourceId := p.sourceId
  interfaceId := charge.interfaceId
  bucketStart := bucket clock p.record.observedAt seconds
  bucketSeconds := seconds
  direction := charge.direction
  bytesTotal := charge.bytes
  packetsTotal := charge.packets
  dataQuality := p.record.dataQuality
  attributionConfidence :=
    if charge.attribution.state = .resolved then charge.attribution.confidence else .high
  firstObservedAt := p.record.observedAt
  lastObservedAt := p.record.observedAt

/-- `on_conflict_do_update` of `_insert`. -/
def TrafficDeviceAggregate.merge (row new : TrafficDeviceAggregate) : TrafficDeviceAggregate :=
  { row with
    bytesTotal := row.bytesTotal + new.bytesTotal
    packetsTotal := row.packetsTotal + new.packetsTotal
    sampleCount := row.sampleCount + new.sampleCount
    dataQuality := row.dataQuality.merge new.dataQuality
    firstObservedAt := earliest row.firstObservedAt new.firstObservedAt
    lastObservedAt := latest row.lastObservedAt new.lastObservedAt }

/-- The object that the row without an interface is merged into: same period, assignment, asset,
source, bucket and direction, and no interface either. -/
def TrafficDeviceAggregate.sameBucket (new row : TrafficDeviceAggregate) : Bool :=
  decide (row.periodId = new.periodId) && decide (row.assignmentId = new.assignmentId) &&
    decide (row.assetId = new.assetId) && decide (row.sourceId = new.sourceId) &&
    decide (row.interfaceId = none) && decide (row.bucketStart = new.bucketStart) &&
    decide (row.bucketSeconds = new.bucketSeconds) && decide (row.direction = new.direction)

/-- `match.bytes_total += …`. -/
def TrafficDeviceAggregate.increase (new row : TrafficDeviceAggregate) : TrafficDeviceAggregate :=
  { row with
    bytesTotal := row.bytesTotal + new.bytesTotal
    packetsTotal := row.packetsTotal + new.packetsTotal
    sampleCount := row.sampleCount + 1 }

/-- Write one device row. A row without an interface is merged into the object of a matching row or
added as a new object; any other row is upserted by a statement. -/
def writeDeviceRow (table : SessionTable TrafficDeviceAggregate) (row : TrafficDeviceAggregate) :
    SessionTable TrafficDeviceAggregate :=
  if row.interfaceId = none then
    if (table.first? row.sameBucket).isSome then table.edit row.sameBucket row.increase
    else table.add row
  else table.upsert (fun r ↦ r.unique = row.unique) (·.merge row) row

/-- The charges of `persist_device_traffic`: none while monitoring is disabled, for a record
without bytes and packets, and for an unknown source. -/
def deviceCharges (inv : Inventory) (p : Posting) : List DeviceCharge :=
  if !inv.enabled || (decide (p.bytes = 0) && decide (p.packets = 0)) then []
  else match inv.source p.sourceId with
    | none => []
    | some source => (directionSpecs inv p.record).filterMap (deviceCharge inv source p)

/-- The rows of `persist_device_traffic`. -/
def deviceRows (clock : HostClock) (inv : Inventory) (p : Posting) : List TrafficDeviceAggregate :=
  (deviceCharges inv p).flatMap fun charge ↦ resolutions.map (deviceRow clock p charge)

/-- `persist_device_traffic`. -/
def persistDeviceTraffic (clock : HostClock) (s : Session) (p : Posting) : Session :=
  { s with
    deviceAggregates := (deviceRows clock s.inventory p).foldl writeDeviceRow s.deviceAggregates }

/-! ### Observed endpoints -/

/-- One entry of `endpoint_contributions`. -/
structure Contribution where
  address : Option IPAddr
  direction : UsageDirection
  bytes : ℕ
  packets : ℕ

/-- `endpoint_contributions`. -/
def endpointContributions (p : Posting) : List Contribution :=
  let r := p.record
  if r.directional then
    [⟨r.sourceIp, .upload, r.forwardBytes.getD 0, r.forwardPackets.getD 0⟩,
      ⟨r.sourceIp, .download, r.reverseBytes.getD 0, r.reversePackets.getD 0⟩,
      ⟨r.destinationIp, .upload, r.reverseBytes.getD 0, r.reversePackets.getD 0⟩,
      ⟨r.destinationIp, .download, r.forwardBytes.getD 0, r.forwardPackets.getD 0⟩]
  else [⟨r.sourceIp, .upload, p.bytes, p.packets⟩, ⟨r.destinationIp, .download, p.bytes, p.packets⟩]

/-- The networks of `EndpointUsageBatch._local_networks`: none while monitoring is disabled. -/
def endpointNetworks (inv : Inventory) : List IPNet := if inv.enabled then inv.networks else []

/-- The rows one contribution adds to the batch. -/
def contributionRows (inv : Inventory) (p : Posting) (c : Contribution) :
    List TrafficEndpointAggregate :=
  match c.address with
  | none => []
  | some address =>
    if (c.bytes = 0 ∧ c.packets = 0) ∨ (endpointNetworks inv).any (·.contains address) = false then []
    else resolutions.map fun seconds ↦
      { endpointIp := address
        bucketSeconds := seconds
        bucketStart := bucketStart p.record.observedAt seconds
        sourceId := p.sourceId
        exporterIdentity := String.ofList (p.record.exporterIdentity.toList.take 45)
        direction := c.direction
        bytesTotal := c.bytes
        packetsTotal := c.packets
        dataQuality := p.quality
        lastObservedAt := p.record.observedAt }

/-- The rows of `EndpointUsageBatch.add`. -/
def endpointRows (inv : Inventory) (p : Posting) : List TrafficEndpointAggregate :=
  if (endpointNetworks inv).isEmpty || decide (p.record.exporterIdentity = "") then []
  else (endpointContributions p).flatMap (contributionRows inv p)

/-- Merging a contribution into a row of the batch. -/
def TrafficEndpointAggregate.accumulate (row new : TrafficEndpointAggregate) :
    TrafficEndpointAggregate :=
  { row with
    bytesTotal := row.bytesTotal + new.bytesTotal
    packetsTotal := row.packetsTotal + new.packetsTotal
    sampleCount := row.sampleCount + new.sampleCount
    dataQuality := if new.dataQuality = .complete then row.dataQuality else .partialData
    lastObservedAt := max row.lastObservedAt new.lastObservedAt }

/-- `on_conflict_do_update` of `EndpointUsageBatch.flush`. -/
def TrafficEndpointAggregate.merge (row new : TrafficEndpointAggregate) :
    TrafficEndpointAggregate :=
  { row with
    bytesTotal := row.bytesTotal + new.bytesTotal
    packetsTotal := row.packetsTotal + new.packetsTotal
    sampleCount := row.sampleCount + new.sampleCount
    dataQuality := if new.dataQuality = .partialData then .partialData else row.dataQuality
    lastObservedAt := latest row.lastObservedAt new.lastObservedAt }

/-- `EndpointUsageBatch.add` on the rows of the batch. -/
def addEndpointUsage (inv : Inventory) (rows : List TrafficEndpointAggregate) (p : Posting) :
    List TrafficEndpointAggregate :=
  Ledger.upsertAll TrafficEndpointAggregate.key TrafficEndpointAggregate.accumulate
    (endpointRows inv p) rows

/-- `EndpointUsageBatch.flush`. The order of the statements only decides the order of locks. -/
def flushEndpointUsage (rows : List TrafficEndpointAggregate) (s : Session) : Session :=
  { s with
    endpointAggregates := Ledger.upsertAll TrafficEndpointAggregate.key
      TrafficEndpointAggregate.merge rows s.endpointAggregates }

end Kaya.Flow
