import Kaya.Library.IPNetwork
import Kaya.Library.Session

/-!
# The flow-accounting data model

The normalised flow record of `app/services/flow_protocol.py` and the rows of `app/models/models.py`
that the flow collector reads and writes.

**Columns.** A column appears when some modelled function reads or sums it. Ports, protocol, the
flow's own start and end, vendor marks, and the display state of a monitor do not.

**Addresses.** The decoder renders every address with `str(ipaddress.ip_address(…))`, so an address
is its value: equality of the texts the collector compares is equality of addresses, and
`ipaddress.ip_address` never refuses one. A configured network may be a text that does not parse;
it is then `none`.

**Keys.** The SHA-256 of an event key is symbolic: an `EventKey` *is* the tuple that was hashed.

**Time.** A naive UTC `datetime` is a count of microseconds.
-/

namespace Kaya.Flow

/-- A naive UTC `datetime`, in microseconds. -/
abbrev DateTime := ℤ

/-- One second of a `DateTime`. -/
def second : ℤ := 1000000

/-! ### Records -/

/-- `NormalizedFlowRecord.direction`. -/
inductive FlowDirection
  | unknown | bidirectional
  deriving DecidableEq

/-- The firewall events of `EVENT_TYPES`. -/
inductive EventType
  | create | teardown | denied | alert | update
  deriving DecidableEq

/-- `data_quality`: `complete`, or `partial`. -/
inductive DataQuality
  | complete | partialData
  deriving DecidableEq

/-- Usage is always counted from the endpoint's side. -/
inductive UsageDirection
  | upload | download
  deriving DecidableEq

/-- `NormalizedFlowRecord`. Its `sourceId` is the observation domain in the exporter's packet
header, not a row of Kaya. -/
structure NormalizedFlowRecord where
  exporterIdentity : String
  sourceId : ℕ
  sequence : ℕ
  recordIndex : ℕ
  observedAt : DateTime
  sourceIp : Option IPAddr := none
  destinationIp : Option IPAddr := none
  inputInterface : Option ℕ := none
  outputInterface : Option ℕ := none
  translatedSourceIp : Option IPAddr := none
  translatedDestinationIp : Option IPAddr := none
  bytesTotal : Option ℕ := none
  packetsTotal : Option ℕ := none
  direction : FlowDirection := .unknown
  eventType : Option EventType := none
  connectionId : Option String := none
  cumulativeCounters : Bool := false
  dataQuality : DataQuality := .complete
  forwardBytes : Option ℕ := none
  reverseBytes : Option ℕ := none
  forwardPackets : Option ℕ := none
  reversePackets : Option ℕ := none
  deriving DecidableEq

/-- Some directional counter is present: the record is a directional NSEL one. -/
def NormalizedFlowRecord.directional (r : NormalizedFlowRecord) : Bool :=
  r.forwardBytes.isSome || r.reverseBytes.isSome || r.forwardPackets.isSome ||
    r.reversePackets.isSome

/-! ### Configuration and identity rows -/

/-- `TrafficInterface`. -/
structure TrafficInterface where
  id : ℕ
  interfaceIndex : Option ℕ := none
  isEnabled : Bool := true
  isWan : Bool := false
  deriving DecidableEq

/-- `TrafficSource` with its interfaces. -/
structure TrafficSource where
  id : ℕ
  interfaces : List TrafficInterface := []
  deriving DecidableEq

/-- `TrafficLocalNetwork`. -/
structure TrafficLocalNetwork where
  networkCidr : Option IPNet
  isEnabled : Bool := true
  deriving DecidableEq

/-- `DHCPLeaseHistory`. -/
structure DHCPLeaseHistory where
  id : ℕ
  ipAddress : IPAddr
  leaseStartedAt : DateTime
  expiresAt : Option DateTime := none
  dnsClientId : Option ℕ := none
  deriving DecidableEq

/-- `DNSRecognisedDevice`. -/
structure DNSRecognisedDevice where
  id : ℕ
  linkedIpRecordId : Option ℕ := none
  deriving DecidableEq

/-- `DNSClientIPHistory`. -/
structure DNSClientIPHistory where
  dnsClientId : ℕ
  ipAddress : IPAddr
  firstSeenAt : DateTime
  lastSeenAt : DateTime
  deriving DecidableEq

/-- `IPAddress`: a managed address record. -/
structure IPAddress where
  id : ℕ
  address : IPAddr
  assignmentType : String := "Static"
  deriving DecidableEq

/-- `VLAN`. -/
structure VLAN where
  id : ℕ
  subnetCidr : Option String := none
  deriving DecidableEq

/-- `AssetNetworkAssignment.status`, as far as it is read: confirmed, or anything else. -/
inductive AssignmentStatus
  | pending | confirmed | ended
  deriving DecidableEq

/-- `AssetNetworkAssignment`. -/
structure AssetNetworkAssignment where
  id : ℕ
  assetId : Option ℕ := none
  address : IPAddr
  addressFamily : ℕ := 4
  vlanId : Option ℕ := none
  networkCidr : Option String := none
  sourceId : Option ℕ := none
  exporterIdentity : Option String := none
  startedAt : DateTime
  endedAt : Option DateTime := none
  status : AssignmentStatus := .confirmed
  deriving DecidableEq

/-- `TrafficDeviceMonitoring`. -/
structure TrafficDeviceMonitoring where
  id : ℕ
  ipAddressId : Option ℕ := none
  assignmentId : Option ℕ := none
  isEnabled : Bool := false
  deriving DecidableEq

/-- `TrafficDeviceMonitoringPeriod`. -/
structure TrafficDeviceMonitoringPeriod where
  id : ℕ
  monitoringId : ℕ
  assignmentId : Option ℕ := none
  startedAt : DateTime
  endedAt : Option DateTime := none
  deriving DecidableEq

/-- The rows that flow processing only reads. `configuration` is `is_enabled` of the single
`TrafficMonitoringConfiguration` row, when that row exists. -/
structure Inventory where
  configuration : Option Bool := none
  sources : List TrafficSource := []
  localNetworks : List TrafficLocalNetwork := []
  leases : List DHCPLeaseHistory := []
  recognisedDevices : List DNSRecognisedDevice := []
  ipHistory : List DNSClientIPHistory := []
  ipAddresses : List IPAddress := []
  vlans : List VLAN := []
  assignments : List AssetNetworkAssignment := []
  monitoring : List TrafficDeviceMonitoring := []
  periods : List TrafficDeviceMonitoringPeriod := []
  deriving DecidableEq

/-- `db.get(TrafficSource, source_id)`. -/
def Inventory.source (inv : Inventory) (sourceId : ℕ) : Option TrafficSource :=
  inv.sources.find? (·.id = sourceId)

/-- The configuration row exists and is enabled. -/
def Inventory.enabled (inv : Inventory) : Bool := inv.configuration.getD false

/-- The enabled local networks the collector loads: at most 256 rows. -/
def Inventory.networks (inv : Inventory) : List IPNet :=
  ((inv.localNetworks.filter (·.isEnabled)).take 256).filterMap (·.networkCidr)

/-! ### Rows of the collector -/

/-- `TrafficFlowCollectorState`. -/
structure TrafficFlowCollectorState where
  sourceId : ℕ
  duplicateEvents : ℕ := 0
  outOfOrderEvents : ℕ := 0
  packetsAccepted : ℕ := 0
  lastValidFlowAt : Option DateTime := none
  lastAggregateWriteAt : Option DateTime := none
  deriving DecidableEq

/-- The tuple whose digest is `event_key`. -/
structure EventKey where
  sourceId : ℕ
  exporterIdentity : String
  sequence : ℕ
  recordIndex : ℕ
  connectionId : Option String
  eventType : Option EventType
  observedAt : DateTime
  bytesTotal : Option ℕ
  packetsTotal : Option ℕ
  deriving DecidableEq

/-- `TrafficFlowDeduplication`. -/
structure TrafficFlowDeduplication where
  sourceId : ℕ
  eventKey : EventKey
  processedAt : DateTime
  expiresAt : DateTime
  deriving DecidableEq

/-- The identity of a cumulative counter: source, exporter, connection. -/
abbrev CounterKey := ℕ × String × String

/-- `TrafficFlowCounterState`. -/
structure TrafficFlowCounterState where
  sourceId : ℕ
  exporterIdentity : String
  connectionId : String
  lastEventAt : Option DateTime := none
  lastBytes : Option ℕ := none
  lastPackets : Option ℕ := none
  lastEventType : Option EventType := none
  expiresAt : DateTime
  deriving DecidableEq

/-- `uq_traffic_flow_counter_state_identity`. -/
def TrafficFlowCounterState.key (c : TrafficFlowCounterState) : CounterKey :=
  (c.sourceId, c.exporterIdentity, c.connectionId)

/-- `TrafficFlowAggregate`; its `traffic_class` is always `flow_total`. -/
structure TrafficFlowAggregate where
  sourceId : ℕ
  exporterIdentity : String
  bucketStart : DateTime
  bucketSeconds : ℕ
  direction : FlowDirection
  bytesTotal : ℕ
  packetsTotal : ℕ
  sampleCount : ℕ := 1
  dataQuality : DataQuality
  firstObservedAt : DateTime
  lastObservedAt : DateTime
  deriving DecidableEq

/-- `uq_traffic_flow_aggregates_bucket`. -/
def TrafficFlowAggregate.key (row : TrafficFlowAggregate) :
    ℕ × String × DateTime × ℕ × FlowDirection :=
  (row.sourceId, row.exporterIdentity, row.bucketStart, row.bucketSeconds, row.direction)

/-- `ACCOUNTING_CLASSES`. -/
inductive TrafficClass
  | wanInbound | wanOutbound | internetDownload | internetUpload | internalLan | vpnTunnel | unknown
  deriving DecidableEq

/-- Confidence of a classification or of an attribution; `mixed` only in a stored row. -/
inductive Confidence
  | high | medium | low | nothing | unknown | mixed
  deriving DecidableEq

/-- State of an attribution; `mixed` only in a stored row. -/
inductive AttributionState
  | resolved | unresolved | unknown | mixed
  deriving DecidableEq

/-- Why an attribution is unresolved; `mixed` only in a stored row. -/
inductive UnresolvedReason
  | missingEndpoint | ambiguousDhcpHistory | ambiguousIpHistory | noTimeBoundedIdentity | mixed
  deriving DecidableEq

/-- `TrafficFlowAccountingAggregate`. -/
structure TrafficFlowAccountingAggregate where
  sourceId : ℕ
  exporterIdentity : String
  bucketStart : DateTime
  bucketSeconds : ℕ
  trafficClass : TrafficClass
  bytesTotal : ℕ
  packetsTotal : ℕ
  sampleCount : ℕ := 1
  dataQuality : DataQuality
  classificationConfidence : Confidence
  attributionState : AttributionState
  unresolvedReason : Option UnresolvedReason
  firstObservedAt : DateTime
  lastObservedAt : DateTime
  deriving DecidableEq

/-- `uq_traffic_flow_accounting_bucket`. -/
def TrafficFlowAccountingAggregate.key (row : TrafficFlowAccountingAggregate) :
    ℕ × String × DateTime × ℕ × TrafficClass :=
  (row.sourceId, row.exporterIdentity, row.bucketStart, row.bucketSeconds, row.trafficClass)

/-- `TrafficEndpointAggregate`. -/
structure TrafficEndpointAggregate where
  endpointIp : IPAddr
  bucketSeconds : ℕ
  bucketStart : DateTime
  sourceId : ℕ
  exporterIdentity : String
  direction : UsageDirection
  bytesTotal : ℕ
  packetsTotal : ℕ
  sampleCount : ℕ := 1
  dataQuality : DataQuality
  lastObservedAt : DateTime
  deriving DecidableEq

/-- The primary key of `TrafficEndpointAggregate`. -/
def TrafficEndpointAggregate.key (row : TrafficEndpointAggregate) :
    IPAddr × ℕ × DateTime × ℕ × String × UsageDirection :=
  (row.endpointIp, row.bucketSeconds, row.bucketStart, row.sourceId, row.exporterIdentity,
    row.direction)

/-- `TrafficDeviceAggregate`. -/
structure TrafficDeviceAggregate where
  periodId : ℕ
  ipAddressId : Option ℕ
  assetId : Option ℕ
  assignmentId : Option ℕ
  endpointAddress : Option IPAddr
  addressFamily : Option ℕ
  exporterIdentity : Option String
  sourceId : ℕ
  interfaceId : Option ℕ
  bucketStart : DateTime
  bucketSeconds : ℕ
  direction : UsageDirection
  bytesTotal : ℕ
  packetsTotal : ℕ
  sampleCount : ℕ := 1
  dataQuality : DataQuality
  attributionConfidence : Confidence
  firstObservedAt : DateTime
  lastObservedAt : DateTime
  deriving DecidableEq

/-- The columns of a unique index of `TrafficDeviceAggregate`. -/
structure DeviceBucket where
  periodId : ℕ
  assignmentId : Option ℕ
  sourceId : ℕ
  interfaceId : ℕ
  bucketStart : DateTime
  bucketSeconds : ℕ
  direction : UsageDirection
  deriving DecidableEq

/-- The two partial unique indexes of `TrafficDeviceAggregate`, one for rows without an assignment
and one for rows with one. Both contain `interface_id`, and `NULL` interfaces are all distinct. -/
def TrafficDeviceAggregate.unique (row : TrafficDeviceAggregate) : Option DeviceBucket :=
  row.interfaceId.map fun interfaceId ↦
    { periodId := row.periodId, assignmentId := row.assignmentId, sourceId := row.sourceId,
      interfaceId, bucketStart := row.bucketStart, bucketSeconds := row.bucketSeconds,
      direction := row.direction }

/-- The committed database. -/
structure Database where
  inventory : Inventory := {}
  states : List TrafficFlowCollectorState := []
  deduplication : List TrafficFlowDeduplication := []
  counterStates : List TrafficFlowCounterState := []
  flowAggregates : List TrafficFlowAggregate := []
  accountingAggregates : List TrafficFlowAccountingAggregate := []
  endpointAggregates : List TrafficEndpointAggregate := []
  deviceAggregates : List TrafficDeviceAggregate := []
  deriving DecidableEq

/-- A transaction on the database through `SessionLocal`, which does not flush by itself.
Counter states and device rows are also written as objects; collector states are objects that no
query selects by an edited column, so their edits are written through. -/
structure Session where
  inventory : Inventory
  states : List TrafficFlowCollectorState
  deduplication : List TrafficFlowDeduplication
  counterStates : SessionTable TrafficFlowCounterState
  flowAggregates : List TrafficFlowAggregate
  accountingAggregates : List TrafficFlowAccountingAggregate
  endpointAggregates : List TrafficEndpointAggregate
  deviceAggregates : SessionTable TrafficDeviceAggregate

/-- A session begins on the committed rows. -/
def Database.session (db : Database) : Session where
  inventory := db.inventory
  states := db.states
  deduplication := db.deduplication
  counterStates := .ofRows db.counterStates
  flowAggregates := db.flowAggregates
  accountingAggregates := db.accountingAggregates
  endpointAggregates := db.endpointAggregates
  deviceAggregates := .ofRows db.deviceAggregates

/-- `db.commit()`: flush, and make the transaction durable; `none` is the error that rolls the
transaction back. -/
def Session.commit (s : Session) : Option Database := do
  let counterStates ← s.counterStates.flush fun c ↦ some c.key
  let deviceAggregates ← s.deviceAggregates.flush TrafficDeviceAggregate.unique
  return {
    inventory := s.inventory
    states := s.states
    deduplication := s.deduplication
    counterStates
    flowAggregates := s.flowAggregates
    accountingAggregates := s.accountingAggregates
    endpointAggregates := s.endpointAggregates
    deviceAggregates }

/-- `db.flush()` in an open transaction. -/
def Session.flush (s : Session) : Option Session := s.commit.map Database.session

end Kaya.Flow
