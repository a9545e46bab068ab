import Kaya.Flow.Model
import Mathlib.Data.List.Sort

/-!
# Classification and attribution of one record

`app/services/flow_accounting.py`, with the lookups of `app/services/device_traffic.py` that decide
whose traffic a record is. Everything here reads the inventory and writes nothing.

Primary keys are positive, so a key that is present is also true in the source's `if key` tests.
-/

namespace Kaya.Flow

/-! ### Classification -/

/-- `FlowClassification`. -/
structure FlowClassification where
  trafficClass : TrafficClass
  confidence : Confidence

/-- `_in_network`. -/
def inNetwork (value : Option IPAddr) (networks : List IPNet) : Bool :=
  value.any fun address ↦ networks.any (·.contains address)

/-- `classify_flow`. -/
def classifyFlow (record : NormalizedFlowRecord) (interfaces : List TrafficInterface)
    (networks : List IPNet) : FlowClassification :=
  let wanIndexes := interfaces.filterMap fun item ↦
    if item.isEnabled && item.isWan then item.interfaceIndex else none
  let inputWan := record.inputInterface.any wanIndexes.contains
  let outputWan := record.outputInterface.any wanIndexes.contains
  let sourceLocal := inNetwork record.sourceIp networks ||
    inNetwork record.translatedSourceIp networks
  let destinationLocal := inNetwork record.destinationIp networks ||
    inNetwork record.translatedDestinationIp networks
  if inputWan && !outputWan then { trafficClass := .wanInbound, confidence := .high }
  else if outputWan && !inputWan then { trafficClass := .wanOutbound, confidence := .high }
  else if sourceLocal && destinationLocal then
    { trafficClass := .internalLan, confidence := .high }
  else if sourceLocal != destinationLocal then
    { trafficClass := if sourceLocal then .internetUpload else .internetDownload,
      confidence := .medium }
  else if record.translatedSourceIp.isSome || record.translatedDestinationIp.isSome then
    { trafficClass := .vpnTunnel, confidence := .low }
  else { trafficClass := .unknown, confidence := .unknown }

/-! ### Attribution to a managed address -/

/-- `FlowAttribution`. -/
structure FlowAttribution where
  state : AttributionState
  confidence : Confidence
  ipRecordId : Option ℕ := none
  unresolvedReason : Option UnresolvedReason := none

/-- The managed record a recognised client is linked to. -/
def linkedIpRecord (inv : Inventory) (client : Option ℕ) : Option ℕ := do
  let id ← client
  let device ← inv.recognisedDevices.find? (·.id = id)
  device.linkedIpRecordId

/-- `resolve_flow_attribution`. An absent address falls back to the record's source. -/
def resolveFlowAttribution (inv : Inventory) (record : NormalizedFlowRecord)
    (address : Option IPAddr := none) : FlowAttribution :=
  let unresolved (reason : UnresolvedReason) : FlowAttribution :=
    { state := .unresolved, confidence := .nothing, unresolvedReason := some reason }
  match address.or record.sourceIp with
  | none => unresolved .missingEndpoint
  | some address =>
    let observed := record.observedAt
    let candidates := inv.leases.filter fun lease ↦
      decide (lease.ipAddress = address) && decide (lease.leaseStartedAt ≤ observed) &&
        lease.expiresAt.all (observed ≤ ·)
    let managed := inv.ipAddresses.filter (·.address = address)
    let history := if record.sourceIp.isSome then inv.ipHistory.filter fun row ↦
      decide (row.ipAddress = address) && decide (row.firstSeenAt ≤ observed) &&
        decide (observed ≤ row.lastSeenAt) else []
    let byHistory : FlowAttribution := match history with
      | [] => unresolved .noTimeBoundedIdentity
      | [row] => { state := .resolved, confidence := .low,
                   ipRecordId := linkedIpRecord inv (some row.dnsClientId) }
      | _ => unresolved .ambiguousIpHistory
    match candidates with
    | [lease] => { state := .resolved, confidence := .high,
                   ipRecordId := linkedIpRecord inv lease.dnsClientId }
    | _ :: _ :: _ => unresolved .ambiguousDhcpHistory
    | [] => match managed with
      | [row] =>
        if row.assignmentType.toLower != "dynamic" then
          { state := .resolved, confidence := .medium, ipRecordId := some row.id }
        else byHistory
      | _ => byHistory

/-! ### Asset assignments -/

/-- `ASSIGNMENT_CANDIDATE_LIMIT`. -/
def assignmentCandidateLimit : ℕ := 10

/-- `AssetNetworkAssignment.vlan_id.is_(None)`, or the assignment's network is the subnet of its
VLAN, which the outer join supplies. -/
def vlanContext (inv : Inventory) (row : AssetNetworkAssignment) : Bool :=
  row.vlanId.all fun id ↦ inv.vlans.any fun vlan ↦
    decide (vlan.id = id) && row.networkCidr.isSome && decide (row.networkCidr = vlan.subnetCidr)

/-- The assignment is confirmed, and its address, interval, exporter and VLAN context fit the
record; the source is not looked at. -/
def assignmentValid (inv : Inventory) (record : NormalizedFlowRecord) (address : IPAddr)
    (row : AssetNetworkAssignment) : Bool :=
  decide (row.address = address) && decide (row.addressFamily = address.version) &&
    decide (row.status = .confirmed) && decide (row.startedAt ≤ record.observedAt) &&
    row.endedAt.all (record.observedAt < ·) &&
    row.exporterIdentity.all (· = record.exporterIdentity) && vlanContext inv row

/-- The filter of the candidate query: a valid assignment whose source is null or equals the
**record's** `source_id`. -/
def assignmentCandidate (inv : Inventory) (record : NormalizedFlowRecord) (address : IPAddr)
    (row : AssetNetworkAssignment) : Bool :=
  assignmentValid inv record address row && row.sourceId.all (· = record.sourceId)

/-- The rows of the candidate query: ordered by key, one more than the limit at most. -/
def assignmentRows (inv : Inventory) (record : NormalizedFlowRecord) (address : IPAddr) :
    List AssetNetworkAssignment :=
  ((inv.assignments.filter (assignmentCandidate inv record address)).insertionSort
    fun a b ↦ a.id ≤ b.id).take (assignmentCandidateLimit + 1)

/-- `_assignment_for_record`. -/
def assignmentForRecord (inv : Inventory) (record : NormalizedFlowRecord)
    (address : Option IPAddr) : Option AssetNetworkAssignment := do
  let address ← address
  let rows := assignmentRows inv record address
  if rows.length > assignmentCandidateLimit then none
  else match rows with
    | [] => none
    | [row] => some row
    | row :: _ =>
      -- claims that span assets, or rows without one, stay ambiguous
      if row.assetId.isSome && rows.all (·.assetId = row.assetId) then
        match rows.filter fun r ↦ decide (r.sourceId = some record.sourceId) &&
            decide (r.exporterIdentity = some record.exporterIdentity) with
        | [chosen] => some chosen
        | _ => none
      else none

/-! ### Monitoring -/

/-- `traffic_monitoring_for`. -/
def trafficMonitoringFor (inv : Inventory) (ipRecordId : ℕ) : Option TrafficDeviceMonitoring :=
  inv.monitoring.find? fun row ↦ row.ipAddressId = some ipRecordId

/-- The period's interval contains the instant; both ends belong to it. -/
def TrafficDeviceMonitoringPeriod.covers (period : TrafficDeviceMonitoringPeriod)
    (at_ : DateTime) : Bool :=
  decide (period.startedAt ≤ at_) && period.endedAt.all (at_ ≤ ·)

/-- The covering period of a monitor that started last; for an asset monitor
(`_asset_monitoring_period`) only periods of the assignment count. -/
def monitoringPeriod (inv : Inventory) (monitorId : ℕ) (assignment : Option AssetNetworkAssignment)
    (at_ : DateTime) : Option TrafficDeviceMonitoringPeriod :=
  ((inv.periods.filter fun period ↦ decide (period.monitoringId = monitorId) &&
    assignment.all (fun a ↦ decide (period.assignmentId = some a.id)) &&
    period.covers at_).insertionSort fun a b ↦ b.startedAt ≤ a.startedAt).head?

end Kaya.Flow
