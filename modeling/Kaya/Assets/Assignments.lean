import Kaya.Assets.Model
import Kaya.Library.Checks
import Kaya.Library.Machine
import Kaya.Library.Periods

/-!
# Network assignments

The writers of `AssetNetworkAssignment` in `app/services/asset_identity.py`, each call one
transaction: `assign_network_identity`, `close_network_assignment`,
`confirm_existing_network_assignment`, `repair_managed_static_assignment`,
`close_ended_dhcp_assignments` and `reconcile_dhcp_assignment`. What else a call reads are the
`Records` it is made in. A call that raises leaves the assignments as they are.

`LIMIT` takes the first rows in the order of the query, and in the order of the table where the
query has none.
-/

namespace Kaya.Assets

open Kaya.HA (DateTime)

/-! ### Contexts and periods -/

/-- What an assignment is for: the columns that `assign_network_identity` compares. -/
structure Context where
  address : IPAddr
  addressFamily : ℕ
  vlanId : Option ℕ
  sourceId : Option ℕ
  exporterIdentity : Option String
  deriving DecidableEq

namespace AssetNetworkAssignment

variable (row : AssetNetworkAssignment)

/-- The context of a row. -/
def context : Context :=
  ⟨row.address, row.addressFamily, row.vlanId, row.sourceId, row.exporterIdentity⟩

/-- The times of a row. -/
def period : Set DateTime := Kaya.period row.startedAt row.endedAt

/-- The row is confirmed. -/
def isConfirmed : Bool := row.status = .confirmed

/-- The row is confirmed and has no end. -/
def isOpen : Bool := row.status = .confirmed ∧ row.endedAt = none

/-- The row is an open one for the address. -/
def isOpenFor (address : IPAddr) (family : ℕ) : Bool :=
  row.isOpen ∧ row.address = address ∧ row.addressFamily = family

/-- `asset_id != asset_id` of a query: a row without an asset is no answer. -/
def isElsewhere (assetId : ℕ) : Bool := row.assetId.any (· ≠ assetId)

end AssetNetworkAssignment

/-- The assignments. -/
abbrev Assignments := Table AssetNetworkAssignment

/-! ### The administrator -/

/-- The arguments of `assign_network_identity`. -/
structure AssignRequest where
  assetId : ℕ
  address : AddressText
  startedAt : DateTime
  endedAt : Option DateTime := none
  vlanId : Option ℕ := none
  ipAddressId : Option ℕ := none
  dhcpLeaseId : Option ℕ := none
  sourceId : Option ℕ := none
  exporterIdentity : Option String := none
  provenance : String

/-- `str(exporter_identity).strip()[:255] if exporter_identity else None`. -/
def AssignRequest.scopedExporter (request : AssignRequest) : Option String :=
  (present request.exporterIdentity).map fun text ↦ PyText.take 255 (PyText.strip text)

/-- The loop of `assign_network_identity`: a confirmed row of another asset overlaps. -/
def conflicts (t : Assignments) (assetId : ℕ) (context : Context) (startedAt : DateTime)
    (endedAt : Option DateTime) : Bool :=
  t.exists? fun row ↦ row.context = context ∧ row.isConfirmed ∧
    overlap row.startedAt row.endedAt startedAt endedAt ∧ row.assetId ≠ some assetId

/-- `assign_network_identity`. -/
def assignNetworkIdentity (r : Records) (t : Assignments) (user : User) (request : AssignRequest)
    (now : DateTime) (audited : Bool) : Except String Assignments := do
  require user.isAdmin "Administrator access is required."
  require (request.endedAt.all (request.startedAt < ·)) "Assignment interval is invalid."
  require (PyText.strip request.provenance ≠ "" ∧ request.provenance.length ≤ 80)
    "Assignment provenance is required and bounded."
  let address ← found request.address.address
    "Network assignment address must be a valid IPv4 or IPv6 address."
  require (r.assets.get? request.assetId).isSome "Hardware asset not found."
  let vlan := request.vlanId.bind r.vlans.get?
  require (request.vlanId.isNone ∨ vlan.isSome) "VLAN not found."
  let record := request.ipAddressId.bind r.ipAddresses.get?
  require (request.ipAddressId.isNone ∨ record.any fun record ↦ record.address = some address)
    "Managed IP record does not match the assignment address."
  require (record.all fun record ↦ request.vlanId.isNone ∨ record.vlanId = request.vlanId)
    "Managed IP record does not belong to the selected VLAN."
  let context : Context :=
    ⟨address, address.version, request.vlanId, request.sourceId, request.scopedExporter⟩
  require (conflicts t request.assetId context request.startedAt request.endedAt = false)
    "A conflicting confirmed assignment already exists."
  require audited "The identity change could not be audited."
  return t.insert
    { assetId := some request.assetId
      address
      addressFamily := address.version
      vlanId := request.vlanId
      networkCidr := vlan.bind fun vlan ↦ (present vlan.subnetCidr).map PyText.strip
      ipAddressId := request.ipAddressId
      dhcpLeaseId := request.dhcpLeaseId
      sourceId := request.sourceId
      exporterIdentity := request.scopedExporter
      startedAt := request.startedAt
      endedAt := request.endedAt
      provenance := PyText.strip request.provenance
      status := .confirmed
      confirmedBy := some user.id
      confirmedAt := some now }

/-- `close_network_assignment`. -/
def closeNetworkAssignment (t : Assignments) (user : User) (assignmentId : ℕ) (endedAt : DateTime)
    (audited : Bool) : Except String Assignments := do
  require user.isAdmin "Administrator access is required."
  let row ← found (t.get? assignmentId) "Network assignment not found."
  require (row.startedAt < endedAt) "Assignment end must be after its start."
  require (row.endedAt.all (endedAt ≤ ·)) "Assignment cannot be extended after it was closed."
  require audited "The identity change could not be audited."
  return t.modify assignmentId fun row ↦ { row with endedAt := some endedAt }

/-- `confirm_existing_network_assignment`. -/
def confirmExistingNetworkAssignment (r : Records) (t : Assignments) (user : User)
    (assignmentId : ℕ) (confirmedAt : DateTime) (audited : Bool) : Except String Assignments := do
  require user.isAdmin "Administrator access is required."
  let row ← found (t.get? assignmentId) "Network assignment not found."
  require row.assetId.isSome "Network assignment not found."
  if row.status = .confirmed then
    return t
  else
    require (row.status = .pending) "This network assignment is not eligible for confirmation."
    let vlan := row.vlanId.bind r.vlans.get?
    let cidr := vlan.bind fun vlan ↦ present vlan.subnetCidr
    require (row.vlanId.isNone ∨ cidr.isSome) "The VLAN network context is no longer valid."
    require audited "The identity change could not be audited."
    return t.modify assignmentId fun row ↦
      { row with
        networkCidr := if row.vlanId.isSome then cidr.map PyText.strip else row.networkCidr
        status := .confirmed
        confirmedBy := some user.id
        confirmedAt := some confirmedAt
        conflictReason := none }

/-! ### Managed static records -/

/-- The addresses of leases with one of these hardware addresses or identifiers. -/
def dhcpAddresses (r : Records) (macs : List String) (leaseIds : List ℕ) : List IPAddr :=
  ((r.leases.ids.filter fun id ↦
    (r.leases.row id).macAddress.any (· ∈ macs) || decide (id ∈ leaseIds)).take 5000).filterMap
      fun id ↦ (r.leases.row id).ipAddress.address

/-- `superseded_dhcp_assignments`. -/
def supersededDhcpAssignments (r : Records) (t : Assignments) (assetId : ℕ) (keepAddress : IPAddr)
    (family : ℕ) (macs : List String) (leaseIds : List ℕ) : List ℕ :=
  ((t.select fun row ↦ row.isOpen ∧ row.assetId = some assetId ∧ row.addressFamily = family ∧
    row.address ≠ keepAddress).take 50).filter
      fun id ↦ (t.row id).address ∈ dhcpAddresses r macs leaseIds

/-- `_managed_static_record_for`. -/
def managedStaticRecordFor (r : Records) (address : IPAddr) (mac : String)
    (ipAddressId : Option ℕ) : Except String ℕ :=
  let records := (r.ipAddresses.select fun record ↦ record.address = some address).take 20
  match records.filter fun id ↦
    managedStaticRecordMac (r.ipAddresses.row id) = some mac ∧ ipAddressId.all (· = id) with
  | [id] => return id
  | _ => throw
    "Exactly one Static IP/VLAN Manager record for this address must carry this MAC."

/-- `_managed_static_owner_checks`. -/
def managedStaticOwnerChecks (r : Records) (assetId : ℕ) (mac : String) : Except String Unit := do
  require (r.evidence.exists? fun row ↦ row.assetId = some assetId ∧ row.holdsMac mac)
    "The asset does not hold this MAC as confirmed identity evidence."
  require (confirmedMacOwnedElsewhere r.evidence mac assetId = false)
    "This MAC is also confirmed for another asset; resolve that conflict first."

/-- An open confirmed row of another asset has the address. -/
def heldElsewhere (t : Assignments) (assetId : ℕ) (address : IPAddr) (family : ℕ) : Bool :=
  t.exists? fun row ↦ row.isOpenFor address family ∧ row.isElsewhere assetId

/-- `_managed_static_state`: the current assignment and the superseded ones. -/
def managedStaticState (r : Records) (t : Assignments) (assetId : ℕ) (mac : String)
    (address : IPAddr) : Except String (Option ℕ × List ℕ) := do
  let family := address.version
  require (heldElsewhere t assetId address family = false)
    "The managed static address is currently assigned to another asset."
  let current := t.select fun row ↦ row.isOpenFor address family ∧ row.assetId = some assetId
  return (current.head?, supersededDhcpAssignments r t assetId address family [mac] [])

/-- The arguments of `repair_managed_static_assignment`. The callbacks that may raise are inputs:
`refused` is the error of `on_plan`, and `aborted` that of `before_commit`. -/
structure RepairRequest where
  assetId : ℕ
  assetTag : String
  mac : String
  address : AddressText
  ipAddressId : Option ℕ := none
  actor : Option User := none
  execute : Bool := false
  refused : Option String := none
  aborted : Option String := none

/-- The change of `repair_managed_static_assignment`. -/
def applyRepair (r : Records) (t : Assignments) (request : RepairRequest) (address : IPAddr)
    (recordId : ℕ) (current : Option ℕ) (superseded : List ℕ) (now : DateTime) : Assignments :=
  let closed := t.mapRows fun id row ↦
    if id ∈ superseded then { row with endedAt := some (max row.startedAt now) } else row
  if current.isSome then closed
  else
    let record := r.ipAddresses.row recordId
    closed.insert
      { assetId := some request.assetId
        address
        addressFamily := address.version
        vlanId := record.vlanId
        networkCidr := (record.vlanId.bind r.vlans.get?).bind fun vlan ↦
          (present vlan.subnetCidr).map PyText.strip
        ipAddressId := some recordId
        startedAt := now
        provenance := "managed_static_repair"
        status := .confirmed
        confirmedBy := request.actor.map (·.id)
        confirmedAt := some now }

/-- `repair_managed_static_assignment`. -/
def repairManagedStaticAssignment (r : Records) (t : Assignments) (request : RepairRequest)
    (now : DateTime) (audited : Bool) : Except String Assignments := do
  require (request.actor.all fun actor ↦ actor.isAdmin ∧ actor.isActive)
    "An active administrator is required to attribute the repair."
  let text := PyText.strip request.mac
  require (text ≠ "" ∧ text.length ≤ 255) "Identity evidence must contain 1 to 255 characters."
  let mac ← found (normaliseMac request.mac) "MAC evidence must be a valid 48-bit address."
  let address ← found request.address.address
    "Network assignment address must be a valid IPv4 or IPv6 address."
  let tag := PyText.strip request.assetTag
  require (tag ≠ "" ∧ tag.length ≤ 120) "The asset tag must contain 1 to 120 characters."
  require ((r.assets.get? request.assetId).any fun asset ↦
      PyText.strip (asset.assetTag.getD "") = tag)
    "The asset id and asset tag do not identify the same asset."
  managedStaticOwnerChecks r request.assetId mac
  let recordId ← managedStaticRecordFor r address mac request.ipAddressId
  let (current, superseded) ← managedStaticState r t request.assetId mac address
  require request.refused.isNone (request.refused.getD "")
  if ¬ request.execute ∨ current.isSome ∧ superseded = [] then
    return t
  else
    require audited "The repair could not be audited."
    require request.aborted.isNone (request.aborted.getD "")
    return applyRepair r t request address recordId current superseded now

/-! ### Leases -/

/-- `_dhcp_lease_identifiers`. -/
def dhcpLeaseIdentifiers (lease : DHCPLeaseHistory) : Option String × Option String :=
  ((present lease.macAddress).bind normaliseMac, present (lease.providerLeaseId.map (·.folded)))

/-- `_dhcp_evidence_owner`: the asset, and whether there are several. -/
def dhcpEvidenceOwner (r : Records) (mac clientId : Option String) : Option ℕ × Bool :=
  let rows := (r.evidence.select fun row ↦ row.holds ∧
    (row.evidenceType = .mac ∧ mac = some row.normalisedValue ∨
      row.evidenceType = .dhcpClientId ∧ clientId = some row.normalisedValue)).take 50
  match (rows.filterMap fun id ↦ (r.evidence.row id).assetId).dedup with
  | [] => (none, false)
  | [owner] => (some owner, false)
  | _ => (none, true)

/-- `_identity_lease_filters`: there is something to compare. -/
def hasIdentity (lease : DHCPLeaseHistory) (clientId : Option String) : Bool :=
  (present lease.macAddress).isSome || clientId.isSome

/-- `or_(*_identity_lease_filters(lease, client_ids))`. -/
def sameIdentity (lease : DHCPLeaseHistory) (clientId : Option String) (row : DHCPLeaseHistory) :
    Bool :=
  ((present lease.macAddress).isSome && decide (row.macAddress = lease.macAddress)) ||
    (clientId.isSome && decide (row.providerLeaseId.map (·.text) = clientId))

/-- `_dhcp_assignment_continuity_owner`. -/
def dhcpAssignmentContinuityOwner (r : Records) (t : Assignments) (leaseId : ℕ)
    (lease : DHCPLeaseHistory) (clientId : Option String) : Option ℕ :=
  if ¬ hasIdentity lease clientId then none
  else
    let rows := (t.select fun row ↦ row.isConfirmed ∧ row.dhcpLeaseId ≠ some leaseId ∧
      (row.dhcpLeaseId.bind r.leases.get?).any fun other ↦
        other.providerId = lease.providerId ∧ sameIdentity lease clientId other).take 20
    match (rows.filterMap fun id ↦ (t.row id).assetId).dedup with
    | [owner] => some owner
    | _ => none

/-- `_managed_static_outranks_lease`. -/
def managedStaticOutranksLease (r : Records) (t : Assignments) (assetId : ℕ)
    (lease : DHCPLeaseHistory) (mac : Option String) (family : ℕ) : Bool :=
  mac.isSome &&
    ((t.select fun row ↦ row.isOpen ∧ row.assetId = some assetId ∧ row.addressFamily = family ∧
      (row.ipAddressId.bind r.ipAddresses.get?).isSome).take 50).any fun id ↦
        ((t.row id).ipAddressId.bind r.ipAddresses.get?).any fun record ↦
          record.address = some (t.row id).address ∧ managedStaticRecordMac record = mac ∧
            lease.firstSeenAt ≤ (t.row id).startedAt

/-- What `reconcile_dhcp_assignment` answers. -/
inductive Reconciled
  | renewed
  | reassigned
  | superseded
  | reviewRequired
  deriving DecidableEq

/-- `reconcile_dhcp_assignment` up to its locks: an answer, or the asset and the address. -/
def reconcileTarget (r : Records) (t : Assignments) (leaseId : ℕ) (lease : DHCPLeaseHistory) :
    Except Reconciled (ℕ × IPAddr) := do
  require r.moduleEnabled .reviewRequired
  let address ← found lease.ipAddress.address .reviewRequired
  let (mac, clientId) := dhcpLeaseIdentifiers lease
  let (owner, conflict) := dhcpEvidenceOwner r mac clientId
  require (conflict = false) .reviewRequired
  let assetId ← found (owner <|> dhcpAssignmentContinuityOwner r t leaseId lease clientId)
    .reviewRequired
  require (t.exists? (fun row ↦
      row.isOpenFor address address.version ∧ row.assetId = some assetId) = false) .renewed
  require (¬ (hasIdentity lease clientId ∧ r.leases.ids.any fun id ↦
      let other := r.leases.row id
      id ≠ leaseId ∧ other.isActive ∧ sameIdentity lease clientId other ∧
        (lease.leaseStartedAt < other.leaseStartedAt ∨
          other.leaseStartedAt = lease.leaseStartedAt ∧ leaseId < id))) .superseded
  require (managedStaticOutranksLease r t assetId lease mac address.version = false) .superseded
  return (assetId, address)

/-- `last_seen_by_address` at an address. -/
def lastSeenByAddress (r : Records) (leaseId : ℕ) (lease : DHCPLeaseHistory) (address : IPAddr) :
    Option DateTime :=
  let clientId := (dhcpLeaseIdentifiers lease).2
  let rows := (r.leases.ids.filter fun id ↦
    id ≠ leaseId ∧ sameIdentity lease clientId (r.leases.row id)).take 500
  ((rows.filter fun id ↦ (r.leases.row id).ipAddress.address = some address).map
    fun id ↦ (r.leases.row id).lastSeenAt).max?

/-- `open_rows`. -/
def openRows (t : Assignments) (assetId family : ℕ) : List ℕ :=
  (t.select fun row ↦ row.isOpen ∧ row.assetId = some assetId ∧ row.addressFamily = family).take 50

/-- `superseded_rows`. -/
def supersededRows (r : Records) (t : Assignments) (leaseId : ℕ) (lease : DHCPLeaseHistory)
    (assetId family : ℕ) : List ℕ :=
  (openRows t assetId family).filter fun id ↦
    (lastSeenByAddress r leaseId lease (t.row id).address).isSome

/-- `prior`: the closed rows of the asset for the address, the latest end first. -/
def priorRows (t : Assignments) (assetId : ℕ) (address : IPAddr) : List ℕ :=
  ((t.select fun row ↦ row.isConfirmed ∧ row.endedAt.isSome ∧ row.assetId = some assetId ∧
    row.address = address ∧ row.addressFamily = address.version).insertionSort fun i j ↦
      (t.row j).endedAt.getD 0 ≤ (t.row i).endedAt.getD 0).take 20

/-- `started_at` of the replacement. -/
def replacementStart (r : Records) (t : Assignments) (leaseId : ℕ) (lease : DHCPLeaseHistory)
    (assetId : ℕ) (address : IPAddr) (observedAt : DateTime) : DateTime :=
  let seen := min observedAt lease.firstSeenAt
  let after := (supersededRows r t leaseId lease assetId address.version).foldl
    (fun start id ↦ max start (t.row id).startedAt) seen
  let prior := priorRows t assetId address
  if prior.any fun id ↦ (t.row id).dhcpLeaseId = some leaseId then max after observedAt
  else
    match prior with
    | [] => after
    | id :: _ => max after ((t.row id).endedAt.getD after)

/-- `vlan` of the replacement. -/
def replacementVlan (r : Records) (t : Assignments) (leaseId : ℕ) (lease : DHCPLeaseHistory)
    (assetId : ℕ) (address : IPAddr) : Option ℕ :=
  let candidates := (supersededRows r t leaseId lease assetId address.version).map
    (fun id ↦ (t.row id).vlanId) ++ [lease.dhcpRangeId.bind r.rangeVlan]
  (candidates.filterMap id).find? fun vlanId ↦ (r.vlans.get? vlanId).any fun vlan ↦
    (present vlan.subnetCidr).isSome && vlan.network.any (·.contains address)

/-- `reconcile_dhcp_assignment` under its locks. -/
def reconcileLocked (r : Records) (t : Assignments) (leaseId : ℕ) (lease : DHCPLeaseHistory)
    (assetId : ℕ) (address : IPAddr) (observedAt : DateTime) : Assignments × Reconciled :=
  if (openRows t assetId address.version).any fun id ↦ (t.row id).address = address then
    (t, .renewed)
  else if heldElsewhere t assetId address address.version then (t, .reviewRequired)
  else
    let rows := supersededRows r t leaseId lease assetId address.version
    let start := replacementStart r t leaseId lease assetId address observedAt
    let vlanId := replacementVlan r t leaseId lease assetId address
    let closed := t.mapRows fun id row ↦
      if id ∈ rows then
        { row with
          endedAt := some <|
            match lastSeenByAddress r leaseId lease row.address with
            | none => start
            | some lastSeen => max row.startedAt (min start lastSeen) }
      else row
    (closed.insert
      { assetId := some assetId
        address
        addressFamily := address.version
        vlanId
        networkCidr := (vlanId.bind r.vlans.get?).bind fun vlan ↦
          (present vlan.subnetCidr).map PyText.strip
        dhcpLeaseId := some leaseId
        startedAt := start
        provenance := "dhcp_reconciliation"
        status := .confirmed
        confirmedAt := some observedAt }, .reassigned)

/-- `reconcile_dhcp_assignment`. -/
def reconcileDhcpAssignment (r : Records) (t : Assignments) (leaseId : ℕ) (observedAt : DateTime)
    (audited : Bool) : Except String (Assignments × Reconciled) :=
  match r.leases.get? leaseId with
  | none => .ok (t, .reviewRequired)
  | some lease =>
    match reconcileTarget r t leaseId lease with
    | .error answer => .ok (t, answer)
    | .ok (assetId, address) => do
      let (t', answer) := reconcileLocked r t leaseId lease assetId address observedAt
      require (answer = .reassigned → audited)
        "The DHCP assignment reconciliation could not be audited."
      return (t', answer)

/-- `lease_state` of `close_ended_dhcp_assignments`. -/
def leaseEnded (expiredOnly : Bool) (observedAt : DateTime) (lease : DHCPLeaseHistory) : Bool :=
  if expiredOnly then
    lease.isActive ∧ lease.expiresAt.any fun expires ↦
      lease.leaseStartedAt < expires ∧ expires ≤ observedAt
  else ¬ lease.isActive

/-- The rows of `close_ended_dhcp_assignments`, in its order. -/
def endedCandidates (r : Records) (t : Assignments) (providerId : ℕ) (observedAt : DateTime)
    (leaseIds : Option (List ℕ)) (expiredOnly : Bool) : List ℕ :=
  ((t.select fun row ↦ row.isOpen ∧ row.dhcpLeaseId.any fun leaseId ↦
    leaseIds.all (leaseId ∈ ·) ∧ (r.leases.get? leaseId).any fun lease ↦
      lease.providerId = some providerId ∧ leaseEnded expiredOnly observedAt lease).insertionSort
        fun i j ↦ (t.row i).assetId.getD 0 < (t.row j).assetId.getD 0 ∨
          (t.row i).assetId.getD 0 = (t.row j).assetId.getD 0 ∧ i ≤ j).take 500

/-- The rows of `close_ended_dhcp_assignments` end at the last observation of their leases. -/
def closeEndedRows (leases : Table DHCPLeaseHistory) (t : Assignments) (candidates : List ℕ)
    (observedAt : DateTime) : Assignments :=
  t.mapRows fun id row ↦
    if id ∈ candidates then
      let lastSeen := (row.dhcpLeaseId.map fun leaseId ↦ (leases.row leaseId).lastSeenAt).getD
        row.startedAt
      { row with endedAt := some (max row.startedAt (min lastSeen observedAt)) }
    else row

/-- `close_ended_dhcp_assignments`. -/
def closeEndedDhcpAssignments (r : Records) (t : Assignments) (providerId : ℕ)
    (observedAt : DateTime) (leaseIds : Option (List ℕ)) (expiredOnly audited : Bool) :
    Except String Assignments :=
  if r.moduleEnabled then do
    let candidates := endedCandidates r t providerId observedAt leaseIds expiredOnly
    require (candidates = [] ∨ audited) "The DHCP assignment closure could not be audited."
    return closeEndedRows r.leases t candidates observedAt
  else .ok t

/-! ### Calls -/

/-- A call. -/
inductive AssignmentCall
  | assign (user : User) (request : AssignRequest) (now : DateTime)
  | close (user : User) (assignmentId : ℕ) (endedAt : DateTime)
  | confirm (user : User) (assignmentId : ℕ) (confirmedAt : DateTime)
  | repair (request : RepairRequest) (now : DateTime)
  | reconcile (leaseId : ℕ) (observedAt : DateTime)
  | closeEnded (providerId : ℕ) (observedAt : DateTime) (leaseIds : Option (List ℕ))
    (expiredOnly : Bool)

/-- A call, the tables it is made in, and whether its audit record is written. -/
structure AssignmentEvent where
  records : Records
  call : AssignmentCall
  audited : Bool := true

/-- What a call makes of the assignments, where it raises nothing. -/
def AssignmentEvent.result (e : AssignmentEvent) (t : Assignments) : Except String Assignments :=
  match e.call with
  | .assign user request now => assignNetworkIdentity e.records t user request now e.audited
  | .close user assignmentId endedAt =>
    closeNetworkAssignment t user assignmentId endedAt e.audited
  | .confirm user assignmentId confirmedAt =>
    confirmExistingNetworkAssignment e.records t user assignmentId confirmedAt e.audited
  | .repair request now => repairManagedStaticAssignment e.records t request now e.audited
  | .reconcile leaseId observedAt =>
    (reconcileDhcpAssignment e.records t leaseId observedAt e.audited).map (·.1)
  | .closeEnded providerId observedAt leaseIds expiredOnly =>
    closeEndedDhcpAssignments e.records t providerId observedAt leaseIds expiredOnly e.audited

/-- The assignments. Initially none is confirmed. -/
def assignmentMachine : Machine Assignments AssignmentEvent where
  init t := ∀ id ∈ t.ids, (t.row id).status ≠ .confirmed
  step t e :=
    match e.result t with
    | .ok t' => t'
    | .error _ => t

end Kaya.Assets
