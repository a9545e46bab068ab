import Kaya.HA.Model
import Kaya.Library.IPNetwork

/-!
# Assets, their identity evidence and their network assignments

The tables of `app/services/asset_identity.py`, with the columns its functions read or write.

**Texts.** An address is the value that `ipaddress` reads, which has one compressed text. Columns
that hold a text which is also read as something else keep both: `AddressText` is a text with the
address it is read as, `FoldedText` a text with its `strip().casefold()`, and a `VLAN` has the
network of its `subnet_cidr`.

**Outside.** The sessions, the audit records (whether one is written is an input) and the columns of
these tables that nothing here reads.
-/

namespace Kaya.Assets

open Kaya.HA (DateTime)

/-! ### Texts -/

/-- A text, with the address that `ipaddress.ip_address` reads. -/
structure AddressText where
  text : String
  address : Option IPAddr

/-- A text, with its `strip().casefold()`. -/
structure FoldedText where
  text : String
  folded : String

/-- A hexadecimal digit. -/
def isHexDigit (c : Char) : Bool :=
  c.isDigit || (decide ('a' ≤ c) && decide (c ≤ 'f')) || (decide ('A' ≤ c) && decide (c ≤ 'F'))

/-- `":".join(compact[i:i + 2] for i in range(0, 12, 2))`. -/
def joinPairs : List Char → List Char
  | [] => []
  | [a] => [a]
  | [a, b] => [a, b]
  | a :: b :: cs => a :: b :: ':' :: joinPairs cs

/-- `_normalise_evidence("mac", value)`, where it raises nothing. -/
def normaliseMac (value : String) : Option String :=
  let value := PyText.strip value
  if value = "" ∨ 255 < value.length then none
  else
    let compact := (value.toList.filter isHexDigit).map Char.toLower
    if compact.length = 12 then some (String.ofList (joinPairs compact)) else none

example : normaliseMac " 02-00-5E-10:00:0a " = some "02:00:5e:10:00:0a" := by decide +kernel

/-- A text column with something in it. -/
def present (value : Option String) : Option String := value.filter (· ≠ "")

/-! ### Rows -/

/-- `HardwareAsset`. -/
structure HardwareAsset where
  assetTag : Option String := none

/-- `VLAN`, with the network `ip_network(subnet_cidr.strip(), strict=False)`. -/
structure VLAN where
  subnetCidr : Option String := none
  network : Option IPNet := none

/-- `IPAddress`. A record whose text is not the compressed text of an address matches none. -/
structure IPAddress where
  vlanId : Option ℕ := none
  address : Option IPAddr
  macAddress : Option String := none
  assignmentType : String := "Static"

/-- `EVIDENCE_TYPES`. -/
inductive EvidenceType
  | mac
  | dhcpClientId
  | providerClientId
  | hostname
  | serialNumber
  deriving DecidableEq

/-- The name of an evidence type. -/
def EvidenceType.text : EvidenceType → String
  | .mac => "mac"
  | .dhcpClientId => "dhcp_client_id"
  | .providerClientId => "provider_client_id"
  | .hostname => "hostname"
  | .serialNumber => "serial_number"

/-- `STATUSES`. -/
inductive Status
  | pending
  | confirmed
  | revoked
  | conflict
  | unresolved
  deriving DecidableEq

/-- `AssetIdentityEvidence`. -/
structure AssetIdentityEvidence where
  assetId : Option ℕ
  evidenceType : EvidenceType
  normalisedValue : String
  source : String
  sourceScope : Option String := none
  firstObservedAt : Option DateTime := none
  lastObservedAt : Option DateTime := none
  status : Status := .pending
  confirmedBy : Option ℕ := none
  confirmedAt : Option DateTime := none
  revokedAt : Option DateTime := none
  conflictReason : Option String := none

/-- `DHCPLeaseHistory`. -/
structure DHCPLeaseHistory where
  providerId : Option ℕ := none
  dnsClientId : Option ℕ := none
  dhcpRangeId : Option ℕ := none
  ipAddress : AddressText
  macAddress : Option String := none
  hostname : Option String := none
  providerLeaseId : Option FoldedText := none
  leaseStartedAt : DateTime
  firstSeenAt : DateTime
  lastSeenAt : DateTime
  expiresAt : Option DateTime := none
  endedAt : Option DateTime := none
  isActive : Bool := true

/-- `AssetNetworkAssignment`. -/
structure AssetNetworkAssignment where
  assetId : Option ℕ
  address : IPAddr
  addressFamily : ℕ
  vlanId : Option ℕ := none
  networkCidr : Option String := none
  ipAddressId : Option ℕ := none
  dhcpLeaseId : Option ℕ := none
  sourceId : Option ℕ := none
  exporterIdentity : Option String := none
  startedAt : DateTime
  endedAt : Option DateTime := none
  provenance : String
  status : Status := .pending
  confirmedBy : Option ℕ := none
  confirmedAt : Option DateTime := none
  conflictReason : Option String := none

/-- The tables that the functions on assignments read. -/
structure Records where
  moduleEnabled : Bool := true
  assets : Table HardwareAsset
  vlans : Table VLAN
  ipAddresses : Table IPAddress
  evidence : Table AssetIdentityEvidence
  leases : Table DHCPLeaseHistory
  /-- `dhcp_range.vlan_id`. -/
  rangeVlan : ℕ → Option ℕ

/-- A user. -/
structure User where
  id : ℕ
  isAdmin : Bool
  isActive : Bool := true

/-! ### Evidence -/

/-- The evidence names the asset: it is confirmed and not revoked. -/
def AssetIdentityEvidence.holds (row : AssetIdentityEvidence) : Bool :=
  row.status = .confirmed ∧ row.revokedAt = none ∧ row.assetId.isSome

/-- The evidence names an asset by this MAC. -/
def AssetIdentityEvidence.holdsMac (row : AssetIdentityEvidence) (mac : String) : Bool :=
  row.evidenceType = .mac ∧ row.normalisedValue = mac ∧ row.holds

/-- `confirmed_mac_owned_elsewhere`. -/
def confirmedMacOwnedElsewhere (evidence : Table AssetIdentityEvidence) (mac : String)
    (assetId : ℕ) : Bool :=
  evidence.exists? fun row ↦ row.holdsMac mac ∧ row.assetId ≠ some assetId

/-- `managed_static_record_mac`. -/
def managedStaticRecordMac (record : IPAddress) : Option String :=
  if record.assignmentType = "Dynamic" then none
  else (present record.macAddress).bind normaliseMac

end Kaya.Assets
