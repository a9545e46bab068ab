import Kaya.Assets.Assignments
import Kaya.Assets.Evidence
import Kaya.Library.LockOrder

/-!
# The locks of identity transactions

The advisory locks that a transaction requests on PostgreSQL, in its order: `lock_identity_scope`
and `_lock_asset_dhcp` of `app/services/asset_identity.py` as they are called by a confirmation, a
repair, an adoption (`app/services/asset_discovery.py`), `close_ended_dhcp_assignments` and the
ingestion of leases (`_persist_dhcp_leases` of `app/services/dns_insights.py`).

A lock is a tier with a key: 0 for the keys of discoveries, 1 for MACs, 2 for assets and 3 for
addresses. The keys are digests (`LockKeys`), and digests of different tiers are taken to be
different.

**Sessions.** `autoflush` is off: a query sees the leases as they were flushed last, while an
instance has what has been set on it since. An ingestion therefore has its leases twice.

**Outside.** The reading of what a provider answers, and audit records that are not written: a
transaction that stops early has requested the first of these locks.
-/

namespace Kaya.Assets

open Kaya.HA (DateTime)

/-! ### Keys -/

/-- The digests: `_discovery_lock_key`, `mac_identity_lock_key`, `_asset_dhcp_lock_key` and
`_assignment_lock_key`. -/
structure LockKeys where
  discovery : String → ℤ
  mac : String → ℤ
  asset : Option ℕ → ℤ
  assignment : Context → ℤ

/-- A tier and a key. -/
abbrev Lock := ℕ ×ₗ ℤ

/-- `dhcp_address_lock_key`. -/
def dhcpAddressLockKey (keys : LockKeys) (address : IPAddr) : ℤ :=
  keys.assignment ⟨address, address.version, none, none, none⟩

/-- `lock_identity_scope`. -/
def lockIdentityScope (keys : LockKeys) (macs : List String) (assetIds : List ℕ)
    (assignmentKeys : List ℤ) : List Lock :=
  tier 1 (sortedKeys (macs.map keys.mac)) ++
    tier 2 (sortedKeys (assetIds.map fun assetId ↦ keys.asset (some assetId))) ++
    tier 3 (sortedKeys assignmentKeys)

/-- `_lock_asset_dhcp`. -/
def lockAssetDhcp (keys : LockKeys) (assetId : Option ℕ) : Lock := toLex (2, keys.asset assetId)

/-! ### Transactions that lock once -/

/-- `confirm_identity_evidence`. -/
def confirmationLocks (keys : LockKeys) (c : Confirmation) : List Lock :=
  lockIdentityScope keys c.locks [] []

/-- `repair_managed_static_assignment`: the address is locked once its record is found. -/
def repairLocks (keys : LockKeys) (r : Records) (request : RepairRequest) : List Lock :=
  match normaliseMac request.mac, request.address.address with
  | some mac, some address =>
    lockIdentityScope keys [mac] [request.assetId] [] ++
      match managedStaticRecordFor r address mac request.ipAddressId with
      | .ok id => lockIdentityScope keys [] []
        [keys.assignment ⟨address, address.version, (r.ipAddresses.row id).vlanId, none, none⟩,
          dhcpAddressLockKey keys address]
      | .error _ => []
  | _, _ => []

/-- What `adopt_discovered_device` has read before its locks. `recordVlan` is the VLAN of the managed
record for the address, where there is one, and `closes` whether it comes to close assignments. -/
structure Adoption where
  candidateId : String
  values : List EvidenceValue
  trafficText : Option String := none
  address : Option IPAddr := none
  recordVlan : Option (Option ℕ) := none
  assetId : Option ℕ
  newAssetId : ℕ
  closes : Bool

/-- `f"evidence:{evidence_type}:{normalised}:{source}:{scope or '<null>'}"`. -/
def EvidenceValue.lockText (value : EvidenceValue) : String :=
  "evidence:" ++ value.evidenceType.text ++ ":" ++ value.normalisedValue ++ ":" ++ value.source ++
    ":" ++ (present value.sourceScope).getD "<null>"

/-- `address_keys`. -/
def Adoption.addressKeys (keys : LockKeys) (a : Adoption) : List ℤ :=
  match a.address, a.recordVlan with
  | some address, some vlanId =>
    [keys.assignment ⟨address, address.version, vlanId, none, none⟩,
      dhcpAddressLockKey keys address]
  | _, _ => []

/-- `adopt_discovered_device` up to its writes: the discovery keys and the scope. -/
def adoptionScope (keys : LockKeys) (a : Adoption) : List Lock :=
  tier 0 (sortedKeys ((a.candidateId :: a.values.map (·.lockText) ++ a.trafficText.toList).map
      keys.discovery)) ++
    lockIdentityScope keys (macsOf a.values) a.assetId.toList (a.addressKeys keys)

/-- `adopt_discovered_device`: at last the asset, which the scope has locked unless it is new. -/
def adoptionLocks (keys : LockKeys) (a : Adoption) : List Lock :=
  adoptionScope keys a ++
    if a.closes then [lockAssetDhcp keys (some (a.assetId.getD a.newAssetId))] else []

/-! ### Ingestion -/

/-- A call that locks: `_lock_asset_dhcp` for a row, or the scope of a reconciliation. -/
inductive LockCall
  | asset (assetId : Option ℕ)
  | scope (assetId : ℕ) (address : IPAddr)

/-- The locks of a call. -/
def LockCall.locks (keys : LockKeys) : LockCall → List Lock
  | .asset assetId => [lockAssetDhcp keys assetId]
  | .scope assetId address =>
    lockIdentityScope keys [] [assetId] [dhcpAddressLockKey keys address]

/-- The rows that `close_ended_dhcp_assignments` locks. -/
def closingCalls (r : Records) (t : Assignments) (providerId : ℕ) (observedAt : DateTime)
    (leaseIds : Option (List ℕ)) (expiredOnly : Bool) : List LockCall :=
  if r.moduleEnabled then
    (endedCandidates r t providerId observedAt leaseIds expiredOnly).map
      fun id ↦ .asset (t.row id).assetId
  else []

/-- A lease as a provider returns it. `dnsClientId` is the device of its MAC or address. -/
structure DhcpItem where
  address : AddressText
  mac : Option String := none
  hostname : Option String := none
  dnsClientId : Option ℕ := none
  dhcpClientId : Option FoldedText := none
  providerRecordId : Option String := none
  dhcpRangeId : Option ℕ := none
  startsAt : Option DateTime := none
  expiresAt : Option DateTime := none

/-- An ingestion: its tables, with the leases as they were flushed, their instances, the leases it
has seen, and the calls that have locked. -/
structure Ingestion where
  records : Records
  instances : Table DHCPLeaseHistory
  assignments : Assignments
  seen : List ℕ
  calls : List LockCall

namespace Ingestion

variable (s : Ingestion)

/-- `db.flush()`. -/
def flush : Ingestion := { s with records := { s.records with leases := s.instances } }

/-- `close_ended_dhcp_assignments`, which flushes each row it closes. -/
def closeEnded (providerId : ℕ) (observedAt : DateTime) (leaseIds : Option (List ℕ)) : Ingestion :=
  let calls := closingCalls s.records s.assignments providerId observedAt leaseIds false
  let candidates := endedCandidates s.records s.assignments providerId observedAt leaseIds false
  if calls.isEmpty then s
  else
    { s with
      assignments := closeEndedRows s.instances s.assignments candidates observedAt
      calls := s.calls ++ calls }.flush

/-- `reconcile_dhcp_assignment`, which flushes what it has changed. -/
def reconcile (leaseId : ℕ) (observedAt : DateTime) : Ingestion :=
  let lease := s.instances.row leaseId
  match reconcileTarget s.records s.assignments leaseId lease with
  | .error _ => s
  | .ok (assetId, address) =>
    let (assignments, answer) :=
      reconcileLocked s.records s.assignments leaseId lease assetId address observedAt
    let locked := { s with assignments, calls := s.calls ++ [.scope assetId address] }
    if answer = .reassigned then locked.flush else locked

/-- The active lease of an address. -/
def active (providerId : ℕ) (address : AddressText) : Option ℕ :=
  s.records.leases.newest? (·.lastSeenAt) fun lease ↦
    lease.providerId = some providerId ∧ lease.ipAddress.text = address.text ∧ lease.isActive

/-- `same_identity`. -/
def sameLease (leaseId : ℕ) (item : DhcpItem) : Bool :=
  let lease := s.instances.row leaseId
  (item.mac.isSome && decide (lease.macAddress = item.mac)) ||
    (item.dnsClientId.isSome && decide (lease.dnsClientId = item.dnsClientId))

/-- A lease that ends. -/
def endLease (leaseId : ℕ) (generatedAt : DateTime) : Ingestion :=
  { s with instances := s.instances.modify leaseId fun lease ↦
      { lease with isActive := false, endedAt := some generatedAt } }

/-- A lease that is renewed. -/
def renew (leaseId : ℕ) (item : DhcpItem) (generatedAt : DateTime) : Ingestion :=
  { s with instances := s.instances.modify leaseId fun lease ↦
      { lease with
        dnsClientId := lease.dnsClientId <|> item.dnsClientId
        macAddress := item.mac <|> lease.macAddress
        hostname := item.hostname <|> lease.hostname
        providerLeaseId :=
          if item.dhcpClientId.isSome then item.dhcpClientId
          else if item.providerRecordId.isSome ∧
              lease.providerLeaseId.map (·.text) = item.providerRecordId then none
          else lease.providerLeaseId
        dhcpRangeId := lease.dhcpRangeId <|> item.dhcpRangeId
        lastSeenAt := generatedAt
        expiresAt := item.expiresAt <|> lease.expiresAt } }

/-- A new lease. -/
def insert (providerId : ℕ) (item : DhcpItem) (generatedAt : DateTime) : Ingestion :=
  let lease : DHCPLeaseHistory :=
    { providerId := some providerId
      dnsClientId := item.dnsClientId
      dhcpRangeId := item.dhcpRangeId
      ipAddress := item.address
      macAddress := item.mac
      hostname := item.hostname
      providerLeaseId := item.dhcpClientId
      leaseStartedAt := item.startsAt.getD generatedAt
      firstSeenAt := generatedAt
      lastSeenAt := generatedAt
      expiresAt := item.expiresAt }
  { s with instances := s.instances.insert lease }.flush

/-- The loop of `_persist_dhcp_leases` at one lease, up to its reconciliation: the row of the lease,
in the tables with it. -/
def arrive (providerId : ℕ) (generatedAt : DateTime) (item : DhcpItem) : Option (ℕ × Ingestion) :=
  if item.address.text = "" then none
  else
    match s.active providerId item.address with
    | some leaseId =>
      if s.sameLease leaseId item then some (leaseId, s.renew leaseId item generatedAt)
      else
        -- another identity has the address now
        let closed := (s.endLease leaseId generatedAt).closeEnded providerId generatedAt
          (some [leaseId])
        some (closed.instances.freshKey, closed.insert providerId item generatedAt)
    | none => some (s.instances.freshKey, s.insert providerId item generatedAt)

/-- The loop of `_persist_dhcp_leases` at one lease. -/
def item (providerId : ℕ) (generatedAt : DateTime) (s : Ingestion) (item : DhcpItem) : Ingestion :=
  match s.arrive providerId generatedAt item with
  | none => s
  | some (leaseId, arrived) =>
    let reconciled := arrived.reconcile leaseId generatedAt
    { reconciled with seen := reconciled.seen ++ [leaseId] }

/-- Leases that an authoritative snapshot does not have. -/
def endMissing (providerId : ℕ) (generatedAt : DateTime) : Ingestion :=
  { s with instances := s.instances.mapRows fun id lease ↦
      if (s.records.leases.row id).providerId = some providerId ∧
          (s.records.leases.row id).isActive ∧ id ∈ s.records.leases.ids ∧ id ∉ s.seen then
        { lease with isActive := false, endedAt := some generatedAt }
      else lease }

end Ingestion

/-- `_persist_dhcp_leases` before its first lease. -/
def Ingestion.start (r : Records) (t : Assignments) : Ingestion := ⟨r, r.leases, t, [], []⟩

/-- `_persist_dhcp_leases` up to the closing at its end. -/
def observeLeases (r : Records) (t : Assignments) (providerId : ℕ) (items : List DhcpItem)
    (generatedAt : DateTime) (snapshotAuthoritative : Bool) : Ingestion :=
  let s := items.foldl (Ingestion.item providerId generatedAt) (.start r t)
  if snapshotAuthoritative then s.endMissing providerId generatedAt else s

/-- `_persist_dhcp_leases`. -/
def persistDhcpLeases (r : Records) (t : Assignments) (providerId : ℕ) (items : List DhcpItem)
    (generatedAt : DateTime) (snapshotAuthoritative : Bool) : Ingestion :=
  (observeLeases r t providerId items generatedAt snapshotAuthoritative).closeEnded providerId
    generatedAt none

/-! ### Transactions -/

/-- A transaction, with what it reads. -/
inductive IdentityTransaction
  | confirm (c : Confirmation)
  | repair (r : Records) (request : RepairRequest)
  | adopt (a : Adoption)
  | closeEnded (r : Records) (t : Assignments) (providerId : ℕ) (observedAt : DateTime)
    (leaseIds : Option (List ℕ)) (expiredOnly : Bool)
  | ingest (r : Records) (t : Assignments) (providerId : ℕ) (items : List DhcpItem)
    (generatedAt : DateTime) (snapshotAuthoritative : Bool)

/-- The locks it requests. -/
def IdentityTransaction.locks (keys : LockKeys) : IdentityTransaction → List Lock
  | .confirm c => confirmationLocks keys c
  | .repair r request => repairLocks keys r request
  | .adopt a => adoptionLocks keys a
  | .closeEnded r t providerId observedAt leaseIds expiredOnly =>
    (closingCalls r t providerId observedAt leaseIds expiredOnly).flatMap (·.locks keys)
  | .ingest r t providerId items generatedAt snapshotAuthoritative =>
    (persistDhcpLeases r t providerId items generatedAt snapshotAuthoritative).calls.flatMap
      (·.locks keys)

end Kaya.Assets
