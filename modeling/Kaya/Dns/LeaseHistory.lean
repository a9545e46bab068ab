import Kaya.Assets.MacAddresses
import Kaya.Dns.Model
import Kaya.Library.Machine

/-!
# The history of DHCP leases

`_persist_dhcp_leases` of `app/services/dns_insights.py`: each item of a provider's answer renews
the active row of its address, or ends it and adds a new one. A row holds the times from its
`first_seen_at` to its `last_seen_at`.

**Texts.** An item is given with the values that the loop takes from it, as stripped texts. How
`ipaddress.ip_address` reads a text is a parameter.

**Sessions.** No query sees a change that is not flushed. What the queries here filter by is flushed
by then: a row is ended only where a new one is added, and the new row is flushed at once.

**Outside.** The assignments that are closed and reconciled along the way are those of
`Kaya.Assets`; these calls do not write leases. Where one of them raises, the transaction of the
provider is rolled back (`LeaseSync.raises`).
-/

namespace Kaya.Dns

open Kaya.HA (DateTime)
open Kaya.Assets (FoldedText DHCPLeaseHistory clientMac present)

/-! ### The answer of a provider -/

/-- `expiry_raw`. -/
inductive LeaseExpiry
  | missing
  | malformed
  | at (time : DateTime)
  deriving DecidableEq

/-- `_timestamp(expiry_raw)`. -/
def LeaseExpiry.time : LeaseExpiry → Option DateTime
  | .at time => some time
  | _ => none

/-- An item of the answer. -/
structure LeaseItem where
  address : String
  mac : String := ""
  hostname : String := ""
  /-- Its first 255 characters. -/
  clientId : FoldedText := ⟨"", ""⟩
  /-- Its first 255 characters. -/
  recordId : String := ""
  expiry : LeaseExpiry := .missing
  startedAt : Option DateTime := none

/-- `NormalisedClient`. -/
structure NormalisedClient where
  ip : String
  mac : String := ""
  deviceId : Option ℕ := none

/-- An enabled `DHCPRange`. -/
structure DHCPRange where
  id : ℕ
  startAddress : IPAddr
  endAddress : IPAddr

/-- The arguments of `_persist_dhcp_leases`, and the ranges that it reads. -/
structure LeaseSync where
  leases : List LeaseItem
  clients : List NormalisedClient := []
  ranges : List DHCPRange := []
  generatedAt : DateTime
  snapshotAuthoritative : Bool := false
  raises : Bool := false

/-- `summary`. -/
structure SyncSummary where
  returned : ℕ := 0
  activated : ℕ := 0
  renewed : ℕ := 0
  markedInactive : ℕ := 0
  expired : ℕ := 0
  missingOrZeroExpiry : ℕ := 0
  malformedExpiry : ℕ := 0
  retainedUnverified : ℕ := 0

/-- The lease history. -/
abbrev Leases := Table DHCPLeaseHistory

/-! ### One item -/

/-- `by_mac.get(mac)`: of two clients with one MAC, the dictionary has the later one. -/
def clientByMac (clients : List NormalisedClient) (mac : Option String) : Option ℕ :=
  mac.bind fun mac ↦ (clients.reverse.find? fun row ↦
    row.deviceId.isSome ∧ clientMac row.mac = some mac).bind (·.deviceId)

/-- `by_ip.get(address)`. -/
def clientByIp (clients : List NormalisedClient) (address : String) : Option ℕ :=
  (clients.reverse.find? fun row ↦
    row.deviceId.isSome ∧ row.ip ≠ "" ∧ row.ip ≠ "-" ∧ row.ip = address).bind (·.deviceId)

/-- `client_id`. -/
def LeaseSync.client (sync : LeaseSync) (item : LeaseItem) : Option ℕ :=
  clientByMac sync.clients (clientMac item.mac) <|> clientByIp sync.clients item.address

/-- `provider_lease_id`: dnsmasq reports `*` when a client has no identifier. -/
def LeaseItem.providerLeaseId (item : LeaseItem) : Option FoldedText :=
  if item.clientId.text = "" ∨ item.clientId.text = "*" then none else some item.clientId

section

variable (readAddress : String → Option IPAddr) (providerId : ℕ)

/-- `_dhcp_range_for`. -/
def dhcpRangeFor (ranges : List DHCPRange) (value : String) : Option ℕ :=
  (readAddress value).bind fun parsed ↦ (ranges.find? fun row ↦
    row.startAddress.version = parsed.version ∧ row.startAddress.value ≤ parsed.value ∧
      parsed.value ≤ row.endAddress.value).map (·.id)

/-- The query for `active`. -/
def activeLease (t : Leases) (address : String) : Option ℕ :=
  t.newest? (·.lastSeenAt) fun row ↦
    row.providerId = some providerId ∧ row.ipAddress.text = address ∧ row.isActive

/-- `same_identity`. -/
def sameIdentity (sync : LeaseSync) (item : LeaseItem) (row : DHCPLeaseHistory) : Bool :=
  ((clientMac item.mac).isSome && decide (row.macAddress = clientMac item.mac)) ||
    ((sync.client item).isSome && decide (row.dnsClientId = sync.client item))

/-- The row of a lease that is seen for the first time. -/
def newLease (sync : LeaseSync) (item : LeaseItem) : DHCPLeaseHistory where
  providerId := some providerId
  dnsClientId := sync.client item
  dhcpRangeId := dhcpRangeFor readAddress sync.ranges item.address
  ipAddress := ⟨item.address, readAddress item.address⟩
  macAddress := clientMac item.mac
  hostname := present (some item.hostname)
  providerLeaseId := item.providerLeaseId
  leaseStartedAt := item.startedAt.getD sync.generatedAt
  firstSeenAt := sync.generatedAt
  lastSeenAt := sync.generatedAt
  expiresAt := item.expiry.time

/-- The row of a lease that is seen again. -/
def renewedLease (sync : LeaseSync) (item : LeaseItem) (row : DHCPLeaseHistory) :
    DHCPLeaseHistory :=
  { row with
    dnsClientId := row.dnsClientId <|> sync.client item
    macAddress := clientMac item.mac <|> row.macAddress
    hostname := present (some item.hostname) <|> row.hostname
    providerLeaseId :=
      match item.providerLeaseId with
      | some id => some id
      | none =>
        if item.recordId ≠ "" ∧ row.providerLeaseId.map (·.text) = some item.recordId then none
        else row.providerLeaseId
    dhcpRangeId := row.dhcpRangeId <|> dhcpRangeFor readAddress sync.ranges item.address
    lastSeenAt := sync.generatedAt
    expiresAt := item.expiry.time <|> row.expiresAt }

/-- A row that is ended. -/
def endedLease (now : DateTime) (row : DHCPLeaseHistory) : DHCPLeaseHistory :=
  { row with isActive := false, endedAt := some now }

/-- The loop variables of `_persist_dhcp_leases`. -/
structure SyncState where
  leases : Leases
  seenIds : List ℕ := []
  summary : SyncSummary := {}

/-- What an item adds to the summary, but for what becomes of its row. -/
def SyncSummary.count (summary : SyncSummary) (sync : LeaseSync) (item : LeaseItem) :
    SyncSummary :=
  { summary with
    returned := summary.returned + 1
    expired := summary.expired + (item.expiry.time.filter (· ≤ sync.generatedAt)).toList.length
    missingOrZeroExpiry := summary.missingOrZeroExpiry + if item.expiry = .missing then 1 else 0
    malformedExpiry := summary.malformedExpiry + if item.expiry = .malformed then 1 else 0 }

/-- The loop body for an item with an address. -/
def persistLease (sync : LeaseSync) (s : SyncState) (item : LeaseItem) : SyncState :=
  let active := activeLease providerId s.leases item.address
  let summary := s.summary.count sync item
  match active.filter fun id ↦ sameIdentity sync item (s.leases.row id) with
  | some id =>
    { leases := s.leases.modify id (renewedLease readAddress sync item)
      seenIds := s.seenIds ++ [id]
      summary := { summary with renewed := summary.renewed + 1 } }
  | none =>
    let ended := s.leases.mapRows fun id row ↦
      if active = some id then endedLease sync.generatedAt row else row
    { leases := ended.insert (newLease readAddress providerId sync item)
      seenIds := s.seenIds ++ [ended.freshKey]
      summary :=
        { summary with
          activated := summary.activated + 1
          markedInactive := summary.markedInactive + active.toList.length } }

/-- The items with an address. -/
def LeaseSync.items (sync : LeaseSync) : List LeaseItem := sync.leases.filter (·.address ≠ "")

/-- The active rows of the provider that the answer does not have. -/
def unseenLeases (t : Leases) (seenIds : List ℕ) : List ℕ :=
  t.ids.filter fun id ↦
    (t.row id).providerId = some providerId ∧ (t.row id).isActive ∧ id ∉ seenIds

/-- `_persist_dhcp_leases`. -/
def persistDhcpLeases (t : Leases) (sync : LeaseSync) : Leases × SyncSummary :=
  let s := sync.items.foldl (persistLease readAddress providerId sync) { leases := t }
  let unseen := unseenLeases providerId s.leases s.seenIds
  if sync.snapshotAuthoritative then
    (s.leases.mapRows fun id row ↦ if id ∈ unseen then endedLease sync.generatedAt row else row,
      { s.summary with markedInactive := s.summary.markedInactive + unseen.length })
  else (s.leases, { s.summary with retainedUnverified := unseen.length })

end

/-! ### Ingestions -/

/-- The history, and the time of the last ingestion. -/
structure LeaseState where
  leases : Leases
  clock : DateTime

/-- The ingestions of a provider, that has no lease before. -/
def leaseMachine (readAddress : String → Option IPAddr) (providerId : ℕ) :
    Machine LeaseState LeaseSync where
  init s := ∀ id ∈ s.leases.ids, (s.leases.row id).providerId ≠ some providerId
  step s sync :=
    { leases :=
        if sync.raises then s.leases
        else (persistDhcpLeases readAddress providerId s.leases sync).1
      clock := sync.generatedAt }

end Kaya.Dns
