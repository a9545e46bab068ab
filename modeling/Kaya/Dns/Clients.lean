import Kaya.Dns.LeaseHistory
import Kaya.Library.Flush

/-!
# Observations of DNS clients

`observe_client` of `app/services/dns_clients.py`, with `match_client` and the identity helpers: an
observation is attached to a client that is found by its identity key, by its first identity, by its
MAC, by its provider id or by weaker evidence, or to a new client.

**Sessions.** The session does not flush by itself. A query compares the stored columns of a client
and gives its object, with the changes that are not stored yet (`Tracked`). Adding a client flushes
first. A flush writes the objects in the order of their ids and fails where one violates a unique
constraint; then the call raises and its transaction is rolled back.

**Outside.** The histories, the events and the observation rows of a client (whether the observation
is known already is an input), and what `_suggest_managed_record` does to managed records.
-/

namespace Kaya.Dns

open Kaya.HA (DateTime seconds)
open Kaya.Assets (DHCPLeaseHistory clientMac)

/-- Functions of the standard library. -/
structure Stdlib where
  /-- `ipaddress.ip_address`. -/
  readAddress : String → Option IPAddr
  /-- `str.lower`. -/
  lower : String → String
  /-- `hashlib.sha256(text.encode("utf-8")).hexdigest()[:32]`. -/
  digest : String → String
  /-- `time.date().isoformat()`. -/
  isoDate : DateTime → String

/-! ### Calls -/

/-- `DNSProviderConfig`. -/
structure DNSProviderConfig where
  id : ℕ
  haClusterId : Option ℕ := none

/-- `logical_provider_key`. -/
def logicalProviderKey (provider : DNSProviderConfig) : String :=
  match provider.haClusterId with
  | some cluster => "ha-cluster:" ++ toString cluster
  | none => "provider:" ++ toString provider.id

/-- An observation, with stripped texts. -/
structure Observation where
  /-- Missing for the texts `""` and `"-"`. -/
  ip : Option String := none
  hostname : String := ""
  mac : String := ""
  providerClientId : Option String := none
  source : String := "Pi-hole sync"
  lastSeen : Option DateTime := none
  firstSeen : Option DateTime := none

/-- A call of `observe_client`, with the tables that it reads. -/
structure ObserveCall where
  provider : DNSProviderConfig
  /-- `_provider_scope_ids`. -/
  scopeIds : List ℕ
  observation : Observation
  generatedAt : DateTime
  ranges : List DHCPRange := []
  leases : Leases
  /-- The observation key exists. -/
  isRepeated : Bool := false

/-- The clients, as one session sees them. -/
abbrev Clients := Table (Tracked DNSRecognisedDevice)

/-! ### Identities -/

section

variable (lib : Stdlib)

/-- `normalise_hostname`. -/
def normaliseHostname (value : String) (ip : Option String) : Option String :=
  let clean := lib.lower (String.ofList
    ((PyText.strip value).toList.reverse.dropWhile (· = '.')).reverse)
  if clean ∈ ["", "-", "unknown", "localhost", "none", "null"] ∨
    clean = lib.lower (ip.getD "") then none else some clean

/-- `stable_identity_key`. -/
def stableIdentityKey (mac providerClientId ip : Option String) (hostname : String)
    (observedAt : DateTime) : String :=
  match mac, providerClientId with
  | some mac, _ => "mac:" ++ mac
  | none, some id => "provider-client:" ++ lib.digest id
  | none, none =>
    let weak := (normaliseHostname lib hostname ip).getD "-" ++ "|" ++ ip.getD "-"
    "weak:" ++ lib.digest weak ++ ":" ++ lib.isoDate observedAt

namespace ObserveCall

variable (call : ObserveCall)

/-- `mac`. -/
def mac : Option String := clientMac call.observation.mac

/-- `observed_at`. -/
def observedAt : DateTime := call.observation.lastSeen.getD call.generatedAt

/-- `first_seen`. -/
def firstSeen : DateTime := call.observation.firstSeen.getD call.observedAt

/-- `hostname_key`. -/
def hostnameKey : Option String :=
  normaliseHostname lib call.observation.hostname call.observation.ip

/-- `hostname`. -/
def hostname : Option String := (call.hostnameKey lib).map fun _ ↦ call.observation.hostname

/-- `identity_type`. -/
def identityType : IdentityType :=
  if call.mac.isSome then .mac
  else if call.observation.providerClientId.isSome then .providerClient
  else if (call.hostnameKey lib).isSome ∧ call.observation.ip.isSome then .hostnameIp
  else if call.observation.ip.isSome then .ip
  else .hostname

/-- `identity_key`. -/
def identityKey : String :=
  stableIdentityKey lib call.mac call.observation.providerClientId call.observation.ip
    ((call.hostname lib).getD "") call.observedAt

/-- `identity_value`. -/
def identityValue : String :=
  (call.mac <|> call.observation.providerClientId).getD (call.identityKey lib)

/-- `DNSRecognisedDevice.provider_id.in_(provider_ids)`. -/
def isInScope (row : DNSRecognisedDevice) : Bool := row.providerId ∈ call.scopeIds

/-- `dhcp_range_for_ip(db, ip)` finds a range. -/
def isInDhcpRange : Bool :=
  (call.observation.ip.bind (dhcpRangeFor lib.readAddress call.ranges)).isSome

end ObserveCall

/-! ### Queries -/

/-- `_compatible_mac`. -/
def compatibleMac (client : DNSRecognisedDevice) (mac : Option String) : Bool :=
  match mac, client.normalisedMac <|> client.macAddress.bind clientMac with
  | some mac, some existing => mac = existing
  | _, _ => true

variable (t : Clients) (call : ObserveCall)

/-- The clients in the scope of a provider with these stored columns. -/
def clientsInScope (p : DNSRecognisedDevice → Bool) : List ℕ :=
  t.select fun row ↦ call.isInScope row.stored && p row.stored

/-- `rows[0]` where `len(rows) == 1`. -/
def sole (rows : List ℕ) : Option ℕ :=
  match rows with
  | [id] => some id
  | _ => none

/-- The client of the active lease of the address. -/
def leasedClient : Option ℕ :=
  ((call.leases.newest? (·.lastSeenAt) fun lease ↦
      lease.providerId.any (· ∈ call.scopeIds) ∧ some lease.ipAddress.text = call.observation.ip ∧
        lease.isActive).bind fun id ↦ (call.leases.row id).dnsClientId).filter fun id ↦
    id ∈ t.ids ∧ compatibleMac (t.row id).value call.mac

/-- The clients that had the address and the host name a day ago. -/
def recentClients (hostnameKey : String) : List ℕ :=
  clientsInScope t call fun row ↦ row.currentIp = call.observation.ip ∧
    row.normalisedHostname = some hostnameKey ∧ call.observedAt - seconds 86400 ≤ row.lastSeenAt

/-- The lookups of `match_client` outside a DHCP range. -/
def matchAddress : Option ℕ :=
  (if call.observation.ip.isSome ∧ (call.hostnameKey lib).isSome then
    sole ((clientsInScope t call fun row ↦ row.currentIp = call.observation.ip ∧
      row.normalisedHostname = call.hostnameKey lib).filter fun id ↦
        compatibleMac (t.row id).value call.mac)
  else none) <|>
  (if call.observation.ip.isSome then
    sole ((clientsInScope t call fun row ↦ row.currentIp = call.observation.ip).filter fun id ↦
      compatibleMac (t.row id).value call.mac)
  else none) <|>
  (if (call.hostnameKey lib).isSome ∧ call.mac.isNone then
    (sole (clientsInScope t call fun row ↦
      row.normalisedHostname = call.hostnameKey lib)).filter fun id ↦
        (t.row id).value.normalisedMac.isNone
  else none)

/-- `match_client`. -/
def matchClient : Option ℕ :=
  (call.mac.bind fun mac ↦ t.newest? (·.stored.lastSeenAt) fun row ↦
    call.isInScope row.stored ∧ row.stored.normalisedMac = some mac) <|>
  (call.observation.providerClientId.bind fun id ↦
    (clientsInScope t call fun row ↦ row.providerClientId = some id).head?) <|>
  if call.isInDhcpRange lib then
    leasedClient t call <|> (call.hostnameKey lib).bind fun key ↦ sole (recentClients t call key)
  else matchAddress lib t call

/-- The client with an identity key. -/
def findByKey (key : String) : Option ℕ :=
  (t.select fun row ↦ row.stored.logicalProviderKey = logicalProviderKey call.provider ∧
    row.stored.identityKey = some key).head?

/-- The client that is found for an observation. -/
def findClient : Option ℕ :=
  findByKey t call (call.identityKey lib) <|>
  (if call.mac.isSome ∨ call.observation.providerClientId.isSome then
    (clientsInScope t call fun row ↦ row.identityType = call.identityType lib ∧
      row.identityValue = call.identityValue lib).head?
  else none) <|> matchClient lib t call

/-! ### Flushes -/

/-- The two unique constraints. -/
def sameIdentities (row row' : DNSRecognisedDevice) : Bool :=
  row.providerId = row'.providerId ∧ row.identityType = row'.identityType ∧
      row.identityValue = row'.identityValue ∨
    row.logicalProviderKey = row'.logicalProviderKey ∧ row.identityKey.isSome ∧
      row.identityKey = row'.identityKey

/-- A flush. -/
def flushClients : Option Clients := t.flush sameIdentities t.ids

/-! ### Observations -/

/-- A new client. -/
def newClient : DNSRecognisedDevice where
  providerId := call.provider.id
  logicalProviderKey := logicalProviderKey call.provider
  identityKey := some (call.identityKey lib)
  identityType := call.identityType lib
  identityValue := call.identityValue lib
  hostname := call.hostname lib
  normalisedHostname := call.hostnameKey lib
  currentIp := call.observation.ip
  macAddress := call.mac
  normalisedMac := call.mac
  providerClientId := call.observation.providerClientId
  observationSource := some call.observation.source
  firstSeenAt := call.firstSeen
  lastSeenAt := call.observedAt

/-- A client that is observed again. -/
def observedClient (client : DNSRecognisedDevice) : DNSRecognisedDevice :=
  let hostnameChanges := (call.hostnameKey lib).isSome ∧ client.normalisedHostname.isSome ∧
    client.normalisedHostname ≠ call.hostnameKey lib
  { client with
    logicalProviderKey := logicalProviderKey call.provider
    identityKey :=
      if call.mac.isSome ∨ call.observation.providerClientId.isSome ∨ client.identityKey.isNone then
        some (stableIdentityKey lib (call.mac <|> client.normalisedMac)
          (call.observation.providerClientId <|> client.providerClientId)
          (call.observation.ip <|> client.currentIp)
          ((call.hostname lib <|> client.hostname).getD "") call.observedAt)
      else client.identityKey
    previousIp :=
      if call.observation.ip.isSome ∧ client.currentIp.isSome ∧
        client.currentIp ≠ call.observation.ip then client.currentIp else client.previousIp
    currentIp := call.observation.ip <|> client.currentIp
    previousHostname := if hostnameChanges then client.hostname else client.previousHostname
    hostname := call.hostname lib <|> client.hostname
    normalisedHostname := call.hostnameKey lib <|> client.normalisedHostname
    macAddress := call.mac <|> client.macAddress
    normalisedMac := call.mac <|> client.normalisedMac
    providerClientId := call.observation.providerClientId <|> client.providerClientId
    firstSeenAt := min client.firstSeenAt call.firstSeen
    lastSeenAt := max client.lastSeenAt call.observedAt
    observationSource := some call.observation.source }

/-- The observation is counted once. -/
def countedClient (client : DNSRecognisedDevice) : DNSRecognisedDevice :=
  { client with
    observationCount := client.observationCount + if call.isRepeated then 0 else 1 }

/-- `observe_client`: the clients and the client of the observation, or nothing where it raises. -/
def observeClient : Option (Clients × ℕ) :=
  match findClient lib t call with
  | some id => some (t.edit id (countedClient call ∘ observedClient lib call), id)
  | none => do
    let flushed ← flushClients t
    if flushed.isTaken sameIdentities flushed.freshKey (newClient lib call) then
      let id ← findByKey flushed call (call.identityKey lib)
      return (flushed.edit id (countedClient call ∘ observedClient lib call), id)
    else
      let added := flushed.insert { stored := newClient lib call }
      return (added.edit flushed.freshKey (countedClient call), flushed.freshKey)

end

/-! ### Sequences -/

/-- What happens to the clients. -/
inductive ClientEvent
  | observe (call : ObserveCall)
  | flush

/-- The clients. Initially there are none. -/
def clientMachine (lib : Stdlib) : Machine Clients ClientEvent where
  init t := t.ids = []
  step t
    | .observe call => ((observeClient lib t call).map (·.1)).getD t
    | .flush => (flushClients t).getD t

end Kaya.Dns
