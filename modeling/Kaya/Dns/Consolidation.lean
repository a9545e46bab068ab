import Kaya.Dns.Model
import Kaya.Library.Flush
import Kaya.Library.Grouping
import Kaya.Library.TableSums

/-!
# Consolidation of duplicate DNS clients

`consolidate_strong_identity_duplicates` of `app/services/dns_clients.py`: clients with one MAC
within one logical provider are merged into one of them, with their histories.

**Sessions.** The session does not flush by itself, and it begins with nothing to flush. A history
row that is moved to the survivor is changed as an object only. Deleting a client also deletes the
history rows that its relationships load (`cascade="all, delete-orphan"`), and these are loaded by
the stored `dns_client_id`. The commit writes the objects that are not deleted, and then deletes.

**Outside.** The columns of histories that the merge leaves alone. Observations, events, traffic and
leases are moved by an `UPDATE` at once, so that no relationship of the duplicate loads them; of
these tables only the column `dns_client_id` is kept.
-/

namespace Kaya.Dns

open Kaya.HA (DateTime)
open Kaya.Assets (present)

/-! ### Tables -/

/-- `DNSClientIPHistory` or `DNSClientHostnameHistory`, with the value that a client has once. -/
structure DNSClientHistory where
  dnsClientId : ℕ
  value : String
  firstSeenAt : DateTime
  lastSeenAt : DateTime
  observationCount : ℕ := 1

/-- The histories of one kind. -/
abbrev Histories := Table DNSClientHistory

/-- The tables of the merge. -/
structure ClientTables where
  clients : Table DNSRecognisedDevice
  ipHistory : Histories
  hostnameHistory : Histories
  observations : Table (Option ℕ)
  events : Table (Option ℕ)
  traffic : Table (Option ℕ)
  leases : Table (Option ℕ)

/-! ### Histories -/

/-- The unique constraint of a history. -/
def sameHistory (row row' : DNSClientHistory) : Bool :=
  row.dnsClientId = row'.dnsClientId ∧ row.value = row'.value

/-- The histories as objects, and those that are deleted. -/
structure HistorySession where
  rows : Table (Tracked DNSClientHistory)
  deleted : List ℕ := []

/-- A history that takes over another one. -/
def absorb (existing history : DNSClientHistory) : DNSClientHistory :=
  { existing with
    firstSeenAt := min existing.firstSeenAt history.firstSeenAt
    lastSeenAt := max existing.lastSeenAt history.lastSeenAt
    observationCount := existing.observationCount + history.observationCount }

namespace HistorySession

/-- The session begins on stored rows. -/
def start (t : Histories) : HistorySession where
  rows := t.map fun row ↦ { stored := row }

variable (h : HistorySession) (survivor : ℕ)

/-- `db.query(history_model).filter_by(dns_client_id=client.id)`. -/
def ofClient (client : ℕ) : List ℕ := h.rows.select fun row ↦ row.stored.dnsClientId = client

/-- The query for `existing`. -/
def existing (value : String) : Option ℕ :=
  (h.rows.select fun row ↦
    row.stored.dnsClientId = survivor ∧ row.stored.value = value).head?

/-- A history of a duplicate is taken over, or moved to the survivor. -/
def mergeHistory (id : ℕ) : HistorySession :=
  let history := (h.rows.row id).value
  match h.existing survivor history.value with
  | some existing =>
    { rows := h.rows.edit existing fun row ↦ absorb row history, deleted := h.deleted ++ [id] }
  | none => { h with rows := h.rows.edit id fun row ↦ { row with dnsClientId := survivor } }

/-- The histories of a duplicate. -/
def mergeHistories (duplicate : ℕ) : HistorySession :=
  (h.ofClient duplicate).foldl (fun h id ↦ h.mergeHistory survivor id) h

/-- What `db.delete(client)` does to its histories. -/
def cascade (client : ℕ) : HistorySession := { h with deleted := h.deleted ++ h.ofClient client }

/-- The histories after the commit, unless a constraint is violated. -/
def commit : Option Histories :=
  (h.rows.flush sameHistory (h.rows.ids.filter (· ∉ h.deleted))).map fun rows ↦
    (rows.delete h.deleted).map (·.stored)

end HistorySession

/-! ### Clients -/

/-- The key of a strong identity: the logical provider and the MAC. -/
def strongIdentity (row : DNSRecognisedDevice) : Option (String × String) :=
  row.normalisedMac.map fun mac ↦
    (if row.logicalProviderKey = "" then "provider:" ++ toString row.providerId
      else row.logicalProviderKey, mac)

/-- A client that takes over a duplicate. -/
def mergedClient (survivor duplicate : DNSRecognisedDevice) : DNSRecognisedDevice :=
  let latest := survivor.lastSeenAt ≤ duplicate.lastSeenAt
  { survivor with
    currentIp := if latest then present duplicate.currentIp <|> survivor.currentIp
      else survivor.currentIp
    hostname := if latest then present duplicate.hostname <|> survivor.hostname
      else survivor.hostname
    normalisedHostname :=
      if latest then present duplicate.normalisedHostname <|> survivor.normalisedHostname
      else survivor.normalisedHostname
    observationSource :=
      if latest then present duplicate.observationSource <|> survivor.observationSource
      else survivor.observationSource
    firstSeenAt := min survivor.firstSeenAt duplicate.firstSeenAt
    lastSeenAt := max survivor.lastSeenAt duplicate.lastSeenAt
    observationCount := survivor.observationCount + duplicate.observationCount
    linkedIpRecordId := survivor.linkedIpRecordId <|> duplicate.linkedIpRecordId
    suggestedIpRecordId := survivor.suggestedIpRecordId <|> duplicate.suggestedIpRecordId
    friendlyName := present survivor.friendlyName <|> duplicate.friendlyName
    notes := present survivor.notes <|> duplicate.notes
    isKnown := survivor.isKnown || duplicate.isKnown
    isIgnored := survivor.isIgnored || duplicate.isIgnored }

/-- The session of the merge. -/
structure MergeSession where
  clients : Table DNSRecognisedDevice
  removed : List ℕ := []
  ipHistory : HistorySession
  hostnameHistory : HistorySession
  observations : Table (Option ℕ)
  events : Table (Option ℕ)
  traffic : Table (Option ℕ)
  leases : Table (Option ℕ)

/-- The session begins. -/
def MergeSession.start (t : ClientTables) : MergeSession where
  clients := t.clients
  ipHistory := .start t.ipHistory
  hostnameHistory := .start t.hostnameHistory
  observations := t.observations
  events := t.events
  traffic := t.traffic
  leases := t.leases

/-- `UPDATE … SET dns_client_id = survivor WHERE dns_client_id = duplicate`. -/
def reassign (survivor duplicate : ℕ) (t : Table (Option ℕ)) : Table (Option ℕ) :=
  t.map fun client ↦ if client = some duplicate then some survivor else client

/-- A duplicate is merged into the survivor and deleted. -/
def mergeDuplicate (survivor : ℕ) (s : MergeSession) (duplicate : ℕ) : MergeSession where
  clients := s.clients.modify survivor fun row ↦ mergedClient row (s.clients.row duplicate)
  removed := s.removed ++ [duplicate]
  ipHistory := (s.ipHistory.mergeHistories survivor duplicate).cascade duplicate
  hostnameHistory := (s.hostnameHistory.mergeHistories survivor duplicate).cascade duplicate
  observations := reassign survivor duplicate s.observations
  events := reassign survivor duplicate s.events
  traffic := reassign survivor duplicate s.traffic
  leases := reassign survivor duplicate s.leases

/-- `linked_ids` has at most one element. -/
def isUnambiguousLink (clients : Table DNSRecognisedDevice) (candidates : List ℕ) : Bool :=
  (candidates.filterMap fun id ↦ (clients.row id).linkedIpRecordId).dedup.length ≤ 1

/-- The sort key of `survivor`, without the id. -/
def rank (row : DNSRecognisedDevice) : ℕ :=
  (if row.linkedIpRecordId.isSome then 0 else 2) + if row.isKnown then 0 else 1

/-- `survivor`. -/
def survivorOf (clients : Table DNSRecognisedDevice) (candidates : List ℕ) : Option ℕ :=
  (candidates.insertionSort fun i j ↦ rank (clients.row i) < rank (clients.row j) ∨
    rank (clients.row i) = rank (clients.row j) ∧ i ≤ j).head?

/-- The clients of one identity. -/
def mergeGroup (s : MergeSession) (candidates : List ℕ) : MergeSession :=
  if candidates.length < 2 ∨ isUnambiguousLink s.clients candidates = false then s
  else
    match survivorOf s.clients candidates with
    | none => s
    | some survivor => (candidates.filter (· ≠ survivor)).foldl (mergeDuplicate survivor) s

/-- `groups`: the clients with a MAC, in the order of their ids. -/
def identityGroups (clients : Table DNSRecognisedDevice) :
    Dict (Option (String × String)) (List ℕ) :=
  Dict.groupBy (fun id ↦ strongIdentity (clients.row id))
    ((clients.select fun row ↦ row.normalisedMac.isSome).insertionSort (· ≤ ·))

/-- The commit of the merge. -/
def MergeSession.commit (s : MergeSession) : Option ClientTables := do
  let ipHistory ← s.ipHistory.commit
  let hostnameHistory ← s.hostnameHistory.commit
  return {
    clients := s.clients.delete s.removed
    ipHistory
    hostnameHistory
    observations := s.observations
    events := s.events
    traffic := s.traffic
    leases := s.leases }

/-- `consolidate_strong_identity_duplicates`. -/
def consolidate (t : ClientTables) : Option ClientTables :=
  (((identityGroups t.clients).items.map Prod.snd).foldl mergeGroup (.start t)).commit

end Kaya.Dns
