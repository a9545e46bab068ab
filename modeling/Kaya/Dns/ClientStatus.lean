import Kaya.Assets.MacAddresses
import Kaya.Dns.Model

/-!
# The status of a DNS client, twice

`client_status` of `app/services/dns_clients.py` gives the status of a client to Python, and
`list_clients` filters the list by the same seven statuses in SQL. The query compares nullable
columns, so a condition may be `NULL` (`Option Bool`, with the connectives of SQL), and it compares
the stored text of a MAC address where Python compares what it reads there.

`statuses_agree_iff` says for which clients and records the two agree. They part where a managed
record has **no assignment type** and another address: Python sees a conflict, and the client is in
no list at all. And they part where a MAC address is empty, or **spelt in another way** than pairs
with colons or dashes: Python sees a link, and the client is listed as a conflict.

The list is the one without a search text and without a provider.
-/

namespace Kaya.Dns

open Option List
open Assets (clientMac isLowerHexDigit joinPairs map_joinPairs toLower_of_not_upper upper_cases)
open Kaya.HA (DateTime)

/-! ### Three truth values -/

/-- `NULL` is neither true nor false. -/
abbrev SqlBool := Option Bool

/-- `NOT`. -/
def SqlBool.not (a : SqlBool) : SqlBool := a.map (!·)

/-- `AND`: false as soon as one side is. -/
def SqlBool.and : SqlBool → SqlBool → SqlBool
  | some a, some b => some (a && b)
  | some false, none => some false
  | none, some false => some false
  | _, _ => none

/-- `OR`: true as soon as one side is. -/
def SqlBool.or (a b : SqlBool) : SqlBool := (a.not.and b.not).not

/-- `<>`: unknown as soon as one side is. -/
def sqlNe {α : Type} [DecidableEq α] (a b : Option α) : SqlBool :=
  a.bind fun x ↦ b.map fun y ↦ decide (x ≠ y)

/-- `IS NOT NULL`. -/
def isNotNull {α : Type} (a : Option α) : SqlBool := some a.isSome

/-! ### The two statuses -/

/-- The statuses, in the words of `client_status`. -/
inductive ClientStatus
  | ignored | stale | conflict | linked | suggestedMatch | known | unmanaged
  deriving DecidableEq

/-- `IPAddress`, as far as the statuses read it. -/
structure ManagedRecord where
  address : String
  macAddress : Option String
  assignmentType : Option String

/-- A stored client. An address is never stored as an empty text, a normalised MAC address is what
`normalise_mac` has made of one, and no match has the confidence 0. -/
structure StoredClient extends DNSRecognisedDevice where
  id : ℕ
  matchConfidence : Option ℕ
  ip_ne : currentIp ≠ some ""
  normalised : ∀ mac ∈ normalisedMac, ∃ text, clientMac text = some mac
  confidence_ne : matchConfidence ≠ some 0

/-- The tables. A linked record exists, by the foreign key. -/
structure LinkTables where
  records : Table ManagedRecord
  clients : List StoredClient
  linked : ∀ client ∈ clients, ∀ id ∈ client.linkedIpRecordId, id ∈ records.ids

/-- `client.linked_ip_record`. -/
def LinkTables.managed (db : LinkTables) (client : StoredClient) : Option ManagedRecord :=
  client.linkedIpRecordId.map db.records.row

/-- `client_status`, with the cutoff of the caller's `stale_days`. -/
def clientStatus (managed : Option ManagedRecord) (cutoff : DateTime) (client : StoredClient) :
    ClientStatus :=
  if client.isIgnored then .ignored
  else if client.lastSeenAt < cutoff then .stale
  else match managed with
    | some record =>
      let macConflict := record.macAddress.any fun mac ↦ client.normalisedMac.any fun own ↦
        mac ≠ "" ∧ own ≠ "" ∧ clientMac mac ≠ some own
      let staticIpConflict := client.currentIp.any fun ip ↦
        record.assignmentType ≠ some "Dynamic" ∧ ip ≠ "" ∧ record.address ≠ ip
      if macConflict || staticIpConflict then .conflict else .linked
    | none =>
      if client.matchConfidence.any (· ≠ 0) then .suggestedMatch
      else if client.isKnown then .known else .unmanaged

/-- `func.lower(func.replace(mac, "-", ":"))`. -/
def sqlMac (mac : String) : String :=
  String.ofList ((mac.toList.map fun c ↦ if c = '-' then ':' else c).map Char.toLower)

/-- `mac_conflict` of `list_clients`. -/
def sqlMacConflict (record : ManagedRecord) (client : StoredClient) : SqlBool :=
  (isNotNull record.macAddress).and ((isNotNull client.normalisedMac).and
    (sqlNe (record.macAddress.map sqlMac) client.normalisedMac))

/-- `static_ip_conflict` of `list_clients`. -/
def sqlStaticIpConflict (record : ManagedRecord) (client : StoredClient) : SqlBool :=
  (sqlNe record.assignmentType (some "Dynamic")).and ((isNotNull client.currentIp).and
    (sqlNe (some record.address) client.currentIp))

/-- The filters of `list_clients` on a client and, where the query joins it, its record. -/
def passesFilter (managed : Option ManagedRecord) (cutoff : DateTime) (client : StoredClient) :
    ClientStatus → Bool
  | .ignored => client.isIgnored
  | .stale => !client.isIgnored && decide (client.lastSeenAt < cutoff)
  | .suggestedMatch => !client.isIgnored && decide (client.lastSeenAt ≥ cutoff) &&
      client.linkedIpRecordId.isNone && client.matchConfidence.isSome
  | .known => !client.isIgnored && decide (client.lastSeenAt ≥ cutoff) &&
      client.linkedIpRecordId.isNone && client.matchConfidence.isNone && client.isKnown
  | .unmanaged => !client.isIgnored && decide (client.lastSeenAt ≥ cutoff) &&
      client.linkedIpRecordId.isNone && client.matchConfidence.isNone && !client.isKnown
  | .conflict => managed.any fun record ↦
      !client.isIgnored && decide (client.lastSeenAt ≥ cutoff) &&
        decide ((sqlMacConflict record client).or (sqlStaticIpConflict record client) = some true)
  | .linked => managed.any fun record ↦
      !client.isIgnored && decide (client.lastSeenAt ≥ cutoff) &&
        decide (((sqlMacConflict record client).or (sqlStaticIpConflict record client)).not =
          some true)

/-- `list_clients`: the rows of the query before they are ordered and cut into pages. -/
def listClients (db : LinkTables) (cutoff : DateTime) (status : ClientStatus) :
    List StoredClient :=
  db.clients.filter fun client ↦ passesFilter (db.managed client) cutoff client status

/-- **List and status agree**: the list of a status holds the clients that have it, and `total` is
how many they are. -/
def StatusesAgree (db : LinkTables) (listCutoff cutoff : DateTime) : Prop :=
  ∀ status, (∀ client ∈ db.clients, client ∈ listClients db listCutoff status ↔
      clientStatus (db.managed client) cutoff client = status) ∧
    (listClients db listCutoff status).length =
      db.clients.countP fun client ↦ clientStatus (db.managed client) cutoff client = status

/-! ### The condition -/

/-- A MAC address that the query does not recognise as the client's: it is empty, or it has the same
digits in another spelling. -/
def isMisspelt (mac own : String) : Bool :=
  decide (mac = "") || (decide (clientMac mac = some own) && decide (sqlMac mac ≠ own))

/-- The record and the client have MAC addresses, and they stand to each other as `differ` says. -/
def anyMac (differ : String → String → Bool) (record : ManagedRecord) (client : StoredClient) :
    Bool :=
  record.macAddress.any fun mac ↦ client.normalisedMac.any (differ mac)

/-- The client has an address, and it is not the record's. -/
def addressesDiffer (record : ManagedRecord) (client : StoredClient) : Bool :=
  client.currentIp.any (record.address ≠ ·)

/-- **The record of a client is read alike.** Where the addresses differ, a record without an
assignment type needs MAC addresses that the query sees as different as well; where they do not, or
do not matter, the MAC address must not be misspelt. -/
def ReadAlike (record : ManagedRecord) (client : StoredClient) : Prop :=
  if addressesDiffer record client ∧ record.assignmentType ≠ some "Dynamic" then
    record.assignmentType = none → anyMac (sqlMac · ≠ ·) record client = true
  else anyMac isMisspelt record client = false

/-- **The status of a client is the same in both**: it is ignored; or both cutoffs have it on the
same side, and it is stale or has no record or one that is read alike. -/
def SameStatus (managed : Option ManagedRecord) (listCutoff cutoff : DateTime)
    (client : StoredClient) : Prop :=
  client.isIgnored = true ∨ ((client.lastSeenAt < listCutoff ↔ client.lastSeenAt < cutoff) ∧
    (client.lastSeenAt < cutoff ∨ ∀ record ∈ managed, ReadAlike record client))

/-! ### MAC addresses -/

theorem toLower_toLower (c : Char) : c.toLower.toLower = c.toLower := by
  refine upper_cases (P := fun c ↦ c.toLower.toLower = c.toLower) (by decide) (fun c hc ↦ ?_) c
  rw [toLower_of_not_upper hc, toLower_of_not_upper hc]

theorem toLower_of_isLowerHexDigit {c : Char} (h : isLowerHexDigit c = true) : c.toLower = c := by
  revert h
  refine upper_cases (P := fun c ↦ isLowerHexDigit c = true → c.toLower = c) (by decide) ?_ c
  exact fun c hc _ ↦ toLower_of_not_upper hc

theorem filter_joinPairs {ds : List Char} (h : ds.all isLowerHexDigit = true) :
    (joinPairs ds).filter isLowerHexDigit = ds := by
  induction ds using Assets.joinPairs.induct with
  | case1 => rfl
  | case2 a => exact filter_eq_self.2 (all_eq_true.1 h)
  | case3 a b => exact filter_eq_self.2 (all_eq_true.1 h)
  | case4 a b cs hcs ih =>
    rw [all_cons, all_cons, Bool.and_eq_true, Bool.and_eq_true] at h
    have hcolon : isLowerHexDigit ':' = false := by decide
    rw [Assets.joinPairs.eq_4 a b cs hcs, filter_cons_of_pos h.1, filter_cons_of_pos h.2.1,
      filter_cons_of_neg (by rw [hcolon]; exact Bool.false_ne_true), ih h.2.2]

/-- `normalise_mac` leaves what it has made alone. -/
theorem clientMac_self {text mac : String} (h : clientMac text = some mac) :
    clientMac mac = some mac := by
  rw [clientMac] at h
  have hall : ((text.toList.map Char.toLower).filter isLowerHexDigit).all isLowerHexDigit = true :=
    all_eq_true.2 fun c hc ↦ (mem_filter.1 hc).2
  generalize (text.toList.map Char.toLower).filter isLowerHexDigit = ds at h hall
  split at h
  next hlen =>
    obtain ⟨hmac, hvalid⟩ := filter_eq_some_iff.1 h
    have hlower : ds.map Char.toLower = ds := (map_congr_left fun c hc ↦
      toLower_of_isLowerHexDigit (all_eq_true.1 hall c hc)).trans (map_id _)
    rw [clientMac, ← some.inj hmac, String.toList_ofList, map_joinPairs, hlower,
      filter_joinPairs hall]
    rw [← some.inj hmac] at hvalid
    rw [if_pos hlen]
    exact filter_some_pos hvalid
  · exact absurd h (by simp)

/-- A MAC address that the query recognises is the client's. -/
theorem clientMac_of_sqlMac {text mac own : String} (hown : clientMac text = some own)
    (h : sqlMac mac = own) : clientMac mac = some own := by
  -- The separators are no digits.
  have hdigits : ∀ cs : List Char,
      ((((cs.map fun c ↦ if c = '-' then ':' else c).map Char.toLower).map Char.toLower).filter
        isLowerHexDigit) = (cs.map Char.toLower).filter isLowerHexDigit := by
    intro cs
    induction cs with
    | nil => rfl
    | cons c cs ih =>
      by_cases hc : c = '-'
      · subst hc
        exact ih
      · simp only [map_cons, filter_cons, ih, if_neg hc, toLower_toLower]
  rw [← clientMac_self hown, ← h, clientMac, clientMac, sqlMac, String.toList_ofList, hdigits]

/-! ### The two sides -/

section Agreement

variable {record : ManagedRecord} {client : StoredClient} {managed : Option ManagedRecord}
  {listCutoff cutoff : DateTime}

/-- The status in whose list the query has a client, if there is one. -/
def sqlStatus (managed : Option ManagedRecord) (cutoff : DateTime) (client : StoredClient) :
    Option ClientStatus :=
  if client.isIgnored then some .ignored
  else if client.lastSeenAt < cutoff then some .stale
  else match managed with
    | some record =>
      ((sqlMacConflict record client).or (sqlStaticIpConflict record client)).map fun conflict ↦
        if conflict then .conflict else .linked
    | none =>
      if client.matchConfidence.isSome then some .suggestedMatch
      else if client.isKnown then some .known else some .unmanaged

theorem passesFilter_iff (hman : managed.isNone = client.linkedIpRecordId.isNone)
    (status : ClientStatus) :
    passesFilter managed cutoff client status = true ↔
      sqlStatus managed cutoff client = some status := by
  unfold sqlStatus
  by_cases hignored : client.isIgnored = true
  · rw [if_pos hignored]
    cases status <;> simp [passesFilter, hignored]
  rw [if_neg hignored]
  by_cases hstale : client.lastSeenAt < cutoff
  · rw [if_pos hstale]
    cases status <;> simp [passesFilter, hignored, hstale, not_le.2 hstale]
  rw [if_neg hstale]
  cases managed with
  | none =>
    have hnone : client.linkedIpRecordId.isNone = true := hman.symm
    cases hconfidence : client.matchConfidence <;> cases hknown : client.isKnown <;>
      cases status <;>
      simp [passesFilter, hignored, hstale, not_lt.1 hstale, hnone, hconfidence, hknown]
  | some record =>
    have hsome : client.linkedIpRecordId.isNone = false := hman.symm
    rcases (sqlMacConflict record client).or (sqlStaticIpConflict record client) with _ | _ | _ <;>
      cases status <;>
      simp [passesFilter, hignored, hstale, not_lt.1 hstale, hsome, SqlBool.not]

theorem sqlMacConflict_eq :
    sqlMacConflict record client = some (anyMac (sqlMac · ≠ ·) record client) := by
  unfold sqlMacConflict anyMac
  cases record.macAddress <;> cases client.normalisedMac <;>
    simp [SqlBool.and, isNotNull, sqlNe]

theorem sqlStaticIpConflict_eq :
    sqlStaticIpConflict record client = if addressesDiffer record client then
      record.assignmentType.map fun type ↦ decide (type ≠ "Dynamic") else some false := by
  unfold sqlStaticIpConflict addressesDiffer
  cases record.assignmentType with
  | none =>
    cases client.currentIp with
    | none => rfl
    | some ip => by_cases hip : record.address = ip <;> simp [SqlBool.and, isNotNull, sqlNe, hip]
  | some type =>
    cases client.currentIp with
    | none => simp [SqlBool.and, isNotNull, sqlNe]
    | some ip => by_cases hip : record.address = ip <;> simp [SqlBool.and, isNotNull, sqlNe, hip]

/-- Python sees two MAC addresses. -/
def readDiffer (mac own : String) : Bool := mac ≠ "" ∧ clientMac mac ≠ some own

/-- What Python sees of a linked client. -/
theorem clientStatus_linked (hignored : ¬ client.isIgnored = true)
    (hrecent : ¬ client.lastSeenAt < cutoff) :
    clientStatus (some record) cutoff client = if anyMac readDiffer record client ||
        (addressesDiffer record client && decide (record.assignmentType ≠ some "Dynamic")) then
        .conflict else .linked := by
  unfold clientStatus anyMac addressesDiffer readDiffer
  rw [if_neg hignored, if_neg hrecent]
  have hmac : ∀ mac, (client.normalisedMac.any fun own ↦
      decide (mac ≠ "" ∧ own ≠ "" ∧ clientMac mac ≠ some own)) =
        client.normalisedMac.any fun own ↦ decide (mac ≠ "" ∧ clientMac mac ≠ some own) := by
    intro mac
    cases hown : client.normalisedMac with
    | none => rfl
    | some own =>
      have hne : own ≠ "" := by
        rintro rfl
        obtain ⟨text, htext⟩ := client.normalised "" hown
        exact absurd (clientMac_self htext) (by decide)
      simp [hne]
  have haddr : (client.currentIp.any fun ip ↦
      decide (record.assignmentType ≠ some "Dynamic" ∧ ip ≠ "" ∧ record.address ≠ ip)) =
        (client.currentIp.any (fun ip ↦ decide (record.address ≠ ip)) &&
          decide (record.assignmentType ≠ some "Dynamic")) := by
    cases hip : client.currentIp with
    | none => rfl
    | some ip =>
      have hne : ip ≠ "" := fun h ↦ client.ip_ne (h ▸ hip)
      simp [hne, Bool.and_comm]
  simp only [hmac, haddr]

/-- A misspelt MAC address is one that only the query takes for another, and what Python takes for
another, the query does as well. -/
theorem anyMac_isMisspelt :
    anyMac isMisspelt record client =
        (anyMac (sqlMac · ≠ ·) record client && !anyMac readDiffer record client) ∧
      (anyMac readDiffer record client = true → anyMac (sqlMac · ≠ ·) record client = true) := by
  unfold anyMac
  cases record.macAddress with
  | none => simp
  | some mac =>
    cases hown : client.normalisedMac with
    | none => simp
    | some own =>
      obtain ⟨text, htext⟩ := client.normalised own hown
      have hread : sqlMac mac = own → clientMac mac = some own := clientMac_of_sqlMac htext
      have hempty : mac = "" → sqlMac mac ≠ own := by
        rintro rfl h
        exact absurd (hread h) (by simp [show clientMac "" = none by decide])
      simp only [any_some, isMisspelt, readDiffer]
      by_cases hmac : mac = ""
      · subst hmac
        simp [hempty rfl]
      · by_cases hsame : sqlMac mac = own
        · simp [hmac, hsame, hread hsame]
        · simp [hmac, hsame]

/-- A client that Python has not found stale is not stale. -/
theorem clientStatus_ne_stale (hignored : ¬ client.isIgnored = true)
    (hrecent : ¬ client.lastSeenAt < cutoff) : clientStatus managed cutoff client ≠ .stale := by
  unfold clientStatus
  rw [if_neg hignored, if_neg hrecent]
  cases managed with
  | none =>
    dsimp only
    split_ifs <;> exact ClientStatus.noConfusion
  | some record =>
    dsimp only
    split_ifs <;> exact ClientStatus.noConfusion

/-- Which linked clients are listed under their status. -/
theorem readAlike_iff (hignored : ¬ client.isIgnored = true)
    (hlist : ¬ client.lastSeenAt < listCutoff) (hrecent : ¬ client.lastSeenAt < cutoff) :
    sqlStatus (some record) listCutoff client = some (clientStatus (some record) cutoff client) ↔
      ReadAlike record client := by
  obtain ⟨hmisspelt, hsees⟩ := @anyMac_isMisspelt record client
  rw [sqlStatus, if_neg hignored, if_neg hlist, clientStatus_linked hignored hrecent, ReadAlike,
    hmisspelt, sqlMacConflict_eq, sqlStaticIpConflict_eq]
  generalize anyMac (sqlMac · ≠ ·) record client = differ at *
  generalize anyMac readDiffer record client = read at *
  generalize addressesDiffer record client = moved
  cases record.assignmentType with
  | none =>
    cases moved <;> cases differ <;> cases read <;> simp [SqlBool.or, SqlBool.and, SqlBool.not] at *
  | some type =>
    by_cases htype : type = "Dynamic" <;> cases moved <;> cases differ <;> cases read <;>
      simp [SqlBool.or, SqlBool.and, SqlBool.not, htype] at *

theorem sqlStatus_eq_iff : sqlStatus managed listCutoff client =
    some (clientStatus managed cutoff client) ↔ SameStatus managed listCutoff cutoff client := by
  unfold SameStatus
  by_cases hignored : client.isIgnored = true
  · simp [sqlStatus, clientStatus, hignored]
  by_cases hlist : client.lastSeenAt < listCutoff
  · have hsql : sqlStatus managed listCutoff client = some .stale := by
      simp only [sqlStatus, if_neg hignored, if_pos hlist]
    by_cases hstale : client.lastSeenAt < cutoff
    · simp [hsql, clientStatus, hignored, hlist, hstale]
    · have hne := @clientStatus_ne_stale _ managed _ hignored hstale
      simp [hsql, hignored, hlist, hstale, hne.symm]
  by_cases hstale : client.lastSeenAt < cutoff
  · have hpython : clientStatus managed cutoff client = .stale := by
      simp only [clientStatus, if_neg hignored, if_pos hstale]
    simp only [hpython, sqlStatus, if_neg hignored, if_neg hlist]
    refine iff_of_false ?_ (by simp [hignored, hlist, hstale])
    cases managed with
    | none =>
      dsimp only
      split_ifs <;> simp
    | some record =>
      dsimp only
      generalize (sqlMacConflict record client).or (sqlStaticIpConflict record client) = conflict
      rcases conflict with _ | _ | _ <;> simp
  cases managed with
  | none =>
    have hconfidence : client.matchConfidence.any (· ≠ 0) = client.matchConfidence.isSome := by
      cases hc : client.matchConfidence with
      | none => rfl
      | some n =>
        have hne : n ≠ 0 := fun h ↦ client.confidence_ne (h ▸ hc)
        simp [hne]
    simp only [sqlStatus, clientStatus, hconfidence]
    refine iff_of_true ?_ (by simp [hlist, hstale])
    rw [if_neg hignored, if_neg hlist, if_neg hignored, if_neg hstale]
    split_ifs <;> rfl
  | some record =>
    rw [readAlike_iff hignored hlist hstale]
    simp [hignored, hlist, hstale]

end Agreement

/-- **The lists and the statuses agree** exactly where the status of every client is the same in
both. -/
theorem statuses_agree_iff (db : LinkTables) (listCutoff cutoff : DateTime) :
    StatusesAgree db listCutoff cutoff ↔
      ∀ client ∈ db.clients, SameStatus (db.managed client) listCutoff cutoff client := by
  have hpasses : ∀ client status, passesFilter (db.managed client) listCutoff client status = true ↔
      sqlStatus (db.managed client) listCutoff client = some status := fun client ↦
    passesFilter_iff (isNone_map)
  constructor
  · intro h client hclient
    obtain ⟨hlisted, -⟩ := h (clientStatus (db.managed client) cutoff client)
    rw [← sqlStatus_eq_iff, ← hpasses]
    exact (mem_filter.1 ((hlisted client hclient).2 rfl)).2
  · intro h status
    have hsame : ∀ client ∈ db.clients, passesFilter (db.managed client) listCutoff client status =
        decide (clientStatus (db.managed client) cutoff client = status) := by
      intro client hclient
      rw [Bool.eq_iff_iff, hpasses, sqlStatus_eq_iff.2 (h client hclient), decide_eq_true_iff,
        some.injEq]
    refine ⟨fun client hclient ↦ ?_, ?_⟩
    · rw [listClients, mem_filter, hsame client hclient, decide_eq_true_iff]
      exact and_iff_right hclient
    · rw [listClients, ← countP_eq_length_filter]
      exact countP_congr fun client hclient ↦ by rw [hsame client hclient]

/-! ### A linked client -/

/-- A client at 192.0.2.7 that is linked to a record. -/
def linkedClient : StoredClient where
  providerId := 1
  logicalProviderKey := "pihole"
  identityKey := none
  identityType := .mac
  identityValue := "aa:bb:cc:dd:ee:ff"
  currentIp := some "192.0.2.7"
  normalisedMac := some "aa:bb:cc:dd:ee:ff"
  linkedIpRecordId := some 1
  firstSeenAt := 0
  lastSeenAt := 0
  id := 1
  matchConfidence := none
  ip_ne := by decide
  normalised mac hmac := ⟨mac, by rw [← Option.some.inj hmac]; decide +kernel⟩
  confidence_ne := by decide

/-- The client and its record. -/
def linkedTables (record : ManagedRecord) : LinkTables where
  records := ⟨[1], fun _ ↦ record, HA.nodup_one⟩
  clients := [linkedClient]
  linked client hclient id hid := by
    rw [List.mem_singleton.1 hclient] at hid
    exact List.mem_singleton.2 (Option.some.inj hid).symm

/-- **A conflict that is in no list**, since its record has no assignment type; and **a link that is
listed as a conflict**, since the MAC address of its record is written with dots. -/
theorem statuses_disagree :
    ¬ StatusesAgree (linkedTables ⟨"192.0.2.9", none, none⟩) 0 0 ∧
      ¬ StatusesAgree (linkedTables ⟨"192.0.2.7", some "aabb.ccdd.eeff", some "Static"⟩) 0 0 :=
  ⟨fun h ↦ absurd (h .conflict).2 (by decide +kernel),
    fun h ↦ absurd (h .linked).2 (by decide +kernel)⟩

end Kaya.Dns
