import Kaya.Assets.Assignments
import Kaya.Assets.MacAddresses
import Kaya.Dns.Model
import Kaya.Library.TableSums
import Mathlib.Data.List.Dedup

/-!
# Resolution of an observed address

`resolve_observed_ip` of `asset_identity_resolution.py`. Four gatherers turn rows into candidates:
confirmed assignments of the address, confirmed identity evidence, leases and DNS observations. Each
first takes the rows that its query selects, no more than the limit, and then drops those that do
not fit; the four lists one after another are cut at the limit again. `_finish` calls the result
ambiguous when the candidates that are left name two assets.

So an ambiguity is not seen when the rows that show it are cut off. `Shown` says which rows are not,
by their positions, and `safeResolution_iff` when this cannot happen, for all limits at once.
-/

namespace Kaya.Assets

open List
open Kaya.HA (DateTime)

/-! ### Rows and queries -/

/-- The tables that the resolver reads. -/
structure ResolverTables where
  assignments : Assignments
  evidence : Table AssetIdentityEvidence
  leases : Table DHCPLeaseHistory
  clients : Table Dns.DNSRecognisedDevice
  observations : Table Dns.DNSClientObservation
  vlans : Table VLAN
  /-- `dhcp_range.vlan_id`. -/
  rangeVlan : ℕ → Option ℕ
  /-- The column `source` of a lease. -/
  leaseSource : ℕ → Option String

/-- The arguments of `resolve_observed_ip`. The text of the address is its compressed one. -/
structure ObservedQuery where
  address : AddressText
  observedAt : DateTime
  vlanId : Option ℕ := none
  sourceId : Option ℕ := none
  exporterIdentity : Option String := none
  endpointRole : Option String := none
  macAddress : Option String := none
  dhcpClientId : Option FoldedText := none
  providerClientId : Option FoldedText := none
  hostname : Option FoldedText := none
  sourceScope : Option String := none

/-- `MATCH_STATES`. -/
inductive MatchState
  | confirmedMatch
  | suggestedMatch
  | ambiguous
  | unresolved
  | stale
  deriving DecidableEq

/-- `EvidenceCandidate`. -/
structure EvidenceCandidate where
  assetId : Option ℕ
  matchState : MatchState
  evidenceSource : String
  evidenceType : String
  normalisedReference : Option String
  sourceScope : Option String := none
  vlanId : Option ℕ := none
  exporterIdentity : Option String := none
  intervalStart : Option DateTime := none
  intervalEnd : Option DateTime := none
  reason : String
  reviewRequired : Bool

/-- `ResolutionResult`. -/
structure ResolutionResult where
  state : MatchState
  candidates : List EvidenceCandidate
  reasons : List String

/-- `.limit(limit)`, where there is one. -/
def limited {α : Type} (limit : Option ℕ) (rows : List α) : List α :=
  match limit with
  | some n => rows.take n
  | none => rows

/-! ### The gatherers -/

/-- `_contains`. -/
def containsTime (start : DateTime) (stop : Option DateTime) (observedAt : DateTime) : Bool :=
  start ≤ observedAt ∧ stop.all (observedAt < ·)

/-- `_same_context`. -/
def sameContext (q : ObservedQuery) (row : AssetNetworkAssignment) : Bool :=
  (q.vlanId = none ∨ row.vlanId = q.vlanId) ∧ (q.sourceId = none ∨ row.sourceId = q.sourceId) ∧
    (q.exporterIdentity = none ∨ row.exporterIdentity = q.exporterIdentity)

/-- The network of an assignment is still that of its VLAN. -/
def networkIsCurrent (db : ResolverTables) (row : AssetNetworkAssignment) : Bool :=
  match row.vlanId with
  | none => true
  | some vlanId =>
    match present row.networkCidr, ((db.vlans.get? vlanId).bind fun vlan ↦
        present vlan.subnetCidr) with
    | some cidr, some current => PyText.strip cidr = PyText.strip current
    | _, _ => false

/-- The query of `_assignment_candidates`. -/
def assignmentRows (db : ResolverTables) (q : ObservedQuery) : List AssetNetworkAssignment :=
  (db.assignments.rows (db.assignments.select fun row ↦
    q.address.address = some row.address ∧ row.addressFamily = row.address.version ∧
      row.status = .confirmed ∧ row.assetId.isSome)).insertionSort fun a b ↦
        b.startedAt ≤ a.startedAt

/-- What `_assignment_candidates` makes of a row. -/
def assignmentCandidate (db : ResolverTables) (q : ObservedQuery) (row : AssetNetworkAssignment) :
    Option EvidenceCandidate :=
  if sameContext q row ∧ containsTime row.startedAt row.endedAt q.observedAt ∧
      networkIsCurrent db row then
    some
      { assetId := row.assetId
        matchState := .confirmedMatch
        evidenceSource := row.provenance
        evidenceType := "network_assignment"
        normalisedReference := q.address.text
        vlanId := row.vlanId
        exporterIdentity := row.exporterIdentity
        intervalStart := row.startedAt
        intervalEnd := row.endedAt
        reason := "administrator-confirmed network assignment matches address, time and context"
        reviewRequired := false }
  else none

/-- `.strip().casefold()`, where there is a text. -/
def foldedValue (value : Option FoldedText) : Option String :=
  (value.filter (·.text ≠ "")).map (·.folded)

/-- The clauses of `_evidence_candidates`. -/
def evidenceClauses (q : ObservedQuery) : List (EvidenceType × String) :=
  [(.mac, q.macAddress.bind resolutionMac), (.dhcpClientId, foldedValue q.dhcpClientId),
    (.providerClientId, foldedValue q.providerClientId), (.hostname, foldedValue q.hostname)]
    |>.filterMap fun clause ↦
      (clause.2.filter fun value ↦ value ≠ "" ∧ value.length ≤ 255).map (clause.1, ·)

/-- `source_scope or exporter_identity`. -/
def queryScope (q : ObservedQuery) : Option String :=
  (present q.sourceScope).orElse fun _ ↦ present q.exporterIdentity

/-- The query of `_evidence_candidates`. -/
def evidenceRows (db : ResolverTables) (q : ObservedQuery) : List AssetIdentityEvidence :=
  db.evidence.rows ((db.evidence.select fun row ↦
    (row.evidenceType, row.normalisedValue) ∈ evidenceClauses q ∧ row.status = .confirmed ∧
      (queryScope q = none ∨ row.sourceScope = queryScope q ∨ row.sourceScope = none)).insertionSort
        (· ≤ ·))

/-- What `_evidence_candidates` makes of a row. -/
def evidenceCandidate (row : AssetIdentityEvidence) : Option EvidenceCandidate :=
  if row.assetId.isSome then
    some
      { assetId := row.assetId
        matchState := .confirmedMatch
        evidenceSource := row.source
        evidenceType := row.evidenceType.text
        normalisedReference := row.normalisedValue
        sourceScope := row.sourceScope
        intervalStart := row.firstObservedAt
        intervalEnd := row.lastObservedAt
        reason :=
          "confirmed identity evidence matches the supplied observation; " ++
            "administrator review is required"
        reviewRequired := false }
  else none

/-- The query of `_dhcp_candidates`, with the keys of the leases. -/
def leaseRows (db : ResolverTables) (q : ObservedQuery) : List ℕ :=
  (db.leases.select fun row ↦
    row.ipAddress.text = q.address.text ∧ row.leaseStartedAt ≤ q.observedAt).insertionSort
      fun i j ↦ (db.leases.row j).lastSeenAt ≤ (db.leases.row i).lastSeenAt

/-- What `_dhcp_candidates` makes of a lease. -/
def leaseCandidate (db : ResolverTables) (q : ObservedQuery) (leaseId : ℕ) :
    Option EvidenceCandidate :=
  let lease := db.leases.row leaseId
  let stop := lease.endedAt.orElse fun _ ↦ lease.expiresAt
  let client := lease.dnsClientId.bind db.clients.get?
  if stop.all (q.observedAt < ·) then
    (client.bind (·.hardwareAssetId)).map fun assetId ↦
      let isKnown := client.any (·.isKnown)
      { assetId := some assetId
        matchState := if isKnown then .confirmedMatch else .suggestedMatch
        evidenceSource := "dhcp"
        evidenceType := "dhcp_lease"
        normalisedReference :=
          (lease.macAddress.bind resolutionMac).orElse fun _ ↦ lease.providerLeaseId.map (·.text)
        sourceScope := db.leaseSource leaseId
        vlanId := lease.dhcpRangeId.bind db.rangeVlan
        intervalStart := lease.leaseStartedAt
        intervalEnd := stop
        reason :=
          if isKnown then
            "time-valid DHCP lease is associated with an existing DNS-recognised asset"
          else "DHCP lease provides a reviewable asset hint"
        reviewRequired := !isKnown }
  else none

/-- The query of `_dns_candidates`, joined with the clients. -/
def observationRows (db : ResolverTables) (q : ObservedQuery) : List Dns.DNSClientObservation :=
  (db.observations.rows (db.observations.select fun row ↦
    row.dnsClientId ∈ db.clients.ids ∧ row.ipAddress = some q.address.text ∧
      row.observedAt ≤ q.observedAt)).insertionSort fun a b ↦ b.observedAt ≤ a.observedAt

/-- What `_dns_candidates` makes of an observation. -/
def observationCandidate (db : ResolverTables) (row : Dns.DNSClientObservation) :
    Option EvidenceCandidate :=
  let client := db.clients.row row.dnsClientId
  client.hardwareAssetId.map fun assetId ↦
    { assetId := some assetId
      matchState := if client.isKnown then .confirmedMatch else .suggestedMatch
      evidenceSource := "dns"
      evidenceType := "dns_client"
      normalisedReference :=
        (present client.providerClientId).orElse fun _ ↦
          (present client.normalisedMac).orElse fun _ ↦ client.normalisedHostname
      sourceScope := some client.logicalProviderKey
      intervalStart := row.observedAt
      reason :=
        if client.isKnown then
          "DNS-recognised client is linked to an existing asset in the observed time context"
        else "DNS client link is a reviewable hint"
      reviewRequired := !client.isKnown }

/-- The candidates of the four gatherers, each with the limit of its query. -/
def candidates (db : ResolverTables) (q : ObservedQuery) (limit : Option ℕ) :
    List EvidenceCandidate :=
  (limited limit (assignmentRows db q)).filterMap (assignmentCandidate db q) ++
    (limited limit (evidenceRows db q)).filterMap evidenceCandidate ++
    (limited limit (leaseRows db q)).filterMap (leaseCandidate db q) ++
    (limited limit (observationRows db q)).filterMap (observationCandidate db)

/-! ### The result -/

/-- The assets that candidates name. -/
def assetsOf (rows : List EvidenceCandidate) : List ℕ := (rows.filterMap (·.assetId)).dedup

/-- `_finish`. -/
def finish (candidates : List EvidenceCandidate) (reasons : List String) (limit : ℕ) :
    ResolutionResult :=
  let rows := candidates.take limit
  if 1 < (assetsOf rows).length then
    { state := .ambiguous
      candidates := rows.map ({ · with matchState := .ambiguous, reviewRequired := true })
      reasons := reasons.dedup }
  else
    { state :=
        if rows = [] then .unresolved
        else if rows.any (·.matchState = .confirmedMatch) then .confirmedMatch
        else if rows.any (·.matchState = .stale) then .stale
        else .suggestedMatch
      candidates := rows
      reasons := reasons.dedup }

/-- `ORIGINAL_ENDPOINT_ROLES`. -/
def originalEndpointRoles : List String := ["original", "initiator", "responder"]

/-- `MAX_CANDIDATES`. -/
def maxCandidates : ℕ := 100

/-- `resolve_observed_ip`. -/
def resolveObservedIp (db : ResolverTables) (q : ObservedQuery) (limit : ℕ) :
    Except String ResolutionResult := do
  require (1 ≤ limit ∧ limit ≤ maxCandidates) "Candidate limit must be between 1 and 100."
  require q.address.address.isSome "Observed address must be a valid IPv4 or IPv6 address."
  if (present q.endpointRole).any (· ∉ originalEndpointRoles) then
    pure (finish [] ["translated_or_unsupported_endpoint_role_is_review_only"] limit)
  else if q.sourceId.isSome ∧ present q.exporterIdentity = none then
    pure (finish [] ["source_scoped_observations_require_exporter_identity"] limit)
  else
    let rows := candidates db q (some limit)
    pure (finish rows
      (if rows = [] then ["no time-valid confirmed or reviewable evidence matched"] else []) limit)

/-! ### Ambiguity -/

/-- No limit confirms one asset where the rows name two, and a higher limit confirms no asset that
a lower one did not name. -/
def SafeResolution (db : ResolverTables) (q : ObservedQuery) : Prop :=
  (∀ limit result, resolveObservedIp db q limit = .ok result →
    1 < (assetsOf (candidates db q none)).length → result.state ≠ .confirmedMatch) ∧
  (∀ limit limit' result result', limit ≤ limit' → resolveObservedIp db q limit = .ok result →
    resolveObservedIp db q limit' = .ok result' → result.state ≠ .unresolved →
    result'.state = .confirmedMatch → ∀ a ∈ assetsOf result'.candidates,
      a ∈ assetsOf result.candidates)

/-- The query is one that is looked up. -/
def ObservedQuery.IsLookup (q : ObservedQuery) : Prop :=
  q.address.address.isSome ∧ ¬ (present q.endpointRole).any (· ∉ originalEndpointRoles) ∧
    ¬ (q.sourceId.isSome ∧ present q.exporterIdentity = none)

/-- The rows of the four queries, in order: what is made of each, where it fits. -/
def queriedRows (db : ResolverTables) (q : ObservedQuery) :
    List (List (Option EvidenceCandidate)) :=
  [(assignmentRows db q).map (assignmentCandidate db q),
    (evidenceRows db q).map evidenceCandidate, (leaseRows db q).map (leaseCandidate db q),
    (observationRows db q).map (observationCandidate db)]

/-- How many rows fit. -/
def fitting {α : Type} (rows : List (Option α)) : ℕ := rows.countP (·.isSome)

/-- A row that fits is shown at a limit: its position in its query is below the limit, and fewer
than `most` rows that fit come before it, in its query and among the first `limit` of those
before. -/
def Shown {α : Type} (queries : List (List (Option α))) (limit most : ℕ) (c : α) : Prop :=
  ∃ before rows after, queries = before ++ rows :: after ∧ ∃ p < limit, rows[p]? = some (some c) ∧
    (before.map fun l ↦ fitting (l.take limit)).sum + fitting (rows.take p) < most

/-- Where a confirmed row is shown and some row, however far down, is of another asset, a row of
another asset is shown too. -/
def NothingHidden (db : ResolverTables) (q : ObservedQuery) : Prop :=
  q.IsLookup → ∀ limit, 1 ≤ limit → limit ≤ maxCandidates →
    ∀ c, Shown (queriedRows db q) limit limit c → c.matchState = .confirmedMatch →
      ∀ rows ∈ queriedRows db q, ∀ c', some c' ∈ rows → c'.assetId ≠ c.assetId →
        ∃ c'', Shown (queriedRows db q) limit limit c'' ∧ c''.assetId ≠ c.assetId

/-- What is shown of one query. -/
theorem mem_take_filterMap {α : Type} {rows : List (Option α)} {limit most : ℕ} {c : α} :
    c ∈ ((rows.take limit).filterMap id).take most ↔
      ∃ p < limit, rows[p]? = some (some c) ∧ fitting (rows.take p) < most := by
  induction rows generalizing limit most with
  | nil => simp
  | cons row rows ih =>
    cases limit with
    | zero => simp
    | succ limit =>
      rw [take_succ_cons, Nat.exists_lt_succ_left]
      cases row with
      | none =>
        rw [filterMap_cons_none rfl, ih]
        simp [fitting]
      | some c' =>
        cases most with
        | zero => simp
        | succ most =>
          rw [filterMap_cons_some (f := id) rfl, take_succ_cons, mem_cons, ih]
          simp [fitting, eq_comm]

/-- What is shown of several. -/
theorem shown_iff {α : Type} {queries : List (List (Option α))} {limit most : ℕ} {c : α} :
    Shown queries limit most c ↔
      c ∈ (queries.flatMap fun rows ↦ (rows.take limit).filterMap id).take most := by
  induction queries generalizing most with
  | nil => simp [Shown]
  | cons rows queries ih =>
    have hlen : ((rows.take limit).filterMap id).length = fitting (rows.take limit) :=
      length_filterMap_eq_countP
    rw [flatMap_cons, take_append, mem_append, mem_take_filterMap, ← ih, hlen]
    constructor
    · rintro ⟨before, rows', after, heq, p, hp, hrow, hcount⟩
      rcases before with - | ⟨first, before⟩
      · obtain ⟨rfl, rfl⟩ := cons.inj heq
        exact .inl ⟨p, hp, hrow, by simpa using hcount⟩
      · obtain ⟨rfl, rfl⟩ := cons.inj heq
        refine .inr ⟨before, rows', after, rfl, p, hp, hrow, ?_⟩
        rw [map_cons, sum_cons] at hcount
        omega
    · rintro (⟨p, hp, hrow, hcount⟩ | ⟨before, rows', after, rfl, p, hp, hrow, hcount⟩)
      · exact ⟨[], rows, queries, rfl, p, hp, hrow, by simpa using hcount⟩
      · refine ⟨rows :: before, rows', after, rfl, p, hp, hrow, ?_⟩
        rw [map_cons, sum_cons]
        omega

variable {db : ResolverTables} {q : ObservedQuery}
  {limit : ℕ} {c : EvidenceCandidate} {rows : List EvidenceCandidate} {reasons : List String}

/-- Every candidate names an asset. -/
theorem isSome_of_mem_candidates {limit : Option ℕ}
    (h : c ∈ candidates db q limit) : ∃ a, c.assetId = some a := by
  rw [candidates, mem_append, mem_append, mem_append] at h
  obtain ((h | h) | h) | h := h
  · obtain ⟨row, hrow, hc⟩ := mem_filterMap.1 h
    have hasset : row.assetId.isSome = true := by
      have hmem : row ∈ assignmentRows db q := by
        cases limit with
        | none => exact hrow
        | some n => exact mem_of_mem_take hrow
      rw [assignmentRows, mem_insertionSort] at hmem
      obtain ⟨i, hi, rfl⟩ := mem_map.1 hmem
      exact (of_decide_eq_true (db.assignments.mem_select.1 hi).2).2.2.2
    rw [assignmentCandidate] at hc
    split at hc
    · cases hc
      exact Option.isSome_iff_exists.1 hasset
    · cases hc
  · obtain ⟨row, -, hc⟩ := mem_filterMap.1 h
    rw [evidenceCandidate] at hc
    split at hc
    next hasset =>
      cases hc
      exact Option.isSome_iff_exists.1 hasset
    · cases hc
  · obtain ⟨leaseId, -, hc⟩ := mem_filterMap.1 h
    simp only [leaseCandidate] at hc
    split at hc
    · obtain ⟨a, -, rfl⟩ := Option.map_eq_some_iff.1 hc
      exact ⟨a, rfl⟩
    · cases hc
  · obtain ⟨row, -, hc⟩ := mem_filterMap.1 h
    obtain ⟨a, -, rfl⟩ := Option.map_eq_some_iff.1 hc
    exact ⟨a, rfl⟩

theorem candidates_eq_flatMap : candidates db q (some limit) =
    (queriedRows db q).flatMap fun rows ↦ (rows.take limit).filterMap id := by
  simp [candidates, queriedRows, limited, filterMap_map, ← map_take]

theorem shown_iff_candidates : Shown (queriedRows db q) limit limit c ↔
    c ∈ (candidates db q (some limit)).take limit := by
  rw [shown_iff, candidates_eq_flatMap]

theorem mem_candidates_none : c ∈ candidates db q none ↔
    ∃ rows ∈ queriedRows db q, some c ∈ rows := by
  simp [candidates, queriedRows, limited]

theorem mem_of_mem_take_candidates (h : c ∈ (candidates db q (some limit)).take limit) :
    c ∈ candidates db q none := by
  obtain ⟨before, rows, after, heq, p, -, hrow, -⟩ := shown_iff_candidates.2 h
  exact mem_candidates_none.2 ⟨rows, heq ▸ by simp, mem_of_getElem? hrow⟩

theorem mem_assetsOf {a : ℕ} : a ∈ assetsOf rows ↔ ∃ c ∈ rows, c.assetId = some a := by
  rw [assetsOf, mem_dedup, mem_filterMap]

/-- There are two assets unless all candidates name the same one. -/
theorem one_lt_assetsOf (hrows : ∀ c ∈ rows, ∃ a, c.assetId = some a) :
    1 < (assetsOf rows).length ↔ ∃ c ∈ rows, ∃ c' ∈ rows, c.assetId ≠ c'.assetId := by
  constructor
  · intro hlen
    obtain ⟨a, b, l, hl⟩ : ∃ a b l, assetsOf rows = a :: b :: l := by
      match hassets : assetsOf rows with
      | [] => simp [hassets] at hlen
      | [a] => simp [hassets] at hlen
      | a :: b :: l => exact ⟨a, b, l, rfl⟩
    have hnodup : (assetsOf rows).Nodup := nodup_dedup _
    have hne : a ≠ b := by
      rw [hl] at hnodup
      exact fun heq ↦ (nodup_cons.1 hnodup).1 (heq ▸ mem_cons_self)
    obtain ⟨c, hc, ha⟩ := mem_assetsOf.1 (show a ∈ assetsOf rows by simp [hl])
    obtain ⟨c', hc', hb⟩ := mem_assetsOf.1 (show b ∈ assetsOf rows by simp [hl])
    exact ⟨c, hc, c', hc', fun heq ↦ hne (Option.some.inj (ha.symm.trans (heq.trans hb)))⟩
  · rintro ⟨c, hc, c', hc', hne⟩
    obtain ⟨a, ha⟩ := hrows c hc
    obtain ⟨b, hb⟩ := hrows c' hc'
    have hab : a ≠ b := fun heq ↦ hne (ha.trans ((congrArg some heq).trans hb.symm))
    have hsubset : [a, b] ⊆ assetsOf rows :=
      cons_subset.2 ⟨mem_assetsOf.2 ⟨c, hc, ha⟩,
        cons_subset.2 ⟨mem_assetsOf.2 ⟨c', hc', hb⟩, nil_subset _⟩⟩
    have hnodup : [a, b].Nodup := by simp [hab]
    exact Nat.lt_of_lt_of_le Nat.one_lt_two (hnodup.length_le_of_subset hsubset)

/-- What is confirmed is named by all candidates that are left. -/
theorem confirmed_iff (hrows : ∀ c ∈ rows, ∃ a, c.assetId = some a) :
    (finish rows reasons limit).state = .confirmedMatch ↔
      ∃ a, (∀ c ∈ rows.take limit, c.assetId = some a) ∧
        ∃ c ∈ rows.take limit, c.matchState = .confirmedMatch := by
  have hkept : ∀ c ∈ rows.take limit, ∃ a, c.assetId = some a :=
    fun c hc ↦ hrows c (mem_of_mem_take hc)
  have hconf : (rows.take limit).any (·.matchState = .confirmedMatch) = true ↔
      ∃ c ∈ rows.take limit, c.matchState = .confirmedMatch := by
    simp only [any_eq_true, decide_eq_true_eq]
  rw [finish]
  split
  next hambiguous =>
    obtain ⟨c, hc, c', hc', hne⟩ := (one_lt_assetsOf hkept).1 hambiguous
    refine iff_of_false (by simp) ?_
    rintro ⟨a, hall, -⟩
    exact hne ((hall c hc).trans (hall c' hc').symm)
  next hunique =>
    have hsame : ∀ c ∈ rows.take limit, ∀ c' ∈ rows.take limit, c.assetId = c'.assetId := by
      intro c hc c' hc'
      by_contra hne
      exact hunique ((one_lt_assetsOf hkept).2 ⟨c, hc, c', hc', hne⟩)
    constructor
    · intro hst
      split_ifs at hst with hempty hany
      · obtain ⟨c, hc, hmatch⟩ := hconf.1 hany
        obtain ⟨a, ha⟩ := hkept c hc
        exact ⟨a, fun c' hc' ↦ (hsame c' hc' c hc).trans ha, c, hc, hmatch⟩
    · rintro ⟨a, -, hany⟩
      have hne : rows.take limit ≠ [] := by
        obtain ⟨c, hc, -⟩ := hany
        exact ne_nil_of_mem hc
      rw [if_neg hne, if_pos (hconf.2 hany)]

/-- The candidates of a result name the assets of those that are left. -/
theorem assetId_finish (h : c ∈ (finish rows reasons limit).candidates) :
    ∃ c' ∈ rows.take limit, c.assetId = c'.assetId := by
  rw [finish] at h
  split at h
  · obtain ⟨c', hc', rfl⟩ := mem_map.1 h
    exact ⟨c', hc', rfl⟩
  · exact ⟨c, h, rfl⟩

theorem exists_of_not_unresolved (h : (finish rows reasons limit).state ≠ .unresolved) :
    ∃ c, c ∈ (finish rows reasons limit).candidates := by
  rw [finish] at h ⊢
  split at h
  next hambiguous =>
    obtain ⟨c, hc⟩ := exists_mem_of_length_pos (pos_of_gt hambiguous)
    obtain ⟨c, hc, -⟩ := mem_assetsOf.1 hc
    rw [if_pos hambiguous]
    exact ⟨_, mem_map_of_mem hc⟩
  next hunique =>
    rw [if_neg hunique]
    by_contra hnone
    have hempty : rows.take limit = [] :=
      eq_nil_iff_forall_not_mem.2 fun c hc ↦ hnone ⟨c, hc⟩
    exact h (if_pos hempty)

/-- A lookup has a result for every limit that is allowed. -/
theorem resolve_of_isLookup (db : ResolverTables) {q : ObservedQuery} (hq : q.IsLookup)
    (hlow : 1 ≤ limit) (hhigh : limit ≤ maxCandidates) : ∃ reasons,
      resolveObservedIp db q limit = .ok (finish (candidates db q (some limit)) reasons limit) := by
  obtain ⟨haddr, hrole, hsrc⟩ := hq
  refine ⟨if candidates db q (some limit) = [] then
    ["no time-valid confirmed or reviewable evidence matched"] else [], ?_⟩
  rw [resolveObservedIp, require_bind_eq_ok, require_bind_eq_ok, if_neg hrole, if_neg hsrc]
  exact ⟨⟨hlow, hhigh⟩, haddr, rfl⟩

/-- A result is that of a lookup, or there is nothing to confirm. -/
theorem result_cases {result : ResolutionResult} (h : resolveObservedIp db q limit = .ok result) :
    (q.IsLookup ∧ 1 ≤ limit ∧ limit ≤ maxCandidates ∧
      ∃ reasons, result = finish (candidates db q (some limit)) reasons limit) ∨
    result.state = .unresolved := by
  rw [resolveObservedIp, require_bind_eq_ok, require_bind_eq_ok] at h
  obtain ⟨⟨hlow, hhigh⟩, haddr, h⟩ := h
  have hnone : ∀ reason : String, (finish [] [reason] limit).state = .unresolved := by
    intro reason
    rw [finish, take_nil]
    rfl
  split_ifs at h with hrole hsrc
  · obtain rfl := pure_eq_ok.1 h
    exact .inr (hnone _)
  · obtain rfl := pure_eq_ok.1 h
    exact .inr (hnone _)
  · obtain rfl := pure_eq_ok.1 h
    exact .inl ⟨⟨haddr, hrole, hsrc⟩, hlow, hhigh, _, rfl⟩

/-- Where the candidates that are left are of one asset and one of them is confirmed, all rows are of
this asset. -/
theorem NothingHidden.all_of (h : NothingHidden db q) (hq : q.IsLookup) (hlow : 1 ≤ limit)
    (hhigh : limit ≤ maxCandidates) {a : ℕ}
    (hall : ∀ c ∈ (candidates db q (some limit)).take limit, c.assetId = some a)
    (hany : ∃ c ∈ (candidates db q (some limit)).take limit, c.matchState = .confirmedMatch) :
    ∀ c ∈ candidates db q none, c.assetId = some a := by
  intro c hc
  obtain ⟨c₀, hc₀, hmatch⟩ := hany
  obtain ⟨rows, hrows, hmem⟩ := mem_candidates_none.1 hc
  by_contra hne
  obtain ⟨c₁, hshown, hother⟩ := h hq limit hlow hhigh c₀ (shown_iff_candidates.2 hc₀) hmatch rows
    hrows c hmem fun heq ↦ hne (heq.trans (hall c₀ hc₀))
  exact hother ((hall c₁ (shown_iff_candidates.1 hshown)).trans (hall c₀ hc₀).symm)

/-- **When no limit hides an ambiguity.** -/
theorem safeResolution_iff (db : ResolverTables) (q : ObservedQuery) :
    SafeResolution db q ↔ NothingHidden db q := by
  have hassets : ∀ limit, ∀ c ∈ candidates db q limit, ∃ a, c.assetId = some a :=
    fun limit c hc ↦ isSome_of_mem_candidates hc
  constructor
  · rintro ⟨hsafe, -⟩ hq limit hlow hhigh c hc hmatch rows hrows c' hc' hne
    obtain ⟨reasons, hresult⟩ := resolve_of_isLookup db hq hlow hhigh
    rw [shown_iff_candidates] at hc
    obtain ⟨a, ha⟩ := hassets _ c (mem_of_mem_take hc)
    by_contra hnone
    -- all that is shown is of the asset of `c`, so that it is confirmed
    refine hsafe limit _ hresult ((one_lt_assetsOf (hassets none)).2 ?_)
      ((confirmed_iff (hassets (some limit))).2 ⟨a, fun c'' hc'' ↦ ?_, c, hc, hmatch⟩)
    · exact ⟨c', mem_candidates_none.2 ⟨rows, hrows, hc'⟩, c, mem_of_mem_take_candidates hc, hne⟩
    · by_contra hother
      exact hnone ⟨c'', shown_iff_candidates.2 hc'', fun heq ↦ hother (heq.trans ha)⟩
  · intro hhidden
    refine ⟨fun limit result hresult htwo hconf ↦ ?_,
      fun limit limit' result result' _ hresult hresult' hst hconf b hb ↦ ?_⟩
    · obtain ⟨hq, hlow, hhigh, reasons, rfl⟩ | hunresolved := result_cases hresult
      · obtain ⟨a, hall, hany⟩ := (confirmed_iff (hassets (some limit))).1 hconf
        obtain ⟨c, hc, c', hc', hne⟩ := (one_lt_assetsOf (hassets none)).1 htwo
        have hsame := hhidden.all_of hq hlow hhigh hall hany
        exact hne ((hsame c hc).trans (hsame c' hc').symm)
      · exact absurd (hunresolved.symm.trans hconf) (by simp)
    · obtain ⟨hq, hlow, hhigh, reasons, rfl⟩ | hunresolved := result_cases hresult
      · obtain ⟨-, hlow', hhigh', reasons', rfl⟩ | hunresolved' := result_cases hresult'
        · obtain ⟨a, hall, hany⟩ := (confirmed_iff (hassets (some limit'))).1 hconf
          have hsame := hhidden.all_of hq hlow' hhigh' hall hany
          -- the higher limit confirms `a`, and so do all rows name it
          obtain ⟨c', hc', hb⟩ := mem_assetsOf.1 hb
          obtain ⟨c'', hc'', heq⟩ := assetId_finish hc'
          have hab : a = b := Option.some.inj ((hall c'' hc'').symm.trans (heq.symm.trans hb))
          obtain ⟨c, hc⟩ := exists_of_not_unresolved hst
          obtain ⟨c₀, hc₀, heq₀⟩ := assetId_finish hc
          have hc₀' : c₀ ∈ candidates db q none := mem_of_mem_take_candidates hc₀
          exact mem_assetsOf.2 ⟨c, hc, heq₀.trans ((hsame c₀ hc₀').trans (congrArg some hab))⟩
        · exact absurd (hunresolved'.symm.trans hconf) (by simp)
      · exact absurd hunresolved hst

/-- No rows. -/
def noRows {ρ : Type} (row : ρ) : Table ρ where
  ids := []
  row _ := row
  nodup := List.nodup_nil

/-- Two assets have the same host name as confirmed evidence. -/
def twoNames : ResolverTables where
  assignments :=
    noRows
      { assetId := none, address := .v4 0, addressFamily := 4, startedAt := 0, provenance := "" }
  evidence :=
    { ids := [1, 2]
      row := fun i ↦
        { assetId := some i
          evidenceType := .hostname
          normalisedValue := "printer"
          source := "manual"
          status := .confirmed }
      nodup := HA.nodup_pair }
  leases :=
    noRows
      { ipAddress := ⟨"", none⟩, leaseStartedAt := 0, firstSeenAt := 0, lastSeenAt := 0 }
  clients :=
    noRows
      { providerId := 1
        logicalProviderKey := "provider:1"
        identityKey := none
        identityType := .ip
        identityValue := ""
        firstSeenAt := 0
        lastSeenAt := 0 }
  observations := noRows { dnsClientId := 1, ipAddress := none, observedAt := 0 }
  vlans := noRows {}
  rangeVlan _ := none
  leaseSource _ := none

/-- The address of a printer, with its name. -/
def printerQuery : ObservedQuery where
  address := ⟨"192.0.2.7", some (.v4 3221225991)⟩
  observedAt := 0
  hostname := some ⟨"Printer", "printer"⟩

/-- With a limit of one the first of the two assets is confirmed. -/
theorem confirms_ambiguous : ¬ ∀ db q, SafeResolution db q := by
  intro hsafe
  have hambiguous : 1 < (assetsOf (candidates twoNames printerQuery none)).length := by
    decide +kernel
  obtain ⟨result, hresult, hst⟩ : ∃ result,
      resolveObservedIp twoNames printerQuery 1 = .ok result ∧ result.state = .confirmedMatch :=
    ⟨_, rfl, by decide +kernel⟩
  exact (hsafe twoNames printerQuery).1 1 result hresult hambiguous hst

end Kaya.Assets
