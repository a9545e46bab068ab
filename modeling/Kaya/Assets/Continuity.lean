import Kaya.Assets.AssignmentRuns
import Kaya.Library.Extremes
import Mathlib.Data.List.Dedup

/-!
# Continuity of an asset across addresses

What `reconcile_dhcp_assignment` leaves when it reassigns: the assignments that the identity of the
lease has had elsewhere are closed, the new one begins after them and after every closed one of its
address, and a second call changes nothing (`Continued`).

The identity of a lease is its MAC or its DHCP client identifier, as `_dhcp_lease_identifiers` reads
them. The other leases of the identity are looked up by the columns themselves, letter for letter
and a limited number of them. `continued_iff` says what has to hold for this to make no difference.
-/

namespace Kaya.Assets

open Option List
open Kaya.HA (DateTime seconds)

/-! ### Identities -/

/-- Two leases have a MAC or a client identifier in common. -/
def sharesIdentity (lease other : DHCPLeaseHistory) : Bool :=
  (decide ((dhcpLeaseIdentifiers lease).1 = (dhcpLeaseIdentifiers other).1) &&
      (dhcpLeaseIdentifiers lease).1.isSome) ||
    (decide ((dhcpLeaseIdentifiers lease).2 = (dhcpLeaseIdentifiers other).2) &&
      (dhcpLeaseIdentifiers lease).2.isSome)

/-- The evidence names an asset by an identifier of the lease. -/
def isNamedBy (lease : DHCPLeaseHistory) (row : AssetIdentityEvidence) : Bool :=
  row.holds ∧ (row.evidenceType = .mac ∧ (dhcpLeaseIdentifiers lease).1 = some row.normalisedValue ∨
      row.evidenceType = .dhcpClientId ∧ (dhcpLeaseIdentifiers lease).2 = some row.normalisedValue)

/-- The identity of the lease belongs to exactly one asset. -/
structure OwnedBy (r : Records) (lease : DHCPLeaseHistory) (assetId : ℕ) : Prop where
  named : ∃ i ∈ r.evidence.ids, isNamedBy lease (r.evidence.row i) = true
  unique : ∀ i ∈ r.evidence.ids, isNamedBy lease (r.evidence.row i) = true →
    (r.evidence.row i).assetId = some assetId

/-- The other lease is a newer active one. -/
def isNewer (leaseId : ℕ) (lease : DHCPLeaseHistory) (otherId : ℕ) (other : DHCPLeaseHistory) :
    Bool :=
  otherId ≠ leaseId ∧ other.isActive ∧ (lease.leaseStartedAt < other.leaseStartedAt ∨
    other.leaseStartedAt = lease.leaseStartedAt ∧ leaseId < otherId)

variable {r : Records} {t t' : Assignments} {leaseId assetId i a family : ℕ}
  {lease : DHCPLeaseHistory} {address : IPAddr} {observedAt stop start : DateTime}
  {row : AssetNetworkAssignment} {f : ℕ → AssetNetworkAssignment → AssetNetworkAssignment}

theorem dedup_eq_singleton {l : List ℕ} (hne : l ≠ []) (h : ∀ b ∈ l, b = a) : l.dedup = [a] := by
  rw [eq_replicate_iff.2 ⟨rfl, h⟩]
  exact replicate_dedup (length_pos_iff.2 hne).ne'

/-- The assets of the first rows that name one. -/
def namedAssets (r : Records) (lease : DHCPLeaseHistory) : List ℕ :=
  ((r.evidence.select (isNamedBy lease)).take 50).filterMap fun id ↦ (r.evidence.row id).assetId

theorem OwnedBy.dedup_namedAssets (h : OwnedBy r lease assetId) :
    (namedAssets r lease).dedup = [assetId] := by
  refine dedup_eq_singleton ?_ fun b hb ↦ ?_
  · obtain ⟨i, hi, hnamed⟩ := h.named
    obtain ⟨first, rest, hcons⟩ := exists_cons_of_ne_nil
      (ne_nil_of_mem (r.evidence.mem_select.2 ⟨hi, hnamed⟩))
    obtain ⟨hfirst, hnamed'⟩ := r.evidence.mem_select.1 (hcons ▸ mem_cons_self)
    rw [namedAssets, hcons, take_succ_cons]
    exact ne_nil_of_mem (mem_filterMap.2
      ⟨first, mem_cons_self, h.unique first hfirst hnamed'⟩)
  · obtain ⟨i, hi, hasset⟩ := mem_filterMap.1 hb
    obtain ⟨hmem, hnamed⟩ := r.evidence.mem_select.1 (mem_of_mem_take hi)
    exact some.inj (hasset.symm.trans (h.unique i hmem hnamed))

/-- The owner of an identity is found. -/
theorem OwnedBy.owner (h : OwnedBy r lease assetId) :
    dhcpEvidenceOwner r (dhcpLeaseIdentifiers lease).1 (dhcpLeaseIdentifiers lease).2 =
      (some assetId, false) := by
  have hassets := h.dedup_namedAssets
  rw [dhcpEvidenceOwner]
  split
  next heq => exact absurd (hassets.symm.trans heq) (by simp)
  next owner heq =>
    obtain rfl := singleton_inj.1 (hassets.symm.trans heq)
    rfl
  next hnil hsingle => exact absurd hassets (hsingle assetId)

/-- A lease is reconciled where its asset does not have the address yet, and no newer lease is in
the way. -/
structure IsTarget (r : Records) (t : Assignments) (leaseId : ℕ) (lease : DHCPLeaseHistory)
    (assetId : ℕ) (address : IPAddr) : Prop where
  moduleEnabled : r.moduleEnabled = true
  leaseAddress : lease.ipAddress.address = some address
  free : ∀ i ∈ t.ids, (t.row i).isOpenFor address address.version = true →
    (t.row i).assetId ≠ some assetId
  newest : ∀ j ∈ r.leases.ids, isNewer leaseId lease j (r.leases.row j) = true →
    sameIdentity lease (dhcpLeaseIdentifiers lease).2 (r.leases.row j) = false

theorem hasIdentity_of_same {clientId : Option String} {other : DHCPLeaseHistory}
    (h : sameIdentity lease clientId other = true) : hasIdentity lease clientId = true := by
  rw [sameIdentity, Bool.or_eq_true, Bool.and_eq_true, Bool.and_eq_true] at h
  rw [hasIdentity, Bool.or_eq_true]
  exact h.imp And.left And.left

theorem OwnedBy.isTarget (howner : OwnedBy r lease assetId)
    (h : reconcileTarget r t leaseId lease = .ok (a, address)) :
    a = assetId ∧ IsTarget r t leaseId lease assetId address := by
  simp only [reconcileTarget, howner.owner, require_bind_eq_ok, found_bind_eq_ok, pure_eq_ok,
    Prod.mk.injEq] at h
  obtain ⟨hmodule, _, haddr, -, _, hasset, hfree, hnewer, -, rfl, rfl⟩ := h
  obtain rfl : assetId = _ := some.inj hasset
  refine ⟨rfl, hmodule, haddr, fun i hi hopen hasset' ↦ ?_, fun j hj hnew ↦ ?_⟩
  · have hrow := (t.exists?_eq_false.1 hfree) i hi
    exact absurd ⟨hopen, hasset'⟩ (of_decide_eq_false hrow)
  · cases hsame : sameIdentity lease (dhcpLeaseIdentifiers lease).2 (r.leases.row j) with
    | false => rfl
    | true =>
      obtain ⟨hne, hlive, hlater⟩ := of_decide_eq_true hnew
      refine absurd ⟨hasIdentity_of_same hsame, ?_⟩ hnewer
      exact any_eq_true.2 ⟨j, hj, decide_eq_true ⟨hne, hlive, hsame, hlater⟩⟩

/-- A lease whose asset has the address is renewed. -/
theorem OwnedBy.renewed (howner : OwnedBy r lease assetId) (hmodule : r.moduleEnabled = true)
    (haddr : lease.ipAddress.address = some address) (hi : i ∈ t.ids)
    (hopen : (t.row i).isOpenFor address address.version = true)
    (hasset : (t.row i).assetId = some assetId) :
    reconcileTarget r t leaseId lease = .error .renewed := by
  have hexists : t.exists? (fun row ↦
      row.isOpenFor address address.version ∧ row.assetId = some assetId) = true :=
    any_eq_true.2 ⟨i, hi, decide_eq_true ⟨hopen, hasset⟩⟩
  have howner' : (some assetId <|> dhcpAssignmentContinuityOwner r t leaseId lease
      (dhcpLeaseIdentifiers lease).2) = some assetId := rfl
  simp only [reconcileTarget, howner.owner, howner', haddr, hmodule, found, elim_some]
  show (require (t.exists? (fun row ↦
      row.isOpenFor address address.version ∧ row.assetId = some assetId) = false)
    Reconciled.renewed >>= _) = _
  rw [hexists]
  rfl

/-! ### The new assignment -/

/-- The start of the new row is that of `replacementStart`. -/
def closedRow (r : Records) (leaseId : ℕ) (lease : DHCPLeaseHistory) (start : DateTime)
    (row : AssetNetworkAssignment) : AssetNetworkAssignment :=
  { row with
    endedAt := some <|
      match lastSeenByAddress r leaseId lease row.address with
      | none => start
      | some lastSeen => max row.startedAt (min start lastSeen) }

/-- What a reassignment leaves. -/
structure IsReassigned (r : Records) (t : Assignments) (leaseId : ℕ) (lease : DHCPLeaseHistory)
    (assetId : ℕ) (address : IPAddr) (observedAt : DateTime) (t' : Assignments) : Prop where
  ids : t'.ids = t.ids ++ [t.freshKey]
  row : ∀ i ∈ t.ids, t'.row i =
    if i ∈ supersededRows r t leaseId lease assetId address.version then
      closedRow r leaseId lease (replacementStart r t leaseId lease assetId address observedAt)
        (t.row i)
    else t.row i
  isOpenFor : (t'.row t.freshKey).isOpenFor address address.version = true
  owner : (t'.row t.freshKey).assetId = some assetId
  period : (t'.row t.freshKey).period =
    Kaya.period (replacementStart r t leaseId lease assetId address observedAt) none
  startedAt : (t'.row t.freshKey).startedAt =
    replacementStart r t leaseId lease assetId address observedAt

theorem reconcileTarget_ne_reassigned : reconcileTarget r t leaseId lease ≠ .error .reassigned := by
  intro h
  simp only [reconcileTarget, require_bind_eq_error, found_bind_eq_error, reduceCtorEq, and_false,
    false_or] at h
  obtain ⟨-, _, -, -, _, -, -, -, -, h⟩ := h
  cases h

theorem insert_mapRows_row (hi : i ∈ t.ids) : ((t.mapRows f).insert row).row i = f i (t.row i) := by
  rw [(t.mapRows f).insert_row_of_mem row hi, t.mapRows_row f i, if_pos hi]

theorem insert_mapRows_fresh : ((t.mapRows f).insert row).row t.freshKey = row :=
  (t.mapRows f).insert_row_fresh row

/-- What a reconciliation has done that reassigned the address. -/
theorem isReassigned_of_reconcile {audited : Bool} (hlease : r.leases.get? leaseId = some lease)
    (howner : OwnedBy r lease assetId) (haddr : lease.ipAddress.address = some address)
    (h : reconcileDhcpAssignment r t leaseId observedAt audited = .ok (t', .reassigned)) :
    IsTarget r t leaseId lease assetId address ∧
      IsReassigned r t leaseId lease assetId address observedAt t' := by
  simp only [reconcileDhcpAssignment, hlease] at h
  split at h
  next answer htgt =>
    obtain ⟨-, rfl⟩ := Prod.mk.inj (Except.ok.inj h)
    exact absurd htgt reconcileTarget_ne_reassigned
  next a address' htgt =>
    obtain ⟨rfl, htgt'⟩ := howner.isTarget htgt
    obtain rfl : address' = address :=
      some.inj (htgt'.leaseAddress.symm.trans haddr)
    refine ⟨htgt', ?_⟩
    simp only [require_bind_eq_ok, pure_eq_ok, Prod.mk.injEq] at h
    obtain ⟨-, rfl, hanswer⟩ := h
    simp only [reconcileLocked] at hanswer ⊢
    split at hanswer
    · cases hanswer
    next hopen =>
      split at hanswer
      · cases hanswer
      next hheld =>
        rw [if_neg hopen, if_neg hheld]
        refine ⟨rfl, fun i hi ↦ insert_mapRows_row hi, ?_, ?_, ?_, ?_⟩
        · have hopen' : ∀ row : AssetNetworkAssignment, row.status = .confirmed →
              row.endedAt = none → row.address = address' → row.addressFamily = address'.version →
              row.isOpenFor address' address'.version = true :=
            fun row hstat hend haddr hfamily ↦
              decide_eq_true ⟨decide_eq_true ⟨hstat, hend⟩, haddr, hfamily⟩
          refine hopen' _ ?_ ?_ ?_ ?_
          · exact congrArg AssetNetworkAssignment.status insert_mapRows_fresh
          · exact congrArg AssetNetworkAssignment.endedAt insert_mapRows_fresh
          · exact congrArg AssetNetworkAssignment.address insert_mapRows_fresh
          · exact congrArg AssetNetworkAssignment.addressFamily insert_mapRows_fresh
        · exact congrArg AssetNetworkAssignment.assetId insert_mapRows_fresh
        · exact congrArg AssetNetworkAssignment.period insert_mapRows_fresh
        · exact congrArg AssetNetworkAssignment.startedAt insert_mapRows_fresh

/-! ### What the lookups find -/

/-- The first other leases with a column of the lease, letter for letter. -/
def sameLeases (r : Records) (leaseId : ℕ) (lease : DHCPLeaseHistory) : List ℕ :=
  (r.leases.ids.filter fun id ↦
    id ≠ leaseId ∧ sameIdentity lease (dhcpLeaseIdentifiers lease).2 (r.leases.row id)).take 500

/-- The address was leased to the identity of the lease. -/
def isLeasedTo (r : Records) (lease : DHCPLeaseHistory) (address : IPAddr) : Bool :=
  r.leases.exists? fun other ↦ sharesIdentity lease other ∧ other.ipAddress.address = some address

/-- An open row of the asset, for an address that was leased to its identity. -/
def isEarlier (r : Records) (lease : DHCPLeaseHistory) (assetId family : ℕ)
    (row : AssetNetworkAssignment) : Bool :=
  row.isOpen ∧ row.assetId = some assetId ∧ row.addressFamily = family ∧
    isLeasedTo r lease row.address

/-- A closed row of the asset for the address. -/
def isClosedFor (assetId : ℕ) (address : IPAddr) (row : AssetNetworkAssignment) : Bool :=
  row.isConfirmed ∧ row.endedAt.isSome ∧ row.assetId = some assetId ∧
    row.address = address ∧ row.addressFamily = address.version

theorem mem_supersededRows :
    i ∈ supersededRows r t leaseId lease assetId address.version ↔
      i ∈ openRows t assetId address.version ∧ ∃ j ∈ sameLeases r leaseId lease,
          (r.leases.row j).ipAddress.address = some (t.row i).address := by
  refine mem_filter.trans (and_congr_right fun _ ↦ ?_)
  rw [lastSeenByAddress, isSome_max?_iff, ne_eq, map_eq_nil_iff, filter_eq_nil_iff]
  push Not
  refine exists_congr fun j ↦ and_congr_right fun _ ↦ ?_
  rw [decide_eq_true_eq]

theorem mem_openRows (hi : i ∈ openRows t assetId family) :
    i ∈ t.ids ∧ (t.row i).isOpen = true ∧ (t.row i).assetId = some assetId ∧
      (t.row i).addressFamily = family := by
  obtain ⟨hmem, hrow⟩ := t.mem_select.1 (mem_of_mem_take hi)
  exact ⟨hmem, of_decide_eq_true hrow⟩

/-- The new row starts after the rows that are closed. -/
theorem startedAt_le_replacementStart
    (hi : i ∈ supersededRows r t leaseId lease assetId address.version) :
    (t.row i).startedAt ≤ replacementStart r t leaseId lease assetId address observedAt := by
  have hafter : (t.row i).startedAt ≤
      (supersededRows r t leaseId lease assetId address.version).foldl
        (fun start id ↦ max start (t.row id).startedAt) (min observedAt lease.firstSeenAt) :=
    (le_foldl_max (fun id ↦ (t.row id).startedAt) _ _).2 (.inr ⟨i, hi, le_rfl⟩)
  simp only [replacementStart]
  split
  · exact hafter.trans (le_max_left _ _)
  split
  · exact hafter
  · exact hafter.trans (le_max_left _ _)

/-- One of the latest closed rows of the address is of the lease itself. -/
def isOwn (t : Assignments) (leaseId assetId : ℕ) (address : IPAddr) : Bool :=
  (priorRows t assetId address).any fun id ↦ (t.row id).dhcpLeaseId = some leaseId

theorem le_replacementStart_of_own (hown : isOwn t leaseId assetId address = true) :
    stop ≤ replacementStart r t leaseId lease assetId address observedAt ↔ stop ≤ observedAt ∨
        ∃ k ∈ supersededRows r t leaseId lease assetId address.version,
          stop ≤ (t.row k).startedAt := by
  rw [isOwn] at hown
  simp only [replacementStart]
  rw [if_pos hown, le_max_iff, le_foldl_max (fun id ↦ (t.row id).startedAt), le_min_iff]
  constructor
  · rintro ((hle | hrow) | hle)
    · exact .inl hle.1
    · exact .inr hrow
    · exact .inl hle
  · rintro (hle | hrow)
    · exact .inr hle
    · exact .inl (.inr hrow)

/-- The order of `priorRows`. -/
def endsLater (t : Assignments) (i j : ℕ) : Prop :=
  (t.row j).endedAt.getD 0 ≤ (t.row i).endedAt.getD 0

instance : DecidableRel (endsLater t) := fun _ _ ↦ inferInstanceAs (Decidable (_ ≤ _))

instance : Std.Total (endsLater t) := ⟨fun _ _ ↦ le_total _ _⟩

instance : IsTrans ℕ (endsLater t) := ⟨fun _ _ _ hij hjk ↦ le_trans hjk hij⟩

/-- The first of the closed rows has the latest end. -/
theorem le_replacementStart_of_not_own (hown : isOwn t leaseId assetId address = false)
    (hi : i ∈ t.ids) (hclosed : isClosedFor assetId address (t.row i) = true)
    (hstop : (t.row i).endedAt = some stop) :
    stop ≤ replacementStart r t leaseId lease assetId address observedAt := by
  have hmem : i ∈ (t.select (isClosedFor assetId address)).insertionSort (endsLater t) :=
    (mem_insertionSort _).2 (t.mem_select.2 ⟨hi, hclosed⟩)
  have hsorted := pairwise_insertionSort (endsLater t)
    (t.select (isClosedFor assetId address))
  have hprior : priorRows t assetId address =
      ((t.select (isClosedFor assetId address)).insertionSort (endsLater t)).take 20 := rfl
  rw [isOwn] at hown
  simp only [replacementStart]
  rw [if_neg (Bool.eq_false_iff.1 hown), hprior]
  cases hrows : (t.select (isClosedFor assetId address)).insertionSort (endsLater t) with
  | nil => exact absurd (hrows ▸ hmem) not_mem_nil
  | cons first rest =>
    rw [hrows] at hmem hsorted
    have hfirst : endsLater t first i := by
      rcases mem_cons.1 hmem with rfl | hrest
      · exact le_rfl
      · exact rel_of_pairwise_cons hsorted hrest
    have hlatest : stop ≤ (t.row first).endedAt.getD 0 := by
      rw [endsLater, hstop, getD_some] at hfirst
      exact hfirst
    have hclosed' : isClosedFor assetId address (t.row first) = true := by
      have hmem' : first ∈ (t.select (isClosedFor assetId address)).insertionSort (endsLater t) :=
        hrows ▸ mem_cons_self
      exact (t.mem_select.1 ((mem_insertionSort _).1 hmem')).2
    obtain ⟨e, he⟩ := isSome_iff_exists.1 (of_decide_eq_true hclosed').2.1
    rw [he, getD_some] at hlatest
    show stop ≤ max _ ((t.row first).endedAt.getD _)
    rw [he, getD_some]
    exact hlatest.trans (le_max_right _ _)

/-! ### Continuity -/

/-- What a reassignment to a lease is for. -/
structure Continued (r : Records) (t : Assignments) (leaseId : ℕ) (lease : DHCPLeaseHistory)
    (assetId : ℕ) (address : IPAddr) (t' : Assignments) : Prop where
  ids : t'.ids = t.ids ++ [t.freshKey]
  current : (t'.row t.freshKey).isOpenFor address address.version = true ∧
    (t'.row t.freshKey).assetId = some assetId
  closed : ∀ i ∈ t.ids, isEarlier r lease assetId address.version (t.row i) = true →
    ∃ stop, t'.row i = { t.row i with endedAt := some stop } ∧ (t.row i).startedAt ≤ stop ∧
      stop ≤ (t'.row t.freshKey).startedAt
  unchanged : ∀ i ∈ t.ids, isEarlier r lease assetId address.version (t.row i) = false →
    t'.row i = t.row i
  apart : ∀ i ∈ t.ids, isClosedFor assetId address (t.row i) = true →
    Disjoint (t.row i).period (t'.row t.freshKey).period
  again : ∀ observedAt audited,
    reconcileDhcpAssignment r t' leaseId observedAt audited = .ok (t', .renewed)
  newest : ∀ j ∈ r.leases.ids, isNewer leaseId lease j (r.leases.row j) = true →
    sharesIdentity lease (r.leases.row j) = false

/-- The lookups by the columns of the lease find what its identity has. -/
structure ExactLookups (r : Records) (t : Assignments) (leaseId : ℕ) (lease : DHCPLeaseHistory)
    (assetId : ℕ) (address : IPAddr) (observedAt : DateTime) : Prop where
  /-- An open row is among the first fifty, and its address among those of the first five hundred
  leases that are alike letter for letter, exactly where the identity was leased the address. -/
  rows : ∀ i ∈ t.ids, (t.row i).isOpen = true → (t.row i).assetId = some assetId →
    (t.row i).addressFamily = address.version →
      ((i ∈ openRows t assetId address.version ∧ ∃ j ∈ sameLeases r leaseId lease,
          (r.leases.row j).ipAddress.address = some (t.row i).address) ↔
        isLeasedTo r lease (t.row i).address = true)
  /-- A newer lease of the identity is alike letter for letter. -/
  newer : ∀ j ∈ r.leases.ids, isNewer leaseId lease j (r.leases.row j) = true →
    sharesIdentity lease (r.leases.row j) = true →
      sameIdentity lease (dhcpLeaseIdentifiers lease).2 (r.leases.row j) = true
  /-- Where the lease has been followed before, no closed row of the address runs on after the
  observation, other than before a row that is closed now. -/
  ended : isOwn t leaseId assetId address = true →
    ∀ i ∈ t.ids, isClosedFor assetId address (t.row i) = true → ∀ stop ∈ (t.row i).endedAt,
      (t.row i).startedAt < stop → stop ≤ observedAt ∨
        ∃ k ∈ t.ids, isEarlier r lease assetId address.version (t.row k) = true ∧
          stop ≤ (t.row k).startedAt

theorem isEarlier_eq_true :
    isEarlier r lease assetId family row = true ↔ row.isOpen = true ∧ row.assetId = some assetId ∧
      row.addressFamily = family ∧ isLeasedTo r lease row.address = true :=
  decide_eq_true_iff

theorem ExactLookups.mem_supersededRows_iff
    (h : ExactLookups r t leaseId lease assetId address observedAt) (hi : i ∈ t.ids) :
    i ∈ supersededRows r t leaseId lease assetId address.version ↔
      isEarlier r lease assetId address.version (t.row i) = true := by
  rw [mem_supersededRows, isEarlier_eq_true]
  constructor
  · intro hfound
    obtain ⟨-, hopen, hasset, hfamily⟩ := mem_openRows hfound.1
    exact ⟨hopen, hasset, hfamily, (h.rows i hi hopen hasset hfamily).1 hfound⟩
  · rintro ⟨hopen, hasset, hfamily, hleased⟩
    exact (h.rows i hi hopen hasset hfamily).2 hleased

/-- The row is closed while it holds the asset. -/
theorem closedRow_endedAt
    (hle : row.startedAt ≤ start) : ∃ stop, closedRow r leaseId lease start row =
      { row with endedAt := some stop } ∧ row.startedAt ≤ stop ∧ stop ≤ start := by
  cases hseen : lastSeenByAddress r leaseId lease row.address with
  | none => exact ⟨start, by simp only [closedRow, hseen], hle, le_rfl⟩
  | some lastSeen =>
    exact ⟨max row.startedAt (min start lastSeen), by simp only [closedRow, hseen],
      le_max_left _ _, max_le hle (min_le_left _ _)⟩

theorem closedRow_ne (h : row.isOpen = true) : closedRow r leaseId lease start row ≠ row := by
  intro heq
  have hend : some _ = row.endedAt := congrArg AssetNetworkAssignment.endedAt heq
  rw [(of_decide_eq_true h).2] at hend
  cases hend

/-- The closed rows of the address are over when the new one starts. -/
theorem apart_iff (h : IsReassigned r t leaseId lease assetId address observedAt t') :
    (∀ i ∈ t.ids, isClosedFor assetId address (t.row i) = true →
        Disjoint (t.row i).period (t'.row t.freshKey).period) ↔
      (isOwn t leaseId assetId address = true → ∀ i ∈ t.ids,
        isClosedFor assetId address (t.row i) = true → ∀ stop ∈ (t.row i).endedAt,
          (t.row i).startedAt < stop → stop ≤ observedAt ∨
            ∃ k ∈ supersededRows r t leaseId lease assetId address.version,
              stop ≤ (t.row k).startedAt) := by
  have hperiod : ∀ i stop, (t.row i).endedAt = some stop →
      (Disjoint (t.row i).period (t'.row t.freshKey).period ↔ stop ≤ (t.row i).startedAt ∨
        stop ≤ replacementStart r t leaseId lease assetId address observedAt) := by
    intro i stop hstop
    rw [h.period, AssetNetworkAssignment.period, hstop]
    exact disjoint_period_none_iff
  constructor
  · intro hapart hown i hi hclosed stop hstop hlt
    have hle := ((hperiod i stop hstop).1 (hapart i hi hclosed)).resolve_left hlt.not_ge
    exact (le_replacementStart_of_own hown).1 hle
  · intro hended i hi hclosed
    obtain ⟨stop, hstop⟩ := isSome_iff_exists.1 (of_decide_eq_true hclosed).2.1
    refine (hperiod i stop hstop).2 (or_iff_not_imp_left.2 fun hlt ↦ ?_)
    cases hown : isOwn t leaseId assetId address with
    | false => exact le_replacementStart_of_not_own hown hi hclosed hstop
    | true =>
      exact (le_replacementStart_of_own hown).2
        (hended hown i hi hclosed stop hstop (not_le.1 hlt))

/-- A lease that has been followed is renewed. -/
theorem IsReassigned.again (h : IsReassigned r t leaseId lease assetId address observedAt t')
    (hlease : r.leases.get? leaseId = some lease) (howner : OwnedBy r lease assetId)
    (htgt : IsTarget r t leaseId lease assetId address) (now : DateTime) (audited : Bool) :
    reconcileDhcpAssignment r t' leaseId now audited = .ok (t', .renewed) := by
  have hmem : t.freshKey ∈ t'.ids := h.ids ▸ mem_append_right _ mem_cons_self
  simp only [reconcileDhcpAssignment, hlease,
    howner.renewed htgt.moduleEnabled htgt.leaseAddress hmem h.isOpenFor h.owner]

/-- A reassignment leaves what it is for exactly where the lookups are exact. -/
theorem continued_iff {audited : Bool} (hlease : r.leases.get? leaseId = some lease)
    (howner : OwnedBy r lease assetId) (haddr : lease.ipAddress.address = some address)
    (h : reconcileDhcpAssignment r t leaseId observedAt audited = .ok (t', .reassigned)) :
    Continued r t leaseId lease assetId address t' ↔
      ExactLookups r t leaseId lease assetId address observedAt := by
  obtain ⟨htgt, hrow⟩ := isReassigned_of_reconcile hlease howner haddr h
  constructor
  · intro hcontinued
    have hmem : ∀ i ∈ t.ids, i ∈ supersededRows r t leaseId lease assetId address.version ↔
        isEarlier r lease assetId address.version (t.row i) = true := by
      intro i hi
      constructor
      · intro hfound
        obtain ⟨-, hopen, -, -⟩ := mem_openRows (mem_supersededRows.1 hfound).1
        by_contra hearlier
        have hsame := hcontinued.unchanged i hi (Bool.eq_false_iff.2 hearlier)
        rw [hrow.row i hi, if_pos hfound] at hsame
        exact closedRow_ne hopen hsame
      · intro hearlier
        by_contra hfound
        obtain ⟨stop, hstop, -, -⟩ := hcontinued.closed i hi hearlier
        rw [hrow.row i hi, if_neg hfound] at hstop
        have hend : (t.row i).endedAt = some stop :=
          congrArg AssetNetworkAssignment.endedAt hstop
        rw [(of_decide_eq_true (isEarlier_eq_true.1 hearlier).1).2] at hend
        cases hend
    refine ⟨fun i hi hopen hasset hfamily ↦ ?_, fun j hj hnewer hshares ↦ ?_,
      fun hown i hi hclosed stop hstop hlt ↦ ?_⟩
    · rw [← mem_supersededRows, hmem i hi, isEarlier_eq_true]
      exact ⟨fun h ↦ h.2.2.2, fun h ↦ ⟨hopen, hasset, hfamily, h⟩⟩
    · exact absurd (hcontinued.newest j hj hnewer) (Bool.eq_false_iff.not_left.2 hshares)
    · refine ((apart_iff hrow).1 hcontinued.apart hown i hi hclosed stop hstop hlt).imp_right ?_
      rintro ⟨k, hk, hle⟩
      have hk' := (mem_openRows (mem_supersededRows.1 hk).1).1
      exact ⟨k, hk', (hmem k hk').1 hk, hle⟩
  · intro hexact
    refine ⟨hrow.ids, ⟨hrow.isOpenFor, hrow.owner⟩, fun i hi hearlier ↦ ?_,
      fun i hi hearlier ↦ ?_, ?_, hrow.again hlease howner htgt, fun j hj hnewer ↦ ?_⟩
    · have hfound := (hexact.mem_supersededRows_iff hi).2 hearlier
      rw [hrow.row i hi, if_pos hfound, hrow.startedAt]
      exact closedRow_endedAt (startedAt_le_replacementStart hfound)
    · rw [hrow.row i hi, if_neg]
      rw [hexact.mem_supersededRows_iff hi]
      exact Bool.eq_false_iff.1 hearlier
    · refine (apart_iff hrow).2 fun hown i hi hclosed stop hstop hlt ↦ ?_
      refine (hexact.ended hown i hi hclosed stop hstop hlt).imp_right ?_
      rintro ⟨k, hk, hearlier, hle⟩
      exact ⟨k, (hexact.mem_supersededRows_iff hk).2 hearlier, hle⟩
    · cases hshares : sharesIdentity lease (r.leases.row j) with
      | false => rfl
      | true =>
        have hsame := hexact.newer j hj hnewer hshares
        exact absurd (htgt.newest j hj hnewer) (Bool.eq_false_iff.not_left.2 hsame)

/-! ### Letter case -/

/-- The address of a later lease. -/
def laterAddress : IPAddr := .v4 3232235787

/-- A client has had two leases. The provider names it in upper case. -/
def clientRecords (macAddress : Option String) : Records where
  assets := ⟨[1], fun _ ↦ { assetTag := some "A-1" }, HA.nodup_one⟩
  vlans := ⟨[], fun _ ↦ {}, List.nodup_nil⟩
  ipAddresses := ⟨[], fun _ ↦ { address := none }, List.nodup_nil⟩
  evidence := ⟨[1], fun _ ↦
    { assetId := some 1, evidenceType := .dhcpClientId, normalisedValue := "01:aa"
      source := "adoption", status := .confirmed }, HA.nodup_one⟩
  leases := ⟨[1, 2], fun id ↦
    { ipAddress := ⟨if id = 1 then "192.168.1.10" else "192.168.1.11",
        some (if id = 1 then sampleAddress else laterAddress)⟩
      macAddress, providerLeaseId := some ⟨"01:AA", "01:aa"⟩
      leaseStartedAt := seconds (50 * id), firstSeenAt := seconds (50 * id)
      lastSeenAt := seconds (50 * id + 40) }, HA.nodup_pair⟩
  rangeVlan _ := none

/-- The asset of the client has the address of its first lease. -/
def clientAssignments : Assignments :=
  ⟨[1], fun _ ↦
    { assetId := some 1, address := sampleAddress, addressFamily := 4, startedAt := seconds 50
      provenance := "manual", status := .confirmed }, HA.nodup_one⟩

/-- What the second lease makes of them. -/
def clientResult (macAddress : Option String) : Assignments :=
  (reconcileLocked (clientRecords macAddress) clientAssignments 2
    ((clientRecords macAddress).leases.row 2) 1 laterAddress (seconds 120)).1

theorem clientRecords_get? (macAddress : Option String) :
    (clientRecords macAddress).leases.get? 2 = some ((clientRecords macAddress).leases.row 2) :=
  rfl

theorem continued_iff_example :
    Continued (clientRecords (some "02:00:5e:10:00:02")) clientAssignments 2
      ((clientRecords (some "02:00:5e:10:00:02")).leases.row 2) 1 laterAddress
      (clientResult (some "02:00:5e:10:00:02")) := by
  have hresult : reconcileDhcpAssignment (clientRecords (some "02:00:5e:10:00:02"))
      clientAssignments 2 (seconds 120) true =
        .ok (clientResult (some "02:00:5e:10:00:02"), .reassigned) := rfl
  exact (continued_iff (clientRecords_get? _) ⟨⟨1, by decide +kernel⟩, by decide +kernel⟩ rfl
    hresult).2 ⟨by decide +kernel, by decide +kernel, by decide +kernel⟩

/-- Without a MAC, the address of the first lease is not found again. -/
theorem not_continued :
    ¬ ∀ (r : Records) (t t' : Assignments) (leaseId : ℕ) (lease : DHCPLeaseHistory) (assetId : ℕ)
      (address : IPAddr) (observedAt : DateTime) (audited : Bool),
      r.leases.get? leaseId = some lease → lease.isActive = true → OwnedBy r lease assetId →
        lease.ipAddress.address = some address →
        reconcileDhcpAssignment r t leaseId observedAt audited = .ok (t', .reassigned) →
        Continued r t leaseId lease assetId address t' := by
  intro h
  have hcontinued := h (clientRecords none) clientAssignments (clientResult none) 2
    ((clientRecords none).leases.row 2) 1 laterAddress (seconds 120) true (clientRecords_get? _)
    rfl ⟨⟨1, by decide +kernel⟩, by decide +kernel⟩ rfl rfl
  obtain ⟨stop, hstop, -, -⟩ := hcontinued.closed 1 (by decide) (by decide +kernel)
  have hopen : ((clientResult none).row 1).endedAt = none := by decide +kernel
  rw [hstop] at hopen
  cases hopen

end Kaya.Assets
