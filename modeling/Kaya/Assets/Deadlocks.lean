import Kaya.Assets.AssignmentRuns
import Kaya.Assets.Continuity
import Kaya.Assets.Locks

/-!
# One order of locks

A confirmation and a repair take their locks tier by tier, each sorted. An adoption comes back to the
assets for one that it has made itself, a closing takes the assets in the order of the rows, and an
ingestion one scope after the other, so that it is back at the assets once it has locked an address.

`Orderly` says which data keep a transaction to the order (`lock_order`). For an ingestion it is a
condition on each lease in the tables as the loop finds them: the leases that move (`Moves`) are all
of one asset. Orderly transactions never wait for each other. `ingestions_wait` are two that do: they
have the same two devices in opposite orders.
-/

namespace Kaya.Assets

open List
open Kaya.HA (DateTime seconds)

variable {keys : LockKeys} {macs : List String} {assetIds : List ℕ} {assignmentKeys : List ℤ}
  {calls : List LockCall}

/-! ### Scopes -/

theorem pairwise_scope :
    (lockIdentityScope keys macs assetIds assignmentKeys).Pairwise (· < ·) := by
  refine pairwise_append.2 ⟨pairwise_append.2 ⟨?_, ?_, tier_lt (by decide)⟩, ?_, ?_⟩
  · exact pairwise_tier 1 (pairwise_sortedKeys _)
  · exact pairwise_tier 2 (pairwise_sortedKeys _)
  · exact pairwise_tier 3 (pairwise_sortedKeys _)
  · intro x hx
    rcases mem_append.1 hx with hmac | hasset
    · exact tier_lt (by decide) x hmac
    · exact tier_lt (by decide) x hasset

theorem scope_addresses :
    lockIdentityScope keys [] [] assignmentKeys = tier 3 (sortedKeys assignmentKeys) := rfl

/-- What a scope locks lies in the tiers from 1 to 3. -/
theorem tier_of_mem_scope {x : Lock}
    (hx : x ∈ lockIdentityScope keys macs assetIds assignmentKeys) :
    ∃ n ks, x ∈ tier n ks ∧ 1 ≤ n ∧ n ≤ 3 ∧ (n = 3 → assignmentKeys ≠ []) := by
  rcases mem_append.1 hx with hlower | haddr
  · rcases mem_append.1 hlower with hmac | hasset
    · exact ⟨1, _, hmac, by decide, by decide, fun h ↦ absurd h (by decide)⟩
    · exact ⟨2, _, hasset, by decide, by decide, fun h ↦ absurd h (by decide)⟩
  · refine ⟨3, _, haddr, by decide, by decide, fun _ hnil ↦ ?_⟩
    rw [hnil] at haddr
    exact absurd haddr (by simp [sortedKeys, tier])

theorem confirmationLocks_inOrder (c : Confirmation) : InOrder [] (confirmationLocks keys c) :=
  inOrder_of_sorted pairwise_scope

theorem repairLocks_inOrder (r : Records) (request : RepairRequest) :
    InOrder [] (repairLocks keys r request) := by
  simp only [repairLocks]
  split
  next mac address _ _ =>
    refine inOrder_of_sorted (pairwise_append.2 ⟨pairwise_scope, ?_, ?_⟩)
    · split
      · exact pairwise_scope
      · exact .nil
    · split
      · intro x hx y hy
        obtain ⟨n, ks, hn, -, hle, hne⟩ := tier_of_mem_scope hx
        have hlt : n < 3 := lt_of_le_of_ne hle fun h ↦ hne h rfl
        rw [scope_addresses] at hy
        exact tier_lt hlt x hn y hy
      · exact fun _ _ _ hy ↦ absurd hy not_mem_nil
  · trivial

theorem adoptionScope_inOrder (a : Adoption) : InOrder [] (adoptionScope keys a) := by
  refine inOrder_of_sorted (pairwise_append.2
    ⟨pairwise_tier 0 (pairwise_sortedKeys _), pairwise_scope, fun x hx y hy ↦ ?_⟩)
  obtain ⟨n, ks, hn, hpos, -⟩ := tier_of_mem_scope hy
  exact tier_lt hpos x hx y hn

/-- An adoption locks the address of a managed record. -/
theorem addressKeys_eq_nil {a : Adoption} :
    a.addressKeys keys = [] ↔ a.address = none ∨ a.recordVlan = none := by
  rw [Adoption.addressKeys]
  cases a.address <;> cases a.recordVlan <;> simp

/-- The asset that an adoption makes comes after the address of its managed record. -/
theorem adoptionLocks_inOrder_iff (a : Adoption) : InOrder [] (adoptionLocks keys a) ↔
    (a.closes = true → a.assetId = none → a.address = none ∨ a.recordVlan = none) := by
  have haddr : a.address = none ∨ a.recordVlan = none ↔ a.addressKeys keys = [] :=
    addressKeys_eq_nil.symm
  rw [adoptionLocks, inOrder_append, and_iff_right (adoptionScope_inOrder a), nil_append, haddr]
  split
  next hcloses =>
    simp only [inOrder_cons, inOrder_nil, and_true, hcloses, forall_const]
    cases hasset : a.assetId with
    | some assetId =>
      -- the scope has locked an existing asset
      refine iff_of_true (.inl ?_) fun h ↦ absurd h (by simp)
      simp [adoptionScope, lockIdentityScope, lockAssetDhcp, toLex_mem_tier, hasset]
    | none =>
      have hscope : ∀ x, x ∈ adoptionScope keys a ↔
          x ∈ tier 0 (sortedKeys ((a.candidateId :: a.values.map (·.lockText) ++
            a.trafficText.toList).map keys.discovery)) ∨
          x ∈ tier 1 (sortedKeys ((macsOf a.values).map keys.mac)) ∨
            x ∈ tier 3 (sortedKeys (a.addressKeys keys)) := by
        intro x
        simp [adoptionScope, lockIdentityScope, hasset, sortedKeys, tier]
      have hnew : lockAssetDhcp keys (some ((none : Option ℕ).getD a.newAssetId)) ∉
          adoptionScope keys a := by
        simp [hscope, lockAssetDhcp, toLex_mem_tier]
      rw [or_iff_right hnew, forall_prop_of_true rfl]
      constructor
      · refine fun h ↦ eq_nil_iff_forall_not_mem.2 fun k hk ↦ ?_
        have haddr : (toLex (3, k) : Lock) ∈ tier 3 (sortedKeys (a.addressKeys keys)) :=
          toLex_mem_tier.2 ⟨rfl, mem_sortedKeys.2 hk⟩
        exact lt_asymm (h _ ((hscope _).2 (.inr (.inr haddr))))
          (tier_lt (by decide) _ (toLex_mem_tier.2 ⟨rfl, mem_singleton_self _⟩) _ haddr)
      · intro hnil x hx
        rw [hscope, hnil] at hx
        have hasset : lockAssetDhcp keys (some ((none : Option ℕ).getD a.newAssetId)) ∈
            tier 2 [keys.asset (some ((none : Option ℕ).getD a.newAssetId))] := mem_singleton_self _
        rcases hx with hdiscovery | hmac | haddr
        · exact tier_lt (by decide) x hdiscovery _ hasset
        · exact tier_lt (by decide) x hmac _ hasset
        · exact absurd haddr not_mem_nil
  next hcloses => exact iff_of_true trivial fun h ↦ absurd h hcloses

/-- Calls that lock assets only. -/
theorem locks_of_assets {ids : List ℕ} {f : ℕ → Option ℕ} :
    (ids.map fun id ↦ LockCall.asset (f id)).flatMap (·.locks keys) =
      tier 2 (ids.map fun id ↦ keys.asset (f id)) := by
  induction ids with
  | nil => rfl
  | cons id ids ih =>
    rw [map_cons, flatMap_cons, ih]
    rfl

/-! ### Ingestions -/

/-- A lease that goes on to the locks: one asset is its owner, by evidence or else by an earlier
assignment, and does not have the address; the lease is the newest of its identity, and no managed
static record outranks it. -/
structure Moves (r : Records) (t : Assignments) (leaseId : ℕ) (lease : DHCPLeaseHistory)
    (assetId : ℕ) (address : IPAddr) : Prop where
  moduleEnabled : r.moduleEnabled = true
  leaseAddress : lease.ipAddress.address = some address
  undisputed : (dhcpEvidenceOwner r (dhcpLeaseIdentifiers lease).1
    (dhcpLeaseIdentifiers lease).2).2 = false
  owner : ((dhcpEvidenceOwner r (dhcpLeaseIdentifiers lease).1 (dhcpLeaseIdentifiers lease).2).1 <|>
    dhcpAssignmentContinuityOwner r t leaseId lease (dhcpLeaseIdentifiers lease).2) = some assetId
  free : ∀ i ∈ t.ids, (t.row i).isOpenFor address address.version = true →
    (t.row i).assetId ≠ some assetId
  newest : ∀ j ∈ r.leases.ids, isNewer leaseId lease j (r.leases.row j) = true →
    sameIdentity lease (dhcpLeaseIdentifiers lease).2 (r.leases.row j) = false
  unranked : managedStaticOutranksLease r t assetId lease (dhcpLeaseIdentifiers lease).1
    address.version = false

theorem reconcileTarget_eq_ok {r : Records} {t : Assignments} {leaseId assetId : ℕ}
    {lease : DHCPLeaseHistory} {address : IPAddr} :
    reconcileTarget r t leaseId lease = .ok (assetId, address) ↔
      Moves r t leaseId lease assetId address := by
  simp only [reconcileTarget, require_bind_eq_ok, found_bind_eq_ok, pure_eq_ok, Prod.mk.injEq]
  constructor
  · rintro ⟨hmodule, _, haddr, hconflict, _, howner, hfree, hnewest, hranks, rfl, rfl⟩
    refine ⟨hmodule, haddr, hconflict, howner, fun i hi hopen hasset ↦ ?_, fun j hj hnew ↦ ?_,
      hranks⟩
    · exact absurd ⟨hopen, hasset⟩ (of_decide_eq_false ((t.exists?_eq_false.1 hfree) i hi))
    · refine Bool.eq_false_iff.2 fun hsame ↦ hnewest ⟨hasIdentity_of_same hsame, ?_⟩
      obtain ⟨hne, hlive, hlater⟩ := of_decide_eq_true hnew
      exact any_eq_true.2 ⟨j, hj, decide_eq_true ⟨hne, hlive, hsame, hlater⟩⟩
  · intro h
    refine ⟨h.moduleEnabled, address, h.leaseAddress, h.undisputed, assetId, h.owner, ?_, ?_,
      h.unranked, rfl, rfl⟩
    · exact t.exists?_eq_false.2 fun i hi ↦ decide_eq_false fun hopen ↦
        h.free i hi hopen.1 hopen.2
    · rintro ⟨-, hany⟩
      obtain ⟨j, hj, hnewer⟩ := any_eq_true.1 hany
      obtain ⟨hne, hlive, hsame, hlater⟩ := of_decide_eq_true hnewer
      exact Bool.false_ne_true
        ((h.newest j hj (decide_eq_true ⟨hne, hlive, hlater⟩)).symm.trans hsame)

namespace Ingestion

/-- What an ingestion has locked for a reconciliation so far. -/
def moved (s : Ingestion) : List (ℕ × IPAddr) :=
  s.calls.filterMap fun
    | .asset _ => none
    | .scope assetId address => some (assetId, address)

/-- The asset of a lease is the one that was moved before, if one was, and its address is one of
before or comes after those. -/
structure Follows (keys : LockKeys) (s : Ingestion) (assetId : ℕ) (address : IPAddr) : Prop where
  asset : s.moved ≠ [] → ∃ m ∈ s.moved, keys.asset (some m.1) = keys.asset (some assetId)
  address : (∃ m ∈ s.moved, dhcpAddressLockKey keys m.2 = dhcpAddressLockKey keys address) ∨
    ∀ m ∈ s.moved, dhcpAddressLockKey keys m.2 < dhcpAddressLockKey keys address

/-- Each lease of a batch that moves follows those before it. -/
def LeasesFollow (keys : LockKeys) (providerId : ℕ) (generatedAt : DateTime) :
    Ingestion → List DhcpItem → Prop
  | _, [] => True
  | s, item :: items =>
    (∀ leaseId arrived, s.arrive providerId generatedAt item = some (leaseId, arrived) →
      ∀ assetId address, Moves arrived.records arrived.assignments leaseId
        (arrived.instances.row leaseId) assetId address → s.Follows keys assetId address) ∧
    LeasesFollow keys providerId generatedAt (s.item providerId generatedAt item) items

/-- The assignments that are closed at the end are of the asset that was moved; where none was, the
keys of their assets come in order. -/
def ClosingFollows (keys : LockKeys) (providerId : ℕ) (generatedAt : DateTime) (s : Ingestion) :
    Prop :=
  s.records.moduleEnabled = true →
    let closed := (endedCandidates s.records s.assignments providerId generatedAt none false).map
      fun id ↦ keys.asset (s.assignments.row id).assetId
    if s.moved = [] then InOrder [] closed
    else ∀ k ∈ closed, ∃ m ∈ s.moved, keys.asset (some m.1) = k

variable {s : Ingestion} {providerId leaseId : ℕ} {generatedAt : DateTime} {item : DhcpItem}
  {items : List DhcpItem} {arrived : Ingestion}

/-- The locks that an ingestion has. -/
def held (keys : LockKeys) (s : Ingestion) : List Lock := s.calls.flatMap (·.locks keys)

/-- So far there were reconciliations only. -/
def OnlyMoved (s : Ingestion) : Prop := s.calls = s.moved.map fun m ↦ .scope m.1 m.2

/-- The lease of another identity is still active where the tables are read: nothing is closed
before the end. -/
theorem closingCalls_of_active (h : s.active providerId item.address = some leaseId) :
    closingCalls s.records s.assignments providerId generatedAt (some [leaseId]) false = [] := by
  obtain ⟨-, hp⟩ := Table.newest?_eq_some h
  obtain ⟨-, -, hlive⟩ := of_decide_eq_true hp
  have hnone : endedCandidates s.records s.assignments providerId generatedAt (some [leaseId])
      false = [] := by
    refine eq_nil_iff_forall_not_mem.2 fun i hi ↦ ?_
    have hrow := (Table.mem_select _).1 ((mem_insertionSort _).1 (mem_of_mem_take hi))
    obtain ⟨-, hlease⟩ := of_decide_eq_true hrow.2
    obtain ⟨id, -, hid⟩ := (Option.any_eq_true _ _).1 hlease
    obtain ⟨hmem, hended⟩ := of_decide_eq_true hid
    obtain ⟨lease, hget, hst⟩ := (Option.any_eq_true _ _).1 hended
    obtain rfl : id = leaseId := mem_singleton.1 (of_decide_eq_true hmem)
    obtain ⟨-, rfl⟩ := (Table.get?_eq_some _).1 hget
    exact of_decide_eq_true (of_decide_eq_true hst).2 hlive
  rw [closingCalls, hnone, map_nil, ite_self]

theorem calls_of_arrive (h : s.arrive providerId generatedAt item = some (leaseId, arrived)) :
    arrived.calls = s.calls := by
  simp only [arrive] at h
  split at h
  · cases h
  split at h
  next active hlive =>
    split at h
    · cases h
      rfl
    · cases h
      have hnone : closingCalls (s.endLease active generatedAt).records
          (s.endLease active generatedAt).assignments providerId generatedAt (some [active])
          false = [] := closingCalls_of_active hlive
      simp only [closeEnded, hnone, isEmpty_nil, if_true]
      rfl
  · cases h
    rfl

theorem calls_reconcile (s : Ingestion) (leaseId : ℕ) (generatedAt : DateTime) :
    (s.reconcile leaseId generatedAt).calls = s.calls ++
    match reconcileTarget s.records s.assignments leaseId (s.instances.row leaseId) with
    | .ok (assetId, address) => [.scope assetId address]
    | .error _ => [] := by
  simp only [reconcile]
  split
  next heq => rw [heq, append_nil]
  next assetId address heq =>
    rw [heq]
    split <;> rfl

theorem calls_closeEnded : (s.closeEnded providerId generatedAt none).calls.flatMap (·.locks keys) =
    s.held keys ++ (closingCalls s.records s.assignments providerId generatedAt none
      false).flatMap (·.locks keys) := by
  simp only [closeEnded]
  split
  next hempty => rw [isEmpty_iff.1 hempty, flatMap_nil, append_nil, held]
  next => exact flatMap_append

/-! #### Locks -/

theorem mem_held (h : s.OnlyMoved) {x : Lock} : x ∈ s.held keys ↔ ∃ m ∈ s.moved,
    x = toLex (2, keys.asset (some m.1)) ∨ x = toLex (3, dhcpAddressLockKey keys m.2) := by
  rw [held, h]
  simp [LockCall.locks, lockIdentityScope, sortedKeys, tier]

/-- A reconciliation keeps to the order where it follows those before it. -/
theorem inOrder_scope (h : s.OnlyMoved) {assetId : ℕ} {address : IPAddr} :
    InOrder (s.held keys) ((LockCall.scope assetId address).locks keys) ↔
      s.Follows keys assetId address := by
  have hlocks : (LockCall.scope assetId address).locks keys =
      [toLex (2, keys.asset (some assetId)), toLex (3, dhcpAddressLockKey keys address)] := by
    simp [LockCall.locks, lockIdentityScope, sortedKeys, tier]
  have hlt : ∀ k k' : ℤ, (toLex (2, k) : Lock) < toLex (3, k') := fun k k' ↦
    Prod.Lex.toLex_lt_toLex.2 (.inl (Nat.lt_succ_self 2))
  have hasset : (toLex (2, keys.asset (some assetId)) : Lock) ∈ s.held keys ↔
      ∃ m ∈ s.moved, keys.asset (some m.1) = keys.asset (some assetId) := by
    simp [mem_held h, eq_comm]
  have hfirst : (∀ x ∈ s.held keys, x < toLex (2, keys.asset (some assetId))) ↔ s.moved = [] := by
    constructor
    · refine fun hall ↦ eq_nil_iff_forall_not_mem.2 fun m hm ↦ ?_
      exact lt_asymm (hlt _ _) (hall _ ((mem_held h).2 ⟨m, hm, .inr rfl⟩))
    · intro hnil x hx
      obtain ⟨m, hm, -⟩ := (mem_held h).1 hx
      exact absurd (hnil ▸ hm) not_mem_nil
  have haddr : (toLex (3, dhcpAddressLockKey keys address) : Lock) ∈
      s.held keys ++ [toLex (2, keys.asset (some assetId))] ↔
        ∃ m ∈ s.moved, dhcpAddressLockKey keys m.2 = dhcpAddressLockKey keys address := by
    simp [mem_held h, eq_comm]
  have hlast : (∀ x ∈ s.held keys ++ [toLex (2, keys.asset (some assetId))],
      x < toLex (3, dhcpAddressLockKey keys address)) ↔
        ∀ m ∈ s.moved, dhcpAddressLockKey keys m.2 < dhcpAddressLockKey keys address := by
    constructor
    · exact fun hall m hm ↦ toLex_lt_iff.1
        (hall _ (mem_append_left _ ((mem_held h).2 ⟨m, hm, .inr rfl⟩)))
    · intro hall x hx
      rcases mem_append.1 hx with hheld | hnew
      · obtain ⟨m, hm, rfl | rfl⟩ := (mem_held h).1 hheld
        · exact hlt _ _
        · exact toLex_lt_iff.2 (hall m hm)
      · exact mem_singleton.1 hnew ▸ hlt _ _
  rw [hlocks]
  simp only [inOrder_cons, inOrder_nil, and_true, hasset, hfirst, haddr, hlast]
  constructor
  · exact fun hfollows ↦ ⟨fun hne ↦ hfollows.1.resolve_right hne, hfollows.2⟩
  · exact fun hfollows ↦ ⟨or_iff_not_imp_right.2 hfollows.asset, hfollows.address⟩

/-- The closing at the end. -/
theorem inOrder_closing (h : s.OnlyMoved) : InOrder (s.held keys)
    ((closingCalls s.records s.assignments providerId generatedAt none false).flatMap
      (·.locks keys)) ↔ s.ClosingFollows keys providerId generatedAt := by
  simp only [closingCalls, ClosingFollows]
  split
  next henab =>
    rw [locks_of_assets, forall_prop_of_true henab]
    split
    next hnil =>
      have hheld : s.held keys = tier 2 [] := by
        rw [held, h, hnil]
        rfl
      rw [hheld]
      exact inOrder_tier []
    next hne =>
      obtain ⟨m, hm⟩ := exists_mem_of_ne_nil _ hne
      rw [inOrder_below ((mem_held h).2 ⟨m, hm, .inr rfl⟩)
        fun x hx ↦ tier_lt (by decide) x hx _ (toLex_mem_tier.2 ⟨rfl, mem_singleton_self _⟩)]
      simp only [tier, forall_mem_map, mem_held h]
      simp [eq_comm]
  next hdisabled => exact iff_of_true trivial fun henab ↦ absurd henab hdisabled

/-- What a lease adds to the locks. -/
theorem onlyMoved_item (keys : LockKeys) (providerId : ℕ) (generatedAt : DateTime)
    (item : DhcpItem) (h : s.OnlyMoved) : (s.item providerId generatedAt item).OnlyMoved ∧
    (InOrder [] ((s.item providerId generatedAt item).held keys) ↔ InOrder [] (s.held keys) ∧
      ∀ leaseId arrived, s.arrive providerId generatedAt item = some (leaseId, arrived) →
        ∀ assetId address, Moves arrived.records arrived.assignments leaseId
          (arrived.instances.row leaseId) assetId address → s.Follows keys assetId address) := by
  simp only [Ingestion.item]
  split
  next hnone =>
    refine ⟨h, iff_self_and.2 fun _ leaseId arrived heq ↦ ?_⟩
    rw [hnone] at heq
    exact nomatch heq
  next leaseId arrived harrive =>
    have hcalls := calls_reconcile arrived leaseId generatedAt
    rw [calls_of_arrive harrive] at hcalls
    have hmoves : ∀ leaseId' arrived', s.arrive providerId generatedAt item =
        some (leaseId', arrived') → leaseId' = leaseId ∧ arrived' = arrived := by
      intro leaseId' arrived' heq
      rw [harrive] at heq
      cases heq
      exact ⟨rfl, rfl⟩
    rcases htgt : reconcileTarget arrived.records arrived.assignments leaseId
        (arrived.instances.row leaseId) with answer | target
    · rw [htgt, append_nil] at hcalls
      refine ⟨?_, ?_⟩
      · rw [OnlyMoved, moved, hcalls]
        exact h
      · rw [held, hcalls]
        refine iff_self_and.2 fun _ leaseId' arrived' heq assetId address hmove ↦ ?_
        obtain ⟨rfl, rfl⟩ := hmoves _ _ heq
        exact nomatch htgt.symm.trans (reconcileTarget_eq_ok.2 hmove)
    · obtain ⟨assetId, address⟩ := target
      rw [htgt] at hcalls
      refine ⟨?_, ?_⟩
      · rw [OnlyMoved, moved, hcalls, filterMap_append, map_append, ← moved, ← h]
        rfl
      · rw [held, hcalls, flatMap_append, inOrder_append, nil_append, ← held, flatMap_singleton,
          inOrder_scope h]
        refine and_congr_right fun _ ↦ ⟨fun hfollows leaseId' arrived' heq assetId' address' hmove ↦
          ?_, fun hall ↦ hall leaseId arrived harrive assetId address (reconcileTarget_eq_ok.1 htgt)⟩
        obtain ⟨rfl, rfl⟩ := hmoves _ _ heq
        cases htgt.symm.trans (reconcileTarget_eq_ok.2 hmove)
        exact hfollows

/-- **A batch** keeps to the order where each lease follows those before it. -/
theorem inOrder_items (keys : LockKeys) (providerId : ℕ) (generatedAt : DateTime)
    (items : List DhcpItem) (h : s.OnlyMoved) :
    (items.foldl (Ingestion.item providerId generatedAt) s).OnlyMoved ∧
      (InOrder [] ((items.foldl (Ingestion.item providerId generatedAt) s).held keys) ↔
        InOrder [] (s.held keys) ∧ LeasesFollow keys providerId generatedAt s items) := by
  induction items generalizing s with
  | nil => exact ⟨h, (and_iff_left trivial).symm⟩
  | cons item items ih =>
    obtain ⟨hitem, hlease⟩ := onlyMoved_item keys providerId generatedAt item h
    obtain ⟨hmoved, hitems⟩ := ih hitem
    rw [foldl_cons]
    exact ⟨hmoved, hitems.trans ((and_congr_left fun _ ↦ hlease).trans and_assoc)⟩

end Ingestion

theorem observeLeases_calls {r : Records} {t : Assignments} {providerId : ℕ}
    {items : List DhcpItem} {generatedAt : DateTime} {snapshotAuthoritative : Bool} :
    (observeLeases r t providerId items generatedAt snapshotAuthoritative).calls =
      (items.foldl (Ingestion.item providerId generatedAt) (.start r t)).calls := by
  rw [observeLeases]
  split <;> rfl

/-! ### The order -/

/-- When a transaction keeps to the order. An adoption has made no asset, or has no managed record
for its address; the assets of the rows that are closed come in the order of their keys; and the
leases of an ingestion that move are of one asset, as are the assignments that it then closes. -/
def IdentityTransaction.Orderly (keys : LockKeys) : IdentityTransaction → Prop
  | .confirm _ => True
  | .repair _ _ => True
  | .adopt a => a.closes = true → a.assetId = none → a.address = none ∨ a.recordVlan = none
  | .closeEnded r t providerId observedAt leaseIds expiredOnly =>
    r.moduleEnabled = true →
      InOrder [] ((endedCandidates r t providerId observedAt leaseIds expiredOnly).map
        fun id ↦ keys.asset (t.row id).assetId)
  | .ingest r t providerId items generatedAt snapshotAuthoritative =>
    Ingestion.LeasesFollow keys providerId generatedAt (.start r t) items ∧
      (observeLeases r t providerId items generatedAt snapshotAuthoritative).ClosingFollows keys
        providerId generatedAt

/-- Where a transaction keeps to the order. -/
theorem inOrder_iff (tx : IdentityTransaction) : InOrder [] (tx.locks keys) ↔ tx.Orderly keys := by
  cases tx with
  | confirm c => exact iff_of_true (confirmationLocks_inOrder c) trivial
  | repair r request => exact iff_of_true (repairLocks_inOrder r request) trivial
  | adopt a => exact adoptionLocks_inOrder_iff a
  | closeEnded r t providerId observedAt leaseIds expiredOnly =>
    simp only [IdentityTransaction.locks, IdentityTransaction.Orderly, closingCalls]
    split
    next henab =>
      rw [locks_of_assets, forall_prop_of_true henab]
      exact inOrder_tier []
    next hdisabled => exact iff_of_true trivial fun h ↦ absurd h hdisabled
  | ingest r t providerId items generatedAt snapshotAuthoritative =>
    obtain ⟨hmoved, hitems⟩ := Ingestion.inOrder_items keys providerId generatedAt items
      (s := .start r t) rfl
    have hobserved : (observeLeases r t providerId items generatedAt
        snapshotAuthoritative).OnlyMoved := by
      rw [Ingestion.OnlyMoved, Ingestion.moved, observeLeases_calls]
      exact hmoved
    have hheld : (observeLeases r t providerId items generatedAt snapshotAuthoritative).held keys =
        (items.foldl (Ingestion.item providerId generatedAt) (.start r t)).held keys := by
      rw [Ingestion.held, observeLeases_calls, Ingestion.held]
    have hcalls : (persistDhcpLeases r t providerId items generatedAt
        snapshotAuthoritative).calls.flatMap (·.locks keys) =
          (observeLeases r t providerId items generatedAt snapshotAuthoritative).held keys ++
          (closingCalls _ _ providerId generatedAt none false).flatMap (·.locks keys) :=
      Ingestion.calls_closeEnded
    show InOrder [] ((persistDhcpLeases r t providerId items generatedAt
      snapshotAuthoritative).calls.flatMap (·.locks keys)) ↔ _
    rw [hcalls, inOrder_append, nil_append, Ingestion.inOrder_closing hobserved, hheld, hitems]
    exact and_congr_left fun _ ↦ and_iff_right trivial

/-- Orderly, but for the asset that an adoption has made itself and the other one does not ask
for: it is invisible to others until the commit. -/
def IdentityTransaction.OrderlyBeside (keys : LockKeys) (tx tx' : IdentityTransaction) : Prop :=
  tx.Orderly keys ∨ ∃ a, tx = .adopt a ∧ a.assetId = none ∧
    lockAssetDhcp keys (some a.newAssetId) ∉ tx'.locks keys

/-- Without that asset the transaction keeps to the order. -/
theorem IdentityTransaction.OrderlyBeside.exists_inOrder {tx tx' : IdentityTransaction}
    (h : tx.OrderlyBeside keys tx') : ∃ xs, InOrder [] xs ∧ xs ⊆ tx.locks keys ∧
      ∀ ys ⊆ tx'.locks keys, Deadlock (tx.locks keys) ys → Deadlock xs ys := by
  rcases h with horderly | ⟨a, rfl, hnone, hnew⟩
  · exact ⟨_, (inOrder_iff tx).2 horderly, Subset.refl _, fun _ _ h ↦ h⟩
  · refine ⟨_, adoptionScope_inOrder a, subset_append_left _ _, fun ys hys h ↦ ?_⟩
    simp only [IdentityTransaction.locks, adoptionLocks, hnone] at h
    split at h
    · exact h.of_snoc fun hmem ↦ hnew (hys hmem)
    · rwa [append_nil] at h

/-- **The order of locks.** A transaction keeps to it exactly where it is orderly, and two
transactions that are orderly beside each other do not wait for each other. -/
theorem lock_order (keys : LockKeys) (tx : IdentityTransaction) :
    (InOrder [] (tx.locks keys) ↔ tx.Orderly keys) ∧
      ∀ tx' : IdentityTransaction, tx.OrderlyBeside keys tx' → tx'.OrderlyBeside keys tx →
        ¬ Deadlock (tx.locks keys) (tx'.locks keys) := by
  refine ⟨inOrder_iff tx, fun tx' h h' hdead ↦ ?_⟩
  obtain ⟨xs, hxs, hsub, hreduce⟩ := h.exists_inOrder
  obtain ⟨ys, hys, -, hreduce'⟩ := h'.exists_inOrder
  have hfirst : Deadlock xs (tx'.locks keys) := hreduce _ (Subset.refl _) hdead
  exact not_deadlock hxs hys (hreduce' xs hsub hfirst.symm).symm

/-! ### Two ingestions -/

/-- The digests of the examples. -/
def sampleKeys : LockKeys where
  discovery _ := 0
  mac _ := 0
  asset assetId := if assetId = some 1 then -4290581216531586289 else -8356420609227109513
  assignment context :=
    match context.address with
    | .v4 167772161 => 480476051777355143
    | .v4 167772162 => -5683061162105571113
    | .v4 167837697 => -6134521493127479823
    | _ => -5949458362740957955

/-- Two assets with a MAC each, and no lease so far. -/
def twoDevices : Records where
  assets := ⟨[1, 2], fun _ ↦ {}, HA.nodup_pair⟩
  vlans := ⟨[], fun _ ↦ {}, List.nodup_nil⟩
  ipAddresses := ⟨[], fun _ ↦ { address := none }, List.nodup_nil⟩
  evidence := ⟨[1, 2], fun id ↦
    { assetId := some id, evidenceType := .mac
      normalisedValue := if id = 1 then "02:00:5e:10:00:01" else "02:00:5e:10:00:02"
      source := "manual", status := .confirmed }, HA.nodup_pair⟩
  leases := ⟨[], fun _ ↦
    { ipAddress := ⟨"", none⟩, leaseStartedAt := 0, firstSeenAt := 0, lastSeenAt := 0 },
    List.nodup_nil⟩
  rangeVlan _ := none

/-- A lease of the first device. -/
def firstDevice (text : String) (address : ℕ) : DhcpItem :=
  { address := ⟨text, some (.v4 address)⟩, mac := some "02:00:5e:10:00:01" }

/-- A lease of the second device. -/
def secondDevice (text : String) (address : ℕ) : DhcpItem :=
  { address := ⟨text, some (.v4 address)⟩, mac := some "02:00:5e:10:00:02" }

/-- A provider with the first device before the second one. -/
def firstProvider : IdentityTransaction :=
  .ingest twoDevices noAssignments 1
    [firstDevice "10.0.0.1" 167772161, secondDevice "10.0.0.2" 167772162] (seconds 100) false

/-- A provider with the second device before the first one. -/
def secondProvider : IdentityTransaction :=
  .ingest twoDevices noAssignments 2
    [secondDevice "10.1.0.2" 167837698, firstDevice "10.1.0.1" 167837697] (seconds 100) false

/-- Each device has the address at which one of the two providers sees it. -/
def heldAddresses : Assignments :=
  ⟨[1, 2], fun id ↦
    { assetId := some id
      address := .v4 (if id = 1 then 167772161 else 167837698)
      addressFamily := 4, startedAt := 0, provenance := "", status := .confirmed }, HA.nodup_pair⟩

/-- The two providers, where each finds only its second device at a new address. -/
def firstRenewed : IdentityTransaction :=
  .ingest twoDevices heldAddresses 1
    [firstDevice "10.0.0.1" 167772161, secondDevice "10.0.0.2" 167772162] (seconds 100) false

/-- The other provider. -/
def secondRenewed : IdentityTransaction :=
  .ingest twoDevices heldAddresses 2
    [secondDevice "10.1.0.2" 167837698, firstDevice "10.1.0.1" 167837697] (seconds 100) false

theorem lock_order_example :
    (InOrder [] (firstRenewed.locks sampleKeys) ↔ firstRenewed.Orderly sampleKeys) ∧
      ¬ Deadlock (firstRenewed.locks sampleKeys) (secondRenewed.locks sampleKeys) := by
  obtain ⟨horder, hfree⟩ := lock_order sampleKeys firstRenewed
  have hfirst : firstRenewed.locks sampleKeys =
      [toLex (2, -8356420609227109513), toLex (3, -5683061162105571113)] := by decide +kernel
  have hsecond : secondRenewed.locks sampleKeys =
      [toLex (2, -4290581216531586289), toLex (3, -6134521493127479823)] := by decide +kernel
  refine ⟨horder, hfree secondRenewed (.inl (horder.1 ?_)) (.inl ((inOrder_iff _).1 ?_))⟩
  · rw [hfirst]
    decide +kernel
  · rw [hsecond]
    decide +kernel

/-- Two ingestions that wait for each other: each has locked the asset that the other one needs
next. -/
theorem ingestions_wait :
    Deadlock (firstProvider.locks sampleKeys) (secondProvider.locks sampleKeys) := by
  have hfirst : firstProvider.locks sampleKeys =
      [toLex (2, -4290581216531586289), toLex (3, 480476051777355143),
        toLex (2, -8356420609227109513), toLex (3, -5683061162105571113)] := by decide +kernel
  have hsecond : secondProvider.locks sampleKeys =
      [toLex (2, -8356420609227109513), toLex (3, -5949458362740957955),
        toLex (2, -4290581216531586289), toLex (3, -6134521493127479823)] := by decide +kernel
  rw [hfirst, hsecond]
  exact ⟨[toLex (2, -4290581216531586289), toLex (3, 480476051777355143)],
    toLex (2, -8356420609227109513),
    [toLex (2, -8356420609227109513), toLex (3, -5949458362740957955)],
    toLex (2, -4290581216531586289), ⟨⟨_, rfl⟩, by decide +kernel⟩, ⟨⟨_, rfl⟩, by decide +kernel⟩,
    by decide +kernel, by decide +kernel⟩

end Kaya.Assets
