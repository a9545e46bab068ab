import Kaya.Assets.Assignments

/-!
# One asset at a time

A call on the assignments ends some of them earlier, and may then add or confirm one (`Writes`). No
time is given to two assets of one context (`Exclusive`) as long as the row that is added or
confirmed is `Free` of the confirmed ones of other assets. `assign_network_identity` asks for that;
`confirm_existing_network_assignment` asks for nothing, and the other two writers for rows that have
no end yet. `suits` is what they leave out, and `exclusive_along` the law under it.
-/

namespace Kaya.Assets

open List
open Kaya.HA (DateTime seconds)

variable {t t' : Assignments} {r : Records} {user : User} {i j assetId : ℕ}
  {row row' : AssetNetworkAssignment} {context : Context} {now : DateTime} {audited : Bool}

/-! ### Exclusive assignments -/

/-- Confirmed assignments of different assets with one context share no time. -/
def Exclusive (t : Assignments) : Prop :=
  ∀ i ∈ t.ids, ∀ j ∈ t.ids, (t.row i).status = .confirmed → (t.row j).status = .confirmed →
    (t.row i).assetId ≠ (t.row j).assetId → (t.row i).context = (t.row j).context →
      Disjoint (t.row i).period (t.row j).period

/-- What holds of the assignments in every run. -/
structure AssignmentInvariant (t : Assignments) : Prop where
  owned : ∀ i ∈ t.ids, (t.row i).status = .confirmed → ∃ assetId, (t.row i).assetId = some assetId
  exclusive : Exclusive t

/-- Other assets have nothing confirmed in these times. -/
def Free (t : Assignments) (assetId : ℕ) (context : Context) (times : Set DateTime) : Prop :=
  ∀ i ∈ t.ids, (t.row i).status = .confirmed → (t.row i).assetId ≠ some assetId →
    (t.row i).context = context → Disjoint (t.row i).period times

/-- The same assignment for a part of its times. -/
structure Narrower (row row' : AssetNetworkAssignment) : Prop where
  assetId : row'.assetId = row.assetId
  context : row'.context = row.context
  status : row'.status = row.status
  period : row'.period ⊆ row.period

theorem Narrower.refl (row : AssetNetworkAssignment) : Narrower row row :=
  ⟨rfl, rfl, rfl, subset_rfl⟩

/-- A row that gets an earlier end. -/
theorem narrower_of_end {e : DateTime} (h : ∀ e' ∈ row.endedAt, e ≤ e') :
    Narrower row { row with endedAt := some e } :=
  ⟨rfl, rfl, rfl, period_subset fun e' he' ↦ ⟨e, rfl, h e' he'⟩⟩

theorem narrower_of_open {e : DateTime} (h : row.isOpen = true) :
    Narrower row { row with endedAt := some e } := by
  simp only [AssetNetworkAssignment.isOpen, decide_eq_true_eq] at h
  exact narrower_of_end fun e' he' ↦ by simp [h.2] at he'

/-- Every row as it was, or for a part of its times. -/
structure Narrows (t t' : Assignments) : Prop where
  ids : t'.ids = t.ids
  rows : ∀ i ∈ t.ids, Narrower (t.row i) (t'.row i)

theorem Narrows.refl (t : Assignments) : Narrows t t := ⟨rfl, fun _ _ ↦ .refl _⟩

theorem narrows_modify {f : AssetNetworkAssignment → AssetNetworkAssignment}
    (h : Narrower (t.row i) (f (t.row i))) : Narrows t (t.modify i f) := by
  refine ⟨rfl, fun j _ ↦ ?_⟩
  by_cases hj : j = i
  · subst hj
    exact (t.modify_row_self j f).symm ▸ h
  · exact (t.modify_row_of_ne hj f).symm ▸ .refl _

theorem narrows_mapRows {f : ℕ → AssetNetworkAssignment → AssetNetworkAssignment}
    (h : ∀ i ∈ t.ids, Narrower (t.row i) (f i (t.row i))) : Narrows t (t.mapRows f) := by
  refine ⟨rfl, fun i hi ↦ ?_⟩
  rw [Table.mapRows_row, if_pos hi]
  exact h i hi

/-- Rows that are open get an end. -/
theorem narrows_close {ids : List ℕ} {e : ℕ → AssetNetworkAssignment → DateTime}
    (h : ∀ i ∈ ids, (t.row i).isOpen = true) :
    Narrows t (t.mapRows fun i row ↦
      if i ∈ ids then { row with endedAt := some (e i row) } else row) := by
  refine narrows_mapRows fun i _ ↦ ?_
  split
  next hi => exact narrower_of_open (h i hi)
  · exact .refl _

/-! ### Steps -/

/-- What a call makes of the assignments. -/
inductive Writes (t : Assignments) : Assignments → Prop
  | narrow {t' : Assignments} (h : Narrows t t') : Writes t t'
  | add {t' : Assignments} {row : AssetNetworkAssignment} {assetId : ℕ} (h : Narrows t t')
      (hasset : row.assetId = some assetId) (hfree : Free t assetId row.context row.period) :
      Writes t (t'.insert row)
  | confirm {i assetId : ℕ} {f : AssetNetworkAssignment → AssetNetworkAssignment}
      (hasset : (f (t.row i)).assetId = some assetId)
      (hfree : Free t assetId (f (t.row i)).context (f (t.row i)).period) :
      Writes t (t.modify i f)

theorem AssignmentInvariant.narrow (ht : AssignmentInvariant t) (h : Narrows t t') :
    AssignmentInvariant t' where
  owned i hi hconf := by
    rw [h.ids] at hi
    have hrow := h.rows i hi
    rw [hrow.status] at hconf
    rw [hrow.assetId]
    exact ht.owned i hi hconf
  exclusive i hi j hj hi' hj' hassets hctx := by
    rw [h.ids] at hi hj
    have hrow := h.rows i hi
    have hother := h.rows j hj
    rw [hrow.status] at hi'
    rw [hother.status] at hj'
    rw [hrow.assetId, hother.assetId] at hassets
    rw [hrow.context, hother.context] at hctx
    exact (ht.exclusive i hi j hj hi' hj' hassets hctx).mono hrow.period hother.period

theorem Free.narrow {times : Set DateTime} (hfree : Free t assetId context times)
    (h : Narrows t t') : Free t' assetId context times := by
  intro i hi hconf hasset hctx
  rw [h.ids] at hi
  have hrow := h.rows i hi
  rw [hrow.status] at hconf
  rw [hrow.assetId] at hasset
  rw [hrow.context] at hctx
  exact (hfree i hi hconf hasset hctx).mono_left hrow.period

/-- Two tables that agree but for one row, which is free of the others. -/
theorem AssignmentInvariant.of_free (k assetId : ℕ) (ht : AssignmentInvariant t)
    (hrows : ∀ i ∈ t'.ids, i ≠ k → i ∈ t.ids ∧ t'.row i = t.row i)
    (hasset : (t'.row k).assetId = some assetId)
    (hfree : Free t assetId (t'.row k).context (t'.row k).period) : AssignmentInvariant t' where
  owned i hi hconf := by
    by_cases hik : i = k
    · exact ⟨assetId, hik ▸ hasset⟩
    · obtain ⟨hmem, hrow⟩ := hrows i hi hik
      rw [hrow] at hconf ⊢
      exact ht.owned i hmem hconf
  exclusive i hi j hj hi' hj' hassets hctx := by
    have hothers : ∀ i ∈ t'.ids, i ≠ k → (t'.row i).status = .confirmed →
        (t'.row i).assetId ≠ (t'.row k).assetId → (t'.row i).context = (t'.row k).context →
          Disjoint (t'.row i).period (t'.row k).period := by
      intro i hi hik hconf hne hsame
      obtain ⟨hmem, hrow⟩ := hrows i hi hik
      rw [hrow] at hconf hne hsame ⊢
      exact hfree i hmem hconf (hasset ▸ hne) hsame
    by_cases hik : i = k
    · by_cases hjk : j = k
      · exact absurd rfl ((hik.trans hjk.symm) ▸ hassets)
      · subst hik
        exact (hothers j hj hjk hj' hassets.symm hctx.symm).symm
    · by_cases hjk : j = k
      · subst hjk
        exact hothers i hi hik hi' hassets hctx
      · obtain ⟨hmem, hrow⟩ := hrows i hi hik
        obtain ⟨hmem', hrow'⟩ := hrows j hj hjk
        rw [hrow] at hi' hassets hctx ⊢
        rw [hrow'] at hj' hassets hctx ⊢
        exact ht.exclusive i hmem j hmem' hi' hj' hassets hctx

theorem AssignmentInvariant.writes (ht : AssignmentInvariant t) (h : Writes t t') :
    AssignmentInvariant t' := by
  cases h with
  | narrow h => exact ht.narrow h
  | @add t' row assetId h hasset hfree =>
    refine (ht.narrow h).of_free t'.freshKey assetId ?_ ?_ ?_
    · intro i hi hne
      have hmem : i ∈ t'.ids :=
        (mem_append.1 hi).resolve_right fun h ↦ hne (mem_singleton.1 h)
      exact ⟨hmem, t'.insert_row_of_mem row hmem⟩
    · rw [Table.insert_row_fresh, hasset]
    · rw [Table.insert_row_fresh]
      exact hfree.narrow h
  | @confirm i assetId f hasset hfree =>
    refine ht.of_free i assetId ?_ ?_ ?_
    · exact fun j hj hne ↦ ⟨hj, t.modify_row_of_ne hne f⟩
    · rw [Table.modify_row_self, hasset]
    · rw [Table.modify_row_self]
      exact hfree

/-! ### Checks of the code -/

/-- The check of `assign_network_identity`. -/
theorem free_of_conflicts {start : DateTime} {stop : Option DateTime}
    (h : conflicts t assetId context start stop = false) :
    Free t assetId context (period start stop) := by
  intro i hi hconf hasset hctx
  have hrow := t.exists?_eq_false.1 h i hi
  simp only [AssetNetworkAssignment.isConfirmed, hconf, hctx, hasset, decide_true,
    true_and, ne_eq, not_false_eq_true, and_true, decide_eq_false_iff_not, Bool.not_eq_true] at hrow
  exact disjoint_of_not_overlap hrow

/-- The closed rows of other assets in the context have ended by then. -/
def endedBy (t : Assignments) (assetId : ℕ) (context : Context) (start : DateTime) : Bool :=
  !t.exists? fun row ↦ row.isConfirmed ∧ row.context = context ∧ row.assetId ≠ some assetId ∧
    row.endedAt.any (start < ·)

/-- The check of the other writers, with what it leaves out. -/
theorem free_of_endedBy {start : DateTime} (ht : AssignmentInvariant t)
    (hheld : heldElsewhere t assetId context.address context.addressFamily = false)
    (hended : endedBy t assetId context start = true) :
    Free t assetId context (period start none) := by
  intro i hi hconf hasset hctx
  have hopen := t.exists?_eq_false.1 hheld i hi
  have hclosed := t.exists?_eq_false.1 (Bool.not_eq_true' _ ▸ hended) i hi
  obtain ⟨owner, howner⟩ := ht.owned i hi hconf
  rw [AssetNetworkAssignment.period]
  cases hend : (t.row i).endedAt with
  | none =>
    have haddr : (t.row i).address = context.address := congrArg Context.address hctx
    have hfamily : (t.row i).addressFamily = context.addressFamily :=
      congrArg Context.addressFamily hctx
    have hne : owner ≠ assetId := fun h ↦ hasset (howner.trans (congrArg some h))
    simp [AssetNetworkAssignment.isOpenFor, AssetNetworkAssignment.isOpen,
      AssetNetworkAssignment.isElsewhere, hconf, hend, haddr, hfamily, howner, hne] at hopen
  | some e =>
    simp only [AssetNetworkAssignment.isConfirmed, hconf, hctx, hasset, hend, decide_true,
      Option.any_some, true_and, ne_eq, not_false_eq_true, decide_eq_true_eq,
      decide_eq_false_iff_not, not_lt] at hclosed
    exact disjoint_of_stop_le hclosed

/-! ### The calls -/

theorem assign_writes {request : AssignRequest}
    (h : assignNetworkIdentity r t user request now audited = .ok t') : Writes t t' := by
  simp only [assignNetworkIdentity, require_bind_eq_ok, found_bind_eq_ok, pure_eq_ok] at h
  obtain ⟨-, -, -, address, -, -, -, -, -, hfree, -, rfl⟩ := h
  exact .add (.refl t) rfl (free_of_conflicts hfree)

theorem close_writes {endedAt : DateTime}
    (h : closeNetworkAssignment t user i endedAt audited = .ok t') : Writes t t' := by
  simp only [closeNetworkAssignment, require_bind_eq_ok, found_bind_eq_ok, pure_eq_ok,
    Table.get?_eq_some, Option.all_eq_true, decide_eq_true_eq] at h
  obtain ⟨-, row, ⟨-, rfl⟩, -, hend, -, rfl⟩ := h
  exact .narrow (narrows_modify (narrower_of_end hend))

/-- A row that is confirmed is free of the others. -/
theorem confirm_writes {confirmedAt : DateTime}
    (h : confirmExistingNetworkAssignment r t user i confirmedAt audited = .ok t')
    (hfree : ∀ row assetId, t.get? i = some row → row.assetId = some assetId →
      row.status = .pending →
        conflicts t assetId row.context row.startedAt row.endedAt = false) : Writes t t' := by
  simp only [confirmExistingNetworkAssignment, require_bind_eq_ok, found_bind_eq_ok] at h
  obtain ⟨-, row, hrow, hasset, h⟩ := h
  split at h
  · rw [pure_eq_ok] at h
    exact h ▸ .narrow (.refl t)
  · simp only [require_bind_eq_ok, pure_eq_ok] at h
    obtain ⟨hpend, -, -, rfl⟩ := h
    obtain ⟨assetId, hasset⟩ := Option.isSome_iff_exists.1 hasset
    have hconflicts := hfree row assetId hrow hasset hpend
    obtain ⟨-, rfl⟩ := t.get?_eq_some.1 hrow
    exact .confirm hasset (free_of_conflicts hconflicts)

theorem isOpen_of_superseded {family : ℕ} {macs : List String} {leaseIds : List ℕ}
    {address : IPAddr}
    (hi : i ∈ supersededDhcpAssignments r t assetId address family macs leaseIds) :
    (t.row i).isOpen = true := by
  have hmem := mem_of_mem_take (mem_of_mem_filter hi)
  have hrow := (t.mem_select.1 hmem).2
  exact (of_decide_eq_true hrow).1

theorem applyRepair_writes {request : RepairRequest} {address : IPAddr} {recordId : ℕ}
    {current : Option ℕ} {superseded : List ℕ} (ht : AssignmentInvariant t)
    (hopen : ∀ i ∈ superseded, (t.row i).isOpen = true)
    (hheld : heldElsewhere t request.assetId address address.version = false)
    (hended : current = none → endedBy t request.assetId
      ⟨address, address.version, (r.ipAddresses.row recordId).vlanId, none, none⟩ now = true) :
    Writes t (applyRepair r t request address recordId current superseded now) := by
  have hclose : Narrows t (t.mapRows fun i row ↦
      if i ∈ superseded then { row with endedAt := some (max row.startedAt now) } else row) :=
    narrows_close hopen
  simp only [applyRepair]
  cases current with
  | some id => exact .narrow hclose
  | none => exact .add hclose rfl (free_of_endedBy ht hheld (hended rfl))

theorem repair_writes {request : RepairRequest} (ht : AssignmentInvariant t)
    (h : repairManagedStaticAssignment r t request now audited = .ok t')
    (hended : ∀ mac address id, normaliseMac request.mac = some mac →
      request.address.address = some address →
      managedStaticRecordFor r address mac request.ipAddressId = .ok id → request.execute = true →
      t.select (fun row ↦ row.isOpenFor address address.version ∧
        row.assetId = some request.assetId) = [] → endedBy t request.assetId
        ⟨address, address.version, (r.ipAddresses.row id).vlanId, none, none⟩ now = true) :
    Writes t t' := by
  simp only [repairManagedStaticAssignment, require_bind_eq_ok, found_bind_eq_ok] at h
  obtain ⟨-, -, mac, hmac, address, haddr, -, -, h⟩ := h
  obtain ⟨-, -, h⟩ := bind_eq_ok.1 h
  obtain ⟨id, hid, h⟩ := bind_eq_ok.1 h
  obtain ⟨⟨current, superseded⟩, hst, h⟩ := bind_eq_ok.1 h
  simp only [managedStaticState, require_bind_eq_ok, pure_eq_ok, Prod.mk.injEq] at hst
  obtain ⟨hheld, hcur, hsuperseded⟩ := hst
  simp only [require_bind_eq_ok] at h
  obtain ⟨-, h⟩ := h
  split at h
  · rw [pure_eq_ok] at h
    exact h ▸ .narrow (.refl t)
  next hexecute =>
    simp only [require_bind_eq_ok, pure_eq_ok] at h
    obtain ⟨-, -, rfl⟩ := h
    have hexecutes : request.execute = true := by
      by_contra hnot
      exact hexecute (.inl hnot)
    refine applyRepair_writes ht (fun i hi ↦ isOpen_of_superseded (hsuperseded ▸ hi)) hheld ?_
    intro hnone
    exact hended mac address id hmac haddr hid hexecutes
      (head?_eq_none_iff.1 (hcur.trans hnone))

theorem reconcileLocked_writes {leaseId : ℕ} {lease : DHCPLeaseHistory} {address : IPAddr}
    {observedAt : DateTime} (ht : AssignmentInvariant t)
    (hended : endedBy t assetId
      ⟨address, address.version, replacementVlan r t leaseId lease assetId address, none, none⟩
      (replacementStart r t leaseId lease assetId address observedAt) = true) :
    Writes t (reconcileLocked r t leaseId lease assetId address observedAt).1 := by
  simp only [reconcileLocked]
  split
  · exact .narrow (.refl t)
  split
  · exact .narrow (.refl t)
  next hheld =>
    have hopen : ∀ i ∈ supersededRows r t leaseId lease assetId address.version,
        (t.row i).isOpen = true := by
      intro i hi
      have hmem := mem_of_mem_take (mem_of_mem_filter hi)
      have hrow := (t.mem_select.1 hmem).2
      exact (of_decide_eq_true hrow).1
    exact .add (narrows_close hopen) rfl (free_of_endedBy ht (Bool.not_eq_true _ ▸ hheld) hended)

theorem reconcile_writes {leaseId : ℕ} {observedAt : DateTime} {answer : Reconciled}
    (ht : AssignmentInvariant t)
    (h : reconcileDhcpAssignment r t leaseId observedAt audited = .ok (t', answer))
    (hended : ∀ lease assetId address, r.leases.get? leaseId = some lease →
      reconcileTarget r t leaseId lease = .ok (assetId, address) → endedBy t assetId
        ⟨address, address.version, replacementVlan r t leaseId lease assetId address, none, none⟩
        (replacementStart r t leaseId lease assetId address observedAt) = true) : Writes t t' := by
  simp only [reconcileDhcpAssignment] at h
  split at h
  · obtain ⟨rfl, -⟩ := Prod.mk.inj (Except.ok.inj h)
    exact .narrow (.refl t)
  next lease hlease =>
    split at h
    · obtain ⟨rfl, -⟩ := Prod.mk.inj (Except.ok.inj h)
      exact .narrow (.refl t)
    next assetId address htgt =>
      simp only [require_bind_eq_ok, pure_eq_ok, Prod.mk.injEq] at h
      obtain ⟨-, rfl, -⟩ := h
      exact reconcileLocked_writes ht (hended lease assetId address hlease htgt)

theorem closeEnded_writes {providerId : ℕ} {observedAt : DateTime} {leaseIds : Option (List ℕ)}
    {expiredOnly : Bool} (h : closeEndedDhcpAssignments r t providerId observedAt leaseIds
      expiredOnly audited = .ok t') : Writes t t' := by
  simp only [closeEndedDhcpAssignments] at h
  split at h
  · simp only [require_bind_eq_ok, pure_eq_ok] at h
    obtain ⟨-, rfl⟩ := h
    refine .narrow (narrows_close fun i hi ↦ ?_)
    have hmem := (mem_insertionSort _).1 (mem_of_mem_take hi)
    have hrow := (t.mem_select.1 hmem).2
    exact (of_decide_eq_true hrow).1
  · exact Except.ok.inj h ▸ .narrow (.refl t)

/-! ### Runs -/

/-- What the calls leave out. A row is confirmed only while no confirmed row of another asset
overlaps it, and a row without an end is added only when the closed ones of other assets have ended
by its start. -/
def suits (t : Assignments) (e : AssignmentEvent) : Bool :=
  match e.call with
  | .confirm _ assignmentId _ =>
    (t.get? assignmentId).all fun row ↦ row.assetId.all fun assetId ↦ row.status ≠ .pending ∨
      conflicts t assetId row.context row.startedAt row.endedAt = false
  | .repair request now =>
    (normaliseMac request.mac).all fun mac ↦ request.address.address.all fun address ↦
      match managedStaticRecordFor e.records address mac request.ipAddressId with
      | .ok id => request.execute = false ∨
        t.select (fun row ↦ row.isOpenFor address address.version ∧
          row.assetId = some request.assetId) ≠ [] ∨ endedBy t request.assetId
          ⟨address, address.version, (e.records.ipAddresses.row id).vlanId, none, none⟩ now
      | .error _ => true
  | .reconcile leaseId observedAt =>
    (e.records.leases.get? leaseId).all fun lease ↦
      match reconcileTarget e.records t leaseId lease with
      | .ok (assetId, address) => endedBy t assetId
        ⟨address, address.version, replacementVlan e.records t leaseId lease assetId address, none,
          none⟩ (replacementStart e.records t leaseId lease assetId address observedAt)
      | .error _ => true
  | _ => true

theorem writes_of_result {e : AssignmentEvent} (ht : AssignmentInvariant t)
    (hok : suits t e = true) (h : e.result t = .ok t') : Writes t t' := by
  obtain ⟨records, call, audited⟩ := e
  cases call with
  | assign user request now => exact assign_writes h
  | close user assignmentId endedAt => exact close_writes h
  | confirm user assignmentId confirmedAt =>
    refine confirm_writes h fun row assetId hrow hasset hpend ↦ ?_
    simp only [suits, hrow, Option.all_some, hasset, decide_eq_true_eq] at hok
    exact hok.resolve_left fun hne ↦ hne hpend
  | repair request now =>
    refine repair_writes ht h fun mac address id hmac haddr hid hexecute hnone ↦ ?_
    simp only [suits, hmac, haddr, Option.all_some, hid, hexecute, hnone] at hok
    simpa using hok
  | reconcile leaseId observedAt =>
    obtain ⟨⟨t'', answer⟩, hresult, rfl⟩ := map_eq_ok.1 h
    refine reconcile_writes ht hresult fun lease assetId address hlease htgt ↦ ?_
    simp only [suits, hlease, Option.all_some, htgt] at hok
    exact hok
  | closeEnded providerId observedAt leaseIds expiredOnly => exact closeEnded_writes h

theorem AssignmentInvariant.step {e : AssignmentEvent} (ht : AssignmentInvariant t)
    (hok : suits t e = true) : AssignmentInvariant (assignmentMachine.step t e) := by
  simp only [assignmentMachine]
  split
  next t' hresult => exact ht.writes (writes_of_result ht hok hresult)
  · exact ht

theorem assignmentInvariant (h : assignmentMachine.ReachableBy (suits · · = true) t) :
    AssignmentInvariant t :=
  h.invariant
    (fun _ hinit ↦ ⟨fun i hi hconf ↦ absurd hconf (hinit i hi),
      fun i hi _ _ hconf ↦ absurd hconf (hinit i hi)⟩)
    fun _ _ ht hok ↦ ht.step hok

/-- **An address belongs to one asset at a time**, where no call meets what it leaves out. -/
theorem exclusive_along (h : assignmentMachine.ReachableBy (suits · · = true) t) : Exclusive t :=
  (assignmentInvariant h).exclusive

/-! ### Examples -/

/-- Two rows give a time to different assets. -/
def shares (t : Assignments) (i j : ℕ) (time : DateTime) : Bool :=
  i ∈ t.ids ∧ j ∈ t.ids ∧ (t.row i).status = .confirmed ∧ (t.row j).status = .confirmed ∧
    (t.row i).assetId ≠ (t.row j).assetId ∧ (t.row i).context = (t.row j).context ∧
    (t.row i).startedAt ≤ time ∧ (t.row i).endedAt.all (time < ·) ∧
    (t.row j).startedAt ≤ time ∧ (t.row j).endedAt.all (time < ·)

theorem not_exclusive_of_shares (i j : ℕ) (time : DateTime) (h : shares t i j time = true) :
    ¬ Exclusive t := by
  simp only [shares, decide_eq_true_eq] at h
  obtain ⟨hi, hj, hi', hj', hassets, hctx, hstart, hstop, hstart', hstop'⟩ := h
  intro hexcl
  have hmem : time ∈ (t.row i).period :=
    ⟨hstart, fun e he ↦ of_decide_eq_true ((Option.all_eq_true _ _).1 hstop e he)⟩
  have hmem' : time ∈ (t.row j).period :=
    ⟨hstart', fun e he ↦ of_decide_eq_true ((Option.all_eq_true _ _).1 hstop' e he)⟩
  exact Set.disjoint_left.1 (hexcl i hi j hj hi' hj' hassets hctx) hmem hmem'

/-- The address of the examples. -/
def sampleAddress : IPAddr := .v4 3232235786

/-- Two assets, of which the second one has a MAC, a static record and a lease seen since the
fiftieth second. -/
def sampleRecords : Records where
  assets := ⟨[1, 2], fun _ ↦ { assetTag := some "A-1" }, by decide⟩
  vlans := ⟨[], fun _ ↦ {}, nodup_nil⟩
  ipAddresses := ⟨[1], fun _ ↦
    { address := some sampleAddress, macAddress := some "02:00:5e:10:00:02" }, HA.nodup_one⟩
  evidence := ⟨[1], fun _ ↦
    { assetId := some 2, evidenceType := .mac, normalisedValue := "02:00:5e:10:00:02"
      source := "manual", status := .confirmed }, HA.nodup_one⟩
  leases := ⟨[1], fun _ ↦
    { ipAddress := ⟨"192.168.1.10", some sampleAddress⟩, macAddress := some "02:00:5e:10:00:02"
      leaseStartedAt := seconds 50, firstSeenAt := seconds 50, lastSeenAt := seconds 200 },
    HA.nodup_one⟩
  rangeVlan _ := none

/-- An administrator. -/
def sampleAdmin : User := ⟨1, true, true⟩

/-- Pending rows of two assets for one address. -/
def pendingRows : Assignments :=
  ⟨[1, 2], fun id ↦
    { assetId := some id, address := sampleAddress, addressFamily := 4, startedAt := 0
      provenance := "network_traffic" }, by decide⟩

/-- An assignment of the address to an asset. -/
def assignCall (assetId : ℕ) (startedAt : DateTime) (endedAt : Option DateTime) :
    AssignmentEvent :=
  ⟨sampleRecords, .assign sampleAdmin
    { assetId, address := ⟨"192.168.1.10", some sampleAddress⟩, startedAt, endedAt
      provenance := "manual" } startedAt, true⟩

/-- Both are confirmed. -/
def bothConfirmed : List AssignmentEvent :=
  [⟨sampleRecords, .confirm sampleAdmin 1 0, true⟩, ⟨sampleRecords, .confirm sampleAdmin 2 0, true⟩]

/-- A lease of the second asset is reconciled, after the first asset has had the address. -/
def reconciledBack : List AssignmentEvent :=
  [assignCall 1 0 (some (seconds 100)), ⟨sampleRecords, .reconcile 1 (seconds 200), true⟩]

/-- The static record of the second asset is repaired, while the first asset has the address. -/
def repairedEarly : List AssignmentEvent :=
  [assignCall 1 0 (some (seconds 300)), ⟨sampleRecords, .repair
    { assetId := 2, assetTag := "A-1", mac := "02:00:5e:10:00:02"
      address := ⟨"192.168.1.10", some sampleAddress⟩, execute := true } (seconds 200), true⟩]

/-- No assignments. -/
def noAssignments : Assignments :=
  ⟨[], fun _ ↦ { assetId := none, address := sampleAddress, addressFamily := 4, startedAt := 0
                 provenance := "" }, by decide⟩

/-- The first asset has had the address until the lease of the second one was seen. -/
def reconciledAfter : List AssignmentEvent :=
  [assignCall 1 0 (some (seconds 40)), ⟨sampleRecords, .reconcile 1 (seconds 200), true⟩]

theorem exclusive_along_example :
    assignmentMachine.ReachableBy (suits · · = true)
        (assignmentMachine.run noAssignments reconciledAfter) ∧
      Exclusive (assignmentMachine.run noAssignments reconciledAfter) := by
  have h : assignmentMachine.ReachableBy (suits · · = true)
      (assignmentMachine.run noAssignments reconciledAfter) :=
    .run (.start fun _ h ↦ absurd h not_mem_nil) (by decide +kernel)
  exact ⟨h, exclusive_along h⟩

/-- Each of the three writers gives an address away that another asset has. -/
theorem not_exclusive :
    (assignmentMachine.Reachable (assignmentMachine.run pendingRows bothConfirmed) ∧
        ¬ Exclusive (assignmentMachine.run pendingRows bothConfirmed)) ∧
      (assignmentMachine.Reachable (assignmentMachine.run noAssignments reconciledBack) ∧
        ¬ Exclusive (assignmentMachine.run noAssignments reconciledBack)) ∧
      assignmentMachine.Reachable (assignmentMachine.run noAssignments repairedEarly) ∧
        ¬ Exclusive (assignmentMachine.run noAssignments repairedEarly) := by
  have hpend : assignmentMachine.Reachable pendingRows :=
    .start fun _ _ h ↦ (nomatch h)
  have hnone : assignmentMachine.Reachable noAssignments :=
    .start fun _ h ↦ absurd h not_mem_nil
  refine ⟨⟨.run _ hpend, ?_⟩, ⟨.run _ hnone, ?_⟩, .run _ hnone, ?_⟩
  · exact not_exclusive_of_shares 1 2 0 (by decide +kernel)
  · exact not_exclusive_of_shares 1 2 (seconds 60) (by decide +kernel)
  · exact not_exclusive_of_shares 1 2 (seconds 250) (by decide +kernel)

end Kaya.Assets
