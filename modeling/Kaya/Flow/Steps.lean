import Kaya.Flow.Collector

/-!
# What a batch adds to the rollups

Every claim about rollups is a claim about sums, and every sum is moved by the same thing: the
postings of the batch. `postings` lists them, and `Charged` says what they do — the total of each
table, over any group of its keys, grows by the total of the rows of the postings.

* `Session.database` is what a commit would leave. A flush in the middle of a batch does not change
  it, and a commit that succeeds writes exactly it.
* `settle_cases` says once what the body of the loop can do to the session: it leaves the rollups as
  they are, or it writes one posting.
* `ingest_charged` is the law of a committed batch.
-/

namespace Kaya.Flow

open List Option

variable {clock : HostClock} {now : DateTime} {sourceId : Option ℕ} {s s' : Session}
  {db db' : Database} {source : ℕ} {r : NormalizedFlowRecord} {b b' : Batch}
  {records : List NormalizedFlowRecord} {new row : TrafficDeviceAggregate}
  {counter : Option TrafficFlowCounterState} {charge : Charge} {p : Posting}

/-! ### The database behind a session -/

/-- What a commit of the session would leave. -/
def Session.database (s : Session) : Database where
  inventory := s.inventory
  states := s.states
  deduplication := s.deduplication
  counterStates := s.counterStates.values
  flowAggregates := s.flowAggregates
  accountingAggregates := s.accountingAggregates
  endpointAggregates := s.endpointAggregates
  deviceAggregates := s.deviceAggregates.values

theorem Session.commit_eq_some (h : s.commit = some db) : db = s.database := by
  simp only [Session.commit, Option.bind_eq_bind, Option.bind_eq_some_iff, Option.pure_def,
    Option.some.injEq] at h
  obtain ⟨counters, hcounters, devices, hdevices, rfl⟩ := h
  rw [Session.database, (SessionTable.flush_eq_some _ hcounters).2,
    (SessionTable.flush_eq_some _ hdevices).2]

theorem Session.flush_eq_some (h : s.flush = some s') : s' = s.database.session := by
  rw [Session.flush, map_eq_some_iff] at h
  obtain ⟨db, hdb, rfl⟩ := h
  rw [Session.commit_eq_some hdb]

/-- The collector state is there already, or it is added to a flushed session. -/
theorem ensureState_eq_some (h : ensureState s source = some s') :
    s' = s ∨ s' = Database.session { s.database with
      states := s.states ++ [{ sourceId := source }] } := by
  rw [ensureState] at h
  split at h
  · exact .inl (some.inj h).symm
  · split at h
    · exact .inr (Session.flush_eq_some h)
    · cases h

/-! ### Amounts and groups -/

/-- Bytes and packets of a row. -/
def TrafficFlowAggregate.amount (row : TrafficFlowAggregate) : ℕ × ℕ :=
  (row.bytesTotal, row.packetsTotal)

@[inherit_doc TrafficFlowAggregate.amount]
def TrafficFlowAccountingAggregate.amount (row : TrafficFlowAccountingAggregate) : ℕ × ℕ :=
  (row.bytesTotal, row.packetsTotal)

@[inherit_doc TrafficFlowAggregate.amount]
def TrafficEndpointAggregate.amount (row : TrafficEndpointAggregate) : ℕ × ℕ :=
  (row.bytesTotal, row.packetsTotal)

@[inherit_doc TrafficFlowAggregate.amount]
def TrafficDeviceAggregate.amount (row : TrafficDeviceAggregate) : ℕ × ℕ :=
  (row.bytesTotal, row.packetsTotal)

/-- The part of a device row that both ways of writing it agree on. -/
structure DeviceGroup where
  periodId : ℕ
  assignmentId : Option ℕ
  bucketStart : DateTime
  bucketSeconds : ℕ
  direction : UsageDirection
  deriving DecidableEq

/-- The group of a device row. -/
def TrafficDeviceAggregate.group (row : TrafficDeviceAggregate) : DeviceGroup where
  periodId := row.periodId
  assignmentId := row.assignmentId
  bucketStart := row.bucketStart
  bucketSeconds := row.bucketSeconds
  direction := row.direction

/-- The total of a table over the groups `q` accepts. -/
def flowTotal (q : ℕ × String × DateTime × ℕ × FlowDirection → Bool)
    (rows : List TrafficFlowAggregate) : ℕ × ℕ :=
  Ledger.total (fun row ↦ q row.key) TrafficFlowAggregate.amount rows

@[inherit_doc flowTotal]
def accountingTotal (q : ℕ × String × DateTime × ℕ × TrafficClass → Bool)
    (rows : List TrafficFlowAccountingAggregate) : ℕ × ℕ :=
  Ledger.total (fun row ↦ q row.key) TrafficFlowAccountingAggregate.amount rows

@[inherit_doc flowTotal]
def endpointTotal (q : IPAddr × ℕ × DateTime × ℕ × String × UsageDirection → Bool)
    (rows : List TrafficEndpointAggregate) : ℕ × ℕ :=
  Ledger.total (fun row ↦ q row.key) TrafficEndpointAggregate.amount rows

@[inherit_doc flowTotal]
def deviceTotal (q : DeviceGroup → Bool) (rows : List TrafficDeviceAggregate) : ℕ × ℕ :=
  Ledger.total (fun row ↦ q row.group) TrafficDeviceAggregate.amount rows

/-- A record without bytes and packets writes no flow row, and would add nothing with one. -/
theorem flowTotal_aggregate (q : ℕ × String × DateTime × ℕ × FlowDirection → Bool) (s : Session)
    (p : Posting) : flowTotal q (aggregate clock s p).flowAggregates =
      flowTotal q s.flowAggregates + flowTotal q [flowRow clock p] := by
  rw [aggregate]
  split
  · rename_i hzero
    have hamount : (flowRow clock p).amount = 0 := Prod.ext hzero.1 hzero.2
    simp only [flowTotal, Ledger.total_singleton, hamount, ite_self, add_zero]
  · simp only [flowTotal, Ledger.total_singleton]
    refine Ledger.total_upsert (fun _ ↦ rfl) (fun _ _ ↦ rfl) (fun _ hkey ↦ ?_) _
    rw [hkey]

/-- The rows of `_accounting_aggregate`. -/
def accountingRows (clock : HostClock) (inv : Inventory) (p : Posting) :
    List TrafficFlowAccountingAggregate :=
  (inv.source p.sourceId).elim [] fun source ↦ resolutions.map (accountingRow clock inv source p)

theorem accountingTotal_accountingAggregate
    (q : ℕ × String × DateTime × ℕ × TrafficClass → Bool) (s : Session) (p : Posting) :
    accountingTotal q (accountingAggregate clock s p).accountingAggregates =
      accountingTotal q s.accountingAggregates +
        accountingTotal q (accountingRows clock s.inventory p) := by
  rw [accountingAggregate, accountingRows]
  cases s.inventory.source p.sourceId with
  | none => simp only [elim_none, accountingTotal, Ledger.total_nil, add_zero]
  | some source =>
    refine Ledger.total_upsertAll ?_ ?_ ?_ _ _
    · exact fun _ _ ↦ rfl
    · exact fun _ _ _ ↦ rfl
    · exact fun _ _ hkey ↦ congrArg q hkey

theorem endpointTotal_addEndpointUsage
    (q : IPAddr × ℕ × DateTime × ℕ × String × UsageDirection → Bool) (inv : Inventory)
    (rows : List TrafficEndpointAggregate) (p : Posting) :
    endpointTotal q (addEndpointUsage inv rows p) =
      endpointTotal q rows + endpointTotal q (endpointRows inv p) := by
  refine Ledger.total_upsertAll ?_ ?_ ?_ _ _
  · exact fun _ _ ↦ rfl
  · exact fun _ _ _ ↦ rfl
  · exact fun _ _ hkey ↦ congrArg q hkey

theorem endpointTotal_flushEndpointUsage
    (q : IPAddr × ℕ × DateTime × ℕ × String × UsageDirection → Bool)
    (rows : List TrafficEndpointAggregate) (s : Session) :
    endpointTotal q (flushEndpointUsage rows s).endpointAggregates =
      endpointTotal q s.endpointAggregates + endpointTotal q rows := by
  refine Ledger.total_upsertAll ?_ ?_ ?_ _ _
  · exact fun _ _ ↦ rfl
  · exact fun _ _ _ ↦ rfl
  · exact fun _ _ hkey ↦ congrArg q hkey

/-! ### Device rows -/

/-- Only rows without an interface are edited as objects, so a statement never meets an edited row;
and an object keeps the group of the row it was loaded from. -/
structure DeviceTable (table : SessionTable TrafficDeviceAggregate) : Prop where
  clean : ∀ row ∈ table.rows, row.edit.isSome → row.stored.interfaceId = none
  aligned : ∀ row ∈ table.rows, row.value.group = row.stored.group

theorem DeviceTable.ofRows (rows : List TrafficDeviceAggregate) : DeviceTable (.ofRows rows) := by
  refine ⟨fun row hrow hedit ↦ ?_, fun row hrow ↦ ?_⟩
  · obtain ⟨r, -, rfl⟩ := mem_map.1 hrow
    cases hedit
  · obtain ⟨r, -, rfl⟩ := mem_map.1 hrow
    rfl

theorem sameBucket_group (h : new.sameBucket row = true) :
    row.group = new.group ∧ row.interfaceId = none := by
  simp only [TrafficDeviceAggregate.sameBucket, Bool.and_eq_true, decide_eq_true_eq] at h
  obtain ⟨⟨⟨⟨⟨⟨⟨hperiod, hasgn⟩, -⟩, -⟩, hiface⟩, hstart⟩, hsecs⟩, hdirection⟩ := h
  exact ⟨by simp only [TrafficDeviceAggregate.group, hperiod, hasgn, hstart, hsecs,
    hdirection], hiface⟩

theorem unique_group (hnew : new.interfaceId ≠ none)
    (h : row.unique = new.unique) : row.group = new.group ∧ row.interfaceId ≠ none := by
  obtain ⟨i, hi⟩ := ne_none_iff_exists'.1 hnew
  rw [TrafficDeviceAggregate.unique, TrafficDeviceAggregate.unique, hi, map_some] at h
  obtain ⟨j, hj, heq⟩ := map_eq_some_iff.1 h
  simp only [DeviceBucket.mk.injEq] at heq
  obtain ⟨hperiod, hasgn, -, -, hstart, hsecs, hdirection⟩ := heq
  exact ⟨by simp only [TrafficDeviceAggregate.group, hperiod, hasgn, hstart, hsecs,
    hdirection], by rw [hj]; exact some_ne_none j⟩

namespace DeviceTable

variable {t : SessionTable TrafficDeviceAggregate} (h : DeviceTable t)
  (new : TrafficDeviceAggregate) {P : TrafficDeviceAggregate → Prop}

include h

/-- A row that a statement meets carries no edit. -/
theorem edit_eq_none {row : Tracked TrafficDeviceAggregate} (hrow : row ∈ t.rows)
    (hnew : new.interfaceId ≠ none) (hunique : row.stored.unique = new.unique) :
    row.edit = none := by
  cases hedit : row.edit with
  | none => rfl
  | some v =>
    have hnone := h.clean row hrow (by rw [hedit]; rfl)
    exact absurd hnone (unique_group hnew hunique).2

theorem writeDeviceRow : DeviceTable (writeDeviceRow t new) := by
  rw [Flow.writeDeviceRow]
  split
  · split
    · refine ⟨fun row hrow hedit ↦ ?_, fun row hrow ↦ ?_⟩
      · rcases SessionTable.mem_edit_rows hrow with hold | ⟨old, hold, hfind, hsto, -⟩
        · exact h.clean row hold hedit
        · rw [hsto]
          exact (sameBucket_group hfind).2
      · rcases SessionTable.mem_edit_rows hrow with hold | ⟨old, hold, hfind, hsto, hedit⟩
        · exact h.aligned row hold
        · rw [Tracked.value, hedit, hsto, getD_some, ← h.aligned old hold]
          rfl
    · exact ⟨h.clean, h.aligned⟩
  · rename_i hnew
    refine ⟨fun row hrow hedit ↦ ?_, fun row hrow ↦ ?_⟩
    · rcases SessionTable.mem_upsert_rows hrow with hold | rfl | ⟨old, hold, hfind, hsto, hsame⟩
      · exact h.clean row hold hedit
      · cases hedit
      · rw [hsame, h.edit_eq_none new hold hnew (of_decide_eq_true hfind)] at hedit
        cases hedit
    · rcases SessionTable.mem_upsert_rows hrow with hold | rfl | ⟨old, hold, hfind, hsto, hsame⟩
      · exact h.aligned row hold
      · rfl
      · rw [Tracked.value, hsame, h.edit_eq_none new hold hnew (of_decide_eq_true hfind), getD_none]

/-- **One device row adds its amount to its group**, whichever way it is written. -/
theorem deviceTotal_writeDeviceRow (q : DeviceGroup → Bool) :
    deviceTotal q (Flow.writeDeviceRow t new).values =
      deviceTotal q t.values + deviceTotal q [new] := by
  simp only [deviceTotal, Ledger.total_singleton]
  rw [Flow.writeDeviceRow]
  split
  · split
    · rename_i hfound
      refine SessionTable.total_values_edit hfound ?_ ?_ fun row hrow hfind ↦ ?_
      · exact fun _ ↦ rfl
      · exact fun _ ↦ rfl
      · rw [h.aligned row hrow, (sameBucket_group hfind).1]
    · exact SessionTable.total_values_add _
  · rename_i hnew
    refine SessionTable.total_values_upsert (fun row hrow hfind ↦ ?_) ?_ ?_ fun row hrow hfind ↦ ?_
    · exact h.edit_eq_none new hrow hnew (of_decide_eq_true hfind)
    · exact fun _ ↦ rfl
    · exact fun _ ↦ rfl
    · rw [(unique_group hnew (of_decide_eq_true hfind)).1]

/-- A property of device rows that does not look at the amounts holds of the values after a write
when it held before and holds of the row written. -/
theorem forall_writeDeviceRow (hincrease : ∀ row, P row → P (new.increase row))
    (hmerge : ∀ row, P row → P (row.merge new)) (hold : ∀ row ∈ t.values, P row) (hnew : P new) :
    ∀ row ∈ (Flow.writeDeviceRow t new).values, P row := by
  have hrows : ∀ row ∈ t.rows, P row.value := fun row hrow ↦
    hold _ (mem_append_left _ (mem_map_of_mem hrow))
  have hpend : ∀ row ∈ t.pending, P row := fun row hrow ↦ hold _ (mem_append_right _ hrow)
  rw [Flow.writeDeviceRow]
  split
  · split
    · intro row hrow
      rcases mem_append.1 hrow with hrow | hrow
      · obtain ⟨tracked, htracked, rfl⟩ := mem_map.1 hrow
        rcases SessionTable.mem_edit_rows htracked with hmem | ⟨old, hmem, -, -, hedit⟩
        · exact hrows tracked hmem
        · rw [Tracked.value, hedit, getD_some]
          exact hincrease _ (hrows old hmem)
      · exact hpend row hrow
    · intro row hrow
      rw [SessionTable.values_add] at hrow
      rcases mem_append.1 hrow with hrow | hrow
      · exact hold row hrow
      · rwa [mem_singleton.1 hrow]
  · rename_i hiface
    intro row hrow
    rcases mem_append.1 hrow with hrow | hrow
    · obtain ⟨tracked, htracked, rfl⟩ := mem_map.1 hrow
      rcases SessionTable.mem_upsert_rows htracked with hmem | rfl | ⟨old, hmem, hfind, hst, hsame⟩
      · exact hrows tracked hmem
      · exact hnew
      · have hnone := h.edit_eq_none new hmem hiface (of_decide_eq_true hfind)
        have hvalue := hrows old hmem
        rw [Tracked.value, hnone, getD_none] at hvalue
        rw [Tracked.value, hsame, hnone, getD_none, hst]
        exact hmerge _ hvalue
    · exact hpend row hrow

omit new in
theorem forall_foldl (hincrease : ∀ new row : TrafficDeviceAggregate, P row → P (new.increase row))
    (hmerge : ∀ row new : TrafficDeviceAggregate, P row → P (row.merge new))
    (rows : List TrafficDeviceAggregate) (hold : ∀ row ∈ t.values, P row)
    (hrows : ∀ row ∈ rows, P row) : ∀ row ∈ (rows.foldl Flow.writeDeviceRow t).values, P row := by
  induction rows generalizing t with
  | nil => exact hold
  | cons row rows ih =>
    refine ih (h.writeDeviceRow row) ?_ fun r hr ↦ hrows r (mem_cons_of_mem _ hr)
    exact h.forall_writeDeviceRow row (hincrease row) (fun r ↦ hmerge r row) hold
      (hrows row mem_cons_self)

omit new in
theorem foldl (rows : List TrafficDeviceAggregate) :
    DeviceTable (rows.foldl Flow.writeDeviceRow t) := by
  induction rows generalizing t with
  | nil => exact h
  | cons row rows ih => exact ih (h.writeDeviceRow row)

omit new in
theorem deviceTotal_foldl (q : DeviceGroup → Bool) (rows : List TrafficDeviceAggregate) :
    deviceTotal q (rows.foldl Flow.writeDeviceRow t).values =
      deviceTotal q t.values + deviceTotal q rows := by
  induction rows generalizing t with
  | nil => rw [foldl_nil]; exact (add_zero _).symm
  | cons row rows ih =>
    have hcons : deviceTotal q (row :: rows) = deviceTotal q [row] + deviceTotal q rows :=
      Ledger.total_append [row] rows
    rw [foldl_cons, ih (h.writeDeviceRow row), h.deviceTotal_writeDeviceRow row q, hcons, add_assoc]

end DeviceTable

/-! ### Postings -/

/-- The posting of an accepted record. -/
def Admission.posting? : Admission → Option Posting
  | .accepted p => some p
  | _ => none

/-- The posting of a charge. -/
def Charge.posting (c : Charge) (source : ℕ) (r : NormalizedFlowRecord) : Posting :=
  { record := r, sourceId := source, bytes := c.bytes, packets := c.packets, quality := c.quality }

/-- **What admission can do**: refuse a claimed key; accept a record without a counter; claim the
key of a late cumulative record and drop it; or charge a cumulative record and store its counter. -/
theorem admitRecord_cases (now : DateTime) (source : ℕ) (r : NormalizedFlowRecord) (s : Session) :
    (claimed s.deduplication (eventKey r source) = true ∧
      admitRecord now source r s = (s, .duplicate)) ∨
    (claimed s.deduplication (eventKey r source) = false ∧
      ((counterKey r source = none ∧ admitRecord now source r s =
          (claimEvent s source (eventKey r source) now,
            .accepted ((plainCharge r).posting source r))) ∨ ∃ k, counterKey r source = some k ∧
          ((cumulativeCharge (s.counterStates.first? (·.key = k)) r = none ∧
              admitRecord now source r s =
                (claimEvent s source (eventKey r source) now, .outOfOrder)) ∨
            ∃ charge, cumulativeCharge (s.counterStates.first? (·.key = k)) r = some charge ∧
              admitRecord now source r s =
                ({ claimEvent s source (eventKey r source) now with
                    counterStates := writeCounter s.counterStates k r now },
                  .accepted (charge.posting source r))))) := by
  rw [admitRecord]
  cases hclaim : claimed s.deduplication (eventKey r source) with
  | true => exact .inl ⟨rfl, rfl⟩
  | false =>
    refine .inr ⟨rfl, ?_⟩
    cases hkey : counterKey r source with
    | none => exact .inl ⟨rfl, rfl⟩
    | some k =>
      refine .inr ⟨k, rfl, ?_⟩
      cases hcharge : cumulativeCharge (s.counterStates.first? (·.key = k)) r with
      | none =>
        refine .inl ⟨rfl, ?_⟩
        simp [claimEvent, hcharge]
      | some charge =>
        refine .inr ⟨charge, rfl, ?_⟩
        simp [claimEvent, hcharge, Charge.posting]

/-- Admission moves claims and counters only. -/
theorem admitRecord_fst (now : DateTime) (source : ℕ) (r : NormalizedFlowRecord) (s : Session) :
    ∃ claims counters, (admitRecord now source r s).1 =
      { s with deduplication := claims, counterStates := counters } := by
  rcases admitRecord_cases now source r s with
    ⟨-, h⟩ | ⟨-, ⟨-, h⟩ | ⟨k, -, ⟨-, h⟩ | ⟨charge, -, h⟩⟩⟩
  all_goals
    rw [h]
    exact ⟨_, _, rfl⟩

/-- What admission charges: the byte count of a record, or a part of it when it is cumulative. -/
structure ChargesCounts (p : Posting) : Prop where
  le : p.bytes ≤ p.record.bytesTotal.getD 0
  plain : p.record.cumulativeCounters = false → p.bytes = p.record.bytesTotal.getD 0

/-- The bytes of a cumulative charge: the whole count after a reset, else the difference. -/
theorem cumulativeCharge_bytes (h : cumulativeCharge counter r = some charge) :
    charge.bytes = if (counter.bind (·.lastBytes)).any (r.bytesTotal.getD 0 < ·) then
      r.bytesTotal.getD 0 else r.bytesTotal.getD 0 - (counter.bind (·.lastBytes)).getD 0 := by
  rw [cumulativeCharge] at h
  split at h
  · cases h
  · dsimp only at h
    obtain rfl := some.inj h
    split
    · split
      · rfl
      · rfl
    · rfl

theorem cumulativeCharge_le (h : cumulativeCharge counter r = some charge) :
    charge.bytes ≤ r.bytesTotal.getD 0 := by
  rw [cumulativeCharge_bytes h]
  split
  · exact le_rfl
  · exact Nat.sub_le _ _

/-- A posting is of the record it was made for, under the source it was processed for. -/
theorem admitRecord_posting (h : (admitRecord now source r s).2.posting? = some p) :
    p.record = r ∧ p.sourceId = source ∧ ChargesCounts p := by
  rcases admitRecord_cases now source r s with
    ⟨-, heq⟩ | ⟨-, ⟨-, heq⟩ | ⟨k, hk, ⟨-, heq⟩ | ⟨charge, hcharge, heq⟩⟩⟩
  · rw [heq] at h
    cases h
  · rw [heq] at h
    obtain rfl := some.inj h
    exact ⟨rfl, rfl, le_rfl, fun _ ↦ rfl⟩
  · rw [heq] at h
    cases h
  · rw [heq] at h
    obtain rfl := some.inj h
    refine ⟨rfl, rfl, cumulativeCharge_le hcharge, fun hplain ↦ ?_⟩
    have hplain : r.cumulativeCounters = false := hplain
    simp [counterKey, hplain] at hk

/-- What one iteration posts, if anything. -/
def recordPosting (now : DateTime) (sourceId : Option ℕ) (b : Batch) (r : NormalizedFlowRecord) :
    Option Posting :=
  (ensureState b.session (effectiveSource sourceId r)).bind fun s ↦
    (admitRecord now (effectiveSource sourceId r) r s).2.posting?

/-- The postings of a batch, in order. -/
def postings (clock : HostClock) (now : DateTime) (sourceId : Option ℕ) :
    Batch → List NormalizedFlowRecord → List Posting
  | _, [] => []
  | b, r :: records =>
    (recordPosting now sourceId b r).toList ++
      (processRecord clock now sourceId b r).elim [] (postings clock now sourceId · records)

theorem processAll_append (b : Batch) (records records' : List NormalizedFlowRecord) :
    processAll clock now sourceId b (records ++ records') =
      (processAll clock now sourceId b records).bind (processAll clock now sourceId · records') := by
  induction records generalizing b with
  | nil => rfl
  | cons r records ih =>
    rw [cons_append, processAll, processAll, Option.bind_eq_bind, bind_assoc]
    simp only [ih]

theorem postings_append (b : Batch) (records records' : List NormalizedFlowRecord) :
    postings clock now sourceId b (records ++ records') = postings clock now sourceId b records ++
      (processAll clock now sourceId b records).elim []
        (postings clock now sourceId · records') := by
  induction records generalizing b with
  | nil => rfl
  | cons r records ih =>
    rw [cons_append, postings, postings, processAll, Option.bind_eq_bind, append_assoc]
    cases processRecord clock now sourceId b r with
    | none => rfl
    | some b' => rw [elim_some, elim_some, bind_some, ih]

/-- A property of device rows that does not look at the amounts. -/
structure AmountFree (P : TrafficDeviceAggregate → Prop) : Prop where
  increase : ∀ new row : TrafficDeviceAggregate, P row → P (new.increase row)
  merge : ∀ row new : TrafficDeviceAggregate, P row → P (row.merge new)

/-- **What postings do to a batch.** Every total grows by the total of the rows of the postings;
nothing else moves a rollup. -/
structure Charged (clock : HostClock) (b b' : Batch) (ps : List Posting) : Prop where
  inventory : b'.session.inventory = b.session.inventory
  flow : ∀ q, flowTotal q b'.session.flowAggregates =
    flowTotal q b.session.flowAggregates + flowTotal q (ps.map (flowRow clock))
  accounting : ∀ q, accountingTotal q b'.session.accountingAggregates =
    accountingTotal q b.session.accountingAggregates +
      accountingTotal q (ps.flatMap (accountingRows clock b.session.inventory))
  endpoint : ∀ q, endpointTotal q b'.session.endpointAggregates + endpointTotal q b'.usage =
    endpointTotal q b.session.endpointAggregates + endpointTotal q b.usage +
      endpointTotal q (ps.flatMap (endpointRows b.session.inventory))
  device : ∀ q, deviceTotal q b'.session.deviceAggregates.values =
    deviceTotal q b.session.deviceAggregates.values +
      deviceTotal q (ps.flatMap (deviceRows clock b.session.inventory))
  deviceForall : ∀ P, AmountFree P → (∀ row ∈ b.session.deviceAggregates.values, P row) →
    (∀ row ∈ ps.flatMap (deviceRows clock b.session.inventory), P row) →
    ∀ row ∈ b'.session.deviceAggregates.values, P row
  table : DeviceTable b'.session.deviceAggregates

namespace Charged

/-- Batches with the same rollups differ by no posting. -/
theorem of_eq {b b' : Batch} (hinventory : b'.session.inventory = b.session.inventory)
    (hflow : b'.session.flowAggregates = b.session.flowAggregates)
    (hacct : b'.session.accountingAggregates = b.session.accountingAggregates)
    (hendpoint : b'.session.endpointAggregates = b.session.endpointAggregates)
    (husage : b'.usage = b.usage)
    (hdevice : b'.session.deviceAggregates.values = b.session.deviceAggregates.values)
    (htable : DeviceTable b'.session.deviceAggregates) : Charged clock b b' [] where
  inventory := hinventory
  flow q := by rw [hflow]; exact (add_zero _).symm
  accounting q := by rw [hacct]; exact (add_zero _).symm
  endpoint q := by rw [hendpoint, husage]; exact (add_zero _).symm
  device q := by rw [hdevice]; exact (add_zero _).symm
  deviceForall P _ hold _ := by rw [hdevice]; exact hold
  table := htable

theorem trans {b b' b'' : Batch} {ps qs : List Posting} (h : Charged clock b b' ps)
    (h' : Charged clock b' b'' qs) : Charged clock b b'' (ps ++ qs) where
  inventory := h'.inventory.trans h.inventory
  flow q := by
    rw [h'.flow, h.flow, map_append, add_assoc]
    exact congrArg _ (Ledger.total_append _ _).symm
  accounting q := by
    rw [h'.accounting, h.accounting, h.inventory, flatMap_append, add_assoc]
    exact congrArg _ (Ledger.total_append _ _).symm
  endpoint q := by
    rw [h'.endpoint, h.endpoint, h.inventory, flatMap_append, add_assoc _ _ (endpointTotal q _)]
    exact congrArg _ (Ledger.total_append _ _).symm
  device q := by
    rw [h'.device, h.device, h.inventory, flatMap_append, add_assoc]
    exact congrArg _ (Ledger.total_append _ _).symm
  deviceForall P hP hold hrows := by
    rw [flatMap_append] at hrows
    refine h'.deviceForall P hP (h.deviceForall P hP hold fun row hrow ↦ ?_) fun row hrow ↦ ?_
    · exact hrows row (mem_append_left _ hrow)
    · rw [h.inventory] at hrow
      exact hrows row (mem_append_right _ hrow)
  table := h'.table

end Charged

theorem ensureState_charged (h : ensureState b.session source = some s)
    (hb : DeviceTable b.session.deviceAggregates) : Charged clock b { b with session := s } [] := by
  rcases ensureState_eq_some h with rfl | rfl
  · exact .of_eq rfl rfl rfl rfl rfl rfl hb
  · exact .of_eq rfl rfl rfl rfl rfl (SessionTable.values_ofRows _) (.ofRows _)

/-- The rollups of a session after one posting. -/
theorem post_eq (s : Session) (p : Posting) : post clock s p = { s with
    flowAggregates := (aggregate clock s p).flowAggregates
    accountingAggregates := (accountingAggregate clock s p).accountingAggregates
    deviceAggregates := (persistDeviceTraffic clock s p).deviceAggregates } := by
  rw [post, aggregate]
  split
  · rw [accountingAggregate]
    split
    · rfl
    · rfl
  · rw [accountingAggregate, accountingAggregate]
    dsimp only
    split
    · rfl
    · rfl

/-- The body of the loop posts what admission accepted, and nothing else. -/
theorem settle_charged (source : ℕ) (b : Batch) (r : NormalizedFlowRecord)
    (hb : DeviceTable b.session.deviceAggregates) :
    Charged clock b (settle clock now source b r)
      (admitRecord now source r b.session).2.posting?.toList := by
  obtain ⟨claims, counters, hfst⟩ := admitRecord_fst now source r b.session
  rw [settle]
  rcases hadmission : admitRecord now source r b.session with ⟨s, admission⟩
  obtain rfl : s = { b.session with deduplication := claims, counterStates := counters } := by
    rw [hadmission] at hfst
    exact hfst
  cases admission with
  | duplicate => exact .of_eq rfl rfl rfl rfl rfl rfl hb
  | outOfOrder => exact .of_eq rfl rfl rfl rfl rfl rfl hb
  | accepted p =>
    show Charged clock b _ [p]
    simp only [post_eq]
    refine ⟨rfl, fun q ↦ ?_, fun q ↦ ?_, fun q ↦ ?_, fun q ↦ ?_, fun P hP hold hrows ↦ ?_, ?_⟩
    · exact flowTotal_aggregate q _ p
    · rw [flatMap_singleton]
      exact accountingTotal_accountingAggregate q _ p
    · rw [flatMap_singleton, add_assoc]
      exact congrArg _ (endpointTotal_addEndpointUsage q _ _ p)
    · rw [flatMap_singleton]
      exact hb.deviceTotal_foldl q _
    · rw [flatMap_singleton] at hrows
      exact hb.forall_foldl hP.increase hP.merge _ hold hrows
    · exact hb.foldl _

theorem processRecord_eq_some (h : processRecord clock now sourceId b r = some b') :
    ∃ s, ensureState b.session (effectiveSource sourceId r) = some s ∧
      b' = settle clock now (effectiveSource sourceId r) { b with session := s } r := by
  simp only [processRecord, Option.bind_eq_bind, Option.bind_eq_some_iff, Option.pure_def,
    Option.some.injEq] at h
  obtain ⟨s, hs, rfl⟩ := h
  exact ⟨s, hs, rfl⟩

theorem processRecord_charged (h : processRecord clock now sourceId b r = some b')
    (hb : DeviceTable b.session.deviceAggregates) :
    Charged clock b b' (recordPosting now sourceId b r).toList := by
  obtain ⟨s, hs, rfl⟩ := processRecord_eq_some h
  have hstate : Charged clock b { b with session := s } [] := ensureState_charged hs hb
  rw [recordPosting, hs, bind_some]
  exact hstate.trans (settle_charged _ { b with session := s } r hstate.table)

/-- **A run of the loop**: the rollups grow by the postings. -/
theorem processAll_charged (h : processAll clock now sourceId b records = some b')
    (hb : DeviceTable b.session.deviceAggregates) :
    Charged clock b b' (postings clock now sourceId b records) := by
  induction records generalizing b with
  | nil =>
    obtain rfl : b = b' := some.inj h
    exact .of_eq rfl rfl rfl rfl rfl rfl hb
  | cons r records ih =>
    simp only [processAll, Option.bind_eq_bind, Option.bind_eq_some_iff] at h
    obtain ⟨b₁, hrecord, hrest⟩ := h
    have hfirst := processRecord_charged hrecord hb
    rw [postings, hrecord, elim_some]
    exact hfirst.trans (ih hrest hfirst.table)

/-! ### Committed batches -/

/-- The postings of a batch that begins on committed rows. -/
def batchPostings (clock : HostClock) (now : DateTime) (sourceId : Option ℕ)
    (records : List NormalizedFlowRecord) (db : Database) : List Posting :=
  postings clock now sourceId { session := db.session } records

/-- A committed batch ran its loop to the end, and left what the session would. -/
theorem ingest_eq_some (h : ingest clock now sourceId records db = some db') :
    ∃ b, processAll clock now sourceId { session := db.session } records = some b ∧
      (expire now (flushEndpointUsage b.usage b.session)).commit = some db' := by
  simp only [ingest, processRecords, Option.bind_eq_bind, Option.bind_eq_some_iff, Option.pure_def,
    Option.some.injEq] at h
  obtain ⟨_, ⟨b, hb, rfl⟩, hcommit⟩ := h
  exact ⟨b, hb, hcommit⟩

/-- **What a committed batch does to the rollups.** -/
structure BatchCharged (clock : HostClock) (db db' : Database) (ps : List Posting) : Prop where
  inventory : db'.inventory = db.inventory
  flow : ∀ q, flowTotal q db'.flowAggregates =
    flowTotal q db.flowAggregates + flowTotal q (ps.map (flowRow clock))
  accounting : ∀ q, accountingTotal q db'.accountingAggregates =
    accountingTotal q db.accountingAggregates +
      accountingTotal q (ps.flatMap (accountingRows clock db.inventory))
  endpoint : ∀ q, endpointTotal q db'.endpointAggregates = endpointTotal q db.endpointAggregates +
      endpointTotal q (ps.flatMap (endpointRows db.inventory))
  device : ∀ q, deviceTotal q db'.deviceAggregates =
    deviceTotal q db.deviceAggregates + deviceTotal q (ps.flatMap (deviceRows clock db.inventory))
  deviceForall : ∀ P, AmountFree P → (∀ row ∈ db.deviceAggregates, P row) →
    (∀ row ∈ ps.flatMap (deviceRows clock db.inventory), P row) →
    ∀ row ∈ db'.deviceAggregates, P row

theorem ingest_charged (h : ingest clock now sourceId records db = some db') :
    BatchCharged clock db db' (batchPostings clock now sourceId records db) := by
  obtain ⟨b, hb, hcommit⟩ := ingest_eq_some h
  have hcharged := processAll_charged hb (.ofRows _)
  obtain rfl := Session.commit_eq_some hcommit
  refine ⟨hcharged.inventory, hcharged.flow, hcharged.accounting, fun q ↦ ?_, fun q ↦ ?_,
    fun P hP hold hrows ↦ ?_⟩
  · have hbatch := hcharged.endpoint q
    have husage : endpointTotal q ([] : List TrafficEndpointAggregate) = 0 := rfl
    rw [husage, add_zero] at hbatch
    exact (endpointTotal_flushEndpointUsage q _ _).trans hbatch
  · have hbatch := hcharged.device q
    rw [Database.session, SessionTable.values_ofRows] at hbatch
    exact hbatch
  · refine hcharged.deviceForall P hP ?_ hrows
    rw [Database.session, SessionTable.values_ofRows]
    exact hold

/-- A received datagram changes nothing, or charges its postings. -/
theorem receive_charged (clock : HostClock) (db : Database) (d : Datagram) :
    receive clock db d = db ∨ BatchCharged clock db (receive clock db d)
      (batchPostings clock d.now d.sourceId d.records db) := by
  rw [receive]
  cases h : ingest clock d.now d.sourceId d.records db with
  | none => exact .inl rfl
  | some db' => exact .inr (ingest_charged h)

/-- Every posting is of a record of the batch, under the source it was processed for. -/
theorem mem_postings (h : p ∈ postings clock now sourceId b records) :
    p.record ∈ records ∧ p.sourceId = effectiveSource sourceId p.record ∧ ChargesCounts p := by
  induction records generalizing b with
  | nil => cases h
  | cons r records ih =>
    rw [postings, mem_append] at h
    rcases h with h | h
    · have hposting := mem_toList.1 h
      simp only [recordPosting, Option.bind_eq_some_iff] at hposting
      obtain ⟨s, -, hposting⟩ := hposting
      obtain ⟨hrecord, hsrc, hcounts⟩ := admitRecord_posting hposting
      rw [hrecord, hsrc]
      exact ⟨mem_cons_self, rfl, hcounts⟩
    · cases hstep : processRecord clock now sourceId b r with
      | none => rw [hstep] at h; cases h
      | some b' =>
        rw [hstep] at h
        obtain ⟨hmem, hrest⟩ := ih h
        exact ⟨mem_cons_of_mem _ hmem, hrest⟩

end Kaya.Flow
