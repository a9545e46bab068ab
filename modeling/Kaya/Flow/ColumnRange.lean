import Kaya.Flow.Batching
import Kaya.Flow.Decoder
import Kaya.Flow.Rollups

/-!
# Totals in 64-bit columns

The byte and packet columns of the rollups and of the counter states are signed 64-bit integers. The
decoder's counters are unsigned, added up in pairs and then accumulated row by row, and nothing on
the way checks them. A value that does not fit is an error of its statement, and `process_records`
has no savepoint: the transaction is rolled back with every record in it.

`typedCollector` is the collector on such columns. As long as every batch finds room for its counts
(`HasRoom`), it is the collector without bounds (`fits_of_room`).
-/

namespace Kaya.Flow

open List Option

variable {clock : HostClock} {now : DateTime} {sourceId : Option ℕ} {r : NormalizedFlowRecord}
  {b : Batch} {records : List NormalizedFlowRecord} {db : Database} {d : Datagram}

/-! ### Columns -/

/-- The largest value of a `BIGINT` column. -/
def maxColumn : ℕ := 2 ^ 63 - 1

/-- The largest amount of a row. -/
def maxAmount : ℕ × ℕ := (maxColumn, maxColumn)

/-- `last_bytes` and `last_packets` fit. -/
def TrafficFlowCounterState.Fits (c : TrafficFlowCounterState) : Prop :=
  (∀ n ∈ c.lastBytes, n ≤ maxColumn) ∧ ∀ n ∈ c.lastPackets, n ≤ maxColumn

instance (c : TrafficFlowCounterState) : Decidable c.Fits := inferInstanceAs (Decidable (_ ∧ _))

/-- Every byte and packet column fits. -/
def Database.Fits (db : Database) : Prop :=
  (∀ row ∈ db.flowAggregates, row.amount ≤ maxAmount) ∧
  (∀ row ∈ db.accountingAggregates, row.amount ≤ maxAmount) ∧
  (∀ row ∈ db.endpointAggregates, row.amount ≤ maxAmount) ∧
  (∀ row ∈ db.deviceAggregates, row.amount ≤ maxAmount) ∧ ∀ c ∈ db.counterStates, c.Fits

instance (db : Database) : Decidable db.Fits :=
  inferInstanceAs (Decidable (_ ∧ _ ∧ _ ∧ _ ∧ _))

/-! ### What a batch writes -/

/-- The rows that a batch flushes on its way: the session is flushed whenever a collector state is
added. A rollup only grows within a batch, so that one of these or the committed rows show every
value that is too large. -/
def flushed (clock : HostClock) (now : DateTime) (sourceId : Option ℕ) :
    Batch → List NormalizedFlowRecord → List Database
  | _, [] => []
  | b, r :: records =>
    (if b.session.states.any (·.sourceId = effectiveSource sourceId r) then []
      else [b.session.database]) ++
      (processRecord clock now sourceId b r).elim [] (flushed clock now sourceId · records)

/-- Everything the transaction of a datagram writes fits. -/
def WritesFit (clock : HostClock) (db : Database) (d : Datagram) : Prop :=
  match ingest clock d.now d.sourceId d.records db with
  | none => True
  | some db' => ∀ written ∈ db' :: flushed clock d.now d.sourceId { session := db.session } d.records,
      written.Fits

instance (clock : HostClock) (db : Database) (d : Datagram) : Decidable (WritesFit clock db d) :=
  match h : ingest clock d.now d.sourceId d.records db with
  | none => isTrue (by rw [WritesFit, h]; trivial)
  | some db' => decidable_of_iff
      (∀ written ∈ db' :: flushed clock d.now d.sourceId { session := db.session } d.records,
        written.Fits) (by rw [WritesFit, h])

/-- `receive`, on columns that raise: a transaction that does not fit is rolled back. -/
def receiveTyped (clock : HostClock) (db : Database) (d : Datagram) : Database :=
  if WritesFit clock db d then receive clock db d else db

/-- The collector on 64-bit columns. -/
def typedCollector (clock : HostClock) : Machine Database Datagram where
  init db := (collector clock).init db ∧ db.Fits
  step := receiveTyped clock

/-- What should become of a datagram: some of its records are kept, and stored as if the others had
not been there; everything written fits, and it would not with any other record. -/
structure Keeps (clock : HostClock) (db : Database) (d : Datagram)
    (kept : List NormalizedFlowRecord) : Prop where
  sublist : kept.Sublist d.records
  stored : receiveTyped clock db d = receive clock db { d with records := kept }
  fit : WritesFit clock db { d with records := kept }
  rejected : ∀ more, kept.Sublist more → more.Sublist d.records →
    WritesFit clock db { d with records := more } → more = kept

/-- The values that are stored fit, and no other record is lost with one that does not. -/
def StoresFitting (clock : HostClock) (db : Database) (d : Datagram) : Prop :=
  (receiveTyped clock db d).Fits ∧ ∃ kept, Keeps clock db d kept

/-! ### Room for a batch -/

/-- A record charged with all its counts. -/
def wholePosting (sourceId : Option ℕ) (r : NormalizedFlowRecord) : Posting :=
  (plainCharge r).posting (effectiveSource sourceId r) r

/-- The counters of a record fit. -/
def NormalizedFlowRecord.CountersFit (r : NormalizedFlowRecord) : Prop :=
  (∀ n ∈ r.bytesTotal, n ≤ maxColumn) ∧ ∀ n ∈ r.packetsTotal, n ≤ maxColumn

instance (r : NormalizedFlowRecord) : Decidable r.CountersFit :=
  inferInstanceAs (Decidable (_ ∧ _))

/-- **Room for a datagram**: the counters it stores fit, and what each row has and is charged by the
records of the datagram, duplicates and cumulative counts included, fits. -/
structure HasRoom (clock : HostClock) (db : Database) (d : Datagram) : Prop where
  counters : ∀ r ∈ d.records, (counterKey r (effectiveSource d.sourceId r)).isSome → r.CountersFit
  flow : ∀ k, flowTotal (· = k) db.flowAggregates +
    flowTotal (· = k) ((d.records.map (wholePosting d.sourceId)).map (flowRow clock)) ≤ maxAmount
  accounting : ∀ k, accountingTotal (· = k) db.accountingAggregates +
    accountingTotal (· = k) ((d.records.map (wholePosting d.sourceId)).flatMap
      (accountingRows clock db.inventory)) ≤ maxAmount
  endpoint : ∀ k, endpointTotal (· = k) db.endpointAggregates +
    endpointTotal (· = k) ((d.records.map (wholePosting d.sourceId)).flatMap
      (endpointRows db.inventory)) ≤ maxAmount
  device : ∀ k, deviceTotal (· = k) db.deviceAggregates +
    deviceTotal (· = k) ((d.records.map (wholePosting d.sourceId)).flatMap
      (deviceRows clock db.inventory)) ≤ maxAmount

/-! ### Smaller postings -/

/-- The same record with less to charge. -/
structure Below (p p' : Posting) : Prop where
  record : p'.record = p.record
  sourceId : p'.sourceId = p.sourceId
  bytes : p.bytes ≤ p'.bytes
  packets : p.packets ≤ p'.packets

namespace Below

variable {inv : Inventory} {p p' : Posting}

theorem flow (h : Below p p') (k : ℕ × String × DateTime × ℕ × FlowDirection) :
    flowTotal (· = k) [flowRow clock p] ≤ flowTotal (· = k) [flowRow clock p'] := by
  have hkey : (flowRow clock p').key = (flowRow clock p).key := by
    simp only [TrafficFlowAggregate.key, flowRow, h.record, h.sourceId]
  rw [flowTotal, flowTotal, Ledger.total_singleton, Ledger.total_singleton, hkey]
  split_ifs
  · exact ⟨h.bytes, h.packets⟩
  · exact le_rfl

theorem accounting (h : Below p p') (k : ℕ × String × DateTime × ℕ × TrafficClass) :
    accountingTotal (· = k) (accountingRows clock inv p) ≤
      accountingTotal (· = k) (accountingRows clock inv p') := by
  rw [accountingRows, accountingRows, h.sourceId]
  cases inv.source p.sourceId with
  | none => exact le_rfl
  | some source =>
    refine Ledger.total_map_le fun seconds _ ↦ ⟨?_, h.bytes, h.packets⟩
    have hkey : (accountingRow clock inv source p' seconds).key =
        (accountingRow clock inv source p seconds).key := by
      simp only [TrafficFlowAccountingAggregate.key, accountingRow, h.record, h.sourceId]
    exact congrArg (fun key ↦ decide (key = k)) hkey.symm

/-- One contribution, and a larger one of the same endpoint. -/
theorem contribution (h : Below p p') {c c' : Contribution} (haddr : c'.address = c.address)
    (hdirection : c'.direction = c.direction) (hbytes : c.bytes ≤ c'.bytes)
    (hpackets : c.packets ≤ c'.packets) (k : IPAddr × ℕ × DateTime × ℕ × String × UsageDirection) :
    endpointTotal (· = k) (contributionRows inv p c) ≤
      endpointTotal (· = k) (contributionRows inv p' c') := by
  rw [contributionRows, contributionRows, haddr]
  cases c.address with
  | none => exact le_rfl
  | some address =>
    dsimp only
    by_cases hskip : (c.bytes = 0 ∧ c.packets = 0) ∨
        (endpointNetworks inv).any (·.contains address) = false
    · rw [if_pos hskip]
      exact zero_le
    · have hskip' : ¬ ((c'.bytes = 0 ∧ c'.packets = 0) ∨
          (endpointNetworks inv).any (·.contains address) = false) := by
        rintro (⟨hb, hp⟩ | hout)
        · exact hskip (.inl ⟨by omega, by omega⟩)
        · exact hskip (.inr hout)
      rw [if_neg hskip, if_neg hskip']
      refine Ledger.total_map_le fun seconds _ ↦ ⟨?_, hbytes, hpackets⟩
      simp only [TrafficEndpointAggregate.key, h.record, h.sourceId, hdirection]
      rfl

theorem endpoint (h : Below p p') (k : IPAddr × ℕ × DateTime × ℕ × String × UsageDirection) :
    endpointTotal (· = k) (endpointRows inv p) ≤ endpointTotal (· = k) (endpointRows inv p') := by
  have hcontributions : ∀ {cs cs' : List Contribution}, Forall₂
      (fun c c' ↦ c'.address = c.address ∧ c'.direction = c.direction ∧ c.bytes ≤ c'.bytes ∧
        c.packets ≤ c'.packets) cs cs' →
      endpointTotal (· = k) (cs.flatMap (contributionRows inv p)) ≤
        endpointTotal (· = k) (cs'.flatMap (contributionRows inv p')) := by
    intro cs cs' hall
    induction hall with
    | nil => exact le_rfl
    | cons hc _ ih =>
      obtain ⟨haddr, hdirection, hbytes, hpackets⟩ := hc
      rw [flatMap_cons, flatMap_cons, endpointTotal, endpointTotal, Ledger.total_append,
        Ledger.total_append]
      exact add_le_add (h.contribution haddr hdirection hbytes hpackets k) ih
  rw [endpointRows, endpointRows, h.record]
  split_ifs
  · exact le_rfl
  · refine hcontributions ?_
    simp only [endpointContributions, h.record]
    split_ifs
    · exact forall₂_same.2 fun c _ ↦ ⟨rfl, rfl, le_rfl, le_rfl⟩
    · exact .cons ⟨rfl, rfl, h.bytes, h.packets⟩ (.cons ⟨rfl, rfl, h.bytes, h.packets⟩ .nil)

/-- A direction that is charged is charged the larger amounts too. -/
theorem deviceCharge (h : Below p p') {source : TrafficSource} {spec : DirectionSpec}
    {charge : DeviceCharge} (hcharge : Flow.deviceCharge inv source p spec = some charge) :
    ∃ bytes packets, charge.bytes ≤ bytes ∧ charge.packets ≤ packets ∧
      Flow.deviceCharge inv source p' spec = some { charge with bytes, packets } := by
  have hbytes : (if p.record.directional then spec.bytes.getD 0 else p.bytes) ≤
      if p.record.directional then spec.bytes.getD 0 else p'.bytes := by
    split_ifs
    · exact le_rfl
    · exact h.bytes
  have hpackets : (if p.record.directional then spec.packets.getD 0 else p.packets) ≤
      if p.record.directional then spec.packets.getD 0 else p'.packets := by
    split_ifs
    · exact le_rfl
    · exact h.packets
  simp only [Flow.deviceCharge, Option.bind_eq_bind, Option.pure_def, Option.ite_none_left_eq_some,
    h.record] at hcharge ⊢
  obtain ⟨hcounted, hattr, hcharge⟩ := hcharge
  have hcounted' : ¬ ((if p.record.directional then spec.bytes.getD 0 else p'.bytes) = 0 ∧
      (if p.record.directional then spec.packets.getD 0 else p'.packets) = 0) :=
    fun hzero ↦ hcounted ⟨by omega, by omega⟩
  generalize (if p.record.directional then spec.bytes.getD 0 else p.bytes) = bytes at *
  generalize (if p.record.directional then spec.bytes.getD 0 else p'.bytes) = bytes' at *
  generalize (if p.record.directional then spec.packets.getD 0 else p.packets) = packets at *
  generalize (if p.record.directional then spec.packets.getD 0 else p'.packets) = packets' at *
  generalize (if (spec.attribution.getD (resolveFlowAttribution inv p.record
    spec.address)).state = .resolved then (spec.attribution.getD (resolveFlowAttribution inv
      p.record spec.address)).ipRecordId.bind (trafficMonitoringFor inv) else none) = managed at *
  generalize (if managed.any (·.isEnabled) then none
    else assignmentForRecord inv p.record spec.address) = assignment at *
  refine ⟨bytes', packets', ?_⟩
  cases assignment with
  | some a =>
    dsimp only at hcharge ⊢
    simp only [Option.bind_eq_some_iff, Option.ite_none_left_eq_some, Option.some.injEq] at hcharge
    obtain ⟨monitor, hmon, henab, period, hperiod, rfl⟩ := hcharge
    refine ⟨hbytes, hpackets, hcounted', hattr, ?_⟩
    rw [hmon, Option.bind_some, if_neg henab, hperiod, Option.bind_some]
  | none =>
    dsimp only at hcharge ⊢
    simp only [Option.bind_eq_some_iff, Option.ite_none_left_eq_some, Option.some.injEq] at hcharge
    obtain ⟨monitor, hmon, henab, period, hperiod, rfl⟩ := hcharge
    refine ⟨hbytes, hpackets, hcounted', hattr, ?_⟩
    rw [hmon, Option.bind_some, if_neg henab, hperiod, Option.bind_some]

theorem device (h : Below p p') (k : DeviceGroup) :
    deviceTotal (· = k) (deviceRows clock inv p) ≤
      deviceTotal (· = k) (deviceRows clock inv p') := by
  rw [deviceRows, deviceRows, deviceCharges, deviceCharges, h.sourceId, h.record]
  by_cases hskip : (!inv.enabled || (decide (p.bytes = 0) && decide (p.packets = 0))) = true
  · rw [if_pos hskip]
    exact zero_le
  have hskip' : ¬ (!inv.enabled || (decide (p'.bytes = 0) && decide (p'.packets = 0))) = true := by
    have hbytes := h.bytes
    have hpackets := h.packets
    simp only [Bool.or_eq_true, Bool.and_eq_true, decide_eq_true_eq, not_or] at hskip ⊢
    exact ⟨hskip.1, fun hzero ↦ hskip.2 ⟨by omega, by omega⟩⟩
  rw [if_neg hskip, if_neg hskip']
  cases inv.source p.sourceId with
  | none => exact le_rfl
  | some source =>
    -- One entry of `direction_specs` at a time.
    have hspecs : ∀ (q : Posting) (specs : List DirectionSpec),
        (specs.filterMap (Flow.deviceCharge inv source q)).flatMap
            (fun charge ↦ resolutions.map (deviceRow clock q charge)) =
          specs.flatMap fun spec ↦ (Flow.deviceCharge inv source q spec).toList.flatMap
            fun charge ↦ resolutions.map (deviceRow clock q charge) := by
      intro q specs
      rw [← flatMap_assoc, filterMap_eq_flatMap_toList]
    dsimp only
    rw [hspecs, hspecs]
    refine Ledger.total_flatMap_le fun spec _ ↦ ?_
    cases hcharge : Flow.deviceCharge inv source p spec with
    | none => exact zero_le
    | some charge =>
      obtain ⟨bytes, packets, hbytes, hpackets, hcharge'⟩ := h.deviceCharge hcharge
      rw [hcharge', toList_some, toList_some, flatMap_singleton, flatMap_singleton]
      refine Ledger.total_map_le fun seconds _ ↦ ⟨?_, hbytes, hpackets⟩
      have hgroup : (deviceRow clock p' { charge with bytes, packets } seconds).group =
          (deviceRow clock p charge seconds).group := by
        simp only [TrafficDeviceAggregate.group, deviceRow, h.record]
      exact congrArg (fun group ↦ decide (group = k)) hgroup.symm

end Below

/-! ### Batches with room -/

/-- The postings that are left to a batch: those of its remaining records, charged whole. -/
def remaining (sourceId : Option ℕ) (records : List NormalizedFlowRecord) : List Posting :=
  records.map (wholePosting sourceId)

/-- **The invariant of the loop**: what each row has, and is charged by the remaining records, fits;
the counters fit, and those that will be stored. -/
structure Within (clock : HostClock) (sourceId : Option ℕ) (b : Batch)
    (records : List NormalizedFlowRecord) : Prop where
  table : DeviceTable b.session.deviceAggregates
  stored : ∀ c ∈ b.session.counterStates.values, c.Fits
  counters : ∀ r ∈ records, (counterKey r (effectiveSource sourceId r)).isSome → r.CountersFit
  flow : ∀ k, flowTotal (· = k) b.session.flowAggregates +
    flowTotal (· = k) ((remaining sourceId records).map (flowRow clock)) ≤ maxAmount
  accounting : ∀ k, accountingTotal (· = k) b.session.accountingAggregates +
    accountingTotal (· = k) ((remaining sourceId records).flatMap
      (accountingRows clock b.session.inventory)) ≤ maxAmount
  endpoint : ∀ k, endpointTotal (· = k) b.session.endpointAggregates +
    endpointTotal (· = k) b.usage + endpointTotal (· = k) ((remaining sourceId records).flatMap
      (endpointRows b.session.inventory)) ≤ maxAmount
  device : ∀ k, deviceTotal (· = k) b.session.deviceAggregates.values +
    deviceTotal (· = k) ((remaining sourceId records).flatMap
      (deviceRows clock b.session.inventory)) ≤ maxAmount

/-- The packets of a cumulative charge are at most those of the record. -/
theorem cumulativeCharge_packets_le {counter : Option TrafficFlowCounterState} {charge : Charge}
    (h : cumulativeCharge counter r = some charge) : charge.packets ≤ r.packetsTotal.getD 0 := by
  rw [cumulativeCharge] at h
  split at h
  · cases h
  · dsimp only at h
    obtain rfl := some.inj h
    split
    · rename_i last packets _ hpackets
      rw [hpackets, getD_some]
      split
      · exact Nat.sub_le _ _
      · exact le_rfl
    · exact le_rfl

/-- A posting is below the whole one of its record. -/
theorem below_wholePosting {p : Posting}
    (h : recordPosting now sourceId b r = some p) : Below p (wholePosting sourceId r) := by
  simp only [recordPosting, bind_eq_some_iff] at h
  obtain ⟨s, -, hposting⟩ := h
  rcases admitRecord_cases now (effectiveSource sourceId r) r s with
    ⟨-, heq⟩ | ⟨-, ⟨-, heq⟩ | ⟨k, hk, ⟨-, heq⟩ | ⟨charge, hcharge, heq⟩⟩⟩
  · rw [heq] at hposting
    cases hposting
  · rw [heq] at hposting
    obtain rfl := some.inj hposting
    exact ⟨rfl, rfl, le_rfl, le_rfl⟩
  · rw [heq] at hposting
    cases hposting
  · rw [heq] at hposting
    obtain rfl := some.inj hposting
    exact ⟨rfl, rfl, cumulativeCharge_le hcharge, cumulativeCharge_packets_le hcharge⟩

/-! ### Counters -/

theorem values_writeCounter {t : SessionTable TrafficFlowCounterState} {k : CounterKey}
    {P : TrafficFlowCounterState → Prop} (hold : ∀ c ∈ t.values, P c)
    (hnew : ∀ c : TrafficFlowCounterState, P (advanceCounter c r now)) :
    ∀ c ∈ (writeCounter t k r now).values, P c := by
  intro c hc
  rcases mem_append.1 hc with hc | hc
  · obtain ⟨row, hrow, rfl⟩ := mem_map.1 hc
    rcases mem_writeCounter_rows hrow with hmem | ⟨old, -, -, -, hedit⟩
    · exact hold _ (mem_append_left _ (mem_map_of_mem hmem))
    · rw [Tracked.value, hedit]
      exact hnew old.value
  · rcases mem_writeCounter_pending hc with hmem | rfl
    · exact hold _ (mem_append_right _ hmem)
    · exact hnew _

/-- The counter states a record leaves are those it found, and one with its own counts. -/
theorem counters_settle {source : ℕ} (hold : ∀ c ∈ b.session.counterStates.values, c.Fits)
    (hcount : (counterKey r source).isSome → r.CountersFit) :
    ∀ c ∈ (settle clock now source b r).session.counterStates.values, c.Fits := by
  have hadmit : ∀ c ∈ (admitRecord now source r b.session).1.counterStates.values, c.Fits := by
    rcases admitRecord_cases now source r b.session with
      ⟨-, heq⟩ | ⟨-, ⟨-, heq⟩ | ⟨k, hk, ⟨-, heq⟩ | ⟨charge, -, heq⟩⟩⟩
    · rw [heq]
      exact hold
    · rw [heq]
      exact hold
    · rw [heq]
      exact hold
    · rw [heq]
      exact values_writeCounter hold fun c ↦ hcount (by rw [hk]; rfl)
  rw [settle]
  rcases hadmission : admitRecord now source r b.session with ⟨s, admission⟩
  rw [hadmission] at hadmit
  cases admission with
  | duplicate => exact hadmit
  | outOfOrder => exact hadmit
  | accepted p =>
    simp only [post_eq]
    exact hadmit

theorem counters_processRecord {b' : Batch} (h : processRecord clock now sourceId b r = some b')
    (hold : ∀ c ∈ b.session.counterStates.values, c.Fits)
    (hcount : (counterKey r (effectiveSource sourceId r)).isSome → r.CountersFit) :
    ∀ c ∈ b'.session.counterStates.values, c.Fits := by
  obtain ⟨s, hs, rfl⟩ := processRecord_eq_some h
  refine counters_settle (b := { b with session := s }) ?_ hcount
  rcases ensureState_eq_some hs with rfl | rfl
  · exact hold
  · intro c hc
    rw [Database.session, SessionTable.values_ofRows] at hc
    exact hold c hc

/-! ### The loop -/

/-- What a record is charged comes out of the room that was kept for it. -/
theorem room_step {ρ : Type*} {q : ρ → Bool} {amount : ρ → ℕ × ℕ} {rows : Posting → List ρ}
    (hmono : ∀ p p', Below p p' → Ledger.total q amount (rows p) ≤ Ledger.total q amount (rows p'))
    {held held' bound : ℕ × ℕ}
    (hcharged : held' = held +
      Ledger.total q amount ((recordPosting now sourceId b r).toList.flatMap rows))
    (hroom : held + Ledger.total q amount ((remaining sourceId (r :: records)).flatMap rows) ≤
      bound) :
    held' + Ledger.total q amount ((remaining sourceId records).flatMap rows) ≤ bound := by
  have hle : Ledger.total q amount ((recordPosting now sourceId b r).toList.flatMap rows) ≤
      Ledger.total q amount (rows (wholePosting sourceId r)) := by
    cases hposting : recordPosting now sourceId b r with
    | none => exact zero_le
    | some p =>
      rw [toList_some, flatMap_singleton]
      exact hmono p _ (below_wholePosting hposting)
  rw [remaining, map_cons, flatMap_cons, Ledger.total_append] at hroom
  rw [hcharged, add_assoc]
  exact (add_le_add le_rfl (add_le_add hle le_rfl)).trans hroom

/-- **A step of the loop** uses the room of its record. -/
theorem Within.step {b' : Batch} (h : Within clock sourceId b (r :: records))
    (hstep : processRecord clock now sourceId b r = some b') :
    Within clock sourceId b' records := by
  have hcharged := processRecord_charged hstep h.table
  obtain ⟨hcount, hcounts⟩ := forall_mem_cons.1 h.counters
  refine ⟨hcharged.table, counters_processRecord hstep h.stored hcount, hcounts, fun k ↦ ?_,
    fun k ↦ ?_, fun k ↦ ?_, fun k ↦ ?_⟩
  · have hroom := h.flow k
    have hflow := hcharged.flow (· = k)
    rw [map_eq_flatMap] at hroom hflow ⊢
    exact room_step (fun p p' hp ↦ hp.flow k) hflow hroom
  · rw [hcharged.inventory]
    exact room_step (fun p p' hp ↦ hp.accounting k) (hcharged.accounting _) (h.accounting k)
  · rw [hcharged.inventory]
    exact room_step (fun p p' hp ↦ hp.endpoint k) (hcharged.endpoint _) (h.endpoint k)
  · rw [hcharged.inventory]
    exact room_step (fun p p' hp ↦ hp.device k) (hcharged.device _) (h.device k)

/-- What a session with room would leave fits. -/
theorem Within.fits (h : Within clock sourceId b records) : b.session.database.Fits := by
  have hrow : ∀ {ρ : Type} {q : ρ → Bool} {amount : ρ → ℕ × ℕ} {rows : List ρ} {row : ρ}
      {rest : ℕ × ℕ}, row ∈ rows → q row = true →
      Ledger.total q amount rows + rest ≤ maxAmount → amount row ≤ maxAmount :=
    fun hmem hq hroom ↦ (Ledger.le_total hmem hq).trans (le_self_add.trans hroom)
  refine ⟨fun row hmem ↦ ?_, fun row hmem ↦ ?_, fun row hmem ↦ ?_, fun row hmem ↦ ?_, h.stored⟩
  · exact hrow hmem (decide_eq_true rfl) (h.flow row.key)
  · exact hrow hmem (decide_eq_true rfl) (h.accounting row.key)
  · have hroom := h.endpoint row.key
    rw [add_assoc] at hroom
    exact hrow hmem (decide_eq_true rfl) hroom
  · exact hrow hmem (decide_eq_true rfl) (h.device row.group)

/-- **The run of the loop**: every flush on the way fits, and the last session has room left. -/
theorem Within.run (h : Within clock sourceId b records) :
    (∀ written ∈ flushed clock now sourceId b records, written.Fits) ∧
      ∀ b', processAll clock now sourceId b records = some b' → Within clock sourceId b' [] := by
  induction records generalizing b with
  | nil =>
    refine ⟨fun _ hmem ↦ absurd hmem not_mem_nil, fun b' hb' ↦ ?_⟩
    rwa [← some.inj hb']
  | cons r records ih =>
    have hfirst : ∀ written ∈ (if b.session.states.any (·.sourceId = effectiveSource sourceId r)
        then [] else [b.session.database]), written.Fits := by
      intro written hmem
      split_ifs at hmem
      · exact absurd hmem not_mem_nil
      · rw [mem_singleton.1 hmem]
        exact h.fits
    rw [flushed]
    cases hstep : processRecord clock now sourceId b r with
    | none =>
      refine ⟨forall_mem_append.2 ⟨hfirst, fun _ hmem ↦ absurd hmem not_mem_nil⟩, fun b' hb' ↦ ?_⟩
      rw [processAll, Option.bind_eq_bind, hstep] at hb'
      exact absurd hb' (by simp)
    | some b₁ =>
      obtain ⟨hrest, hlast⟩ := ih (h.step hstep)
      refine ⟨forall_mem_append.2 ⟨hfirst, hrest⟩, fun b' hb' ↦ hlast b' ?_⟩
      rw [processAll, Option.bind_eq_bind, hstep, bind_some] at hb'
      exact hb'

/-! ### Datagrams with room -/

theorem HasRoom.within (h : HasRoom clock db d) (hfits : db.Fits) :
    Within clock d.sourceId { session := db.session } d.records where
  table := .ofRows _
  stored := by
    rw [Database.session, SessionTable.values_ofRows]
    exact hfits.2.2.2.2
  counters := h.counters
  flow := h.flow
  accounting := h.accounting
  endpoint k := by
    have hnone : endpointTotal (· = k) ([] : List TrafficEndpointAggregate) = 0 := rfl
    rw [hnone, add_zero]
    exact h.endpoint k
  device k := by
    rw [Database.session, SessionTable.values_ofRows]
    exact h.device k

/-- **A datagram with room is written whole.** -/
theorem HasRoom.writesFit (h : HasRoom clock db d) (hfits : db.Fits) : WritesFit clock db d := by
  have hrun : (∀ written ∈ flushed clock d.now d.sourceId { session := db.session } d.records,
      written.Fits) ∧ ∀ b', processAll clock d.now d.sourceId { session := db.session } d.records =
        some b' → Within clock d.sourceId b' [] := (h.within hfits).run
  obtain ⟨hflushed, hlast⟩ := hrun
  rw [WritesFit]
  cases hingest : ingest clock d.now d.sourceId d.records db with
  | none => trivial
  | some db' =>
    refine forall_mem_cons.2 ⟨?_, hflushed⟩
    obtain ⟨b, hb, hcommit⟩ := ingest_eq_some hingest
    obtain rfl := Session.commit_eq_some hcommit
    have hwithin := hlast b hb
    obtain ⟨hflow, hacct, -, hdevice, hcounters⟩ := hwithin.fits
    refine ⟨hflow, hacct, fun row hmem ↦ ?_, hdevice, fun c hc ↦ hcounters c ?_⟩
    · have hroom := hwithin.endpoint row.key
      have htotal := endpointTotal_flushEndpointUsage (· = row.key) b.usage b.session
      rw [← htotal] at hroom
      exact (Ledger.le_total hmem (decide_eq_true rfl)).trans (le_self_add.trans hroom)
    · exact (SessionTable.values_deleteWhere_sublist _).subset hc

/-- The columns never hold a value that does not fit. -/
theorem fits_receiveTyped (d : Datagram) (hfits : db.Fits) : (receiveTyped clock db d).Fits := by
  rw [receiveTyped]
  split_ifs with hwrit
  · rw [receive]
    rw [WritesFit] at hwrit
    cases hingest : ingest clock d.now d.sourceId d.records db with
    | none => exact hfits
    | some db' =>
      rw [hingest] at hwrit
      exact hwrit db' mem_cons_self
  · exact hfits

theorem HasRoom.receiveTyped_eq (h : HasRoom clock db d)
    (hfits : db.Fits) : receiveTyped clock db d = receive clock db d :=
  if_pos (h.writesFit hfits)

theorem HasRoom.storesFitting (h : HasRoom clock db d) (hfits : db.Fits) :
    StoresFitting clock db d := by
  refine ⟨fits_receiveTyped d hfits, d.records, .refl _, h.receiveTyped_eq hfits,
    h.writesFit hfits, fun more hmore hsub _ ↦ ?_⟩
  exact hsub.antisymm hmore

theorem admissible_storesFitting (hfits : db.Fits) {ds : List Datagram}
    (hroom : (typedCollector clock).Admissible (HasRoom clock) db ds) :
    ((typedCollector clock).run db ds).Fits ∧
      (typedCollector clock).Admissible (StoresFitting clock) db ds ∧
      (typedCollector clock).run db ds = (collector clock).run db ds := by
  induction ds generalizing db with
  | nil => exact ⟨hfits, trivial, rfl⟩
  | cons d ds ih =>
    obtain ⟨hd, hds⟩ := hroom
    obtain ⟨hlast, hsteps, hrun⟩ := ih (fits_receiveTyped d hfits) hds
    refine ⟨hlast, ⟨hd.storesFitting hfits, hsteps⟩, ?_⟩
    have hstep : (typedCollector clock).step db d = (collector clock).step db d :=
      hd.receiveTyped_eq hfits
    rw [Machine.run_cons, Machine.run_cons, ← hstep]
    exact hrun

/-- **In a run whose batches all find room** every value that is written fits, and no record is
lost: the columns might as well have no bound. -/
theorem fits_of_room (clock : HostClock) (db : Database) (hinit : (typedCollector clock).init db)
    (ds : List Datagram) (hroom : (typedCollector clock).Admissible (HasRoom clock) db ds) :
    ((typedCollector clock).run db ds).Fits ∧
      (typedCollector clock).Admissible (StoresFitting clock) db ds ∧
      (typedCollector clock).run db ds = (collector clock).run db ds :=
  admissible_storesFitting hinit.2 hroom

/-! ### A counter of eight bytes -/

theorem hasRoom_sample : HasRoom utcClock sampleDatabase sampleDatagram where
  counters := by decide
  flow k := by
    refine (add_le_add (Ledger.total_le_of_imp (q := fun _ ↦ true) (fun _ _ ↦ rfl) _)
      (Ledger.total_le_of_imp (q := fun _ ↦ true) (fun _ _ ↦ rfl) _)).trans ?_
    decide +kernel
  accounting k := by
    refine (add_le_add (Ledger.total_le_of_imp (q := fun _ ↦ true) (fun _ _ ↦ rfl) _)
      (Ledger.total_le_of_imp (q := fun _ ↦ true) (fun _ _ ↦ rfl) _)).trans ?_
    decide +kernel
  endpoint k := by
    refine (add_le_add (Ledger.total_le_of_imp (q := fun _ ↦ true) (fun _ _ ↦ rfl) _)
      (Ledger.total_le_of_imp (q := fun _ ↦ true) (fun _ _ ↦ rfl) _)).trans ?_
    decide +kernel
  device k := by
    refine (add_le_add (Ledger.total_le_of_imp (q := fun _ ↦ true) (fun _ _ ↦ rfl) _)
      (Ledger.total_le_of_imp (q := fun _ ↦ true) (fun _ _ ↦ rfl) _)).trans ?_
    decide +kernel

theorem fits_of_room_sample :
    ((typedCollector utcClock).run sampleDatabase [sampleDatagram]).Fits ∧
      (typedCollector utcClock).Admissible (StoresFitting utcClock) sampleDatabase
        [sampleDatagram] ∧ (typedCollector utcClock).run sampleDatabase [sampleDatagram] =
        (collector utcClock).run sampleDatabase [sampleDatagram] :=
  fits_of_room utcClock sampleDatabase ⟨⟨rfl, rfl, rfl, rfl⟩, by decide⟩ [sampleDatagram]
    ⟨hasRoom_sample, trivial⟩

/-- A record with the byte counter `2 ^ 63`. -/
def hugeRecord : NormalizedFlowRecord :=
  normalise (fun field ↦ if field = 1 then some [128, 0, 0, 0, 0, 0, 0, 0] else none) "192.0.2.1"
    0 1 0 3700

/-- A record of 100 bytes in the same datagram. -/
def smallRecord : NormalizedFlowRecord :=
  normalise (fun field ↦ if field = 1 then some [100] else none) "192.0.2.1" 0 1 1 3700

@[inherit_doc hugeRecord]
def hugeDatagram : Datagram where
  now := 5000000000
  sourceId := some 1
  records := [hugeRecord, smallRecord]

/-- The small record is lost with the huge one. -/
theorem huge_counter_loses_batch : ∃ db d, (typedCollector utcClock).Reachable db ∧
    (∀ r ∈ d.records, Decoded r) ∧ ¬ StoresFitting utcClock db d := by
  refine ⟨sampleDatabase, hugeDatagram, .start ⟨⟨rfl, rfl, rfl, rfl⟩, by decide⟩, ?_, ?_⟩
  · rintro r hr
    rcases mem_cons.1 hr with rfl | hr
    · exact ⟨_, _, _, _, _, _, by decide, rfl⟩
    · obtain rfl := mem_singleton.1 hr
      exact ⟨_, _, _, _, _, _, by decide, rfl⟩
  · rintro ⟨-, kept, hkept⟩
    have hlost : receiveTyped utcClock sampleDatabase hugeDatagram = sampleDatabase := by
      decide +kernel
    have hsmall : WritesFit utcClock sampleDatabase { hugeDatagram with records := [smallRecord] } ∧
        receive utcClock sampleDatabase { hugeDatagram with records := [smallRecord] } ≠
          sampleDatabase := by decide +kernel
    have hhuge : ∀ rest ∈ [[], [smallRecord]], ¬ WritesFit utcClock sampleDatabase
        { hugeDatagram with records := hugeRecord :: rest } := by decide +kernel
    have hcases : kept = [] ∨ kept = [smallRecord] ∨ ∃ rest ∈ [[], [smallRecord]],
        kept = hugeRecord :: rest := by
      have hsplit := sublist_cons_iff.1 hkept.sublist
      rcases hsplit with hrest | ⟨rest, rfl, hrest⟩
      · rcases sublist_singleton.1 hrest with rfl | rfl
        · exact .inl rfl
        · exact .inr (.inl rfl)
      · refine .inr (.inr ⟨rest, ?_, rfl⟩)
        rcases sublist_singleton.1 hrest with rfl | rfl
        · exact mem_cons_self
        · exact mem_cons_of_mem _ mem_cons_self
    rcases hcases with rfl | rfl | ⟨rest, hrest, rfl⟩
    · exact absurd (hkept.rejected [smallRecord] (nil_sublist _)
        (sublist_cons_self _ _) hsmall.1) (cons_ne_nil _ _)
    · exact hsmall.2 (hkept.stored.symm.trans hlost)
    · exact hhuge rest hrest hkept.fit

end Kaya.Flow
