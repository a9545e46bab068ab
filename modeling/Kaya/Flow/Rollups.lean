import Kaya.Flow.Steps

/-!
# Conservation across the rollups

Each accepted record is written to several rollups by separate statements with early returns of
their own. `Conserved` relates them: per source, exporter and five-minute bucket the flow totals of
all directions are the classified totals of all classes, and every hourly or daily bucket of a class
(of an endpoint) is the sum of the five-minute buckets inside it.

The law is about sums only, so it is a law about one posting (`accountingTotal_300`,
`accountingTotal_nested`, `contributionTotal_nested`): a bucket of a longer resolution contains the
five-minute bucket of the record exactly when it is the record's own (`bucket_nested`). The host's
time zone does not matter — all resolutions floor the same reading of the clock.
-/

namespace Kaya.Flow

open List

variable {clock : HostClock}

/-! ### Nested buckets -/

/-- Start of the `n`-th bucket of a resolution. -/
def bucketAt (seconds : ℕ) (n : ℤ) : DateTime := n * seconds * second

/-- `start` lies inside the `n`-th bucket of a resolution. -/
def InBucket (seconds : ℕ) (n : ℤ) (start : DateTime) : Prop :=
  bucketAt seconds n ≤ start ∧ start < bucketAt seconds (n + 1)

instance (seconds : ℕ) (n : ℤ) (start : DateTime) : Decidable (InBucket seconds n start) :=
  inferInstanceAs (Decidable (_ ∧ _))

/-- The record's five-minute bucket lies inside an hour or a day exactly when that is the record's
own hour or day. -/
theorem bucket_nested (clock : HostClock) (v : DateTime) {seconds : ℕ}
    (h : seconds = 3600 ∨ seconds = 86400) (n : ℤ) :
    InBucket seconds n (bucket clock v 300) ↔ bucket clock v seconds = bucketAt seconds n := by
  have hfloor : ∀ e : ℤ, n * seconds * 1000000 ≤ (e - e % (300 : ℕ)) * 1000000 ∧
      (e - e % (300 : ℕ)) * 1000000 < (n + 1) * seconds * 1000000 ↔
        (e - e % seconds) * 1000000 = n * seconds * 1000000 := by
    intro e
    rcases h with rfl | rfl
    · omega
    · omega
  exact hfloor (clock v)

/-! ### One posting -/

section Posting

variable {inv : Inventory} {p : Posting}

theorem flowTotal_singleton (q : ℕ × String × DateTime × ℕ × FlowDirection → Bool) :
    flowTotal q [flowRow clock p] = if q (flowRow clock p).key then (p.bytes, p.packets) else 0 :=
  Ledger.total_singleton _

/-- The class of a posting. -/
def postingClass (inv : Inventory) (source : TrafficSource) (p : Posting) : TrafficClass :=
  (classifyFlow p.record source.interfaces inv.networks).trafficClass

/-- The three rows of a posting. -/
theorem accountingTotal_accountingRows {source : TrafficSource}
    (hsrc : inv.source p.sourceId = some source)
    (q : ℕ × String × DateTime × ℕ × TrafficClass → Bool) :
    accountingTotal q (accountingRows clock inv p) =
      (resolutions.map fun seconds ↦
        if q (p.sourceId, p.record.exporterIdentity, bucket clock p.record.observedAt seconds,
            seconds, postingClass inv source p) then (p.bytes, p.packets) else 0).sum := by
  rw [accountingRows, hsrc, Option.elim_some, accountingTotal]
  simp only [resolutions, map_cons, map_nil, sum_cons, sum_nil, Ledger.total_cons, Ledger.total_nil]
  rfl

/-- A sum over the resolutions in which only one can contribute. -/
theorem sum_resolutions (f : ℕ → ℕ × ℕ) : (resolutions.map f).sum = f 300 + (f 3600 + f 86400) := by
  simp only [resolutions, map_cons, map_nil, sum_cons, sum_nil, add_zero]

end Posting

/-! ### The law -/

/-- Per source, exporter and five-minute bucket, directions and classes have the same total. -/
def FlowConserved (db : Database) : Prop :=
  ∀ (source : ℕ) (exporter : String) (start : DateTime),
    flowTotal (fun k ↦ k.1 = source ∧ k.2.1 = exporter ∧ k.2.2.1 = start ∧ k.2.2.2.1 = 300)
        db.flowAggregates =
      accountingTotal (fun k ↦ k.1 = source ∧ k.2.1 = exporter ∧ k.2.2.1 = start ∧
        k.2.2.2.1 = 300) db.accountingAggregates

/-- The hour or the day of a class is the sum of its five-minute buckets. -/
def AccountingNested (db : Database) : Prop :=
  ∀ (source : ℕ) (exporter : String) (trafficClass : TrafficClass) (seconds : ℕ) (n : ℤ),
    seconds = 3600 ∨ seconds = 86400 →
    accountingTotal (fun k ↦ k = (source, exporter, bucketAt seconds n, seconds, trafficClass))
        db.accountingAggregates =
      accountingTotal (fun k ↦ k.1 = source ∧ k.2.1 = exporter ∧ InBucket seconds n k.2.2.1 ∧
        k.2.2.2 = (300, trafficClass)) db.accountingAggregates

/-- The hour or the day of an endpoint is the sum of its five-minute buckets. -/
def EndpointNested (db : Database) : Prop :=
  ∀ (ip : IPAddr) (source : ℕ) (exporter : String) (direction : UsageDirection) (seconds : ℕ)
    (n : ℤ), seconds = 3600 ∨ seconds = 86400 →
    endpointTotal (fun k ↦ k = (ip, seconds, bucketAt seconds n, source, exporter, direction))
        db.endpointAggregates =
      endpointTotal (fun k ↦ k.1 = ip ∧ k.2.1 = 300 ∧ InBucket seconds n k.2.2.1 ∧
        k.2.2.2 = (source, exporter, direction)) db.endpointAggregates

/-- **Conservation across the rollups.** -/
structure Conserved (db : Database) : Prop where
  flow : FlowConserved db
  accounting : AccountingNested db
  endpoint : EndpointNested db

/-! ### Postings keep the law -/

section Postings

variable {inv : Inventory} {ps : List Posting}

theorem flow_postings (hsrc : ∀ p ∈ ps, (inv.source p.sourceId).isSome) (source : ℕ)
    (exporter : String) (start : DateTime) :
    flowTotal (fun k ↦ k.1 = source ∧ k.2.1 = exporter ∧ k.2.2.1 = start ∧ k.2.2.2.1 = 300)
        (ps.map (flowRow clock)) =
      accountingTotal (fun k ↦ k.1 = source ∧ k.2.1 = exporter ∧ k.2.2.1 = start ∧
        k.2.2.2.1 = 300) (ps.flatMap (accountingRows clock inv)) := by
  rw [map_eq_flatMap]
  refine Ledger.total_flatMap_congr fun p hp ↦ ?_
  obtain ⟨row, hrow⟩ := Option.isSome_iff_exists.1 (hsrc p hp)
  have hflow := @flowTotal_singleton clock p
    fun k ↦ k.1 = source ∧ k.2.1 = exporter ∧ k.2.2.1 = start ∧ k.2.2.2.1 = 300
  have hacct := @accountingTotal_accountingRows clock inv p row hrow
    fun k ↦ k.1 = source ∧ k.2.1 = exporter ∧ k.2.2.1 = start ∧ k.2.2.2.1 = 300
  rw [sum_resolutions] at hacct
  refine hflow.trans (Eq.trans ?_ hacct.symm)
  simp [flowRow, TrafficFlowAggregate.key]

theorem accounting_postings (hsrc : ∀ p ∈ ps, (inv.source p.sourceId).isSome) (source : ℕ)
    (exporter : String) (trafficClass : TrafficClass) {seconds : ℕ} (n : ℤ)
    (hsecs : seconds = 3600 ∨ seconds = 86400) :
    accountingTotal (fun k ↦ k = (source, exporter, bucketAt seconds n, seconds, trafficClass))
        (ps.flatMap (accountingRows clock inv)) =
      accountingTotal (fun k ↦ k.1 = source ∧ k.2.1 = exporter ∧ InBucket seconds n k.2.2.1 ∧
        k.2.2.2 = (300, trafficClass)) (ps.flatMap (accountingRows clock inv)) := by
  refine Ledger.total_flatMap_congr fun p hp ↦ ?_
  obtain ⟨row, hrow⟩ := Option.isSome_iff_exists.1 (hsrc p hp)
  have hown := @accountingTotal_accountingRows clock inv p row hrow
    fun k ↦ k = (source, exporter, bucketAt seconds n, seconds, trafficClass)
  have hinside := @accountingTotal_accountingRows clock inv p row hrow
    fun k ↦ k.1 = source ∧ k.2.1 = exporter ∧ InBucket seconds n k.2.2.1 ∧
      k.2.2.2 = (300, trafficClass)
  rw [sum_resolutions] at hown hinside
  refine hown.trans (Eq.trans ?_ hinside.symm)
  simp only [bucket_nested clock p.record.observedAt hsecs]
  rcases hsecs with rfl | rfl
  · simp
  · simp

/-- The three rows of a contribution. -/
theorem endpointTotal_contributionRows (inv : Inventory) (p : Posting) (c : Contribution)
    (ip : IPAddr) (source : ℕ) (exporter : String) (direction : UsageDirection) {seconds : ℕ}
    (n : ℤ) (hsecs : seconds = 3600 ∨ seconds = 86400) :
    endpointTotal (fun k ↦ k = (ip, seconds, bucketAt seconds n, source, exporter, direction))
        (contributionRows inv p c) =
      endpointTotal (fun k ↦ k.1 = ip ∧ k.2.1 = 300 ∧ InBucket seconds n k.2.2.1 ∧
        k.2.2.2 = (source, exporter, direction)) (contributionRows inv p c) := by
  rw [contributionRows]
  split
  · rfl
  · split
    · rfl
    · have hnested := bucket_nested utcClock p.record.observedAt hsecs n
      simp only [resolutions, map_cons, map_nil, endpointTotal, Ledger.total_cons,
        Ledger.total_nil, TrafficEndpointAggregate.key, TrafficEndpointAggregate.amount, bucketStart]
      rcases hsecs with rfl | rfl
      · simp [hnested]
      · simp [hnested]

theorem endpoint_postings (inv : Inventory) (ps : List Posting) (ip : IPAddr) (source : ℕ)
    (exporter : String) (direction : UsageDirection) {seconds : ℕ} (n : ℤ)
    (hsecs : seconds = 3600 ∨ seconds = 86400) :
    endpointTotal (fun k ↦ k = (ip, seconds, bucketAt seconds n, source, exporter, direction))
        (ps.flatMap (endpointRows inv)) =
      endpointTotal (fun k ↦ k.1 = ip ∧ k.2.1 = 300 ∧ InBucket seconds n k.2.2.1 ∧
        k.2.2.2 = (source, exporter, direction)) (ps.flatMap (endpointRows inv)) := by
  refine Ledger.total_flatMap_congr fun p _ ↦ ?_
  rw [endpointRows]
  split
  · rfl
  · induction endpointContributions p with
    | nil => rfl
    | cons c cs ih =>
      have hc := endpointTotal_contributionRows inv p c ip source exporter direction n hsecs
      rw [endpointTotal, endpointTotal] at hc
      rw [flatMap_cons, Ledger.total_append, Ledger.total_append, hc, ih]

end Postings

/-! ### Runs keep the law -/

/-- Every record of the datagram is processed for a source that exists. -/
def ForExistingSources (db : Database) (d : Datagram) : Prop :=
  ∀ r ∈ d.records, (db.inventory.source (effectiveSource d.sourceId r)).isSome

theorem Conserved.receive {db : Database} {d : Datagram} (h : Conserved db)
    (hd : ForExistingSources db d) : Conserved (receive clock db d) := by
  rcases receive_charged clock db d with heq | hcharged
  · rw [heq]
    exact h
  · have hsrc : ∀ p ∈ batchPostings clock d.now d.sourceId d.records db,
        (db.inventory.source p.sourceId).isSome := by
      intro p hp
      obtain ⟨hmem, hid, -⟩ := mem_postings hp
      rw [hid]
      exact hd _ hmem
    refine ⟨fun source exporter start ↦ ?_, fun source exporter trafficClass seconds n hs ↦ ?_,
      fun ip source exporter direction seconds n hs ↦ ?_⟩
    · rw [hcharged.flow, hcharged.accounting, h.flow, flow_postings hsrc]
    · rw [hcharged.accounting, hcharged.accounting, h.accounting _ _ _ _ _ hs,
        accounting_postings hsrc _ _ _ _ hs]
    · rw [hcharged.endpoint, hcharged.endpoint, h.endpoint _ _ _ _ _ _ hs,
        endpoint_postings _ _ _ _ _ _ _ hs]

/-- **Rollup conservation.** Whatever datagrams the collector processes for existing sources, on a
host in any time zone: directions and classes have the same five-minute totals, and hours and days
are the sums of their five-minute buckets, for classes and for endpoints. -/
theorem collector_conserved {db : Database}
    (h : (collector clock).ReachableBy ForExistingSources db) : Conserved db := by
  refine h.invariant (fun db hinit ↦ ?_) fun db d hdb hd ↦ hdb.receive hd
  obtain ⟨hflow, hacct, hendpoint, -⟩ := hinit
  refine ⟨fun source exporter start ↦ ?_, fun source exporter trafficClass seconds n hs ↦ ?_,
    fun ip source exporter direction seconds n hs ↦ ?_⟩
  · rw [hflow, hacct]
    rfl
  · rw [hacct]
    rfl
  · rw [hendpoint]
    rfl

/-- A database with one source, and a datagram with records of two hours for it. -/
def sampleDatabase : Database where
  inventory := { sources := [{ id := 1 }] }

@[inherit_doc sampleDatabase]
def sampleDatagram : Datagram where
  now := 5000000000
  sourceId := some 1
  records := [{ exporterIdentity := "192.0.2.1", sourceId := 0, sequence := 1, recordIndex := 0,
                observedAt := 3700000000, bytesTotal := some 100, packetsTotal := some 2 },
              { exporterIdentity := "192.0.2.1", sourceId := 0, sequence := 1, recordIndex := 1,
                observedAt := 300000000, bytesTotal := some 60, packetsTotal := some 1 }]

theorem collector_conserved_sample :
    (receive utcClock sampleDatabase sampleDatagram).accountingAggregates.length = 5 ∧
      Conserved (receive utcClock sampleDatabase sampleDatagram) := by
  have hstart : (collector utcClock).ReachableBy ForExistingSources sampleDatabase :=
    .start ⟨rfl, rfl, rfl, rfl⟩
  have hnext : (collector utcClock).ReachableBy ForExistingSources
      (receive utcClock sampleDatabase sampleDatagram) :=
    .next sampleDatagram hstart fun _ _ ↦ rfl
  exact ⟨by decide +kernel, collector_conserved hnext⟩

end Kaya.Flow
