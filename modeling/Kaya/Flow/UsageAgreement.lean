import Kaya.Flow.Decoder
import Kaya.Flow.Rollups

/-!
# Device usage against endpoint usage

The bytes of a monitored managed address are recorded twice: in `TrafficDeviceAggregate`, by
`persist_device_traffic`, and in `TrafficEndpointAggregate`, by `EndpointUsageBatch`. The two
attribute a record independently. `deviceShare` and `endpointShare` are what each of them gives the
address for one direction of one posting, and `shares_eq` compares them case by case.

They differ in two places, and `OneSided` names them.

* A directional record is charged to **one** device, the initiator when it resolves at all; the
  endpoint rows have both ends. A conversation between two managed addresses is missing from the
  responder's device usage.
* A record without a destination has its download looked up under no address, and an absent address
  falls back to the source: the source is charged its own upload as a download as well.
-/

namespace Kaya.Flow

open List Option

variable {inv : Inventory} {i : ℕ} {a : IPAddr} {attribution : FlowAttribution}

/-! ### The two accounts -/

/-- Bytes of the managed record `i` in a five-minute bucket, over all periods and interfaces. -/
def deviceBytes (i : ℕ) (start : DateTime) (direction : UsageDirection)
    (rows : List TrafficDeviceAggregate) : ℕ :=
  Ledger.total (fun row ↦ row.ipAddressId = some i ∧ row.bucketSeconds = 300 ∧
    row.bucketStart = start ∧ row.direction = direction) (·.bytesTotal) rows

/-- Bytes of the address `a` in a five-minute bucket, over all sources and exporters. -/
def endpointBytes (a : IPAddr) (start : DateTime) (direction : UsageDirection)
    (rows : List TrafficEndpointAggregate) : ℕ :=
  Ledger.total (fun row ↦ row.endpointIp = a ∧ row.bucketSeconds = 300 ∧
    row.bucketStart = start ∧ row.direction = direction) (·.bytesTotal) rows

/-- **The two accounts agree** about the managed record `i` with address `a`. -/
def UsageAgrees (i : ℕ) (a : IPAddr) (db : Database) : Prop :=
  ∀ start direction, deviceBytes i start direction db.deviceAggregates =
    endpointBytes a start direction db.endpointAggregates

/-! ### The address under consideration -/

/-- The managed record has an enabled monitor. Primary keys are unique. -/
structure MonitoredRecord (inv : Inventory) (i : ℕ) (m : TrafficDeviceMonitoring) : Prop where
  monitor : trafficMonitoringFor inv i = some m
  enabled : m.isEnabled = true
  monitorKeys : (inv.monitoring.map (·.id)).Nodup
  periodKeys : (inv.periods.map (·.id)).Nodup

/-- The attribution goes to the managed record. -/
def FlowAttribution.goesTo (attribution : FlowAttribution) (i : ℕ) : Prop :=
  attribution.state = .resolved ∧ attribution.ipRecordId = some i

instance (attribution : FlowAttribution) (i : ℕ) : Decidable (attribution.goesTo i) :=
  inferInstanceAs (Decidable (_ ∧ _))

theorem FlowAttribution.recordId_eq_iff {i : ℕ} :
    (if attribution.state = .resolved then attribution.ipRecordId else none) = some i ↔
      attribution.goesTo i := by
  rw [FlowAttribution.goesTo]
  split
  · rename_i hst
    exact ⟨fun h ↦ ⟨hst, h⟩, And.right⟩
  · rename_i hst
    exact ⟨(nomatch ·), fun h ↦ absurd h.1 hst⟩

theorem FlowAttribution.goesTo_unique {i j : ℕ}
    (hi : attribution.goesTo i) (hj : attribution.goesTo j) : i = j :=
  some.inj (hi.2.symm.trans hj.2)

/-- What is assumed of a record about the address: the decoder made it, the address and no other
resolves to the managed record at its time, and monitoring was enabled then. -/
structure Observable (inv : Inventory) (i : ℕ) (a : IPAddr) (m : TrafficDeviceMonitoring)
    (r : NormalizedFlowRecord) : Prop where
  decoded : Decoded r
  resolves : (resolveFlowAttribution inv r (some a)).goesTo i
  unique : ∀ b, b ≠ a → ¬ (resolveFlowAttribution inv r (some b)).goesTo i
  period : ∃ period ∈ inv.periods, period.monitoringId = m.id ∧ period.covers r.observedAt = true

/-- The record counts no bytes, or the address is neither the responder of a directional record
whose initiator resolves nor the source of a unidirectional record without a destination. -/
def OneSided (inv : Inventory) (a : IPAddr) (r : NormalizedFlowRecord) : Prop :=
  r.bytesTotal.getD 0 ≠ 0 → (r.directional = true → r.destinationIp = some a →
      (resolveFlowAttribution inv r r.sourceIp).state ≠ .resolved) ∧
    (r.directional = false → r.sourceIp = some a → r.destinationIp ≠ none)

instance (inv : Inventory) (a : IPAddr) (r : NormalizedFlowRecord) :
    Decidable (OneSided inv a r) :=
  inferInstanceAs (Decidable (_ ≠ _ → (_ → _ → _ ≠ _) ∧ (_ → _ → _ ≠ _)))

/-! ### Shares of one posting -/

section Shares

variable (p : Posting)

/-- The attribution of one entry of `direction_specs`. -/
def specAttribution (inv : Inventory) (p : Posting) (spec : DirectionSpec) : FlowAttribution :=
  spec.attribution.getD (resolveFlowAttribution inv p.record spec.address)

/-- The bytes of one entry of `direction_specs`. -/
def specBytes (p : Posting) (spec : DirectionSpec) : ℕ :=
  if p.record.directional then spec.bytes.getD 0 else p.bytes

/-- What one entry of `direction_specs` gives the managed record in one direction. -/
def deviceShare (inv : Inventory) (p : Posting) (i : ℕ) (direction : UsageDirection)
    (spec : DirectionSpec) : ℕ :=
  if (specAttribution inv p spec).goesTo i ∧ spec.direction = direction then specBytes p spec else 0

/-- What one entry of `endpoint_contributions` gives the address in one direction. -/
def endpointShare (a : IPAddr) (direction : UsageDirection) (c : Contribution) : ℕ :=
  if c.address = some a ∧ c.direction = direction then c.bytes else 0

variable {p} {m : TrafficDeviceMonitoring} {source : TrafficSource} {spec : DirectionSpec}

/-- The rows of a charge add its bytes to the managed record it goes to. -/
theorem deviceBytes_charge (i : ℕ) (start : DateTime) (direction : UsageDirection)
    (charge : DeviceCharge) :
    deviceBytes i start direction (resolutions.map (deviceRow utcClock p charge)) =
      if (charge.attribution.goesTo i ∧ charge.direction = direction) ∧
        bucketStart p.record.observedAt 300 = start then charge.bytes else 0 := by
  simp only [deviceBytes, resolutions, map_cons, map_nil, Ledger.total_cons,
    Ledger.total_nil, deviceRow, FlowAttribution.recordId_eq_iff, bucketStart]
  simp [and_assoc, and_comm, and_left_comm]

/-- The covering period of the monitor that is found. -/
theorem monitoringPeriod_isSome {id : ℕ} {at_ : DateTime}
    (h : ∃ period ∈ inv.periods, period.monitoringId = id ∧ period.covers at_ = true) :
    ∃ period, monitoringPeriod inv id none at_ = some period := by
  obtain ⟨period, hmem, hid, hcovers⟩ := h
  have hperiod : period ∈ (inv.periods.filter fun period ↦ decide (period.monitoringId = id) &&
      (none : Option AssetNetworkAssignment).all (fun a ↦
        decide (period.assignmentId = some a.id)) && period.covers at_).insertionSort
          fun a b ↦ b.startedAt ≤ a.startedAt := by
    rw [mem_insertionSort, mem_filter]
    exact ⟨hmem, by simp [hid, hcovers]⟩
  rw [monitoringPeriod]
  cases hsorted : (inv.periods.filter fun period ↦ decide (period.monitoringId = id) &&
      (none : Option AssetNetworkAssignment).all (fun a ↦
        decide (period.assignmentId = some a.id)) && period.covers at_).insertionSort
          fun a b ↦ b.startedAt ≤ a.startedAt with
  | nil => rw [hsorted] at hperiod; cases hperiod
  | cons first rest => exact ⟨first, rfl⟩

/-- What a charge was made of. Without an assignment it went to the monitor of the managed record
the attribution goes to; an enabled monitor there excludes assignments. -/
theorem deviceCharge_eq_some {charge : DeviceCharge}
    (h : deviceCharge inv source p spec = some charge) :
    charge.direction = spec.direction ∧ charge.bytes = specBytes p spec ∧
      charge.attribution = specAttribution inv p spec ∧
      (charge.assignment = none → ∃ j monitor, (specAttribution inv p spec).goesTo j ∧
        trafficMonitoringFor inv j = some monitor ∧
        monitoringPeriod inv monitor.id none p.record.observedAt = some charge.period) ∧
      (∀ j monitor, (specAttribution inv p spec).goesTo j →
        trafficMonitoringFor inv j = some monitor → monitor.isEnabled = true →
        charge.assignment = none) := by
  simp only [deviceCharge, Option.bind_eq_bind, Option.pure_def, Option.ite_none_left_eq_some] at h
  obtain ⟨-, hattr, h⟩ := h
  generalize hman : (if (spec.attribution.getD (resolveFlowAttribution inv p.record
    spec.address)).state = .resolved then (spec.attribution.getD (resolveFlowAttribution inv
      p.record spec.address)).ipRecordId.bind (trafficMonitoringFor inv) else none) = managed at *
  generalize hasgn : (if managed.any (·.isEnabled) then none
    else assignmentForRecord inv p.record spec.address) = assignment at *
  have hnone : ∀ j monitor, (specAttribution inv p spec).goesTo j →
      trafficMonitoringFor inv j = some monitor → monitor.isEnabled = true →
      assignment = none := by
    rintro j monitor ⟨hst, hid⟩ hj henab
    rw [specAttribution] at hst hid
    rw [if_pos hst, hid, Option.bind_some, hj] at hman
    rw [← hasgn, ← hman, Option.any_some, if_pos henab]
  cases assignment with
  | some a =>
    dsimp only at h
    simp only [Option.bind_eq_some_iff, Option.ite_none_left_eq_some, Option.some.injEq] at h
    obtain ⟨monitor, -, -, period, -, rfl⟩ := h
    exact ⟨rfl, rfl, rfl, (nomatch ·), hnone⟩
  | none =>
    dsimp only at h
    simp only [Option.bind_eq_some_iff, Option.ite_none_left_eq_some, Option.some.injEq] at h
    obtain ⟨monitor, hmon, -, period, hperiod, rfl⟩ := h
    refine ⟨rfl, rfl, rfl, fun _ ↦ ?_, hnone⟩
    have hst : (specAttribution inv p spec).state = .resolved := by
      by_contra hst
      exact hattr ⟨hst, rfl⟩
    rw [specAttribution] at hst ⊢
    rw [hmon, if_pos hst, Option.bind_eq_some_iff] at hman
    obtain ⟨j, hj, hmon⟩ := hman
    exact ⟨j, monitor, ⟨hst, hj⟩, hmon, hperiod⟩

/-- A charge is made when the attribution goes to a monitored record and there is something to
charge. -/
theorem deviceCharge_ne_none
    (hm : MonitoredRecord inv i m) (hperiod : ∃ period ∈ inv.periods,
      period.monitoringId = m.id ∧ period.covers p.record.observedAt = true)
    (hgoes : (specAttribution inv p spec).goesTo i) (hbytes : specBytes p spec ≠ 0) :
    deviceCharge inv source p spec ≠ none := by
  obtain ⟨period, hperiod⟩ := monitoringPeriod_isSome hperiod
  obtain ⟨hst, hid⟩ := hgoes
  rw [specAttribution] at hst hid
  rw [specBytes] at hbytes
  simp [deviceCharge, hbytes, hst, hid, hm.monitor, hm.enabled, hperiod]

/-- **One entry of `direction_specs`**: the managed record gets the entry's bytes exactly when its
attribution goes there. -/
theorem deviceBytes_spec {source : TrafficSource} (hm : MonitoredRecord inv i m)
    (hperiod : ∃ period ∈ inv.periods, period.monitoringId = m.id ∧
      period.covers p.record.observedAt = true) (start : DateTime) (direction : UsageDirection)
    (spec : DirectionSpec) :
    deviceBytes i start direction ((deviceCharge inv source p spec).toList.flatMap fun charge ↦
        resolutions.map (deviceRow utcClock p charge)) =
      if bucketStart p.record.observedAt 300 = start then deviceShare inv p i direction spec
      else 0 := by
  cases hcharge : deviceCharge inv source p spec with
  | none =>
    have hshare : deviceShare inv p i direction spec = 0 := by
      rw [deviceShare]
      split
      · rename_i hgoes
        by_contra hbytes
        exact deviceCharge_ne_none hm hperiod hgoes.1 hbytes hcharge
      · rfl
    rw [hshare, ite_self]
    rfl
  | some charge =>
    obtain ⟨hdirection, hbytes, hattr, -⟩ := deviceCharge_eq_some hcharge
    rw [toList_some, flatMap_singleton, deviceBytes_charge, hdirection, hbytes,
      hattr, deviceShare, ← ite_and]
    exact if_congr and_comm rfl rfl

/-- A directional record is charged the sum of its counters. -/
theorem bytes_of_directional (hr : Decoded p.record) (hcounts : ChargesCounts p)
    (hdir : p.record.directional = true) :
    p.bytes = p.record.forwardBytes.getD 0 + p.record.reverseBytes.getD 0 := by
  obtain ⟨hbytes, -, hplain⟩ := hr.directional_counts hdir
  rw [hcounts.plain hplain, hbytes, getD_some, directionalSum]

theorem directionSpecs_bytes {r : NormalizedFlowRecord} (hdir : r.directional = true) :
    ∀ spec ∈ directionSpecs inv r, spec.bytes = r.forwardBytes ∨ spec.bytes = r.reverseBytes := by
  rw [directionSpecs, if_pos hdir]
  dsimp only
  split_ifs
  all_goals simp [initiatorSpecs, responderSpecs]

/-- A posting without bytes gives nothing to anyone. -/
theorem specBytes_eq_zero (hr : Decoded p.record) (hcounts : ChargesCounts p)
    (hzero : p.bytes = 0) : ∀ spec ∈ directionSpecs inv p.record, specBytes p spec = 0 := by
  intro spec hspec
  rw [specBytes]
  split
  · rename_i hdir
    have hsum := bytes_of_directional hr hcounts hdir
    rcases directionSpecs_bytes hdir spec hspec with h | h
    · rw [h]; omega
    · rw [h]; omega
  · exact hzero

theorem sum_deviceShare_eq_zero (hr : Decoded p.record) (hcounts : ChargesCounts p)
    (hzero : p.bytes = 0) (direction : UsageDirection) :
    ((directionSpecs inv p.record).map (deviceShare inv p i direction)).sum = 0 := by
  refine sum_eq_zero fun share hshare ↦ ?_
  obtain ⟨spec, hspec, rfl⟩ := mem_map.1 hshare
  rw [deviceShare, specBytes_eq_zero hr hcounts hzero spec hspec, ite_self]

/-- **One posting in the device account.** -/
theorem deviceBytes_deviceRows (hm : MonitoredRecord inv i m) (hr : Observable inv i a m p.record)
    (hcounts : ChargesCounts p) (henab : inv.enabled = true)
    (hsrc : (inv.source p.sourceId).isSome) (start : DateTime) (direction : UsageDirection) :
    deviceBytes i start direction (deviceRows utcClock inv p) =
      if bucketStart p.record.observedAt 300 = start then
        ((directionSpecs inv p.record).map (deviceShare inv p i direction)).sum
      else 0 := by
  obtain ⟨source, hsrc⟩ := isSome_iff_exists.1 hsrc
  rw [deviceRows, deviceCharges, henab, Bool.not_true, Bool.false_or]
  split
  · rename_i hzero
    rw [Bool.and_eq_true, decide_eq_true_eq] at hzero
    rw [sum_deviceShare_eq_zero hr.decoded hcounts hzero.1, ite_self]
    rfl
  · rw [hsrc]
    dsimp only
    rw [filterMap_eq_flatMap_toList, flatMap_assoc, deviceBytes, Ledger.total_flatMap]
    have hspec := @deviceBytes_spec _ _ p _ source hm hr.period start direction
    simp only [deviceBytes] at hspec
    simp only [hspec]
    split
    · rfl
    · simp

/-- **One posting in the endpoint account.** -/
theorem endpointBytes_endpointRows (hr : Decoded p.record) (henab : inv.enabled = true)
    (hnet : ∃ network ∈ inv.networks, network.contains a = true) (start : DateTime)
    (direction : UsageDirection) :
    endpointBytes a start direction (endpointRows inv p) =
      if bucketStart p.record.observedAt 300 = start then
        ((endpointContributions p).map (endpointShare a direction)).sum
      else 0 := by
  have hnetworks : endpointNetworks inv = inv.networks := if_pos henab
  have hlocal : (inv.networks.any fun network ↦ network.contains a) = true :=
    any_eq_true.2 hnet
  have hempty : inv.networks.isEmpty = false := by
    obtain ⟨network, hmem, -⟩ := hnet
    exact isEmpty_eq_false_iff.2 (ne_nil_of_mem hmem)
  have hrow : ∀ c, endpointBytes a start direction (contributionRows inv p c) =
      if bucketStart p.record.observedAt 300 = start then endpointShare a direction c else 0 := by
    intro c
    rw [contributionRows, hnetworks]
    rcases c with ⟨address, contributed, bytes, packets⟩
    cases address with
    | none => simp [endpointShare, endpointBytes]
    | some b =>
      dsimp only
      split
      · rename_i hskip
        have hshare : endpointShare a direction ⟨some b, contributed, bytes, packets⟩ = 0 := by
          rw [endpointShare]
          split
          · rename_i hb
            obtain rfl : b = a := some.inj hb.1
            rcases hskip with hskip | hskip
            · exact hskip.1
            · rw [hlocal] at hskip; cases hskip
          · rfl
        rw [hshare, ite_self]
        rfl
      · simp only [endpointBytes, resolutions, map_cons, map_nil, Ledger.total_cons,
          Ledger.total_nil, endpointShare, some.injEq]
        simp [← ite_and, and_comm, and_assoc]
  rw [endpointRows, hnetworks, hempty, Bool.false_or, decide_eq_false hr.exporterIdentity_ne,
    if_neg Bool.false_ne_true, endpointBytes, Ledger.total_flatMap]
  simp only [endpointBytes] at hrow
  simp only [hrow]
  split
  · rfl
  · simp

/-- Whom an address of the record is attributed to. -/
theorem Observable.goesTo_iff (hr : Observable inv i a m p.record) (address : IPAddr) :
    (resolveFlowAttribution inv p.record (some address)).goesTo i ↔ address = a := by
  refine ⟨fun h ↦ ?_, fun h ↦ by rw [h]; exact hr.resolves⟩
  by_contra hne
  exact hr.unique address hne h

/-- An absent address is attributed like the source. -/
theorem Observable.goesTo_source_iff (hr : Observable inv i a m p.record) :
    (resolveFlowAttribution inv p.record p.record.sourceIp).goesTo i ↔
      p.record.sourceIp = some a := by
  cases hsrc : p.record.sourceIp with
  | none => simp [resolveFlowAttribution, hsrc, FlowAttribution.goesTo]
  | some address => rw [hr.goesTo_iff, some.injEq]

theorem Observable.goesTo_destination_iff (hr : Observable inv i a m p.record)
    (hdest : p.record.sourceIp = some a → p.record.destinationIp ≠ none) :
    (resolveFlowAttribution inv p.record p.record.destinationIp).goesTo i ↔
      p.record.destinationIp = some a := by
  cases hnone : p.record.destinationIp with
  | none =>
    have hfallback : resolveFlowAttribution inv p.record none =
        resolveFlowAttribution inv p.record p.record.sourceIp := by
      rw [resolveFlowAttribution, resolveFlowAttribution, Option.none_or, Option.or_self]
    rw [hfallback, hr.goesTo_source_iff]
    exact ⟨fun h ↦ absurd hnone (hdest h), (nomatch ·)⟩
  | some address => rw [hr.goesTo_iff, some.injEq]

theorem endpointContributions_bytes_le (hr : Decoded p.record) (hcounts : ChargesCounts p) :
    ∀ c ∈ endpointContributions p, c.bytes ≤ p.bytes := by
  rw [endpointContributions]
  split
  · rename_i hdir
    have hsum := bytes_of_directional hr hcounts hdir
    simp [hsum]
  · simp

theorem sum_endpointShare_eq_zero (hr : Decoded p.record) (hcounts : ChargesCounts p)
    (hzero : p.bytes = 0) (direction : UsageDirection) :
    ((endpointContributions p).map (endpointShare a direction)).sum = 0 := by
  refine sum_eq_zero fun share hshare ↦ ?_
  obtain ⟨c, hc, rfl⟩ := mem_map.1 hshare
  have hbytes := endpointContributions_bytes_le hr hcounts c hc
  rw [endpointShare]
  split
  · omega
  · rfl

/-- A directional record, when the address is not its responder beside a resolved initiator. -/
theorem directional_shares_eq (hr : Observable inv i a m p.record)
    (hdir : p.record.directional = true)
    (hresponder : p.record.destinationIp = some a →
      (resolveFlowAttribution inv p.record p.record.sourceIp).state ≠ .resolved)
    (direction : UsageDirection) :
    ((directionSpecs inv p.record).map (deviceShare inv p i direction)).sum =
      ((endpointContributions p).map (endpointShare a direction)).sum := by
  rw [directionSpecs, endpointContributions, if_pos hdir]
  dsimp only
  rw [if_pos hdir]
  split
  · rename_i hsrc
    have hdest : p.record.destinationIp ≠ some a := fun h ↦ hresponder h hsrc
    simp only [initiatorSpecs, map_cons, map_nil, sum_cons, sum_nil,
      deviceShare, endpointShare, specAttribution, specBytes, getD_some,
      hr.goesTo_source_iff, if_pos hdir, hdest, false_and, if_false, add_zero]
  · rename_i hsrc
    -- the source does not resolve, so it is not the address
    have hsrc : p.record.sourceIp ≠ some a := fun h ↦ hsrc (hr.goesTo_source_iff.2 h).1
    have hgoes := hr.goesTo_destination_iff fun h ↦ absurd h hsrc
    split
    · simp only [responderSpecs, map_cons, map_nil, sum_cons, sum_nil,
        deviceShare, endpointShare, specAttribution, specBytes, getD_some, hgoes,
        if_pos hdir, hsrc, false_and, if_false, zero_add]
    · rename_i hres
      have hdest : p.record.destinationIp ≠ some a := fun h ↦ hres (hgoes.2 h).1
      split_ifs
      all_goals
        simp only [initiatorSpecs, responderSpecs, map_cons, map_nil, sum_cons,
          sum_nil, deviceShare, endpointShare, specAttribution, getD_none, hgoes,
          hr.goesTo_source_iff, hsrc, hdest, false_and, if_false, add_zero]

/-- **The two attributions of one posting give the address the same bytes.** -/
theorem shares_eq (hr : Observable inv i a m p.record) (hside : OneSided inv a p.record)
    (hcounts : ChargesCounts p) (direction : UsageDirection) :
    ((directionSpecs inv p.record).map (deviceShare inv p i direction)).sum =
      ((endpointContributions p).map (endpointShare a direction)).sum := by
  by_cases hzero : p.bytes = 0
  · rw [sum_deviceShare_eq_zero hr.decoded hcounts hzero,
      sum_endpointShare_eq_zero hr.decoded hcounts hzero]
  have hbytes : p.record.bytesTotal.getD 0 ≠ 0 := fun h ↦ hzero (by have := hcounts.le; omega)
  obtain ⟨hresponder, hsrc⟩ := hside hbytes
  by_cases hdir : p.record.directional = true
  · exact directional_shares_eq hr hdir (hresponder hdir) direction
  · have hplain : p.record.directional = false := by simpa using hdir
    rw [directionSpecs, endpointContributions, if_neg hdir, if_neg hdir]
    simp only [map_cons, map_nil, sum_cons, sum_nil, deviceShare, endpointShare,
      specAttribution, specBytes, getD_none, hr.goesTo_source_iff,
      hr.goesTo_destination_iff (hsrc hplain), if_neg hdir]

/-- **One posting gives both accounts the same.** -/
theorem deviceBytes_eq_endpointBytes (hm : MonitoredRecord inv i m)
    (hnet : ∃ network ∈ inv.networks, network.contains a = true)
    (hr : Observable inv i a m p.record) (hside : OneSided inv a p.record)
    (hcounts : ChargesCounts p) (hsrc : (inv.source p.sourceId).isSome) (start : DateTime)
    (direction : UsageDirection) :
    deviceBytes i start direction (deviceRows utcClock inv p) =
      endpointBytes a start direction (endpointRows inv p) := by
  by_cases henab : inv.enabled = true
  · rw [deviceBytes_deviceRows hm hr hcounts henab hsrc,
      endpointBytes_endpointRows hr.decoded henab hnet, shares_eq hr hside hcounts]
  · have hdisabled : inv.enabled = false := by simpa using henab
    rw [deviceRows, deviceCharges, endpointRows, endpointNetworks, hdisabled]
    rfl

end Shares

/-! ### Rows of the managed record -/

/-- The rows of the managed record are those of the periods of its monitor. Groups of device rows
name the period and not the record; this ties the two together. -/
def Owned (inv : Inventory) (i : ℕ) (m : TrafficDeviceMonitoring) (row : TrafficDeviceAggregate) :
    Prop :=
  row.ipAddressId = some i ↔ row.assignmentId = none ∧
    ∃ period ∈ inv.periods, period.id = row.periodId ∧ period.monitoringId = m.id

theorem Owned.amountFree (inv : Inventory) (i : ℕ) (m : TrafficDeviceMonitoring) :
    AmountFree (Owned inv i m) where
  increase _ _ h := h
  merge _ _ h := h

theorem trafficMonitoringFor_eq_some {m : TrafficDeviceMonitoring}
    (h : trafficMonitoringFor inv i = some m) : m ∈ inv.monitoring ∧ m.ipAddressId = some i := by
  rw [trafficMonitoringFor] at h
  exact ⟨mem_of_find?_eq_some h, by simpa using find?_some h⟩

theorem monitoringPeriod_eq_some {id : ℕ} {assignment : Option AssetNetworkAssignment}
    {at_ : DateTime} {period : TrafficDeviceMonitoringPeriod}
    (h : monitoringPeriod inv id assignment at_ = some period) :
    period ∈ inv.periods ∧ period.monitoringId = id := by
  rw [monitoringPeriod] at h
  have hmem := mem_of_head? h
  rw [mem_insertionSort, mem_filter] at hmem
  simp only [Bool.and_eq_true, decide_eq_true_eq] at hmem
  exact ⟨hmem.1, hmem.2.1.1⟩

section Owned

variable {p : Posting} {m : TrafficDeviceMonitoring}

/-- **Every device row is owned** by the record its period belongs to. -/
theorem owned_deviceRows (hm : MonitoredRecord inv i m) :
    ∀ row ∈ deviceRows utcClock inv p, Owned inv i m row := by
  intro row hrow
  obtain ⟨charge, hcharge, hrow⟩ := mem_flatMap.1 hrow
  obtain ⟨seconds, -, rfl⟩ := mem_map.1 hrow
  rw [deviceCharges] at hcharge
  split at hcharge
  · cases hcharge
  split at hcharge
  · cases hcharge
  obtain ⟨spec, -, hspec⟩ := mem_filterMap.1 hcharge
  obtain ⟨-, -, hattr, hnone, henab⟩ := deviceCharge_eq_some hspec
  rw [← hattr] at hnone henab
  rw [Owned, deviceRow]
  dsimp only
  rw [FlowAttribution.recordId_eq_iff]
  refine ⟨fun hgoes ↦ ?_, fun ⟨hasgn, period, hperiod, hid, hof⟩ ↦ ?_⟩
  · have hasgn := henab i m hgoes hm.monitor hm.enabled
    obtain ⟨j, monitor, hj, hmon, hfound⟩ := hnone hasgn
    obtain rfl := FlowAttribution.goesTo_unique hgoes hj
    obtain rfl : m = monitor := some.inj (hm.monitor.symm.trans hmon)
    obtain ⟨hmem, hof⟩ := monitoringPeriod_eq_some hfound
    exact ⟨by rw [hasgn, map_none], charge.period, hmem, rfl, hof⟩
  · obtain ⟨j, monitor, hj, hmon, hfound⟩ := hnone (map_eq_none_iff.1 hasgn)
    obtain ⟨hmem, hcharged⟩ := monitoringPeriod_eq_some hfound
    obtain rfl := inj_on_of_nodup_map hm.periodKeys hperiod hmem hid
    obtain ⟨hmi, hi⟩ := trafficMonitoringFor_eq_some hm.monitor
    obtain ⟨hmj, hj'⟩ := trafficMonitoringFor_eq_some hmon
    obtain rfl := inj_on_of_nodup_map hm.monitorKeys hmi hmj (hof.symm.trans hcharged)
    rwa [some.inj (hi.symm.trans hj')]

/-- In a table of owned rows, the bytes of the managed record are the total of a set of groups. -/
theorem deviceBytes_eq_deviceTotal (start : DateTime) (direction : UsageDirection)
    {rows : List TrafficDeviceAggregate} (howned : ∀ row ∈ rows, Owned inv i m row) :
    deviceBytes i start direction rows = (deviceTotal (fun g ↦ (g.assignmentId = none ∧
      ∃ period ∈ inv.periods, period.id = g.periodId ∧ period.monitoringId = m.id) ∧
        g.bucketSeconds = 300 ∧ g.bucketStart = start ∧ g.direction = direction) rows).1 := by
  induction rows with
  | nil => rfl
  | cons row rows ih =>
    obtain ⟨hrow, hrows⟩ := forall_mem_cons.1 howned
    have ih := ih hrows
    rw [deviceBytes, deviceTotal] at *
    rw [Ledger.total_cons, Ledger.total_cons, ih, Prod.fst_add]
    refine congrArg (· + _) ?_
    rw [Owned] at hrow
    rw [apply_ite Prod.fst]
    refine if_congr ?_ rfl rfl
    rw [decide_eq_true_iff, decide_eq_true_iff, hrow]
    exact Iff.rfl

end Owned

/-! ### Runs -/

/-- The datagrams of a run: the inventory stands, every record is processed for an existing source,
and every record is observable for the address. -/
structure Watches (inv : Inventory) (i : ℕ) (a : IPAddr) (m : TrafficDeviceMonitoring)
    (db : Database) (d : Datagram) : Prop where
  inventory : db.inventory = inv
  sources : ForExistingSources db d
  observable : ∀ r ∈ d.records, Observable inv i a m r

/-- The datagrams in which the address is one-sided. -/
def WatchesOneSided (inv : Inventory) (i : ℕ) (a : IPAddr) (m : TrafficDeviceMonitoring)
    (db : Database) (d : Datagram) : Prop :=
  Watches inv i a m db d ∧ ∀ r ∈ d.records, OneSided inv a r

/-- The law that runs keep. -/
structure Agreeing (inv : Inventory) (i : ℕ) (a : IPAddr) (m : TrafficDeviceMonitoring)
    (db : Database) : Prop where
  owned : ∀ row ∈ db.deviceAggregates, Owned inv i m row
  agrees : UsageAgrees i a db

section Runs

variable {m : TrafficDeviceMonitoring}

theorem endpointBytes_eq_endpointTotal (start : DateTime) (direction : UsageDirection)
    (rows : List TrafficEndpointAggregate) :
    endpointBytes a start direction rows = (endpointTotal (fun k ↦ k.1 = a ∧ k.2.1 = 300 ∧
      k.2.2.1 = start ∧ k.2.2.2.2.2 = direction) rows).1 := by
  induction rows with
  | nil => rfl
  | cons row rows ih =>
    rw [endpointBytes, endpointTotal] at *
    rw [Ledger.total_cons, Ledger.total_cons, ih, Prod.fst_add, apply_ite Prod.fst]
    rfl

/-- A datagram keeps the two in agreement. -/
theorem Agreeing.receive (hm : MonitoredRecord inv i m)
    (hnet : ∃ network ∈ inv.networks, network.contains a = true) {db : Database} {d : Datagram}
    (h : Agreeing inv i a m db) (hd : WatchesOneSided inv i a m db d) :
    Agreeing inv i a m (receive utcClock db d) := by
  obtain ⟨hd, hside⟩ := hd
  rcases receive_charged utcClock db d with heq | hcharged
  · rw [heq]
    exact h
  have hrows : ∀ row ∈ (batchPostings utcClock d.now d.sourceId d.records db).flatMap
      (deviceRows utcClock db.inventory), Owned inv i m row := by
    intro row hrow
    obtain ⟨p, -, hrow⟩ := mem_flatMap.1 hrow
    rw [hd.inventory] at hrow
    exact owned_deviceRows hm row hrow
  have howned := hcharged.deviceForall _ (Owned.amountFree inv i m) h.owned hrows
  refine ⟨howned, fun start direction ↦ ?_⟩
  have hbatch : deviceBytes i start direction ((batchPostings utcClock d.now d.sourceId d.records
      db).flatMap (deviceRows utcClock db.inventory)) = endpointBytes a start direction
        ((batchPostings utcClock d.now d.sourceId d.records db).flatMap
          (endpointRows db.inventory)) := by
    refine Ledger.total_flatMap_congr fun p hp ↦ ?_
    obtain ⟨hmem, hid, hcounts⟩ := mem_postings hp
    have hsrc := hd.sources _ hmem
    rw [← hid] at hsrc
    rw [hd.inventory] at hsrc ⊢
    exact deviceBytes_eq_endpointBytes hm hnet (hd.observable _ hmem) (hside _ hmem)
      hcounts hsrc start direction
  have hbef := h.agrees start direction
  rw [deviceBytes_eq_deviceTotal start direction hrows, endpointBytes_eq_endpointTotal] at hbatch
  rw [deviceBytes_eq_deviceTotal start direction h.owned, endpointBytes_eq_endpointTotal] at hbef
  rw [deviceBytes_eq_deviceTotal start direction howned, endpointBytes_eq_endpointTotal,
    hcharged.device, hcharged.endpoint, Prod.fst_add, Prod.fst_add, hbatch, hbef]

/-- **The two accounts agree over every run** of one-sided records, for a monitored managed address
of a loaded local network, on a host in UTC. -/
theorem usage_agrees (hm : MonitoredRecord inv i m)
    (hnet : ∃ network ∈ inv.networks, network.contains a = true) {db : Database}
    (h : (collector utcClock).ReachableBy (WatchesOneSided inv i a m) db) : UsageAgrees i a db := by
  have hagreeing : Agreeing inv i a m db := by
    refine h.invariant (fun db hinit ↦ ?_) fun db d hdb hd ↦ hdb.receive hm hnet hd
    obtain ⟨-, -, hendpoint, hdevice⟩ := hinit
    refine ⟨fun row hrow ↦ ?_, fun start direction ↦ ?_⟩
    · rw [hdevice] at hrow
      cases hrow
    · rw [hendpoint, hdevice]
      rfl
  exact hagreeing.agrees

end Runs

/-! ### A conversation between two managed addresses -/

/-- Two managed addresses of one local network, leased to known devices and both monitored. -/
def officeInventory : Inventory where
  configuration := some true
  sources := [{ id := 1 }]
  localNetworks := [{ networkCidr := some { base := .v4 167772160, prefixLength := 24 } }]
  leases := [{ id := 1, ipAddress := .v4 167772161, leaseStartedAt := 0, dnsClientId := some 1 },
    { id := 2, ipAddress := .v4 167772162, leaseStartedAt := 0, dnsClientId := some 2 }]
  recognisedDevices := [{ id := 1, linkedIpRecordId := some 1 },
    { id := 2, linkedIpRecordId := some 2 }]
  ipAddresses := [{ id := 1, address := .v4 167772161 }, { id := 2, address := .v4 167772162 }]
  monitoring := [{ id := 1, ipAddressId := some 1, isEnabled := true },
    { id := 2, ipAddressId := some 2, isEnabled := true }]
  periods := [{ id := 1, monitoringId := 1, startedAt := 0 },
    { id := 2, monitoringId := 2, startedAt := 0 }]

/-- The fields of a record from the first address to the second: 100 bytes there, 50 back. -/
def conversationFields : RawFields
  | 8 => some [10, 0, 0, 1]
  | 12 => some [10, 0, 0, 2]
  | 231 => some [100]
  | 232 => some [50]
  | _ => none

/-- The datagram with that record. -/
def conversationDatagram : Datagram where
  now := 3700000000
  sourceId := some 1
  records := [normalise conversationFields "192.0.2.1" 0 1 0 3700]

/-- No third address resolves. -/
theorem office_unresolved (r : NormalizedFlowRecord) {b : IPAddr} (h₁ : b ≠ .v4 167772161)
    (h₂ : b ≠ .v4 167772162) (i : ℕ) :
    ¬ (resolveFlowAttribution officeInventory r (some b)).goesTo i := by
  simp [resolveFlowAttribution, officeInventory, Ne.symm h₁, Ne.symm h₂, FlowAttribution.goesTo]

theorem usage_agrees_office : ∃ m, MonitoredRecord officeInventory 1 m ∧
    (receive utcClock { inventory := officeInventory } conversationDatagram).deviceAggregates ≠ [] ∧
    UsageAgrees 1 (.v4 167772161)
      (receive utcClock { inventory := officeInventory } conversationDatagram) := by
  have hm : MonitoredRecord officeInventory 1
      { id := 1, ipAddressId := some 1, isEnabled := true } := ⟨rfl, rfl, by decide, by decide⟩
  have hstart : (collector utcClock).ReachableBy (WatchesOneSided officeInventory 1 (.v4 167772161)
      { id := 1, ipAddressId := some 1, isEnabled := true }) { inventory := officeInventory } :=
    .start ⟨rfl, rfl, rfl, rfl⟩
  refine ⟨_, hm, by decide, usage_agrees hm ⟨_, mem_singleton_self _, by decide⟩
    (.next conversationDatagram hstart ⟨⟨rfl, fun _ _ ↦ rfl, fun r hr ↦ ?_⟩, by decide⟩)⟩
  obtain rfl := mem_singleton.1 hr
  refine ⟨⟨_, _, _, _, _, _, by decide, rfl⟩, by decide, fun b hb ↦ ?_,
    ⟨_, mem_cons_self, rfl, by decide⟩⟩
  by_cases hother : b = .v4 167772162
  · rw [hother]; decide
  · exact office_unresolved _ hb hother 1

/-- **The responder's device usage is missing**: 50 bytes of upload in the endpoint account, none in
the device account. -/
theorem conversation_disagrees : ∃ m db, MonitoredRecord officeInventory 2 m ∧
    (∃ network ∈ officeInventory.networks, network.contains (.v4 167772162) = true) ∧
    (collector utcClock).ReachableBy (Watches officeInventory 2 (.v4 167772162) m) db ∧
    ¬ UsageAgrees 2 (.v4 167772162) db := by
  have hstart : (collector utcClock).ReachableBy (Watches officeInventory 2 (.v4 167772162)
      { id := 2, ipAddressId := some 2, isEnabled := true }) { inventory := officeInventory } :=
    .start ⟨rfl, rfl, rfl, rfl⟩
  refine ⟨_, _, ⟨rfl, rfl, by decide, by decide⟩, ⟨_, mem_singleton_self _, by decide⟩,
    .next conversationDatagram hstart ⟨rfl, fun _ _ ↦ rfl, fun r hr ↦ ?_⟩, fun h ↦ ?_⟩
  · obtain rfl := mem_singleton.1 hr
    refine ⟨⟨_, _, _, _, _, _, by decide, rfl⟩, by decide, fun b hb ↦ ?_,
      ⟨_, mem_cons_of_mem _ (mem_singleton_self _), rfl, by decide⟩⟩
    by_cases hother : b = .v4 167772161
    · rw [hother]; decide
    · exact office_unresolved _ hother hb 2
  · have hupload := h 3600000000 .upload
    revert hupload
    decide +kernel

end Kaya.Flow
