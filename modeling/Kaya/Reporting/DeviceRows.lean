import Kaya.Flow.Buckets
import Kaya.Flow.Steps
import Kaya.Library.Dict
import Kaya.Library.Enumeration

/-!
# Bytes of the device report

`persist_device_traffic` charges a record to an assignment that is valid **when the record was
observed**, and adds its bytes to three buckets. `_device_rows` of
`app/services/network_traffic_reporting.py` reads the buckets of one size and skips a row whose
**bucket starts** outside the period of its assignment (`skips`). A bucket starts before the records
in it, so the bucket in which an assignment starts is lost, together with everything the assignment
used in it: up to a day at 86400 seconds, and less at the other sizes.

`device_report_complete_iff` is the condition under which nothing is lost.

The report is the second query of `_device_rows` for all addresses. The names, the quality and the
observation times of an item are left out.
-/

namespace Kaya.Reporting

open Kaya.Flow List Option

/-! ### The report -/

/-- `MAX_REPORT_ROWS`. -/
def maxReportRows : ℕ := 10000

/-- The window of `_device_rows`. -/
structure DeviceWindow where
  start : DateTime
  stop : Option DateTime
  bucketSeconds : ℕ

/-- The bucket starts in the window. -/
def DeviceWindow.contains (w : DeviceWindow) (bucketStart : DateTime) : Bool :=
  decide (w.start ≤ bucketStart) && w.stop.all (bucketStart < ·)

/-- The second query of `_device_rows` joins a row to its confirmed assignment, if that is
monitored: the assignment by its primary key, its monitoring by a unique column. -/
def joinAssignment (inv : Inventory) (w : DeviceWindow) (row : TrafficDeviceAggregate) :
    Option (AssetNetworkAssignment × TrafficDeviceAggregate) := do
  let id ← row.assignmentId
  let assignment ← inv.assignments.find? (·.id = id)
  let monitoring ← inv.monitoring.find? (·.assignmentId = some id)
  if monitoring.isEnabled ∧ assignment.status = .confirmed ∧
      row.bucketSeconds = w.bucketSeconds ∧ w.contains row.bucketStart then
    some (assignment, row)
  else none

/-- The result of that query, in any order. -/
def assignmentRows (inv : Inventory) (w : DeviceWindow) (rows : List TrafficDeviceAggregate) :
    List (AssetNetworkAssignment × TrafficDeviceAggregate) :=
  rows.filterMap (joinAssignment inv w)

/-- The amounts of an item. -/
structure DeviceItem where
  downloadBytes : ℕ := 0
  uploadBytes : ℕ := 0
  totalBytes : ℕ := 0

/-- `item[f"{aggregate.direction}_bytes"] += amount`. -/
def DeviceItem.add (item : DeviceItem) (row : TrafficDeviceAggregate) : DeviceItem :=
  match row.direction with
  | .download => { item with
    downloadBytes := item.downloadBytes + row.bytesTotal
    totalBytes := item.totalBytes + row.bytesTotal }
  | .upload => { item with
    uploadBytes := item.uploadBytes + row.bytesTotal
    totalBytes := item.totalBytes + row.bytesTotal }

/-- The bytes of one direction. -/
def DeviceItem.bytes (item : DeviceItem) : UsageDirection → ℕ
  | .download => item.downloadBytes
  | .upload => item.uploadBytes

/-- The bucket starts before the assignment, or when it is over. -/
def skips (assignment : AssetNetworkAssignment) (bucketStart : DateTime) : Bool :=
  decide (assignment.startedAt > bucketStart) || assignment.endedAt.any (bucketStart ≥ ·)

/-- One turn of the loop over the rows of assignments. -/
def deviceStep (grouped : Dict ℕ DeviceItem)
    (entry : AssetNetworkAssignment × TrafficDeviceAggregate) : Dict ℕ DeviceItem :=
  if skips entry.1 entry.2.bucketStart then grouped
  else grouped.set entry.1.id (((grouped.get? entry.1.id).getD {}).add entry.2)

/-- `_device_rows`: the items of assignments, from the rows of the query. -/
def reportedDevices (entries : List (AssetNetworkAssignment × TrafficDeviceAggregate)) :
    Dict ℕ DeviceItem :=
  (entries.take maxReportRows).foldl deviceStep .empty

/-- What the report says of an assignment; one without an item has used nothing. -/
def reportedBytes (entries : List (AssetNetworkAssignment × TrafficDeviceAggregate))
    (assignmentId : ℕ) (direction : UsageDirection) : ℕ :=
  (((reportedDevices entries).get? assignmentId).getD {}).bytes direction

/-! ### The history -/

/-- Calls of `persist_device_traffic` in one transaction, and what they read. -/
structure Transaction where
  inventory : Inventory
  postings : List Posting

/-- The rows after transactions that have been committed. Between them anything may happen to what
the calls read. -/
inductive Recorded (clock : HostClock) : List Transaction → Database → Prop
  | start {db : Database} (hnone : db.deviceAggregates = []) : Recorded clock [] db
  | commit {history : List Transaction} {db db' : Database} {t : Transaction}
      (h : Recorded clock history db)
      (hcommit : (t.postings.foldl (persistDeviceTraffic clock)
        { db with inventory := t.inventory }.session).commit = some db') :
      Recorded clock (history ++ [t]) db'

/-- Bytes that have been attributed to an assignment. -/
structure Attribution where
  observedAt : DateTime
  direction : UsageDirection
  bytes : ℕ

/-- What a call has attributed to an assignment. -/
def attributionsOf (assignmentId : ℕ) (inv : Inventory) (p : Posting) : List Attribution :=
  (deviceCharges inv p).flatMap fun charge ↦
    if charge.assignment.map (·.id) = some assignmentId then
      [⟨p.record.observedAt, charge.direction, charge.bytes⟩]
    else []

/-- What has been attributed to an assignment. -/
def attributions (assignmentId : ℕ) (history : List Transaction) : List Attribution :=
  history.flatMap fun t ↦ t.postings.flatMap (attributionsOf assignmentId t.inventory)

/-- The bytes that have been attributed to an assignment in one direction. -/
def attributedBytes (assignmentId : ℕ) (direction : UsageDirection) (history : List Transaction) :
    ℕ :=
  Ledger.total (·.direction = direction) Attribution.bytes (attributions assignmentId history)

/-- The assignment is confirmed and monitored. -/
structure Monitored (inv : Inventory) (assignment : AssetNetworkAssignment) : Prop where
  stored : inv.assignments.find? (·.id = assignment.id) = some assignment
  confirmed : assignment.status = .confirmed
  enabled : ∃ monitoring, inv.monitoring.find? (·.assignmentId = some assignment.id) =
    some monitoring ∧ monitoring.isEnabled = true

/-- A row with this bucket start is in the window and is not skipped. -/
def Kept (assignment : AssetNetworkAssignment) (start : DateTime) (stop : Option DateTime)
    (bucketStart : DateTime) : Prop :=
  (start ≤ bucketStart ∧ ∀ t ∈ stop, bucketStart < t) ∧
    assignment.startedAt ≤ bucketStart ∧ ∀ t ∈ assignment.endedAt, bucketStart < t

instance (assignment : AssetNetworkAssignment) (start : DateTime) (stop : Option DateTime)
    (bucketStart : DateTime) : Decidable (Kept assignment start stop bucketStart) :=
  inferInstanceAs (Decidable (_ ∧ _))

/-! ### What the report adds up -/

section Reported

variable {clock : HostClock} {inv : Inventory} {a : AssetNetworkAssignment} {w : DeviceWindow}
  {direction : UsageDirection}

theorem bytes_add (item : DeviceItem) (row : TrafficDeviceAggregate) :
    (item.add row).bytes direction =
      item.bytes direction + if row.direction = direction then row.bytesTotal else 0 := by
  unfold DeviceItem.add
  cases row.direction <;> cases direction <;> rfl

theorem kept_iff_not_skips {bucketStart : DateTime} :
    Kept a w.start w.stop bucketStart ↔
      w.contains bucketStart = true ∧ skips a bucketStart = false := by
  simp only [Kept, DeviceWindow.contains, skips, Bool.and_eq_true, decide_eq_true_eq,
    Bool.or_eq_false_iff, decide_eq_false_iff_not, not_lt, gt_iff_lt, ge_iff_le]
  cases w.stop <;> cases a.endedAt <;> simp

/-- The entries that count for an item. -/
def countsFor (id : ℕ) (direction : UsageDirection)
    (e : AssetNetworkAssignment × TrafficDeviceAggregate) : Bool :=
  !skips e.1 e.2.bucketStart && decide (e.1.id = id) && decide (e.2.direction = direction)

/-- The groups of rows that count for an assignment. -/
def groupCounts (a : AssetNetworkAssignment) (w : DeviceWindow) (direction : UsageDirection)
    (g : DeviceGroup) : Bool :=
  decide (g.assignmentId = some a.id) && decide (g.bucketSeconds = w.bucketSeconds) &&
    decide (Kept a w.start w.stop g.bucketStart) && decide (g.direction = direction)

/-- The loop adds up the rows that it does not skip. -/
theorem bytes_foldl (entries : List (AssetNetworkAssignment × TrafficDeviceAggregate))
    (grouped : Dict ℕ DeviceItem) (id : ℕ) :
    (((entries.foldl deviceStep grouped).get? id).getD {}).bytes direction =
      ((grouped.get? id).getD {}).bytes direction +
        Ledger.total (countsFor id direction) (·.2.bytesTotal) entries := by
  induction entries generalizing grouped with
  | nil => rfl
  | cons entry entries ih =>
    rw [foldl_cons, ih, Ledger.total_cons, ← Nat.add_assoc]
    refine congrArg (· + _) ?_
    rw [deviceStep, countsFor]
    by_cases hskip : skips entry.1 entry.2.bucketStart = true
    · simp [hskip]
    by_cases hid : entry.1.id = id
    · subst hid
      rw [if_neg hskip, Dict.get?_set_self, getD_some, bytes_add]
      simp [hskip]
    · rw [if_neg hskip, Dict.get?_set, if_neg (Ne.symm hid)]
      simp [hid]

theorem assignmentId_of_joinAssignment {row : TrafficDeviceAggregate}
    {e : AssetNetworkAssignment × TrafficDeviceAggregate}
    (h : joinAssignment inv w row = some e) : row.assignmentId = some e.1.id := by
  simp only [joinAssignment, bind_eq_bind, bind_eq_some_iff] at h
  obtain ⟨id, hrow, b, hfound, monitoring, -, hentry⟩ := h
  have hkey : b.id = id := by simpa using find?_some hfound
  split_ifs at hentry
  obtain rfl := some.inj hentry
  exact hrow.trans (congrArg some hkey.symm)

/-- A row in the join. -/
theorem elim_joinAssignment (ha : Monitored inv a) (row : TrafficDeviceAggregate) :
    (joinAssignment inv w row).elim 0
        (fun e ↦ if countsFor a.id direction e then e.2.bytesTotal else 0) =
      if groupCounts a w direction row.group then row.bytesTotal else 0 := by
  by_cases hid : row.assignmentId = some a.id
  · obtain ⟨monitoring, hmonitoring, henab⟩ := ha.enabled
    have hkept : decide (Kept a w.start w.stop row.bucketStart) =
        (w.contains row.bucketStart && !skips a row.bucketStart) := by
      simp [kept_iff_not_skips]
    simp only [joinAssignment, groupCounts, countsFor, TrafficDeviceAggregate.group, hid,
      bind_eq_bind, bind_some, ha.stored, hmonitoring, henab, ha.confirmed, hkept, true_and]
    by_cases hsize : row.bucketSeconds = w.bucketSeconds
    · cases hwindow : w.contains row.bucketStart <;> simp [hsize]
    · simp [hsize]
  · have hother : groupCounts a w direction row.group = false := by
      simp [groupCounts, TrafficDeviceAggregate.group, hid]
    rw [hother]
    cases hjoin : joinAssignment inv w row with
    | none => rfl
    | some e =>
      have hne : e.1.id ≠ a.id := fun h ↦
        hid ((assignmentId_of_joinAssignment hjoin).trans (congrArg some h))
      simp [countsFor, hne]

theorem total_assignmentRows (ha : Monitored inv a) (rows : List TrafficDeviceAggregate) :
    Ledger.total (countsFor a.id direction) (·.2.bytesTotal) (assignmentRows inv w rows) =
      (deviceTotal (groupCounts a w direction) rows).1 := by
  induction rows with
  | nil => rfl
  | cons row rows ih =>
    have hrow := @elim_joinAssignment inv a w direction ha row
    rw [deviceTotal] at ih ⊢
    rw [Ledger.total_cons, Prod.fst_add, ← ih, apply_ite Prod.fst, assignmentRows, filterMap_cons]
    cases hjoin : joinAssignment inv w row with
    | none =>
      rw [hjoin] at hrow
      exact ((Nat.zero_add _).symm.trans (congrArg (· + _) hrow))
    | some e =>
      rw [hjoin] at hrow
      rw [Ledger.total_cons]
      exact congrArg (· + _) hrow

/-- What the report says of an assignment is a total of the table. -/
theorem reportedBytes_eq (ha : Monitored inv a) {rows : List TrafficDeviceAggregate}
    {entries : List (AssetNetworkAssignment × TrafficDeviceAggregate)}
    (hread : IsRead (·.2.bucketStart) (assignmentRows inv w rows) entries)
    (hmax : entries.length ≤ maxReportRows) :
    reportedBytes entries a.id direction = (deviceTotal (groupCounts a w direction) rows).1 := by
  have hperm : Ledger.total (countsFor a.id direction) (·.2.bytesTotal) entries =
      Ledger.total (countsFor a.id direction) (·.2.bytesTotal) (assignmentRows inv w rows) :=
    ((hread.perm.filter _).map _).sum_eq
  rw [reportedBytes, reportedDevices, take_of_length_le hmax, bytes_foldl, hperm,
    total_assignmentRows ha]
  cases direction <;> exact Nat.zero_add _

/-! ### What has been recorded -/

theorem foldl_persistDeviceTraffic (ps : List Posting) (s : Session) :
    (ps.foldl (persistDeviceTraffic clock) s).deviceAggregates =
      (ps.flatMap (deviceRows clock s.inventory)).foldl writeDeviceRow s.deviceAggregates := by
  induction ps generalizing s with
  | nil => rfl
  | cons p ps ih => rw [foldl_cons, ih, flatMap_cons, foldl_append]; rfl

/-- The totals of the table are the totals of what the calls have written. -/
theorem Recorded.deviceTotal {history : List Transaction} {db : Database}
    (h : Recorded clock history db) (q : DeviceGroup → Bool) :
    deviceTotal q db.deviceAggregates = deviceTotal q (history.flatMap fun t ↦
      t.postings.flatMap (deviceRows clock t.inventory)) := by
  induction h with
  | start hnone => rw [hnone]; rfl
  | @commit history db db' t _ hcommit ih =>
    have hrows : db'.deviceAggregates =
        ((t.postings.flatMap (deviceRows clock t.inventory)).foldl writeDeviceRow
          (.ofRows db.deviceAggregates)).values := by
      rw [Session.commit_eq_some hcommit]
      exact congrArg SessionTable.values (foldl_persistDeviceTraffic _ _)
    rw [hrows, (DeviceTable.ofRows _).deviceTotal_foldl, SessionTable.values_ofRows, ih,
      flatMap_append, flatMap_singleton]
    exact (Ledger.total_append _ _).symm

theorem fst_deviceTotal (q : DeviceGroup → Bool) (rows : List TrafficDeviceAggregate) :
    (deviceTotal q rows).1 = Ledger.total (fun row ↦ q row.group) (·.bytesTotal) rows := by
  induction rows with
  | nil => rfl
  | cons row rows ih =>
    rw [deviceTotal] at ih ⊢
    rw [Ledger.total_cons, Ledger.total_cons, Prod.fst_add, ih, apply_ite Prod.fst]
    rfl

/-- The rows of a call that count are what it has attributed in a bucket that is kept. -/
theorem total_deviceRows (hsize : w.bucketSeconds ∈ resolutions) (i : Inventory) (p : Posting) :
    Ledger.total (fun row ↦ groupCounts a w direction row.group) (·.bytesTotal)
        (deviceRows clock i p) =
      Ledger.total (fun x ↦ decide (x.direction = direction) && decide (Kept a w.start w.stop
        (bucket clock x.observedAt w.bucketSeconds))) Attribution.bytes
          (attributionsOf a.id i p) := by
  refine Ledger.total_flatMap_congr fun charge _ ↦ ?_
  have hgroup : ∀ seconds, groupCounts a w direction (deviceRow clock p charge seconds).group =
      (decide (charge.assignment.map (·.id) = some a.id) && decide (seconds = w.bucketSeconds) &&
        decide (Kept a w.start w.stop (bucket clock p.record.observedAt seconds)) &&
        decide (charge.direction = direction)) := fun _ ↦ rfl
  have hbytes : ∀ seconds, (deviceRow clock p charge seconds).bytesTotal = charge.bytes :=
    fun _ ↦ rfl
  by_cases hasgn : charge.assignment.map (·.id) = some a.id
  · simp only [resolutions, mem_cons, not_mem_nil, or_false] at hsize
    rw [if_pos hasgn, Ledger.total_singleton]
    rcases hsize with h | h | h
    all_goals
      simp [resolutions, Ledger.total_cons, hgroup, hbytes, hasgn, h, and_comm]
  · rw [if_neg hasgn, Ledger.total_nil]
    refine Ledger.total_eq_zero fun row hrow ↦ ?_
    obtain ⟨seconds, -, rfl⟩ := mem_map.1 hrow
    rw [hgroup, decide_eq_false hasgn, Bool.false_and, Bool.false_and, Bool.false_and]

/-- **What the report says of an assignment** is what has been attributed to it in buckets that
start within its period and the window. -/
theorem reportedBytes_recorded {history : List Transaction} {db : Database}
    (hrec : Recorded clock history db) (ha : Monitored inv a)
    (hsize : w.bucketSeconds ∈ resolutions)
    {entries : List (AssetNetworkAssignment × TrafficDeviceAggregate)}
    (hread : IsRead (·.2.bucketStart) (assignmentRows inv w db.deviceAggregates) entries)
    (hmax : entries.length ≤ maxReportRows) :
    reportedBytes entries a.id direction =
      Ledger.total (fun x ↦ decide (x.direction = direction) && decide (Kept a w.start w.stop
        (bucket clock x.observedAt w.bucketSeconds))) Attribution.bytes
          (attributions a.id history) := by
  rw [reportedBytes_eq ha hread hmax, hrec.deviceTotal, fst_deviceTotal]
  exact Ledger.total_flatMap_congr fun t _ ↦
    Ledger.total_flatMap_congr fun p _ ↦ total_deviceRows hsize t.inventory p

end Reported

variable {a : AssetNetworkAssignment} {t start : ℤ}

/-- **The report of a device is complete** at every size exactly where all its bytes were recorded
in buckets that start within the period of the assignment and the window. -/
theorem device_report_complete_iff {clock : HostClock} {history : List Transaction} {db : Database}
    (hrec : Recorded clock history db) {inv : Inventory}
    (ha : Monitored inv a) (start : DateTime) (stop : Option DateTime)
    {entries : ℕ → List (AssetNetworkAssignment × TrafficDeviceAggregate)}
    (hread : ∀ seconds ∈ resolutions, IsRead (·.2.bucketStart)
      (assignmentRows inv ⟨start, stop, seconds⟩ db.deviceAggregates) (entries seconds))
    (hmax : ∀ seconds ∈ resolutions, (entries seconds).length ≤ maxReportRows) :
    (∀ seconds ∈ resolutions, ∀ direction, reportedBytes (entries seconds) a.id direction =
        attributedBytes a.id direction history) ↔
      ∀ x ∈ attributions a.id history, x.bytes ≠ 0 → ∀ seconds ∈ resolutions,
        Kept a start stop (bucket clock x.observedAt seconds) := by
  have hrep : ∀ seconds ∈ resolutions, ∀ direction,
      (reportedBytes (entries seconds) a.id direction = attributedBytes a.id direction history ↔
        ∀ x ∈ attributions a.id history, x.direction = direction → x.bytes ≠ 0 →
          Kept a start stop (bucket clock x.observedAt seconds)) := by
    intro seconds hsecs direction
    have hbytes := @reportedBytes_recorded clock inv a ⟨start, stop, seconds⟩ direction history db
      hrec ha hsecs (entries seconds) (hread seconds hsecs) (hmax seconds hsecs)
    rw [hbytes, attributedBytes, Ledger.total_and_eq_iff]
    simp only [decide_eq_true_eq]
  constructor
  · intro h x hx hbytes seconds hsecs
    have hdirection := h seconds hsecs x.direction
    exact (hrep seconds hsecs x.direction).1 hdirection x hx rfl hbytes
  · intro h seconds hsecs direction
    exact (hrep seconds hsecs direction).2 fun x hx _ hbytes ↦
      h x hx hbytes seconds hsecs

/-! ### A day of an assignment -/

section Sample

variable (startedAt : DateTime)

/-- An assignment of `10.0.0.1`. -/
def leasedAssignment : AssetNetworkAssignment where
  id := 1
  address := .v4 167772161
  startedAt := startedAt

@[inherit_doc leasedAssignment]
def leasedInventory : Inventory where
  configuration := some true
  sources := [{ id := 1 }]
  assignments := [leasedAssignment startedAt]
  monitoring := [{ id := 1, assignmentId := some 1, isEnabled := true }]
  periods := [{ id := 1, monitoringId := 1, assignmentId := some 1, startedAt := 0 }]

/-- 1000 bytes at one o'clock on the first day of the epoch. -/
def oneOClock : Transaction where
  inventory := leasedInventory startedAt
  postings :=
    [{ record :=
        { exporterIdentity := "fw", sourceId := 0, sequence := 1, recordIndex := 0
          observedAt := 46800 * second, sourceIp := some (.v4 167772161) }
       sourceId := 1
       bytes := 1000
       packets := 1
       quality := .complete }]

/-- The database after that. -/
def oneOClockRows : Database :=
  (((oneOClock startedAt).postings.foldl (persistDeviceTraffic utcClock)
    { ({} : Database) with inventory := leasedInventory startedAt }.session).commit).getD {}

/-- The rows of the first day. -/
def firstDay (seconds : ℕ) : List (AssetNetworkAssignment × TrafficDeviceAggregate) :=
  assignmentRows (leasedInventory startedAt) ⟨0, some (86400 * second), seconds⟩
    (oneOClockRows startedAt).deviceAggregates

end Sample

/-- Of an assignment since midnight nothing is lost. -/
theorem device_report_complete_midnight : reportedBytes (firstDay 0 86400) 1 .upload =
    attributedBytes 1 .upload [oneOClock 0] := by
  have hrec : Recorded utcClock [oneOClock 0] (oneOClockRows 0) :=
    @Recorded.commit _ [] {} _ _ (.start rfl) (by decide +kernel)
  have hmonitored : Monitored (leasedInventory 0) (leasedAssignment 0) :=
    ⟨by decide +kernel, rfl, _, rfl, rfl⟩
  have hone : ∀ seconds ∈ resolutions, (firstDay 0 seconds).length = 1 := by decide +kernel
  refine (device_report_complete_iff hrec hmonitored 0 (some (86400 * second))
    (fun seconds hsecs ↦ ⟨.refl _, ?_⟩) fun seconds hsecs ↦ ?_).2 (by decide +kernel)
      86400 (by decide) .upload
  · obtain ⟨entry, hentry⟩ := length_eq_one_iff.1 (hone seconds hsecs)
    exact (congrArg (Pairwise _) hentry).mpr (pairwise_singleton _ _)
  · exact (hone seconds hsecs).trans_le (by decide)

/-- **Of an assignment since noon** the daily row is skipped: the report of 300 and of 3600 seconds
shows 1000 bytes, and that of 86400 seconds none. -/
theorem device_report_skips_first_day :
    Recorded utcClock [oneOClock (43200 * second)] (oneOClockRows (43200 * second)) ∧
      Monitored (leasedInventory (43200 * second)) (leasedAssignment (43200 * second)) ∧
      (∀ x ∈ attributions 1 [oneOClock (43200 * second)],
        43200 * second ≤ x.observedAt ∧ x.observedAt < 86400 * second) ∧
      attributedBytes 1 .upload [oneOClock (43200 * second)] = 1000 ∧
      resolutions.map (fun seconds ↦ reportedBytes (firstDay (43200 * second) seconds) 1 .upload) =
        [1000, 1000, 0] :=
  ⟨@Recorded.commit _ [] {} _ _ (.start rfl) (by decide +kernel),
    ⟨by decide +kernel, rfl, _, rfl, rfl⟩, by decide +kernel, by decide +kernel,
    by decide +kernel⟩

end Kaya.Reporting
