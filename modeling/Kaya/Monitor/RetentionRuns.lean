import Kaya.Monitor.RetentionTotals

/-!
# No observation is lost

The numbers of samples and the extremes of the latency as quantities, and what follows for a run of
checks and retentions in any order: they change by the new checks only, as long as no call of the
retention comes upon a bucket that has its statistic already.
-/

namespace Kaya.Monitor

open List
open Kaya.HA (DateTime)

variable {s : MonitorHistory}

/-! ### The quantities -/

/-- The number of samples. -/
def samples : Quantity ℕ where
  check _ := 1
  statistic := (·.sampleCount)
  soundCheck _ := True
  sound _ := True
  aggregated _ _ rows _ := ⟨trivial, by simp [aggregated]⟩
  rolledUp _ _ _ _ := ⟨trivial, rfl⟩

theorem sum_ups (rows : List NetworkMonitorCheck) :
    (rows.map fun row ↦ if row.status = .up then 1 else 0).sum = rows.countP (·.status = .up) := by
  induction rows with
  | nil => rfl
  | cons row rows ih =>
    rw [map_cons, sum_cons, ih, add_comm]
    simp only [countP_cons, decide_eq_true_eq]

/-- The number of successful samples. -/
def ups : Quantity ℕ where
  check row := if row.status = .up then 1 else 0
  statistic := (·.upCount)
  soundCheck _ := True
  sound _ := True
  aggregated _ _ rows _ := ⟨trivial, (sum_ups rows).symm⟩
  rolledUp _ _ _ _ := ⟨trivial, rfl⟩

theorem reduceOption_map {α β : Type} (f : α → Option β) (rows : List α) :
    (rows.map f).reduceOption = rows.filterMap f := by
  rw [reduceOption, filterMap_map]
  rfl

/-- The least latency. -/
def leastLatency : Quantity (Merged (min : ℚ → ℚ → ℚ)) where
  check row := ⟨row.latencyMs⟩
  statistic row := ⟨row.minLatencyMs⟩
  soundCheck _ := True
  sound _ := True
  aggregated _ _ rows _ := by
    refine ⟨trivial, Merged.ext ?_⟩
    have hsum := Merged.value_sum_min (rows.map (·.latencyMs))
    rw [List.map_map, reduceOption_map] at hsum
    exact hsum.symm
  rolledUp _ _ rows _ := by
    refine ⟨trivial, Merged.ext ?_⟩
    have hsum := Merged.value_sum_min (rows.map (·.minLatencyMs))
    rw [List.map_map, reduceOption_map] at hsum
    exact hsum.symm

/-- The greatest latency. -/
def greatestLatency : Quantity (Merged (max : ℚ → ℚ → ℚ)) where
  check row := ⟨row.latencyMs⟩
  statistic row := ⟨row.maxLatencyMs⟩
  soundCheck _ := True
  sound _ := True
  aggregated _ _ rows _ := by
    refine ⟨trivial, Merged.ext ?_⟩
    have hsum := Merged.value_sum_max (rows.map (·.latencyMs))
    rw [List.map_map, reduceOption_map] at hsum
    exact hsum.symm
  rolledUp _ _ rows _ := by
    refine ⟨trivial, Merged.ext ?_⟩
    have hsum := Merged.value_sum_max (rows.map (·.maxLatencyMs))
    rw [List.map_map, reduceOption_map] at hsum
    exact hsum.symm

/-- All rows of a monitor. -/
def ofMonitor (monitorId : ℕ) : Window where
  contains id _ := id = monitorId
  valid _ := True
  valid_bucketStart _ _ _ _ := trivial
  contains_bucketStart _ _ _ _ _ := rfl

/-! ### The claim about observations -/

/-- The checks of a monitor. -/
def checksOf (s : MonitorHistory) (monitorId : ℕ) : List NetworkMonitorCheck :=
  s.checks.rows (s.checks.select (·.monitorId = monitorId))

/-- The statistics of a monitor. -/
def statisticsOf (s : MonitorHistory) (monitorId : ℕ) : List NetworkMonitorStatistic :=
  s.statistics.rows (s.statistics.select (·.monitorId = monitorId))

/-- The total of `sample_count` over the statistics of a monitor and the number of its checks. -/
def sampleTotal (s : MonitorHistory) (monitorId : ℕ) : ℕ :=
  ((statisticsOf s monitorId).map (·.sampleCount)).sum + (checksOf s monitorId).length

/-- The total of `up_count` and the number of successful checks. -/
def upTotal (s : MonitorHistory) (monitorId : ℕ) : ℕ :=
  ((statisticsOf s monitorId).map (·.upCount)).sum + (checksOf s monitorId).countP (·.status = .up)

/-- The latencies of a monitor: of its checks, and the extremes of its statistics. -/
def latencies (extreme : NetworkMonitorStatistic → Option ℚ) (s : MonitorHistory)
    (monitorId : ℕ) : List ℚ :=
  (statisticsOf s monitorId).filterMap extreme ++ (checksOf s monitorId).filterMap (·.latencyMs)

/-- The least latency over both tables. -/
def latencyMin (s : MonitorHistory) (monitorId : ℕ) : Option ℚ :=
  (latencies (·.minLatencyMs) s monitorId).min?

/-- The greatest latency over both tables. -/
def latencyMax (s : MonitorHistory) (monitorId : ℕ) : Option ℚ :=
  (latencies (·.maxLatencyMs) s monitorId).max?

/-- The checks of a monitor that a run records. -/
def newChecksOf (s : MonitorHistory) (es : List RetentionEvent) (monitorId : ℕ) :
    List NetworkMonitorCheck :=
  (newChecks s.clock es).filter (·.monitorId = monitorId)

/-- What a run keeps of the observations of every monitor. -/
structure KeepsObservations (s : MonitorHistory) (es : List RetentionEvent) : Prop where
  /-- The samples grow by the new checks. -/
  samples : ∀ monitorId, sampleTotal (retentionMachine.run s es) monitorId =
    sampleTotal s monitorId + (newChecksOf s es monitorId).length
  /-- The successful samples grow by the new successful checks. -/
  ups : ∀ monitorId, upTotal (retentionMachine.run s es) monitorId =
    upTotal s monitorId + (newChecksOf s es monitorId).countP (·.status = .up)
  /-- The least latency is that of before, or of a new check. -/
  least : ∀ monitorId, latencyMin (retentionMachine.run s es) monitorId =
    Option.merge min (latencyMin s monitorId)
      ((newChecksOf s es monitorId).filterMap (·.latencyMs)).min?
  /-- The greatest latency is that of before, or of a new check. -/
  greatest : ∀ monitorId, latencyMax (retentionMachine.run s es) monitorId =
    Option.merge max (latencyMax s monitorId)
      ((newChecksOf s es monitorId).filterMap (·.latencyMs)).max?
  /-- The buckets stay unique. -/
  unique : UniqueBuckets s.statistics → UniqueBuckets (retentionMachine.run s es).statistics

/-! ### Totals as sums -/

section Sums

variable {M ρ : Type} [AddCommMonoid M]

/-- A sum over the rows with a property. -/
theorem sum_map_ite (rows : List ρ) (p : ρ → Bool) (amount : ρ → M) :
    (rows.map fun row ↦ if p row then amount row else 0).sum =
      ((rows.filter p).map amount).sum := by
  induction rows with
  | nil => rfl
  | cons row rows ih =>
    rw [map_cons, sum_cons, ih, filter_cons]
    split
    · rw [map_cons, sum_cons]
    · rw [zero_add]

theorem rows_select (t : Table ρ) (p : ρ → Bool) :
    t.rows (t.select p) = (t.rows t.ids).filter p := by
  rw [Table.rows, Table.rows, Table.select, filter_map]
  rfl

theorem total_ofMonitor (q : Quantity M) (s : MonitorHistory) (monitorId : ℕ) :
    q.total (ofMonitor monitorId) s = ((statisticsOf s monitorId).map q.statistic).sum +
      ((checksOf s monitorId).map q.check).sum := by
  rw [statisticsOf, checksOf, rows_select, rows_select, ← sum_map_ite, ← sum_map_ite]
  rfl

/-- The run law for one monitor. -/
theorem total_ofMonitor_run (q : Quantity M) (hcheck : ∀ row, q.soundCheck row)
    (hstatistic : ∀ row, q.sound row) (monitorId : ℕ) (es : List RetentionEvent)
    (hclear : retentionMachine.Admissible (undisturbed · · = true) s es) :
    q.total (ofMonitor monitorId) (retentionMachine.run s es) =
      q.total (ofMonitor monitorId) s + ((newChecksOf s es monitorId).map q.check).sum := by
  have hrun := total_run (q := q) (w := ofMonitor monitorId) es
    ⟨fun _ _ ↦ ⟨hcheck _, trivial⟩, fun _ _ ↦ ⟨hstatistic _, trivial⟩⟩
    (fun _ _ ↦ ⟨hcheck _, trivial⟩) hclear
  rw [hrun, newChecksOf, ← sum_map_ite]
  rfl

end Sums

theorem sum_samples (rows : List NetworkMonitorCheck) :
    (rows.map samples.check).sum = rows.length := by
  simp [samples]

theorem sampleTotal_eq (s : MonitorHistory) (monitorId : ℕ) :
    sampleTotal s monitorId = samples.total (ofMonitor monitorId) s := by
  rw [total_ofMonitor, sampleTotal, sum_samples]
  rfl

theorem upTotal_eq (s : MonitorHistory) (monitorId : ℕ) :
    upTotal s monitorId = ups.total (ofMonitor monitorId) s := by
  rw [total_ofMonitor, upTotal]
  exact congrArg (_ + ·) (sum_ups _).symm

theorem value_leastLatency (rows : List NetworkMonitorCheck) :
    ((rows.map leastLatency.check).sum).value = (rows.filterMap (·.latencyMs)).min? := by
  rw [← reduceOption_map, ← Merged.value_sum_min, map_map]
  rfl

theorem value_greatestLatency (rows : List NetworkMonitorCheck) :
    ((rows.map greatestLatency.check).sum).value = (rows.filterMap (·.latencyMs)).max? := by
  rw [← reduceOption_map, ← Merged.value_sum_max, map_map]
  rfl

theorem latencyMin_eq (s : MonitorHistory) (monitorId : ℕ) :
    latencyMin s monitorId = (leastLatency.total (ofMonitor monitorId) s).value := by
  have hstatistics : (((statisticsOf s monitorId).map leastLatency.statistic).sum).value =
      ((statisticsOf s monitorId).filterMap (·.minLatencyMs)).min? := by
    rw [← reduceOption_map, ← Merged.value_sum_min, map_map]
    rfl
  rw [total_ofMonitor, Merged.value_add, hstatistics, value_leastLatency, latencyMin, latencies,
    Merged.min?_append]

theorem latencyMax_eq (s : MonitorHistory) (monitorId : ℕ) :
    latencyMax s monitorId = (greatestLatency.total (ofMonitor monitorId) s).value := by
  have hstatistics : (((statisticsOf s monitorId).map greatestLatency.statistic).sum).value =
      ((statisticsOf s monitorId).filterMap (·.maxLatencyMs)).max? := by
    rw [← reduceOption_map, ← Merged.value_sum_max, map_map]
    rfl
  rw [total_ofMonitor, Merged.value_add, hstatistics, value_greatestLatency, latencyMax, latencies,
    Merged.max?_append]

/-! ### Uniqueness -/

/-- Buckets of different sizes. -/
theorem sameBucket_of_ne {a b : NetworkMonitorStatistic} (h : a.bucketSeconds ≠ b.bucketSeconds) :
    sameBucket a b = false :=
  Bool.eq_false_iff.2 fun hsame ↦ h (sameBucket_iff.1 hsame).2.2.symm

theorem exists?_delete {t : Table NetworkMonitorStatistic} {p : NetworkMonitorStatistic → Bool}
    (h : t.exists? p = false) (ks : List ℕ) : (t.delete ks).exists? p = false := by
  rw [Table.exists?_eq_false] at h ⊢
  exact fun i hi ↦ h i (t.mem_delete.1 hi).1

/-- What one run adds lies in buckets of its own: those of one call differ in their keys, those of
different calls in their sizes. -/
theorem UniqueBuckets.retain (h : UniqueBuckets s.statistics) (now : DateTime) :
    UniqueBuckets (enforceRetention s now).commit.statistics := by
  rw [enforceRetention]
  split
  · exact h
  refine ((h.delete _).delete _).insertAll (fun row hrow ↦ ?_) ?_
  · obtain hrow | hrow := mem_append.1 hrow
    · obtain hrow | hrow := mem_append.1 hrow
      · exact exists?_delete (exists?_delete (mem_newBuckets hrow).1 _) _
      · exact exists?_delete (exists?_delete (mem_newBuckets hrow).1 _) _
    · exact exists?_delete (mem_newBuckets hrow).1 _
  · refine pairwise_append.2 ⟨pairwise_append.2
      ⟨pairwise_newBuckets makesBuckets_aggregated (Dict.nodup _),
        pairwise_newBuckets makesBuckets_rolledUp (Dict.nodup _), fun a ha b hb ↦ ?_⟩,
      pairwise_newBuckets makesBuckets_rolledUp (Dict.nodup _), fun a ha b hb ↦ ?_⟩
    all_goals
      refine sameBucket_of_ne ?_
      rw [bucketSeconds_newBuckets makesBuckets_rolledUp hb]
    · rw [bucketSeconds_newBuckets makesBuckets_aggregated ha]
      decide
    · obtain ha | ha := mem_append.1 ha
      · rw [bucketSeconds_newBuckets makesBuckets_aggregated ha]
        decide
      · rw [bucketSeconds_newBuckets makesBuckets_rolledUp ha]
        decide

theorem UniqueBuckets.run (es : List RetentionEvent) (h : UniqueBuckets s.statistics) :
    UniqueBuckets (retentionMachine.run s es).statistics := by
  induction es generalizing s with
  | nil => exact h
  | cons e es ih =>
    cases e with
    | check elapsed row => exact ih (s := recordCheck s row (s.clock + elapsed)) h
    | retain elapsed =>
      exact ih (s := retentionMachine.step s (.retain elapsed)) (h.retain (s.clock + elapsed))

/-! ### The result -/

/-- **No observation is lost** in a run whose retentions find their buckets free. -/
theorem keeps_observations (es : List RetentionEvent)
    (hclear : retentionMachine.Admissible (undisturbed · · = true) s es) :
    KeepsObservations s es where
  samples monitorId := by
    rw [sampleTotal_eq, sampleTotal_eq, ← sum_samples]
    exact total_ofMonitor_run _ (fun _ ↦ trivial) (fun _ ↦ trivial) _ _ hclear
  ups monitorId := by
    rw [upTotal_eq, upTotal_eq, ← sum_ups]
    exact total_ofMonitor_run _ (fun _ ↦ trivial) (fun _ ↦ trivial) _ _ hclear
  least monitorId := by
    rw [latencyMin_eq, latencyMin_eq, ← value_leastLatency, ← Merged.value_add]
    exact congrArg Merged.value
      (total_ofMonitor_run _ (fun _ ↦ trivial) (fun _ ↦ trivial) _ _ hclear)
  greatest monitorId := by
    rw [latencyMax_eq, latencyMax_eq, ← value_greatestLatency, ← Merged.value_add]
    exact congrArg Merged.value
      (total_ofMonitor_run _ (fun _ ↦ trivial) (fun _ ↦ trivial) _ _ hclear)
  unique := UniqueBuckets.run es

/-! ### Examples -/

/-- A successful check of a monitor. -/
def reply (latencyMs : ℚ) (checkedAt : DateTime) : NetworkMonitorCheck where
  monitorId := 1
  status := .up
  healthState := some .healthy
  latencyMs := some latencyMs
  packetLossPercent := some 0
  checkedAt

/-- Nothing has been recorded. -/
def unrecorded : MonitorHistory where
  clock := 0
  checks := { ids := [], row := fun _ ↦ reply 0 0, nodup := List.nodup_nil }
  statistics :=
    { ids := []
      row := fun _ ↦ { monitorId := 1, bucketStart := 0, bucketSeconds := 300 }
      nodup := List.nodup_nil }
  recorded := { ids := [], row := fun _ ↦ reply 0 0, nodup := List.nodup_nil }

/-- Three checks and a retention after forty and after a hundred days. -/
def threeReplies : List RetentionEvent :=
  [.check 100000000 (reply 20 0), .check 50000000 (reply 10 0), .check 200000000 (reply 30 0),
    .retain 3456000000000, .retain 5184000000000]

theorem keeps_observations_example : KeepsObservations unrecorded threeReplies :=
  keeps_observations threeReplies (by decide +kernel)

/-- What a retention leaves of 10001 checks in one bucket. -/
def backlog : MonitorHistory where
  clock := 2678400000000
  checks := { ids := [1], row := fun _ ↦ reply 20 250000000, nodup := HA.nodup_one }
  statistics :=
    { ids := [1]
      row := fun _ ↦
        { monitorId := 1
          bucketStart := 0
          bucketSeconds := 300
          sampleCount := 10000
          upCount := 10000
          latencySampleCount := 10000
          avgLatencyMs := some 20
          minLatencyMs := some 20
          maxLatencyMs := some 20
          lossSampleCount := 10000
          avgPacketLossPercent := some 0
          healthState := some .healthy }
      nodup := HA.nodup_one }
  lastRetentionRun := some 2678400000000
  recorded := { ids := [1], row := fun _ ↦ reply 20 250000000, nodup := HA.nodup_one }

/-- The next retention deletes the last check and counts it nowhere. -/
theorem loses_observations : ¬ ∀ s es, KeepsObservations s es := by
  intro hkeeps
  have hsamples := (hkeeps backlog [.retain 3600000000]).samples 1
  revert hsamples
  decide +kernel

end Kaya.Monitor
