import Kaya.Monitor.HistoryTotals

/-!
# A history and the retention

In a run whose retentions find their buckets free the totals of a range of days are those of all
checks that were recorded, as if none had been summed up, as long as the history reads all statistics
of the range (`history_independent`).

Without that condition a history loses checks (`history_depends`). The session of the retention does
not flush before it queries: statistics of five minutes that one call adds are not seen by the next
one. A run after a long gap so rolls up a part of an hour, and the next run finds the statistic of
that hour and deletes the rest.
-/

namespace Kaya.Monitor

open List
open Kaya.HA (DateTime)

variable {s : MonitorHistory} {elapsed : ℕ} {start stop : ℤ}

/-! ### Runs -/

/-- The checks are those that a monitor records, and the clock is before the year 2514. -/
structure Ordinary (s : MonitorHistory) : Prop where
  checks : ∀ i ∈ s.recorded.ids,
    (s.recorded.row i).WellFormed ∧ ClockTime (s.recorded.row i).checkedAt
  clock : s.clock / Flow.second < 2 ^ 34

theorem Ordinary.of_check {row : NetworkMonitorCheck}
    (h : Ordinary (recordCheck s row (s.clock + elapsed))) :
    Ordinary s ∧ NetworkMonitorCheck.WellFormed { row with checkedAt := s.clock + elapsed } ∧
      ClockTime (s.clock + elapsed) := by
  have hold : ∀ i ∈ s.recorded.ids,
      (s.recorded.row i).WellFormed ∧ ClockTime (s.recorded.row i).checkedAt := by
    intro i hi
    have hrow := h.checks i (mem_append_left _ hi)
    rwa [recordCheck, Table.insert_row_of_mem _ _ hi] at hrow
  have hnew := h.checks s.recorded.freshKey (mem_append_right _ (mem_singleton_self _))
  rw [recordCheck, Table.insert_row_fresh] at hnew
  have hclock : s.clock ≤ s.clock + elapsed := Int.le_add_of_nonneg_right (Int.natCast_nonneg _)
  exact ⟨⟨hold, (Int.ediv_le_ediv (by norm_num [Flow.second]) hclock).trans_lt h.clock⟩, hnew⟩

/-- The retention does not touch the record of all checks. -/
theorem recorded_retain (now : DateTime) :
    (enforceRetention s now).commit.recorded = s.recorded := by
  rw [enforceRetention]
  split
  · rfl
  · rfl

theorem Ordinary.of_retain (h : Ordinary (retentionStep s (.retain elapsed))) : Ordinary s := by
  have hclock : s.clock ≤ s.clock + elapsed := Int.le_add_of_nonneg_right (Int.natCast_nonneg _)
  have hrec : (retentionStep s (.retain elapsed)).recorded = s.recorded := recorded_retain _
  refine ⟨fun i hi ↦ ?_, (Int.ediv_le_ediv (by norm_num [Flow.second]) hclock).trans_lt h.clock⟩
  have hrow := h.checks i (hrec ▸ hi)
  rwa [hrec] at hrow

/-- **The totals of a run** are those of all checks that were recorded. -/
theorem total_recorded {M : Type} [AddCommMonoid M] {q : Quantity M} {w : Window}
    (hq : ∀ row : NetworkMonitorCheck, row.WellFormed → q.soundCheck row)
    (hw : ∀ time, ClockTime time → w.valid time)
    (h : retentionMachine.ReachableBy (undisturbed · · = true) s) (hs : Ordinary s) :
    Sound q w s ∧ q.total w s = s.recorded.sum (q.checkIn w) := by
  revert hs
  refine Machine.ReachableBy.invariant (P := fun s ↦ Ordinary s →
    Sound q w s ∧ q.total w s = s.recorded.sum (q.checkIn w)) ?_ ?_ h
  · intro s hinit hs
    have hsound : Sound q w s := by
      refine ⟨fun i hi ↦ ?_, fun i hi ↦ absurd (hinit.statistics ▸ hi) not_mem_nil⟩
      rw [← hinit.recorded] at hi ⊢
      exact ⟨hq _ (hs.checks i hi).1, hw _ (hs.checks i hi).2⟩
    refine ⟨hsound, ?_⟩
    rw [Quantity.total, hinit.recorded, Table.sum, hinit.statistics]
    exact zero_add _
  · intro s e ih he hs
    cases e with
    | check elapsed row =>
      obtain ⟨hs, hrow, htime⟩ := Ordinary.of_check hs
      obtain ⟨hsound, htotal⟩ := ih hs
      refine ⟨hsound.check ⟨hq _ hrow, hw _ htime⟩, ?_⟩
      have hrec : (recordCheck s row (s.clock + elapsed)).recorded.sum (q.checkIn w) =
          s.recorded.sum (q.checkIn w) +
            q.checkIn w { row with checkedAt := s.clock + elapsed } := s.recorded.sum_insert _ _
      exact (total_recordCheck row _).trans (htotal ▸ hrec.symm)
    | retain elapsed =>
      obtain ⟨hsound, htotal⟩ := ih hs.of_retain
      have hsound' := hsound.retain (s.clock + elapsed)
      refine ⟨⟨hsound'.checks, hsound'.statistics⟩, ?_⟩
      -- the condition on the step is that its calls find their buckets free
      have hrec : (retentionStep s (.retain elapsed)).recorded = s.recorded :=
        recorded_retain _
      exact (total_enforceRetention hsound he).trans (htotal.trans (by rw [← hrec]; rfl))

/-! ### The result -/

/-- The same history with every check still raw. -/
def unretained (s : MonitorHistory) : MonitorHistory :=
  { s with
    checks := s.recorded
    statistics := { s.statistics with ids := [], nodup := List.nodup_nil }
    lastRetentionRun := none }

theorem unretained_initial (s : MonitorHistory) : RetentionInitial (unretained s) :=
  ⟨rfl, rfl, rfl⟩

theorem days_eq (n : ℕ) : days n = n * 86400000000 := by
  rw [days, HA.seconds]
  push_cast
  ring

/-- The seconds of the buckets of a range of days. -/
theorem automaticBucketSeconds_pos (hstart : start % days 1 = 0) (hstop : stop % days 1 = 0)
    (hlt : start < stop) : 0 < automaticBucketSeconds (stop - start) := by
  have hlong : HA.seconds 3600 < stop - start := by
    rw [days_eq] at hstart hstop
    rw [HA.seconds]
    omega
  rw [automaticBucketSeconds, if_neg (not_le.2 hlong)]
  split_ifs <;> decide

/-- A reported quantity has the same sum over the points as if every check were still raw. -/
theorem sum_points_eq {M : Type} [AddCommMonoid M] (r : Reported M)
    (hr : ∀ row : NetworkMonitorCheck, row.WellFormed → r.soundCheck row)
    (h : retentionMachine.ReachableBy (undisturbed · · = true) s) (hs : Ordinary s)
    (epoch : DateTime → ℤ) (monitorId : ℕ) (hstart : start % days 1 = 0)
    (hstop : stop % days 1 = 0) (hlt : start < stop)
    (hlimit : (statisticsIn s monitorId start stop).length ≤ performanceMaxSourceRows) :
    ((combinedPoints epoch s monitorId (customRange start stop)).map
      fun point ↦ r.ofBucket point.toBucket).sum =
    ((combinedPoints epoch (unretained s) monitorId (customRange start stop)).map
      fun point ↦ r.ofBucket point.toBucket).sum := by
  have hsecs := automaticBucketSeconds_pos hstart hstop hlt
  have hs' : Ordinary (unretained s) := ⟨hs.checks, hs.clock⟩
  have h' : retentionMachine.ReachableBy (undisturbed · · = true) (unretained s) :=
    .start (unretained_initial s)
  obtain ⟨hsound, htotal⟩ := total_recorded (q := r.toQuantity)
    (w := rangeOf monitorId hstart hstop) hr (fun _ htime ↦ htime) h hs
  obtain ⟨hsound', htotal'⟩ := total_recorded (q := r.toQuantity)
    (w := rangeOf monitorId hstart hstop) hr (fun _ htime ↦ htime) h' hs'
  -- without statistics there is nothing to leave out
  have hlimit' : (statisticsIn (unretained s) monitorId start stop).length ≤
      performanceMaxSourceRows := Nat.zero_le _
  have hpoints := sum_combinedPoints r epoch (customRange start stop) hsecs hstart hstop
    hsound hlimit
  have hpoints' := sum_combinedPoints r epoch (customRange start stop) hsecs hstart hstop
    hsound' hlimit'
  exact hpoints.trans (htotal.trans (htotal'.symm.trans hpoints'.symm))

theorem least_latency (points : List Point) :
    (points.filterMap (·.latencyMin)).min? =
      ((points.map fun point ↦ reportedLeast.ofBucket point.toBucket).sum).value := by
  have hsum := Merged.value_sum_min (points.map (·.latencyMin))
  rw [map_map, reduceOption, filterMap_map] at hsum
  exact hsum.symm

theorem greatest_latency (points : List Point) :
    (points.filterMap (·.latencyMax)).max? =
      ((points.map fun point ↦ reportedGreatest.ofBucket point.toBucket).sum).value := by
  have hsum := Merged.value_sum_max (points.map (·.latencyMax))
  rw [map_map, reduceOption, filterMap_map] at hsum
  exact hsum.symm

theorem worst_status (points : List Point) :
    (points.map (·.statePriority)).foldr max 0 =
      ((points.map fun point ↦ reportedWorst.ofBucket point.toBucket).sum).value := by
  have hsum := Highest.value_sum (points.map (·.statePriority))
  rw [map_map] at hsum
  exact hsum.symm

/-- **The totals of a range of days do not depend on the retention** where its runs find their
buckets free. -/
theorem history_independent
    (h : retentionMachine.ReachableBy (undisturbed · · = true) s) (hs : Ordinary s)
    (epoch : DateTime → ℤ) (monitorId : ℕ) {start stop : ℤ} (hstart : start % days 1 = 0)
    (hstop : stop % days 1 = 0) (hlt : start < stop)
    (hlimit : (statisticsIn s monitorId start stop).length ≤ performanceMaxSourceRows) :
    totals (combinedPoints epoch s monitorId (customRange start stop)) =
      totals (combinedPoints epoch (unretained s) monitorId (customRange start stop)) := by
  have hleast := congrArg Merged.value (sum_points_eq reportedLeast (fun _ _ ↦ trivial) h hs epoch
    monitorId hstart hstop hlt hlimit)
  have hgreatest := congrArg Merged.value (sum_points_eq reportedGreatest (fun _ _ ↦ trivial) h hs
    epoch monitorId hstart hstop hlt hlimit)
  have hworst := congrArg Highest.value (sum_points_eq reportedWorst (fun _ hrow ↦ hrow) h hs
    epoch monitorId hstart hstop hlt hlimit)
  refine Totals.ext ?_ ?_ ?_ ?_ ?_ ?_ ?_
  · exact sum_points_eq reportedSamples (fun _ _ ↦ trivial) h hs epoch monitorId hstart hstop hlt
      hlimit
  · exact sum_points_eq reportedUps (fun _ _ ↦ trivial) h hs epoch monitorId hstart hstop hlt hlimit
  · exact sum_points_eq reportedLatencies (fun _ _ ↦ trivial) h hs epoch monitorId hstart hstop hlt
      hlimit
  · exact (least_latency _).trans (hleast.trans (least_latency _).symm)
  · exact (greatest_latency _).trans (hgreatest.trans (greatest_latency _).symm)
  · exact sum_points_eq reportedLosses (fun _ _ ↦ trivial) h hs epoch monitorId hstart hstop hlt
      hlimit
  · exact (worst_status _).trans (hworst.trans (worst_status _).symm)

/-- Successful checks at clock times are ordinary. -/
theorem ordinary_of_up
    (hchecks : ∀ i ∈ s.recorded.ids, (s.recorded.row i).healthState = some .healthy ∧
      (s.recorded.row i).status = .up ∧ 0 ≤ (s.recorded.row i).checkedAt ∧
      (s.recorded.row i).checkedAt / Flow.second < 2 ^ 34)
    (hclock : s.clock / Flow.second < 2 ^ 34) : Ordinary s := by
  refine ⟨fun i hi ↦ ?_, hclock⟩
  obtain ⟨hhealth, hup, hnonneg, hlt⟩ := hchecks i hi
  refine ⟨⟨fun state hst ↦ ?_, fun _ ↦ hup⟩, hnonneg, hlt⟩
  rw [hhealth, Option.mem_some_iff] at hst
  exact .inl hst.symm

theorem history_independent_example :
    totals (combinedPoints (· / Flow.second) (retentionMachine.run unrecorded threeReplies) 1
      (customRange 0 (days 1))) = totals (combinedPoints (· / Flow.second)
      (unretained (retentionMachine.run unrecorded threeReplies)) 1 (customRange 0 (days 1))) :=
  history_independent (.run (.start ⟨rfl, rfl, rfl⟩) (by decide +kernel))
    (ordinary_of_up (by decide +kernel) (by decide +kernel)) (· / Flow.second) 1 (by decide)
    (by decide) (by decide) (by decide +kernel)

/-- Two checks of one hour, a retention that sums up the first of them only, and after a gap of
seventy days two more an hour apart. -/
def longGap : List RetentionEvent :=
  [.check 100000000 (reply 20 0), .check 300000000 (reply 10 0), .retain 2591950000000,
    .retain 6047650000000, .retain 3601000000]

/-- **The history of that day loses the second check**: the retention after the gap rolls up the
first one while the statistic of the second one is not flushed, and the last one finds the hour
taken. -/
theorem history_depends :
    Ordinary (retentionMachine.run unrecorded longGap) ∧
      totals (combinedPoints (· / Flow.second) (retentionMachine.run unrecorded longGap) 1
        (customRange 0 (days 1))) ≠ totals (combinedPoints (· / Flow.second)
        (unretained (retentionMachine.run unrecorded longGap)) 1 (customRange 0 (days 1))) := by
  refine ⟨ordinary_of_up (by decide +kernel) (by decide +kernel), fun heq ↦ ?_⟩
  have hsamples := congrArg Totals.samples heq
  revert hsamples
  decide +kernel

end Kaya.Monitor
