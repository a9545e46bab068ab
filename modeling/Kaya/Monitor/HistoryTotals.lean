import Kaya.Flow.Buckets
import Kaya.Monitor.History
import Kaya.Monitor.RetentionRuns

/-!
# The totals of a history

Each total of a report is `Reported`: a quantity that the retention keeps and that merging into a
bucket adds to, for a raw check the same as for its part of a statistic. The total over the points
is then the total of the quantity over the range (`sum_combinedPoints`), whatever the buckets are.

The state of a check has two priorities, one where checks are summed up and one where they are
reported. They order the states that a monitor records in the same way.
-/

namespace Kaya.Monitor

open List
open Kaya.HA (DateTime)

/-! ### States -/

/-- The states of checks that both priorities order in the same way. -/
def IsRecorded (state : MonitorStatus) : Prop :=
  state = .healthy ∨ state = .maintenance ∨ state = .recovering ∨ state = .warning ∨
    state = .critical ∨ state = .offline

/-- A check as `record_monitor_result` stores it, or an older one without a health state. -/
structure NetworkMonitorCheck.WellFormed (row : NetworkMonitorCheck) : Prop where
  health : ∀ state ∈ row.healthState, IsRecorded state
  up : row.healthState = some .healthy → row.status = .up

variable {a : MonitorStatus} {row : NetworkMonitorCheck} {states : List (Option MonitorStatus)}
  {β ρ : Type} {start bound : ℤ}

/-- The two priorities agree. -/
theorem statePriority_mono {b : MonitorStatus} (ha : IsRecorded a) (hb : IsRecorded b)
    (h : healthPriority a ≤ healthPriority b) : statePriority a ≤ statePriority b := by
  obtain rfl | rfl | rfl | rfl | rfl | rfl := ha
  all_goals
    obtain rfl | rfl | rfl | rfl | rfl | rfl := hb
    all_goals first | decide | exact absurd h (by decide)

theorem NetworkMonitorCheck.WellFormed.isRecorded (h : row.WellFormed) : IsRecorded row.health := by
  rw [NetworkMonitorCheck.health]
  cases hst : row.healthState with
  | none =>
    rw [Option.getD_none]
    split
    · simp [IsRecorded]
    · simp [IsRecorded]
  | some state => exact h.health state hst

/-- The priority that the database reports is that of the state that is summed up. -/
theorem NetworkMonitorCheck.WellFormed.rawPriority_eq
    (h : row.WellFormed) : rawPriority row = statePriority row.health := by
  rw [rawPriority, NetworkMonitorCheck.health]
  cases hst : row.healthState with
  | none =>
    rw [Option.getD_none]
    cases row.status with
    | up => rfl
    | down => rfl
  | some state =>
    obtain rfl | rfl | rfl | rfl | rfl | rfl := h.health state hst
    · simp [h.up hst, statePriority]
    all_goals rfl

/-- The priority of a state that may be missing. -/
def priorityOf (state : Option MonitorStatus) : ℕ := (state.map statePriority).getD 0

theorem foldr_max_le {values : List ℕ} {n : ℕ} (h : ∀ value ∈ values, value ≤ n) :
    values.foldr max 0 ≤ n := by
  induction values with
  | nil => exact Nat.zero_le n
  | cons value values ih =>
    obtain ⟨hfirst, hrest⟩ := forall_mem_cons.1 h
    exact max_le hfirst (ih hrest)

theorem worstHealth_mem (h : worstHealth states = some a) : some a ∈ states :=
  reduceOption_mem_iff.1 (argmax_mem h)

/-- **The worst state** has the highest priority. -/
theorem priorityOf_worstHealth (h : ∀ state ∈ states, ∀ a ∈ state, IsRecorded a) :
    priorityOf (worstHealth states) = (states.map priorityOf).foldr max 0 := by
  refine le_antisymm ?_ (foldr_max_le fun value hvalue ↦ ?_)
  · cases hworst : worstHealth states with
    | none => exact Nat.zero_le _
    | some a => exact Table.le_foldr_max (mem_map_of_mem (worstHealth_mem hworst))
  · obtain ⟨state, hst, rfl⟩ := mem_map.1 hvalue
    cases state with
    | none => exact Nat.zero_le _
    | some b =>
      have hb := reduceOption_mem_iff.2 hst
      cases hworst : worstHealth states with
      | none => exact absurd hb (argmax_eq_none.1 hworst ▸ not_mem_nil)
      | some a =>
        exact statePriority_mono (h _ hst b rfl) (h _ (worstHealth_mem hworst) a rfl)
          (le_of_mem_argmax hb hworst)

/-! ### Reported quantities -/

/-- A quantity with its share in the buckets of a history. -/
structure Reported (M : Type) [AddCommMonoid M] extends Quantity M where
  /-- The quantity of what is merged. -/
  ofSource : Source → M
  /-- The quantity of a bucket. -/
  ofBucket : Bucket → M
  blank : ∀ start seconds, ofBucket (blankBucket start seconds) = 0
  merge : ∀ bucket source, ofBucket (mergeBucket bucket source) = ofBucket bucket + ofSource source
  raw : ∀ rows, (∀ row ∈ rows, soundCheck row) → ofSource (rawAggregate rows) = (rows.map check).sum
  stored : ∀ row, ofSource (statisticSource row) = statistic row

/-- The samples. -/
def reportedSamples : Reported ℕ where
  toQuantity := samples
  ofSource := (·.samples)
  ofBucket := (·.samples)
  blank _ _ := rfl
  merge _ _ := rfl
  raw rows _ := (sum_samples rows).symm
  stored _ := rfl

/-- The successful samples. -/
def reportedUps : Reported ℕ where
  toQuantity := ups
  ofSource := (·.successful)
  ofBucket := (·.successful)
  blank _ _ := rfl
  merge _ _ := rfl
  raw _ _ := rfl
  stored _ := rfl

/-- The least latency. -/
def reportedLeast : Reported (Merged (min : ℚ → ℚ → ℚ)) where
  toQuantity := leastLatency
  ofSource source := ⟨source.latencyMin⟩
  ofBucket bucket := ⟨bucket.latencyMin⟩
  blank _ _ := rfl
  merge _ _ := rfl
  raw rows _ := Merged.ext (value_leastLatency rows).symm
  stored _ := rfl

/-- The greatest latency. -/
def reportedGreatest : Reported (Merged (max : ℚ → ℚ → ℚ)) where
  toQuantity := greatestLatency
  ofSource source := ⟨source.latencyMax⟩
  ofBucket bucket := ⟨bucket.latencyMax⟩
  blank _ _ := rfl
  merge _ _ := rfl
  raw rows _ := Merged.ext (value_greatestLatency rows).symm
  stored _ := rfl

variable {α : Type} {time : ℤ} {seconds : ℕ}

theorem length_filterMap (f : α → Option β) (rows : List α) :
    (rows.filterMap f).length = (rows.map fun row ↦ if (f row).isSome then 1 else 0).sum := by
  induction rows with
  | nil => rfl
  | cons row rows ih =>
    rw [filterMap_cons, map_cons, sum_cons, ← ih]
    cases f row with
    | none => exact (zero_add _).symm
    | some a => exact add_comm _ _

theorem isSome_average (total : ℚ) (count : ℕ) :
    (average total count).isSome = decide (count ≠ 0) := by
  rw [average]
  split
  next h => simp [h]
  next h => simp [h]

theorem weigh_map (f : α → β) (count : ℕ) (average : Option α) :
    weigh count (average.map f) = weigh count average := by
  rw [weigh, weigh, Option.isSome_map]

/-- What there is an average of is counted, also with another count to fall back to. -/
theorem weigh_average (total : ℚ) (count other : ℕ) :
    weigh (if count ≠ 0 then count else other) (average total count) = count := by
  rw [weigh, isSome_average]
  by_cases h : count = 0
  · simp [h]
  · simp [h]

theorem weigh_average_self (total : ℚ) (count : ℕ) : weigh count (average total count) = count := by
  rw [weigh, isSome_average]
  by_cases h : count = 0
  · simp [h]
  · simp [h]

/-- The counts of the rows that are merged. -/
theorem sum_weigh (rows : List NetworkMonitorStatistic)
    (weight : NetworkMonitorStatistic → ℕ) (average : NetworkMonitorStatistic → Option α) :
    ((rows.filter fun row ↦ (average row).isSome && weight row ≠ 0).map weight).sum =
      (rows.map fun row ↦ weigh (weight row) (average row)).sum := by
  rw [← sum_map_ite]
  refine congrArg sum (map_congr_left fun row _ ↦ ?_)
  rw [weigh]
  cases (average row).isSome with
  | false => rfl
  | true =>
    by_cases h : weight row = 0
    · simp [h]
    · simp [h]

/-- The latencies. -/
def reportedLatencies : Reported ℕ where
  check row := if row.latencyMs.isSome then 1 else 0
  statistic row := weigh row.latencyWeight row.avgLatencyMs
  soundCheck _ := True
  sound _ := True
  aggregated _ _ rows _ :=
    ⟨trivial, (weigh_map _ _ _).trans ((weigh_average _ _ _).trans (length_filterMap _ rows))⟩
  rolledUp _ _ rows _ :=
    ⟨trivial, (weigh_map _ _ _).trans ((weigh_average _ _ _).trans (sum_weigh rows _ _))⟩
  ofSource source := weigh source.latencyCount source.latencyAvg
  ofBucket := (·.latencyCount)
  blank _ _ := rfl
  merge _ _ := rfl
  raw rows _ := (weigh_average_self _ _).trans (length_filterMap _ rows)
  stored _ := rfl

/-- The packet losses. -/
def reportedLosses : Reported ℕ where
  check row := if row.packetLossPercent.isSome then 1 else 0
  statistic row := weigh row.lossWeight row.avgPacketLossPercent
  soundCheck _ := True
  sound _ := True
  aggregated _ _ rows _ :=
    ⟨trivial, (weigh_map _ _ _).trans ((weigh_average _ _ _).trans (length_filterMap _ rows))⟩
  rolledUp _ _ rows _ :=
    ⟨trivial, (weigh_map _ _ _).trans ((weigh_average _ _ _).trans (sum_weigh rows _ _))⟩
  ofSource source := weigh source.lossCount source.lossAvg
  ofBucket := (·.lossCount)
  blank _ _ := rfl
  merge _ _ := rfl
  raw rows _ := (weigh_average_self _ _).trans (length_filterMap _ rows)
  stored row := by
    have hweigh : weigh (statisticSource row).lossCount row.avgPacketLossPercent =
        weigh row.lossWeight row.avgPacketLossPercent := by
      rw [weigh, weigh]
      split
      next h => simp only [statisticSource, NetworkMonitorStatistic.lossWeight, h, if_true]
      · rfl
    exact (weigh_map _ _ _).trans hweigh

theorem value_worst (rows : List ρ) (state : ρ → Option MonitorStatus)
    (h : ∀ row ∈ rows, ∀ a ∈ state row, IsRecorded a) :
    priorityOf (worstHealth (rows.map state)) =
      ((rows.map fun row ↦ (⟨priorityOf (state row)⟩ : Highest)).sum).value := by
  have hsum := Highest.value_sum ((rows.map state).map priorityOf)
  rw [map_map, map_map] at hsum
  rw [priorityOf_worstHealth]
  · exact hsum.symm.trans (congrArg Highest.value (congrArg sum rfl))
  · intro a ha
    obtain ⟨row, hrow, rfl⟩ := mem_map.1 ha
    exact h row hrow

/-- The worst state is one of the states. -/
theorem isRecorded_worstHealth {rows : List ρ} {state : ρ → Option MonitorStatus}
    (h : ∀ row ∈ rows, ∀ a ∈ state row, IsRecorded a) :
    ∀ a ∈ worstHealth (rows.map state), IsRecorded a := by
  intro a ha
  obtain ⟨row, hrow, hst⟩ := mem_map.1 (worstHealth_mem ha)
  exact h row hrow a hst

/-- The worst state. -/
def reportedWorst : Reported Highest where
  check row := ⟨statePriority row.health⟩
  statistic row := ⟨priorityOf row.healthState⟩
  soundCheck row := row.WellFormed
  sound row := ∀ a ∈ row.healthState, IsRecorded a
  aggregated _ _ rows h := by
    have hstates : ∀ row ∈ rows, ∀ a ∈ some row.health, IsRecorded a := by
      intro row hrow a ha
      exact Option.some.inj ha ▸ (h row hrow).isRecorded
    exact ⟨isRecorded_worstHealth hstates, Highest.ext (value_worst rows _ hstates)⟩
  rolledUp _ _ rows h := ⟨isRecorded_worstHealth h, Highest.ext (value_worst rows _ h)⟩
  ofSource source := ⟨source.statePriority⟩
  ofBucket bucket := ⟨bucket.statePriority⟩
  blank _ _ := rfl
  merge _ _ := rfl
  raw rows h := by
    have hraw : rows.map rawPriority = rows.map fun row ↦ statePriority row.health :=
      List.map_congr_left fun row hrow ↦ (h row hrow).rawPriority_eq
    have hsum := Highest.value_sum (rows.map fun row ↦ statePriority row.health)
    rw [List.map_map, ← hraw] at hsum
    exact Highest.ext hsum.symm
  stored _ := rfl

/-! ### Ranges of days -/

/-- The times that a clock shows before the year 2514. -/
def ClockTime (time : DateTime) : Prop := 0 ≤ time ∧ time / Flow.second < 2 ^ 34

/-- The bucket of such a time. -/
theorem bucketStart_eq (h : ClockTime time) (seconds : ℕ) :
    bucketStart time seconds = (time / 1000000 - time / 1000000 % seconds) * 1000000 := by
  obtain ⟨hnonneg, hlt⟩ := h
  have hclock : Flow.utcClock time = time / Flow.second := by
    rw [Flow.utcClock_eq hnonneg (hlt.trans (by norm_num)), Flow.correction_eq_zero
      (Int.ediv_nonneg hnonneg (by norm_num [Flow.second])) hlt (Flow.micros_lt time), add_zero]
  rw [bucketStart, Flow.bucketStart, Flow.bucket, hclock, Flow.second]

theorem start_spec (hsecs : seconds ∈ Flow.resolutions)
    (hnonneg : 0 ≤ time) (hstart : start = (time / 1000000 - time / 1000000 % seconds) * 1000000) :
    0 ≤ start ∧ start ≤ time ∧ time < start + seconds * 1000000 ∧
      start % (seconds * 1000000) = 0 := by
  rw [Flow.resolutions, mem_cons, mem_cons, mem_singleton] at hsecs
  obtain rfl | rfl | rfl := hsecs
  all_goals
    push_cast at hstart ⊢
    omega

/-- A bucket starts in it, at a multiple of its size. -/
theorem bucketStart_spec (h : ClockTime time) (hsecs : seconds ∈ Flow.resolutions) :
    0 ≤ bucketStart time seconds ∧ bucketStart time seconds ≤ time ∧
      time < bucketStart time seconds + HA.seconds seconds ∧
      bucketStart time seconds % HA.seconds seconds = 0 :=
  start_spec hsecs h.1 (bucketStart_eq h seconds)

theorem ClockTime.bucketStart (h : ClockTime time)
    (hsecs : seconds ∈ Flow.resolutions) : ClockTime (bucketStart time seconds) := by
  obtain ⟨hnonneg, hle, -, -⟩ := bucketStart_spec h hsecs
  exact ⟨hnonneg, (Int.ediv_le_ediv (by norm_num [Flow.second]) hle).trans_lt h.2⟩

theorem le_start_iff (hsecs : seconds ∈ Flow.resolutions) (hbound : bound % 86400000000 = 0)
    (hle : start ≤ time) (hlt : time < start + seconds * 1000000)
    (hstart : start % (seconds * 1000000) = 0) : bound ≤ start ↔ bound ≤ time := by
  rw [Flow.resolutions, mem_cons, mem_cons, mem_singleton] at hsecs
  obtain rfl | rfl | rfl := hsecs
  all_goals
    push_cast at hlt hstart
    omega

/-- The start of a day is not within a bucket. -/
theorem le_bucketStart_iff (h : ClockTime time) (hsecs : seconds ∈ Flow.resolutions)
    (hbound : bound % days 1 = 0) : bound ≤ bucketStart time seconds ↔ bound ≤ time := by
  obtain ⟨-, hle, hlt, hstart⟩ := bucketStart_spec h hsecs
  exact le_start_iff hsecs hbound hle hlt hstart

/-- The rows of a monitor in a range of days. -/
def rangeOf (monitorId : ℕ) {start stop : ℤ} (hstart : start % days 1 = 0)
    (hstop : stop % days 1 = 0) : Window where
  contains id time := id = monitorId ∧ start ≤ time ∧ time < stop
  valid := ClockTime
  valid_bucketStart _ hsecs _ h := h.bucketStart hsecs
  contains_bucketStart seconds hsecs time h id := by
    have hlow := le_bucketStart_iff h hsecs hstart
    have hhigh := le_bucketStart_iff h hsecs hstop
    have hbef : bucketStart time seconds < stop ↔ time < stop := by
      rw [← not_le, ← not_le, hhigh]
    exact decide_eq_decide.2 (and_congr_right fun _ ↦ and_congr hlow hbef)

/-! ### The sum over the points -/

section Points

variable {M : Type} [AddCommMonoid M] (r : Reported M) {s : MonitorHistory} {monitorId : ℕ}
  {start stop : ℤ} {hstart : start % days 1 = 0} {hstop : stop % days 1 = 0}

theorem sum_statisticIn :
    s.statistics.sum (r.statisticIn (rangeOf monitorId hstart hstop)) =
      ((statisticsIn s monitorId start stop).map r.statistic).sum := by
  rw [statisticsIn, rows_select, ← sum_map_ite]
  rfl

theorem sum_checkIn :
    s.checks.sum (r.checkIn (rangeOf monitorId hstart hstop)) =
      ((checksIn s monitorId start stop).map r.check).sum := by
  rw [checksIn, rows_select, ← sum_map_ite]
  rfl

/-- The statistics are all read where they are not too many. -/
theorem sum_statisticRows
    (hlimit : (statisticsIn s monitorId start stop).length ≤ performanceMaxSourceRows) :
    ((statisticRows s monitorId start stop).map fun row ↦ r.ofSource (statisticSource row)).sum =
      ((statisticsIn s monitorId start stop).map r.statistic).sum := by
  have hperm := perm_insertionSort (fun a b : NetworkMonitorStatistic ↦
    a.bucketStart ≤ b.bucketStart) (statisticsIn s monitorId start stop)
  rw [statisticRows, take_of_length_le (hperm.length_eq.trans_le hlimit), ((hperm.map _).sum_eq)]
  exact congrArg sum (map_congr_left fun row _ ↦ r.stored row)

/-- The raw buckets have what their checks have. -/
theorem sum_rawAggregates (epoch : DateTime → ℤ) (seconds : ℕ)
    (hsound : ∀ row ∈ checksIn s monitorId start stop, r.soundCheck row) :
    ((rawAggregates epoch s monitorId start stop seconds).map fun raw ↦ r.ofSource raw.2).sum =
      ((checksIn s monitorId start stop).map r.check).sum := by
  rw [rawAggregates, ((perm_insertionSort _ _).map _).sum_eq, map_map,
    ← Dict.total_groupBy fun row : NetworkMonitorCheck ↦
      epoch row.checkedAt - epoch row.checkedAt % seconds]
  refine congrArg sum (map_congr_left fun group hgroup ↦ ?_)
  exact r.raw group.2 fun row hrow ↦ hsound row (Dict.mem_groupBy hgroup hrow).1

theorem total_combinedBuckets (raw : List (ℤ × Source)) (stats : List NetworkMonitorStatistic)
    (seconds : ℕ) : (combinedBuckets raw stats seconds).total (fun _ ↦ r.ofBucket) =
      (raw.map fun raw ↦ r.ofSource raw.2).sum +
        (stats.map fun row ↦ r.ofSource (statisticSource row)).sum := by
  rw [combinedBuckets, Dict.total_collect (fun _ ↦ r.ofBucket) _ (fun _ ↦ r.blank _ _)
    (fun row _ bucket ↦ r.merge bucket (statisticSource row)),
    Dict.total_collect (fun _ ↦ r.ofBucket) _ (fun _ ↦ r.blank _ _)
    (fun row _ bucket ↦ r.merge bucket row.2), Dict.total_empty, zero_add]

/-- **The points have what the rows of the range have.** -/
theorem sum_combinedPoints (epoch : DateTime → ℤ) (selection : Selection)
    (hsecs : 0 < selection.bucketSeconds) (hstart : selection.start % days 1 = 0)
    (hstop : selection.stop % days 1 = 0)
    (hsound : Sound r.toQuantity (rangeOf monitorId hstart hstop) s)
    (hlimit : (statisticsIn s monitorId selection.start selection.stop).length ≤
      performanceMaxSourceRows) :
    ((combinedPoints epoch s monitorId selection).map fun point ↦ r.ofBucket point.toBucket).sum =
      r.total (rangeOf monitorId hstart hstop) s := by
  have hchecks : ∀ row ∈ checksIn s monitorId selection.start selection.stop,
      r.soundCheck row := by
    intro row hrow
    obtain ⟨i, hi, rfl⟩ := mem_map.1 hrow
    exact (hsound.checks i (s.checks.mem_select.1 hi).1).1
  have hpos : effectiveSeconds selection
      (statisticRows s monitorId selection.start selection.stop) ≠ 0 :=
    (hsecs.trans_le (le_max_left _ _)).ne'
  rw [combinedPoints, if_neg hpos, map_map]
  have hbuckets := total_combinedBuckets r (rawAggregates epoch s monitorId selection.start
    selection.stop (effectiveSeconds selection (statisticRows s monitorId selection.start
      selection.stop))) (statisticRows s monitorId selection.start selection.stop)
    (effectiveSeconds selection (statisticRows s monitorId selection.start selection.stop))
  rw [sum_rawAggregates r epoch _ hchecks, sum_statisticRows r hlimit] at hbuckets
  rw [Quantity.total, sum_statisticIn, sum_checkIn, add_comm, ← hbuckets,
    ((perm_insertionSort _ _).map _).sum_eq, map_map]
  rfl

end Points

end Kaya.Monitor
