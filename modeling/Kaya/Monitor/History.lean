import Kaya.Monitor.Retention

/-!
# Performance history

The points of `app/services/network_monitor_history.py` for one monitor and a range of times: raw
checks summed up by the database, merged with the statistics that the retention has left
(`_combined_points`), and the totals over these points. The jitter is left out. `epoch` is how the
database cuts a timestamp to whole seconds, which differs from one to the other.
-/

namespace Kaya.Monitor

open Kaya.HA (DateTime)

/-- `STATE_PRIORITY`. -/
def statePriority : MonitorStatus → ℕ
  | .healthy => 1
  | .paused => 2
  | .maintenance => 3
  | .recovering => 4
  | .warning => 5
  | .critical => 6
  | .offline => 7
  | _ => 0

/-- `PERFORMANCE_MAX_SOURCE_ROWS`. -/
def performanceMaxSourceRows : ℕ := 50000

/-! ### Ranges -/

/-- `automatic_bucket_seconds`. -/
def automaticBucketSeconds (duration : ℤ) : ℕ :=
  if duration ≤ HA.seconds 3600 then 0
  else if duration ≤ HA.seconds 21600 then 60
  else if duration ≤ HA.seconds 86400 then 300
  else if duration ≤ HA.seconds (7 * 86400) then 1800
  else if duration ≤ HA.seconds (30 * 86400) then 7200
  else if duration ≤ HA.seconds (90 * 86400) then 43200
  else 86400

/-- What `_combined_points` reads of a selection. -/
structure Selection where
  start : DateTime
  stop : DateTime
  bucketSeconds : ℕ

/-- The custom range of `resolve_range`, which refuses it unless it has between one minute and 366
days. -/
def customRange (start stop : DateTime) : Selection where
  start
  stop
  bucketSeconds := automaticBucketSeconds (stop - start)

/-! ### Buckets -/

/-- A bucket of the history. -/
structure Bucket where
  start : DateTime
  stop : DateTime
  samples : ℕ := 0
  successful : ℕ := 0
  latencyCount : ℕ := 0
  latencyTotal : ℚ := 0
  latencyMin : Option ℚ := none
  latencyMax : Option ℚ := none
  lossCount : ℕ := 0
  lossTotal : ℚ := 0
  statePriority : ℕ := 0

/-- `_blank_bucket`. -/
def blankBucket (start : DateTime) (seconds : ℕ) : Bucket where
  start
  stop := if seconds ≠ 0 then start + HA.seconds seconds else start

/-- What is merged into a bucket. -/
structure Source where
  samples : ℕ
  successful : ℕ
  latencyCount : ℕ
  latencyAvg : Option ℚ
  latencyMin : Option ℚ
  latencyMax : Option ℚ
  lossCount : ℕ
  lossAvg : Option ℚ
  statePriority : ℕ

/-- `count`, where there is an average. -/
def weigh {α : Type} (count : ℕ) (average : Option α) : ℕ := if average.isSome then count else 0

/-- `_merge_bucket`. -/
def mergeBucket (target : Bucket) (source : Source) : Bucket :=
  { target with
    samples := target.samples + source.samples
    successful := target.successful + source.successful
    latencyCount := target.latencyCount + weigh source.latencyCount source.latencyAvg
    latencyTotal := target.latencyTotal +
      source.latencyAvg.getD 0 * (weigh source.latencyCount source.latencyAvg : ℚ)
    latencyMin := Option.merge min target.latencyMin source.latencyMin
    latencyMax := Option.merge max target.latencyMax source.latencyMax
    lossCount := target.lossCount + weigh source.lossCount source.lossAvg
    lossTotal := target.lossTotal +
      source.lossAvg.getD 0 * (weigh source.lossCount source.lossAvg : ℚ)
    statePriority := max target.statePriority source.statePriority }

/-! ### Raw checks -/

/-- The `case` of `_raw_aggregates`. -/
def rawPriority (row : NetworkMonitorCheck) : ℕ :=
  match row.healthState with
  | some .offline => 7
  | some .critical => 6
  | some .warning => 5
  | some .recovering => 4
  | some .maintenance => 3
  | some .paused => 2
  | _ => if row.status ≠ .up then 7 else 1

/-- The aggregate functions of `_raw_aggregates` over the rows of a bucket. -/
def rawAggregate (rows : List NetworkMonitorCheck) : Source :=
  let latencies := rows.filterMap (·.latencyMs)
  let losses := rows.filterMap (·.packetLossPercent)
  { samples := rows.length
    successful := (rows.map fun row ↦ if row.status = .up then 1 else 0).sum
    latencyCount := latencies.length
    latencyAvg := average latencies.sum latencies.length
    latencyMin := latencies.min?
    latencyMax := latencies.max?
    lossCount := losses.length
    lossAvg := average (losses.sum : ℤ) losses.length
    statePriority := (rows.map rawPriority).foldr max 0 }

/-- The checks of a monitor in a range. -/
def checksIn (s : MonitorHistory) (monitorId : ℕ) (start stop : DateTime) :
    List NetworkMonitorCheck :=
  s.checks.rows (s.checks.select fun row ↦
    row.monitorId = monitorId ∧ start ≤ row.checkedAt ∧ row.checkedAt < stop)

/-- `_raw_aggregates`, with the start of each bucket in seconds. -/
def rawAggregates (epoch : DateTime → ℤ) (s : MonitorHistory) (monitorId : ℕ)
    (start stop : DateTime) (seconds : ℕ) : List (ℤ × Source) :=
  ((Dict.groupBy (fun row ↦ epoch row.checkedAt - epoch row.checkedAt % seconds)
    (checksIn s monitorId start stop)).items.map fun group ↦
      (group.1, rawAggregate group.2)).insertionSort fun a b ↦ a.1 ≤ b.1

/-! ### Statistics -/

/-- The statistics of a monitor in a range. -/
def statisticsIn (s : MonitorHistory) (monitorId : ℕ) (start stop : DateTime) :
    List NetworkMonitorStatistic :=
  s.statistics.rows (s.statistics.select fun row ↦
    row.monitorId = monitorId ∧ start ≤ row.bucketStart ∧ row.bucketStart < stop)

/-- `_statistic_rows`. -/
def statisticRows (s : MonitorHistory) (monitorId : ℕ) (start stop : DateTime) :
    List NetworkMonitorStatistic :=
  ((statisticsIn s monitorId start stop).insertionSort fun a b ↦
    a.bucketStart ≤ b.bucketStart).take performanceMaxSourceRows

/-- A statistic as `_combined_points` merges it. -/
def statisticSource (row : NetworkMonitorStatistic) : Source where
  samples := row.sampleCount
  successful := row.upCount
  latencyCount := row.latencyWeight
  latencyAvg := row.avgLatencyMs
  latencyMin := row.minLatencyMs
  latencyMax := row.maxLatencyMs
  lossCount :=
    if row.lossSampleCount ≠ 0 then row.lossSampleCount
    else if row.avgPacketLossPercent.isSome then row.sampleCount else 0
  lossAvg := row.avgPacketLossPercent.map (Int.cast : ℤ → ℚ)
  statePriority := (row.healthState.map statePriority).getD 0

/-! ### Points -/

/-- A bucket with the averages it is reported with. -/
structure Point extends Bucket where
  latencyAvg : Option ℚ
  lossAvg : Option ℚ

/-- The averages of a bucket. -/
def Bucket.toPoint (bucket : Bucket) : Point :=
  { bucket with
    latencyAvg := (average bucket.latencyTotal bucket.latencyCount).map (roundTo 1000)
    lossAvg := (average bucket.lossTotal bucket.lossCount).map (roundTo 100) }

/-- A point of `_raw_points`. -/
def rawPoint (row : NetworkMonitorCheck) : Point where
  start := row.checkedAt
  stop := row.checkedAt
  samples := 1
  successful := if row.status = .up then 1 else 0
  latencyCount := if row.latencyMs.isSome then 1 else 0
  latencyTotal := row.latencyMs.getD 0
  latencyMin := row.latencyMs
  latencyMax := row.latencyMs
  lossCount := if row.packetLossPercent.isSome then 1 else 0
  lossTotal := ((row.packetLossPercent.getD 0 : ℤ) : ℚ)
  statePriority := statePriority row.health
  latencyAvg := row.latencyMs
  lossAvg := row.packetLossPercent.map (Int.cast : ℤ → ℚ)

/-- `_raw_points`. -/
def rawPoints (s : MonitorHistory) (monitorId : ℕ) (start stop : DateTime) : List Point :=
  (((checksIn s monitorId start stop).insertionSort fun a b ↦ a.checkedAt ≤ b.checkedAt).take
    5000).map rawPoint

/-- The seconds of a bucket: those of the selection, or of the coarsest statistic. -/
def effectiveSeconds (selection : Selection) (stats : List NetworkMonitorStatistic) : ℕ :=
  max selection.bucketSeconds ((stats.map (·.bucketSeconds)).foldr max 0)

/-- The start of the bucket of a statistic, in seconds. -/
def statisticKey (seconds : ℕ) (row : NetworkMonitorStatistic) : ℤ :=
  Flow.utcClock row.bucketStart - Flow.utcClock row.bucketStart % seconds

/-- The buckets of `_combined_points`. -/
def combinedBuckets (raw : List (ℤ × Source)) (stats : List NetworkMonitorStatistic)
    (seconds : ℕ) : Dict ℤ Bucket :=
  let blank := fun key : ℤ ↦ blankBucket (key * Flow.second) seconds
  Dict.collect (statisticKey seconds) blank
    (fun bucket row ↦ mergeBucket bucket (statisticSource row))
    (Dict.collect Prod.fst blank (fun bucket row ↦ mergeBucket bucket row.2) .empty raw) stats

/-- `_combined_points`. -/
def combinedPoints (epoch : DateTime → ℤ) (s : MonitorHistory) (monitorId : ℕ)
    (selection : Selection) : List Point :=
  let stats := statisticRows s monitorId selection.start selection.stop
  let seconds := effectiveSeconds selection stats
  if seconds = 0 then rawPoints s monitorId selection.start selection.stop
  else
    let raw := rawAggregates epoch s monitorId selection.start selection.stop seconds
    (((combinedBuckets raw stats seconds).items.map Prod.snd).insertionSort fun a b ↦
      a.start ≤ b.start).map Bucket.toPoint

/-- The totals of a report. -/
@[ext]
structure Totals where
  samples : ℕ
  successful : ℕ
  latencyCount : ℕ
  latencyMin : Option ℚ
  latencyMax : Option ℚ
  lossCount : ℕ
  statePriority : ℕ

/-- The totals over the points. -/
def totals (points : List Point) : Totals where
  samples := (points.map (·.samples)).sum
  successful := (points.map (·.successful)).sum
  latencyCount := (points.map (·.latencyCount)).sum
  latencyMin := (points.filterMap (·.latencyMin)).min?
  latencyMax := (points.filterMap (·.latencyMax)).max?
  lossCount := (points.map (·.lossCount)).sum
  statePriority := (points.map (·.statePriority)).foldr max 0

end Kaya.Monitor
