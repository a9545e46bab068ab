import Kaya.Flow.Usage
import Kaya.Library.Grouping
import Kaya.Library.Machine
import Kaya.Library.TableSums
import Kaya.Monitor.Model

/-!
# The retention of checks

`enforce_retention` of `app/services/network_monitor.py`: raw checks become statistics of five
minutes, these become hourly ones and these daily ones. Every call takes a limited number of the
oldest rows, sums them up bucket by bucket and deletes them; a bucket that has its statistic already
is passed over, but its rows are deleted all the same.

The sessions do not flush by themselves (`autoflush=False`), so **what one call adds is not seen by
the next ones**: a statistic that is made and due for its next size in the same run stays behind.

Averages are exact until they are rounded. The jitter is left out. `recorded` keeps every check.
-/

namespace Kaya.Monitor

open Kaya.HA (DateTime)

/-- `_bucket_start`. -/
def bucketStart (value : DateTime) (seconds : ℕ) : DateTime := Flow.bucketStart value seconds

/-! ### Statistics -/

/-- `NetworkMonitorStatistic`. -/
structure NetworkMonitorStatistic where
  monitorId : ℕ
  bucketStart : DateTime
  bucketSeconds : ℕ
  sampleCount : ℕ := 0
  upCount : ℕ := 0
  latencySampleCount : ℕ := 0
  avgLatencyMs : Option ℚ := none
  minLatencyMs : Option ℚ := none
  maxLatencyMs : Option ℚ := none
  lossSampleCount : ℕ := 0
  avgPacketLossPercent : Option ℤ := none
  healthState : Option MonitorStatus := none

/-- The priorities of `_worst_health`. -/
def healthPriority : MonitorStatus → ℕ
  | .healthy => 1
  | .maintenance => 2
  | .paused => 2
  | .recovering => 3
  | .warning => 4
  | .critical => 5
  | .offline => 6
  | _ => 0

/-- `_worst_health`. -/
def worstHealth (states : List (Option MonitorStatus)) : Option MonitorStatus :=
  states.reduceOption.argmax healthPriority

/-- A mean, where there is something to take it of. -/
def average (total : ℚ) (count : ℕ) : Option ℚ := if count = 0 then none else some (total / count)

/-- Rounding to a fraction of one: `round(x, 3)` to a thousandth. -/
def roundTo (parts : ℕ) (x : ℚ) : ℚ := Double.roundHalfEven (x * parts) / parts

/-- `item.health_state or ("healthy" if item.status == "up" else "offline")`. -/
def NetworkMonitorCheck.health (check : NetworkMonitorCheck) : MonitorStatus :=
  check.healthState.getD (if check.status = .up then .healthy else .offline)

/-- The statistic that `_aggregate_checks` makes of the checks of a bucket. -/
def aggregated (bucketSeconds : ℕ) (key : ℕ × DateTime) (checks : List NetworkMonitorCheck) :
    NetworkMonitorStatistic :=
  let latencies := checks.filterMap (·.latencyMs)
  let losses := checks.filterMap (·.packetLossPercent)
  { monitorId := key.1
    bucketStart := key.2
    bucketSeconds
    sampleCount := checks.length
    upCount := checks.countP (·.status = .up)
    latencySampleCount := latencies.length
    avgLatencyMs := (average latencies.sum latencies.length).map (roundTo 1000)
    minLatencyMs := latencies.min?
    maxLatencyMs := latencies.max?
    lossSampleCount := losses.length
    avgPacketLossPercent := (average (losses.sum : ℤ) losses.length).map Double.roundHalfEven
    healthState := worstHealth (checks.map fun check ↦ some check.health) }

/-- `row.latency_sample_count or row.up_count`. -/
def NetworkMonitorStatistic.latencyWeight (row : NetworkMonitorStatistic) : ℕ :=
  if row.latencySampleCount ≠ 0 then row.latencySampleCount else row.upCount

/-- `row.loss_sample_count or row.sample_count`. -/
def NetworkMonitorStatistic.lossWeight (row : NetworkMonitorStatistic) : ℕ :=
  if row.lossSampleCount ≠ 0 then row.lossSampleCount else row.sampleCount

/-- The statistic that `_rollup_statistics` makes of the statistics of a bucket. -/
def rolledUp (targetSeconds : ℕ) (key : ℕ × DateTime) (rows : List NetworkMonitorStatistic) :
    NetworkMonitorStatistic :=
  let latencySamples := rows.filter fun row ↦ row.avgLatencyMs.isSome && row.latencyWeight ≠ 0
  let lossSamples := rows.filter fun row ↦ row.avgPacketLossPercent.isSome && row.lossWeight ≠ 0
  let latencyCount := (latencySamples.map (·.latencyWeight)).sum
  let lossCount := (lossSamples.map (·.lossWeight)).sum
  { monitorId := key.1
    bucketStart := key.2
    bucketSeconds := targetSeconds
    sampleCount := (rows.map (·.sampleCount)).sum
    upCount := (rows.map (·.upCount)).sum
    latencySampleCount := latencyCount
    avgLatencyMs :=
      (average (latencySamples.map fun row ↦ row.avgLatencyMs.getD 0 * (row.latencyWeight : ℚ)).sum
        latencyCount).map (roundTo 1000)
    minLatencyMs := (rows.filterMap (·.minLatencyMs)).min?
    maxLatencyMs := (rows.filterMap (·.maxLatencyMs)).max?
    lossSampleCount := lossCount
    avgPacketLossPercent :=
      (average (lossSamples.map fun row ↦
        ((row.avgPacketLossPercent.getD 0 : ℤ) : ℚ) * (row.lossWeight : ℚ)).sum lossCount).map
        Double.roundHalfEven
    healthState := worstHealth (rows.map (·.healthState)) }

/-! ### Retention -/

/-- The checks and the statistics of all monitors. -/
structure MonitorHistory where
  clock : DateTime
  checks : Table NetworkMonitorCheck
  statistics : Table NetworkMonitorStatistic
  lastRetentionRun : Option DateTime := none
  recorded : Table NetworkMonitorCheck

/-- A transaction on them, and the statistics that its session has not flushed. -/
structure RetentionSession extends MonitorHistory where
  pending : List NetworkMonitorStatistic := []

/-- The limit of the two queries. -/
def rowLimit : ℕ := 10000

/-- The query for the statistic of a bucket. -/
def sameBucket (statistic row : NetworkMonitorStatistic) : Bool :=
  row.monitorId = statistic.monitorId ∧ row.bucketStart = statistic.bucketStart ∧
    row.bucketSeconds = statistic.bucketSeconds

/-- The statistics that are added for the groups: none where the query finds one. -/
def newBuckets {ρ : Type} (make : ℕ × DateTime → List ρ → NetworkMonitorStatistic)
    (groups : List ((ℕ × DateTime) × List ρ)) (statistics : Table NetworkMonitorStatistic) :
    List NetworkMonitorStatistic :=
  (groups.map fun group ↦ make group.1 group.2).filter fun row ↦
    !statistics.exists? (sameBucket row)

/-- The checks that `_aggregate_checks` selects below its limit. -/
def dueChecks (s : MonitorHistory) (cutoff : DateTime) (bucketSeconds : ℕ) : List ℕ :=
  (s.checks.select (·.checkedAt < bucketStart cutoff bucketSeconds)).insertionSort fun i j ↦
    (s.checks.row i).checkedAt ≤ (s.checks.row j).checkedAt

/-- The groups of `_aggregate_checks`. -/
def checkGroups (s : MonitorHistory) (cutoff : DateTime) (bucketSeconds : ℕ) :
    Dict (ℕ × DateTime) (List NetworkMonitorCheck) :=
  Dict.groupBy (fun row ↦ (row.monitorId, bucketStart row.checkedAt bucketSeconds))
    (s.checks.rows ((dueChecks s cutoff bucketSeconds).take rowLimit))

/-- `_aggregate_checks`. -/
def aggregateChecks (s : RetentionSession) (cutoff : DateTime) (bucketSeconds : ℕ) :
    RetentionSession :=
  { s with
    pending := s.pending ++ newBuckets (aggregated bucketSeconds)
      (checkGroups s.toMonitorHistory cutoff bucketSeconds).items s.statistics
    checks := s.checks.delete ((dueChecks s.toMonitorHistory cutoff bucketSeconds).take rowLimit) }

/-- The statistics that `_rollup_statistics` selects below its limit. -/
def dueStatistics (s : MonitorHistory) (sourceSeconds : ℕ) (cutoff : DateTime)
    (targetSeconds : ℕ) : List ℕ :=
  (s.statistics.select fun row ↦
    row.bucketSeconds = sourceSeconds ∧ row.bucketStart < bucketStart cutoff targetSeconds)
    |>.insertionSort fun i j ↦
      (s.statistics.row i).bucketStart ≤ (s.statistics.row j).bucketStart

/-- The groups of `_rollup_statistics`. -/
def statisticGroups (s : MonitorHistory) (sourceSeconds : ℕ) (cutoff : DateTime)
    (targetSeconds : ℕ) : Dict (ℕ × DateTime) (List NetworkMonitorStatistic) :=
  Dict.groupBy (fun row ↦ (row.monitorId, bucketStart row.bucketStart targetSeconds))
    (s.statistics.rows ((dueStatistics s sourceSeconds cutoff targetSeconds).take rowLimit))

/-- `_rollup_statistics`. -/
def rollupStatistics (s : RetentionSession) (sourceSeconds : ℕ) (cutoff : DateTime)
    (targetSeconds : ℕ) : RetentionSession :=
  { s with
    pending := s.pending ++ newBuckets (rolledUp targetSeconds)
      (statisticGroups s.toMonitorHistory sourceSeconds cutoff targetSeconds).items s.statistics
    statistics := s.statistics.delete
      ((dueStatistics s.toMonitorHistory sourceSeconds cutoff targetSeconds).take rowLimit) }

/-- `timedelta(days=n)`. -/
def days (n : ℕ) : ℤ := HA.seconds (n * 86400)

/-- `enforce_retention` had run less than an hour ago. -/
def isThrottled (s : MonitorHistory) (now : DateTime) : Bool :=
  s.lastRetentionRun.any (now - HA.seconds 3600 < ·)

/-- `enforce_retention`, in a new session. -/
def enforceRetention (s : MonitorHistory) (now : DateTime) : RetentionSession :=
  if isThrottled s now then { s with }
  else
    let s := aggregateChecks { s with } (now - days 30) 300
    let s := rollupStatistics s 300 (now - days 90) 3600
    let s := rollupStatistics s 3600 (now - days 365) 86400
    { s with lastRetentionRun := some now }

/-- The commit, which flushes what is pending. -/
def RetentionSession.commit (s : RetentionSession) : MonitorHistory :=
  { s.toMonitorHistory with statistics := s.pending.foldl Table.insert s.statistics }

/-! ### Events -/

inductive RetentionEvent
  | check (elapsed : ℕ) (row : NetworkMonitorCheck)
  | retain (elapsed : ℕ)

/-- A new check, at a time. -/
def recordCheck (s : MonitorHistory) (row : NetworkMonitorCheck) (now : DateTime) :
    MonitorHistory :=
  { s with
    clock := now
    checks := s.checks.insert { row with checkedAt := now }
    recorded := s.recorded.insert { row with checkedAt := now } }

def retentionStep (s : MonitorHistory) : RetentionEvent → MonitorHistory
  | .check elapsed row => recordCheck s row (s.clock + elapsed)
  | .retain elapsed =>
    { (enforceRetention s (s.clock + elapsed)).commit with clock := s.clock + elapsed }

/-- Nothing has been summed up yet. -/
structure RetentionInitial (s : MonitorHistory) : Prop where
  statistics : s.statistics.ids = []
  recorded : s.recorded = s.checks
  lastRetentionRun : s.lastRetentionRun = none

def retentionMachine : Machine MonitorHistory RetentionEvent where
  init := RetentionInitial
  step := retentionStep

end Kaya.Monitor
