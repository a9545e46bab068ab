import Kaya.Monitor.Model
import Kaya.Notifications.Outbox

/-!
# The incidents of a monitor

`record_monitor_result` with the actions of its operators, `update_monitor_settings` and
`toggle_monitor`, for one monitor, as a machine. A check happens later than everything before it.
`retain` is what the retention does to the monitor's checks: it takes the oldest ones. `deliver` is
what the workers of the outbox do to its rows, which may be anything.

A correlation id is a fresh UUID: a check that draws one again is no event.

`failures` counts the failed checks since the last successful one, whatever the monitor makes of
them.
-/

namespace Kaya.Monitor

open Kaya.HA (DateTime)
open Kaya.Notifications (NotificationOutbox OutboxRequest OutboxStatus)

/-- A monitor with its checks, oldest first, its incidents and the outbox. -/
structure Monitoring where
  clock : DateTime
  monitor : NetworkMonitor
  checks : List NetworkMonitorCheck
  incidents : Table NetworkMonitorOutage
  outbox : Table NotificationOutbox
  failures : ℕ

/-! ### The outbox -/

/-- The statuses in which a row stands in the way of another one. -/
def isPending (status : OutboxStatus) : Bool :=
  status = .pending ∨ status = .processing ∨ status = .retry

/-- The row is what `enqueue_notification` looks for. -/
def duplicates (request : OutboxRequest) (row : NotificationOutbox) : Bool :=
  row.request.eventType = request.eventType ∧
    row.request.deduplicationKey = request.deduplicationKey ∧ isPending row.status

/-- `enqueue_notification`. -/
def enqueueNotification (outbox : Table NotificationOutbox) (request : OutboxRequest)
    (now : DateTime) : Table NotificationOutbox :=
  if request.deduplicationKey.isSome && outbox.exists? (duplicates request) then outbox
  else outbox.insert { request, createdAt := now }

/-- The key of the offline notification. -/
def offlineKey (id : ℕ) : String := s!"ipwan:host:{id}:offline"

/-- The key of a recovery. -/
def recoveredKey (id : ℕ) (correlationId : String) : String :=
  s!"ipwan:host:{id}:recovered:{correlationId}"

def offlineRequest (id : ℕ) : OutboxRequest where
  eventType := "ipwan.host.offline"
  deduplicationKey := some (offlineKey id)

def recoveredRequest (id : ℕ) (correlationId : String) : OutboxRequest where
  eventType := "ipwan.host.recovered"
  deduplicationKey := some (recoveredKey id correlationId)
  resolveDeduplicationKey := some (offlineKey id)
  resolved := true

/-! ### `record_monitor_result` -/

/-- The first of the open incidents that is of a type. -/
def openIncident (incidents : Table NetworkMonitorOutage) (incidentType : IncidentType) :
    Option ℕ :=
  ((incidents.select (·.endedAt = none)).insertionSort fun i j ↦
    (incidents.row i).startedAt ≤ (incidents.row j).startedAt).find? fun i ↦
      (incidents.row i).incidentType = incidentType

/-- An incident ends. -/
def close (incidents : Table NetworkMonitorOutage) (incident : Option ℕ) (now : DateTime) :
    Table NetworkMonitorOutage :=
  match incident with
  | some id => incidents.modify id fun row ↦ { row with endedAt := some now }
  | none => incidents

/-- The start of an incident: the earliest of the last checks of a kind. -/
def firstAt (checks : List NetworkMonitorCheck) (p : NetworkMonitorCheck → Bool) (limit : ℕ)
    (now : DateTime) : DateTime :=
  ((((checks.filter p).insertionSort fun c d ↦ d.checkedAt ≤ c.checkedAt).take limit).map
    (·.checkedAt)).min?.getD now

/-- The offline incident. -/
def offlineStep (monitor : NetworkMonitor) (state : MonitorStatus)
    (checks : List NetworkMonitorCheck) (incidents : Table NetworkMonitorOutage) (now : DateTime) :
    Table NetworkMonitorOutage :=
  match openIncident incidents .offline with
  | none =>
    if state = .offline then
      (close incidents (openIncident incidents .degraded) now).insert
        { startedAt := firstAt checks (·.status = .down) monitor.consecutiveFailures now }
    else incidents
  | some id => if state.isDown then incidents else close incidents (some id) now

/-- The degraded incident; `degraded` is the one that was open before the check. -/
def degradedStep (monitor : NetworkMonitor) (thresholds : Thresholds) (ok : Bool)
    (state : MonitorStatus) (checks : List NetworkMonitorCheck) (degraded : Option ℕ)
    (incidents : Table NetworkMonitorOutage) (now : DateTime) : Table NetworkMonitorOutage :=
  match degraded with
  | none =>
    if ok && state.isDegraded then
      incidents.insert
        { startedAt := firstAt checks (·.healthState.any (·.isDegraded))
            monitor.consecutiveDegraded now
          incidentType := .degraded }
    else incidents
  | some id =>
    if state = .healthy && thresholds.recoveryThreshold ≤ monitor.consecutiveSuccesses then
      close incidents (some id) now
    else incidents

/-- The notification of a changed state. -/
def notify (outbox : Table NotificationOutbox) (id : ℕ) (previous state : MonitorStatus)
    (correlationId : String) (now : DateTime) : Table NotificationOutbox :=
  if state = .offline then enqueueNotification outbox (offlineRequest id) now
  else if previous.isDown && !state.isDown then
    enqueueNotification outbox (recoveredRequest id correlationId) now
  else outbox

/-- The result of a check. -/
structure PingResult where
  ok : Bool
  latencyMs : Option ℚ := none
  packetLoss : Option ℤ := none

/-- The observation that `record_monitor_result` stores. -/
def observation (monitor : NetworkMonitor) (result : PingResult) (raw : MonitorStatus)
    (now : DateTime) : NetworkMonitorCheck where
  monitorId := monitor.id
  status := if result.ok then .up else .down
  healthState := some (if monitor.isInMaintenance then .maintenance else raw)
  latencyMs := result.latencyMs
  packetLossPercent := result.packetLoss
  checkedAt := now

/-- `record_monitor_result` with the thresholds of the monitor. -/
def Monitoring.recorded (s : Monitoring) (thresholds : Thresholds) (result : PingResult)
    (correlationId : String) (now : DateTime) : Monitoring :=
  let previous := previousState s.monitor.lastStatus
  let raw := observationHealth thresholds result.ok result.latencyMs result.packetLoss
  let assessed :=
    s.monitor.assess thresholds result.ok raw (openIncident s.incidents .offline).isSome
  let state := assessed.2
  let checks := s.checks ++ [observation s.monitor result raw now]
  { clock := now
    monitor := { assessed.1 with lastStatus := some state, lastCheckedAt := some now }
    checks
    incidents :=
      if s.monitor.isInMaintenance then s.incidents
      else
        degradedStep assessed.1 thresholds result.ok state checks
          (openIncident s.incidents .degraded)
          (offlineStep assessed.1 state checks s.incidents now) now
    outbox :=
      if s.monitor.lastStatus ≠ some state then
        notify s.outbox s.monitor.id previous state correlationId now
      else s.outbox
    failures := if result.ok then 0 else s.failures + 1 }

/-- `record_monitor_result`. -/
def recordMonitorResult (s : Monitoring) (defaults : Thresholds) (result : PingResult)
    (correlationId : String) (now : DateTime) : Except String Monitoring := do
  let thresholds ← effectiveMonitorThresholds defaults s.monitor
  return s.recorded thresholds result correlationId now

/-! ### The operators -/

/-- `toggle_monitor`. -/
def NetworkMonitor.toggle (monitor : NetworkMonitor) : NetworkMonitor :=
  { monitor with
    isEnabled := !monitor.isEnabled
    lastStatus := some (if monitor.isEnabled then .paused else .unknown)
    consecutiveDegraded := 0
    consecutiveFailures := 0
    consecutiveSuccesses := 0 }

/-- `update_monitor_settings`, where the interval and the timeout have been accepted. -/
def NetworkMonitor.updateSettings (monitor : NetworkMonitor) (maintenanceMode useDefaults : Bool)
    (values : Thresholds) : Except String NetworkMonitor := do
  let values ← validateThresholdValues values
  return { monitor with
    isInMaintenance := maintenanceMode
    lastStatus :=
      if maintenanceMode then some .maintenance
      else if monitor.lastStatus = some .maintenance then some .unknown
      else monitor.lastStatus
    useDefaultThresholds := useDefaults
    thresholds := values }

/-! ### Events -/

inductive MonitorEvent
  | record (elapsed : ℕ) (defaults : Thresholds) (result : PingResult) (correlationId : String)
  | settings (maintenanceMode useDefaults : Bool) (values : Thresholds)
  | toggle
  | retain (count : ℕ)
  | deliver (outbox : Table NotificationOutbox)

/-- The correlation id has not been drawn before. -/
def isFresh (s : Monitoring) (correlationId : String) : Bool :=
  !s.outbox.exists? fun row ↦
    row.request.deduplicationKey = some (recoveredKey s.monitor.id correlationId)

/-- The time of the next check. -/
def Monitoring.after (s : Monitoring) (elapsed : ℕ) : DateTime := s.clock + elapsed + 1

def monitorStep (s : Monitoring) : MonitorEvent → Monitoring
  | .record elapsed defaults result correlationId =>
    if isFresh s correlationId then
      match recordMonitorResult s defaults result correlationId (s.after elapsed) with
      | .ok t => t
      | .error _ => s
    else s
  | .settings maintenanceMode useDefaults values =>
    match s.monitor.updateSettings maintenanceMode useDefaults values with
    | .ok monitor => { s with monitor }
    | .error _ => s
  | .toggle => { s with monitor := s.monitor.toggle }
  | .retain count => { s with checks := s.checks.drop count }
  | .deliver outbox => { s with outbox }

/-- A monitor that has not been checked yet. -/
structure MonitorInitial (s : Monitoring) : Prop where
  checks : s.checks = []
  incidents : s.incidents.ids = []
  failures : s.monitor.consecutiveFailures = 0
  status : (previousState s.monitor.lastStatus).isDown = false

def monitorMachine : Machine Monitoring MonitorEvent where
  init := MonitorInitial
  step := monitorStep

end Kaya.Monitor
