import Kaya.HA.Model
import Mathlib.Algebra.Order.Ring.Rat

/-!
# IP and WAN monitors

The rows of the monitors and the pure parts of `app/services/network_monitor.py`: the thresholds,
the health of one observation, and the state that a check leads to with the counters of the monitor
(`NetworkMonitor.assess`). Texts that only explain a state to its reader are left out.
-/

namespace Kaya.Monitor

open Kaya.HA (DateTime)

/-- The states of a monitor, with the three that older versions have stored. -/
inductive MonitorStatus
  | pending
  | up
  | down
  | unknown
  | paused
  | maintenance
  | healthy
  | warning
  | critical
  | recovering
  | offline
  deriving DecidableEq

/-- `{"offline", "recovering"}`. -/
def MonitorStatus.isDown (status : MonitorStatus) : Bool :=
  status = .offline ∨ status = .recovering

/-- `{"warning", "critical"}`. -/
def MonitorStatus.isDegraded (status : MonitorStatus) : Bool :=
  status = .warning ∨ status = .critical

/-! ### Thresholds -/

/-- The values of `MONITOR_THRESHOLD_DEFAULTS`. -/
structure Thresholds where
  latencyWarningMs : ℤ := 100
  latencyCriticalMs : ℤ := 250
  packetLossWarningPercent : ℤ := 5
  packetLossCriticalPercent : ℤ := 25
  degradedThreshold : ℤ := 2
  failureThreshold : ℤ := 3
  recoveryThreshold : ℤ := 3
  recoveryStateEnabled : Bool := true

/-- `validate_threshold_values`. -/
def validateThresholdValues (values : Thresholds) : Except String Thresholds :=
  if ¬ (0 ≤ values.latencyWarningMs ∧ values.latencyWarningMs ≤ 60000) then
    .error "Warning latency must be between 0 and 60000 milliseconds."
  else if ¬ (values.latencyWarningMs ≤ values.latencyCriticalMs ∧
      values.latencyCriticalMs ≤ 60000) then
    .error "Critical latency must be greater than or equal to warning latency."
  else if ¬ (0 ≤ values.packetLossWarningPercent ∧ values.packetLossWarningPercent ≤ 100) then
    .error "Warning packet loss must be between 0 and 100 percent."
  else if ¬ (values.packetLossWarningPercent ≤ values.packetLossCriticalPercent ∧
      values.packetLossCriticalPercent ≤ 100) then
    .error "Critical packet loss must be greater than or equal to warning packet loss."
  else if ¬ (1 ≤ values.degradedThreshold ∧ values.degradedThreshold ≤ 20) then
    .error "Degraded checks must be between 1 and 20."
  else if ¬ (1 ≤ values.failureThreshold ∧ values.failureThreshold ≤ 20) then
    .error "Failures before offline must be between 1 and 20."
  else if ¬ (1 ≤ values.recoveryThreshold ∧ values.recoveryThreshold ≤ 20) then
    .error "Successes before recovery must be between 1 and 20."
  else .ok values

/-- `observation_health`. -/
def observationHealth (thresholds : Thresholds) (ok : Bool) (latencyMs : Option ℚ)
    (packetLoss : Option ℤ) : MonitorStatus :=
  if !ok || packetLoss = some 100 then .offline
  else if latencyMs.any ((thresholds.latencyCriticalMs : ℚ) ≤ ·) ||
      packetLoss.any (thresholds.packetLossCriticalPercent ≤ ·) then .critical
  else if latencyMs.any ((thresholds.latencyWarningMs : ℚ) ≤ ·) ||
      packetLoss.any (thresholds.packetLossWarningPercent ≤ ·) then .warning
  else .healthy

/-! ### Rows -/

/-- `NetworkMonitor`. -/
structure NetworkMonitor where
  id : ℕ
  isEnabled : Bool := true
  isInMaintenance : Bool := false
  useDefaultThresholds : Bool := true
  thresholds : Thresholds := {}
  consecutiveDegraded : ℕ := 0
  consecutiveFailures : ℕ := 0
  consecutiveSuccesses : ℕ := 0
  lastStatus : Option MonitorStatus := none
  lastCheckedAt : Option DateTime := none

inductive CheckStatus
  | up
  | down
  deriving DecidableEq

/-- `NetworkMonitorCheck`. -/
structure NetworkMonitorCheck where
  monitorId : ℕ
  status : CheckStatus
  healthState : Option MonitorStatus
  latencyMs : Option ℚ
  packetLossPercent : Option ℤ
  checkedAt : DateTime

/-- `NetworkMonitorOutage.incident_type`. -/
inductive IncidentType
  | offline
  | degraded
  deriving DecidableEq

/-- `NetworkMonitorOutage`. -/
structure NetworkMonitorOutage where
  startedAt : DateTime
  endedAt : Option DateTime := none
  incidentType : IncidentType := .offline

/-- `effective_monitor_thresholds`; `defaults` is what the site settings hold. -/
def effectiveMonitorThresholds (defaults : Thresholds) (monitor : NetworkMonitor) :
    Except String Thresholds :=
  if monitor.useDefaultThresholds then
    match validateThresholdValues defaults with
    | .ok values => .ok values
    | .error _ => .ok {}
  else validateThresholdValues monitor.thresholds

/-! ### The state after a check -/

/-- `previous_state`. -/
def previousState (lastStatus : Option MonitorStatus) : MonitorStatus :=
  match lastStatus.getD .unknown with
  | .up => .healthy
  | .down => .offline
  | .pending => .unknown
  | status => status

/-- The monitor is offline or recovering, or an offline incident is open. -/
def isRecovering (monitor : NetworkMonitor) (isOffline : Bool) : Bool :=
  (previousState monitor.lastStatus).isDown || isOffline

/-- The counters of `record_monitor_result` outside maintenance. -/
def NetworkMonitor.count (monitor : NetworkMonitor) (ok : Bool) (raw : MonitorStatus)
    (recovering : Bool) : NetworkMonitor :=
  if ok then
    { monitor with
      consecutiveFailures := 0
      consecutiveSuccesses :=
        if recovering || raw = .healthy then monitor.consecutiveSuccesses + 1 else 0
      consecutiveDegraded := if raw.isDegraded then monitor.consecutiveDegraded + 1 else 0 }
  else
    { monitor with
      consecutiveDegraded := 0
      consecutiveSuccesses := 0
      consecutiveFailures := monitor.consecutiveFailures + 1 }

/-- The new state of `record_monitor_result` outside maintenance, from the new counters. -/
def NetworkMonitor.judge (monitor : NetworkMonitor) (thresholds : Thresholds) (ok : Bool)
    (raw : MonitorStatus) (recovering : Bool) : MonitorStatus :=
  if ok then
    if recovering && monitor.consecutiveSuccesses < thresholds.recoveryThreshold then
      if thresholds.recoveryStateEnabled then .recovering else .offline
    else if raw.isDegraded && thresholds.degradedThreshold ≤ monitor.consecutiveDegraded then raw
    else .healthy
  else if recovering then .offline
  else if thresholds.failureThreshold ≤ monitor.consecutiveFailures then .offline
  else .warning

/-- The first part of `record_monitor_result`: the counters and the new state, where `isOffline` is
whether an offline incident is open. -/
def NetworkMonitor.assess (monitor : NetworkMonitor) (thresholds : Thresholds) (ok : Bool)
    (raw : MonitorStatus) (isOffline : Bool) : NetworkMonitor × MonitorStatus :=
  if monitor.isInMaintenance then (monitor, .maintenance)
  else
    let recovering := isRecovering monitor isOffline
    let counted := monitor.count ok raw recovering
    (counted, counted.judge thresholds ok raw recovering)

end Kaya.Monitor
