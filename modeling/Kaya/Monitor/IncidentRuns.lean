import Kaya.Library.Checks
import Kaya.Monitor.IncidentRules

/-!
# Runs of a monitor

`MonitorInvariant` holds in every state of every run: each event keeps it, a check by the change it
makes to the offline incidents. The rules of the incidents follow, with one condition: a run is
`steady` where no success in maintenance leaves failures counted.
-/

namespace Kaya.Monitor

open List
open Kaya.HA (DateTime)

variable {s : Monitoring} {e : MonitorEvent} {i : ℕ} {monitor : NetworkMonitor}
  {maintenanceMode useDefaults : Bool} {values : Thresholds}

/-! ### The invariant -/

/-- What holds of the incidents of one monitor. -/
structure MonitorInvariant (s : Monitoring) : Prop where
  checks_le : ∀ c ∈ s.checks, c.checkedAt ≤ s.clock
  sorted : s.checks.Pairwise fun c d ↦ c.checkedAt < d.checkedAt
  oneOpen : ∀ kind, OneOpen s.incidents kind
  start_le : ∀ i, IsOffline s.incidents i → (s.incidents.row i).startedAt ≤ s.clock
  ended : ∀ i, IsOffline s.incidents i → ∀ e ∈ (s.incidents.row i).endedAt,
    (s.incidents.row i).startedAt ≤ e ∧ e ≤ s.clock
  disjoint : ∀ i j, IsOffline s.incidents i → IsOffline s.incidents j → i ≠ j →
    Disjoint (s.incidents.row i).period (s.incidents.row j).period
  counts : ∀ i, IsOffline s.incidents i → ∀ e ∈ (s.incidents.row i).endedAt,
    CountsAfter s.checks s.monitor.consecutiveFailures e
  down : (previousState s.monitor.lastStatus).isDown = true → ∃ i, IsOpen s.incidents .offline i
  maintained : s.monitor.isInMaintenance = true →
    (previousState s.monitor.lastStatus).isDown = false

theorem MonitorInitial.invariant (h : MonitorInitial s) : MonitorInvariant s where
  checks_le c hc := absurd (h.checks ▸ hc) (not_mem_nil)
  sorted := h.checks ▸ .nil
  oneOpen _ i _ hi := absurd (h.incidents ▸ hi.1) not_mem_nil
  start_le i hi := absurd (h.incidents ▸ hi.1) not_mem_nil
  ended i hi := absurd (h.incidents ▸ hi.1) not_mem_nil
  disjoint i _ hi := absurd (h.incidents ▸ hi.1) not_mem_nil
  counts i hi := absurd (h.incidents ▸ hi.1) not_mem_nil
  down hdown := absurd (hdown.symm.trans h.status) (by simp)
  maintained _ := h.status

/-! ### A check -/

section Record

variable {t : Monitoring} {defaults thresholds : Thresholds} {result : PingResult}
  {correlationId : String} {now : DateTime}

/-- The raw state of a check. -/
def rawState (thresholds : Thresholds) (result : PingResult) : MonitorStatus :=
  observationHealth thresholds result.ok result.latencyMs result.packetLoss

/-- The state that a check leads to. -/
def nextState (s : Monitoring) (thresholds : Thresholds) (result : PingResult) : MonitorStatus :=
  (s.monitor.assess thresholds result.ok (rawState thresholds result)
    (openIncident s.incidents .offline).isSome).2

theorem nextState_ne_down : nextState s thresholds result ≠ .down := assess_ne_down

theorem recordMonitorResult_eq_ok (h : recordMonitorResult s defaults result correlationId now =
    .ok t) : ∃ thresholds, effectiveMonitorThresholds defaults s.monitor = .ok thresholds ∧
      s.recorded thresholds result correlationId now = t := by
  rw [recordMonitorResult, bind_eq_ok] at h
  obtain ⟨thresholds, hthres, h⟩ := h
  exact ⟨thresholds, hthres, pure_eq_ok.1 h⟩

theorem recorded_lastStatus :
    (s.recorded thresholds result correlationId now).monitor.lastStatus =
      some (nextState s thresholds result) :=
  rfl

theorem recorded_isInMaintenance :
    (s.recorded thresholds result correlationId now).monitor.isInMaintenance =
      s.monitor.isInMaintenance :=
  assess_isInMaintenance

theorem recorded_failures (h : s.monitor.isInMaintenance = false) :
    (s.recorded thresholds result correlationId now).monitor.consecutiveFailures =
      if result.ok then 0 else s.monitor.consecutiveFailures + 1 :=
  assess_failures h

theorem recorded_failures_of_maintenance (h : s.monitor.isInMaintenance = true) :
    (s.recorded thresholds result correlationId now).monitor.consecutiveFailures =
      s.monitor.consecutiveFailures := by
  show (s.monitor.assess thresholds result.ok (rawState thresholds result)
    (openIncident s.incidents .offline).isSome).1.consecutiveFailures = _
  rw [assess_of_maintenance h]

/-- The count grows by one at a failed check, if it grows. -/
theorem recorded_failures_le :
    (s.recorded thresholds result correlationId now).monitor.consecutiveFailures ≤
      if (observation s.monitor result (rawState thresholds result) now).status = .down then
        s.monitor.consecutiveFailures + 1
      else s.monitor.consecutiveFailures := by
  have hstat : (observation s.monitor result (rawState thresholds result) now).status =
      if result.ok then .up else .down := rfl
  rw [hstat]
  cases hmaint : s.monitor.isInMaintenance with
  | true =>
    rw [recorded_failures_of_maintenance hmaint]
    cases result.ok with
    | true => exact le_rfl
    | false => exact Nat.le_succ _
  | false =>
    rw [recorded_failures hmaint]
    cases result.ok with
    | true => exact Nat.zero_le _
    | false => exact le_rfl

theorem nextState_of_maintenance (h : s.monitor.isInMaintenance = true) :
    nextState s thresholds result = .maintenance := by
  rw [nextState, assess_of_maintenance h]

/-- What a check outside maintenance does to the incidents. -/
theorem recorded_incidents (thresholds : Thresholds) (result : PingResult) (correlationId : String)
    (now : DateTime) (h : s.monitor.isInMaintenance = false) :
    OfflineChange s.incidents (s.recorded thresholds result correlationId now).incidents
      (nextState s thresholds result) now
      (firstAt (s.recorded thresholds result correlationId now).checks (·.status = .down)
        (s.recorded thresholds result correlationId now).monitor.consecutiveFailures now) := by
  have hincidents : (s.recorded thresholds result correlationId now).incidents =
      degradedStep _ thresholds result.ok (nextState s thresholds result) _ _ _ now :=
    if_neg (by simp [h])
  rw [hincidents]
  exact offlineChange_step _ thresholds result.ok _ _

theorem recorded_incidents_of_maintenance (h : s.monitor.isInMaintenance = true) :
    (s.recorded thresholds result correlationId now).incidents = s.incidents :=
  if_pos h

theorem isRecovering_of_isOpen {i : ℕ} (h : IsOpen s.incidents .offline i) :
    isRecovering s.monitor (openIncident s.incidents .offline).isSome = true := by
  rw [isRecovering, openIncident_isSome.2 ⟨i, h⟩, Bool.or_true]

/-- Without an open incident, a failed check leads to an offline monitor where enough of them have
been counted, and a successful one never does. -/
theorem failureThreshold_le (h : MonitorInvariant s)
    (hmaint : s.monitor.isInMaintenance = false)
    (hnone : ∀ i, ¬ IsOpen s.incidents .offline i)
    (hdown : (nextState s thresholds result).isDown = true) :
    result.ok = false ∧
      thresholds.failureThreshold ≤ ((s.monitor.consecutiveFailures + 1 : ℕ) : ℤ) := by
  have hrecovering :
      isRecovering s.monitor (openIncident s.incidents .offline).isSome = false := by
    have hsome : (openIncident s.incidents .offline).isSome = false :=
      Bool.eq_false_iff.2 fun hsome ↦ (openIncident_isSome.1 hsome).elim hnone
    have hprev : (previousState s.monitor.lastStatus).isDown = false :=
      Bool.eq_false_iff.2 fun hprev ↦ (h.down hprev).elim hnone
    rw [isRecovering, hsome, hprev, Bool.or_false]
  rw [nextState] at hdown
  cases hok : result.ok with
  | true =>
    rw [hok, assess_isDown_of_ok hmaint, hrecovering] at hdown
    exact absurd hdown.1 (by simp)
  | false =>
    rw [hok, assess_isDown_of_failed hmaint, hrecovering] at hdown
    exact ⟨rfl, hdown.resolve_left (by simp)⟩

/-- What ends an incident is a success. -/
theorem ok_of_closed {i : ℕ} (hmaint : s.monitor.isInMaintenance = false)
    (hopen : IsOpen s.incidents .offline i)
    (hdown : (nextState s thresholds result).isDown = false) : result.ok = true := by
  cases hok : result.ok with
  | true => rfl
  | false =>
    have htrue : (nextState s thresholds result).isDown = true := by
      rw [nextState, hok, assess_isDown_of_failed hmaint]
      exact .inl (isRecovering_of_isOpen hopen)
    exact absurd (hdown.symm.trans htrue) (by simp)

end Record

/-! ### The events -/

theorem clock_lt_after (s : Monitoring) (elapsed : ℕ) : s.clock < s.after elapsed := by
  rw [Monitoring.after]
  exact Int.lt_add_one_of_le (Int.le_add_of_nonneg_right (Int.natCast_nonneg elapsed))

section Record

variable {thresholds : Thresholds} {result : PingResult} {correlationId : String} {now : DateTime}
  {i : ℕ}

/-- The counted failures stay later than the end of every incident. -/
theorem CountsAfter.recorded {e : DateTime}
    (h : CountsAfter s.checks s.monitor.consecutiveFailures e) (he : e < now) :
    CountsAfter (s.recorded thresholds result correlationId now).checks
      (s.recorded thresholds result correlationId now).monitor.consecutiveFailures e :=
  (h.append (c := observation s.monitor result (rawState thresholds result) now) he).mono
    recorded_failures_le

theorem recorded_oneOpen (h : ∀ kind, OneOpen s.incidents kind) (kind : IncidentType) :
    OneOpen (s.recorded thresholds result correlationId now).incidents kind := by
  cases hmaint : s.monitor.isInMaintenance with
  | true =>
    rw [recorded_incidents_of_maintenance hmaint]
    exact h kind
  | false =>
    have hincidents : (s.recorded thresholds result correlationId now).incidents =
        degradedStep _ thresholds result.ok (nextState s thresholds result) _
          (openIncident s.incidents .degraded) (offlineStep _ _ _ s.incidents now) now :=
      if_neg (by simp [hmaint])
    rw [hincidents]
    refine (h kind).offlineStep.degradedStep fun hnone i hi ↦ ?_
    exact openIncident_eq_none hnone i (isOpen_offlineStep hi)

/-- Only a failed check outside maintenance leads to an offline monitor without an open incident. -/
theorem nextState_offline (h : MonitorInvariant s)
    (hmaint : s.monitor.isInMaintenance = false)
    (hnone : ∀ i, ¬ IsOpen s.incidents .offline i)
    (hdown : (nextState s thresholds result).isDown = true) :
    nextState s thresholds result = .offline := by
  have hok := (failureThreshold_le h hmaint hnone hdown).1
  rw [nextState, hok] at hdown ⊢
  exact assess_of_failed hmaint hdown

/-- **The offline state and the offline incident.** -/
theorem recorded_isDown (h : MonitorInvariant s)
    (hmaint : s.monitor.isInMaintenance = false) :
    (∃ i, IsOpen (s.recorded thresholds result correlationId now).incidents .offline i) ↔
      (nextState s thresholds result).isDown = true :=
  (recorded_incidents _ _ _ _ hmaint).exists_isOpen (h.oneOpen .offline)
    (nextState_offline h hmaint)

/-- An incident only opens where none is open. -/
theorem none_of_opened (hmaint : s.monitor.isInMaintenance = false)
    (hclosed : ¬ IsOpen s.incidents .offline i)
    (hopen : IsOpen (s.recorded thresholds result correlationId now).incidents .offline i) (j : ℕ) :
    ¬ IsOpen s.incidents .offline j := by
  obtain ⟨hi, hrow⟩ | ⟨hnone, -, -⟩ | ⟨hi, -, -⟩ :=
    (recorded_incidents _ _ _ _ hmaint).row hopen.isOffline
  · exact absurd ⟨hi.1, hi.2, hrow ▸ hopen.2.2⟩ hclosed
  · exact hnone j
  · exact absurd hi hclosed

theorem isDown_of_closed (hmaint : s.monitor.isInMaintenance = false)
    (hopen : IsOpen s.incidents .offline i)
    (hclosed : ¬ IsOpen (s.recorded thresholds result correlationId now).incidents .offline i) :
    (nextState s thresholds result).isDown = false := by
  cases recorded_incidents thresholds result correlationId now hmaint with
  | same hspares _ _ =>
    have hi := (hspares.ids i).2 hopen.isOffline
    exact absurd ⟨hi.1, hi.2, (hspares.rows i hopen.isOffline).symm ▸ hopen.2.2⟩ hclosed
  | opened _ _ hnone _ _ _ _ _ => exact absurd hopen (hnone i)
  | closed _ hst _ _ _ _ _ => exact hst

theorem recorded_previousState :
    (previousState (s.recorded thresholds result correlationId now).monitor.lastStatus).isDown =
      (nextState s thresholds result).isDown := by
  rw [recorded_lastStatus]
  exact previousState_isDown nextState_ne_down

/-- The start of an incident that a check opens. -/
theorem recorded_start (h : MonitorInvariant s) (hnow : s.clock < now) :
    firstAt (s.recorded thresholds result correlationId now).checks (·.status = .down)
      (s.recorded thresholds result correlationId now).monitor.consecutiveFailures now ≤ now := by
  refine firstAt_le fun c hc ↦ ?_
  obtain hc | hc := mem_append.1 hc
  · exact (h.checks_le c hc).trans hnow.le
  · rw [mem_singleton.1 hc]
    exact le_rfl

/-- An offline incident after a check: as before, or open, or closed by the check. -/
theorem recorded_row (h : MonitorInvariant s) (hnow : s.clock < now)
    (hi : IsOffline (s.recorded thresholds result correlationId now).incidents i) :
    (IsOffline s.incidents i ∧
      (s.recorded thresholds result correlationId now).incidents.row i = s.incidents.row i) ∨
    (((s.recorded thresholds result correlationId now).incidents.row i).startedAt ≤ now ∧
      ((s.recorded thresholds result correlationId now).incidents.row i).endedAt = none) ∨
    (result.ok = true ∧ s.monitor.isInMaintenance = false ∧
      ((s.recorded thresholds result correlationId now).incidents.row i).startedAt ≤ now ∧
      ((s.recorded thresholds result correlationId now).incidents.row i).endedAt = some now) := by
  cases hmaint : s.monitor.isInMaintenance with
  | true =>
    rw [recorded_incidents_of_maintenance hmaint] at hi ⊢
    exact .inl ⟨hi, rfl⟩
  | false =>
    have hchange := recorded_incidents thresholds result correlationId now hmaint
    obtain hrow | ⟨-, hstart, hend⟩ | ⟨hopen, hstart, hend⟩ := hchange.row hi
    · exact .inl hrow
    · exact .inr (.inl ⟨hstart ▸ recorded_start h hnow, hend⟩)
    · have hdown : (nextState s thresholds result).isDown = false := by
        refine Bool.eq_false_iff.2 fun hdown ↦ ?_
        cases hchange with
        | same hspares _ _ =>
          rw [hspares.rows i hopen.isOffline, hopen.2.2] at hend
          exact absurd hend (by simp)
        | opened _ _ hnone _ _ _ _ _ => exact hnone i hopen
        | closed _ hst _ _ _ _ _ => exact absurd (hdown.symm.trans hst) (by simp)
      exact .inr (.inr ⟨ok_of_closed hmaint hopen hdown, rfl,
        hstart ▸ (h.start_le i hopen.isOffline).trans hnow.le, hend⟩)

/-- The counted failures are later than the end of every incident. -/
theorem recorded_counts (h : MonitorInvariant s) (hnow : s.clock < now)
    (hi : IsOffline (s.recorded thresholds result correlationId now).incidents i) {e : DateTime}
    (he : ((s.recorded thresholds result correlationId now).incidents.row i).endedAt = some e) :
    CountsAfter (s.recorded thresholds result correlationId now).checks
      (s.recorded thresholds result correlationId now).monitor.consecutiveFailures e := by
  obtain ⟨hi, hrow⟩ | ⟨-, hend⟩ | ⟨hok, hmaint, -, hend⟩ := recorded_row h hnow hi
  · rw [hrow] at he
    exact (h.counts i hi e he).recorded ((h.ended i hi e he).2.trans_lt hnow)
  · exact absurd (hend.symm.trans he) (by simp)
  · refine .inl ?_
    rw [recorded_failures hmaint, hok]
    exact Nat.zero_le _

theorem recorded_disjoint (h : MonitorInvariant s) (hnow : s.clock < now) {j : ℕ}
    (hi : IsOffline (s.recorded thresholds result correlationId now).incidents i)
    (hj : IsOffline (s.recorded thresholds result correlationId now).incidents j) (hij : i ≠ j) :
    Disjoint ((s.recorded thresholds result correlationId now).incidents.row i).period
      ((s.recorded thresholds result correlationId now).incidents.row j).period := by
  cases hmaint : s.monitor.isInMaintenance with
  | true =>
    rw [recorded_incidents_of_maintenance hmaint] at hi hj ⊢
    exact h.disjoint i j hi hj hij
  | false =>
    refine (recorded_incidents _ _ _ _ hmaint).disjoint (fun k hk e he ↦ ?_) h.disjoint
      hi hj hij
    have hlt := (h.ended k hk e he).2.trans_lt hnow
    exact lt_firstAt ((h.counts k hk e he).recorded hlt) hlt

theorem MonitorInvariant.recorded (h : MonitorInvariant s) (hnow : s.clock < now) :
    MonitorInvariant (s.recorded thresholds result correlationId now) where
  checks_le c hc := by
    obtain hc | hc := mem_append.1 hc
    · exact (h.checks_le c hc).trans hnow.le
    · exact (mem_singleton.1 hc ▸ rfl : c.checkedAt = now).le
  sorted := by
    refine pairwise_append.2 ⟨h.sorted, pairwise_singleton _ _, fun c hc d hd ↦ ?_⟩
    rw [mem_singleton.1 hd]
    exact (h.checks_le c hc).trans_lt hnow
  oneOpen := recorded_oneOpen h.oneOpen
  start_le i hi := by
    obtain ⟨hi, hrow⟩ | ⟨hstart, -⟩ | ⟨-, -, hstart, -⟩ := recorded_row h hnow hi
    · exact (hrow ▸ h.start_le i hi).trans hnow.le
    · exact hstart
    · exact hstart
  ended i hi e he := by
    obtain ⟨hi, hrow⟩ | ⟨-, hend⟩ | ⟨-, -, hstart, hend⟩ := recorded_row h hnow hi
    · rw [hrow] at he ⊢
      exact ⟨(h.ended i hi e he).1, (h.ended i hi e he).2.trans hnow.le⟩
    · exact absurd (hend.symm.trans he) (by simp)
    · obtain rfl := Option.some.inj (hend.symm.trans he)
      exact ⟨hstart, le_rfl⟩
  disjoint _ _ := recorded_disjoint h hnow
  counts _ hi _ he := recorded_counts h hnow hi he
  down hdown := by
    rw [recorded_previousState] at hdown
    cases hmaint : s.monitor.isInMaintenance with
    | true =>
      rw [nextState_of_maintenance hmaint] at hdown
      exact absurd hdown (by decide)
    | false => exact (recorded_isDown h hmaint).2 hdown
  maintained hmaint := by
    rw [recorded_isInMaintenance] at hmaint
    rw [recorded_previousState, nextState_of_maintenance hmaint]
    rfl

end Record

/-! ### The other events -/

theorem MonitorInvariant.toggle (h : MonitorInvariant s) :
    MonitorInvariant { s with monitor := s.monitor.toggle } := by
  have hstat : (previousState s.monitor.toggle.lastStatus).isDown = false := by
    simp only [NetworkMonitor.toggle]
    split
    · rfl
    · rfl
  exact { h with
    counts := fun _ _ _ _ ↦ .inl (Nat.zero_le _)
    down := fun hdown ↦ absurd (hdown.symm.trans hstat) (by simp)
    maintained := fun _ ↦ hstat }

theorem updateSettings_eq_ok {monitor' : NetworkMonitor}
    (h : monitor.updateSettings maintenanceMode useDefaults values = .ok monitor') :
    monitor'.isInMaintenance = maintenanceMode ∧
    monitor'.consecutiveFailures = monitor.consecutiveFailures ∧
    monitor'.lastStatus = if maintenanceMode then some .maintenance
      else if monitor.lastStatus = some .maintenance then some .unknown
      else monitor.lastStatus := by
  rw [NetworkMonitor.updateSettings, bind_eq_ok] at h
  obtain ⟨values', -, h⟩ := h
  obtain rfl := pure_eq_ok.1 h
  exact ⟨rfl, rfl, rfl⟩

theorem MonitorInvariant.settings (h : MonitorInvariant s)
    (hmon : s.monitor.updateSettings maintenanceMode useDefaults values = .ok monitor) :
    MonitorInvariant { s with monitor } := by
  obtain ⟨hmaint, hfailures, hstat⟩ := updateSettings_eq_ok hmon
  exact { h with
    counts := fun i hi e he ↦ hfailures ▸ h.counts i hi e he
    down := by
      intro hdown
      simp only [hstat] at hdown
      split at hdown
      · exact absurd hdown (by decide)
      · split at hdown
        · exact absurd hdown (by decide)
        · exact h.down hdown
    maintained := by
      intro htrue
      rw [hstat, if_pos (hmaint ▸ htrue)]
      rfl }

theorem MonitorInvariant.retain (h : MonitorInvariant s) (count : ℕ) :
    MonitorInvariant { s with checks := s.checks.drop count } :=
  { h with
    checks_le := fun c hc ↦ h.checks_le c (mem_of_mem_drop hc)
    sorted := h.sorted.sublist (drop_sublist _ _)
    counts := fun i hi e he ↦ (h.counts i hi e he).drop h.sorted count }

theorem MonitorInvariant.step (h : MonitorInvariant s) (e : MonitorEvent) :
    MonitorInvariant (monitorStep s e) := by
  cases e with
  | record elapsed defaults result correlationId =>
    simp only [monitorStep]
    split
    · split
      next t ht =>
        obtain ⟨thresholds, -, rfl⟩ := recordMonitorResult_eq_ok ht
        exact h.recorded (clock_lt_after s elapsed)
      · exact h
    · exact h
  | settings maintenanceMode useDefaults values =>
    simp only [monitorStep]
    split
    next monitor hmon => exact h.settings hmon
    · exact h
  | toggle => exact h.toggle
  | retain count => exact h.retain count
  | deliver outbox => exact { h with }

theorem monitorInvariant (h : monitorMachine.Reachable s) : MonitorInvariant s :=
  Machine.Reachable.invariant (fun _ ↦ MonitorInitial.invariant) (fun _ e h ↦ h.step e) h

/-! ### The rules -/

/-- An event opens an offline incident. -/
def opens (s : Monitoring) (e : MonitorEvent) (i : ℕ) : Prop :=
  ¬ IsOpen s.incidents .offline i ∧ IsOpen (monitorStep s e).incidents .offline i

/-- An event closes an offline incident. -/
def closes (s : Monitoring) (e : MonitorEvent) (i : ℕ) : Prop :=
  IsOpen s.incidents .offline i ∧ ¬ IsOpen (monitorStep s e).incidents .offline i

/-- The rules of the incidents of a monitor. -/
structure IncidentRules (s : Monitoring) : Prop where
  /-- At most one incident of a kind is open. -/
  oneOpen : ∀ kind, OneOpen s.incidents kind
  /-- No incident ends before it starts. -/
  ordered : ∀ i, IsOffline s.incidents i → ∀ e ∈ (s.incidents.row i).endedAt,
    (s.incidents.row i).startedAt ≤ e
  /-- The offline incidents are disjoint in time. -/
  disjoint : ∀ i j, IsOffline s.incidents i → IsOffline s.incidents j → i ≠ j →
    Disjoint (s.incidents.row i).period (s.incidents.row j).period
  /-- An offline incident opens at a check, for enough failures since the last success. -/
  opened : ∀ e i, opens s e i → ∃ elapsed defaults result correlationId thresholds,
    e = .record elapsed defaults result correlationId ∧
    effectiveMonitorThresholds defaults s.monitor = .ok thresholds ∧
    thresholds.failureThreshold ≤ ((monitorStep s e).failures : ℤ)
  /-- It closes at a successful check. -/
  closed : ∀ e i, closes s e i → ∃ elapsed defaults result correlationId,
    e = .record elapsed defaults result correlationId ∧ result.ok = true
  /-- After a check outside maintenance, the monitor is offline or recovering exactly where an
  offline incident is open. -/
  status : ∀ elapsed defaults result correlationId t,
    recordMonitorResult s defaults result correlationId (s.after elapsed) = .ok t →
    s.monitor.isInMaintenance = false →
    (t.monitor.lastStatus.any (·.isDown) = true ↔ ∃ i, IsOpen t.incidents .offline i)

/-- A success in maintenance leaves no failures counted. -/
def steady (s : Monitoring) : MonitorEvent → Bool
  | .record _ _ result _ =>
    !(result.ok && s.monitor.isInMaintenance) || s.monitor.consecutiveFailures = 0
  | _ => true

/-- The monitor counts no more failures than there have been since the last success. -/
def CountsNoMore (s : Monitoring) : Prop := s.monitor.consecutiveFailures ≤ s.failures

theorem MonitorInitial.countsNoMore (h : MonitorInitial s) : CountsNoMore s :=
  h.failures.le.trans (Nat.zero_le _)

/-- A check counts a failure on both sides, and a success on neither. -/
theorem CountsNoMore.step (h : CountsNoMore s) (he : steady s e = true) :
    CountsNoMore (monitorStep s e) := by
  cases e with
  | record elapsed defaults result correlationId =>
    simp only [monitorStep]
    split
    · split
      next t ht =>
        obtain ⟨thresholds, -, rfl⟩ := recordMonitorResult_eq_ok ht
        have hfailures : (s.recorded thresholds result correlationId (s.after elapsed)).failures =
          if result.ok then 0 else s.failures + 1 := rfl
        rw [CountsNoMore, hfailures]
        cases hmaint : s.monitor.isInMaintenance with
        | true =>
          rw [recorded_failures_of_maintenance hmaint]
          cases hok : result.ok with
          | true =>
            simp only [steady, hok, hmaint, Bool.and_self, Bool.not_true, Bool.false_or,
              decide_eq_true_eq] at he
            exact he.le
          | false => exact h.trans (Nat.le_succ _)
        | false =>
          rw [recorded_failures hmaint]
          split
          · exact le_rfl
          · exact Nat.succ_le_succ h
      · exact h
    · exact h
  | settings maintenanceMode useDefaults values =>
    simp only [monitorStep]
    split
    next monitor hmon =>
      exact ((updateSettings_eq_ok hmon).2.1.le.trans h :
        monitor.consecutiveFailures ≤ s.failures)
    · exact h
  | toggle => exact Nat.zero_le _
  | retain count => exact h
  | deliver outbox => exact h

/-- Only checks change which offline incidents are open. -/
theorem monitorStep_incidents
    (h : ¬ (IsOpen (monitorStep s e).incidents .offline i ↔ IsOpen s.incidents .offline i)) :
    ∃ elapsed defaults result correlationId thresholds,
      e = .record elapsed defaults result correlationId ∧
      effectiveMonitorThresholds defaults s.monitor = .ok thresholds ∧
      monitorStep s e = s.recorded thresholds result correlationId (s.after elapsed) ∧
      s.monitor.isInMaintenance = false := by
  cases e with
  | record elapsed defaults result correlationId =>
    simp only [monitorStep] at h ⊢
    split at h
    next hfresh =>
      split at h
      next t ht =>
        obtain ⟨thresholds, hthres, rfl⟩ := recordMonitorResult_eq_ok ht
        refine ⟨elapsed, defaults, result, correlationId, thresholds, rfl, hthres, ?_, ?_⟩
        · exact if_pos hfresh
        · refine Bool.eq_false_iff.2 fun hmaint ↦ h ?_
          rw [recorded_incidents_of_maintenance hmaint]
      · exact absurd Iff.rfl h
    · exact absurd Iff.rfl h
  | settings maintenanceMode useDefaults values =>
    simp only [monitorStep] at h
    split at h
    · exact absurd Iff.rfl h
    · exact absurd Iff.rfl h
  | _ => exact absurd Iff.rfl h

theorem MonitorInvariant.opened (h : MonitorInvariant s) (hcount : CountsNoMore s)
    (hopens : opens s e i) :
    ∃ elapsed defaults result correlationId thresholds,
      e = .record elapsed defaults result correlationId ∧
      effectiveMonitorThresholds defaults s.monitor = .ok thresholds ∧
      thresholds.failureThreshold ≤ ((monitorStep s e).failures : ℤ) := by
  obtain ⟨elapsed, defaults, result, correlationId, thresholds, rfl, hthres, hstep,
    hmaint⟩ := monitorStep_incidents fun h ↦ hopens.1 (h.1 hopens.2)
  refine ⟨elapsed, defaults, result, correlationId, thresholds, rfl, hthres, ?_⟩
  obtain ⟨hclosed, hopen⟩ := hopens
  rw [hstep] at hopen ⊢
  obtain ⟨hok, hle⟩ := failureThreshold_le h hmaint
    (none_of_opened hmaint hclosed hopen) ((recorded_isDown h hmaint).1 ⟨i, hopen⟩)
  have hfailures : (s.recorded thresholds result correlationId (s.after elapsed)).failures =
      if result.ok then 0 else s.failures + 1 := rfl
  rw [hfailures, hok]
  exact hle.trans (Int.ofNat_le.2 (Nat.succ_le_succ hcount))

theorem ok_of_closes (hcloses : closes s e i) :
    ∃ elapsed defaults result correlationId,
      e = .record elapsed defaults result correlationId ∧ result.ok = true := by
  obtain ⟨elapsed, defaults, result, correlationId, thresholds, rfl, -, hstep, hmaint⟩ :=
    monitorStep_incidents fun h ↦ hcloses.2 (h.2 hcloses.1)
  refine ⟨elapsed, defaults, result, correlationId, rfl, ?_⟩
  obtain ⟨hopen, hclosed⟩ := hcloses
  rw [hstep] at hclosed
  exact ok_of_closed hmaint hopen (isDown_of_closed hmaint hopen hclosed)

/-- **The rules of the incidents**, in every state of a steady run. -/
theorem incident_rules (h : monitorMachine.ReachableBy (steady · · = true) s) :
    IncidentRules s := by
  have hinv := monitorInvariant h.reachable
  have hcount : CountsNoMore s :=
    Machine.ReachableBy.invariant (P := CountsNoMore) (fun _ ↦ MonitorInitial.countsNoMore)
      (fun _ _ hs he ↦ hs.step he) h
  exact {
    oneOpen := hinv.oneOpen
    ordered := fun i hi e he ↦ (hinv.ended i hi e he).1
    disjoint := hinv.disjoint
    opened := fun _ _ hopens ↦ hinv.opened hcount hopens
    closed := fun _ _ hcloses ↦ ok_of_closes hcloses
    status := by
      intro elapsed defaults result correlationId t ht hmaint
      obtain ⟨thresholds, -, rfl⟩ := recordMonitorResult_eq_ok ht
      rw [recorded_lastStatus, Option.any_some]
      exact (recorded_isDown hinv hmaint).symm }

/-! ### Examples -/

/-- A monitor that has not been checked. -/
def unchecked : Monitoring where
  clock := 0
  monitor := { id := 1 }
  checks := []
  incidents := { ids := [], row := fun _ ↦ { startedAt := 0 }, nodup := List.nodup_nil }
  outbox :=
    { ids := []
      row := fun _ ↦ { request := offlineRequest 1, createdAt := 0 }
      nodup := List.nodup_nil }
  failures := 0

theorem unchecked_init : MonitorInitial unchecked := ⟨rfl, rfl, rfl, rfl⟩

/-- A check with a result, a minute later. -/
def pinged (ok : Bool) (correlationId : String) : MonitorEvent :=
  .record 59999999 {} { ok } correlationId

/-- The maintenance mode of the monitor is set. -/
def maintained (maintenanceMode : Bool) : MonitorEvent := .settings maintenanceMode true {}

/-- Three failures, a maintenance window with a failure, and three successes. -/
def incidentInMaintenance : List MonitorEvent :=
  [pinged false "a", pinged false "b", pinged false "c", maintained true, pinged false "d",
    maintained false, pinged true "e", pinged true "f", pinged true "g"]

theorem incident_rules_example :
    IncidentRules (monitorMachine.run unchecked incidentInMaintenance) :=
  incident_rules (.run (.start unchecked_init) (by decide +kernel))

/-- Two failures and a success in maintenance. -/
def successInMaintenance : List MonitorEvent :=
  [pinged false "a", pinged false "b", maintained true, pinged true "c", maintained false]

/-- The next failure is the first since the success, and the third that the monitor counts. -/
theorem opened_by_one_failure : ¬ ∀ s, monitorMachine.Reachable s → IncidentRules s := by
  intro hrules
  have hreach : monitorMachine.Reachable (monitorMachine.run unchecked successInMaintenance) :=
    Machine.Reachable.run _ (.start unchecked_init)
  obtain ⟨elapsed, defaults, result, correlationId, thresholds, he, hthres, hle⟩ :=
    (hrules _ hreach).opened (pinged false "d") 1
      ⟨by decide +kernel, by decide +kernel⟩
  obtain ⟨rfl, rfl, rfl, rfl⟩ := MonitorEvent.record.inj he
  have hdefault : effectiveMonitorThresholds {}
      (monitorMachine.run unchecked successInMaintenance).monitor = .ok {} := by rfl
  obtain rfl := Except.ok.inj (hdefault.symm.trans hthres)
  exact absurd hle (by decide +kernel)

end Kaya.Monitor
