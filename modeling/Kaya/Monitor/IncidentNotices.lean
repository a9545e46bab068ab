import Kaya.Monitor.IncidentRuns

/-!
# The notifications of a monitor

Incidents follow the open incident, notifications the last status, and an operator may overwrite the
status while the incident stays open. What opens an incident still notifies, and a recovered
notification still closes one; but the check that closes an incident notifies only where the status
says that the monitor was offline or recovering. A check that closes without it is `closesSilently`,
and the two agree exactly at the other checks (`notices_agree_iff`).
-/

namespace Kaya.Monitor

open Kaya.HA (DateTime)
open Kaya.Notifications (NotificationOutbox OutboxRequest)

variable {s : Monitoring} {thresholds defaults : Thresholds} {result : PingResult}
  {correlationId : String} {now : DateTime}

/-! ### The outbox -/

section Outbox

variable {outbox : Table NotificationOutbox} {request : OutboxRequest} {k : ℕ}

/-- After `enqueue_notification`, a row of the request waits. -/
theorem exists_duplicates (hkey : request.deduplicationKey.isSome = true) :
    ∃ k ∈ (enqueueNotification outbox request now).ids,
      duplicates request ((enqueueNotification outbox request now).row k) = true := by
  rw [enqueueNotification]
  split
  next hpend =>
    rw [hkey, Bool.true_and, Table.exists?, List.any_eq_true] at hpend
    exact hpend
  next hpend =>
    refine ⟨outbox.freshKey, ?_, ?_⟩
    · simp
    · rw [Table.insert_row_fresh]
      simp [duplicates, isPending]

/-- A row of the request is inserted where none waits. -/
theorem enqueueNotification_of_fresh (h : outbox.exists? (duplicates request) = false) :
    enqueueNotification outbox request now = outbox.insert { request, createdAt := now } := by
  rw [enqueueNotification, h, Bool.and_false, if_neg Bool.false_ne_true]

/-- What is enqueued is a row of the request. -/
theorem request_of_enqueued (hk : k ∈ (enqueueNotification outbox request now).ids)
    (hnew : k ∉ outbox.ids) :
    ((enqueueNotification outbox request now).row k).request = request := by
  rw [enqueueNotification] at hk ⊢
  split at hk
  · exact absurd hk hnew
  next hpend =>
    rw [if_neg hpend]
    rw [Table.insert_ids, List.mem_append, List.mem_singleton] at hk
    obtain rfl := hk.resolve_left hnew
    rw [Table.insert_row_fresh]

theorem mem_insert_iff {row : NotificationOutbox} :
    k ∈ (outbox.insert row).ids ∧ k ∉ outbox.ids ↔ k = outbox.freshKey := by
  rw [Table.insert_ids, List.mem_append, List.mem_singleton]
  refine ⟨fun ⟨hk, hnew⟩ ↦ hk.resolve_left hnew, ?_⟩
  rintro rfl
  exact ⟨.inr rfl, fun hmem ↦ outbox.ne_freshKey hmem rfl⟩

end Outbox

/-! ### What a check enqueues -/

/-- The event adds the row. -/
def enqueues (s : Monitoring) (e : MonitorEvent) (k : ℕ) : Prop :=
  k ∈ (monitorStep s e).outbox.ids ∧ k ∉ s.outbox.ids

/-- The notification is a recovery. -/
def isRecovered (request : OutboxRequest) : Prop := request.eventType = "ipwan.host.recovered"

/-- The incidents and the notifications of an event agree. -/
structure NoticesAgree (s : Monitoring) (e : MonitorEvent) : Prop where
  /-- Where an offline incident opens, a notification of it waits. -/
  opened : (∃ i, opens s e i) → ∃ k ∈ (monitorStep s e).outbox.ids,
    duplicates (offlineRequest s.monitor.id) ((monitorStep s e).outbox.row k) = true
  /-- Where one closes, exactly one recovery is enqueued, which resolves the offline key. -/
  closed : (∃ i, closes s e i) → ∃ k,
    (∀ j, enqueues s e j ∧ isRecovered ((monitorStep s e).outbox.row j).request ↔ j = k) ∧
    ((monitorStep s e).outbox.row k).request.resolveDeduplicationKey =
      some (offlineKey s.monitor.id)
  /-- A recovery is only enqueued where one closes. -/
  recovered : (∃ k, enqueues s e k ∧ isRecovered ((monitorStep s e).outbox.row k).request) →
    ∃ i, closes s e i

/-- The check closes the offline incident of a monitor whose status says nothing of it. -/
def closesSilently (s : Monitoring) (defaults : Thresholds) (result : PingResult) : Bool :=
  result.ok && !s.monitor.isInMaintenance && (openIncident s.incidents .offline).isSome &&
    !(previousState s.monitor.lastStatus).isDown &&
    (effectiveMonitorThresholds defaults s.monitor).toOption.any fun thresholds ↦
      thresholds.recoveryThreshold ≤ ((s.monitor.consecutiveSuccesses + 1 : ℕ) : ℤ)

theorem recorded_outbox :
    (s.recorded thresholds result correlationId now).outbox =
      if s.monitor.lastStatus ≠ some (nextState s thresholds result) then
        notify s.outbox s.monitor.id (previousState s.monitor.lastStatus)
          (nextState s thresholds result) correlationId now
      else s.outbox :=
  rfl

/-- A monitor that is no longer offline or recovering has changed its status. -/
theorem lastStatus_ne (hprev : (previousState s.monitor.lastStatus).isDown = true)
    (hdown : (nextState s thresholds result).isDown = false) :
    s.monitor.lastStatus ≠ some (nextState s thresholds result) := by
  intro hstat
  rw [hstat, previousState_isDown nextState_ne_down] at hprev
  exact absurd (hprev.symm.trans hdown) (by simp)

theorem duplicates_of_isFresh (hfresh : isFresh s correlationId = true) :
    s.outbox.exists? (duplicates (recoveredRequest s.monitor.id correlationId)) = false := by
  rw [isFresh, Bool.not_eq_true', Table.exists?_eq_false] at hfresh
  refine (Table.exists?_eq_false _).2 fun k hk ↦ decide_eq_false fun hduplicate ↦ ?_
  exact of_decide_eq_false (hfresh k hk) hduplicate.2.1

/-- The recovery of a monitor that was offline or recovering. -/
theorem recorded_outbox_of_recovered (now : DateTime) (hfresh : isFresh s correlationId = true)
    (hprev : (previousState s.monitor.lastStatus).isDown = true)
    (hdown : (nextState s thresholds result).isDown = false) :
    (s.recorded thresholds result correlationId now).outbox = s.outbox.insert
      { request := recoveredRequest s.monitor.id correlationId, createdAt := now } := by
  have hoffline : nextState s thresholds result ≠ .offline := by
    intro hoffline
    exact absurd (hdown.symm.trans (hoffline ▸ rfl)) Bool.false_ne_true
  rw [recorded_outbox, if_pos (lastStatus_ne hprev hdown), notify, if_neg hoffline,
    if_pos (by simp [hprev, hdown])]
  exact enqueueNotification_of_fresh (duplicates_of_isFresh hfresh)

/-- Without one, no recovery is enqueued. -/
theorem isDown_of_recovered {k : ℕ}
    (hk : k ∈ (s.recorded thresholds result correlationId now).outbox.ids) (hnew : k ∉ s.outbox.ids)
    (hrecov :
      isRecovered ((s.recorded thresholds result correlationId now).outbox.row k).request) :
    (previousState s.monitor.lastStatus).isDown = true ∧
      (nextState s thresholds result).isDown = false := by
  rw [recorded_outbox] at hk hrecov
  split at hk
  next hchg =>
    rw [if_pos hchg] at hrecov
    rw [notify] at hk hrecov
    split at hk
    next hoffline =>
      rw [if_pos hoffline, request_of_enqueued hk hnew] at hrecov
      exact absurd hrecov (by simp [isRecovered, offlineRequest])
    · split at hk
      next hdown => simpa using hdown
      · exact absurd hk hnew
  · exact absurd hk hnew

/-! ### Agreement -/

theorem monitorStep_of_error {elapsed : ℕ} {error : String}
    (h : effectiveMonitorThresholds defaults s.monitor = .error error) :
    monitorStep s (.record elapsed defaults result correlationId) = s := by
  have herror : recordMonitorResult s defaults result correlationId (s.after elapsed) =
      .error error := by
    rw [recordMonitorResult, h]
    rfl
  simp only [monitorStep, herror, ite_self]

theorem monitorStep_of_ok (elapsed : ℕ) (result : PingResult)
    (hfresh : isFresh s correlationId = true)
    (h : effectiveMonitorThresholds defaults s.monitor = .ok thresholds) :
    monitorStep s (.record elapsed defaults result correlationId) =
      s.recorded thresholds result correlationId (s.after elapsed) := by
  have hok : recordMonitorResult s defaults result correlationId (s.after elapsed) =
      .ok (s.recorded thresholds result correlationId (s.after elapsed)) := by
    rw [recordMonitorResult, h]
    rfl
  simp only [monitorStep, hok, if_pos hfresh]

/-- A step that does nothing. -/
theorem NoticesAgree.of_eq {e : MonitorEvent} (h : monitorStep s e = s) : NoticesAgree s e where
  opened := fun ⟨_, hclosed, hopen⟩ ↦ absurd (h ▸ hopen) hclosed
  closed := fun ⟨_, hopen, hclosed⟩ ↦ absurd (h.symm ▸ hopen) hclosed
  recovered := fun ⟨_, ⟨hk, hnew⟩, _⟩ ↦ absurd (h ▸ hk) hnew

/-- When a check closes the offline incident. -/
theorem exists_closed (h : MonitorInvariant s) (thresholds : Thresholds) (result : PingResult)
    (correlationId : String) (now : DateTime) :
    (∃ i, IsOpen s.incidents .offline i ∧
      ¬ IsOpen (s.recorded thresholds result correlationId now).incidents .offline i) ↔
    s.monitor.isInMaintenance = false ∧ (openIncident s.incidents .offline).isSome = true ∧
      (nextState s thresholds result).isDown = false := by
  constructor
  · rintro ⟨i, hopen, hclosed⟩
    have hmaint : s.monitor.isInMaintenance = false := by
      refine Bool.eq_false_iff.2 fun hmaint ↦ hclosed ?_
      rwa [recorded_incidents_of_maintenance hmaint]
    exact ⟨hmaint, openIncident_isSome.2 ⟨i, hopen⟩, isDown_of_closed hmaint hopen hclosed⟩
  · rintro ⟨hmaint, hsome, hdown⟩
    obtain ⟨i, hopen⟩ := openIncident_isSome.1 hsome
    refine ⟨i, hopen, fun hopen' ↦ ?_⟩
    have htrue := (recorded_isDown h hmaint).1 ⟨i, hopen'⟩
    exact absurd (hdown.symm.trans htrue) Bool.false_ne_true

/-- What opens an incident notifies. -/
theorem exists_offline (h : MonitorInvariant s) {i : ℕ} (hclosed : ¬ IsOpen s.incidents .offline i)
    (hopen : IsOpen (s.recorded thresholds result correlationId now).incidents .offline i) :
    ∃ k ∈ (s.recorded thresholds result correlationId now).outbox.ids,
      duplicates (offlineRequest s.monitor.id)
        ((s.recorded thresholds result correlationId now).outbox.row k) = true := by
  have hmaint : s.monitor.isInMaintenance = false := by
    refine Bool.eq_false_iff.2 fun hmaint ↦ hclosed ?_
    rwa [recorded_incidents_of_maintenance hmaint] at hopen
  have hnone := none_of_opened hmaint hclosed hopen
  have hoffline : nextState s thresholds result = .offline :=
    nextState_offline h hmaint hnone ((recorded_isDown h hmaint).1 ⟨i, hopen⟩)
  have hchg : s.monitor.lastStatus ≠ some (nextState s thresholds result) := by
    intro hstat
    exact (h.down (by rw [hstat, hoffline]; rfl)).elim hnone
  rw [recorded_outbox, if_pos hchg, notify, if_pos hoffline]
  exact exists_duplicates rfl

/-- The success that ends the recovery of an open incident. -/
theorem recoveryThreshold_le (hmaint : s.monitor.isInMaintenance = false)
    (hsome : (openIncident s.incidents .offline).isSome = true) :
    (nextState s thresholds result).isDown = false ↔ result.ok = true ∧
      thresholds.recoveryThreshold ≤ ((s.monitor.consecutiveSuccesses + 1 : ℕ) : ℤ) := by
  obtain ⟨i, hopen⟩ := openIncident_isSome.1 hsome
  rw [← Bool.not_eq_true, nextState]
  cases result.ok with
  | true =>
    rw [assess_isDown_of_ok hmaint, isRecovering_of_isOpen hopen]
    simp
  | false =>
    rw [assess_isDown_of_failed hmaint, isRecovering_of_isOpen hopen]
    simp

theorem closesSilently_iff (h : effectiveMonitorThresholds defaults s.monitor = .ok thresholds) :
    closesSilently s defaults result = true ↔
      (s.monitor.isInMaintenance = false ∧ (openIncident s.incidents .offline).isSome = true ∧
        (nextState s thresholds result).isDown = false) ∧
      (previousState s.monitor.lastStatus).isDown = false := by
  have hany : ((effectiveMonitorThresholds defaults s.monitor).toOption.any fun thresholds ↦
      decide (thresholds.recoveryThreshold ≤ ((s.monitor.consecutiveSuccesses + 1 : ℕ) : ℤ))) =
      decide (thresholds.recoveryThreshold ≤ ((s.monitor.consecutiveSuccesses + 1 : ℕ) : ℤ)) := by
    rw [h]
    rfl
  rw [closesSilently, hany]
  simp only [Bool.and_eq_true, Bool.not_eq_true', decide_eq_true_eq]
  constructor
  · rintro ⟨⟨⟨⟨hok, hmaint⟩, hsome⟩, hprev⟩, hle⟩
    exact ⟨⟨hmaint, hsome, (recoveryThreshold_le hmaint hsome).2 ⟨hok, hle⟩⟩, hprev⟩
  · rintro ⟨⟨hmaint, hsome, hdown⟩, hprev⟩
    obtain ⟨hok, hle⟩ := (recoveryThreshold_le hmaint hsome).1 hdown
    exact ⟨⟨⟨⟨hok, hmaint⟩, hsome⟩, hprev⟩, hle⟩

/-- **Incidents and notifications agree** at a check exactly where it does not close silently. -/
theorem notices_agree_iff (h : monitorMachine.Reachable s) (elapsed : ℕ) (defaults : Thresholds)
    (result : PingResult) {correlationId : String} (hfresh : isFresh s correlationId = true) :
    NoticesAgree s (.record elapsed defaults result correlationId) ↔
      closesSilently s defaults result = false := by
  have hinv := monitorInvariant h
  cases hthres : effectiveMonitorThresholds defaults s.monitor with
  | error error =>
    refine iff_of_true (.of_eq (monitorStep_of_error hthres)) ?_
    rw [closesSilently, hthres]
    exact Bool.and_false _
  | ok thresholds =>
    have hstep := monitorStep_of_ok elapsed result hfresh hthres
    have hcloses := exists_closed hinv thresholds result correlationId (s.after elapsed)
    constructor
    · intro hagree
      refine Bool.eq_false_iff.2 fun hsilent ↦ ?_
      obtain ⟨hclosed, hprev⟩ := (closesSilently_iff hthres).1 hsilent
      obtain ⟨i, hi⟩ := hcloses.2 hclosed
      obtain ⟨k, hk, -⟩ := hagree.closed ⟨i, by rw [closes, hstep]; exact hi⟩
      obtain ⟨⟨hmem, hnew⟩, hrecov⟩ := (hk k).2 rfl
      rw [hstep] at hmem hrecov
      have htrue := (isDown_of_recovered hmem hnew hrecov).1
      exact absurd (hprev.symm.trans htrue) Bool.false_ne_true
    · intro hsilent
      constructor
      case opened =>
        rintro ⟨i, hclosed, hopen⟩
        rw [hstep] at hopen ⊢
        exact exists_offline hinv hclosed hopen
      case closed =>
        rintro ⟨i, hi⟩
        rw [closes, hstep] at hi
        have hclosed := hcloses.1 ⟨i, hi⟩
        have hprev : (previousState s.monitor.lastStatus).isDown = true := by
          by_contra hprev
          have hprev := Bool.eq_false_iff.2 hprev
          have htrue := (closesSilently_iff hthres).2 ⟨hclosed, hprev⟩
          exact absurd (hsilent.symm.trans htrue) Bool.false_ne_true
        have houtbox := recorded_outbox_of_recovered (s.after elapsed) hfresh hprev
          hclosed.2.2
        refine ⟨s.outbox.freshKey, fun j ↦ ?_, ?_⟩
        · rw [enqueues, hstep, houtbox, mem_insert_iff]
          refine and_iff_left_of_imp ?_
          rintro rfl
          rw [Table.insert_row_fresh]
          exact rfl
        · rw [hstep, houtbox, Table.insert_row_fresh]
          rfl
      case recovered =>
        rintro ⟨k, ⟨hmem, hnew⟩, hrecov⟩
        rw [hstep] at hmem hrecov
        obtain ⟨hprev, hdown⟩ := isDown_of_recovered hmem hnew hrecov
        have hmaint : s.monitor.isInMaintenance = false := by
          refine Bool.eq_false_iff.2 fun hmaint ↦ ?_
          have hfalse := hinv.maintained hmaint
          exact absurd (hfalse.symm.trans hprev) Bool.false_ne_true
        obtain ⟨i, hi⟩ := hcloses.2
          ⟨hmaint, openIncident_isSome.2 (hinv.down hprev), hdown⟩
        exact ⟨i, by rw [closes, hstep]; exact hi⟩

/-! ### Examples -/

/-- An offline monitor whose operator begins and ends a maintenance window. -/
def offlineThroughMaintenance : List MonitorEvent :=
  [.record 59999999 {} { ok := false } "a", .settings false false { recoveryThreshold := 1 },
    .record 59999999 {} { ok := false } "b", .record 59999999 {} { ok := false } "c",
    maintained true, .settings false false { recoveryThreshold := 1 }]

theorem notices_agree_iff_example :
    NoticesAgree (monitorMachine.run unchecked incidentInMaintenance.dropLast) (pinged true "g") :=
  (notices_agree_iff (Machine.Reachable.run _ (.start unchecked_init)) 59999999 {} { ok := true }
    (by decide +kernel)).2 (by decide +kernel)

/-- The first success after the window closes the incident, and nobody is told. -/
theorem closed_silently : ¬ ∀ s elapsed defaults result correlationId, monitorMachine.Reachable s →
    isFresh s correlationId = true →
    NoticesAgree s (.record elapsed defaults result correlationId) := by
  intro hagree
  have hreach : monitorMachine.Reachable
      (monitorMachine.run unchecked offlineThroughMaintenance) :=
    Machine.Reachable.run _ (.start unchecked_init)
  have hrecovery := (hagree _ 59999999 {} { ok := true } "d" hreach (by decide +kernel)).closed
    ⟨1, by decide +kernel, by decide +kernel⟩
  obtain ⟨k, hk, -⟩ := hrecovery
  obtain ⟨⟨hmem, hnew⟩, -⟩ := (hk k).2 rfl
  have hids : (monitorStep (monitorMachine.run unchecked offlineThroughMaintenance)
      (pinged true "d")).outbox.ids =
      (monitorMachine.run unchecked offlineThroughMaintenance).outbox.ids := by decide +kernel
  exact hnew (hids ▸ hmem)

end Kaya.Monitor
