import Kaya.Monitor.Model

/-!
# Monitors that are due

`fallback_due_monitors` asks the database for the first `scanLimit` enabled monitors in the order of
their last checks, drops those that are not due, and returns `batchLimit` at most. SQLite has
the monitors that were never checked first and PostgreSQL has them last, and both order equal times
as they like: `IsOrdered`.

Whether a monitor is due depends on its own interval, which the order does not see. So the monitors
that are due may all come after those that are not (`servesDue_iff`); they do not where a dashboard
gives one interval to all, on SQLite (`servesDue_of_dashboard`).
-/

namespace Kaya.Monitor

open List
open Kaya.HA (DateTime)

/-! ### The scan -/

/-- A `NetworkMonitor` with its interval. -/
structure ScheduledMonitor extends NetworkMonitor where
  intervalSeconds : ℤ := 300

/-- `clamp_interval`. -/
def clampInterval (value : ℤ) : ℤ := min (max value 5) 86400

/-- `DASHBOARD_INTERVALS`. -/
inductive DashboardMode
  | live
  | five
  | ten
  | sixty

/-- The interval of a mode. -/
def DashboardMode.interval : DashboardMode → ℤ
  | live => 1
  | five => 5
  | ten => 10
  | sixty => 60

/-- An entry of `_dashboard_interval_leases`. -/
structure DashboardLease where
  mode : DashboardMode
  expiresAt : DateTime

/-- `active_dashboard_interval`. -/
def activeDashboardInterval (leases : List DashboardLease) (now : DateTime) : Option ℤ :=
  ((leases.filter fun lease ↦ now < lease.expiresAt).map (·.mode.interval)).min?

/-- The interval of a monitor. That of a dashboard is never zero. -/
def intervalOf (dashboardInterval : Option ℤ) (monitor : ScheduledMonitor) : ℤ :=
  dashboardInterval.getD (clampInterval monitor.intervalSeconds)

/-- The monitor is due. -/
def isDue (dashboardInterval : Option ℤ) (now : DateTime) (monitor : ScheduledMonitor) : Bool :=
  monitor.lastCheckedAt.all fun checked ↦
    checked ≤ now - intervalOf dashboardInterval monitor * 1000000

/-- Where a database has NULL. -/
inductive NullOrder
  | first
  | last
  deriving DecidableEq

/-- `ORDER BY last_checked_at ASC`. -/
def NullOrder.le (nulls : NullOrder) : Option DateTime → Option DateTime → Prop
  | none, none => True
  | none, some _ => nulls = .first
  | some _, none => nulls = .last
  | some t, some t' => t ≤ t'

instance NullOrder.decidableLe (nulls : NullOrder) :
    ∀ t t' : Option DateTime, Decidable (nulls.le t t')
  | none, none => .isTrue trivial
  | none, some _ => inferInstanceAs (Decidable (nulls = .first))
  | some _, none => inferInstanceAs (Decidable (nulls = .last))
  | some t, some t' => inferInstanceAs (Decidable (t ≤ t'))

/-- The enabled monitors as a database returns them. -/
structure IsOrdered (nulls : NullOrder) (monitors rows : List ScheduledMonitor) : Prop where
  perm : rows.Perm (monitors.filter (·.isEnabled))
  sorted : rows.Pairwise fun a b ↦ nulls.le a.lastCheckedAt b.lastCheckedAt

/-- `.limit(250)`. -/
def scanLimit : ℕ := 250

/-- `[:25]`. -/
def batchLimit : ℕ := 25

/-- `fallback_due_monitors`, for the rows in the order of the database. -/
def fallbackDueMonitors (dashboardInterval : Option ℤ) (now : DateTime)
    (rows : List ScheduledMonitor) : List ScheduledMonitor :=
  ((rows.take scanLimit).filter (isDue dashboardInterval now)).take batchLimit

/-! ### What it returns -/

variable {nulls : NullOrder} {monitors rows : List ScheduledMonitor}
  {dashboardInterval : Option ℤ} {now : DateTime}

/-- The enabled monitors that are due. -/
def dueMonitors (dashboardInterval : Option ℤ) (now : DateTime)
    (monitors : List ScheduledMonitor) : List ScheduledMonitor :=
  (monitors.filter (·.isEnabled)).filter (isDue dashboardInterval now)

/-- Only monitors that are due are returned, and as many of them as there may be. -/
structure ServesDue (dashboardInterval : Option ℤ) (now : DateTime)
    (monitors rows : List ScheduledMonitor) : Prop where
  due : (fallbackDueMonitors dashboardInterval now rows).Subperm
    (dueMonitors dashboardInterval now monitors)
  length : (fallbackDueMonitors dashboardInterval now rows).length =
    min batchLimit (dueMonitors dashboardInterval now monitors).length

theorem IsOrdered.perm_dueMonitors (h : IsOrdered nulls monitors rows)
    (dashboardInterval : Option ℤ) (now : DateTime) :
    (rows.filter (isDue dashboardInterval now)).Perm (dueMonitors dashboardInterval now monitors) :=
  h.perm.filter _

/-- Those that are due are within the scan and after it. -/
theorem length_dueMonitors (h : IsOrdered nulls monitors rows) (dashboardInterval : Option ℤ)
    (now : DateTime) :
    (dueMonitors dashboardInterval now monitors).length =
      ((rows.take scanLimit).filter (isDue dashboardInterval now)).length +
        ((rows.drop scanLimit).filter (isDue dashboardInterval now)).length := by
  rw [← (h.perm_dueMonitors dashboardInterval now).length_eq, ← length_append,
    ← filter_append, take_append_drop]

theorem fallbackDueMonitors_subperm (h : IsOrdered nulls monitors rows) :
    (fallbackDueMonitors dashboardInterval now rows).Subperm
      (dueMonitors dashboardInterval now monitors) := by
  have hsublist : (fallbackDueMonitors dashboardInterval now rows).Sublist
      (rows.filter (isDue dashboardInterval now)) :=
    (take_sublist _ _).trans ((take_sublist _ _).filter _)
  exact hsublist.subperm.trans (h.perm_dueMonitors dashboardInterval now).subperm

/-- Nothing is hidden iff no monitor beyond the scan is due, or the scan has enough that are. -/
theorem servesDue_iff (h : IsOrdered nulls monitors rows) :
    ServesDue dashboardInterval now monitors rows ↔
      (∀ row ∈ rows.drop scanLimit, isDue dashboardInterval now row = false) ∨
        batchLimit ≤ ((rows.take scanLimit).filter (isDue dashboardInterval now)).length := by
  have hlater : ((rows.drop scanLimit).filter (isDue dashboardInterval now)).length = 0 ↔
      ∀ row ∈ rows.drop scanLimit, isDue dashboardInterval now row = false := by
    simp only [length_eq_zero_iff, filter_eq_nil_iff, Bool.not_eq_true]
  have hlen := length_dueMonitors h dashboardInterval now
  rw [← hlater]
  constructor
  · intro hserves
    have hserved := hserves.length
    rw [fallbackDueMonitors, length_take, hlen] at hserved
    omega
  · intro hcondition
    refine ⟨fallbackDueMonitors_subperm h, ?_⟩
    rw [fallbackDueMonitors, length_take, hlen]
    omega

/-- A monitor that was checked at the start, and is to be checked once a day. -/
def dailyMonitor (id : ℕ) : ScheduledMonitor where
  id := id
  lastCheckedAt := some 0
  intervalSeconds := 86400

/-- A monitor that was checked after an hour, and is to be checked every five seconds. -/
def busyMonitor (id : ℕ) : ScheduledMonitor where
  id := id
  lastCheckedAt := some (HA.seconds 3600)
  intervalSeconds := 5

theorem isOrdered_pair : IsOrdered .last [dailyMonitor 1, busyMonitor 2]
    [dailyMonitor 1, busyMonitor 2] where
  perm := .refl _
  sorted := by decide

theorem servesDue_iff_example :
    ServesDue none (HA.seconds 3700) [dailyMonitor 1, busyMonitor 2]
      [dailyMonitor 1, busyMonitor 2] :=
  (servesDue_iff isOrdered_pair).2 (.inl (by decide))

/-- Daily monitors, and one that is due. -/
def crowdedMonitors : List ScheduledMonitor :=
  (List.range 250).map dailyMonitor ++ [busyMonitor 250]

theorem isOrdered_crowded (nulls : NullOrder) :
    IsOrdered nulls crowdedMonitors crowdedMonitors := by
  refine ⟨?_, ?_⟩
  · rw [filter_eq_self.2]
    intro monitor hmon
    rcases mem_append.1 hmon with hdaily | hbusy
    · obtain ⟨id, -, rfl⟩ := mem_map.1 hdaily
      rfl
    · obtain rfl := mem_singleton.1 hbusy
      rfl
  · rw [crowdedMonitors, pairwise_append]
    refine ⟨pairwise_map.2 (pairwise_of_forall fun _ _ ↦ le_refl (0 : ℤ)),
      pairwise_singleton _ _, fun a ha b hb ↦ ?_⟩
    obtain ⟨id, -, rfl⟩ := mem_map.1 ha
    obtain rfl := mem_singleton.1 hb
    show (0 : ℤ) ≤ HA.seconds 3600
    decide

/-- The monitor that is due comes after the scan, wherever the database has NULL. -/
theorem not_servesDue : IsOrdered .first crowdedMonitors crowdedMonitors ∧
    IsOrdered .last crowdedMonitors crowdedMonitors ∧
      ¬ ServesDue none (HA.seconds 3700) crowdedMonitors crowdedMonitors :=
  ⟨isOrdered_crowded .first, isOrdered_crowded .last, fun h ↦ absurd h.length (by decide +kernel)⟩

/-- With one interval for all and NULL first, a monitor before one that is due is due. -/
theorem isDue_of_le {interval : ℤ} {a b : ScheduledMonitor}
    (hle : NullOrder.first.le a.lastCheckedAt b.lastCheckedAt)
    (hdue : isDue (some interval) now b = true) : isDue (some interval) now a = true := by
  rw [isDue] at hdue ⊢
  cases ha : a.lastCheckedAt with
  | none => rfl
  | some t =>
    cases hb : b.lastCheckedAt with
    | none =>
      rw [ha, hb] at hle
      exact absurd hle (by simp [NullOrder.le])
    | some t' =>
      rw [ha, hb] at hle
      rw [hb, Option.all_some, decide_eq_true_eq] at hdue
      rw [Option.all_some, decide_eq_true_eq]
      exact le_trans hle hdue

/-- **While a dashboard is open, on SQLite,** no monitor that is due is hidden by others: as many are
returned as there may be, whatever their own intervals. -/
theorem servesDue_of_dashboard {leases : List DashboardLease} {lease : DashboardLease}
    {readAt : DateTime} (hlease : lease ∈ leases) (hlive : readAt < lease.expiresAt)
    (h : IsOrdered .first monitors rows) :
    ServesDue (activeDashboardInterval leases readAt) now monitors rows := by
  have hopen : activeDashboardInterval leases readAt ≠ none := by
    rw [activeDashboardInterval, ne_eq, min?_eq_none_iff, map_eq_nil_iff, filter_eq_nil_iff]
    exact fun hover ↦ hover lease hlease (decide_eq_true hlive)
  obtain ⟨interval, hinterval⟩ := Option.ne_none_iff_exists'.1 hopen
  rw [hinterval]
  refine ⟨fallbackDueMonitors_subperm h, ?_⟩
  have hlen := length_dueMonitors h (some interval) now
  rw [fallbackDueMonitors, length_take, hlen]
  -- a row that is due behind the scan makes all of the scan due
  cases hlater : (rows.drop scanLimit).filter (isDue (some interval) now) with
  | nil => rfl
  | cons row later =>
    obtain ⟨hrow, hdue⟩ := mem_filter.1 (hlater ▸ mem_cons_self)
    have hsorted := h.sorted
    rw [← take_append_drop scanLimit rows, pairwise_append] at hsorted
    have hall : ∀ earlier ∈ rows.take scanLimit, isDue (some interval) now earlier = true :=
      fun earlier hearlier ↦ isDue_of_le (hsorted.2.2 earlier hearlier row hrow) hdue
    have hlong := length_pos_of_mem hrow
    rw [length_drop] at hlong
    have hbatch : batchLimit ≤ scanLimit := by decide
    rw [filter_eq_self.2 hall, length_take]
    omega

/-- A monitor that was never checked. -/
def newMonitor : ScheduledMonitor where
  id := 3

/-- Two dashboards are open, with ten seconds and five. Two of the monitors are due then. -/
theorem servesDue_of_dashboard_example :
    (fallbackDueMonitors (activeDashboardInterval [⟨.ten, 9⟩, ⟨.five, 9⟩] 8) (HA.seconds 3604)
        [newMonitor, dailyMonitor 1, busyMonitor 2]).length = 2 ∧
      ServesDue (activeDashboardInterval [⟨.ten, 9⟩, ⟨.five, 9⟩] 8) (HA.seconds 3604)
        [busyMonitor 2, dailyMonitor 1, newMonitor]
        [newMonitor, dailyMonitor 1, busyMonitor 2] :=
  ⟨by decide, servesDue_of_dashboard mem_cons_self (by decide)
    ⟨reverse_perm [busyMonitor 2, dailyMonitor 1, newMonitor], by decide⟩⟩

end Kaya.Monitor
