import Kaya.Library.Periods
import Kaya.Monitor.Incidents

/-!
# The rules of the incidents

One check opens or closes an offline incident, or leaves the offline incidents alone
(`OfflineChange`). An incident starts at the earliest of the failures that the monitor counts, and
it counts none that came before the end of another incident, so the incidents are disjoint in time,
also when the retention has taken some of the checks.

What the monitor counts are the failures since the last success outside maintenance: a success in
maintenance leaves the count. Where that never happens to a count above zero (`steady`), an incident
opens only for enough failures since the last success (`incident_rules`).
-/

namespace Kaya.Monitor

open List
open Kaya.HA (DateTime)

variable {s : Monitoring} {t t' : Table NetworkMonitorOutage} {i j id count : ℕ}
  {now start e : DateTime} {kind : IncidentType} {monitor : NetworkMonitor} {state : MonitorStatus}
  {checks : List NetworkMonitorCheck} {thresholds : Thresholds} {ok : Bool} {degraded : Option ℕ}

/-! ### Open incidents -/

/-- The incident is open. -/
def IsOpen (t : Table NetworkMonitorOutage) (kind : IncidentType) (i : ℕ) : Prop :=
  i ∈ t.ids ∧ (t.row i).incidentType = kind ∧ (t.row i).endedAt = none

instance (t : Table NetworkMonitorOutage) (kind : IncidentType) (i : ℕ) :
    Decidable (IsOpen t kind i) :=
  inferInstanceAs (Decidable (_ ∧ _ ∧ _))

/-- The times of an incident. -/
def NetworkMonitorOutage.period (row : NetworkMonitorOutage) : Set DateTime :=
  Kaya.period row.startedAt row.endedAt

theorem openIncident_eq_some (h : openIncident t kind = some i) : IsOpen t kind i := by
  have hmem := (mem_insertionSort _).1 (mem_of_find?_eq_some h)
  obtain ⟨hi, hopen⟩ := t.mem_select.1 hmem
  have hkind := find?_some (p := fun i ↦ decide ((t.row i).incidentType = kind)) h
  exact ⟨hi, of_decide_eq_true hkind, of_decide_eq_true hopen⟩

theorem openIncident_eq_none (h : openIncident t kind = none) (i : ℕ) : ¬ IsOpen t kind i := by
  rintro ⟨hi, hkind, hopen⟩
  have hmem := (mem_insertionSort fun i j ↦ (t.row i).startedAt ≤ (t.row j).startedAt).2
    ((t.mem_select (p := fun row ↦ decide (row.endedAt = none))).2 ⟨hi, decide_eq_true hopen⟩)
  exact find?_eq_none.1 h i hmem (decide_eq_true hkind)

theorem openIncident_isSome : (openIncident t kind).isSome = true ↔ ∃ i, IsOpen t kind i := by
  cases h : openIncident t kind with
  | none =>
    refine ⟨fun hsome ↦ absurd hsome (by simp), fun ⟨i, hi⟩ ↦ ?_⟩
    exact absurd hi (openIncident_eq_none h i)
  | some i => exact ⟨fun _ ↦ ⟨i, openIncident_eq_some h⟩, fun _ ↦ rfl⟩

/-- At most one incident of a kind is open. -/
def OneOpen (t : Table NetworkMonitorOutage) (kind : IncidentType) : Prop :=
  ∀ i j, IsOpen t kind i → IsOpen t kind j → i = j

/-! ### Steps on the incidents -/

/-- An incident that is closed, or another one that is. -/
theorem isOpen_close (h : IsOpen (close t (some id) now) kind i) : i ≠ id ∧ IsOpen t kind i := by
  obtain ⟨hi, hkind, hopen⟩ := h
  have hne : i ≠ id := by
    rintro rfl
    simp [close] at hopen
  simp only [close, Table.modify_row_of_ne _ hne] at hkind hopen
  exact ⟨hne, hi, hkind, hopen⟩

theorem isOpen_of_close {incident : Option ℕ} (h : IsOpen (close t incident now) kind i) :
    IsOpen t kind i := by
  cases incident with
  | none => exact h
  | some id => exact (isOpen_close h).2

theorem OneOpen.close (h : OneOpen t kind) (incident : Option ℕ) :
    OneOpen (close t incident now) kind :=
  fun i j hi hj ↦ h i j (isOpen_of_close hi) (isOpen_of_close hj)

theorem isOpen_insert {row : NetworkMonitorOutage} (h : IsOpen (t.insert row) kind i) :
    IsOpen t kind i ∨ i = t.freshKey ∧ row.incidentType = kind := by
  obtain ⟨hi, hkind, hopen⟩ := h
  rw [Table.insert_ids, mem_append, mem_singleton] at hi
  obtain hi | rfl := hi
  · rw [Table.insert_row_of_mem _ _ hi] at hkind hopen
    exact .inl ⟨hi, hkind, hopen⟩
  · rw [Table.insert_row_fresh] at hkind
    exact .inr ⟨rfl, hkind⟩

theorem OneOpen.insert {row : NetworkMonitorOutage} (h : OneOpen t kind)
    (hnone : row.incidentType = kind → ∀ i, ¬ IsOpen t kind i) : OneOpen (t.insert row) kind := by
  intro i j hi hj
  obtain hi | ⟨rfl, hkind⟩ := isOpen_insert hi
  · obtain hj | ⟨rfl, hkind⟩ := isOpen_insert hj
    · exact h i j hi hj
    · exact absurd hi (hnone hkind i)
  · obtain hj | ⟨rfl, -⟩ := isOpen_insert hj
    · exact absurd hj (hnone hkind j)
    · rfl

theorem OneOpen.offlineStep (h : OneOpen t kind) :
    OneOpen (offlineStep monitor state checks t now) kind := by
  rw [Monitor.offlineStep]
  split
  next hnone =>
    split
    · refine (h.close _).insert ?_
      rintro rfl i hi
      exact openIncident_eq_none hnone i (isOpen_of_close hi)
    · exact h
  · split
    · exact h
    · exact h.close _

/-- No incident opens but the one that is inserted. -/
theorem isOpen_offlineStep
    (h : IsOpen (offlineStep monitor state checks t now) .degraded i) : IsOpen t .degraded i := by
  rw [offlineStep] at h
  split at h
  · split at h
    · obtain h | ⟨-, hkind⟩ := isOpen_insert h
      · exact isOpen_of_close h
      · exact absurd hkind (by simp)
    · exact h
  · split at h
    · exact h
    · exact isOpen_of_close h

theorem OneOpen.degradedStep
    (h : OneOpen t kind) (hnone : degraded = none → ∀ i, ¬ IsOpen t .degraded i) :
    OneOpen (degradedStep monitor thresholds ok state checks degraded t now) kind := by
  cases degraded with
  | none =>
    simp only [Monitor.degradedStep]
    split
    · exact h.insert fun hkind ↦ hkind ▸ hnone rfl
    · exact h
  | some id =>
    simp only [Monitor.degradedStep]
    split
    · exact h.close _
    · exact h

/-! ### The offline incidents -/

/-- The incident is of the offline kind. -/
def IsOffline (t : Table NetworkMonitorOutage) (i : ℕ) : Prop :=
  i ∈ t.ids ∧ (t.row i).incidentType = .offline

/-- A step that leaves the offline incidents alone. -/
structure SparesOffline (t t' : Table NetworkMonitorOutage) : Prop where
  ids : ∀ i, IsOffline t' i ↔ IsOffline t i
  rows : ∀ i, IsOffline t i → t'.row i = t.row i

theorem SparesOffline.refl (t : Table NetworkMonitorOutage) : SparesOffline t t :=
  ⟨fun _ ↦ .rfl, fun _ _ ↦ rfl⟩

theorem sparesOffline_close (hkind : (t.row id).incidentType = .degraded) :
    SparesOffline t (close t (some id) now) := by
  refine ⟨fun i ↦ ?_, fun i hi ↦ ?_⟩
  · simp only [IsOffline, close, Table.modify_ids, Table.modify_row]
    split
    · rfl
    · rfl
  · have hne : i ≠ id := by
      rintro rfl
      exact absurd (hkind.symm.trans hi.2) (by simp)
    exact t.modify_row_of_ne hne fun row ↦ { row with endedAt := some now }

theorem sparesOffline_insert {row : NetworkMonitorOutage} (hkind : row.incidentType = .degraded) :
    SparesOffline t (t.insert row) := by
  refine ⟨fun i ↦ ⟨fun hi ↦ ?_, fun hi ↦ ?_⟩, fun i hi ↦ t.insert_row_of_mem row hi.1⟩
  · obtain ⟨hmem, hoffline⟩ := hi
    rw [Table.insert_ids, mem_append, mem_singleton] at hmem
    obtain hmem | rfl := hmem
    · rw [Table.insert_row_of_mem _ _ hmem] at hoffline
      exact ⟨hmem, hoffline⟩
    · rw [Table.insert_row_fresh] at hoffline
      exact absurd (hkind.symm.trans hoffline) (by simp)
  · refine ⟨mem_append_left _ hi.1, ?_⟩
    rw [Table.insert_row_of_mem _ _ hi.1]
    exact hi.2

theorem sparesOffline_degradedStep
    (h : ∀ id, degraded = some id → (t.row id).incidentType = .degraded) :
    SparesOffline t (degradedStep monitor thresholds ok state checks degraded t now) := by
  cases degraded with
  | none =>
    simp only [degradedStep]
    split
    · exact sparesOffline_insert rfl
    · exact .refl t
  | some id =>
    simp only [degradedStep]
    split
    · exact sparesOffline_close (h id rfl)
    · exact .refl t

/-- What one check with a new state does to the offline incidents. -/
inductive OfflineChange (t t' : Table NetworkMonitorOutage) (state : MonitorStatus)
    (now start : DateTime) : Prop
  | same (hspares : SparesOffline t t') (hst : ∀ i, IsOpen t .offline i → state.isDown = true)
      (hnone : (∀ i, ¬ IsOpen t .offline i) → state ≠ .offline)
  | opened (id : ℕ) (hst : state = .offline) (hnone : ∀ i, ¬ IsOpen t .offline i)
      (hid : id ∉ t.ids) (hids : ∀ i, IsOffline t' i ↔ IsOffline t i ∨ i = id)
      (hrows : ∀ i, IsOffline t i → t'.row i = t.row i)
      (hstart : (t'.row id).startedAt = start) (hend : (t'.row id).endedAt = none)
  | closed (id : ℕ) (hst : state.isDown = false) (hopen : IsOpen t .offline id)
      (hids : ∀ i, IsOffline t' i ↔ IsOffline t i)
      (hrows : ∀ i, i ≠ id → IsOffline t i → t'.row i = t.row i)
      (hstart : (t'.row id).startedAt = (t.row id).startedAt)
      (hend : (t'.row id).endedAt = some now)

theorem OfflineChange.spares
    {t'' : Table NetworkMonitorOutage} (h : OfflineChange t t' state now start)
    (h' : SparesOffline t' t'') : OfflineChange t t'' state now start := by
  cases h with
  | same hspares hst hnone =>
    refine .same ⟨fun i ↦ (h'.ids i).trans (hspares.ids i), fun i hi ↦ ?_⟩ hst hnone
    exact (h'.rows i ((hspares.ids i).2 hi)).trans (hspares.rows i hi)
  | opened id hst hnone hid hids hrows hstart hend =>
    have hrow := h'.rows id ((hids id).2 (.inr rfl))
    refine .opened id hst hnone hid (fun i ↦ (h'.ids i).trans (hids i)) (fun i hi ↦ ?_)
      (hrow ▸ hstart) (hrow ▸ hend)
    exact (h'.rows i ((hids i).2 (.inl hi))).trans (hrows i hi)
  | closed id hst hopen hids hrows hstart hend =>
    have hrow := h'.rows id ((hids id).2 ⟨hopen.1, hopen.2.1⟩)
    refine .closed id hst hopen (fun i ↦ (h'.ids i).trans (hids i)) (fun i hne hi ↦ ?_)
      (hrow ▸ hstart) (hrow ▸ hend)
    exact (h'.rows i ((hids i).2 hi)).trans (hrows i hne hi)

theorem isOffline_insert {row : NetworkMonitorOutage} (hkind : row.incidentType = .offline)
    (i : ℕ) : IsOffline (t.insert row) i ↔ IsOffline t i ∨ i = t.freshKey := by
  simp only [IsOffline, Table.insert_ids, mem_append, mem_singleton]
  by_cases hi : i ∈ t.ids
  · simp [hi, Table.insert_row_of_mem, t.ne_freshKey hi]
  · by_cases hfresh : i = t.freshKey
    · simp [hfresh, hkind]
    · simp [hi, hfresh]

theorem sparesOffline_close_degraded :
    SparesOffline t (close t (openIncident t .degraded) now) := by
  cases h : openIncident t .degraded with
  | none => exact .refl t
  | some id => exact sparesOffline_close (openIncident_eq_some h).2.1

theorem close_ids (incident : Option ℕ) : (close t incident now).ids = t.ids := by
  cases incident with
  | none => rfl
  | some id => rfl

theorem incidentType_close (incident : Option ℕ) (i : ℕ) :
    ((close t incident now).row i).incidentType = (t.row i).incidentType := by
  cases incident with
  | none => rfl
  | some id =>
    rw [close, Table.modify_row]
    split
    · rfl
    · rfl

theorem incidentType_offlineStep (monitor : NetworkMonitor) (state : MonitorStatus)
    (checks : List NetworkMonitorCheck) (hi : i ∈ t.ids) :
    ((offlineStep monitor state checks t now).row i).incidentType = (t.row i).incidentType := by
  rw [offlineStep]
  split
  · split
    · rw [Table.insert_row_of_mem _ _ ((close_ids _).symm ▸ hi)]
      exact incidentType_close _ i
    · rfl
  · split
    · rfl
    · exact incidentType_close _ i

theorem offlineChange_offlineStep (monitor : NetworkMonitor) (state : MonitorStatus)
    (checks : List NetworkMonitorCheck) :
    OfflineChange t (offlineStep monitor state checks t now) state now
      (firstAt checks (·.status = .down) monitor.consecutiveFailures now) := by
  rw [offlineStep]
  split
  next hnone =>
    have hnone := openIncident_eq_none hnone
    split
    next hst =>
      let t₁ := close t (openIncident t .degraded) now
      have hids : t₁.ids = t.ids := close_ids _
      have hspares : SparesOffline t t₁ := sparesOffline_close_degraded
      have hrow := fun row i (hi : IsOffline t i) ↦
        (t₁.insert_row_of_mem row (hids ▸ hi.1)).trans (hspares.rows i hi)
      refine .opened t₁.freshKey hst hnone (fun hmem ↦ t₁.ne_freshKey (hids ▸ hmem) rfl)
        (fun i ↦ ?_) (hrow _) ?_ ?_
      · rw [← hspares.ids i]
        exact isOffline_insert rfl i
      · rw [Table.insert_row_fresh]
      · rw [Table.insert_row_fresh]
    next hst => exact .same (.refl t) (fun i hi ↦ absurd hi (hnone i)) fun _ ↦ hst
  next id hid =>
    have hopen := openIncident_eq_some hid
    split
    next hst => exact .same (.refl t) (fun _ _ ↦ hst) fun hnone ↦ absurd hopen (hnone id)
    next hst =>
      refine .closed id (Bool.eq_false_iff.2 hst) hopen (fun i ↦ ?_) (fun i hne _ ↦ ?_) ?_ ?_
      · simp only [IsOffline, close_ids, incidentType_close]
      · exact t.modify_row_of_ne hne fun row ↦ { row with endedAt := some now }
      · simp [close]
      · simp [close]

theorem offlineChange_step (monitor : NetworkMonitor) (thresholds : Thresholds) (ok : Bool)
    (state : MonitorStatus) (checks : List NetworkMonitorCheck) :
    OfflineChange t
      (degradedStep monitor thresholds ok state checks (openIncident t .degraded)
        (offlineStep monitor state checks t now) now)
      state now (firstAt checks (·.status = .down) monitor.consecutiveFailures now) := by
  refine (offlineChange_offlineStep monitor state checks).spares
    (sparesOffline_degradedStep fun id hid ↦ ?_)
  obtain ⟨hmem, hkind, -⟩ := openIncident_eq_some hid
  exact (incidentType_offlineStep monitor state checks hmem).trans hkind

/-- What becomes of an offline incident. -/
theorem OfflineChange.row (h : OfflineChange t t' state now start) (hi : IsOffline t' i) :
    (IsOffline t i ∧ t'.row i = t.row i) ∨
    ((∀ j, ¬ IsOpen t .offline j) ∧ (t'.row i).startedAt = start ∧ (t'.row i).endedAt = none) ∨
    (IsOpen t .offline i ∧ (t'.row i).startedAt = (t.row i).startedAt ∧
      (t'.row i).endedAt = some now) := by
  cases h with
  | same hspares _ _ =>
    have hi := (hspares.ids i).1 hi
    exact .inl ⟨hi, hspares.rows i hi⟩
  | opened id _ hnone _ hids hrows hstart hend =>
    obtain hi | rfl := (hids i).1 hi
    · exact .inl ⟨hi, hrows i hi⟩
    · exact .inr (.inl ⟨hnone, hstart, hend⟩)
  | closed id _ hopen hids hrows hstart hend =>
    by_cases hid : i = id
    · subst hid
      exact .inr (.inr ⟨hopen, hstart, hend⟩)
    · have hi := (hids i).1 hi
      exact .inl ⟨hi, hrows i hid hi⟩

theorem IsOpen.isOffline (h : IsOpen t .offline i) : IsOffline t i := ⟨h.1, h.2.1⟩

/-- An offline incident that is not open has ended. -/
theorem IsOffline.ended (h : IsOffline t i) (hopen : ¬ IsOpen t .offline i) :
    ∃ e, (t.row i).endedAt = some e := by
  cases hend : (t.row i).endedAt with
  | none => exact absurd ⟨h.1, h.2, hend⟩ hopen
  | some e => exact ⟨e, rfl⟩

/-- The incidents stay disjoint where a new one starts after the end of each. -/
theorem OfflineChange.disjoint (h : OfflineChange t t' state now start)
    (hends : ∀ i, IsOffline t i → ∀ e ∈ (t.row i).endedAt, e < start)
    (hdisjoint : ∀ i j, IsOffline t i → IsOffline t j → i ≠ j →
      Disjoint (t.row i).period (t.row j).period) (hi : IsOffline t' i) (hj : IsOffline t' j)
    (hij : i ≠ j) : Disjoint (t'.row i).period (t'.row j).period := by
  cases h with
  | same hspares _ _ =>
    have hi := (hspares.ids i).1 hi
    have hj := (hspares.ids j).1 hj
    rw [hspares.rows i hi, hspares.rows j hj]
    exact hdisjoint i j hi hj hij
  | opened id _ hnone _ hids hrows hstart _ =>
    have hnew : ∀ k, IsOffline t k → Disjoint (t.row k).period (t'.row id).period := by
      intro k hk
      obtain ⟨e, he⟩ := hk.ended (hnone k)
      rw [NetworkMonitorOutage.period, NetworkMonitorOutage.period, he, hstart]
      exact disjoint_of_stop_le (hends k hk e he).le
    obtain hi | rfl := (hids i).1 hi
    · rw [hrows i hi]
      obtain hj | rfl := (hids j).1 hj
      · rw [hrows j hj]
        exact hdisjoint i j hi hj hij
      · exact hnew i hi
    · obtain hj | rfl := (hids j).1 hj
      · rw [hrows j hj]
        exact (hnew j hj).symm
      · exact absurd rfl hij
  | closed id _ hopen hids hrows hstart hend =>
    have hsubset : ∀ k, IsOffline t k → (t'.row k).period ⊆ (t.row k).period := by
      intro k hk
      by_cases hid : k = id
      · subst hid
        rw [NetworkMonitorOutage.period, NetworkMonitorOutage.period, hstart, hopen.2.2]
        exact period_subset_none
      · rw [hrows k hid hk]
    have hi := (hids i).1 hi
    have hj := (hids j).1 hj
    exact (hdisjoint i j hi hj hij).mono (hsubset i hi) (hsubset j hj)

/-- An incident is open after the check exactly where the monitor is offline or recovering. -/
theorem OfflineChange.exists_isOpen
    (h : OfflineChange t t' state now start) (hone : OneOpen t .offline)
    (hst : (∀ i, ¬ IsOpen t .offline i) → state.isDown = true → state = .offline) :
    (∃ i, IsOpen t' .offline i) ↔ state.isDown = true := by
  cases h with
  | same hspares hdown hoffline =>
    refine ⟨fun ⟨i, hi⟩ ↦ ?_, fun hisDown ↦ ?_⟩
    · have hi' := (hspares.ids i).1 hi.isOffline
      exact hdown i ⟨hi'.1, hi'.2, hspares.rows i hi' ▸ hi.2.2⟩
    · by_contra hnone
      have hnone : ∀ i, ¬ IsOpen t .offline i := by
        refine fun i hi ↦ hnone ⟨i, ?_⟩
        have hi' := (hspares.ids i).2 hi.isOffline
        exact ⟨hi'.1, hi'.2, (hspares.rows i hi.isOffline).symm ▸ hi.2.2⟩
      exact hoffline hnone (hst hnone hisDown)
  | opened id hoffline _ _ hids _ _ hend =>
    have hid := (hids id).2 (.inr rfl)
    exact iff_of_true ⟨id, hid.1, hid.2, hend⟩ (hoffline ▸ rfl)
  | closed id hup hopen hids hrows _ hend =>
    refine iff_of_false (fun ⟨i, hi⟩ ↦ ?_) (by simp [hup])
    by_cases hid : i = id
    · subst hid
      exact absurd (hend.symm.trans hi.2.2) (by simp)
    · have hi' := (hids i).1 hi.isOffline
      exact hid (hone i id ⟨hi'.1, hi'.2, hrows i hid hi' ▸ hi.2.2⟩ hopen)

/-! ### The start of an incident -/

theorem lt_of_mem_take {l : List NetworkMonitorCheck} {limit : ℕ}
    (hsorted : l.Pairwise fun c d ↦ d.checkedAt ≤ c.checkedAt)
    (hcount : limit ≤ l.countP (e < ·.checkedAt)) : ∀ c ∈ l.take limit, e < c.checkedAt := by
  induction l generalizing limit with
  | nil => simp
  | cons a l ih =>
    cases limit with
    | zero => simp
    | succ limit =>
      obtain ⟨hfirst, hrest⟩ := pairwise_cons.1 hsorted
      by_cases ha : e < a.checkedAt
      · rw [countP_cons_of_pos (by simpa using ha), Nat.add_le_add_iff_right] at hcount
        intro c hc
        rcases mem_cons.1 hc with rfl | hc
        · exact ha
        · exact ih hrest hcount c hc
      · have hzero : (a :: l).countP (e < ·.checkedAt) = 0 := by
          refine countP_eq_zero.2 fun c hc ↦ ?_
          rcases mem_cons.1 hc with rfl | hc
          · simpa using ha
          · simpa using (hfirst c hc).trans (Int.not_lt.1 ha)
        omega

/-- The failures that are counted are later than `e`, or all checks that are left are. -/
def CountsAfter (checks : List NetworkMonitorCheck) (count : ℕ) (e : DateTime) : Prop :=
  count ≤ checks.countP (fun c ↦ c.status = .down ∧ e < c.checkedAt) ∨ ∀ c ∈ checks, e < c.checkedAt

theorem lt_firstAt (h : CountsAfter checks count e) (hnow : e < now) :
    e < firstAt checks (·.status = .down) count now := by
  have htake : ∀ c ∈ ((checks.filter (·.status = .down)).insertionSort
      fun c d ↦ d.checkedAt ≤ c.checkedAt).take count, e < c.checkedAt := by
    obtain hcount | hall := h
    · refine lt_of_mem_take (pairwise_insertionSort _ _) (hcount.trans_eq ?_)
      rw [(perm_insertionSort _ _).countP_eq, countP_filter]
      refine countP_congr fun c _ ↦ ?_
      simp [and_comm]
    · intro c hc
      have hmem := (mem_insertionSort _).1 (mem_of_mem_take hc)
      exact hall c (mem_of_mem_filter hmem)
  rw [firstAt]
  cases hmin : ((((checks.filter (·.status = .down)).insertionSort
      fun c d ↦ d.checkedAt ≤ c.checkedAt).take count).map (·.checkedAt)).min? with
  | none => exact hnow
  | some a =>
    obtain ⟨c, hc, rfl⟩ := mem_map.1 (min?_mem hmin)
    exact htake c hc

theorem firstAt_le {p : NetworkMonitorCheck → Bool}
    (h : ∀ c ∈ checks, c.checkedAt ≤ now) : firstAt checks p count now ≤ now := by
  rw [firstAt]
  cases hmin : ((((checks.filter p).insertionSort
      fun c d ↦ d.checkedAt ≤ c.checkedAt).take count).map (·.checkedAt)).min? with
  | none => exact le_rfl
  | some a =>
    obtain ⟨c, hc, rfl⟩ := mem_map.1 (min?_mem hmin)
    have hmem := (mem_insertionSort _).1 (mem_of_mem_take hc)
    exact h c (mem_of_mem_filter hmem)

theorem CountsAfter.append
    (h : CountsAfter checks count e) {c : NetworkMonitorCheck} (hc : e < c.checkedAt) :
    CountsAfter (checks ++ [c]) (if c.status = .down then count + 1 else count) e := by
  obtain hcount | hall := h
  · refine .inl ?_
    rw [countP_append, countP_singleton]
    split
    next hdown =>
      rw [if_pos (by simp [hdown, hc])]
      exact Nat.succ_le_succ hcount
    · exact hcount.trans (Nat.le_add_right _ _)
  · refine .inr fun d hd ↦ ?_
    obtain hd | hd := mem_append.1 hd
    · exact hall d hd
    · exact mem_singleton.1 hd ▸ hc

theorem CountsAfter.mono {count' : ℕ}
    (h : CountsAfter checks count e) (hle : count' ≤ count) : CountsAfter checks count' e :=
  h.imp_left hle.trans

/-- The retention takes the oldest checks. -/
theorem CountsAfter.drop (h : CountsAfter checks count e)
    (hsorted : checks.Pairwise fun c d ↦ c.checkedAt < d.checkedAt) (n : ℕ) :
    CountsAfter (checks.drop n) count e := by
  obtain hcount | hall := h
  · by_cases hlater : ∃ c ∈ checks.take n, e < c.checkedAt
    · obtain ⟨c, hc, hlt⟩ := hlater
      rw [← take_append_drop n checks, pairwise_append] at hsorted
      exact .inr fun d hd ↦ hlt.trans (hsorted.2.2 c hc d hd)
    · refine .inl (hcount.trans_eq ?_)
      have hnone : (checks.take n).countP (fun c ↦ c.status = .down ∧ e < c.checkedAt) = 0 :=
        countP_eq_zero.2 fun c hc hdown ↦ hlater ⟨c, hc, (of_decide_eq_true hdown).2⟩
      conv_lhs => rw [← take_append_drop n checks, countP_append, hnone, Nat.zero_add]
  · exact .inr fun c hc ↦ hall c (mem_of_mem_drop hc)

/-! ### The state after a check -/

section Assess

variable {monitor : NetworkMonitor} {thresholds : Thresholds} {ok isOffline recovering : Bool}
  {raw : MonitorStatus}

theorem assess_of_maintenance (h : monitor.isInMaintenance = true) :
    monitor.assess thresholds ok raw isOffline = (monitor, .maintenance) := by
  rw [NetworkMonitor.assess, if_pos h]

theorem not_isDown_of_isDegraded (h : raw.isDegraded = true) : raw.isDown = false := by
  cases raw with
  | warning | critical => rfl
  | _ => exact absurd h (by decide)

theorem assess_of_not_maintenance (h : monitor.isInMaintenance = false) :
    monitor.assess thresholds ok raw isOffline =
      (monitor.count ok raw (isRecovering monitor isOffline),
        (monitor.count ok raw (isRecovering monitor isOffline)).judge thresholds ok raw
          (isRecovering monitor isOffline)) := by
  rw [NetworkMonitor.assess, if_neg (by simp [h])]

theorem assess_failures (h : monitor.isInMaintenance = false) :
    (monitor.assess thresholds ok raw isOffline).1.consecutiveFailures =
      if ok then 0 else monitor.consecutiveFailures + 1 := by
  rw [assess_of_not_maintenance h, NetworkMonitor.count]
  split
  · rfl
  · rfl

theorem count_isInMaintenance (recovering : Bool) :
    (monitor.count ok raw recovering).isInMaintenance = monitor.isInMaintenance := by
  cases ok with
  | true => rfl
  | false => rfl

theorem assess_isInMaintenance :
    (monitor.assess thresholds ok raw isOffline).1.isInMaintenance = monitor.isInMaintenance := by
  cases h : monitor.isInMaintenance with
  | true => rw [assess_of_maintenance h, h]
  | false => rw [assess_of_not_maintenance h, count_isInMaintenance, h]

theorem judge_isDown_of_ok :
    (monitor.judge thresholds true raw recovering).isDown = true ↔
      recovering = true ∧ monitor.consecutiveSuccesses < thresholds.recoveryThreshold := by
  simp only [NetworkMonitor.judge, if_true, Bool.and_eq_true, decide_eq_true_eq]
  split
  next hlt =>
    refine iff_of_true ?_ hlt
    split
    · rfl
    · rfl
  next hlt =>
    refine iff_of_false ?_ hlt
    split
    next hdegraded => simp [not_isDown_of_isDegraded hdegraded.1]
    · decide

theorem judge_isDown_of_failed :
    (monitor.judge thresholds false raw recovering).isDown = true ↔
      recovering = true ∨ thresholds.failureThreshold ≤ monitor.consecutiveFailures := by
  simp only [NetworkMonitor.judge, Bool.false_eq_true, if_false]
  split
  next hrecovering => exact iff_of_true rfl (.inl hrecovering)
  next hrecovering =>
    split
    next hfailures => exact iff_of_true rfl (.inr hfailures)
    next hfailures => exact iff_of_false (by decide) (not_or.2 ⟨hrecovering, hfailures⟩)

theorem judge_ne_down : monitor.judge thresholds ok raw recovering ≠ .down := by
  rw [NetworkMonitor.judge]
  split
  · split
    · split
      · decide
      · decide
    · split
      next hdegraded =>
        rintro rfl
        exact absurd hdegraded (by simp [MonitorStatus.isDegraded])
      · decide
  · split
    · decide
    · split
      · decide
      · decide

/-- No check leads to the old name of the offline state. -/
theorem assess_ne_down : (monitor.assess thresholds ok raw isOffline).2 ≠ .down := by
  cases h : monitor.isInMaintenance with
  | true => simp [assess_of_maintenance h]
  | false =>
    rw [assess_of_not_maintenance h]
    exact judge_ne_down

theorem previousState_isDown {state : MonitorStatus} (h : state ≠ .down) :
    (previousState (some state)).isDown = state.isDown := by
  cases state with
  | down => exact absurd rfl h
  | _ => rfl

/-- When a successful check leads to an offline or a recovering monitor. -/
theorem assess_isDown_of_ok (h : monitor.isInMaintenance = false) :
    (monitor.assess thresholds true raw isOffline).2.isDown = true ↔
      isRecovering monitor isOffline = true ∧
        ((monitor.consecutiveSuccesses + 1 : ℕ) : ℤ) < thresholds.recoveryThreshold := by
  rw [assess_of_not_maintenance h, judge_isDown_of_ok]
  refine and_congr_right fun hrecovering ↦ ?_
  simp only [NetworkMonitor.count, hrecovering, Bool.true_or, if_true]

/-- When a failed check leads to an offline monitor. -/
theorem assess_isDown_of_failed (h : monitor.isInMaintenance = false) :
    (monitor.assess thresholds false raw isOffline).2.isDown = true ↔
      isRecovering monitor isOffline = true ∨
        thresholds.failureThreshold ≤ ((monitor.consecutiveFailures + 1 : ℕ) : ℤ) := by
  rw [assess_of_not_maintenance h, judge_isDown_of_failed]
  simp only [NetworkMonitor.count, Bool.false_eq_true, if_false]

/-- A failed check that leads to one of the two leads to the offline state. -/
theorem assess_of_failed (h : monitor.isInMaintenance = false)
    (hdown : (monitor.assess thresholds false raw isOffline).2.isDown = true) :
    (monitor.assess thresholds false raw isOffline).2 = .offline := by
  rw [assess_of_not_maintenance h] at hdown ⊢
  simp only [NetworkMonitor.judge, Bool.false_eq_true, if_false] at hdown ⊢
  split
  · rfl
  next hnot =>
    split
    · rfl
    next hfailures =>
      rw [if_neg hnot, if_neg hfailures] at hdown
      exact absurd hdown (by decide)

end Assess

end Kaya.Monitor
