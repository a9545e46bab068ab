import Kaya.Library.Extremes
import Kaya.Monitor.Retention

/-!
# What the retention keeps

A `Quantity` of the rows adds up: a statistic has the sum of the rows it is made of. A `Window` is a
set of monitors and times that no bucket straddles. Where each bucket of a call is free, the total
of a quantity over a window does not change (`total_aggregateChecks`, `total_rollupStatistics`), so
it grows by the new checks only (`total_run`).

The number of checks, the number of successful ones and the extremes of the latency are quantities,
and so nothing is lost in a run whose calls find their buckets free (`keeps_observations`).
-/

namespace Kaya.Monitor

open List
open Kaya.HA (DateTime)

variable {s : MonitorHistory} {t : Table NetworkMonitorStatistic} {cutoff : DateTime}
  {bucketSeconds sourceSeconds targetSeconds : ℕ}

/-! ### Storing -/

section Store

variable {ρ : Type} {make : ℕ × DateTime → List ρ → NetworkMonitorStatistic}
  {groups : List ((ℕ × DateTime) × List ρ)} {row : NetworkMonitorStatistic} {seconds : ℕ}

/-- The buckets of all groups are free. -/
def isClear (make : ℕ × DateTime → List ρ → NetworkMonitorStatistic)
    (groups : List ((ℕ × DateTime) × List ρ)) (t : Table NetworkMonitorStatistic) : Bool :=
  groups.all fun group ↦ !t.exists? (sameBucket (make group.1 group.2))

/-- Each statistic lies in the bucket of its group. -/
def MakesBuckets (make : ℕ × DateTime → List ρ → NetworkMonitorStatistic) (seconds : ℕ) : Prop :=
  ∀ key rows, (make key rows).monitorId = key.1 ∧ (make key rows).bucketStart = key.2 ∧
    (make key rows).bucketSeconds = seconds

theorem makesBuckets_aggregated : MakesBuckets (aggregated bucketSeconds) bucketSeconds :=
  fun _ _ ↦ ⟨rfl, rfl, rfl⟩

theorem makesBuckets_rolledUp : MakesBuckets (rolledUp targetSeconds) targetSeconds :=
  fun _ _ ↦ ⟨rfl, rfl, rfl⟩

theorem sameBucket_iff {row' : NetworkMonitorStatistic} : sameBucket row row' = true ↔
    row'.monitorId = row.monitorId ∧ row'.bucketStart = row.bucketStart ∧
      row'.bucketSeconds = row.bucketSeconds :=
  decide_eq_true_iff

/-- Where all buckets are free, every group has its statistic. -/
theorem newBuckets_of_isClear (hclear : isClear make groups t = true) :
    newBuckets make groups t = groups.map fun group ↦ make group.1 group.2 := by
  rw [newBuckets, filter_eq_self]
  intro row hrow
  obtain ⟨group, hgroup, rfl⟩ := mem_map.1 hrow
  exact all_eq_true.1 hclear group hgroup

theorem mem_newBuckets (hrow : row ∈ newBuckets make groups t) :
    t.exists? (sameBucket row) = false ∧ ∃ group ∈ groups, make group.1 group.2 = row := by
  obtain ⟨hmem, hfree⟩ := mem_filter.1 hrow
  exact ⟨Bool.not_eq_true' _ ▸ hfree, mem_map.1 hmem⟩

theorem bucketSeconds_newBuckets (hmake : MakesBuckets make seconds)
    (hrow : row ∈ newBuckets make groups t) : row.bucketSeconds = seconds := by
  obtain ⟨-, group, -, rfl⟩ := mem_newBuckets hrow
  exact (hmake _ _).2.2

/-- Groups of different keys have different buckets. -/
theorem pairwise_newBuckets (hmake : MakesBuckets make seconds)
    (hnodup : (groups.map Prod.fst).Nodup) :
    (newBuckets make groups t).Pairwise fun a b ↦ sameBucket a b = false := by
  refine (pairwise_map.2 ?_).filter _
  refine (pairwise_map.1 hnodup).imp fun {group other} hne ↦ Bool.eq_false_iff.2 fun hsame ↦ hne ?_
  obtain ⟨hid, hstart, -⟩ := sameBucket_iff.1 hsame
  obtain ⟨hid₁, hstart₁, -⟩ := hmake group.1 group.2
  obtain ⟨hid₂, hstart₂, -⟩ := hmake other.1 other.2
  exact Prod.ext (hid₁.symm.trans (hid.symm.trans hid₂))
    (hstart₁.symm.trans (hstart.symm.trans hstart₂))

/-- What a commit adds to a sum. -/
theorem sum_insertAll {M : Type} [AddCommMonoid M] (amount : NetworkMonitorStatistic → M)
    (rows : List NetworkMonitorStatistic) :
    (rows.foldl Table.insert t).sum amount = t.sum amount + (rows.map amount).sum := by
  induction rows generalizing t with
  | nil => rw [foldl_nil, map_nil, sum_nil, add_zero]
  | cons row rows ih => rw [foldl_cons, ih, t.sum_insert, map_cons, sum_cons, add_assoc]

theorem forall_insertAll {p : NetworkMonitorStatistic → Prop} {rows : List NetworkMonitorStatistic}
    (ht : ∀ i ∈ t.ids, p (t.row i)) (hrows : ∀ row ∈ rows, p row) :
    ∀ i ∈ (rows.foldl Table.insert t).ids, p ((rows.foldl Table.insert t).row i) := by
  induction rows generalizing t with
  | nil => exact ht
  | cons row rows ih =>
    obtain ⟨hrow, hrest⟩ := forall_mem_cons.1 hrows
    refine ih (fun i hi ↦ ?_) hrest
    rw [Table.insert_ids, mem_append, mem_singleton] at hi
    obtain hi | rfl := hi
    · rw [Table.insert_row_of_mem _ _ hi]
      exact ht i hi
    · rw [Table.insert_row_fresh]
      exact hrow

/-- No two statistics of a monitor with the same bucket size share a start. -/
def UniqueBuckets (t : Table NetworkMonitorStatistic) : Prop :=
  ∀ i ∈ t.ids, ∀ j ∈ t.ids, sameBucket (t.row i) (t.row j) = true → i = j

theorem UniqueBuckets.delete (h : UniqueBuckets t) (ks : List ℕ) : UniqueBuckets (t.delete ks) :=
  fun i hi j hj ↦ h i (t.mem_delete.1 hi).1 j (t.mem_delete.1 hj).1

theorem UniqueBuckets.insert (h : UniqueBuckets t)
    (hfree : t.exists? (sameBucket row) = false) : UniqueBuckets (t.insert row) := by
  rw [Table.exists?_eq_false] at hfree
  intro i hi j hj hsame
  rw [Table.insert_ids, mem_append, mem_singleton] at hi hj
  obtain hi | rfl := hi
  · rw [Table.insert_row_of_mem _ _ hi] at hsame
    obtain hj | rfl := hj
    · rw [Table.insert_row_of_mem _ _ hj] at hsame
      exact h i hi j hj hsame
    · rw [Table.insert_row_fresh, sameBucket_iff] at hsame
      have htrue : sameBucket row (t.row i) = true :=
        sameBucket_iff.2 ⟨hsame.1.symm, hsame.2.1.symm, hsame.2.2.symm⟩
      exact absurd ((hfree i hi).symm.trans htrue) Bool.false_ne_true
  · obtain hj | rfl := hj
    · rw [Table.insert_row_of_mem _ _ hj, Table.insert_row_fresh] at hsame
      exact absurd ((hfree j hj).symm.trans hsame) Bool.false_ne_true
    · rfl

theorem UniqueBuckets.insertAll {rows : List NetworkMonitorStatistic} (h : UniqueBuckets t)
    (hfree : ∀ row ∈ rows, t.exists? (sameBucket row) = false)
    (hrows : rows.Pairwise fun a b ↦ sameBucket a b = false) :
    UniqueBuckets (rows.foldl Table.insert t) := by
  induction rows generalizing t with
  | nil => exact h
  | cons row rows ih =>
    obtain ⟨hrow, hfree⟩ := forall_mem_cons.1 hfree
    obtain ⟨hne, hrows⟩ := pairwise_cons.1 hrows
    refine ih (h.insert hrow) (fun other hother ↦ ?_) hrows
    rw [Table.exists?_eq_false]
    intro i hi
    rw [Table.insert_ids, mem_append, mem_singleton] at hi
    obtain hi | rfl := hi
    · rw [Table.insert_row_of_mem _ _ hi]
      exact (Table.exists?_eq_false _).1 (hfree other hother) i hi
    · rw [Table.insert_row_fresh, Bool.eq_false_iff]
      refine fun hsame ↦ Bool.eq_false_iff.1 (hne other hother) (sameBucket_iff.2 ?_)
      exact (sameBucket_iff.1 hsame).imp Eq.symm fun h ↦ h.imp Eq.symm Eq.symm

end Store

/-! ### Quantities -/

/-- A quantity that a statistic has as much of as the rows it is made of, where these are sound. -/
structure Quantity (M : Type) [AddCommMonoid M] where
  /-- The quantity of a check. -/
  check : NetworkMonitorCheck → M
  /-- The quantity of a statistic. -/
  statistic : NetworkMonitorStatistic → M
  /-- The checks that add up. -/
  soundCheck : NetworkMonitorCheck → Prop
  /-- The statistics that add up. -/
  sound : NetworkMonitorStatistic → Prop
  aggregated : ∀ seconds key rows, (∀ row ∈ rows, soundCheck row) →
    sound (aggregated seconds key rows) ∧
      statistic (Monitor.aggregated seconds key rows) = (rows.map check).sum
  rolledUp : ∀ seconds key rows, (∀ row ∈ rows, sound row) → sound (rolledUp seconds key rows) ∧
      statistic (Monitor.rolledUp seconds key rows) = (rows.map statistic).sum

/-- Monitors and times that no bucket of a valid time straddles. -/
structure Window where
  contains : ℕ → DateTime → Bool
  valid : DateTime → Prop
  valid_bucketStart : ∀ seconds ∈ Flow.resolutions, ∀ time, valid time →
    valid (bucketStart time seconds)
  contains_bucketStart : ∀ seconds ∈ Flow.resolutions, ∀ time, valid time → ∀ monitorId,
    contains monitorId (bucketStart time seconds) = contains monitorId time

section Total

variable {M ρ : Type} [AddCommMonoid M] (q : Quantity M) (w : Window) {i : ℕ} {now : DateTime}

/-- The quantity of a check in a window. -/
def Quantity.checkIn (row : NetworkMonitorCheck) : M :=
  if w.contains row.monitorId row.checkedAt then q.check row else 0

/-- The quantity of a statistic in a window. -/
def Quantity.statisticIn (row : NetworkMonitorStatistic) : M :=
  if w.contains row.monitorId row.bucketStart then q.statistic row else 0

/-- The total of a quantity over a window. -/
def Quantity.total (s : MonitorHistory) : M :=
  s.statistics.sum (q.statisticIn w) + s.checks.sum (q.checkIn w)

/-- The total with what the session has not flushed. -/
def Quantity.sessionTotal (s : RetentionSession) : M :=
  q.total w s.toMonitorHistory + (s.pending.map (q.statisticIn w)).sum

/-- The rows add up. -/
structure Sound (s : MonitorHistory) : Prop where
  checks : ∀ i ∈ s.checks.ids, q.soundCheck (s.checks.row i) ∧ w.valid (s.checks.row i).checkedAt
  statistics : ∀ i ∈ s.statistics.ids,
    q.sound (s.statistics.row i) ∧ w.valid (s.statistics.row i).bucketStart

/-- The rows of a session add up. -/
structure SoundSession (s : RetentionSession) : Prop extends Sound q w s.toMonitorHistory where
  pending : ∀ row ∈ s.pending, q.sound row ∧ w.valid row.bucketStart

variable {q w}

/-- A sum over the rows of a group, which are all in the window or all outside. -/
theorem sum_ite {rows : List ρ} {p : ρ → Bool} {amount : ρ → M} {b : Bool}
    (h : ∀ row ∈ rows, p row = b) :
    (rows.map fun row ↦ if p row then amount row else 0).sum =
      if b then (rows.map amount).sum else 0 := by
  induction rows with
  | nil => simp
  | cons row rows ih =>
    rw [map_cons, sum_cons, ih fun r hr ↦ h r (mem_cons_of_mem _ hr),
      h row mem_cons_self, map_cons, sum_cons]
    cases b with
    | true => rfl
    | false => exact add_zero 0

theorem mem_dueChecks (h : i ∈ (dueChecks s cutoff bucketSeconds).take rowLimit) :
    i ∈ s.checks.ids ∧ (s.checks.row i).checkedAt < bucketStart cutoff bucketSeconds := by
  have hmem := (mem_insertionSort _).1 (mem_of_mem_take h)
  obtain ⟨hi, hlt⟩ := s.checks.mem_select.1 hmem
  exact ⟨hi, of_decide_eq_true hlt⟩

theorem dueChecks_subset (cutoff : DateTime) (bucketSeconds : ℕ) :
    (dueChecks s cutoff bucketSeconds).take rowLimit ⊆ s.checks.ids :=
  fun _ hi ↦ (mem_dueChecks hi).1

theorem nodup_dueChecks : ((dueChecks s cutoff bucketSeconds).take rowLimit).Nodup :=
  ((perm_insertionSort _ _).nodup_iff.2 (s.checks.nodup.filter _)).sublist
    (take_sublist _ _)

theorem mem_dueStatistics
    (h : i ∈ (dueStatistics s sourceSeconds cutoff targetSeconds).take rowLimit) :
    i ∈ s.statistics.ids ∧ (s.statistics.row i).bucketSeconds = sourceSeconds ∧
      (s.statistics.row i).bucketStart < bucketStart cutoff targetSeconds := by
  have hmem := (mem_insertionSort _).1 (mem_of_mem_take h)
  obtain ⟨hi, hdue⟩ := s.statistics.mem_select.1 hmem
  exact ⟨hi, of_decide_eq_true hdue⟩

theorem dueStatistics_subset (sourceSeconds : ℕ) (cutoff : DateTime) (targetSeconds : ℕ) :
    (dueStatistics s sourceSeconds cutoff targetSeconds).take rowLimit ⊆ s.statistics.ids :=
  fun _ hi ↦ (mem_dueStatistics hi).1

theorem nodup_dueStatistics :
    ((dueStatistics s sourceSeconds cutoff targetSeconds).take rowLimit).Nodup :=
  ((perm_insertionSort _ _).nodup_iff.2 (s.statistics.nodup.filter _)).sublist
    (take_sublist _ _)

/-- The statistics of the groups have what the rows have. -/
theorem sum_groups {make : ℕ × DateTime → List ρ → NetworkMonitorStatistic}
    {seconds : ℕ} (hbuckets : MakesBuckets make seconds) (hsecs : seconds ∈ Flow.resolutions)
    (id : ρ → ℕ) (time : ρ → DateTime) (amount : ρ → M) {rows : List ρ}
    (hvalid : ∀ row ∈ rows, w.valid (time row))
    (hmake : ∀ key group, (∀ row ∈ group, row ∈ rows) →
      q.statistic (make key group) = (group.map amount).sum) :
    ((Dict.groupBy (fun row ↦ (id row, bucketStart (time row) seconds)) rows).items.map
      fun group ↦ q.statisticIn w (make group.1 group.2)).sum =
    (rows.map fun row ↦ if w.contains (id row) (time row) then amount row else 0).sum := by
  rw [← Dict.total_groupBy (fun row ↦ (id row, bucketStart (time row) seconds))]
  refine congrArg sum (map_congr_left fun group hgroup ↦ ?_)
  have hrows : ∀ row ∈ group.2,
      row ∈ rows ∧ (id row, bucketStart (time row) seconds) = group.1 :=
    fun _ hrow ↦ Dict.mem_groupBy hgroup hrow
  have hcontains : ∀ row ∈ group.2,
      w.contains (id row) (time row) = w.contains group.1.1 group.1.2 := by
    intro row hrow
    obtain ⟨hmem, hkey⟩ := hrows row hrow
    rw [← hkey]
    exact (w.contains_bucketStart _ hsecs _ (hvalid row hmem) _).symm
  obtain ⟨hid, hstart, -⟩ := hbuckets group.1 group.2
  rw [Quantity.statisticIn, hid, hstart, hmake _ _ fun row hrow ↦ (hrows row hrow).1]
  exact (sum_ite hcontains).symm

section Session

variable {u : RetentionSession}

/-- What a call takes is sound. -/
theorem Sound.dueChecks (h : Sound q w s) (cutoff : DateTime) (bucketSeconds : ℕ) :
    ∀ row ∈ s.checks.rows ((dueChecks s cutoff bucketSeconds).take rowLimit),
      q.soundCheck row ∧ w.valid row.checkedAt := by
  intro row hrow
  obtain ⟨i, hi, rfl⟩ := mem_map.1 hrow
  exact h.checks i (mem_dueChecks hi).1

theorem Sound.dueStatistics (h : Sound q w s) (sourceSeconds : ℕ) (cutoff : DateTime)
    (targetSeconds : ℕ) :
    ∀ row ∈ s.statistics.rows ((dueStatistics s sourceSeconds cutoff targetSeconds).take rowLimit),
      q.sound row ∧ w.valid row.bucketStart := by
  intro row hrow
  obtain ⟨i, hi, rfl⟩ := mem_map.1 hrow
  exact h.statistics i (mem_dueStatistics hi).1

/-- **Summing up checks** in free buckets keeps the totals. -/
theorem total_aggregateChecks (h : Sound q w u.toMonitorHistory)
    (hsecs : bucketSeconds ∈ Flow.resolutions)
    (hclear : isClear (aggregated bucketSeconds)
      (checkGroups u.toMonitorHistory cutoff bucketSeconds).items u.statistics = true) :
    q.sessionTotal w (aggregateChecks u cutoff bucketSeconds) = q.sessionTotal w u := by
  have hdue := h.dueChecks cutoff bucketSeconds
  have hgroups := sum_groups makesBuckets_aggregated hsecs (·.monitorId) (·.checkedAt) q.check
    (fun row hrow ↦ (hdue row hrow).2) fun key group hgroup ↦
      (q.aggregated bucketSeconds key group fun row hrow ↦ (hdue row (hgroup row hrow)).1).2
  have hdelete := u.checks.sum_delete (q.checkIn w) (dueChecks_subset cutoff bucketSeconds)
    nodup_dueChecks
  have hnew : ((newBuckets (aggregated bucketSeconds)
      (checkGroups u.toMonitorHistory cutoff bucketSeconds).items u.statistics).map
        (q.statisticIn w)).sum =
      ((u.checks.rows ((Monitor.dueChecks u.toMonitorHistory cutoff bucketSeconds).take
        rowLimit)).map (q.checkIn w)).sum := by
    rw [newBuckets_of_isClear hclear, map_map]
    exact hgroups
  rw [Quantity.sessionTotal, Quantity.sessionTotal, Quantity.total, Quantity.total,
    aggregateChecks, map_append, sum_append, hnew, ← hdelete]
  ac_rfl

/-- **Summing up statistics** in free buckets keeps the totals. -/
theorem total_rollupStatistics (h : Sound q w u.toMonitorHistory)
    (hsecs : targetSeconds ∈ Flow.resolutions)
    (hclear : isClear (rolledUp targetSeconds)
      (statisticGroups u.toMonitorHistory sourceSeconds cutoff targetSeconds).items
        u.statistics = true) :
    q.sessionTotal w (rollupStatistics u sourceSeconds cutoff targetSeconds) =
      q.sessionTotal w u := by
  have hdue := h.dueStatistics sourceSeconds cutoff targetSeconds
  have hgroups := sum_groups makesBuckets_rolledUp hsecs (·.monitorId) (·.bucketStart)
    q.statistic (fun row hrow ↦ (hdue row hrow).2) fun key group hgroup ↦
      (q.rolledUp targetSeconds key group fun row hrow ↦ (hdue row (hgroup row hrow)).1).2
  have hdelete := u.statistics.sum_delete (q.statisticIn w)
    (dueStatistics_subset sourceSeconds cutoff targetSeconds) nodup_dueStatistics
  have hnew : ((newBuckets (rolledUp targetSeconds)
      (statisticGroups u.toMonitorHistory sourceSeconds cutoff targetSeconds).items
        u.statistics).map (q.statisticIn w)).sum =
      ((u.statistics.rows ((Monitor.dueStatistics u.toMonitorHistory sourceSeconds cutoff
        targetSeconds).take rowLimit)).map (q.statisticIn w)).sum := by
    rw [newBuckets_of_isClear hclear, map_map]
    exact hgroups
  rw [Quantity.sessionTotal, Quantity.sessionTotal, Quantity.total, Quantity.total,
    rollupStatistics, map_append, sum_append, hnew, ← hdelete]
  ac_rfl

/-! ### Soundness -/

theorem SoundSession.aggregate (h : SoundSession q w u)
    (hsecs : bucketSeconds ∈ Flow.resolutions) :
    SoundSession q w (aggregateChecks u cutoff bucketSeconds) where
  checks i hi := h.checks i (u.checks.mem_delete.1 hi).1
  statistics := h.statistics
  pending row hrow := by
    obtain hrow | hrow := mem_append.1 hrow
    · exact h.pending row hrow
    obtain ⟨-, group, hgroup, rfl⟩ := mem_newBuckets hrow
    have hdue := h.dueChecks cutoff bucketSeconds
    refine ⟨(q.aggregated _ _ _ fun row hrow ↦ (hdue row (Dict.mem_groupBy hgroup hrow).1).1).1, ?_⟩
    obtain ⟨row, hrow, hkey⟩ := Dict.exists_of_mem_groupBy hgroup
    have hvalid := w.valid_bucketStart _ hsecs _ (hdue row hrow).2
    exact (congrArg Prod.snd hkey ▸ hvalid : w.valid group.1.2)

theorem SoundSession.rollup (h : SoundSession q w u)
    (hsecs : targetSeconds ∈ Flow.resolutions) :
    SoundSession q w (rollupStatistics u sourceSeconds cutoff targetSeconds) where
  checks := h.checks
  statistics i hi := h.statistics i (u.statistics.mem_delete.1 hi).1
  pending row hrow := by
    obtain hrow | hrow := mem_append.1 hrow
    · exact h.pending row hrow
    obtain ⟨-, group, hgroup, rfl⟩ := mem_newBuckets hrow
    have hdue := h.dueStatistics sourceSeconds cutoff targetSeconds
    refine ⟨(q.rolledUp _ _ _ fun row hrow ↦ (hdue row (Dict.mem_groupBy hgroup hrow).1).1).1, ?_⟩
    obtain ⟨row, hrow, hkey⟩ := Dict.exists_of_mem_groupBy hgroup
    have hvalid := w.valid_bucketStart _ hsecs _ (hdue row hrow).2
    exact (congrArg Prod.snd hkey ▸ hvalid : w.valid group.1.2)

theorem SoundSession.commit (h : SoundSession q w u) : Sound q w u.commit where
  checks := h.checks
  statistics := forall_insertAll (p := fun row ↦ q.sound row ∧ w.valid row.bucketStart)
    h.statistics h.pending

/-- A commit flushes what the session holds. -/
theorem total_commit (u : RetentionSession) : q.total w u.commit = q.sessionTotal w u := by
  rw [Quantity.total, RetentionSession.commit, sum_insertAll, Quantity.sessionTotal, Quantity.total]
  ac_rfl

end Session

/-! ### Runs -/

/-- The buckets of the three calls of `enforce_retention` are free. -/
def retainsClear (s : MonitorHistory) (now : DateTime) : Bool :=
  let s₁ := aggregateChecks { s with } (now - days 30) 300
  let s₂ := rollupStatistics s₁ 300 (now - days 90) 3600
  isClear (aggregated 300) (checkGroups s (now - days 30) 300).items s.statistics &&
    isClear (rolledUp 3600)
      (statisticGroups s₁.toMonitorHistory 300 (now - days 90) 3600).items s₁.statistics &&
    isClear (rolledUp 86400)
      (statisticGroups s₂.toMonitorHistory 3600 (now - days 365) 86400).items s₂.statistics

/-- No call of the retention comes upon a bucket that has its statistic already. -/
def undisturbed (s : MonitorHistory) : RetentionEvent → Bool
  | .check _ _ => true
  | .retain elapsed => isThrottled s (s.clock + elapsed) || retainsClear s (s.clock + elapsed)

theorem Sound.session (h : Sound q w s) : SoundSession q w { s with } :=
  ⟨h, fun _ hrow ↦ absurd hrow not_mem_nil⟩

theorem Sound.retain (h : Sound q w s) (now : DateTime) :
    Sound q w (enforceRetention s now).commit := by
  rw [enforceRetention]
  split
  · exact h.session.commit
  · have h₁ : SoundSession q w (aggregateChecks { s with } (now - days 30) 300) :=
      h.session.aggregate (by decide)
    have h₂ : SoundSession q w (rollupStatistics _ 300 (now - days 90) 3600) :=
      h₁.rollup (by decide)
    have h₃ : SoundSession q w (rollupStatistics _ 3600 (now - days 365) 86400) :=
      h₂.rollup (by decide)
    exact ⟨h₃.commit.checks, h₃.commit.statistics⟩

/-- **One run of the retention.** -/
theorem total_enforceRetention (h : Sound q w s)
    (hclear : (isThrottled s now || retainsClear s now) = true) :
    q.total w (enforceRetention s now).commit = q.total w s := by
  have hbef : q.sessionTotal w { s with } = q.total w s := add_zero _
  rw [total_commit, ← hbef, enforceRetention]
  split
  · rfl
  next hthrottled =>
    rw [Bool.eq_false_iff.2 hthrottled, Bool.false_or, retainsClear, Bool.and_eq_true,
      Bool.and_eq_true] at hclear
    obtain ⟨⟨hclear₁, hclear₂⟩, hclear₃⟩ := hclear
    have h₁ : SoundSession q w (aggregateChecks { s with } (now - days 30) 300) :=
      h.session.aggregate (by decide)
    have h₂ : SoundSession q w (rollupStatistics _ 300 (now - days 90) 3600) :=
      h₁.rollup (by decide)
    have htotal₁ := total_aggregateChecks h.session.toSound (by decide) hclear₁
    have htotal₂ := total_rollupStatistics h₁.toSound (by decide) hclear₂
    have htotal₃ := total_rollupStatistics h₂.toSound (by decide) hclear₃
    exact htotal₃.trans (htotal₂.trans htotal₁)

/-- The checks that a run records. -/
def newChecks (clock : DateTime) : List RetentionEvent → List NetworkMonitorCheck
  | [] => []
  | .check elapsed row :: es =>
    { row with checkedAt := clock + elapsed } :: newChecks (clock + elapsed) es
  | .retain elapsed :: es => newChecks (clock + elapsed) es

theorem total_recordCheck (row : NetworkMonitorCheck) (now : DateTime) :
    q.total w (recordCheck s row now) =
      q.total w s + q.checkIn w { row with checkedAt := now } := by
  rw [Quantity.total, Quantity.total, add_assoc]
  exact congrArg (s.statistics.sum (q.statisticIn w) + ·) (s.checks.sum_insert _ _)

theorem Sound.check (h : Sound q w s) {row : NetworkMonitorCheck}
    (hrow : q.soundCheck { row with checkedAt := now } ∧ w.valid now) :
    Sound q w (recordCheck s row now) where
  checks i hi := by
    rw [recordCheck, Table.insert_ids, mem_append, mem_singleton] at hi
    obtain hi | rfl := hi
    · rw [recordCheck, Table.insert_row_of_mem _ _ hi]
      exact h.checks i hi
    · rw [recordCheck, Table.insert_row_fresh]
      exact hrow
  statistics := h.statistics

/-- **The totals grow by the new checks.** -/
theorem total_run (es : List RetentionEvent) (h : Sound q w s)
    (hnew : ∀ row ∈ newChecks s.clock es, q.soundCheck row ∧ w.valid row.checkedAt)
    (hclear : retentionMachine.Admissible (undisturbed · · = true) s es) :
    q.total w (retentionMachine.run s es) =
      q.total w s + ((newChecks s.clock es).map (q.checkIn w)).sum := by
  induction es generalizing s with
  | nil => rw [Machine.run_nil, newChecks, map_nil, sum_nil, add_zero]
  | cons e es ih =>
    obtain ⟨hstep, hrest⟩ := hclear
    cases e with
    | check elapsed row =>
      obtain ⟨hrow, hnew⟩ := forall_mem_cons.1 hnew
      have hnext := ih (s := recordCheck s row (s.clock + elapsed)) (h.check hrow) hnew hrest
      rw [Machine.run_cons, newChecks, map_cons, sum_cons, ← add_assoc, ← total_recordCheck]
      exact hnext
    | retain elapsed =>
      have hsound := h.retain (s.clock + elapsed)
      have hnext := ih (s := retentionMachine.step s (.retain elapsed))
        ⟨hsound.checks, hsound.statistics⟩ hnew hrest
      rw [Machine.run_cons, newChecks, hnext]
      exact congrArg (· + _) (total_enforceRetention h hstep)

end Total

end Kaya.Monitor
