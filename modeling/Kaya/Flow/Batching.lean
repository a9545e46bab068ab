import Kaya.Flow.SessionKeys

/-!
# One batch or two

Two batches processed and committed one after the other, against the same records processed as one
batch (`batching_iff`). The rollups are the same when the postings are, so the comparison is between
two sessions that see the same records: the session of the one batch, and the session that the
second batch begins on the committed rows of the first. `Parallel` relates them.

They can differ in what they see of the first batch. The second session sees every counter of the
first batch; in the one session a counter that is new in the batch is **unwritten** and invisible
until some flush. `Reused` says when that matters: a record of the second part is for a connection
that the first part left unwritten. The one batch then writes the connection twice and fails.
-/

namespace Kaya.Flow

open List

variable {clock : HostClock} {now : DateTime} {sourceId : Option ℕ} {db db' : Database}
  {a b : List NormalizedFlowRecord} {s : Session}

/-! ### The comparison -/

/-- Two transactions, one for each part. -/
def ingestTwice (clock : HostClock) (now : DateTime) (sourceId : Option ℕ)
    (a b : List NormalizedFlowRecord) (db : Database) : Option Database :=
  (ingest clock now sourceId a db).bind (ingest clock now sourceId b)

/-- The same totals in every rollup, and the same counters. -/
structure SameAccounts (db db' : Database) : Prop where
  flow : ∀ q, flowTotal q db.flowAggregates = flowTotal q db'.flowAggregates
  accounting : ∀ q,
    accountingTotal q db.accountingAggregates = accountingTotal q db'.accountingAggregates
  endpoint : ∀ q, endpointTotal q db.endpointAggregates = endpointTotal q db'.endpointAggregates
  device : ∀ q, deviceTotal q db.deviceAggregates = deviceTotal q db'.deviceAggregates
  counters : db.counterStates = db'.counterStates

/-- A record of `b` is a counted update of a connection that is new in `a`, and no record in between
has a new source. -/
def Reused (sourceId : Option ℕ) (a b : List NormalizedFlowRecord) (db : Database) : Prop :=
  ∃ k a₁ r a₂ b₁ s b₂, a = a₁ ++ r :: a₂ ∧ b = b₁ ++ s :: b₂ ∧
    Waiting sourceId db.session.keys k a₁ r (a₂ ++ b₁ ++ [s]) ∧
    Counted sourceId db.session.keys (a ++ b₁) s k

/-- The one stored counter of its connection, to which a counted update of `a` is not late. -/
def Refreshed (sourceId : Option ℕ) (a : List NormalizedFlowRecord) (db : Database)
    (c : TrafficFlowCounterState) : Prop :=
  db.counterStates.filter (·.key = c.key) = [c] ∧ ∃ a₁ x a₂, a = a₁ ++ x :: a₂ ∧
    Counted sourceId db.session.keys a₁ x c.key ∧ c.lastEventAt.any (x.observedAt < ·) = false

/-- No record of `b` has an event key whose stored row has expired, and none is a counted update of a
connection whose stored counter has expired, unless `a` refreshes that counter. -/
structure NoStale (now : DateTime) (sourceId : Option ℕ) (a b : List NormalizedFlowRecord)
    (db : Database) : Prop where
  claims : ∀ r ∈ b, ∀ row ∈ db.deduplication,
    row.eventKey = eventKey r (effectiveSource sourceId r) → now ≤ row.expiresAt
  counters : ∀ b₁ r b₂ k, b = b₁ ++ r :: b₂ → Counted sourceId db.session.keys (a ++ b₁) r k →
    ∀ c ∈ db.counterStates, c.key = k → now ≤ c.expiresAt ∨ Refreshed sourceId a db c

/-! ### Repeating a connection -/

/-- **A reused connection makes the one batch fail.** -/
theorem ingest_eq_none_of_reused (h : Reused sourceId a b db) :
    ingest clock now sourceId (a ++ b) db = none := by
  obtain ⟨k, a₁, r, a₂, b₁, s, b₂, rfl, rfl, hwait, hcounted⟩ := h
  have hsplit : a₁ ++ r :: a₂ ++ (b₁ ++ s :: b₂) = (a₁ ++ r :: a₂ ++ b₁ ++ [s]) ++ b₂ := by simp
  rw [hsplit]
  refine ingest_eq_none_of_not_nodup ?_
  have hkeys : db.session.keys.unwritten = [] := by rw [keys_session]
  obtain ⟨hknown, hsrc⟩ := forall_mem_append.1 hwait.known
  have hunwritten : k ∈ (db.session.keys.run sourceId (a₁ ++ r :: a₂ ++ b₁)).unwritten := by
    rw [SessionKeys.mem_unwritten_iff hkeys]
    exact ⟨a₁, r, a₂ ++ b₁, by simp, hwait.stored, hwait.first, hwait.counted, hknown⟩
  have hdisjoint : Disjoint db.session.keys.stored db.session.keys.unwritten := by
    rw [hkeys]
    exact disjoint_nil_right _
  have hsto : k ∉ (db.session.keys.run sourceId (a₁ ++ r :: a₂ ++ b₁)).stored := fun hmem ↦
    SessionKeys.disjoint_run hdisjoint hmem hunwritten
  have hmem : effectiveSource sourceId s ∈
      (db.session.keys.run sourceId (a₁ ++ r :: a₂ ++ b₁)).sources := by
    rw [SessionKeys.mem_sources_run]
    refine (hsrc s (mem_singleton_self s)).imp_right ?_
    rintro ⟨y, hy, heq⟩
    exact ⟨y, by simp only [mem_append, mem_cons] at hy ⊢; tauto, heq⟩
  obtain ⟨hkey, hevent⟩ := SessionKeys.counted_run_iff.2 hcounted
  rw [SessionKeys.run_concat, SessionKeys.unwritten_step hmem hkey hevent hsto]
  intro hnodup
  exact (nodup_append.1 hnodup).2.2 k hunwritten k (mem_singleton_self k) rfl

/-- A look-up of a source claims no event key. -/
theorem claims_ensureState {s s' : Session} {source : ℕ}
    (halign : s.counterStates.Aligned TrafficFlowCounterState.key)
    (h : ensureState s source = some s') : s'.keys.claims = s.keys.claims := by
  rw [keys_ensureState halign h, SessionKeys.look]
  split
  · rfl
  · rfl

/-- What it writes was not stored. -/
theorem SessionKeys.count_look {keys : SessionKeys} {k : CounterKey} {source : ℕ}
    (h : List.Disjoint keys.stored keys.unwritten) (hcount : keys.stored.count k = 1) :
    (keys.look source).stored.count k = 1 := by
  rw [look]
  split
  · exact hcount
  · have hmem : k ∈ keys.stored := count_pos_iff.1 (hcount ▸ Nat.one_pos)
    rw [count_append, hcount, count_eq_zero_of_not_mem fun hunwritten ↦ h hmem hunwritten]

/-! ### An open session -/

/-- A commit succeeds when no row is lost and no key is repeated. -/
theorem Session.commit_eq_database (hlost : s.counterStates.lost = false)
    (hdeviceLost : s.deviceAggregates.lost = false)
    (hdevices : ∀ row ∈ s.deviceAggregates.pending, row.unique = none)
    (hnodup : s.keys.unwritten.Nodup)
    (hapart : ∀ c ∈ s.counterStates.pending, ∀ row ∈ s.counterStates.rows,
      row.value.key ≠ c.key) : s.commit = some s.database := by
  have hctr : (s.counterStates.flush fun c ↦ some c.key) = some s.counterStates.values := by
    have hsome : (SessionTable.insertAll (fun c : TrafficFlowCounterState ↦ some c.key)
        (s.counterStates.rows.map Tracked.value) s.counterStates.pending).isSome := by
      rw [SessionTable.insertAll_isSome_iff]
      refine ⟨hnodup, fun c hc value hvalue ↦ ?_⟩
      obtain ⟨row, hrow, rfl⟩ := mem_map.1 hvalue
      exact hapart c hc row hrow
    obtain ⟨rows, hrows⟩ := Option.isSome_iff_exists.1 hsome
    rw [SessionTable.flush, hlost, if_neg Bool.false_ne_true, hrows,
      SessionTable.insertAll_eq_some hrows]
    rfl
  have hdevice : s.deviceAggregates.flush TrafficDeviceAggregate.unique =
      some s.deviceAggregates.values := by
    rw [SessionTable.flush, hdeviceLost, if_neg Bool.false_ne_true,
      SessionTable.insertAll_of_forall_none hdevices]
    rfl
  rw [Session.commit, hctr, hdevice]
  rfl

/-- A session that was opened on the committed rows of `db`. What it wrote itself does not expire. -/
structure OpenOn (now : DateTime) (db : Database) (s : Session) : Prop where
  aligned : s.counterStates.Aligned TrafficFlowCounterState.key
  apart : List.Disjoint s.keys.stored s.keys.unwritten
  lost : s.counterStates.lost = false
  deviceLost : s.deviceAggregates.lost = false
  devicePending : ∀ row ∈ s.deviceAggregates.pending, row.unique = none
  claims : ∀ row ∈ s.deduplication, row.expiresAt < now → row ∈ db.deduplication
  counters : ∀ row ∈ s.counterStates.rows, row.value.expiresAt < now → row.value ∈ db.counterStates
  edits : ∀ row ∈ s.counterStates.rows, ∀ c ∈ row.edit, now ≤ c.expiresAt
  pending : ∀ c ∈ s.counterStates.pending, now ≤ c.expiresAt

theorem le_add_counterRetention (now : DateTime) : now ≤ now + counterRetention := by
  have hretention : (0 : ℤ) ≤ counterRetention := by decide
  exact le_add_of_nonneg_right hretention

theorem le_add_dedupRetention (now : DateTime) : now ≤ now + dedupRetention := by
  have hretention : (0 : ℤ) ≤ dedupRetention := by decide
  exact le_add_of_nonneg_right hretention

section Writes

variable {t : SessionTable TrafficFlowCounterState} {k : CounterKey} {r : NormalizedFlowRecord}

theorem lost_writeCounter (k : CounterKey) (r : NormalizedFlowRecord) (now : DateTime) :
    (writeCounter t k r now).lost = t.lost := by
  rw [writeCounter]
  split
  · rfl
  · rfl

theorem mem_writeCounter_rows {row : Tracked TrafficFlowCounterState}
    (h : row ∈ (writeCounter t k r now).rows) : row ∈ t.rows ∨ ∃ old ∈ t.rows,
      old.stored.key = k ∧ row.stored = old.stored ∧
        row.edit = some (advanceCounter old.value r now) := by
  rw [writeCounter] at h
  split at h
  · rcases SessionTable.mem_edit_rows h with hold | ⟨old, hold, hkey, hsto, hedit⟩
    · exact .inl hold
    · exact .inr ⟨old, hold, of_decide_eq_true hkey, hsto, hedit⟩
  · exact .inl h

theorem mem_writeCounter_pending {c : TrafficFlowCounterState}
    (h : c ∈ (writeCounter t k r now).pending) : c ∈ t.pending ∨ c = newCounter k r now := by
  rw [writeCounter] at h
  split at h
  · exact .inl h
  · exact (mem_append.1 h).imp_right mem_singleton.1

end Writes

namespace OpenOn

theorem session (now : DateTime) (db : Database) : OpenOn now db db.session where
  aligned := SessionTable.aligned_ofRows _
  apart := by rw [keys_session]; exact disjoint_nil_right _
  lost := rfl
  deviceLost := rfl
  devicePending row hrow := nomatch hrow
  claims row hrow _ := hrow
  counters row hrow _ := by
    obtain ⟨c, hc, rfl⟩ := mem_map.1 hrow
    exact hc
  edits row hrow c hc := by
    obtain ⟨_, -, rfl⟩ := mem_map.1 hrow
    cases hc
  pending c hc := nomatch hc

variable {s : Session}

/-- What a batch does to a session keeps it open on the same rows. -/
theorem ensureState {s' : Session} (h : OpenOn now db s) {source : ℕ}
    (hs : ensureState s source = some s') : OpenOn now db s' := by
  rcases ensureState_eq_some hs with rfl | rfl
  · exact h
  · refine ⟨SessionTable.aligned_ofRows _, ?_, rfl, rfl, forall_mem_nil _, h.claims,
      fun row hrow hdead ↦ ?_, fun row hrow c hc ↦ ?_, fun c hc ↦ nomatch hc⟩
    · rw [keys_session]
      exact disjoint_nil_right _
    · obtain ⟨c, hc, rfl⟩ := mem_map.1 hrow
      rcases mem_append.1 hc with hc | hc
      · obtain ⟨old, hold, rfl⟩ := mem_map.1 hc
        exact h.counters old hold hdead
      · exact absurd hdead (not_lt.2 (h.pending c hc))
    · obtain ⟨_, -, rfl⟩ := mem_map.1 hrow
      cases hc

theorem admitRecord (h : OpenOn now db s) (source : ℕ) (r : NormalizedFlowRecord) :
    OpenOn now db (admitRecord now source r s).1 := by
  have hapart : Disjoint (Flow.admitRecord now source r s).1.keys.stored
      (Flow.admitRecord now source r s).1.keys.unwritten := by
    rw [keys_admitRecord]
    exact SessionKeys.disjoint_claim h.apart r
  have hclaims : ∀ row ∈ (claimEvent s source (eventKey r source) now).deduplication,
      row.expiresAt < now → row ∈ db.deduplication := by
    intro row hrow hdead
    rcases mem_append.1 hrow with hrow | hrow
    · exact h.claims row hrow hdead
    · rw [mem_singleton.1 hrow] at hdead
      exact absurd hdead (not_lt.2 (le_add_dedupRetention now))
  rcases admitRecord_cases now source r s with
    ⟨-, heq⟩ | ⟨-, ⟨-, heq⟩ | ⟨k, -, ⟨-, heq⟩ | ⟨charge, -, heq⟩⟩⟩
  · rw [heq]
    exact h
  · rw [heq] at hapart ⊢
    exact { h with apart := hapart, claims := hclaims }
  · rw [heq] at hapart ⊢
    exact { h with apart := hapart, claims := hclaims }
  · rw [heq] at hapart ⊢
    refine ⟨aligned_writeCounter h.aligned k r now, hapart, ?_, h.deviceLost, h.devicePending,
      hclaims, fun row hrow hdead ↦ ?_, fun row hrow c hc ↦ ?_, fun c hc ↦ ?_⟩
    · exact (lost_writeCounter k r now).trans h.lost
    · rcases mem_writeCounter_rows hrow with hold | ⟨old, -, -, -, hedit⟩
      · exact h.counters row hold hdead
      · rw [Tracked.value, hedit] at hdead
        exact absurd hdead (not_lt.2 (le_add_counterRetention now))
    · rcases mem_writeCounter_rows hrow with hold | ⟨old, -, -, -, hedit⟩
      · exact h.edits row hold c hc
      · rw [hedit] at hc
        rw [← Option.some.inj hc]
        exact le_add_counterRetention now
    · rcases mem_writeCounter_pending hc with hold | rfl
      · exact h.pending c hold
      · exact le_add_counterRetention now

theorem modifyState (h : OpenOn now db s) {source : ℕ}
    {f : TrafficFlowCollectorState → TrafficFlowCollectorState} :
    OpenOn now db (modifyState s source f) :=
  ⟨h.aligned, h.apart, h.lost, h.deviceLost, h.devicePending, h.claims, h.counters, h.edits,
    h.pending⟩

theorem post (h : OpenOn now db s) (p : Posting) : OpenOn now db (post clock s p) := by
  have hdevices : ∀ (rows : List TrafficDeviceAggregate) (t : SessionTable TrafficDeviceAggregate),
      t.lost = false → (∀ row ∈ t.pending, row.unique = none) →
      (rows.foldl writeDeviceRow t).lost = false ∧
        ∀ row ∈ (rows.foldl writeDeviceRow t).pending, row.unique = none := by
    intro rows
    induction rows with
    | nil => exact fun t hlost hpend ↦ ⟨hlost, hpend⟩
    | cons row rows ih =>
      intro t hlost hpend
      refine ih _ ?_ ?_
      · rw [writeDeviceRow]
        split_ifs
        all_goals exact hlost
      · rw [writeDeviceRow]
        split_ifs with hiface
        · exact hpend
        · refine forall_mem_append.2 ⟨hpend, fun row' hrow' ↦ ?_⟩
          rw [mem_singleton.1 hrow', TrafficDeviceAggregate.unique, hiface, Option.map_none]
        · exact hpend
  obtain ⟨hlost, hpend⟩ := hdevices (deviceRows clock s.inventory p) s.deviceAggregates
    h.deviceLost h.devicePending
  rw [post_eq]
  exact ⟨h.aligned, h.apart, h.lost, hlost, hpend, h.claims, h.counters, h.edits, h.pending⟩

/-- The rollups of a record do not touch what is open. -/
theorem settle {b : Batch} {r : NormalizedFlowRecord} {source : ℕ}
    (h : OpenOn now db (Flow.admitRecord now source r b.session).1) :
    OpenOn now db (settle clock now source b r).session := by
  rw [Flow.settle]
  revert h
  rcases Flow.admitRecord now source r b.session with ⟨s', admission⟩
  intro h
  cases admission with
  | duplicate => exact h.modifyState
  | outOfOrder => exact h.modifyState
  | accepted p => exact (h.post p).modifyState

theorem processRecord {b b' : Batch} {r : NormalizedFlowRecord} (h : OpenOn now db b.session)
    (hb : processRecord clock now sourceId b r = some b') : OpenOn now db b'.session := by
  obtain ⟨s, hs, rfl⟩ := processRecord_eq_some hb
  exact ((h.ensureState hs).admitRecord (effectiveSource sourceId r) r).settle

theorem processAll {b b' : Batch} {records : List NormalizedFlowRecord}
    (h : OpenOn now db b.session) (hb : processAll clock now sourceId b records = some b') :
    OpenOn now db b'.session := by
  induction records generalizing b with
  | nil =>
    obtain rfl : b = b' := Option.some.inj hb
    exact h
  | cons r records ih =>
    simp only [Flow.processAll, Option.bind_eq_bind, Option.bind_eq_some_iff] at hb
    obtain ⟨b₁, hrecord, hrest⟩ := hb
    exact ih (h.processRecord hrecord) hrest

/-- A session commits when it repeats no unwritten connection. -/
theorem commit_eq_some (h : OpenOn now db s) (hnodup : s.keys.unwritten.Nodup) :
    s.commit = some s.database := by
  refine Session.commit_eq_database h.lost h.deviceLost h.devicePending hnodup fun c hc row hrow ↦ ?_
  rw [h.aligned row hrow]
  exact fun heq ↦ h.apart (heq ▸ mem_map_of_mem hrow) (mem_map_of_mem hc)

/-- A connection whose objects are all live may be left out of the rows. -/
theorem drop (h : OpenOn now db s) {k : CounterKey}
    (hlive : ∀ c ∈ s.counterStates.rows.map Tracked.value, c.key = k → now ≤ c.expiresAt) :
    OpenOn now { db with counterStates := db.counterStates.filter (·.key ≠ k) } s :=
  { h with
    counters := fun row hrow hdead ↦ mem_filter.2 ⟨h.counters row hrow hdead,
      decide_eq_true fun hkey ↦
        absurd hdead (not_lt.2 (hlive _ (mem_map_of_mem hrow) hkey))⟩ }

end OpenOn

/-! ### Refreshed counters -/

/-- A connection that is stored once stays so. -/
theorem SessionKeys.count_stored_run {keys : SessionKeys} {k : CounterKey}
    {records : List NormalizedFlowRecord} (h : List.Disjoint keys.stored keys.unwritten)
    (hcount : keys.stored.count k = 1) : (keys.run sourceId records).stored.count k = 1 := by
  induction records generalizing keys with
  | nil => exact hcount
  | cons r records ih =>
    exact ih (disjoint_step h r) (by rw [step, stored_claim, count_look h hcount])

/-- The objects of a connection, by their keys. -/
theorem count_map_key (counters : List TrafficFlowCounterState) (k : CounterKey) :
    (counters.map (·.key)).count k = (counters.filter (·.key = k)).length := by
  rw [count_eq_countP, countP_map, countP_eq_length_filter]
  refine congrArg length (filter_congr fun c _ ↦ ?_)
  rw [Bool.eq_iff_iff, decide_eq_true_iff]
  exact beq_iff_eq

section Refresh

variable {c : TrafficFlowCounterState} {x : NormalizedFlowRecord} {source : ℕ}

/-- Its one object is the stored one, or live. -/
theorem OpenOn.values_eq (h : OpenOn now db s)
    (hdb : db.counterStates.filter (·.key = c.key) = [c])
    (hcount : s.keys.stored.count c.key = 1) :
    ∃ c', (s.counterStates.rows.map Tracked.value).filter (·.key = c.key) = [c'] ∧
      (c' = c ∨ now ≤ c'.expiresAt) := by
  have hkeys : s.keys.stored = (s.counterStates.rows.map Tracked.value).map (·.key) := by
    rw [map_map]
    exact map_congr_left fun row hrow ↦ (h.aligned row hrow).symm
  rw [hkeys, count_map_key] at hcount
  obtain ⟨c', hvalues⟩ := length_eq_one_iff.1 hcount
  refine ⟨c', hvalues, ?_⟩
  by_cases hdead : c'.expiresAt < now
  · obtain ⟨hmem, hkey⟩ := mem_filter.1 (hvalues ▸ mem_singleton_self c')
    obtain ⟨row, hrow, rfl⟩ := mem_map.1 hmem
    have hsto : row.value ∈ db.counterStates.filter (·.key = c.key) :=
      mem_filter.2 ⟨h.counters row hrow hdead, hkey⟩
    rw [hdb] at hsto
    exact .inl (mem_singleton.1 hsto)
  · exact .inr (not_lt.1 hdead)

/-- **A counted update that is not late** leaves no expired object of its connection. -/
theorem OpenOn.admitRecord_live (h : OpenOn now db s)
    (hdb : db.counterStates.filter (·.key = c.key) = [c])
    (hcount : s.keys.stored.count c.key = 1) (hk : counterKey x source = some c.key)
    (hclaimed : claimed s.deduplication (eventKey x source) = false)
    (hlate : c.lastEventAt.any (x.observedAt < ·) = false) :
    ∀ c' ∈ (Flow.admitRecord now source x s).1.counterStates.rows.map Tracked.value,
      c'.key = c.key → now ≤ c'.expiresAt := by
  obtain ⟨c₁, hvalues, hcase⟩ := h.values_eq hdb hcount
  have hfirst : s.counterStates.first? (·.key = c.key) = some c₁ := by
    rw [h.aligned.first?, hvalues, head?_cons]
  intro c' hc' hkey
  have hmem := (mem_filter (p := (·.key = c.key))).2 ⟨hc', decide_eq_true hkey⟩
  rcases admitRecord_cases now source x s with ⟨hold, -⟩ | ⟨-, ⟨hnone, -⟩ | ⟨k, hk', hcases⟩⟩
  · exact absurd (hclaimed.symm.trans hold) Bool.false_ne_true
  · exact absurd (hk.symm.trans hnone) (by simp)
  obtain rfl := Option.some.inj (hk.symm.trans hk')
  rw [hfirst] at hcases
  rcases hcases with ⟨hnone, heq⟩ | ⟨charge, -, heq⟩
  · -- it is late for the counter of an earlier update, which is live
    rw [heq] at hmem
    obtain rfl := mem_singleton.1 (hvalues ▸ hmem : c' ∈ [c₁])
    refine hcase.resolve_left ?_
    rintro rfl
    rw [cumulativeCharge, Option.any_some, hlate, if_neg Bool.false_ne_true] at hnone
    cases hnone
  · rw [heq] at hmem
    have hedit := SessionTable.filter_editFirst (p := (·.key = c.key))
      (f := (advanceCounter · x now)) (fun _ ↦ rfl) (s.counterStates.rows.map Tracked.value)
    dsimp only at hmem
    rw [writeCounter, hfirst, Option.isSome_some, if_pos rfl, h.aligned.rows_edit, hedit,
      hvalues] at hmem
    rw [mem_singleton.1 hmem]
    exact le_add_counterRetention now

/-- An object that has expired by the end of a batch was not refreshed in it. -/
theorem not_refreshed {one : Batch}
    (hone : processAll clock now sourceId { session := db.session } a = some one)
    {row : Tracked TrafficFlowCounterState}
    (hrow : row ∈ one.session.counterStates.rows) (hdead : row.value.expiresAt < now) :
    ¬ Refreshed sourceId a db row.value := by
  rintro ⟨hdb, a₁, x, a₂, rfl, hcounted, hlate⟩
  rw [processAll_append, Option.bind_eq_some_iff] at hone
  obtain ⟨b₁, hbef, hone⟩ := hone
  simp only [processAll, Option.bind_eq_bind, Option.bind_eq_some_iff] at hone
  obtain ⟨b₂, hx, hafter⟩ := hone
  obtain ⟨s, hs, rfl⟩ := processRecord_eq_some hx
  have hopen := (OpenOn.session now db).processAll hbef
  have hkeys := keys_processAll hbef (SessionTable.aligned_ofRows _)
  have hlook := keys_ensureState hopen.aligned hs
  have hsto : db.session.keys.stored.count row.value.key = 1 := by
    rw [keys_session, count_map_key]
    exact congrArg length hdb
  have hcount : s.keys.stored.count row.value.key = 1 := by
    rw [hlook]
    refine SessionKeys.count_look hopen.apart ?_
    rw [hkeys]
    exact SessionKeys.count_stored_run (OpenOn.session now db).apart hsto
  obtain ⟨hk, hevent⟩ := SessionKeys.counted_run_iff.2 hcounted
  have hclaimed : claimed s.deduplication (eventKey x (effectiveSource sourceId x)) = false := by
    rw [← hkeys, ← claims_ensureState hopen.aligned hs] at hevent
    simpa [claimed, Session.keys] using hevent
  have hlive := (hopen.ensureState hs).admitRecord_live hdb hcount hk hclaimed hlate
  have hdrop := ((hopen.ensureState hs).admitRecord _ x).drop hlive
  have hend := (hdrop.settle (b := { b₁ with session := s })).processAll hafter
  exact of_decide_eq_true (mem_filter.1 (hend.counters row hrow hdead)).2 rfl

/-- After the first batch the session is open on the rows that it did not refresh. -/
theorem exists_openOn {one : Batch}
    (hone : processAll clock now sourceId { session := db.session } a = some one) :
    ∃ live : Database, OpenOn now live one.session ∧ live.deduplication = db.deduplication ∧
      ∀ c ∈ live.counterStates, c ∈ db.counterStates ∧ ¬ Refreshed sourceId a db c := by
  classical
  have hopen := (OpenOn.session now db).processAll hone
  refine ⟨{ db with counterStates := db.counterStates.filter (¬ Refreshed sourceId a db ·) },
    { hopen with
      counters := fun row hrow hdead ↦ mem_filter.2
        ⟨hopen.counters row hrow hdead, decide_eq_true (not_refreshed hone hrow hdead)⟩ },
    rfl, fun c hc ↦ ?_⟩
  exact ⟨(mem_filter.1 hc).1, of_decide_eq_true (mem_filter.1 hc).2⟩

end Refresh

/-! ### Two sessions in parallel -/

/-- The session `one` of the single batch beside the session `two` of the second batch. `held` are
the counters that the first batch committed and that `one` has not written yet. -/
structure Parallel (now : DateTime) (held : List TrafficFlowCounterState) (one two : Session) :
    Prop where
  inventory : one.inventory = two.inventory
  states : one.states = two.states
  claims : two.deduplication = one.deduplication.filter fun row ↦ !decide (row.expiresAt < now)
  rows : two.counterStates.rows.map Tracked.value =
    ((one.counterStates.rows.map Tracked.value).filter fun c ↦ !decide (c.expiresAt < now)) ++ held
  pending : one.counterStates.pending = held ++ two.counterStates.pending
  stored : ∀ row ∈ two.counterStates.rows, now ≤ row.stored.expiresAt
  unedited : ∀ row ∈ one.counterStates.rows, row.stored.expiresAt < now → row.edit = none

/-- No expired row has the event key of the record or, if it is not claimed, the connection. -/
structure Current (now : DateTime) (source : ℕ) (r : NormalizedFlowRecord) (db : Database)
    (known : List EventKey) : Prop where
  claims : ∀ row ∈ db.deduplication, row.eventKey = eventKey r source → now ≤ row.expiresAt
  counters : eventKey r source ∉ known → ∀ k, counterKey r source = some k →
    ∀ c ∈ db.counterStates, c.key = k → now ≤ c.expiresAt

namespace Parallel

variable {held : List TrafficFlowCounterState} {one two : Session} {db' : Database}
  {source : ℕ} {r : NormalizedFlowRecord}

section

variable (h : Parallel now held one two)

include h

/-- The unwritten connections of the single batch are not repeated, when those of the first and of
the second batch are not. -/
theorem nodup (htwo : OpenOn now db' two)
    (hheld : (held.map (·.key)).Nodup) (hunwritten : two.keys.unwritten.Nodup) :
    one.keys.unwritten.Nodup := by
  rw [Session.keys, h.pending, map_append]
  refine nodup_append.2 ⟨hheld, hunwritten, fun k hk k' hk' heq ↦ ?_⟩
  obtain ⟨c, hc, rfl⟩ := mem_map.1 hk
  have hvalue : c ∈ two.counterStates.rows.map Tracked.value := by
    rw [h.rows]
    exact mem_append_right _ hc
  obtain ⟨row, hrow, rfl⟩ := mem_map.1 hvalue
  refine htwo.apart ?_ (heq ▸ hk')
  rw [htwo.aligned row hrow]
  exact mem_map_of_mem hrow

/-- A flush of both sessions. -/
theorem flush (hone : OpenOn now db one) :
    Parallel now [] one.database.session two.database.session := by
  have hvalues : ∀ rows : List TrafficFlowCounterState,
      (SessionTable.ofRows rows).rows.map Tracked.value = rows := fun rows ↦ by
    have hmap := SessionTable.values_ofRows rows
    rw [SessionTable.values] at hmap
    exact (append_nil _).symm.trans hmap
  have htwo : two.counterStates.values =
      (one.counterStates.values.filter fun c ↦ !decide (c.expiresAt < now)) := by
    have hpend : (one.counterStates.pending.filter fun c ↦ !decide (c.expiresAt < now)) =
        one.counterStates.pending := by
      refine filter_eq_self.2 fun c hc ↦ ?_
      rw [Bool.not_eq_true', decide_eq_false_iff_not, not_lt]
      exact hone.pending c hc
    rw [SessionTable.values, SessionTable.values, filter_append, hpend, h.rows, h.pending,
      append_assoc]
  refine ⟨h.inventory, h.states, h.claims, ?_, rfl, fun row hrow ↦ ?_, fun row hrow _ ↦ ?_⟩
  · rw [append_nil]
    exact (hvalues _).trans (htwo.trans (congrArg _ (hvalues _).symm))
  · obtain ⟨c, hc, rfl⟩ := mem_map.1 hrow
    have hc : c ∈ two.counterStates.values := hc
    rw [htwo] at hc
    have hlive := (mem_filter.1 hc).2
    rw [Bool.not_eq_true', decide_eq_false_iff_not, not_lt] at hlive
    exact hlive
  · obtain ⟨c, -, rfl⟩ := mem_map.1 hrow
    rfl

/-- The collector state of a source is looked up in both sessions, and either both are flushed or
none is. -/
theorem ensureState (hone : OpenOn now db one)
    (htwo : OpenOn now db' two) (hheld : (held.map (·.key)).Nodup) {two' : Session}
    (hs : Flow.ensureState two source = some two') :
    (source ∈ one.keys.sources ∧ Flow.ensureState one source = some one ∧ two' = two) ∨
      ∃ one', Flow.ensureState one source = some one' ∧ Parallel now [] one' two' := by
  by_cases hsrc : source ∈ one.keys.sources
  · left
    have hany : (two.states.any (·.sourceId = source)) = true := by
      rw [← h.states]
      simpa [Session.keys] using hsrc
    have hany' := hany
    rw [← h.states] at hany'
    rw [Flow.ensureState, if_pos hany] at hs
    refine ⟨hsrc, ?_, (Option.some.inj hs).symm⟩
    rw [Flow.ensureState, if_pos hany']
  · right
    have htwoSource : source ∉ two.keys.sources := by
      simpa [Session.keys, h.states] using hsrc
    have hnodup := h.nodup htwo hheld (nodup_of_ensureState hs htwoSource)
    have hany : ¬ (two.states.any (·.sourceId = source)) = true := by
      simpa [Session.keys] using htwoSource
    have hany' := hany
    rw [← h.states] at hany'
    rw [Flow.ensureState, if_neg hany] at hs
    split at hs
    · rename_i hexists
      have hexists' : (one.inventory.source source).isSome := by rwa [h.inventory]
      rw [Flow.ensureState, if_neg hany', if_pos hexists']
      have hopen : OpenOn now db { one with states := one.states ++ [{ sourceId := source }] } :=
        ⟨hone.aligned, hone.apart, hone.lost, hone.deviceLost, hone.devicePending, hone.claims,
          hone.counters, hone.edits, hone.pending⟩
      have hpar : Parallel now held
          { one with states := one.states ++ [{ sourceId := source }] }
          { two with states := two.states ++ [{ sourceId := source }] } :=
        ⟨h.inventory, congrArg (· ++ _) h.states, h.claims, h.rows, h.pending, h.stored, h.unedited⟩
      refine ⟨_, by rw [Session.flush, hopen.commit_eq_some hnodup, Option.map_some], ?_⟩
      rw [Session.flush_eq_some hs]
      exact hpar.flush hopen
    · cases hs

/-- Both sessions have claimed the event key of a current record, or neither has. -/
theorem claimed_eq (hone : OpenOn now db one) {known : List EventKey}
    (hcur : Current now source r db known) :
    claimed two.deduplication (eventKey r source) =
      claimed one.deduplication (eventKey r source) := by
  rw [h.claims, Bool.eq_iff_iff, claimed, claimed, any_eq_true, any_eq_true]
  constructor
  · rintro ⟨row, hrow, hkey⟩
    exact ⟨row, mem_of_mem_filter hrow, hkey⟩
  · rintro ⟨row, hrow, hkey⟩
    refine ⟨row, mem_filter.2 ⟨hrow, ?_⟩, hkey⟩
    rw [Bool.not_eq_true', decide_eq_false_iff_not]
    intro hdead
    have hlive := hcur.claims row (hone.claims row hrow hdead) (of_decide_eq_true hkey)
    exact absurd hdead (not_lt.2 hlive)

end

/-- The objects of a current connection are live. -/
theorem live_of_key (hone : OpenOn now db one) {k : CounterKey}
    (hlive : ∀ c ∈ db.counterStates, c.key = k → now ≤ c.expiresAt)
    {c : TrafficFlowCounterState} (hc : c ∈ one.counterStates.rows.map Tracked.value)
    (hkey : c.key = k) : (!decide (c.expiresAt < now)) = true := by
  rw [Bool.not_eq_true', decide_eq_false_iff_not]
  intro hdead
  obtain ⟨row, hrow, rfl⟩ := mem_map.1 hc
  exact absurd hdead (not_lt.2 (hlive _ (hone.counters row hrow hdead) hkey))

/-- Both sessions see the same counter of a current connection that is not held. -/
theorem first?_eq (h : Parallel now held one two) (hone : OpenOn now db one)
    (htwo : OpenOn now db' two) {k : CounterKey}
    (hlive : ∀ c ∈ db.counterStates, c.key = k → now ≤ c.expiresAt)
    (hheld : k ∉ held.map (·.key)) :
    two.counterStates.first? (·.key = k) = one.counterStates.first? (·.key = k) := by
  have hnone : (held.filter fun c ↦ c.key = k) = [] := by
    refine filter_eq_nil_iff.2 fun c hc hkey ↦ hheld ?_
    exact of_decide_eq_true hkey ▸ mem_map_of_mem hc
  have hfilter : ((one.counterStates.rows.map Tracked.value).filter fun c ↦
      !decide (c.expiresAt < now)).filter (fun c ↦ c.key = k) =
        (one.counterStates.rows.map Tracked.value).filter fun c ↦ c.key = k := by
    rw [filter_filter]
    refine filter_congr fun c hc ↦ ?_
    by_cases hkey : c.key = k
    · rw [live_of_key hone hlive hc hkey, Bool.and_true]
    · rw [decide_eq_false hkey, Bool.false_and]
  rw [htwo.aligned.first?, hone.aligned.first?, h.rows, filter_append, hnone, append_nil, hfilter]

/-- Claiming the same event key in both sessions. -/
theorem claimEvent (h : Parallel now held one two) (source : ℕ) (key : EventKey) :
    Parallel now held (claimEvent one source key now) (claimEvent two source key now) := by
  refine ⟨h.inventory, h.states, ?_, h.rows, h.pending, h.stored, h.unedited⟩
  have hlive : ([claimRow source key now].filter fun row ↦ !decide (row.expiresAt < now)) =
      [claimRow source key now] := by
    refine filter_cons_of_pos ?_
    rw [Bool.not_eq_true', decide_eq_false_iff_not, not_lt]
    exact le_add_dedupRetention now
  rw [Flow.claimEvent, Flow.claimEvent, filter_append, hlive, h.claims]

/-- Storing the same counter in both sessions. -/
theorem writeCounter (h : Parallel now held one two) (hone : OpenOn now db one)
    (htwo : OpenOn now db' two) {r : NormalizedFlowRecord} {k : CounterKey}
    (hlive : ∀ c ∈ db.counterStates, c.key = k → now ≤ c.expiresAt)
    (hheld : k ∉ held.map (·.key)) :
    Parallel now held { one with counterStates := writeCounter one.counterStates k r now }
      { two with counterStates := writeCounter two.counterStates k r now } := by
  have hfirst := h.first?_eq hone htwo hlive hheld
  refine ⟨h.inventory, h.states, h.claims, ?_, ?_, fun row hrow ↦ ?_, fun row hrow hdead ↦ ?_⟩
  · dsimp only
    rw [Flow.writeCounter, Flow.writeCounter, hfirst]
    split
    · rename_i hsome
      have hexists : ∃ c ∈ one.counterStates.rows.map Tracked.value, decide (c.key = k) = true := by
        obtain ⟨row, hrow, hkey⟩ := mem_map.1 (first?_isSome_iff.1 hsome)
        refine ⟨row.value, mem_map_of_mem hrow, decide_eq_true ?_⟩
        rw [hone.aligned row hrow, hkey]
      rw [htwo.aligned.rows_edit, hone.aligned.rows_edit, h.rows]
      refine SessionTable.editFirst_filter_append held (fun c hc hkey ↦ ?_) (fun c _ ↦ ?_) hexists
      · exact live_of_key hone hlive hc (of_decide_eq_true hkey)
      · rw [Bool.not_eq_true', decide_eq_false_iff_not, not_lt]
        exact le_add_counterRetention now
    · exact h.rows
  · dsimp only
    rw [Flow.writeCounter, Flow.writeCounter, hfirst]
    split
    · exact h.pending
    · rw [SessionTable.add, SessionTable.add, h.pending, append_assoc]
  · rcases mem_writeCounter_rows hrow with hold | ⟨old, hold, -, hsto, -⟩
    · exact h.stored row hold
    · rw [hsto]
      exact h.stored old hold
  · rcases mem_writeCounter_rows hrow with hold | ⟨old, hold, hkey, hsto, -⟩
    · exact h.unedited row hold hdead
    · -- an expired row of the connection would not be current
      rw [hsto] at hdead
      have hvalue : old.value = old.stored := by
        rw [Tracked.value, h.unedited old hold hdead, Option.getD_none]
      have hexpired := live_of_key hone hlive (mem_map_of_mem hold) (by rw [hvalue, hkey])
      rw [hvalue, Bool.not_eq_true', decide_eq_false_iff_not] at hexpired
      exact absurd hdead hexpired

/-- **Admission** decides the same in both sessions. -/
theorem admitRecord (h : Parallel now held one two) (hone : OpenOn now db one)
    (htwo : OpenOn now db' two) (hcur : Current now source r db one.keys.claims)
    (hheld : claimed one.deduplication (eventKey r source) = false →
      ∀ k, counterKey r source = some k → k ∉ held.map (·.key)) :
    (Flow.admitRecord now source r one).2 = (Flow.admitRecord now source r two).2 ∧
      Parallel now held (Flow.admitRecord now source r one).1
        (Flow.admitRecord now source r two).1 := by
  have hclaimed := h.claimed_eq hone hcur
  cases hold : claimed one.deduplication (eventKey r source) with
  | true =>
    rw [hold] at hclaimed
    have hone' : Flow.admitRecord now source r one = (one, .duplicate) := if_pos hold
    have htwo' : Flow.admitRecord now source r two = (two, .duplicate) := if_pos hclaimed
    rw [hone', htwo']
    exact ⟨rfl, h⟩
  | false =>
    rw [hold] at hclaimed
    have hclaim := h.claimEvent source (eventKey r source)
    rcases admitRecord_cases now source r one with ⟨hclaim', -⟩ | ⟨-, hcases⟩
    · rw [hold] at hclaim'
      cases hclaim'
    rcases admitRecord_cases now source r two with ⟨hclaim', -⟩ | ⟨-, hcases'⟩
    · rw [hclaimed] at hclaim'
      cases hclaim'
    cases hk : counterKey r source with
    | none =>
      simp only [hk, true_and, reduceCtorEq, false_and, exists_false, or_false] at hcases hcases'
      rw [hcases, hcases']
      exact ⟨rfl, hclaim⟩
    | some k =>
      have hevent : eventKey r source ∉ one.keys.claims := by
        simpa [claimed, Session.keys] using hold
      have hlive := hcur.counters hevent k hk
      have hfirst := h.first?_eq hone htwo hlive (hheld hold k hk)
      simp only [hk, reduceCtorEq, false_and, false_or, Option.some.injEq, exists_eq_left',
        hfirst] at hcases hcases'
      rcases hcases with ⟨hlate, heq⟩ | ⟨charge, hcharge, heq⟩
      · rcases hcases' with ⟨-, heq'⟩ | ⟨charge', hcharge', -⟩
        · rw [heq, heq']
          exact ⟨rfl, hclaim⟩
        · rw [hlate] at hcharge'
          cases hcharge'
      · rcases hcases' with ⟨hlate', -⟩ | ⟨charge', hcharge', heq'⟩
        · rw [hcharge] at hlate'
          cases hlate'
        · obtain rfl : charge = charge' := Option.some.inj (hcharge.symm.trans hcharge')
          rw [heq, heq']
          exact ⟨rfl, (h.writeCounter hone htwo hlive (hheld hold k hk)).claimEvent source _⟩

theorem modifyState (h : Parallel now held one two)
    {f : TrafficFlowCollectorState → TrafficFlowCollectorState} :
    Parallel now held (modifyState one source f) (modifyState two source f) := by
  refine ⟨h.inventory, ?_, h.claims, h.rows, h.pending, h.stored, h.unedited⟩
  rw [Flow.modifyState, Flow.modifyState, h.states]

theorem post (h : Parallel now held one two) (p : Posting) :
    Parallel now held (post clock one p) (post clock two p) := by
  rw [post_eq, post_eq]
  exact ⟨h.inventory, h.states, h.claims, h.rows, h.pending, h.stored, h.unedited⟩

theorem settle {one two : Batch}
    (hadmission : (Flow.admitRecord now source r one.session).2 =
      (Flow.admitRecord now source r two.session).2)
    (h : Parallel now held (Flow.admitRecord now source r one.session).1
      (Flow.admitRecord now source r two.session).1) :
    Parallel now held (settle clock now source one r).session
      (settle clock now source two r).session := by
  rw [Flow.settle, Flow.settle]
  revert hadmission h
  rcases Flow.admitRecord now source r one.session with ⟨s, admission⟩
  rcases Flow.admitRecord now source r two.session with ⟨s', admission'⟩
  rintro rfl h
  cases admission with
  | duplicate => exact h.modifyState
  | outOfOrder => exact h.modifyState
  | accepted p => exact (h.post p).modifyState

/-- **One record** in both sessions. -/
theorem processRecord {one two two' : Batch} (h : Parallel now held one.session two.session)
    (hone : OpenOn now db one.session) (htwo : OpenOn now db' two.session)
    (hnodup : (held.map (·.key)).Nodup)
    (hcur : Current now (effectiveSource sourceId r) r db one.session.keys.claims)
    (hheld : effectiveSource sourceId r ∈ one.session.keys.sources →
      claimed one.session.deduplication (eventKey r (effectiveSource sourceId r)) = false →
      ∀ k, counterKey r (effectiveSource sourceId r) = some k → k ∉ held.map (·.key))
    (hr : processRecord clock now sourceId two r = some two') :
    recordPosting now sourceId one r = recordPosting now sourceId two r ∧
      ∃ one', processRecord clock now sourceId one r = some one' ∧
        ((effectiveSource sourceId r ∈ one.session.keys.sources ∧
            Parallel now held one'.session two'.session) ∨
          Parallel now [] one'.session two'.session) := by
  obtain ⟨s, hs, rfl⟩ := processRecord_eq_some hr
  obtain ⟨held', s', hs', hpar, hheld', hcase⟩ : ∃ held' s',
      Flow.ensureState one.session (effectiveSource sourceId r) = some s' ∧
      Parallel now held' s' s ∧
      (claimed s'.deduplication (eventKey r (effectiveSource sourceId r)) = false →
        ∀ k, counterKey r (effectiveSource sourceId r) = some k → k ∉ held'.map (·.key)) ∧
      (effectiveSource sourceId r ∈ one.session.keys.sources ∧ held' = held ∨ held' = []) := by
    rcases h.ensureState hone htwo hnodup hs with ⟨hsrc, hs', rfl⟩ | ⟨s', hs', hpar⟩
    · exact ⟨held, _, hs', h, hheld hsrc, .inl ⟨hsrc, rfl⟩⟩
    · exact ⟨[], s', hs', hpar, fun _ k _ ↦ not_mem_nil, .inr rfl⟩
  have hopen := hone.ensureState hs'
  have hopen' := htwo.ensureState hs
  rw [← claims_ensureState hone.aligned hs'] at hcur
  obtain ⟨hadmission, hnext⟩ := hpar.admitRecord hopen hopen' hcur hheld'
  refine ⟨?_, _, by rw [Flow.processRecord, hs']; rfl, ?_⟩
  · rw [recordPosting, recordPosting, hs, hs', Option.bind_some, Option.bind_some, hadmission]
  · have hsettle : Parallel now held' (Flow.settle clock now (effectiveSource sourceId r)
        { one with session := s' } r).session (Flow.settle clock now (effectiveSource sourceId r)
          { two with session := s } r).session :=
      settle hadmission hnext
    rcases hcase with ⟨hsrc, rfl⟩ | rfl
    · exact .inl ⟨hsrc, hsettle⟩
    · exact .inr hsettle

end Parallel

/-! ### The second part of the batch -/

/-- The unwritten connections of the first part that no flush has written, with the records since. -/
structure Holds (sourceId : Option ℕ) (first : SessionKeys) (held : List TrafficFlowCounterState)
    (since : List NormalizedFlowRecord) : Prop where
  nodup : (held.map (·.key)).Nodup
  unwritten : ∀ c ∈ held, c.key ∈ first.unwritten
  known : held = [] ∨ ∀ x ∈ since, effectiveSource sourceId x ∈ first.sources

/-- A counted update of a held connection reuses it. -/
theorem reused_of_held {held : List TrafficFlowCounterState}
    {b₁ b₂ : List NormalizedFlowRecord} {s : NormalizedFlowRecord} {k : CounterKey}
    (hheld : Holds sourceId (db.session.keys.run sourceId a) held b₁)
    (hsrc : effectiveSource sourceId s ∈ (db.session.keys.run sourceId (a ++ b₁)).sources)
    (hcounted : Counted sourceId db.session.keys (a ++ b₁) s k) (hk : k ∈ held.map (·.key)) :
    Reused sourceId a (b₁ ++ s :: b₂) db := by
  obtain ⟨c, hc, rfl⟩ := mem_map.1 hk
  have hkeys : db.session.keys.unwritten = [] := by rw [keys_session]
  obtain ⟨a₁, r, a₂, rfl, hwait⟩ :=
    (SessionKeys.mem_unwritten_iff hkeys).1 (hheld.unwritten c hc)
  have hknown := hheld.known.resolve_left (ne_nil_of_mem hc)
  refine ⟨c.key, a₁, r, a₂, b₁, s, b₂, rfl, rfl, ?_, hcounted⟩
  have hbef : ∀ x ∈ a₂ ++ b₁, effectiveSource sourceId x ∈ db.session.keys.sources ∨
      ∃ y ∈ a₁ ++ [r], effectiveSource sourceId y = effectiveSource sourceId x := by
    refine forall_mem_append.2 ⟨hwait.known, fun x hx ↦ ?_⟩
    have hmem := hknown x hx
    rw [append_cons] at hmem
    exact SessionKeys.known_of_mem_sources hwait.known hmem
  refine ⟨hwait.stored, hwait.first, hwait.counted, forall_mem_append.2 ⟨hbef, fun x hx ↦ ?_⟩⟩
  rw [mem_singleton.1 hx]
  have hsplit : a₁ ++ r :: a₂ ++ b₁ = a₁ ++ [r] ++ (a₂ ++ b₁) := by simp
  rw [hsplit] at hsrc
  exact SessionKeys.known_of_mem_sources hbef hsrc

/-- **The second part runs alike** in the single batch and in a batch of its own. -/
theorem processAll_parallel {db' live : Database} (hreused : ¬ Reused sourceId a b db)
    (hcur : ∀ b₁ r b₂, b = b₁ ++ r :: b₂ → Current now (effectiveSource sourceId r) r live
      (db.session.keys.run sourceId (a ++ b₁)).claims) {one two two' : Batch}
    {held : List TrafficFlowCounterState} {b₁ b₂ : List NormalizedFlowRecord}
    (hb : b = b₁ ++ b₂) (h : Parallel now held one.session two.session)
    (hone : OpenOn now live one.session) (htwo : OpenOn now db' two.session)
    (hkeys : one.session.keys = db.session.keys.run sourceId (a ++ b₁))
    (hheld : Holds sourceId (db.session.keys.run sourceId a) held b₁)
    (hrun : processAll clock now sourceId two b₂ = some two') :
    postings clock now sourceId one b₂ = postings clock now sourceId two b₂ ∧
      ∃ one' held', processAll clock now sourceId one b₂ = some one' ∧
        Parallel now held' one'.session two'.session ∧
        Holds sourceId (db.session.keys.run sourceId a) held' b := by
  induction b₂ generalizing one two held b₁ with
  | nil =>
    obtain rfl : two = two' := Option.some.inj hrun
    rw [append_nil] at hb
    exact ⟨rfl, one, held, rfl, h, hb ▸ hheld⟩
  | cons s b₂ ih =>
    simp only [processAll, Option.bind_eq_bind, Option.bind_eq_some_iff] at hrun
    obtain ⟨two₁, hrecord, hrest⟩ := hrun
    have hs := hcur b₁ s b₂ hb
    rw [← hkeys] at hs
    have hfree : effectiveSource sourceId s ∈ one.session.keys.sources →
        claimed one.session.deduplication (eventKey s (effectiveSource sourceId s)) = false →
        ∀ k, counterKey s (effectiveSource sourceId s) = some k → k ∉ held.map (·.key) := by
      intro hsrc hfresh k hk hmem
      have hevent : eventKey s (effectiveSource sourceId s) ∉ one.session.keys.claims := by
        simpa [claimed, Session.keys] using hfresh
      rw [hkeys] at hsrc hevent
      refine hreused ?_
      rw [hb]
      exact reused_of_held hheld hsrc (SessionKeys.counted_run_iff.1 ⟨hk, hevent⟩) hmem
    obtain ⟨hposting, one₁, hone₁, hpar⟩ :=
      h.processRecord hone htwo hheld.nodup hs hfree hrecord
    have hkeys₁ : one₁.session.keys = db.session.keys.run sourceId (a ++ (b₁ ++ [s])) := by
      rw [keys_processRecord hone₁ hone.aligned, hkeys, ← append_assoc, SessionKeys.run_concat]
    obtain ⟨held₁, hparallel₁, hheld₁⟩ : ∃ held₁, Parallel now held₁ one₁.session two₁.session ∧
        Holds sourceId (db.session.keys.run sourceId a) held₁ (b₁ ++ [s]) := by
      rcases hpar with ⟨hsrc, hpar⟩ | hpar
      · refine ⟨held, hpar, hheld.nodup, hheld.unwritten, hheld.known.imp_right fun hknown ↦ ?_⟩
        refine forall_mem_append.2 ⟨hknown, fun x hx ↦ ?_⟩
        rw [mem_singleton.1 hx]
        rw [hkeys, SessionKeys.run_append] at hsrc
        rcases SessionKeys.mem_sources_run.1 hsrc with hsrc | ⟨x, hx, heq⟩
        · exact hsrc
        · exact heq ▸ hknown x hx
      · exact ⟨[], hpar, nodup_nil, forall_mem_nil _, .inl rfl⟩
    have ih := ih (by rw [hb]; simp) hparallel₁ (hone.processRecord hone₁)
      (htwo.processRecord hrecord) hkeys₁ hheld₁ hrest
    obtain ⟨hpostings, one', held', hone', hend⟩ := ih
    refine ⟨?_, one', held', ?_, hend⟩
    · rw [postings, postings, hposting, hrecord, hone₁, Option.elim_some, Option.elim_some,
        hpostings]
    · rw [processAll, hone₁]
      exact hone'

/-! ### Expiry -/

/-- The counters that are left, when no edited row expires: those that have not expired. -/
theorem values_expire {s : Session}
    (hedits : ∀ row ∈ s.counterStates.rows, ∀ c ∈ row.edit, now ≤ c.expiresAt)
    (hunedited : ∀ row ∈ s.counterStates.rows, row.stored.expiresAt < now → row.edit = none) :
    (expire now s).counterStates.values =
      ((s.counterStates.rows.map Tracked.value).filter fun c ↦ !decide (c.expiresAt < now)) ++
        s.counterStates.pending := by
  have hrow : ∀ row ∈ s.counterStates.rows, (!decide (row.stored.expiresAt < now)) =
      !decide (row.value.expiresAt < now) := by
    intro row hrow
    cases hedit : row.edit with
    | none => rw [Tracked.value, hedit, Option.getD_none]
    | some c =>
      have hlive : ¬ row.stored.expiresAt < now := fun hdead ↦ by
        rw [hunedited row hrow hdead] at hedit
        cases hedit
      have hvalue : ¬ row.value.expiresAt < now := by
        rw [Tracked.value, hedit, Option.getD_some, not_lt]
        exact hedits row hrow c hedit
      rw [decide_eq_false hlive, decide_eq_false hvalue]
  rw [expire, SessionTable.values, SessionTable.deleteWhere, filter_map]
  dsimp only
  rw [filter_congr hrow]
  rfl

/-- A committed session lost no row and repeated no connection. -/
theorem Session.of_commit_eq_some (h : (expire now s).commit = some db') :
    s.keys.unwritten.Nodup ∧
      ∀ row ∈ s.counterStates.rows, row.stored.expiresAt < now → row.edit = none := by
  constructor
  · by_contra hrept
    have hnone : (expire now s).commit = none := commit_eq_none_of_not_nodup hrept
    rw [hnone] at h
    cases h
  · intro row hrow hdead
    simp only [Session.commit, Option.bind_eq_bind, Option.bind_eq_some_iff] at h
    obtain ⟨rows, hrows, -⟩ := h
    have hlost := (SessionTable.flush_eq_some _ hrows).1
    simp only [expire, SessionTable.deleteWhere, Bool.or_eq_false_iff, any_eq_false] at hlost
    have hrow := hlost.2 row hrow
    simpa [hdead] using hrow

/-- The second batch begins in parallel to the single batch, which holds what the first left
unwritten. -/
theorem parallel_of_commit {usage : List TrafficEndpointAggregate}
    (hopen : OpenOn now db s) (h : (expire now (flushEndpointUsage usage s)).commit = some db') :
    Parallel now s.counterStates.pending s db'.session := by
  obtain ⟨-, hunedited⟩ := Session.of_commit_eq_some h
  have hvalues := @values_expire now (flushEndpointUsage usage s) hopen.edits hunedited
  obtain rfl := Session.commit_eq_some h
  have hlive : ∀ c ∈ (expire now (flushEndpointUsage usage s)).counterStates.values,
      now ≤ c.expiresAt := by
    intro c hc
    rw [hvalues] at hc
    rcases mem_append.1 hc with hc | hc
    · have hlive := (mem_filter.1 hc).2
      rw [Bool.not_eq_true', decide_eq_false_iff_not, not_lt] at hlive
      exact hlive
    · exact hopen.pending c hc
  refine ⟨rfl, rfl, rfl, ?_, (append_nil _).symm, fun row hrow ↦ ?_, hunedited⟩
  · refine Eq.trans ?_ hvalues
    have hmap := SessionTable.values_ofRows
      (expire now (flushEndpointUsage usage s)).counterStates.values
    rw [SessionTable.values] at hmap
    exact (append_nil _).symm.trans hmap
  · obtain ⟨c, hc, rfl⟩ := mem_map.1 hrow
    exact hlive c hc

/-- Both sessions commit the same counters. -/
theorem Parallel.commit {held : List TrafficFlowCounterState} {one two : Session}
    {usage usage' : List TrafficEndpointAggregate} {db' db₂ : Database}
    (h : Parallel now held one two) (hone : OpenOn now db one) (htwo : OpenOn now db' two)
    (hheld : (held.map (·.key)).Nodup)
    (hcommit : (expire now (flushEndpointUsage usage' two)).commit = some db₂) :
    ∃ db₁, (expire now (flushEndpointUsage usage one)).commit = some db₁ ∧
      db₁.counterStates = db₂.counterStates := by
  obtain ⟨hunwritten, hunedited⟩ := Session.of_commit_eq_some hcommit
  have hnodup := h.nodup htwo hheld hunwritten
  refine ⟨_, Session.commit_eq_database ?_ hone.deviceLost hone.devicePending hnodup
    fun c hc row hrow ↦ ?_, ?_⟩
  · simp only [expire, flushEndpointUsage, SessionTable.deleteWhere, hone.lost, Bool.false_or,
      any_eq_false]
    intro row hrow
    by_cases hdead : row.stored.expiresAt < now
    · simp [h.unedited row hrow hdead]
    · simp [hdead]
  · have hrow : row ∈ one.counterStates.rows := mem_of_mem_filter hrow
    rw [hone.aligned row hrow]
    exact fun heq ↦ hone.apart (heq ▸ mem_map_of_mem hrow) (mem_map_of_mem hc)
  · have hvalues := @values_expire now (flushEndpointUsage usage one) hone.edits h.unedited
    have hvalues' := @values_expire now (flushEndpointUsage usage' two) htwo.edits hunedited
    have hlive : (held.filter fun c ↦ !decide (c.expiresAt < now)) = held := by
      refine filter_eq_self.2 fun c hc ↦ ?_
      rw [Bool.not_eq_true', decide_eq_false_iff_not, not_lt]
      exact hone.pending c (h.pending ▸ mem_append_left _ hc)
    rw [Session.commit_eq_some hcommit]
    refine hvalues.trans (Eq.trans ?_ hvalues'.symm)
    simp only [flushEndpointUsage]
    rw [h.rows, h.pending, filter_append, filter_filter, hlive, append_assoc]
    simp only [Bool.and_self]

/-- Batches with the same postings leave the same totals. -/
theorem sameAccounts_of_postings {db₁ db₂ : Database}
    (hfirst : ingest clock now sourceId a db = some db')
    (hsecond : ingest clock now sourceId b db' = some db₂)
    (hboth : ingest clock now sourceId (a ++ b) db = some db₁)
    (hpostings : batchPostings clock now sourceId (a ++ b) db =
      batchPostings clock now sourceId a db ++ batchPostings clock now sourceId b db')
    (hcounters : db₁.counterStates = db₂.counterStates) : SameAccounts db₁ db₂ := by
  have h₁ := ingest_charged hboth
  have h' := ingest_charged hfirst
  have h₂ := ingest_charged hsecond
  rw [hpostings] at h₁
  refine ⟨fun q ↦ ?_, fun q ↦ ?_, fun q ↦ ?_, fun q ↦ ?_, hcounters⟩
  · rw [h₁.flow, h₂.flow, h'.flow, map_append, add_assoc]
    exact congrArg _ (Ledger.total_append _ _)
  · rw [h₁.accounting, h₂.accounting, h'.accounting, h'.inventory, flatMap_append, add_assoc]
    exact congrArg _ (Ledger.total_append _ _)
  · rw [h₁.endpoint, h₂.endpoint, h'.endpoint, h'.inventory, flatMap_append, add_assoc]
    exact congrArg _ (Ledger.total_append _ _)
  · rw [h₁.device, h₂.device, h'.device, h'.inventory, flatMap_append, add_assoc]
    exact congrArg _ (Ledger.total_append _ _)

/-- **One batch or two.** Two batches that commit one after the other leave the same totals and
counters as one batch with all their records, exactly when the second does not reuse a connection
that the first left unwritten. -/
theorem batching_iff (hstale : NoStale now sourceId a b db) {db₂ : Database}
    (h : ingestTwice clock now sourceId a b db = some db₂) :
    (∃ db₁, ingest clock now sourceId (a ++ b) db = some db₁ ∧ SameAccounts db₁ db₂) ↔
      ¬ Reused sourceId a b db := by
  refine ⟨fun hone hreused ↦ ?_, fun hreused ↦ ?_⟩
  · obtain ⟨db₁, hone, -⟩ := hone
    rw [ingest_eq_none_of_reused hreused] at hone
    cases hone
  rw [ingestTwice, Option.bind_eq_some_iff] at h
  obtain ⟨db', hfirst, hsecond⟩ := h
  obtain ⟨one, hone, hcommit⟩ := ingest_eq_some hfirst
  obtain ⟨two, htwo, hcommit'⟩ := ingest_eq_some hsecond
  obtain ⟨live, hopen, hclaims, hlive⟩ := exists_openOn hone
  have hcur : ∀ b₁ r b₂, b = b₁ ++ r :: b₂ → Current now (effectiveSource sourceId r) r
      live (db.session.keys.run sourceId (a ++ b₁)).claims := by
    intro b₁ r b₂ hb
    have hr := hstale.claims r (hb ▸ mem_append_right _ mem_cons_self)
    refine ⟨hclaims ▸ hr, fun hevent k hk c hc hkey ↦ ?_⟩
    obtain ⟨hmem, hnot⟩ := hlive c hc
    exact (hstale.counters b₁ r b₂ k hb (SessionKeys.counted_run_iff.1 ⟨hk, hevent⟩) c hmem
      hkey).resolve_right hnot
  have hopen' : OpenOn now db' two.session := (OpenOn.session now db').processAll htwo
  have hpar := parallel_of_commit hopen hcommit
  have hkeys := keys_processAll hone (SessionTable.aligned_ofRows _)
  have hholds : Holds sourceId (db.session.keys.run sourceId a) one.session.counterStates.pending
      [] := by
    refine ⟨(Session.of_commit_eq_some hcommit).1, fun c hc ↦ ?_, .inr (forall_mem_nil _)⟩
    rw [← hkeys]
    exact mem_map_of_mem hc
  have hstart : one.session.keys = db.session.keys.run sourceId (a ++ []) := by
    rw [append_nil]
    exact hkeys
  obtain ⟨hpostings, one', held', hone', hpar', hheld'⟩ :=
    @processAll_parallel _ _ _ _ _ _ db' _ hreused hcur one { session := db'.session } two _ [] b
      rfl hpar hopen (OpenOn.session now db') hstart hholds htwo
  have hmerged : processAll clock now sourceId { session := db.session } (a ++ b) = some one' := by
    rw [processAll_append, hone]
    exact hone'
  obtain ⟨db₁, hcommit₁, hcounters⟩ := @Parallel.commit now _ held' one'.session two.session
    one'.usage two.usage db' db₂ hpar' (hopen.processAll hone') hopen' hheld'.nodup hcommit'
  have hingest : ingest clock now sourceId (a ++ b) db = some db₁ := by
    rw [ingest, processRecords, hmerged]
    exact hcommit₁
  exact ⟨db₁, hingest, sameAccounts_of_postings hfirst hsecond hingest (by
    rw [batchPostings, postings_append, hone, Option.elim_some, hpostings]
    rfl) hcounters⟩

/-- Updates of two connections, in two batches and in one. -/
theorem batching_iff_apart : ∃ db₂, ingestTwice utcClock 2000000 (some 1) [tiedUpdate 1 100]
      [{ tiedUpdate 2 200 with connectionId := some "8" }] tiedAccount.db = some db₂ ∧
    ((∃ db₁, ingest utcClock 2000000 (some 1) ([tiedUpdate 1 100] ++
        [{ tiedUpdate 2 200 with connectionId := some "8" }]) tiedAccount.db = some db₁ ∧
          SameAccounts db₁ db₂) ↔
      ¬ Reused (some 1) [tiedUpdate 1 100] [{ tiedUpdate 2 200 with connectionId := some "8" }]
        tiedAccount.db) := by
  have hsome : (ingestTwice utcClock 2000000 (some 1) [tiedUpdate 1 100]
      [{ tiedUpdate 2 200 with connectionId := some "8" }] tiedAccount.db).isSome := by decide
  obtain ⟨db₂, h⟩ := Option.isSome_iff_exists.1 hsome
  exact ⟨db₂, h, batching_iff ⟨fun _ _ ↦ forall_mem_nil _, fun _ _ _ _ _ _ ↦ forall_mem_nil _⟩ h⟩

/-- **Two updates of a new connection in one datagram fail**; in two datagrams they are charged. -/
theorem tied_batch_fails : ∃ db₂,
    ingestTwice utcClock 2000000 (some 1) [tiedUpdate 1 100] [tiedUpdate 2 200] tiedAccount.db =
      some db₂ ∧
    ¬ ∃ db₁, ingest utcClock 2000000 (some 1) ([tiedUpdate 1 100] ++ [tiedUpdate 2 200])
      tiedAccount.db = some db₁ ∧ SameAccounts db₁ db₂ := by
  have hsome : (ingestTwice utcClock 2000000 (some 1) [tiedUpdate 1 100] [tiedUpdate 2 200]
      tiedAccount.db).isSome := by decide
  obtain ⟨db₂, h⟩ := Option.isSome_iff_exists.1 hsome
  refine ⟨db₂, h, fun ⟨db₁, hone, _⟩ ↦ ?_⟩
  have hnone : ingest utcClock 2000000 (some 1) ([tiedUpdate 1 100] ++ [tiedUpdate 2 200])
      tiedAccount.db = none := by decide
  rw [hnone] at hone
  cases hone

end Kaya.Flow
