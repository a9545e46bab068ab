import Kaya.Flow.Steps

/-!
# The counter of one connection

A cumulative update is charged as the difference to the stored counter of its connection. Three
rules decide what an update charges: the replay key, the order of event times, and the reset
heuristic that takes a smaller counter for a restarted one.

`Account` follows one connection `k` through a run: the updates that arrived in committed batches,
in order of arrival, and the bytes charged for them. The exporter emits the updates in an order in
which neither event time nor counter decreases (`Emits`); they arrive in any order, with losses and
repetitions, at most one in a batch (`Carries`).

The law `counter_not_overcounted` needs `Continues`, which excludes the two ways to charge twice.

* Two updates of **one event time** swapped on the way: the order test lets the smaller one pass and
  the reset heuristic charges it whole.
* A counter that was **removed**, two days after its last update: the next update is charged whole.
-/

namespace Kaya.Flow

open List Option

variable {clock : HostClock} {now : DateTime} {sourceId : Option ℕ} {k : CounterKey}

/-! ### Counters in a session -/

section Session

/-- The body of the loop moves claims and counters as admission does. -/
theorem settle_session (source : ℕ) (b : Batch) (r : NormalizedFlowRecord) :
    (settle clock now source b r).session.deduplication =
        (admitRecord now source r b.session).1.deduplication ∧
      (settle clock now source b r).session.counterStates =
        (admitRecord now source r b.session).1.counterStates := by
  rw [settle]
  rcases admitRecord now source r b.session with ⟨s, admission⟩
  cases admission with
  | duplicate => exact ⟨rfl, rfl⟩
  | outOfOrder => exact ⟨rfl, rfl⟩
  | accepted p =>
    simp only [post_eq]
    exact ⟨rfl, rfl⟩

/-- Looking the collector state up moves neither claims nor the values of counters. -/
theorem ensureState_session {s s' : Session} {source : ℕ} (h : ensureState s source = some s') :
    s'.deduplication = s.deduplication ∧
      (s'.counterStates = s.counterStates ∨ s'.counterStates = .ofRows s.counterStates.values) := by
  rcases ensureState_eq_some h with rfl | rfl
  · exact ⟨rfl, .inl rfl⟩
  · exact ⟨rfl, .inr rfl⟩

@[simp] theorem advanceCounter_key (c : TrafficFlowCounterState) (r : NormalizedFlowRecord)
    (now : DateTime) : (advanceCounter c r now).key = c.key := rfl

@[simp] theorem newCounter_key (k : CounterKey) (r : NormalizedFlowRecord) (now : DateTime) :
    (newCounter k r now).key = k := rfl

variable {t : SessionTable TrafficFlowCounterState}
  {k' : CounterKey} {counter : Option TrafficFlowCounterState}

theorem aligned_writeCounter (h : t.Aligned TrafficFlowCounterState.key) (k : CounterKey)
    (r : NormalizedFlowRecord) (now : DateTime) :
    (writeCounter t k r now).Aligned TrafficFlowCounterState.key := by
  rw [writeCounter]
  split
  · exact h.edit fun _ ↦ rfl
  · exact h

/-- The objects of a connection. -/
def ofConnection (k : CounterKey) (cs : List TrafficFlowCounterState) :
    List TrafficFlowCounterState :=
  cs.filter (·.key = k)

theorem ofConnection_append (cs cs' : List TrafficFlowCounterState) :
    ofConnection k (cs ++ cs') = ofConnection k cs ++ ofConnection k cs' :=
  filter_append _ _

/-- Writing the counter of another connection adds none of this one. -/
theorem pending_writeCounter_of_ne (hne : k' ≠ k) (r : NormalizedFlowRecord) (now : DateTime) :
    ofConnection k (writeCounter t k' r now).pending = ofConnection k t.pending := by
  rw [writeCounter]
  split
  · rfl
  · have hnew : ofConnection k [newCounter k' r now] = [] :=
      filter_cons_of_neg (by simp [hne])
    rw [SessionTable.add, ofConnection_append, hnew, append_nil]

/-- Writing the counter of another connection edits none of this one. -/
theorem values_writeCounter_of_ne (h : t.Aligned TrafficFlowCounterState.key) (hne : k' ≠ k)
    (r : NormalizedFlowRecord) (now : DateTime) :
    ofConnection k (writeCounter t k' r now).values = ofConnection k t.values := by
  have hrows : ofConnection k ((writeCounter t k' r now).rows.map Tracked.value) =
      ofConnection k (t.rows.map Tracked.value) := by
    rw [writeCounter]
    split
    · rw [h.rows_edit]
      refine SessionTable.filter_editFirst_of_disjoint (fun c hc ↦ ?_) _
      have hkey : c.key = k' := of_decide_eq_true hc
      simp [hkey, hne]
    · rfl
  rw [SessionTable.values, SessionTable.values, ofConnection_append, ofConnection_append, hrows,
    pending_writeCounter_of_ne hne]

theorem first?_of_ofConnection (h : t.Aligned TrafficFlowCounterState.key)
    (hrows : ofConnection k (t.rows.map Tracked.value) = counter.toList) :
    t.first? (·.key = k) = counter := by
  rw [ofConnection] at hrows
  rw [h.first?, hrows]
  cases counter with
  | none => rfl
  | some c => rfl

/-- Writing the counter of the connection itself, of which there is at most one object. -/
theorem ofConnection_writeCounter (h : t.Aligned TrafficFlowCounterState.key)
    (hrows : ofConnection k (t.rows.map Tracked.value) = counter.toList)
    (hpend : ofConnection k t.pending = []) (r : NormalizedFlowRecord) (now : DateTime) :
    ofConnection k (writeCounter t k r now).values =
      [counter.elim (newCounter k r now) (advanceCounter · r now)] := by
  rw [writeCounter, first?_of_ofConnection h hrows, SessionTable.values, ofConnection, filter_append]
  cases counter with
  | none =>
    rw [ofConnection] at hrows hpend
    simp only [isSome_none, Bool.false_eq_true, if_false, SessionTable.add,
      filter_append, hrows, hpend]
    simp
  | some c =>
    rw [ofConnection] at hrows hpend
    have hedit := @SessionTable.filter_editFirst _ (fun c ↦ decide (c.key = k))
      (advanceCounter · r now) (fun _ ↦ rfl) (t.rows.map Tracked.value)
    rw [if_pos (isSome_some), h.rows_edit, hedit, hrows]
    simp only [SessionTable.edit, hpend]
    rfl

end Session

/-! ### Records of other connections -/

/-- The updates the exporter emits for the connection, in the order it emits them. -/
structure Emits (k : CounterKey) (emitted : List NormalizedFlowRecord) : Prop where
  ofConnection : ∀ u ∈ emitted, counterKey u k.1 = some k
  ordered : emitted.Pairwise fun u v ↦
    u.observedAt ≤ v.observedAt ∧ u.bytesTotal.getD 0 ≤ v.bytesTotal.getD 0

/-- A record that is neither an update of the connection nor takes the event key of one. -/
def Foreign (k : CounterKey) (emitted : List NormalizedFlowRecord) (sourceId : Option ℕ)
    (r : NormalizedFlowRecord) : Prop :=
  counterKey r (effectiveSource sourceId r) ≠ some k ∧
    ∀ u ∈ emitted, eventKey r (effectiveSource sourceId r) ≠ eventKey u k.1

/-- What records of other connections leave of the connection. -/
structure Passed (k : CounterKey) (emitted : List NormalizedFlowRecord) (s s' : Session) : Prop where
  aligned : s.counterStates.Aligned TrafficFlowCounterState.key →
    s'.counterStates.Aligned TrafficFlowCounterState.key
  values : s.counterStates.Aligned TrafficFlowCounterState.key →
    ofConnection k s'.counterStates.values = ofConnection k s.counterStates.values
  pending : ofConnection k s.counterStates.pending = [] →
    ofConnection k s'.counterStates.pending = []
  claims : ∀ u ∈ emitted, claimed s'.deduplication (eventKey u k.1) =
    claimed s.deduplication (eventKey u k.1)

section Passed

variable {emitted : List NormalizedFlowRecord} {s s' : Session} {source : ℕ}

theorem Passed.refl (s : Session) : Passed k emitted s s :=
  ⟨id, fun _ ↦ rfl, id, fun _ _ ↦ rfl⟩

theorem Passed.trans {s'' : Session} (h : Passed k emitted s s')
    (h' : Passed k emitted s' s'') : Passed k emitted s s'' where
  aligned hs := h'.aligned (h.aligned hs)
  values hs := (h'.values (h.aligned hs)).trans (h.values hs)
  pending hs := h'.pending (h.pending hs)
  claims u hu := (h'.claims u hu).trans (h.claims u hu)

theorem ensureState_passed (h : ensureState s source = some s') : Passed k emitted s s' := by
  obtain ⟨hclaims, hcounters | hcounters⟩ := ensureState_session h
  · refine ⟨?_, ?_, ?_, fun u _ ↦ by rw [hclaims]⟩
    · rw [hcounters]; exact id
    · rw [hcounters]; exact fun _ ↦ rfl
    · rw [hcounters]; exact id
  · refine ⟨fun _ ↦ ?_, fun _ ↦ ?_, fun _ ↦ ?_, fun u _ ↦ by rw [hclaims]⟩
    · rw [hcounters]; exact SessionTable.aligned_ofRows _
    · rw [hcounters, SessionTable.values_ofRows]
    · rw [hcounters]; rfl

theorem claimed_append (rows : List TrafficFlowDeduplication) (row : TrafficFlowDeduplication)
    (key : EventKey) :
    claimed (rows ++ [row]) key = (claimed rows key || decide (row.eventKey = key)) := by
  simp [claimed]

theorem admitRecord_passed {r : NormalizedFlowRecord} (hkey : counterKey r source ≠ some k)
    (hevent : ∀ u ∈ emitted, eventKey r source ≠ eventKey u k.1) :
    Passed k emitted s (admitRecord now source r s).1 := by
  have hclaims : ∀ u ∈ emitted, claimed (claimEvent s source (eventKey r source) now).deduplication
      (eventKey u k.1) = claimed s.deduplication (eventKey u k.1) := by
    intro u hu
    rw [claimEvent, claimed_append, claimRow, decide_eq_false (hevent u hu), Bool.or_false]
  rcases admitRecord_cases now source r s with
    ⟨-, heq⟩ | ⟨-, ⟨-, heq⟩ | ⟨k', hk', ⟨-, heq⟩ | ⟨charge, -, heq⟩⟩⟩
  · rw [heq]
    exact .refl s
  · rw [heq]
    exact ⟨id, fun _ ↦ rfl, id, hclaims⟩
  · rw [heq]
    exact ⟨id, fun _ ↦ rfl, id, hclaims⟩
  · rw [heq]
    have hne : k' ≠ k := fun h ↦ hkey (h ▸ hk')
    exact ⟨fun h ↦ aligned_writeCounter h k' r now, fun h ↦ values_writeCounter_of_ne h hne r now,
      fun h ↦ (pending_writeCounter_of_ne hne r now).trans h, hclaims⟩

theorem settle_passed {r : NormalizedFlowRecord} {source : ℕ} {b : Batch}
    (h : Passed k emitted b.session (admitRecord now source r b.session).1) :
    Passed k emitted b.session (settle clock now source b r).session := by
  obtain ⟨hclaims, hcounters⟩ := @settle_session clock now source b r
  refine ⟨?_, ?_, ?_, ?_⟩
  · rw [hcounters]; exact h.aligned
  · rw [hcounters]; exact h.values
  · rw [hcounters]; exact h.pending
  · rw [hclaims]; exact h.claims

theorem processAll_passed {b b' : Batch} {records : List NormalizedFlowRecord}
    (h : processAll clock now sourceId b records = some b')
    (hforeign : ∀ r ∈ records, Foreign k emitted sourceId r) :
    Passed k emitted b.session b'.session := by
  induction records generalizing b with
  | nil =>
    obtain rfl : b = b' := some.inj h
    exact .refl _
  | cons r records ih =>
    simp only [processAll, bind_eq_bind, bind_eq_some_iff] at h
    obtain ⟨b₁, hrecord, hrest⟩ := h
    obtain ⟨⟨hkey, hevent⟩, hforeign⟩ := forall_mem_cons.1 hforeign
    obtain ⟨s, hs, rfl⟩ := processRecord_eq_some hrecord
    refine (ensureState_passed hs).trans (Passed.trans ?_ (ih hrest hforeign))
    exact @settle_passed _ _ _ _ _ _ { b with session := s } (admitRecord_passed hkey hevent)

end Passed

/-! ### One batch -/

/-- The bytes that postings charge for the connection. -/
def chargedTo (k : CounterKey) (ps : List Posting) : ℕ :=
  Ledger.total (fun p ↦ counterKey p.record p.sourceId = some k) (·.bytes) ps

/-- The batches of a run: at most one of their records is an update of the connection. -/
structure Delivery where
  now : DateTime
  sourceId : Option ℕ
  before : List NormalizedFlowRecord := []
  update : Option NormalizedFlowRecord
  after : List NormalizedFlowRecord := []

def Delivery.records (d : Delivery) : List NormalizedFlowRecord :=
  d.before ++ d.update.toList ++ d.after

/-- The update of the delivery is one of the emitted, processed for the connection's source; its
other records are foreign. -/
structure Carries (k : CounterKey) (emitted : List NormalizedFlowRecord) (d : Delivery) : Prop where
  update : ∀ u ∈ d.update, u ∈ emitted ∧ effectiveSource d.sourceId u = k.1
  foreign : ∀ r ∈ d.before ++ d.after, Foreign k emitted d.sourceId r

/-- What admission makes of an update: the bytes charged, and the objects of the connection. -/
def updateEffect (k : CounterKey) (now : DateTime) (counter : Option TrafficFlowCounterState)
    (u : NormalizedFlowRecord) : ℕ × List TrafficFlowCounterState :=
  match cumulativeCharge counter u with
  | none => (0, counter.toList)
  | some charge =>
    (charge.bytes, [counter.elim (newCounter k u now) (advanceCounter · u now)])

section Delivery

variable {emitted : List NormalizedFlowRecord} {counter : Option TrafficFlowCounterState}
  {b : Batch} {d : Delivery} {db : Database}

theorem chargedTo_eq_zero {b : Batch} {records : List NormalizedFlowRecord}
    (hforeign : ∀ r ∈ records, Foreign k emitted sourceId r) :
    chargedTo k (postings clock now sourceId b records) = 0 := by
  refine Ledger.total_eq_zero fun p hp ↦ ?_
  obtain ⟨hmem, hsrc, -⟩ := mem_postings hp
  rw [hsrc]
  exact decide_eq_false (hforeign _ hmem).1

/-- Admission of an update whose connection has at most one object, and no pending one. -/
theorem admitRecord_update {s : Session} {u : NormalizedFlowRecord} {source : ℕ}
    {counter : Option TrafficFlowCounterState} (hkey : counterKey u source = some k)
    (halign : s.counterStates.Aligned TrafficFlowCounterState.key)
    (hpend : ofConnection k s.counterStates.pending = [])
    (hvalues : ofConnection k s.counterStates.values = counter.toList) :
    (claimed s.deduplication (eventKey u source) = true ∧
      admitRecord now source u s = (s, .duplicate)) ∨
    (claimed s.deduplication (eventKey u source) = false ∧
      chargedTo k (admitRecord now source u s).2.posting?.toList =
        (updateEffect k now counter u).1 ∧
      ofConnection k (admitRecord now source u s).1.counterStates.values =
        (updateEffect k now counter u).2 ∧
      (admitRecord now source u s).1.counterStates.Aligned TrafficFlowCounterState.key ∧
      (admitRecord now source u s).1.deduplication =
        (claimEvent s source (eventKey u source) now).deduplication) := by
  have hrows : ofConnection k (s.counterStates.rows.map Tracked.value) = counter.toList := by
    rw [SessionTable.values, ofConnection_append, hpend, append_nil] at hvalues
    exact hvalues
  have hfirst := first?_of_ofConnection halign hrows
  rcases admitRecord_cases now source u s with
    h | ⟨hfresh, ⟨hnone, -⟩ | ⟨k', hk', hcases⟩⟩
  · exact .inl h
  · rw [hkey] at hnone
    cases hnone
  · obtain rfl : k = k' := some.inj (hkey.symm.trans hk')
    rw [hfirst] at hcases
    refine .inr ⟨hfresh, ?_⟩
    rcases hcases with ⟨hcharge, heq⟩ | ⟨charge, hcharge, heq⟩
    · rw [heq, updateEffect, hcharge]
      exact ⟨rfl, hvalues, halign, rfl⟩
    · rw [heq, updateEffect, hcharge]
      refine ⟨?_, ofConnection_writeCounter halign hrows hpend u now,
        aligned_writeCounter halign k u now, rfl⟩
      show chargedTo k [charge.posting source u] = charge.bytes
      rw [chargedTo, Ledger.total_singleton]
      exact if_pos (decide_eq_true hkey)

/-- One iteration over an update. -/
theorem processRecord_update {b' : Batch} {u : NormalizedFlowRecord}
    (h : processRecord clock now sourceId b u = some b')
    (hsrc : effectiveSource sourceId u = k.1) (hkey : counterKey u k.1 = some k)
    (halign : b.session.counterStates.Aligned TrafficFlowCounterState.key)
    (hpend : ofConnection k b.session.counterStates.pending = [])
    (hvalues : ofConnection k b.session.counterStates.values = counter.toList) :
    b'.session.counterStates.Aligned TrafficFlowCounterState.key ∧
      (chargedTo k (recordPosting now sourceId b u).toList,
          ofConnection k b'.session.counterStates.values) =
        (if claimed b.session.deduplication (eventKey u k.1) then (0, counter.toList)
          else updateEffect k now counter u) ∧ ∀ key, claimed b'.session.deduplication key = true →
        claimed b.session.deduplication key = true ∨ eventKey u k.1 = key := by
  obtain ⟨s, hs, rfl⟩ := processRecord_eq_some h
  rw [hsrc] at hs
  have hpassed : Passed k [u] b.session s := ensureState_passed hs
  have hclaims := (ensureState_session hs).1
  rw [recordPosting, hsrc, hs, bind_some]
  obtain ⟨hdedup, hcounters⟩ := @settle_session clock now k.1 { b with session := s } u
  rw [hdedup, hcounters, ← hclaims]
  have hvalues' := (hpassed.values halign).trans hvalues
  rcases @admitRecord_update now k s u k.1 counter hkey (hpassed.aligned halign)
      (hpassed.pending hpend) hvalues' with
    ⟨hclaim, heq⟩ | ⟨hfresh, hcharged, hvalue, halign', hdedup'⟩
  · rw [heq, hclaim, if_pos rfl]
    exact ⟨hpassed.aligned halign, Prod.ext rfl hvalues', fun key hkey ↦ .inl hkey⟩
  · rw [hfresh, if_neg Bool.false_ne_true]
    refine ⟨halign', Prod.ext hcharged hvalue, fun key hkey ↦ ?_⟩
    rw [hdedup', claimEvent, claimed_append, Bool.or_eq_true, decide_eq_true_eq] at hkey
    exact hkey

/-- The update of a delivery that no earlier batch has claimed. -/
def Delivery.fresh (d : Delivery) (k : CounterKey) (db : Database) : Option NormalizedFlowRecord :=
  d.update.filter fun u ↦ !claimed db.deduplication (eventKey u k.1)

/-- What a committed batch leaves of the connection before rows expire. -/
structure Delivered (k : CounterKey) (emitted : List NormalizedFlowRecord) (d : Delivery)
    (counter : Option TrafficFlowCounterState) (db : Database) (s : Session) (ps : List Posting) :
    Prop where
  charged : chargedTo k ps = (d.fresh k db).elim 0 fun u ↦ (updateEffect k d.now counter u).1
  values : ofConnection k s.counterStates.values =
    (d.fresh k db).elim counter.toList fun u ↦ (updateEffect k d.now counter u).2
  claims : ∀ v ∈ emitted, claimed s.deduplication (eventKey v k.1) = true →
    claimed db.deduplication (eventKey v k.1) = true ∨
      ∃ u ∈ d.update, eventKey u k.1 = eventKey v k.1

/-- **The loop over a delivery.** -/
theorem processAll_delivered
    (h : processAll clock d.now d.sourceId { session := db.session } d.records = some b)
    (hk : Emits k emitted) (hd : Carries k emitted d)
    (hctr : ofConnection k db.counterStates = counter.toList) :
    Delivered k emitted d counter db b.session
      (batchPostings clock d.now d.sourceId d.records db) := by
  obtain ⟨hbef, hafter⟩ := forall_mem_append.1 hd.foreign
  rw [Delivery.records, processAll_append, bind_eq_some_iff] at h
  obtain ⟨b₂, h₂, h₃⟩ := h
  have h₂' := h₂
  rw [processAll_append, bind_eq_some_iff] at h₂
  obtain ⟨b₁, h₁, h₂⟩ := h₂
  have hfirst := processAll_passed h₁ hbef
  have hlast := processAll_passed h₃ hafter
  have halign := hfirst.aligned (SessionTable.aligned_ofRows _)
  have hpend := hfirst.pending rfl
  have hvalues : ofConnection k b₁.session.counterStates.values = counter.toList := by
    rw [hfirst.values (SessionTable.aligned_ofRows _), ← hctr]
    exact congrArg _ (SessionTable.values_ofRows _)
  have hpostings : chargedTo k (batchPostings clock d.now d.sourceId d.records db) =
      chargedTo k (postings clock d.now d.sourceId b₁ d.update.toList) := by
    rw [batchPostings, Delivery.records, postings_append, postings_append, h₂', h₁,
      elim_some, elim_some, chargedTo, Ledger.total_append, Ledger.total_append]
    have hzero :=
      @chargedTo_eq_zero clock d.now d.sourceId k emitted { session := db.session } _ hbef
    have hzero' := @chargedTo_eq_zero clock d.now d.sourceId k emitted b₂ _ hafter
    rw [chargedTo] at hzero hzero'
    rw [hzero, hzero', zero_add, add_zero]
    rfl
  cases hupdate : d.update with
  | none =>
    rw [hupdate] at h₂ hpostings
    obtain rfl : b₁ = b₂ := some.inj h₂
    have hfresh : d.fresh k db = none := by rw [Delivery.fresh, hupdate, filter_none]
    refine ⟨?_, ?_, fun v hv hclaim ↦ ?_⟩
    · rw [hfresh]
      exact hpostings
    · rw [hfresh]
      exact (hlast.values halign).trans hvalues
    · rw [hlast.claims v hv, hfirst.claims v hv] at hclaim
      exact .inl hclaim
  | some u =>
    obtain ⟨hmem, hsrc⟩ := hd.update u hupdate
    rw [hupdate, toList_some, processAll, bind_eq_bind, bind_eq_some_iff] at h₂
    obtain ⟨b₂', h₂, hend⟩ := h₂
    obtain rfl : b₂' = b₂ := some.inj hend
    obtain ⟨haligned₂, heffect, hclaims⟩ :=
      processRecord_update h₂ hsrc (hk.ofConnection u hmem) halign hpend hvalues
    have hposting : postings clock d.now d.sourceId b₁ d.update.toList =
        (recordPosting d.now d.sourceId b₁ u).toList := by
      rw [hupdate, toList_some, postings, h₂]
      exact append_nil _
    have hfresh : (if claimed b₁.session.deduplication (eventKey u k.1) then (0, counter.toList)
        else updateEffect k d.now counter u) = ((d.fresh k db).elim 0 fun u ↦
          (updateEffect k d.now counter u).1, (d.fresh k db).elim counter.toList fun u ↦
            (updateEffect k d.now counter u).2) := by
      have hclaim : claimed b₁.session.deduplication (eventKey u k.1) =
          claimed db.deduplication (eventKey u k.1) := hfirst.claims u hmem
      rw [Delivery.fresh, hupdate, hclaim]
      cases hold : claimed db.deduplication (eventKey u k.1) with
      | true => simp [filter_some, hold]
      | false => simp [filter_some, hold]
    rw [hfresh] at heffect
    obtain ⟨hcharged, hvalue⟩ := Prod.mk.inj heffect
    refine ⟨?_, (hlast.values haligned₂).trans hvalue, fun v hv hclaim ↦ ?_⟩
    · rw [hpostings, hposting, hcharged]
    · rw [hlast.claims v hv] at hclaim
      rcases hclaims _ hclaim with hclaim | heq
      · rw [hfirst.claims v hv] at hclaim
        exact .inl hclaim
      · exact .inr ⟨u, hupdate, heq⟩

/-- **A committed delivery**: rows of the connection may have expired since. -/
theorem ingest_delivered {db' : Database}
    (h : ingest clock d.now d.sourceId d.records db = some db') (hk : Emits k emitted)
    (hd : Carries k emitted d) (hctr : ofConnection k db.counterStates = counter.toList) :
    chargedTo k (batchPostings clock d.now d.sourceId d.records db) =
        ((d.fresh k db).elim 0 fun u ↦ (updateEffect k d.now counter u).1) ∧
      (ofConnection k db'.counterStates).Sublist
        ((d.fresh k db).elim counter.toList fun u ↦ (updateEffect k d.now counter u).2) ∧
      ∀ v ∈ emitted, claimed db'.deduplication (eventKey v k.1) = true →
        claimed db.deduplication (eventKey v k.1) = true ∨
          ∃ u ∈ d.update, eventKey u k.1 = eventKey v k.1 := by
  obtain ⟨b, hb, hcommit⟩ := ingest_eq_some h
  obtain ⟨hcharged, hvalues, hclaims⟩ := processAll_delivered hb hk hd hctr
  obtain rfl := Session.commit_eq_some hcommit
  refine ⟨hcharged, ?_, fun v hv hclaim ↦ hclaims v hv ?_⟩
  · rw [← hvalues]
    exact (SessionTable.values_deleteWhere_sublist _).filter _
  · obtain ⟨row, hrow, hkey⟩ := any_eq_true.1 hclaim
    exact any_eq_true.2 ⟨row, mem_of_mem_filter hrow, hkey⟩

end Delivery

/-! ### The account of a connection -/

/-- The updates that arrived in committed batches, in order of arrival, and the bytes charged. -/
structure Account where
  db : Database
  arrivals : List NormalizedFlowRecord := []
  charged : ℕ := 0

/-- A delivery whose batch fails arrives nowhere. -/
def deliver (clock : HostClock) (k : CounterKey) (a : Account) (d : Delivery) : Account :=
  match ingest clock d.now d.sourceId d.records a.db with
  | none => a
  | some db =>
    { db
      arrivals := a.arrivals ++ d.update.toList
      charged := a.charged + chargedTo k (batchPostings clock d.now d.sourceId d.records a.db) }

/-- The deliveries of a connection that the database does not know yet. -/
def connection (clock : HostClock) (k : CounterKey) (emitted : List NormalizedFlowRecord) :
    Machine Account Delivery where
  init a := a.arrivals = [] ∧ a.charged = 0 ∧ ofConnection k a.db.counterStates = [] ∧
    ∀ u ∈ emitted, claimed a.db.deduplication (eventKey u k.1) = false
  step := deliver clock k

/-- The byte counter of an update. -/
def counterOf (u : NormalizedFlowRecord) : ℕ := u.bytesTotal.getD 0

/-- The largest counter that arrived. -/
def largest (arrivals : List NormalizedFlowRecord) : ℕ := (arrivals.map counterOf).foldr max 0

/-- The counter that arrived last. -/
def lastCounter (arrivals : List NormalizedFlowRecord) : ℕ := arrivals.getLast?.elim 0 counterOf

/-- Arrival in the order of emission. -/
def InOrder (arrivals : List NormalizedFlowRecord) : Prop :=
  arrivals.Pairwise fun u v ↦ u.observedAt ≤ v.observedAt ∧ counterOf u ≤ counterOf v

/-- A fresh update that has the event time of the stored counter is not below it; and it finds the
stored counter, unless nothing has been counted so far. -/
def Continues (k : CounterKey) (a : Account) (d : Delivery) : Prop :=
  ∀ u ∈ d.fresh k a.db,
    (∀ c ∈ ofConnection k a.db.counterStates, c.lastEventAt = some u.observedAt →
      c.lastBytes.getD 0 ≤ counterOf u) ∧
    (ofConnection k a.db.counterStates = [] → ∀ v ∈ a.arrivals, counterOf v = 0)

/-- The law that runs keep: what is charged is the last counter that was accepted. -/
structure Accounted (k : CounterKey) (emitted : List NormalizedFlowRecord) (a : Account) :
    Prop where
  arrived : ∀ v ∈ a.arrivals, v ∈ emitted
  unique : (ofConnection k a.db.counterStates).length ≤ 1
  counter : ∀ c ∈ ofConnection k a.db.counterStates, ∃ v ∈ a.arrivals,
    c.lastEventAt = some v.observedAt ∧ c.lastBytes = v.bytesTotal ∧ a.charged = counterOf v
  claimed : ∀ u ∈ emitted, claimed a.db.deduplication (eventKey u k.1) = true →
    ∃ v ∈ a.arrivals, counterOf v = counterOf u
  bounded : a.charged ≤ largest a.arrivals
  exact : InOrder a.arrivals → a.charged = lastCounter a.arrivals

section Runs

variable {emitted arrivals : List NormalizedFlowRecord} {a : Account} {v u : NormalizedFlowRecord}
  {d : Delivery} {db : Database}

theorem largest_append (arrivals arrivals' : List NormalizedFlowRecord) :
    largest (arrivals ++ arrivals') = max (largest arrivals) (largest arrivals') := by
  induction arrivals with
  | nil => simp [largest]
  | cons u arrivals ih =>
    simp only [largest, cons_append, map_cons, foldr_cons] at ih ⊢
    rw [ih, max_assoc]

theorem largest_eq_zero (h : ∀ v ∈ arrivals, counterOf v = 0) : largest arrivals = 0 := by
  induction arrivals with
  | nil => rfl
  | cons u arrivals ih =>
    obtain ⟨hu, hrest⟩ := forall_mem_cons.1 h
    rw [largest, map_cons, foldr_cons, hu, Nat.zero_max]
    exact ih hrest

theorem counterOf_le_largest (h : v ∈ arrivals) : counterOf v ≤ largest arrivals := by
  obtain ⟨before, after, rfl⟩ := append_of_mem h
  rw [largest_append]
  exact le_max_of_le_right (le_max_left _ _)

theorem lastCounter_append_singleton (arrivals : List NormalizedFlowRecord)
    (u : NormalizedFlowRecord) : lastCounter (arrivals ++ [u]) = counterOf u := by
  rw [lastCounter, getLast?_append, getLast?_singleton]
  rfl

/-- Of two emitted updates, the one with the later event time has the larger counter. -/
theorem Emits.counterOf_le (hk : Emits k emitted) (hu : u ∈ emitted)
    (hv : v ∈ emitted) (hlt : v.observedAt < u.observedAt) : counterOf v ≤ counterOf u := by
  obtain ⟨i, hi, rfl⟩ := getElem_of_mem hu
  obtain ⟨j, hj, rfl⟩ := getElem_of_mem hv
  have hordered := pairwise_iff_getElem.1 hk.ordered
  rcases lt_trichotomy i j with hij | rfl | hji
  · exact absurd (hordered i j hi hj hij).1 (not_le.2 hlt)
  · exact le_rfl
  · exact (hordered j i hj hi hji).2

theorem le_of_cumulativeCharge {c : TrafficFlowCounterState}
    {charge : Charge} {at_ : DateTime} (h : cumulativeCharge (some c) u = some charge)
    (hat : c.lastEventAt = some at_) : at_ ≤ u.observedAt := by
  rw [cumulativeCharge] at h
  split at h
  · cases h
  · rename_i hlate
    rw [any_some, hat, any_some, decide_eq_true_iff] at hlate
    exact not_lt.1 hlate

/-- What an update charges, when it continues the stored counter: it is late and dropped, or the sum
charged becomes its own counter. -/
theorem updateEffect_cases (hk : Emits k emitted) (hu : u ∈ emitted)
    {counter : Option TrafficFlowCounterState} {charged : ℕ}
    (hctr : ∀ c ∈ counter, ∃ v ∈ emitted, c.lastEventAt = some v.observedAt ∧
      c.lastBytes = v.bytesTotal ∧ charged = counterOf v) (hnone : counter = none → charged = 0)
    (htie : ∀ c ∈ counter, c.lastEventAt = some u.observedAt → c.lastBytes.getD 0 ≤ counterOf u)
    (now : DateTime) :
    (updateEffect k now counter u = (0, counter.toList) ∧
      ∃ c ∈ counter, ∀ at_, c.lastEventAt = some at_ → u.observedAt < at_) ∨
    (charged + (updateEffect k now counter u).1 = counterOf u ∧
      ∀ c ∈ (updateEffect k now counter u).2,
        c.lastEventAt = some u.observedAt ∧ c.lastBytes = u.bytesTotal) := by
  rw [updateEffect]
  cases hcharge : cumulativeCharge counter u with
  | none =>
    refine .inl ⟨rfl, ?_⟩
    rw [cumulativeCharge] at hcharge
    split at hcharge
    · rename_i hlate
      obtain ⟨c, hc, hlate⟩ := any_eq_true _ _ |>.1 hlate
      refine ⟨c, hc, fun at_ hat ↦ ?_⟩
      rw [hat, any_some] at hlate
      exact of_decide_eq_true hlate
    · cases hcharge
  | some charge =>
    have hbytes := cumulativeCharge_bytes hcharge
    refine .inr ⟨?_, fun c hc ↦ ?_⟩
    · cases counter with
      | none =>
        rw [hnone rfl, zero_add]
        exact hbytes
      | some c =>
        obtain ⟨v, hv, hat, hlast, hcharged⟩ := hctr c rfl
        have hle : counterOf v ≤ counterOf u := by
          rcases (le_of_cumulativeCharge hcharge hat).lt_or_eq with hlt | heq
          · exact hk.counterOf_le hu hv hlt
          · have hle := htie c rfl (hat.trans (congrArg some heq))
            rwa [hlast] at hle
        have hreset : (c.lastBytes.any (u.bytesTotal.getD 0 < ·)) = false := by
          rw [hlast]
          cases hbytes : v.bytesTotal with
          | none => rfl
          | some n =>
            have hn : counterOf v = n := by rw [counterOf, hbytes, getD_some]
            rw [any_some, decide_eq_false_iff_not, not_lt, ← hn]
            exact hle
        have hdelta : charge.bytes = counterOf u - counterOf v := by
          rw [hbytes, bind_some, hreset, if_neg Bool.false_ne_true, hlast]
          rfl
        dsimp only
        omega
    · obtain rfl := mem_singleton.1 hc
      cases counter with
      | none => exact ⟨rfl, rfl⟩
      | some c => exact ⟨rfl, rfl⟩

theorem mem_fresh (h : d.fresh k db = some u) :
    d.update = some u ∧ claimed db.deduplication (eventKey u k.1) = false := by
  rw [Delivery.fresh, filter_eq_some_iff, Bool.not_eq_true'] at h
  exact h

theorem claimed_of_fresh_eq_none (h : d.fresh k db = none) :
    ∀ u ∈ d.update, claimed db.deduplication (eventKey u k.1) = true := by
  intro u hu
  have hfilter := filter_eq_none_iff.1 h u hu
  simpa using hfilter

theorem InOrder.le_last (h : InOrder (arrivals ++ [u])) (hv : v ∈ arrivals) :
    v.observedAt ≤ u.observedAt ∧ counterOf v ≤ counterOf u :=
  (pairwise_append.1 h).2.2 v hv u (mem_singleton_self u)

theorem InOrder.counterOf_le_lastCounter (h : InOrder arrivals) (hv : v ∈ arrivals) :
    counterOf v ≤ lastCounter arrivals := by
  obtain ⟨before, u, rfl⟩ := eq_nil_or_concat' arrivals |>.resolve_left (ne_nil_of_mem hv)
  rw [lastCounter_append_singleton]
  rcases mem_append.1 hv with hv | hv
  · exact (h.le_last hv).2
  · rw [mem_singleton.1 hv]

/-- A repeated counter that arrives in order is the last one. -/
theorem InOrder.lastCounter_eq (h : InOrder (arrivals ++ [u])) (hv : v ∈ arrivals)
    (heq : counterOf v = counterOf u) : lastCounter arrivals = lastCounter (arrivals ++ [u]) := by
  have hold : InOrder arrivals := (pairwise_append.1 h).1
  have hle := hold.counterOf_le_lastCounter hv
  obtain ⟨before, w, rfl⟩ := eq_nil_or_concat' arrivals |>.resolve_left (ne_nil_of_mem hv)
  have hlast := (h.le_last (mem_append_right _ (mem_singleton_self w))).2
  rw [lastCounter_append_singleton] at hle ⊢
  rw [lastCounter_append_singleton]
  omega

/-- A delivery that charges nothing. -/
theorem Accounted.keep (h : Accounted k emitted a) {updates : List NormalizedFlowRecord}
    (hcounters : (ofConnection k db.counterStates).Sublist (ofConnection k a.db.counterStates))
    (harrived : ∀ v ∈ a.arrivals ++ updates, v ∈ emitted)
    (hclaim : ∀ u ∈ emitted, Flow.claimed db.deduplication (eventKey u k.1) = true →
      ∃ v ∈ a.arrivals ++ updates, counterOf v = counterOf u)
    (hexact : InOrder (a.arrivals ++ updates) →
      lastCounter a.arrivals = lastCounter (a.arrivals ++ updates)) :
    Accounted k emitted ⟨db, a.arrivals ++ updates, a.charged⟩ where
  arrived := harrived
  unique := hcounters.length_le.trans h.unique
  counter c hc := by
    obtain ⟨v, hv, hctr⟩ := h.counter c (hcounters.subset hc)
    exact ⟨v, mem_append_left _ hv, hctr⟩
  claimed := hclaim
  bounded := by
    rw [largest_append]
    exact h.bounded.trans (le_max_left _ _)
  exact horder := by
    rw [← hexact horder]
    exact h.exact (pairwise_append.1 horder).1

/-- A delivery after which the last counter has been charged. -/
theorem Accounted.advance {counters : List TrafficFlowCounterState}
    (hcounters : (ofConnection k db.counterStates).Sublist counters) (hlen : counters.length ≤ 1)
    (hlast : ∀ c ∈ counters, c.lastEventAt = some u.observedAt ∧ c.lastBytes = u.bytesTotal)
    (harrived : ∀ v ∈ arrivals ++ [u], v ∈ emitted)
    (hclaim : ∀ u' ∈ emitted, Flow.claimed db.deduplication (eventKey u' k.1) = true →
      ∃ v ∈ arrivals ++ [u], counterOf v = counterOf u') :
    Accounted k emitted ⟨db, arrivals ++ [u], counterOf u⟩ where
  arrived := harrived
  unique := hcounters.length_le.trans hlen
  counter c hc := by
    obtain ⟨hat, hbytes⟩ := hlast c (hcounters.subset hc)
    exact ⟨u, mem_append_right _ (mem_singleton_self u), hat, hbytes, rfl⟩
  claimed := hclaim
  bounded := counterOf_le_largest (mem_append_right _ (mem_singleton_self u))
  exact _ := (lastCounter_append_singleton arrivals u).symm

theorem Accounted.exists_counter (h : Accounted k emitted a) :
    ∃ counter : Option TrafficFlowCounterState,
      ofConnection k a.db.counterStates = counter.toList := by
  rcases hc : ofConnection k a.db.counterStates with - | ⟨c, - | ⟨c', rest⟩⟩
  · exact ⟨none, rfl⟩
  · exact ⟨some c, rfl⟩
  · have hunique := h.unique
    rw [hc] at hunique
    simp at hunique

theorem length_updateEffect (k : CounterKey) (now : DateTime)
    (counter : Option TrafficFlowCounterState) (u : NormalizedFlowRecord) :
    (updateEffect k now counter u).2.length ≤ 1 := by
  rw [updateEffect]
  split
  · cases counter with
    | none => exact Nat.zero_le 1
    | some c => exact le_rfl
  · exact le_rfl

/-- **One delivery** keeps the law. -/
theorem Accounted.deliver (hk : Emits k emitted) (h : Accounted k emitted a)
    (hd : Carries k emitted d) (hcontinues : Continues k a d) :
    Accounted k emitted (deliver clock k a d) := by
  rw [Flow.deliver]
  cases hingest : ingest clock d.now d.sourceId d.records a.db with
  | none => exact h
  | some db' =>
    obtain ⟨counter, hctr⟩ := h.exists_counter
    obtain ⟨hcharged, hsublist, hclaims⟩ := ingest_delivered hingest hk hd hctr
    have harrived : ∀ v ∈ a.arrivals ++ d.update.toList, v ∈ emitted := by
      intro v hv
      rcases mem_append.1 hv with hv | hv
      · exact h.arrived v hv
      · exact (hd.update v (mem_toList.1 hv)).1
    have hclaim : ∀ u ∈ emitted, Flow.claimed db'.deduplication (eventKey u k.1) = true →
        ∃ v ∈ a.arrivals ++ d.update.toList, counterOf v = counterOf u := by
      intro u hu hclaim
      rcases hclaims u hu hclaim with hold | ⟨v, hv, heq⟩
      · obtain ⟨v, hv, heq⟩ := h.claimed u hu hold
        exact ⟨v, mem_append_left _ hv, heq⟩
      · refine ⟨v, mem_append_right _ (mem_toList.2 hv), ?_⟩
        exact congrArg (fun key ↦ key.bytesTotal.getD 0) heq
    dsimp only
    cases hfresh : d.fresh k a.db with
    | none =>
      rw [hfresh] at hcharged hsublist
      rw [hcharged, elim_none, add_zero]
      refine h.keep (hctr ▸ hsublist) harrived hclaim fun horder ↦ ?_
      cases hupdate : d.update with
      | none => rw [toList_none, append_nil]
      | some u =>
        -- a repetition: its counter has arrived before
        have hrept := claimed_of_fresh_eq_none hfresh u hupdate
        obtain ⟨v, hv, heq⟩ := h.claimed u (hd.update u hupdate).1 hrept
        rw [hupdate] at horder
        exact horder.lastCounter_eq hv heq
    | some u =>
      obtain ⟨hupdate, -⟩ := mem_fresh hfresh
      obtain ⟨htie, hgone⟩ := hcontinues u hfresh
      rw [hfresh] at hcharged hsublist
      rw [hupdate] at harrived hclaim
      rw [hcharged, elim_some, hupdate]
      rw [elim_some] at hsublist
      have hcounters : ∀ c ∈ counter, ∃ v ∈ a.arrivals, c.lastEventAt = some v.observedAt ∧
          c.lastBytes = v.bytesTotal ∧ a.charged = counterOf v := fun c hc ↦
        h.counter c (hctr ▸ mem_toList.2 hc)
      have hnone : counter = none → a.charged = 0 := by
        intro hnone
        rw [hnone] at hctr
        exact Nat.le_zero.1 (h.bounded.trans (largest_eq_zero (hgone hctr)).le)
      have hemitted : ∀ c ∈ counter, ∃ v ∈ emitted, c.lastEventAt = some v.observedAt ∧
          c.lastBytes = v.bytesTotal ∧ a.charged = counterOf v := fun c hc ↦ by
        obtain ⟨v, hv, hctr⟩ := hcounters c hc
        exact ⟨v, h.arrived v hv, hctr⟩
      have htie : ∀ c ∈ counter, c.lastEventAt = some u.observedAt →
          c.lastBytes.getD 0 ≤ counterOf u := fun c hc ↦
        htie c (hctr ▸ mem_toList.2 hc)
      rcases updateEffect_cases hk (hd.update u hupdate).1 hemitted hnone htie d.now with
        ⟨heffect, c, hc, hlate⟩ | ⟨hsum, hlast⟩
      · rw [heffect] at hsublist ⊢
        refine h.keep (hctr ▸ hsublist) harrived hclaim fun horder ↦ ?_
        obtain ⟨v, hv, hat, -⟩ := hcounters c hc
        exact absurd (hlate _ hat) (not_lt.2 (horder.le_last hv).1)
      · rw [hsum]
        exact .advance hsublist (length_updateEffect k d.now counter u) hlast harrived hclaim

/-- **Cumulative counters are not over-counted.** In every run whose fresh updates continue the
stored counter, the bytes charged are at most the largest counter that arrived, and exactly the last
one while the updates arrive in order. -/
theorem counter_not_overcounted (hk : Emits k emitted)
    (h : (connection clock k emitted).ReachableBy
      (fun a d ↦ Carries k emitted d ∧ Continues k a d) a) :
    a.charged ≤ largest a.arrivals ∧ (InOrder a.arrivals → a.charged = lastCounter a.arrivals) := by
  have haccounted : Accounted k emitted a := by
    refine h.invariant (fun a hinit ↦ ?_) fun a d ha hd ↦ ha.deliver hk hd.1 hd.2
    obtain ⟨harrivals, hcharged, hcounters, hclaims⟩ := hinit
    refine ⟨?_, ?_, ?_, fun u hu hclaim ↦ ?_, ?_, fun _ ↦ ?_⟩
    · rw [harrivals]
      exact fun v hv ↦ nomatch hv
    · rw [hcounters]
      exact Nat.zero_le 1
    · rw [hcounters]
      exact fun c hc ↦ nomatch hc
    · rw [hclaims u hu] at hclaim
      cases hclaim
    · rw [hcharged]
      exact Nat.zero_le _
    · rw [hcharged, harrivals]
      rfl
  exact ⟨haccounted.bounded, haccounted.exact⟩

end Runs

/-! ### Two updates of one event time -/

/-- A connection of source 1, with a cumulative update of it. -/
def tiedKey : CounterKey := (1, "192.0.2.1", "7")

@[inherit_doc tiedKey]
def tiedUpdate (sequence bytes : ℕ) : NormalizedFlowRecord where
  exporterIdentity := "192.0.2.1"
  sourceId := 0
  sequence := sequence
  recordIndex := 0
  observedAt := 1000000
  bytesTotal := some bytes
  eventType := some .update
  connectionId := some "7"
  cumulativeCounters := true

/-- An update delivered in a batch of its own. -/
def tiedDelivery (sequence bytes : ℕ) : Delivery where
  now := 2000000
  sourceId := some 1
  update := some (tiedUpdate sequence bytes)

/-- The account before any update. -/
def tiedAccount : Account where
  db := { inventory := { sources := [{ id := 1 }] } }

theorem tied_emits : Emits tiedKey [tiedUpdate 1 100, tiedUpdate 2 200] where
  ofConnection := by decide
  ordered := by decide

theorem tied_reachable {ok : Account → Delivery → Prop} {first second : ℕ × ℕ}
    (hfirst : ok tiedAccount (tiedDelivery first.1 first.2))
    (hsecond : ok (deliver utcClock tiedKey tiedAccount (tiedDelivery first.1 first.2))
      (tiedDelivery second.1 second.2)) :
    (connection utcClock tiedKey [tiedUpdate 1 100, tiedUpdate 2 200]).ReachableBy ok
      (deliver utcClock tiedKey (deliver utcClock tiedKey tiedAccount
        (tiedDelivery first.1 first.2)) (tiedDelivery second.1 second.2)) :=
  .next _ (.next _ (.start ⟨rfl, rfl, rfl, by decide⟩) hfirst) hsecond

theorem tied_carries {sequence bytes : ℕ}
    (h : tiedUpdate sequence bytes ∈ [tiedUpdate 1 100, tiedUpdate 2 200]) :
    Carries tiedKey [tiedUpdate 1 100, tiedUpdate 2 200] (tiedDelivery sequence bytes) where
  update u hu := by
    obtain rfl := some.inj hu
    exact ⟨h, rfl⟩
  foreign r hr := (not_mem_nil hr).elim

theorem counter_not_overcounted_tied :
    let a := deliver utcClock tiedKey (deliver utcClock tiedKey tiedAccount (tiedDelivery 1 100))
      (tiedDelivery 2 200)
    a.charged = 200 ∧ a.charged ≤ largest a.arrivals ∧
      (InOrder a.arrivals → a.charged = lastCounter a.arrivals) := by
  refine ⟨by decide, counter_not_overcounted tied_emits (@tied_reachable _ (1, 100) (2, 200)
    ⟨tied_carries (by decide), fun u hu ↦ ?_⟩ ⟨tied_carries (by decide), fun u hu ↦ ?_⟩)⟩
  · exact ⟨fun c hc ↦ (not_mem_nil hc).elim, fun _ v hv ↦ (not_mem_nil hv).elim⟩
  · obtain rfl : tiedUpdate 2 200 = u := some.inj (mem_fresh hu).1
    exact ⟨by decide, by decide⟩

/-- **The reset heuristic charges the smaller counter again**: 300 bytes for a connection of 200. -/
theorem tied_overcounted : Emits tiedKey [tiedUpdate 1 100, tiedUpdate 2 200] ∧ ∃ a,
    (connection utcClock tiedKey [tiedUpdate 1 100, tiedUpdate 2 200]).ReachableBy
      (fun _ d ↦ Carries tiedKey [tiedUpdate 1 100, tiedUpdate 2 200] d) a ∧
    ¬ a.charged ≤ largest a.arrivals :=
  ⟨tied_emits, _, @tied_reachable _ (2, 200) (1, 100) (tied_carries (by decide))
    (tied_carries (by decide)), by decide⟩

end Kaya.Flow
