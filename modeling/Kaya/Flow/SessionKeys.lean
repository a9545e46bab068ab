import Kaya.Flow.Counters

/-!
# The keys of an open session

Whether a batch commits depends only on keys: which sources have a collector state, which event keys
are claimed, which connections have a stored counter and which have one that is still unwritten.
`SessionKeys` is that part of a session, `SessionKeys.step` what one record does to it, and
`keys_processRecord` says that the collector follows it.

A source seen for the first time flushes the session and writes what was unwritten. A counter that is
unwritten is invisible: the next update of its connection adds it **again**, and the flush that
follows fails (`commit_eq_none_of_not_nodup`).

`mem_unwritten_iff` reads the unwritten connections off the records of a batch.
-/

namespace Kaya.Flow

open List

variable {clock : HostClock} {now : DateTime} {sourceId : Option ℕ} {k : CounterKey}
  {s s' : Session} {source : ℕ} {r : NormalizedFlowRecord} {b b' : Batch}
  {records : List NormalizedFlowRecord} {t : SessionTable TrafficFlowCounterState}

/-! ### Keys -/

/-- The keys of a session. -/
structure SessionKeys where
  sources : List ℕ
  claims : List EventKey
  stored : List CounterKey
  unwritten : List CounterKey

/-- The keys of a session, connections by the columns that queries see. -/
def Session.keys (s : Session) : SessionKeys where
  sources := s.states.map (·.sourceId)
  claims := s.deduplication.map (·.eventKey)
  stored := s.counterStates.rows.map (·.stored.key)
  unwritten := s.counterStates.pending.map (·.key)

namespace SessionKeys

/-- A new source writes what is unwritten. -/
def look (keys : SessionKeys) (source : ℕ) : SessionKeys :=
  if source ∈ keys.sources then keys
  else { keys with
    sources := keys.sources ++ [source]
    stored := keys.stored ++ keys.unwritten
    unwritten := [] }

/-- A new event key is claimed; a connection without a stored counter gets an unwritten one. -/
def claim (keys : SessionKeys) (source : ℕ) (r : NormalizedFlowRecord) : SessionKeys :=
  if eventKey r source ∈ keys.claims then keys
  else { keys with
    claims := keys.claims ++ [eventKey r source]
    unwritten := keys.unwritten ++ (counterKey r source).toList.filter (· ∉ keys.stored) }

/-- One record. -/
def step (sourceId : Option ℕ) (keys : SessionKeys) (r : NormalizedFlowRecord) : SessionKeys :=
  (keys.look (effectiveSource sourceId r)).claim (effectiveSource sourceId r) r

/-- The records of a batch. -/
def run (sourceId : Option ℕ) (keys : SessionKeys) (records : List NormalizedFlowRecord) :
    SessionKeys :=
  records.foldl (step sourceId) keys

end SessionKeys

/-! ### The collector follows the keys -/

theorem keys_session (db : Database) : db.session.keys =
    { sources := db.states.map (·.sourceId), claims := db.deduplication.map (·.eventKey),
      stored := db.counterStates.map (·.key), unwritten := [] } := by
  simp [Session.keys, Database.session, SessionTable.ofRows, Function.comp_def]

theorem keys_ensureState (halign : s.counterStates.Aligned TrafficFlowCounterState.key)
    (h : ensureState s source = some s') : s'.keys = s.keys.look source := by
  have hany : (s.states.any (·.sourceId = source)) = true ↔ source ∈ s.keys.sources := by
    simp [Session.keys]
  rw [ensureState] at h
  rw [SessionKeys.look]
  split at h
  · rename_i hst
    rw [if_pos (hany.1 hst), Option.some.inj h]
  · rename_i hst
    rw [if_neg fun hmem ↦ hst (hany.2 hmem)]
    split at h
    · rw [Session.flush_eq_some h, keys_session]
      have hvalue : s.counterStates.rows.map (fun row ↦ row.value.key) =
          s.counterStates.rows.map (·.stored.key) := map_congr_left halign
      simp [Session.keys, Session.database, SessionTable.values, Function.comp_def, hvalue]
    · cases h

theorem first?_isSome_iff : (t.first? (·.key = k)).isSome ↔ k ∈ t.rows.map (·.stored.key) := by
  rw [SessionTable.first?, Option.isSome_map, find?_isSome]
  simp

theorem keys_writeCounter {t : SessionTable TrafficFlowCounterState} {r : NormalizedFlowRecord} :
    (writeCounter t k r now).rows.map (·.stored.key) = t.rows.map (·.stored.key) ∧
      (writeCounter t k r now).pending.map (·.key) = t.pending.map (·.key) ++
        [k].filter (· ∉ t.rows.map (·.stored.key)) := by
  rw [writeCounter]
  split
  · rename_i hsto
    have hmap := congrArg (map TrafficFlowCounterState.key)
      (t.map_stored_edit (·.key = k) (advanceCounter · r now))
    rw [map_map, map_map] at hmap
    refine ⟨hmap, ?_⟩
    rw [filter_cons_of_neg (by simpa using first?_isSome_iff.1 hsto), filter_nil, append_nil]
    rfl
  · rename_i hsto
    refine ⟨rfl, ?_⟩
    have hnot : k ∉ t.rows.map (·.stored.key) := fun hmem ↦ hsto (first?_isSome_iff.2 hmem)
    rw [filter_cons_of_pos (by simpa using hnot), filter_nil, SessionTable.add, map_append]
    rfl

/-- Without a stored counter an update is never late. -/
theorem mem_stored_of_late
    (h : cumulativeCharge (t.first? (·.key = k)) r = none) : k ∈ t.rows.map (·.stored.key) := by
  rw [← first?_isSome_iff]
  cases hfirst : t.first? (·.key = k) with
  | none => rw [hfirst] at h; cases h
  | some c => rfl

theorem keys_admitRecord {s : Session} {source : ℕ} {r : NormalizedFlowRecord} :
    (admitRecord now source r s).1.keys = s.keys.claim source r := by
  have hclaim : claimed s.deduplication (eventKey r source) = true ↔
      eventKey r source ∈ s.keys.claims := by
    simp [claimed, Session.keys]
  rw [SessionKeys.claim]
  rcases admitRecord_cases now source r s with ⟨hold, heq⟩ | ⟨hfresh, hcases⟩
  · rw [heq, if_pos (hclaim.1 hold)]
  · rw [if_neg fun hmem ↦ by rw [hclaim.2 hmem] at hfresh; cases hfresh]
    rcases hcases with ⟨hnone, heq⟩ | ⟨k, hk, ⟨hlate, heq⟩ | ⟨charge, -, heq⟩⟩
    · rw [heq, hnone]
      simp [Session.keys, claimEvent, claimRow]
    · rw [heq, hk]
      have hsto := mem_stored_of_late hlate
      simp only [Session.keys, claimEvent, claimRow, map_append, map_cons, map_nil,
        Option.toList_some]
      rw [filter_cons_of_neg (by simpa using hsto), filter_nil, append_nil]
    · obtain ⟨hrows, hpend⟩ := @keys_writeCounter now k s.counterStates r
      rw [heq, hk]
      simp only [Session.keys, claimEvent, claimRow, map_append, map_cons, map_nil,
        Option.toList_some, hrows, hpend]
      rfl

theorem keys_modifyState {f : TrafficFlowCollectorState → TrafficFlowCollectorState}
    (hf : ∀ row, (f row).sourceId = row.sourceId) : (modifyState s source f).keys = s.keys := by
  have hstates : (modifyState s source f).states.map (·.sourceId) = s.states.map (·.sourceId) := by
    rw [modifyState, map_map]
    refine map_congr_left fun row _ ↦ ?_
    rw [Function.comp_apply]
    split
    · exact hf row
    · rfl
  rw [Session.keys, hstates]
  rfl

theorem keys_settle :
    (settle clock now source b r).session.keys = b.session.keys.claim source r := by
  rw [← @keys_admitRecord now, settle]
  rcases admitRecord now source r b.session with ⟨s, admission⟩
  cases admission with
  | duplicate => exact keys_modifyState fun _ ↦ rfl
  | outOfOrder => exact keys_modifyState fun _ ↦ rfl
  | accepted p =>
    have hpost : (post clock s p).keys = s.keys := by
      rw [post_eq]
      rfl
    show _ = s.keys
    rw [← hpost]
    exact keys_modifyState fun _ ↦ rfl

theorem aligned_processRecord (h : processRecord clock now sourceId b r = some b')
    (halign : b.session.counterStates.Aligned TrafficFlowCounterState.key) :
    b'.session.counterStates.Aligned TrafficFlowCounterState.key := by
  obtain ⟨s, hs, rfl⟩ := processRecord_eq_some h
  have halign : s.counterStates.Aligned TrafficFlowCounterState.key := by
    rcases (ensureState_session hs).2 with hcounters | hcounters
    · rw [hcounters]
      exact halign
    · rw [hcounters]
      exact SessionTable.aligned_ofRows _
  rw [(settle_session _ { b with session := s } r).2]
  rcases admitRecord_cases now (effectiveSource sourceId r) r s with
    ⟨-, heq⟩ | ⟨-, ⟨-, heq⟩ | ⟨k, -, ⟨-, heq⟩ | ⟨charge, -, heq⟩⟩⟩
  · rw [heq]; exact halign
  · rw [heq]; exact halign
  · rw [heq]; exact halign
  · rw [heq]; exact aligned_writeCounter halign k r now

theorem aligned_processAll (h : processAll clock now sourceId b records = some b')
    (halign : b.session.counterStates.Aligned TrafficFlowCounterState.key) :
    b'.session.counterStates.Aligned TrafficFlowCounterState.key := by
  induction records generalizing b with
  | nil =>
    obtain rfl : b = b' := Option.some.inj h
    exact halign
  | cons r records ih =>
    simp only [processAll, Option.bind_eq_bind, Option.bind_eq_some_iff] at h
    obtain ⟨b₁, hrecord, hrest⟩ := h
    exact ih hrest (aligned_processRecord hrecord halign)

theorem keys_processRecord (h : processRecord clock now sourceId b r = some b')
    (halign : b.session.counterStates.Aligned TrafficFlowCounterState.key) :
    b'.session.keys = b.session.keys.step sourceId r := by
  obtain ⟨s, hs, rfl⟩ := processRecord_eq_some h
  rw [keys_settle, SessionKeys.step, keys_ensureState halign hs]

/-- **The collector follows the keys** through a batch. -/
theorem keys_processAll (h : processAll clock now sourceId b records = some b')
    (halign : b.session.counterStates.Aligned TrafficFlowCounterState.key) :
    b'.session.keys = b.session.keys.run sourceId records := by
  induction records generalizing b with
  | nil =>
    obtain rfl : b = b' := Option.some.inj h
    rfl
  | cons r records ih =>
    simp only [processAll, Option.bind_eq_bind, Option.bind_eq_some_iff] at h
    obtain ⟨b₁, hrecord, hrest⟩ := h
    rw [ih hrest (aligned_processRecord hrecord halign), keys_processRecord hrecord halign]
    rfl

/-! ### Repeated unwritten connections -/

/-- A session that would write a connection twice cannot commit. -/
theorem commit_eq_none_of_not_nodup (h : ¬ s.keys.unwritten.Nodup) : s.commit = none := by
  have hflush : s.counterStates.flush (fun c ↦ some c.key) = none := by
    rw [SessionTable.flush]
    split
    · rfl
    · refine Option.not_isSome_iff_eq_none.1 fun hsome ↦ ?_
      exact h (SessionTable.insertAll_isSome_iff.1 hsome).1
  rw [Session.commit, hflush]
  rfl

/-- A new source that was looked up flushed a session without repetitions. -/
theorem nodup_of_ensureState (h : ensureState s source = some s')
    (hsrc : source ∉ s.keys.sources) : s.keys.unwritten.Nodup := by
  by_contra hrept
  have hnone : Session.commit { s with states := s.states ++ [{ sourceId := source }] } = none :=
    commit_eq_none_of_not_nodup hrept
  have hst : ¬ (s.states.any (·.sourceId = source)) = true := by
    simpa [Session.keys] using hsrc
  rw [ensureState, if_neg hst, Session.flush, hnone] at h
  split at h
  · cases h
  · cases h

/-- A repetition stays until a commit fails on it. -/
theorem processRecord_not_nodup (h : processRecord clock now sourceId b r = some b')
    (halign : b.session.counterStates.Aligned TrafficFlowCounterState.key)
    (hrept : ¬ b.session.keys.unwritten.Nodup) : ¬ b'.session.keys.unwritten.Nodup := by
  rw [keys_processRecord h halign, SessionKeys.step, SessionKeys.look]
  split
  · rw [SessionKeys.claim]
    split
    · exact hrept
    · exact fun hnodup ↦ hrept (nodup_append.1 hnodup).1
  · rename_i hsrc
    obtain ⟨s, hs, -⟩ := processRecord_eq_some h
    exact absurd (nodup_of_ensureState hs hsrc) hrept

theorem processAll_not_nodup (h : processAll clock now sourceId b records = some b')
    (halign : b.session.counterStates.Aligned TrafficFlowCounterState.key)
    (hrept : ¬ b.session.keys.unwritten.Nodup) : ¬ b'.session.keys.unwritten.Nodup := by
  induction records generalizing b with
  | nil =>
    obtain rfl : b = b' := Option.some.inj h
    exact hrept
  | cons r records ih =>
    simp only [processAll, Option.bind_eq_bind, Option.bind_eq_some_iff] at h
    obtain ⟨b₁, hrecord, hrest⟩ := h
    exact ih hrest (aligned_processRecord hrecord halign)
      (processRecord_not_nodup hrecord halign hrept)

/-- A batch whose keys repeat an unwritten connection at some point does not commit. -/
theorem ingest_eq_none_of_not_nodup {db : Database} {records' : List NormalizedFlowRecord}
    (h : ¬ (db.session.keys.run sourceId records).unwritten.Nodup) :
    ingest clock now sourceId (records ++ records') db = none := by
  refine Option.eq_none_iff_forall_ne_some.2 fun db' hingest ↦ ?_
  obtain ⟨b, hb, hcommit⟩ := ingest_eq_some hingest
  rw [processAll_append, Option.bind_eq_some_iff] at hb
  obtain ⟨b₁, h₁, hb⟩ := hb
  have halign := aligned_processAll h₁ (SessionTable.aligned_ofRows _)
  rw [← keys_processAll h₁ (SessionTable.aligned_ofRows _)] at h
  have hend := processAll_not_nodup hb halign h
  have hnone : (expire now (flushEndpointUsage b.usage b.session)).commit = none :=
    commit_eq_none_of_not_nodup hend
  rw [hnone] at hcommit
  cases hcommit

/-! ### Reading the keys off a batch -/

/-- The record is a counted update of the connection after the records before it: its event key is
new. -/
def Counted (sourceId : Option ℕ) (keys : SessionKeys) (before : List NormalizedFlowRecord)
    (r : NormalizedFlowRecord) (k : CounterKey) : Prop :=
  counterKey r (effectiveSource sourceId r) = some k ∧
    eventKey r (effectiveSource sourceId r) ∉ keys.claims ∧
    ∀ x ∈ before, eventKey x (effectiveSource sourceId x) ≠ eventKey r (effectiveSource sourceId r)

/-- Some record is a counted update of the connection. -/
def HasCounted (sourceId : Option ℕ) (keys : SessionKeys) (records : List NormalizedFlowRecord)
    (k : CounterKey) : Prop :=
  ∃ before r after, records = before ++ r :: after ∧ Counted sourceId keys before r k

/-- The connection is new with a record of the batch, and no later record has a new source. -/
structure Waiting (sourceId : Option ℕ) (keys : SessionKeys) (k : CounterKey)
    (before : List NormalizedFlowRecord) (r : NormalizedFlowRecord)
    (after : List NormalizedFlowRecord) : Prop where
  stored : k ∉ keys.stored
  first : ¬ HasCounted sourceId keys before k
  counted : Counted sourceId keys before r k
  known : ∀ x ∈ after, effectiveSource sourceId x ∈ keys.sources ∨
    ∃ y ∈ before ++ [r], effectiveSource sourceId y = effectiveSource sourceId x

theorem append_cons_eq_concat_iff {α : Type*} {before after xs : List α} {x r : α} :
    xs ++ [r] = before ++ x :: after ↔ (before = xs ∧ x = r ∧ after = []) ∨
      ∃ rest, after = rest ++ [r] ∧ xs = before ++ x :: rest := by
  rcases eq_nil_or_concat' after with rfl | ⟨rest, last, rfl⟩
  · rw [append_singleton_inj]
    constructor
    · rintro ⟨rfl, rfl⟩
      exact .inl ⟨rfl, rfl, rfl⟩
    · rintro (⟨rfl, rfl, -⟩ | ⟨rest, hrest, -⟩)
      · exact ⟨rfl, rfl⟩
      · exact absurd hrest.symm (append_ne_nil_of_right_ne_nil _ (cons_ne_nil _ _))
  · rw [← cons_append, ← append_assoc, append_singleton_inj]
    constructor
    · rintro ⟨rfl, rfl⟩
      exact .inr ⟨rest, rfl, rfl⟩
    · rintro (⟨-, -, hnil⟩ | ⟨rest', hrest, rfl⟩)
      · exact absurd hnil (append_ne_nil_of_right_ne_nil _ (cons_ne_nil _ _))
      · obtain ⟨rfl, rfl⟩ := append_singleton_inj.1 hrest
        exact ⟨rfl, rfl⟩

theorem hasCounted_concat {keys : SessionKeys} : HasCounted sourceId keys (records ++ [r]) k ↔
      HasCounted sourceId keys records k ∨ Counted sourceId keys records r k := by
  constructor
  · rintro ⟨before, x, after, heq, hcounted⟩
    rcases append_cons_eq_concat_iff.1 heq with ⟨rfl, rfl, -⟩ | ⟨rest, -, rfl⟩
    · exact .inr hcounted
    · exact .inl ⟨before, x, rest, rfl, hcounted⟩
  · rintro (⟨before, x, after, rfl, hcounted⟩ | hcounted)
    · exact ⟨before, x, after ++ [r], by simp, hcounted⟩
    · exact ⟨records, r, [], rfl, hcounted⟩

namespace SessionKeys

variable {keys : SessionKeys} {records before after : List NormalizedFlowRecord} {source : ℕ}
  {r x : NormalizedFlowRecord}

theorem run_append (records' : List NormalizedFlowRecord) :
    keys.run sourceId (records ++ records') = (keys.run sourceId records).run sourceId records' :=
  foldl_append

theorem run_concat (r : NormalizedFlowRecord) :
    keys.run sourceId (records ++ [r]) = (keys.run sourceId records).step sourceId r :=
  run_append [r]

@[simp] theorem sources_claim (source : ℕ) (r : NormalizedFlowRecord) :
    (keys.claim source r).sources = keys.sources := by
  rw [claim]
  split
  · rfl
  · rfl

@[simp] theorem stored_claim (source : ℕ) (r : NormalizedFlowRecord) :
    (keys.claim source r).stored = keys.stored := by
  rw [claim]
  split
  · rfl
  · rfl

@[simp] theorem claims_look (source : ℕ) : (keys.look source).claims = keys.claims := by
  rw [look]
  split
  · rfl
  · rfl

theorem mem_sources_run : source ∈ (keys.run sourceId records).sources ↔
    source ∈ keys.sources ∨ ∃ x ∈ records, effectiveSource sourceId x = source := by
  induction records generalizing keys with
  | nil => simp [run]
  | cons r records ih =>
    have hstep : source ∈ (keys.step sourceId r).sources ↔
        source ∈ keys.sources ∨ effectiveSource sourceId r = source := by
      rw [step, sources_claim, look]
      split
      · rename_i hmem
        exact ⟨.inl, fun h ↦ h.elim id fun heq ↦ heq ▸ hmem⟩
      · simp [eq_comm]
    show source ∈ ((keys.step sourceId r).run sourceId records).sources ↔ _
    rw [ih, hstep, exists_mem_cons_iff, or_assoc]

theorem mem_claims_run {key : EventKey} : key ∈ (keys.run sourceId records).claims ↔
    key ∈ keys.claims ∨ ∃ x ∈ records, eventKey x (effectiveSource sourceId x) = key := by
  induction records generalizing keys with
  | nil => simp [run]
  | cons r records ih =>
    have hstep : key ∈ (keys.step sourceId r).claims ↔
        key ∈ keys.claims ∨ eventKey r (effectiveSource sourceId r) = key := by
      rw [step, claim, claims_look]
      split
      · rename_i hmem
        rw [claims_look]
        exact ⟨.inl, fun h ↦ h.elim id fun heq ↦ heq ▸ hmem⟩
      · simp [eq_comm]
    show key ∈ ((keys.step sourceId r).run sourceId records).claims ↔ _
    rw [ih, hstep, exists_mem_cons_iff, or_assoc]

theorem counted_run_iff :
    counterKey r (effectiveSource sourceId r) = some k ∧
        eventKey r (effectiveSource sourceId r) ∉ (keys.run sourceId records).claims ↔
      Counted sourceId keys records r k := by
  rw [mem_claims_run, not_or, Counted]
  simp only [not_exists, not_and, ne_eq]

/-- A connection has a counter, stored or unwritten. -/
def has (keys : SessionKeys) (k : CounterKey) : Prop := k ∈ keys.stored ∨ k ∈ keys.unwritten

theorem has_look (source : ℕ) : (keys.look source).has k ↔ keys.has k := by
  rw [look]
  split
  · rfl
  · simp [has]

theorem has_step (r : NormalizedFlowRecord) : (keys.step sourceId r).has k ↔ keys.has k ∨
    (counterKey r (effectiveSource sourceId r) = some k ∧
      eventKey r (effectiveSource sourceId r) ∉ keys.claims) := by
  rw [step, ← @has_look _ keys (effectiveSource sourceId r),
    ← @claims_look keys (effectiveSource sourceId r)]
  generalize keys.look (effectiveSource sourceId r) = keys
  rw [claim]
  split
  · rename_i hmem
    simp [hmem]
  · rename_i hmem
    rw [has, has]
    simp only [mem_append, mem_filter, Option.mem_toList, hmem, not_false_iff, and_true,
      decide_eq_true_eq]
    tauto

/-- **Which connections have a counter** after some records of a batch. -/
theorem has_run : (keys.run sourceId records).has k ↔
    keys.has k ∨ HasCounted sourceId keys records k := by
  induction records using reverseRecOn with
  | nil =>
    have hnone : ¬ HasCounted sourceId keys [] k := by
      rintro ⟨before, r, after, heq, -⟩
      exact append_ne_nil_of_right_ne_nil _ (cons_ne_nil _ _) heq.symm
    rw [or_iff_left hnone]
    rfl
  | append_singleton records r ih =>
    rw [run_concat, has_step, ih, counted_run_iff, hasCounted_concat, or_assoc]

section

variable (h : List.Disjoint keys.stored keys.unwritten)

include h

/-- Stored and unwritten connections are different ones. -/
theorem disjoint_claim (r : NormalizedFlowRecord) :
    List.Disjoint (keys.claim source r).stored (keys.claim source r).unwritten := by
  rw [stored_claim, claim]
  split
  · exact h
  · refine disjoint_append_right.2 ⟨h, fun k hk hmem ↦ ?_⟩
    have hnot := (mem_filter.1 hmem).2
    exact of_decide_eq_true hnot hk

theorem disjoint_step (r : NormalizedFlowRecord) :
    List.Disjoint (keys.step sourceId r).stored (keys.step sourceId r).unwritten := by
  refine disjoint_claim ?_ r
  rw [look]
  split
  · exact h
  · exact disjoint_nil_right _

theorem disjoint_run :
    List.Disjoint (keys.run sourceId records).stored (keys.run sourceId records).unwritten := by
  induction records generalizing keys with
  | nil => exact h
  | cons r records ih => exact ih (disjoint_step h r)

end

theorem mem_unwritten_step (r : NormalizedFlowRecord) : k ∈ (keys.step sourceId r).unwritten ↔
    (k ∈ keys.unwritten ∧ effectiveSource sourceId r ∈ keys.sources) ∨
      ((counterKey r (effectiveSource sourceId r) = some k ∧
          eventKey r (effectiveSource sourceId r) ∉ keys.claims) ∧
        k ∉ keys.stored ∧ (effectiveSource sourceId r ∈ keys.sources ∨ k ∉ keys.unwritten)) := by
  by_cases hsrc : effectiveSource sourceId r ∈ keys.sources
  · rw [step, look, if_pos hsrc, claim]
    split
    · rename_i hmem
      simp [hmem, hsrc]
    · rename_i hmem
      simp [hmem, hsrc]
  · rw [step, look, if_neg hsrc, claim]
    split
    · rename_i hmem
      simp [hmem, hsrc]
    · rename_i hmem
      simp [hmem, hsrc]

/-- A counted update of a connection without a stored counter adds one, whatever is unwritten. -/
theorem unwritten_step (hsrc : effectiveSource sourceId r ∈ keys.sources)
    (hkey : counterKey r (effectiveSource sourceId r) = some k)
    (hevent : eventKey r (effectiveSource sourceId r) ∉ keys.claims) (hsto : k ∉ keys.stored) :
    (keys.step sourceId r).unwritten = keys.unwritten ++ [k] := by
  rw [step, look, if_pos hsrc, claim, if_neg hevent, hkey, Option.toList_some,
    filter_cons_of_pos (by simpa using hsto), filter_nil]

theorem waiting_concat (h : records ++ [r] = before ++ x :: after)
    (hwait : Waiting sourceId keys k before x after) :
    (∃ rest, records = before ++ x :: rest ∧ Waiting sourceId keys k before x rest ∧
        effectiveSource sourceId r ∈ (keys.run sourceId records).sources) ∨
      (Counted sourceId keys records r k ∧ k ∉ keys.stored ∧
        ¬ HasCounted sourceId keys records k) := by
  rcases append_cons_eq_concat_iff.1 h with ⟨rfl, rfl, -⟩ | ⟨rest, rfl, rfl⟩
  · exact .inr ⟨hwait.counted, hwait.stored, hwait.first⟩
  · obtain ⟨hrest, hr⟩ := forall_mem_append.1 hwait.known
    refine .inl ⟨rest, rfl, ⟨hwait.stored, hwait.first, hwait.counted, hrest⟩, ?_⟩
    rw [mem_sources_run]
    refine (hr r (mem_singleton_self r)).imp_right ?_
    rintro ⟨y, hy, heq⟩
    refine ⟨y, ?_, heq⟩
    rw [append_cons]
    exact mem_append_left _ hy

/-- A source that the batch knows after records without new sources was known before them. -/
theorem known_of_mem_sources
    (hknown : ∀ x ∈ after, effectiveSource sourceId x ∈ keys.sources ∨
      ∃ y ∈ before, effectiveSource sourceId y = effectiveSource sourceId x)
    (h : source ∈ (keys.run sourceId (before ++ after)).sources) :
    source ∈ keys.sources ∨ ∃ y ∈ before, effectiveSource sourceId y = source := by
  rcases mem_sources_run.1 h with h | ⟨x, hx, rfl⟩
  · exact .inl h
  · rcases mem_append.1 hx with hx | hx
    · exact .inr ⟨x, hx, rfl⟩
    · exact hknown x hx

/-- A connection goes on waiting while sources are known. -/
theorem waiting_append (h : Waiting sourceId keys k before x after)
    (hsrc : effectiveSource sourceId r ∈ (keys.run sourceId (before ++ x :: after)).sources) :
    Waiting sourceId keys k before x (after ++ [r]) where
  stored := h.stored
  first := h.first
  counted := h.counted
  known := by
    refine forall_mem_append.2 ⟨h.known, fun y hy ↦ ?_⟩
    rw [mem_singleton.1 hy]
    rw [append_cons] at hsrc
    exact known_of_mem_sources h.known hsrc

/-- **Which counters are unwritten** after some records of a batch. -/
theorem mem_unwritten_iff (hkeys : keys.unwritten = []) :
    k ∈ (keys.run sourceId records).unwritten ↔ ∃ before r after,
      records = before ++ r :: after ∧ Waiting sourceId keys k before r after := by
  have hsto : keys.has k ↔ k ∈ keys.stored := by rw [has, hkeys]; simp
  induction records using reverseRecOn with
  | nil =>
    constructor
    · intro h
      have h : k ∈ keys.unwritten := h
      rw [hkeys] at h
      cases h
    · rintro ⟨before, r, after, heq, -⟩
      exact absurd heq.symm (append_ne_nil_of_right_ne_nil _ (cons_ne_nil _ _))
  | append_singleton records r ih =>
    have hhas := @has_run sourceId k keys records
    rw [hsto, has] at hhas
    rw [run_concat, mem_unwritten_step, counted_run_iff]
    constructor
    · rintro (⟨hunwritten, hsrc⟩ | ⟨hcounted, hnot, hcase⟩)
      · obtain ⟨before, x, after, rfl, hwait⟩ := ih.1 hunwritten
        exact ⟨before, x, after ++ [r], by simp, waiting_append hwait hsrc⟩
      · by_cases hunwritten : k ∈ (keys.run sourceId records).unwritten
        · -- the connection waits already, and the record's source is known
          obtain hsrc := hcase.resolve_right (not_not.2 hunwritten)
          obtain ⟨before, x, after, rfl, hwait⟩ := ih.1 hunwritten
          exact ⟨before, x, after ++ [r], by simp, waiting_append hwait hsrc⟩
        · have hno : ¬ (k ∈ keys.stored ∨ HasCounted sourceId keys records k) := by
            rw [← hhas]
            exact not_or.2 ⟨hnot, hunwritten⟩
          rw [not_or] at hno
          exact ⟨records, r, [], rfl, hno.1, hno.2, hcounted, fun x hx ↦ nomatch hx⟩
    · rintro ⟨before, x, after, heq, hwait⟩
      rcases waiting_concat heq hwait with ⟨rest, rfl, hrest, hsrc⟩ | ⟨hcounted, hnot, hno⟩
      · exact .inl ⟨ih.2 ⟨before, x, rest, rfl, hrest⟩, hsrc⟩
      · have hneither : ¬ (k ∈ (keys.run sourceId records).stored ∨
            k ∈ (keys.run sourceId records).unwritten) := by
          rw [hhas]
          exact not_or.2 ⟨hnot, hno⟩
        rw [not_or] at hneither
        exact .inr ⟨hcounted, hneither.1, .inr hneither.2⟩

end SessionKeys

end Kaya.Flow
