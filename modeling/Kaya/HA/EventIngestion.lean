import Kaya.HA.SystemSteps
import Kaya.Library.Session

/-!
# Ingesting agent events

`ingest_events` of `app/services/ha_agents.py`, under the session the code runs with. The loop asks
the database whether an event is known and adds the row of a new one; nothing is flushed before the
commit, so **a row that is still pending is not seen** by the questions that follow it. The unique
column `agent_event_id` is checked at the commit.

Only rows that have an identifier are kept here. `adopted` and `notified` record for which events the
owner adoption and the completion notification were run.

The owner adoption of a new event reads its `generation` with `int` and catches the errors of a text
or a missing value, but not that of an infinite float: such an event ends the call, and nothing of it
is committed.
-/

namespace Kaya.HA

open List

/-! ### The call -/

/-- An event as it is handed to `ingest_events`: the node that reports it, the clock of the call, its
identifier and its content. -/
structure AgentEvent where
  node : NodeId
  receivedAt : DateTime
  eventId : String
  item : HAAgentEventItem

/-- A row of `ha_events` that has an identifier. -/
structure AgentEventRow where
  nodeId : NodeId
  agentEventId : String

/-- The row of an event. -/
def AgentEvent.row (e : AgentEvent) : AgentEventRow := ⟨e.node, e.eventId⟩

/-- A completed automatic failover is announced. -/
def AgentEvent.completes (e : AgentEvent) : Bool :=
  e.item.eventType = "automatic_failover_completed"

/-- What is committed. -/
structure EventStore where
  cluster : HACluster
  rows : List AgentEventRow
  adopted : List AgentEvent
  notified : List AgentEvent

/-- The identifiers that are stored. -/
def EventStore.ids (store : EventStore) : List String := store.rows.map (·.agentEventId)

/-- The state of the loop of `ingest_events`. -/
structure EventSession where
  cluster : HACluster
  rows : SessionTable AgentEventRow
  accepted : ℕ := 0
  duplicates : ℕ := 0
  adopted : List AgentEvent := []
  completed : List AgentEvent := []

/-- One turn of the loop; nothing when it raises. -/
def ingestOne (s : EventSession) (e : AgentEvent) : Option EventSession :=
  if (s.rows.first? (·.agentEventId = e.eventId)).isSome then
    some { s with duplicates := s.duplicates + 1 }
  else if e.item.generation = .infinite then none
  else
    some
      { cluster := ingestEvent s.cluster e.node e.item e.receivedAt
        rows := s.rows.add e.row
        accepted := s.accepted + 1
        duplicates := s.duplicates
        adopted := s.adopted ++ [e]
        completed := if e.completes then s.completed ++ [e] else s.completed }

/-- `ingest_events`: the answer — nothing when the loop or the commit raises — and what is
committed. -/
def ingestEvents (store : EventStore) (events : List AgentEvent) : Option (ℕ × ℕ) × EventStore :=
  match events.foldlM ingestOne { cluster := store.cluster, rows := .ofRows store.rows } with
  | none => (none, store)
  | some s =>
    match s.rows.flush (fun row ↦ some row.agentEventId) with
    | none => (none, store)
    | some rows =>
      (some (s.accepted, s.duplicates),
        { cluster := s.cluster, rows
          adopted := store.adopted ++ s.adopted, notified := store.notified ++ s.completed })

/-- Any number of calls, one after the other. -/
def ingestCalls (store : EventStore) :
    List (List AgentEvent) → List (Option (ℕ × ℕ)) × EventStore
  | [] => ([], store)
  | events :: calls =>
    let (answer, after) := ingestEvents store events
    let (answers, final) := ingestCalls after calls
    (answer :: answers, final)

/-! ### What is asked of it -/

/-- The events whose identifier has not come up before, each at its first occurrence. -/
def firstOccurrences : List String → List AgentEvent → List AgentEvent
  | _, [] => []
  | known, e :: events =>
    if e.eventId ∈ known then firstOccurrences known events
    else e :: firstOccurrences (e.eventId :: known) events

/-- What is stored once the first occurrences of some events are ingested. -/
def EventStore.with (store : EventStore) (events : List AgentEvent) : EventStore where
  cluster := events.foldl (fun c e ↦ ingestEvent c e.node e.item e.receivedAt) store.cluster
  rows := store.rows ++ events.map AgentEvent.row
  adopted := store.adopted ++ events
  notified := store.notified ++ events.filter AgentEvent.completes

/-- Every call answers, its two numbers add up to its events, and the first occurrence of every
identifier over all the calls is stored, adopted and announced, and no other occurrence. -/
structure IngestedOnce (store : EventStore) (calls : List (List AgentEvent)) : Prop where
  answers : (ingestCalls store calls).1.map (·.map fun answer ↦ answer.1 + answer.2) =
    calls.map fun events ↦ some events.length
  stored : (ingestCalls store calls).2 = store.with (firstOccurrences store.ids calls.flatten)

/-- The events a call takes for new. -/
def unstored (known : List String) (events : List AgentEvent) : List AgentEvent :=
  events.filter (·.eventId ∉ known)

/-- The new events of a call have different identifiers, and no infinite generation. -/
def Committable (known : List String) (events : List AgentEvent) : Prop :=
  ((unstored known events).map (·.eventId)).Nodup ∧
    ∀ e ∈ unstored known events, e.item.generation ≠ .infinite

instance (known : List String) (events : List AgentEvent) : Decidable (Committable known events) :=
  inferInstanceAs (Decidable (_ ∧ _))

/-- Those of every call, at the time it is made. -/
def AllCommittable : List String → List (List AgentEvent) → Prop
  | _, [] => True
  | known, events :: calls =>
    Committable known events ∧
      AllCommittable (known ++ (unstored known events).map (·.eventId)) calls

/-! ### One call -/

section Call

variable {store : EventStore} {events : List AgentEvent} {known : List String}

/-- **The loop**, from a session that has added some rows: it looks at the stored ones only, and
raises for a new event of infinite generation. -/
theorem foldlM_ingestOne (events : List AgentEvent) (s : EventSession)
    (hrows : s.rows.rows.map (·.stored.agentEventId) = known) :
    events.foldlM ingestOne s =
      if ∀ e ∈ unstored known events, e.item.generation ≠ .infinite then
        some
          { cluster := (unstored known events).foldl
              (fun c e ↦ ingestEvent c e.node e.item e.receivedAt) s.cluster
            rows :=
              { s.rows with pending := s.rows.pending ++ (unstored known events).map AgentEvent.row }
            accepted := s.accepted + (unstored known events).length
            duplicates := s.duplicates + (events.length - (unstored known events).length)
            adopted := s.adopted ++ unstored known events
            completed := s.completed ++ (unstored known events).filter AgentEvent.completes }
      else none := by
  induction events generalizing s with
  | nil => simp [unstored]
  | cons e events ih =>
    have hfound : (s.rows.first? (·.agentEventId = e.eventId)).isSome = true ↔
        e.eventId ∈ known := by
      rw [SessionTable.first?, Option.isSome_map, find?_isSome, ← hrows, mem_map]
      simp only [decide_eq_true_eq]
    have hle : (unstored known events).length ≤ events.length := length_filter_le _ _
    rw [foldlM_cons, ingestOne]
    by_cases hknown : e.eventId ∈ known
    · have hskip : unstored known (e :: events) = unstored known events :=
        filter_cons_of_neg (by simpa using hknown)
      rw [if_pos (hfound.2 hknown), hskip, length_cons]
      refine (ih _ (by exact hrows)).trans (if_congr Iff.rfl ?_ rfl)
      congr 2
      dsimp only
      omega
    · have htake : unstored known (e :: events) = e :: unstored known events :=
        filter_cons_of_pos (by simpa using hknown)
      rw [if_neg (fun h ↦ hknown (hfound.1 h)), htake]
      by_cases hinfinite : e.item.generation = .infinite
      · -- the first event raises
        rw [if_pos hinfinite, if_neg fun h ↦ h e mem_cons_self hinfinite]
        rfl
      rw [if_neg hinfinite]
      refine (ih _ (by exact hrows)).trans (if_congr ?_ (congrArg some ?_) rfl)
      · rw [forall_mem_cons, and_iff_right hinfinite]
      · simp only [SessionTable.add, foldl_cons, map_cons, length_cons,
          append_assoc, singleton_append, EventSession.mk.injEq, true_and]
        refine ⟨by omega, by omega, ?_⟩
        by_cases hcompletes : e.completes = true
        · rw [if_pos hcompletes, filter_cons_of_pos hcompletes, append_assoc, singleton_append]
        · rw [if_neg hcompletes, filter_cons_of_neg hcompletes]

/-- **One call**: it fails as a whole when the events it takes for new repeat an identifier or one of
them has an infinite generation. -/
theorem ingestEvents_eq : ingestEvents store events =
    if Committable store.ids events then
      (some ((unstored store.ids events).length,
        events.length - (unstored store.ids events).length), store.with (unstored store.ids events))
    else (none, store) := by
  have hids : (SessionTable.ofRows store.rows).rows.map (·.stored.agentEventId) = store.ids := by
    rw [SessionTable.ofRows, map_map]
    rfl
  have hloop := foldlM_ingestOne events
    { cluster := store.cluster, rows := .ofRows store.rows } hids
  have hrows : (SessionTable.ofRows store.rows).rows.map Tracked.value = store.rows := by
    have h := SessionTable.values_ofRows store.rows
    rwa [SessionTable.values, SessionTable.ofRows, append_nil] at h
  have hpend : (unstored store.ids events).map (·.eventId) =
      ((unstored store.ids events).map AgentEvent.row).map (·.agentEventId) := by
    rw [map_map]
    rfl
  have hfree : ∀ r ∈ (unstored store.ids events).map AgentEvent.row, ∀ row ∈ store.rows,
      row.agentEventId ≠ r.agentEventId := by
    intro r hr row hrow hsame
    obtain ⟨e, he, rfl⟩ := mem_map.1 hr
    have hnew : e.eventId ∉ store.ids := by simpa using (mem_filter.1 he).2
    have hid : row.agentEventId = e.eventId := hsame
    exact hnew (hid ▸ mem_map_of_mem hrow)
  have hinsert := @SessionTable.insertAll_isSome_iff _ _ _ AgentEventRow.agentEventId
    ((unstored store.ids events).map AgentEvent.row) store.rows
  rw [← hpend] at hinsert
  unfold ingestEvents
  rw [hloop]
  by_cases hfinite : ∀ e ∈ unstored store.ids events, e.item.generation ≠ .infinite
  · rw [if_pos hfinite]
    dsimp only [SessionTable.flush, SessionTable.ofRows] at hrows ⊢
    rw [nil_append, hrows]
    simp only [Bool.false_eq_true, if_false, nil_append, zero_add]
    by_cases hnodup : ((unstored store.ids events).map (·.eventId)).Nodup
    · obtain ⟨rows, hsome⟩ := Option.isSome_iff_exists.1 (hinsert.2 ⟨hnodup, hfree⟩)
      rw [hsome, if_pos ⟨hnodup, hfinite⟩, SessionTable.insertAll_eq_some hsome]
      rfl
    · have hnone : SessionTable.insertAll (fun row : AgentEventRow ↦ some row.agentEventId)
          store.rows ((unstored store.ids events).map AgentEvent.row) = none :=
        Option.not_isSome_iff_eq_none.1 fun h ↦ hnodup (hinsert.1 h).1
      rw [hnone, if_neg fun h ↦ hnodup h.1]
  · rw [if_neg hfinite, if_neg fun h ↦ hfinite h.2]

end Call

/-! ### First occurrences -/

section Occurrences

variable {known known' : List String} {events events' : List AgentEvent}

theorem firstOccurrences_congr (h : ∀ id, id ∈ known ↔ id ∈ known') :
    firstOccurrences known events = firstOccurrences known' events := by
  induction events generalizing known known' with
  | nil => rfl
  | cons e events ih =>
    have hcons : ∀ id, id ∈ e.eventId :: known ↔ id ∈ e.eventId :: known' := fun id ↦ by
      rw [mem_cons, mem_cons, h id]
    rw [firstOccurrences, firstOccurrences, ih h, ih hcons, if_congr (h e.eventId) rfl rfl]

theorem firstOccurrences_append : firstOccurrences known (events ++ events') =
    firstOccurrences known events ++
      firstOccurrences (known ++ (unstored known events).map (·.eventId)) events' := by
  induction events generalizing known with
  | nil => simp [firstOccurrences, unstored]
  | cons e events ih =>
    rw [cons_append, firstOccurrences, firstOccurrences]
    by_cases hknown : e.eventId ∈ known
    · have hskip : unstored known (e :: events) = unstored known events :=
        filter_cons_of_neg (by simpa using hknown)
      rw [if_pos hknown, if_pos hknown, ih, hskip]
    · have htake : unstored known (e :: events) = e :: unstored known events :=
        filter_cons_of_pos (by simpa using hknown)
      rw [if_neg hknown, if_neg hknown, ih, htake, cons_append]
      congr 2
      refine firstOccurrences_congr fun id ↦ ?_
      simp only [unstored, mem_append, mem_cons, mem_map, mem_filter, map_cons, decide_eq_true_eq]
      grind

/-- Where nothing new is repeated, every new event is a first occurrence. -/
theorem firstOccurrences_of_nodup (h : ((unstored known events).map (·.eventId)).Nodup) :
    firstOccurrences known events = unstored known events := by
  induction events generalizing known with
  | nil => rfl
  | cons e events ih =>
    rw [firstOccurrences]
    by_cases hknown : e.eventId ∈ known
    · have hskip : unstored known (e :: events) = unstored known events :=
        filter_cons_of_neg (by simpa using hknown)
      rw [hskip] at h ⊢
      rw [if_pos hknown, ih h]
    · have htake : unstored known (e :: events) = e :: unstored known events :=
        filter_cons_of_pos (by simpa using hknown)
      rw [htake, map_cons, nodup_cons] at h
      -- An event after the first one has another identifier.
      have hsame : unstored (e.eventId :: known) events = unstored known events := by
        refine filter_congr fun e' he' ↦ ?_
        by_cases hnew : e'.eventId ∈ known
        · simp [hnew]
        · have hne : e'.eventId ≠ e.eventId := fun heq ↦
            h.1 (heq ▸ mem_map_of_mem (mem_filter.2 ⟨he', by simpa using hnew⟩))
          simp [hnew, hne]
      rw [if_neg hknown, htake, ih (by rw [hsame]; exact h.2), hsame]

end Occurrences

/-! ### All the calls -/

section Calls

variable {store : EventStore} {events events' : List AgentEvent}

theorem EventStore.with_ids : (store.with events).ids = store.ids ++ events.map (·.eventId) := by
  rw [ids, EventStore.with, map_append, map_map]
  rfl

theorem EventStore.with_append : store.with (events ++ events') =
    (store.with events).with events' := by
  simp only [EventStore.with, foldl_append, map_append, append_assoc, filter_append]

@[simp] theorem EventStore.with_nil : store.with [] = store := by
  simp only [EventStore.with, foldl_nil, map_nil, filter_nil, append_nil]

theorem ingestCalls_cons {calls : List (List AgentEvent)} : ingestCalls store (events :: calls) =
    ((ingestEvents store events).1 :: (ingestCalls (ingestEvents store events).2 calls).1,
      (ingestCalls (ingestEvents store events).2 calls).2) := rfl

/-- **Every event is ingested once, exactly when** no call repeats a new identifier or brings a new
event of infinite generation. -/
theorem ingested_once_iff (store : EventStore) (calls : List (List AgentEvent)) :
    IngestedOnce store calls ↔ AllCommittable store.ids calls := by
  induction calls generalizing store with
  | nil => exact ⟨fun _ ↦ trivial, fun _ ↦ ⟨rfl, EventStore.with_nil.symm⟩⟩
  | cons events calls ih =>
    have hcall := @ingestEvents_eq store events
    have hle : (unstored store.ids events).length ≤ events.length := length_filter_le _ _
    rw [AllCommittable]
    by_cases hcommits : Committable store.ids events
    · rw [if_pos hcommits] at hcall
      have hids := @EventStore.with_ids store (unstored store.ids events)
      have hih := ih (store.with (unstored store.ids events))
      rw [hids] at hih
      have hfirst : store.with (firstOccurrences store.ids (events :: calls).flatten) =
          (store.with (unstored store.ids events)).with
            (firstOccurrences (store.with (unstored store.ids events)).ids calls.flatten) := by
        rw [flatten_cons, firstOccurrences_append, EventStore.with_append,
          firstOccurrences_of_nodup hcommits.1, hids]
      refine Iff.trans ⟨fun h ↦ ?_, fun h ↦ ?_⟩ (hih.trans (and_iff_right hcommits).symm)
      · obtain ⟨hanswers, hsto⟩ := h
        rw [ingestCalls_cons, hcall] at hanswers hsto
        exact ⟨(cons.inj hanswers).2, hsto.trans hfirst⟩
      · refine ⟨?_, ?_⟩
        · rw [ingestCalls_cons, hcall, map_cons, map_cons, h.answers, Option.map_some,
            Nat.add_sub_cancel' hle]
        · rw [ingestCalls_cons, hcall]
          exact h.stored.trans hfirst.symm
    · -- a call that is not committed gives no answer
      rw [if_neg hcommits] at hcall
      refine ⟨fun h ↦ ?_, fun h ↦ absurd h.1 hcommits⟩
      have hanswers := h.answers
      rw [ingestCalls_cons, hcall] at hanswers
      exact nomatch (cons.inj hanswers).1

end Calls

/-- An event of the first node of the sample cluster. -/
def sampleEvent : AgentEvent :=
  ⟨1, 0, "event-01", { eventType := "service_restarted", occurredAt := 0 }⟩

/-- **An event that comes up twice in one call costs the whole call.** -/
theorem repeated_event_loses_batch :
    ¬ ∀ (store : EventStore) (calls : List (List AgentEvent)), IngestedOnce store calls := by
  intro hall
  have hanswers := (hall ⟨sampleCluster, [], [], []⟩ [[sampleEvent, sampleEvent]]).answers
  have hlost : (ingestEvents ⟨sampleCluster, [], [], []⟩ [sampleEvent, sampleEvent]).1 = none := by
    rw [ingestEvents_eq, if_neg (by decide)]
  rw [ingestCalls_cons, hlost] at hanswers
  exact nomatch (cons.inj hanswers).1

end Kaya.HA
