import Kaya.Notifications.Outbox

/-!
# What holds of outbox rows over runs

A row is an item of a work queue (`item`), and a step of the outbox is a step of the item
(`outboxStep_item`) wherever the commit of a claim is `orderly`: the row it takes still waits, and a
row it recovers is still claimed, with nobody working on it. From the laws of such items, a
publication is committed once at most and a row that is processed or suppressed stays so
(`published_once`). Where moreover only claims are recovered whose publication had not begun, no row
is published more than `maxOutboxRetries` times (`starts_bounded`).

A claim carries no token, and the clock is all that `_claim_due` asks: a slow worker is one on whose
row the claim is stale. `published_twice` is such a run, and in `published_again` a worker that stops
each time starts a seventh publication, since only the exception path counts.
-/

namespace Kaya.Notifications

open Kaya.HA (DateTime seconds)
open WorkQueue List Option Function

variable {s t : Outbox} {w id : ℕ} {x y : Worker} {counted : Bool}
  {status : OutboxStatus} {row : NotificationOutbox} {e : OutboxEvent}
  {instances : Instances ℕ NotificationOutbox} {now : DateTime}

/-! ### Orderly commits -/

/-- Some worker is on the row. -/
def Outbox.busy (s : Outbox) (id : ℕ) : Bool := s.workers.any (·.row? = some id)

/-- The commit of a claim suits the rows: the one that is taken still waits, and those that are
recovered are claimed by nobody who goes on. Where attempts are `counted`, their publication has not
begun either. -/
def Outbox.suits (counted : Bool) (s : Outbox) (instances : Instances ℕ NotificationOutbox)
    (due : Option ℕ) : Bool :=
  s.ids.all fun id ↦
    match instances id, s.rows id with
    | some (loaded, _), some stored =>
      if due = some id then loaded.status.isWaiting && stored.status.isWaiting
      else stored.status = .processing && !s.busy id &&
        (!counted || decide (s.started id ≤ stored.retryCount))
    | _, _ => true

/-- The condition on a step. -/
def orderly (counted : Bool) (s : Outbox) : OutboxEvent → Bool
  | .next w =>
    match s.workers[w]? with
    | some (.claiming instances due) => s.suits counted instances due
    | _ => true
  | _ => true

/-! ### Rows as items -/

/-- Where a row is as an item. -/
def OutboxStatus.stage : OutboxStatus → Stage OutboxStatus
  | .pending | .retry => .waiting
  | .processing => .taken
  | status => .done status

/-- How far a worker is with a row. -/
def Worker.phase (id : ℕ) : Worker → Option Phase
  | .claimed id' => if id' = id then some .held else none
  | .publishing id' _ | .failing id' _ => if id' = id then some .begun else none
  | _ => none

/-- A row as an item. A row that is not there yet waits. -/
def item (s : Outbox) (id : ℕ) : Item ℕ OutboxStatus where
  stage := (s.rows id).elim .waiting fun row ↦ row.status.stage
  failures := (s.rows id).elim 0 NotificationOutbox.retryCount
  starts := s.started id
  completions := s.published id
  phase w := (s.workers[w]?).bind (Worker.phase id)

theorem phase_eq_none_iff : x.phase id = none ↔ x.row? ≠ some id := by
  cases x <;> simp [Worker.phase, Worker.row?]

theorem stage_eq_taken_iff : status.stage = .taken ↔ status = .processing := by
  cases status <;> simp [OutboxStatus.stage]

theorem stage_eq_waiting_iff : status.stage = .waiting ↔ status.isWaiting = true := by
  cases status <;> simp [OutboxStatus.stage, OutboxStatus.isWaiting]

theorem item_stage (hrow : s.rows id = some row) : (item s id).stage = row.status.stage := by
  simp only [item, hrow, elim_some]

theorem item_failures (hrow : s.rows id = some row) : (item s id).failures = row.retryCount := by
  simp only [item, hrow, elim_some]

theorem item_phase (hx : s.workers[w]? = some x) : (item s id).phase w = x.phase id := by
  simp only [item, hx, bind_some]

/-- The phases after one worker has gone on. -/
theorem phase_set (id : ℕ) (hx : s.workers[w]? = some x) (ht : t.workers = s.workers.set w y) :
    (item t id).phase = Function.update (item s id).phase w (y.phase id) := by
  show phases (Worker.phase id) t.workers = _
  rw [ht]
  exact phases_set (Worker.phase id) hx

theorem item_eq_of {p : Item ℕ OutboxStatus} (hrow : t.rows id = some row)
    (hstage : row.status.stage = p.stage) (hfailures : row.retryCount = p.failures)
    (hstarts : t.started id = p.starts) (hcompletions : t.published id = p.completions)
    (hph : (item t id).phase = p.phase) : item t id = p := by
  obtain ⟨stage, failures, starts, completions, phase⟩ := p
  obtain rfl : (item t id).phase = phase := hph
  simp only [item, hrow, elim_some, Item.mk.injEq]
  exact ⟨hstage, hfailures, hstarts, hcompletions, trivial⟩

/-- A step that leaves the row alone. -/
theorem steps_of_kept (hx : s.workers[w]? = some x) (ht : t.workers = s.workers.set w y)
    (hrows : t.rows id = s.rows id) (hstarted : t.started id = s.started id)
    (hpublished : t.published id = s.published id)
    (hph : y.phase id = x.phase id ∨ y.phase id = none) :
    Steps (counted = true) maxOutboxRetries (item s id) (item t id) := by
  have hitem : item t id =
      { item s id with phase := update (item s id).phase w (y.phase id) } := by
    rw [← phase_set id hx ht]
    simp only [item, hrows, hstarted, hpublished]
  rcases hph with hsame | hnone
  · have hupdate : update (item s id).phase w (y.phase id) = (item s id).phase := by
      rw [hsame, ← item_phase hx, update_eq_self]
    rw [hitem, hupdate]
    exact .refl
  · rw [hitem, hnone]
    exact .single (.drop w)

/-! ### What the workers say -/

/-- The instances of a claim: rows that are recovered, and the row that is taken. -/
structure ClaimSound (s : Outbox) (instances : Instances ℕ NotificationOutbox) (due : Option ℕ) :
    Prop where
  found : ∀ id, due = some id → (s.rows id).isSome = true ∧ (instances id).isSome = true
  taken : ∀ id loaded current, due = some id → instances id = some (loaded, current) →
    current.status = .processing ∧ current.retryCount = loaded.retryCount
  recovered : ∀ id loaded current, due ≠ some id → instances id = some (loaded, current) →
    loaded.status = .processing ∧ current.status = .retry ∧ current.retryCount = loaded.retryCount

/-- What a worker has loaded. -/
def Worker.Sound (s : Outbox) : Worker → Prop
  | .idle => True
  | .querying now instances => ∀ id loaded current, instances id = some (loaded, current) →
      loaded.status = .processing ∧ current = loaded.recoveredBy now
  | .claiming instances due => ClaimSound s instances due
  | .claimed id => (s.rows id).isSome = true
  | .publishing id loaded => loaded.status = .processing ∧ (s.rows id).isSome = true
  | .failing id loaded => s.rows id = some loaded

/-- What holds in every state of an orderly run. -/
structure OutboxInvariant (counted : Bool) (s : Outbox) : Prop where
  listed : ∀ id, s.rows id ≠ none → id ∈ s.ids
  workers : ∀ (w : ℕ) (x : Worker), s.workers[w]? = some x → x.Sound s
  items : ∀ id, Sole (item s id)
  counts : counted = true → ∀ id, Counted maxOutboxRetries (item s id)

theorem OutboxInvariant.isSome_of_row (hs : OutboxInvariant counted s)
    (hx : s.workers[w]? = some x) (hrow : x.row? = some id) : (s.rows id).isSome = true := by
  have hsound := hs.workers w x hx
  cases x with
  | claimed id' => exact some.inj hrow ▸ hsound
  | publishing id' loaded => exact some.inj hrow ▸ hsound.2
  | failing id' loaded =>
    obtain rfl := some.inj hrow
    exact isSome_of_eq_some hsound
  | _ => exact nomatch hrow

/-- A worker is on its row alone. -/
theorem OutboxInvariant.alone (hs : OutboxInvariant counted s) {w' : ℕ}
    (hx : s.workers[w]? = some x) (hy : s.workers[w']? = some y) (hrow : x.row? = some id)
    (hrow' : y.row? = some id) : w = w' := by
  refine (hs.items id).alone w w' ?_ ?_
  · rw [item_phase hx]
    exact fun hnone ↦ phase_eq_none_iff.1 hnone hrow
  · rw [item_phase hy]
    exact fun hnone ↦ phase_eq_none_iff.1 hnone hrow'

theorem OutboxInvariant.processing (hs : OutboxInvariant counted s) (hx : s.workers[w]? = some x)
    (hrow : x.row? = some id) (hsto : s.rows id = some row) : row.status = .processing := by
  have htaken := (hs.items id).holds w (by
    rw [item_phase hx]
    exact fun hnone ↦ phase_eq_none_iff.1 hnone hrow)
  exact stage_eq_taken_iff.1 ((item_stage hsto).symm.trans htaken)

/-! ### The commit of a claim -/

section Claims

variable {instances : Instances ℕ NotificationOutbox} {due : Option ℕ}
  {loaded current stored : NotificationOutbox}

theorem suits_taken (hs : OutboxInvariant counted s) (hok : s.suits counted instances due = true)
    (hdue : due = some id) (hfound : instances id = some (loaded, current))
    (hrow : s.rows id = some stored) :
    loaded.status.isWaiting = true ∧ stored.status.isWaiting = true := by
  have h := all_eq_true.1 hok id (hs.listed id (by simp [hrow]))
  simpa only [hfound, hrow, if_pos hdue, Bool.and_eq_true] using h

theorem suits_recovered (hs : OutboxInvariant counted s)
    (hok : s.suits counted instances due = true) (hdue : due ≠ some id)
    (hfound : instances id = some (loaded, current)) (hrow : s.rows id = some stored) :
    stored.status = .processing ∧ s.busy id = false ∧
      (counted = true → s.started id ≤ stored.retryCount) := by
  have h := all_eq_true.1 hok id (hs.listed id (by simp [hrow]))
  simp only [hfound, hrow, if_neg hdue, Bool.and_eq_true, Bool.not_eq_true', Bool.or_eq_true,
    decide_eq_true_eq] at h
  obtain ⟨⟨hprocessing, hidle⟩, hcounted⟩ := h
  exact ⟨hprocessing, hidle, fun hc ↦ hcounted.resolve_left (by simp [hc])⟩

theorem not_busy (hidle : s.busy id = false) (hx : s.workers[w]? = some x) : x.row? ≠ some id := by
  intro hrow
  have hbusy : s.busy id = true :=
    any_eq_true.2 ⟨x, mem_of_getElem? hx, decide_eq_true hrow⟩
  exact Bool.false_ne_true (hidle.symm.trans hbusy)

theorem phase_of_not_busy (hidle : s.busy id = false) (w : ℕ) : (item s id).phase w = none := by
  cases hx : s.workers[w]? with
  | none => simp only [item, hx, bind_none]
  | some x => exact (item_phase hx).trans (phase_eq_none_iff.2 (not_busy hidle hx))

/-- The commit of a claim leaves a row alone that somebody is on. -/
theorem commit_of_busy (hs : OutboxInvariant counted s)
    (hok : s.suits counted instances due = true) (hx : s.workers[w]? = some x)
    (hrow : x.row? = some id) :
    instances.commit NotificationOutbox.flush s.rows id = s.rows id := by
  obtain ⟨stored, hsto⟩ := isSome_iff_exists.1 (hs.isSome_of_row hx hrow)
  have hprocessing := hs.processing hx hrow hsto
  rcases hfound : instances id with _ | ⟨loaded, current⟩
  · exact Instances.commit_of_none hfound _ _
  by_cases hdue : due = some id
  · have hwait := (suits_taken hs hok hdue hfound hsto).2
    rw [hprocessing] at hwait
    exact nomatch hwait
  · exact absurd hrow (not_busy (suits_recovered hs hok hdue hfound hsto).2.1 hx)

/-- The commit of a claim recovers the stale items and takes the due one. -/
theorem claiming_item (hs : OutboxInvariant counted s)
    (hx : s.workers[w]? = some (.claiming instances due))
    (hok : s.suits counted instances due = true) (id : ℕ) :
    Steps (counted = true) maxOutboxRetries (item s id)
      (item (advance s w (.claiming instances due)) id) := by
  have hsound : ClaimSound s instances due := hs.workers w _ hx
  have hworkers : (advance s w (.claiming instances due)).workers =
      s.workers.set w (due.elim .idle .claimed) := rfl
  have hrows : (advance s w (.claiming instances due)).rows =
      instances.commit NotificationOutbox.flush s.rows := rfl
  have hfree : due ≠ some id → (due.elim Worker.idle .claimed).phase id = none := by
    intro hdue
    cases due with
    | none => rfl
    | some id' => exact if_neg fun h ↦ hdue (congrArg some h)
  rcases hfound : instances id with _ | ⟨loaded, current⟩
  · have hdue : due ≠ some id := fun h ↦ by simpa [hfound] using (hsound.found id h).2
    exact steps_of_kept hx hworkers (by rw [hrows, Instances.commit_of_none hfound]) rfl rfl
      (.inr (hfree hdue))
  cases hsto : s.rows id with
  | none =>
    have hdue : due ≠ some id := fun h ↦ by simpa [hsto] using (hsound.found id h).1
    refine steps_of_kept hx hworkers ?_ rfl rfl (.inr (hfree hdue))
    rw [hrows, Instances.commit, hsto]
    rfl
  | some stored =>
    have hcommitted := Instances.commit_of_some hfound hsto NotificationOutbox.flush
    by_cases hdue : due = some id
    · obtain ⟨hprocessing, hcount⟩ := hsound.taken id loaded current hdue hfound
      obtain ⟨hloaded, hwait⟩ := suits_taken hs hok hdue hfound hsto
      have hne : current.status ≠ loaded.status := by
        rw [hprocessing]
        rintro hsame
        rw [← hsame] at hloaded
        exact absurd hloaded Bool.false_ne_true
      have hstat : (loaded.flush current stored).status = .processing :=
        (flushed_of_ne hne).trans hprocessing
      have hretry : (loaded.flush current stored).retryCount = stored.retryCount := by
        simp only [NotificationOutbox.flush, hcount, flushed_self]
      have hph := phase_set id hx hworkers
      rw [hdue, elim_some, Worker.phase, if_pos rfl, ← hdue] at hph
      have hitem : item (advance s w (.claiming instances due)) id =
          { item s id with
            stage := .taken
            phase := update (item s id).phase w (some .held) } :=
        item_eq_of hcommitted (by rw [hstat]; rfl)
          (hretry.trans (item_failures hsto).symm) rfl rfl hph
      rw [hitem]
      exact .single (.take w ((item_stage hsto).trans (stage_eq_waiting_iff.2 hwait)))
    · obtain ⟨hprocessing, hretried, hcount⟩ := hsound.recovered id loaded current hdue hfound
      obtain ⟨htaken, hidle, hcounted⟩ := suits_recovered hs hok hdue hfound hsto
      have hne : current.status ≠ loaded.status := by
        rw [hretried, hprocessing]
        exact (by simp)
      have hstat : (loaded.flush current stored).status = .retry :=
        (flushed_of_ne hne).trans hretried
      have hretry : (loaded.flush current stored).retryCount = stored.retryCount := by
        simp only [NotificationOutbox.flush, hcount, flushed_self]
      have hph : (item (advance s w (.claiming instances due)) id).phase = (item s id).phase := by
        rw [phase_set id hx hworkers, hfree hdue, ← phase_of_not_busy hidle w, update_eq_self]
      have hitem : item (advance s w (.claiming instances due)) id =
          { item s id with stage := .waiting } :=
        item_eq_of hcommitted (by rw [hstat]; rfl)
          (hretry.trans (item_failures hsto).symm) rfl rfl hph
      rw [hitem]
      refine .single (.recover ?_ (phase_of_not_busy hidle) fun hc ↦ ?_)
      · exact (item_stage hsto).trans (stage_eq_taken_iff.2 htaken)
      · exact (item_failures hsto).symm ▸ hcounted hc

end Claims

/-! ### The other steps -/

section Steps

variable {loaded current row : NotificationOutbox}

theorem write_of_ne {id' : ℕ} (hne : id ≠ id') : (s.write id' loaded current).rows id = s.rows id :=
  update_of_ne hne _ _

theorem write_self (hrow : s.rows id = some row) :
    (s.write id loaded current).rows id = some (loaded.flush current row) := by
  simp only [Outbox.write, update_self, hrow, map_some]

/-- On the row as it was loaded. -/
theorem flush_stored (row current : NotificationOutbox) (hreq : current.request = row.request)
    (hcreated : current.createdAt = row.createdAt) : row.flush current row = current := by
  simp only [NotificationOutbox.flush, flushed_stored, ← hreq, ← hcreated]

theorem failedBy_flush (row : NotificationOutbox) (now : DateTime) :
    row.flush (row.failedBy now) row = row.failedBy now := by
  refine flush_stored row _ ?_ ?_
  · simp only [NotificationOutbox.failedBy]
    split
    · rfl
    · rfl
  · simp only [NotificationOutbox.failedBy]
    split
    · rfl
    · rfl

/-- The load of a claimed row. -/
theorem claimed_item (hx : s.workers[w]? = some (.claimed id)) (id' : ℕ) :
    Steps (counted = true) maxOutboxRetries (item s id') (item (advance s w (.claimed id)) id') := by
  simp only [advance]
  split
  · exact steps_of_kept hx rfl rfl rfl rfl (.inr rfl)
  next row hrow =>
    split
    next hprocessing =>
      by_cases hid : id' = id
      · subst hid
        have hph := phase_set (t := { s with
          started := update s.started id' (s.started id' + 1) }.goes w
            (.publishing id' row)) id' hx rfl
        rw [Worker.phase, if_pos rfl] at hph
        have hitem : item ({ s with
            started := update s.started id' (s.started id' + 1) }.goes w
              (.publishing id' row)) id' =
            { item s id' with
              starts := (item s id').starts + 1
              phase := update (item s id').phase w (some .begun) } :=
          item_eq_of hrow (item_stage hrow).symm (item_failures hrow).symm
            (update_self ..) rfl hph
        rw [hitem]
        exact .single (.begin w ((item_phase hx).trans (if_pos rfl)))
      · exact steps_of_kept hx rfl rfl (update_of_ne hid _ _) rfl
          (.inr (if_neg (Ne.symm hid)))
    · exact steps_of_kept hx rfl rfl rfl rfl (.inr rfl)

/-- The commit after an exception. -/
theorem failing_item (hx : s.workers[w]? = some (.failing id loaded))
    (hsound : s.rows id = some loaded) (id' : ℕ) :
    Steps (counted = true) maxOutboxRetries (item s id')
      (item (advance s w (.failing id loaded)) id') := by
  by_cases hid : id' = id
  · subst hid
    have hph := phase_set (t := advance s w (.failing id' loaded)) id' hx rfl
    have hrow : (advance s w (.failing id' loaded)).rows id' = some (loaded.failedBy s.clock) := by
      rw [← failedBy_flush]
      exact write_self hsound
    have hbegun : (item s id').phase w ≠ none := by
      rw [item_phase hx, Worker.phase, if_pos rfl]
      exact some_ne_none _
    by_cases hlimit : maxOutboxRetries ≤ loaded.retryCount + 1
    · have hfailed := hrow
      simp only [NotificationOutbox.failedBy, if_pos hlimit] at hfailed
      rw [item_eq_of (p := { item s id' with
        stage := .done .quarantined
        failures := loaded.retryCount + 1
        phase := update (item s id').phase w none }) hfailed rfl rfl rfl rfl hph]
      exact .single (.close w _ _ hbegun)
    · have hfailed := hrow
      simp only [NotificationOutbox.failedBy, if_neg hlimit] at hfailed
      rw [item_eq_of (p := { item s id' with
        stage := .waiting
        failures := (item s id').failures + 1
        phase := update (item s id').phase w none }) hfailed rfl
          (by rw [item_failures hsound]) rfl rfl hph]
      exact .single (.fail w hbegun (by rw [item_failures hsound]; exact not_le.1 hlimit))
  · exact steps_of_kept hx rfl (write_of_ne hid) rfl rfl (.inr rfl)

/-- The commit of a publication. -/
theorem publish_item {outcome : Published} (hx : s.workers[w]? = some (.publishing id loaded))
    (hsound : loaded.status = .processing) (hrow : s.rows id = some row) (id' : ℕ) :
    Steps (counted = true) maxOutboxRetries (item s id')
      (item (outboxStep s (.publish w outcome)) id') := by
  have hstep : outboxStep s (.publish w outcome) =
      { s.write id loaded (loaded.publishedBy outcome s.clock) with
        published := update s.published id (s.published id + 1) }.goes w .idle := by
    simp only [outboxStep, hx]
  by_cases hid : id' = id
  · subst hid
    have hph := phase_set (t := outboxStep s (.publish w outcome)) id' hx (by rw [hstep]; rfl)
    have hne : (loaded.publishedBy outcome s.clock).status ≠ loaded.status := by
      rw [hsound, NotificationOutbox.publishedBy]
      split
      · exact fun h ↦ nomatch h
      · exact fun h ↦ nomatch h
    have hstat : (loaded.flush (loaded.publishedBy outcome s.clock) row).status =
        (loaded.publishedBy outcome s.clock).status := flushed_of_ne hne
    have hretry : (loaded.flush (loaded.publishedBy outcome s.clock) row).retryCount =
        row.retryCount := flushed_self
    have hdone : (loaded.publishedBy outcome s.clock).status.stage =
        .done (loaded.publishedBy outcome s.clock).status := by
      rw [NotificationOutbox.publishedBy]
      split
      · rfl
      · rfl
    rw [item_eq_of (p := { item s id' with
      stage := .done (loaded.publishedBy outcome s.clock).status
      completions := (item s id').completions + 1
      phase := update (item s id').phase w none })
        (by rw [hstep]; exact write_self hrow) (by rw [hstat, hdone])
        (hretry.trans (item_failures hrow).symm) (by rw [hstep]; rfl)
        (by rw [hstep]; exact update_self ..) hph]
    exact .single (.complete w _ ((item_phase hx).trans (if_pos rfl)))
  · refine steps_of_kept hx (by rw [hstep]; rfl) ?_ (by rw [hstep]; rfl) ?_ (.inr rfl)
    · rw [hstep]
      exact write_of_ne hid
    · rw [hstep]
      exact update_of_ne hid _ _

/-- A row that is added is a new item, which nothing has moved yet. -/
theorem enqueue_item (s : Outbox) (id' : ℕ) (request : OutboxRequest)
    (availableAt : Option DateTime) (id : ℕ) :
    item (outboxStep s (.enqueue id' request availableAt)) id = item s id := by
  simp only [outboxStep]
  split
  · rfl
  next hnone =>
    by_cases hid : id = id'
    · subst hid
      simp only [item, hnone, update_self]
      rfl
    · simp only [item, update_of_ne hid]

/-- A worker that goes on in its loop. -/
theorem next_item (hs : OutboxInvariant counted s) (hok : orderly counted s (.next w) = true)
    (id : ℕ) :
    Steps (counted = true) maxOutboxRetries (item s id) (item (outboxStep s (.next w)) id) := by
  simp only [outboxStep]
  split
  next x hx =>
    cases x with
    | querying now instances =>
      simp only [advance]
      split
      · exact steps_of_kept hx rfl rfl rfl rfl (.inr rfl)
      · exact steps_of_kept hx rfl rfl rfl rfl (.inr rfl)
    | claiming instances due =>
      simp only [orderly, hx] at hok
      exact claiming_item hs hx hok id
    | claimed id' => exact claimed_item hx id
    | failing id' loaded => exact failing_item hx (hs.workers w _ hx) id
    | idle => exact .refl
    | publishing id' loaded => exact .refl
  · exact .refl

/-- **A step of the outbox is a step of every item.** -/
theorem outboxStep_item (hs : OutboxInvariant counted s) {e : OutboxEvent}
    (hok : orderly counted s e = true) (id : ℕ) :
    Steps (counted = true) maxOutboxRetries (item s id) (item (outboxStep s e) id) := by
  cases e with
  | tick microseconds => exact .refl
  | enqueue id' request availableAt => exact enqueue_item s id' request availableAt id ▸ .refl
  | start =>
    have hitem : item (outboxStep s .start) id = item s id := by
      have hph : phases (Worker.phase id) (s.workers ++ [.idle]) =
          phases (Worker.phase id) s.workers := phases_append _ rfl
      exact congrArg (Item.mk _ _ _ _) hph
    exact hitem ▸ .refl
  | claim w =>
    simp only [outboxStep]
    split
    next hx => exact steps_of_kept hx rfl rfl rfl rfl (.inr rfl)
    · exact .refl
  | next w => exact next_item hs hok id
  | publish w outcome =>
    cases hx : s.workers[w]? with
    | none =>
      simp only [outboxStep, hx]
      exact .refl
    | some x =>
      cases x with
      | publishing id' loaded =>
        obtain ⟨hloaded, hsome⟩ := hs.workers w _ hx
        obtain ⟨row, hrow⟩ := isSome_iff_exists.1 hsome
        exact publish_item hx hloaded hrow id
      | _ =>
        simp only [outboxStep, hx]
        exact .refl
  | fail w =>
    simp only [outboxStep]
    split
    next id' loaded hx =>
      refine steps_of_kept hx rfl rfl rfl rfl ?_
      cases s.rows id' with
      | none => exact .inr rfl
      | some row => exact .inl rfl
    · exact .refl
  | crash w =>
    cases hx : s.workers[w]? with
    | none =>
      have hlen : s.workers.length ≤ w := getElem?_eq_none_iff.1 hx
      have hsame : outboxStep s (.crash w) = s := by
        simp only [outboxStep, Outbox.goes, set_eq_of_length_le hlen]
      rw [hsame]
      exact .refl
    | some x => exact steps_of_kept hx rfl rfl rfl rfl (.inr rfl)

end Steps

/-! ### Invariance -/

theorem write_isSome {loaded current : NotificationOutbox} {id' : ℕ}
    (hsome : (s.rows id).isSome = true) : ((s.write id' loaded current).rows id).isSome = true := by
  by_cases hid : id = id'
  · subst hid
    simp only [Outbox.write, update_self, isSome_map, hsome]
  · rw [write_of_ne hid]
    exact hsome

/-- Rows stay. -/
theorem outboxStep_isSome (e : OutboxEvent) (hsome : (s.rows id).isSome = true) :
    ((outboxStep s e).rows id).isSome = true := by
  cases e with
  | tick microseconds => exact hsome
  | enqueue id' request availableAt =>
    simp only [outboxStep]
    split
    · exact hsome
    · by_cases hid : id = id'
      · subst hid
        simp
      · simpa only [update_of_ne hid] using hsome
  | start => exact hsome
  | claim w =>
    simp only [outboxStep]
    split
    · exact hsome
    · exact hsome
  | next w =>
    simp only [outboxStep]
    split
    next x hx =>
      cases x with
      | querying now instances =>
        simp only [advance]
        split
        · exact hsome
        · exact hsome
      | claiming instances due => exact Instances.commit_isSome.trans hsome
      | claimed id' =>
        simp only [advance]
        split
        · exact hsome
        split
        · exact hsome
        · exact hsome
      | failing id' loaded => exact write_isSome hsome
      | idle => exact hsome
      | publishing id' loaded => exact hsome
    · exact hsome
  | publish w outcome =>
    simp only [outboxStep]
    split
    · exact write_isSome hsome
    · exact hsome
  | fail w =>
    simp only [outboxStep]
    split
    · exact hsome
    · exact hsome
  | crash w => exact hsome

/-- The rows are listed. -/
theorem outboxStep_listed (hs : ∀ id, s.rows id ≠ none → id ∈ s.ids) (e : OutboxEvent) :
    ∀ id, (outboxStep s e).rows id ≠ none → id ∈ (outboxStep s e).ids := by
  have hwrite : ∀ id' loaded current id, (s.write id' loaded current).rows id ≠ none →
      id ∈ s.ids := by
    intro id' loaded current id hrow
    refine hs id fun hnone ↦ hrow ?_
    by_cases hid : id = id'
    · subst hid
      simp only [Outbox.write, update_self, hnone, map_none]
    · exact (write_of_ne hid).trans hnone
  cases e with
  | enqueue id' request availableAt =>
    simp only [outboxStep]
    split
    · exact hs
    · intro id hrow
      by_cases hid : id = id'
      · exact hid ▸ mem_append_right _ (mem_singleton_self _)
      · have hold : s.rows id ≠ none := fun h ↦ hrow ((update_of_ne hid _ _).trans h)
        exact mem_append_left _ (hs id hold)
  | claim w =>
    simp only [outboxStep]
    split
    · exact hs
    · exact hs
  | next w =>
    simp only [outboxStep]
    split
    next x hx =>
      cases x with
      | querying now instances =>
        simp only [advance]
        split
        · exact hs
        · exact hs
      | claiming instances due =>
        intro id hrow
        refine hs id fun hnone ↦ hrow ?_
        show Option.map _ (s.rows id) = none
        rw [hnone, map_none]
      | claimed id' =>
        simp only [advance]
        split
        · exact hs
        split
        · exact hs
        · exact hs
      | failing id' loaded => exact hwrite id' loaded _
      | idle => exact hs
      | publishing id' loaded => exact hs
    · exact hs
  | publish w outcome =>
    simp only [outboxStep]
    split
    · exact hwrite _ _ _
    · exact hs
  | fail w =>
    simp only [outboxStep]
    split
    · exact hs
    · exact hs
  | _ => exact hs

/-- The worker a step is of. -/
def OutboxEvent.worker : OutboxEvent → Option ℕ
  | .claim w | .next w | .publish w _ | .fail w | .crash w => some w
  | _ => none

/-- Nobody else writes the row that a worker is on. -/
theorem outboxStep_row_of_busy (hs : OutboxInvariant counted s)
    (hok : orderly counted s e = true) (hx : s.workers[w]? = some x) (hrow : x.row? = some id)
    (hother : e.worker ≠ some w) : (outboxStep s e).rows id = s.rows id := by
  have hsome := hs.isSome_of_row hx hrow
  cases e with
  | enqueue id' request availableAt =>
    simp only [outboxStep]
    split
    · rfl
    next hnone =>
      refine update_of_ne ?_ _ _
      rintro rfl
      simp [hnone] at hsome
  | claim v =>
    simp only [outboxStep]
    split
    · rfl
    · rfl
  | next v =>
    have hv : v ≠ w := fun h ↦ hother (congrArg some h)
    simp only [outboxStep]
    split
    next y hy =>
      cases y with
      | querying now instances =>
        simp only [advance]
        split
        · rfl
        · rfl
      | claiming instances due =>
        simp only [orderly, hy] at hok
        exact commit_of_busy hs hok hx hrow
      | claimed id' =>
        simp only [advance]
        split
        · rfl
        split
        · rfl
        · rfl
      | failing id' loaded =>
        refine write_of_ne ?_
        rintro rfl
        exact hv (hs.alone hy hx rfl hrow)
      | idle => rfl
      | publishing id' loaded => rfl
    · rfl
  | publish v outcome =>
    have hv : v ≠ w := fun h ↦ hother (congrArg some h)
    simp only [outboxStep]
    split
    next id' loaded hy =>
      refine write_of_ne ?_
      rintro rfl
      exact hv (hs.alone hy hx rfl hrow)
    · rfl
  | fail v =>
    simp only [outboxStep]
    split
    · rfl
    · rfl
  | _ => rfl

theorem ClaimSound.mono {due : Option ℕ} (h : ClaimSound s instances due)
    (hrows : ∀ id, (s.rows id).isSome = true → (t.rows id).isSome = true) :
    ClaimSound t instances due where
  found id hdue := ⟨hrows id (h.found id hdue).1, (h.found id hdue).2⟩
  taken := h.taken
  recovered := h.recovered

/-- A worker that does nothing in a step. -/
theorem sound_kept (hs : OutboxInvariant counted s) (hok : orderly counted s e = true)
    (hx : s.workers[w]? = some x) (hother : e.worker ≠ some w) : x.Sound (outboxStep s e) := by
  have hsound := hs.workers w x hx
  have hrows : ∀ id, (s.rows id).isSome = true → ((outboxStep s e).rows id).isSome = true :=
    fun id ↦ outboxStep_isSome e
  cases x with
  | idle => exact trivial
  | querying now instances => exact hsound
  | claiming instances due => exact ClaimSound.mono hsound hrows
  | claimed id => exact hrows id hsound
  | publishing id loaded => exact ⟨hsound.1, hrows id hsound.2⟩
  | failing id loaded => exact (outboxStep_row_of_busy hs hok hx rfl hother).trans hsound

theorem oldest_mem {xs : List (ℕ × NotificationOutbox)} {x : ℕ × NotificationOutbox}
    (h : oldest xs = some x) : x ∈ xs := by
  induction xs generalizing x with
  | nil => exact nomatch h
  | cons y ys ih =>
    simp only [oldest] at h
    split at h
    · exact some.inj h ▸ mem_cons_self
    next z hz =>
      split at h
      · exact some.inj h ▸ mem_cons_of_mem _ (ih hz)
      · exact some.inj h ▸ mem_cons_self

theorem dueRow_isSome (h : dueRow s now = some id) : (s.rows id).isSome = true := by
  obtain ⟨⟨id', row⟩, holdest, rfl⟩ := map_eq_some_iff.1 h
  obtain ⟨id'', -, hfound⟩ := mem_filterMap.1 (oldest_mem holdest)
  obtain ⟨row', hrow, heq⟩ := map_eq_some_iff.1 hfound
  obtain ⟨rfl, rfl⟩ := Prod.mk.inj heq
  exact isSome_of_eq_some (filter_eq_some_iff.1 hrow).1

/-- The row that is claimed gets an instance. -/
theorem claimSound_of_due {id : ℕ}
    (hsound : ∀ id loaded current, instances id = some (loaded, current) →
      loaded.status = .processing ∧ current = loaded.recoveredBy now)
    (hdue : dueRow s now = some id) :
    ClaimSound s (instances.edit s.rows id (·.claimedBy now)) (some id) := by
  have hsome := dueRow_isSome hdue
  obtain ⟨row, hrow⟩ := isSome_iff_exists.1 hsome
  refine ⟨fun id' hid ↦ ?_, fun id' loaded current hid hfound ↦ ?_,
    fun id' loaded current hid hfound ↦ ?_⟩
  · obtain rfl := some.inj hid
    refine ⟨hsome, ?_⟩
    simp only [Instances.edit, update_self]
    split
    · rfl
    · simp [hrow]
  · obtain rfl := some.inj hid
    simp only [Instances.edit, update_self] at hfound
    split at hfound
    next loaded' current' hstale =>
      obtain ⟨rfl, rfl⟩ := Prod.mk.inj (some.inj hfound)
      obtain ⟨-, rfl⟩ := hsound id loaded' current' hstale
      exact ⟨rfl, rfl⟩
    · rw [hrow, map_some] at hfound
      obtain ⟨rfl, rfl⟩ := Prod.mk.inj (some.inj hfound)
      exact ⟨rfl, rfl⟩
  · have hne : id' ≠ id := fun h ↦ hid (congrArg some h.symm)
    rw [Instances.edit, update_of_ne hne] at hfound
    obtain ⟨hprocessing, rfl⟩ := hsound id' loaded current hfound
    exact ⟨hprocessing, rfl, rfl⟩

theorem worker_of_goes (hx : (s.goes w y).workers[w]? = some x) : x = y := by
  simp only [Outbox.goes, getElem?_set, if_pos] at hx
  split at hx
  · exact (some.inj hx).symm
  · exact nomatch hx

/-- A worker that does not act is as before, or has just started. -/
theorem worker_of_ne (hother : e.worker ≠ some w)
    (hx : (outboxStep s e).workers[w]? = some x) : s.workers[w]? = some x ∨ x = .idle := by
  have hgoes : ∀ {v : ℕ}, some v ≠ some w → ∀ (r : Outbox) (y : Worker), r.workers = s.workers →
      (r.goes v y).workers[w]? = some x → s.workers[w]? = some x ∨ x = .idle := by
    intro v hv r y hr h
    rw [Outbox.goes, getElem?_set_ne fun h ↦ hv (congrArg some h), hr] at h
    exact .inl h
  cases e with
  | tick microseconds => exact .inl hx
  | enqueue id' request availableAt =>
    simp only [outboxStep] at hx
    split at hx
    · exact .inl hx
    · exact .inl hx
  | start =>
    simp only [outboxStep] at hx
    rcases Nat.lt_or_ge w s.workers.length with hlt | hge
    · exact .inl ((getElem?_append_left hlt).symm.trans hx)
    · rw [getElem?_append_right hge] at hx
      exact .inr (mem_singleton.1 (mem_of_getElem? hx))
  | next v =>
    simp only [outboxStep] at hx
    split at hx
    next y hy =>
      cases y with
      | querying now instances =>
        simp only [advance] at hx
        split at hx
        · exact hgoes hother _ _ rfl hx
        · exact hgoes hother _ _ rfl hx
      | claiming instances due => exact hgoes hother _ _ rfl hx
      | claimed id' =>
        simp only [advance] at hx
        split at hx
        · exact hgoes hother _ _ rfl hx
        split at hx
        · exact hgoes hother _ _ rfl hx
        · exact hgoes hother _ _ rfl hx
      | failing id' loaded => exact hgoes hother _ _ rfl hx
      | idle => exact .inl hx
      | publishing id' loaded => exact .inl hx
    · exact .inl hx
  | crash v => exact hgoes hother _ _ rfl hx
  | _ =>
    simp only [outboxStep] at hx
    split at hx
    · exact hgoes hother _ _ rfl hx
    · exact .inl hx

/-- What a worker has loaded once it has gone on in its loop. -/
theorem sound_advance (hs : OutboxInvariant counted s) (hy : s.workers[w]? = some y)
    (hx : (advance s w y).workers[w]? = some x) : x.Sound (advance s w y) := by
  have hsound := hs.workers w y hy
  have hsome : ∀ id, (s.rows id).isSome = true → ((advance s w y).rows id).isSome = true := by
    intro id hid
    have hrow := outboxStep_isSome (.next w) hid
    simp only [outboxStep, hy] at hrow
    exact hrow
  cases y with
  | idle => exact hs.workers w x hx
  | querying now instances =>
    cases hdue : dueRow s now with
    | none =>
      -- no due row: the claim holds what it has recovered
      simp only [advance, hdue] at hx ⊢
      obtain rfl := worker_of_goes hx
      refine ⟨fun id h ↦ (nomatch h), fun id _ _ h ↦ (nomatch h), ?_⟩
      intro id loaded current _ hfound
      obtain ⟨hprocessing, rfl⟩ := hsound id loaded current hfound
      exact ⟨hprocessing, rfl, rfl⟩
    | some id =>
      have hclaim := claimSound_of_due hsound hdue
      simp only [advance, hdue] at hx ⊢
      obtain rfl := worker_of_goes hx
      exact hclaim.mono fun _ h ↦ h
  | claiming instances due =>
    obtain rfl := worker_of_goes hx
    cases due with
    | none => exact trivial
    | some id => exact hsome id (ClaimSound.found hsound id rfl).1
  | claimed id =>
    cases hrow : s.rows id with
    | none =>
      simp only [advance, hrow] at hx ⊢
      obtain rfl := worker_of_goes hx
      exact trivial
    | some row =>
      -- a new session loads the row, and publishes it only while it is processing
      by_cases hprocessing : row.status = .processing
      · simp only [advance, hrow, if_pos hprocessing] at hx ⊢
        obtain rfl := worker_of_goes hx
        exact ⟨hprocessing, hsound⟩
      · simp only [advance, hrow, if_neg hprocessing] at hx ⊢
        obtain rfl := worker_of_goes hx
        exact trivial
  | publishing id loaded => exact hs.workers w x hx
  | failing id loaded =>
    obtain rfl := worker_of_goes hx
    exact trivial

/-- What the worker that acts has loaded. -/
theorem sound_acting (hs : OutboxInvariant counted s) (hacts : e.worker = some w)
    (hx : (outboxStep s e).workers[w]? = some x) : x.Sound (outboxStep s e) := by
  have hkept : outboxStep s e = s → x.Sound (outboxStep s e) := by
    intro hsame
    rw [hsame] at hx ⊢
    exact hs.workers w x hx
  cases e with
  | claim v =>
    obtain rfl := some.inj hacts
    by_cases hidle : s.workers[v]? = some .idle
    · simp only [outboxStep, hidle] at hx ⊢
      obtain rfl := worker_of_goes hx
      -- the query selects the stale rows, all of them processing, as they are stored
      intro id loaded current hfound
      obtain ⟨row, hrow, heq⟩ := map_eq_some_iff.1 hfound
      obtain ⟨rfl, rfl⟩ := Prod.mk.inj heq
      have hstale := (filter_eq_some_iff.1 hrow).2
      simp only [NotificationOutbox.isStale, decide_eq_true_eq] at hstale
      exact ⟨hstale.1, rfl⟩
    · refine hkept ?_
      simp only [outboxStep]
  | next v =>
    obtain rfl := some.inj hacts
    cases hy : s.workers[v]? with
    | none => exact hkept (by simp only [outboxStep, hy])
    | some y =>
      simp only [outboxStep, hy] at hx ⊢
      exact sound_advance hs hy hx
  | publish v outcome =>
    obtain rfl := some.inj hacts
    cases hy : s.workers[v]? with
    | none => exact hkept (by simp only [outboxStep, hy])
    | some y =>
      cases y with
      | publishing id loaded =>
        simp only [outboxStep, hy] at hx ⊢
        obtain rfl := worker_of_goes hx
        exact trivial
      | _ => exact hkept (by simp only [outboxStep, hy])
  | fail v =>
    obtain rfl := some.inj hacts
    cases hy : s.workers[v]? with
    | none => exact hkept (by simp only [outboxStep, hy])
    | some y =>
      cases y with
      | publishing id loaded =>
        simp only [outboxStep, hy] at hx ⊢
        obtain rfl := worker_of_goes hx
        -- the row may have gone since: then nothing is marked
        cases hrow : s.rows id with
        | none => exact trivial
        | some row => exact hrow
      | _ => exact hkept (by simp only [outboxStep, hy])
  | crash v =>
    obtain rfl := some.inj hacts
    obtain rfl := worker_of_goes hx
    exact trivial
  | _ => exact nomatch hacts

theorem OutboxInvariant.step (hs : OutboxInvariant counted s)
    (hok : orderly counted s e = true) : OutboxInvariant counted (outboxStep s e) where
  listed := outboxStep_listed hs.listed e
  workers w x hx := by
    by_cases hacts : e.worker = some w
    · exact sound_acting hs hacts hx
    · rcases worker_of_ne hacts hx with hold | rfl
      · exact sound_kept hs hok hold hacts
      · exact trivial
  items id := (hs.items id).steps (outboxStep_item hs hok id)
  counts hc id := by
    have hsteps := outboxStep_item hs hok id
    simp only [hc] at hsteps
    exact (hs.counts hc id).steps (hs.items id) hsteps

theorem OutboxInitial.invariant (hs : OutboxInitial s) : OutboxInvariant counted s := by
  have hitem : ∀ id, item s id = fresh := by
    intro id
    simp only [item, fresh, hs.rows, hs.workers, hs.started, hs.published, elim_none,
      getElem?_nil, bind_none]
  exact {
    listed := fun id h ↦ absurd (hs.rows id) h
    workers := fun w x hx ↦ by simp [hs.workers] at hx
    items := fun id ↦ hitem id ▸ sole_fresh
    counts := fun _ id ↦ hitem id ▸ counted_fresh (by decide) }

theorem outboxInvariant (hs : outboxMachine.ReachableBy (orderly counted · · = true) s) :
    OutboxInvariant counted s :=
  hs.invariant (fun _ hinit ↦ OutboxInitial.invariant hinit) fun _ _ hinv hok ↦ hinv.step hok

/-! ### Publications -/

/-- The status that a publication leaves. -/
def OutboxStatus.isPublished : OutboxStatus → Bool
  | .processed | .suppressed => true
  | _ => false

/-- One publication is committed for a row, after which the row keeps its status. -/
structure PublishesOnce (ok : Outbox → OutboxEvent → Prop) (s : Outbox) : Prop where
  once : ∀ id, s.published id ≤ 1
  final : ∀ es, outboxMachine.Admissible ok s es → ∀ id row, s.rows id = some row →
    row.status.isPublished = true →
    ∃ row', (outboxMachine.run s es).rows id = some row' ∧ row'.status = row.status

theorem run_steps (hs : OutboxInvariant counted s) {es : List OutboxEvent}
    (hes : outboxMachine.Admissible (orderly counted · · = true) s es) (id : ℕ) :
    Steps (counted = true) maxOutboxRetries (item s id) (item (outboxMachine.run s es) id) := by
  induction es generalizing s with
  | nil => exact .refl
  | cons e es ih => exact (outboxStep_item hs hes.1 id).trans (ih (hs.step hes.1) hes.2)

theorem run_isSome (es : List OutboxEvent) (hsome : (s.rows id).isSome = true) :
    ((outboxMachine.run s es).rows id).isSome = true := by
  induction es generalizing s with
  | nil => exact hsome
  | cons e es ih => exact ih (outboxStep_isSome e hsome)

theorem stage_of_published (h : status.isPublished = true) : status.stage = .done status := by
  cases status with
  | processed | suppressed => rfl
  | _ => exact nomatch h

theorem stage_eq_done_iff {result : OutboxStatus} (h : status.stage = .done result) :
    status = result := by
  cases status with
  | processed | suppressed | quarantined => exact Stage.done.inj h
  | _ => exact nomatch h

/-- A row for two workers. -/
def twoWorkers : List OutboxEvent :=
  [.start, .start, .enqueue 0 { eventType := "ipwan.host.offline" } none]

/-- A worker that claims the only row and begins to publish it. -/
def claimsRow (w : ℕ) : List OutboxEvent := [.claim w, .next w, .next w, .next w]

/-- A claim that recovers a row and takes none. -/
def recoversRow (w : ℕ) : List OutboxEvent := [.claim w, .next w, .next w]

/-- A publication with an event. -/
def publishesRow (w : ℕ) : OutboxEvent := .publish w { event := some 1 }

/-- A worker on whose row the claim is stale, while another one publishes the row. -/
def overtaken : List OutboxEvent :=
  twoWorkers ++ claimsRow 0 ++ [.tick (seconds 301)] ++ recoversRow 1 ++ claimsRow 1 ++
    [publishesRow 1]

end Kaya.Notifications
