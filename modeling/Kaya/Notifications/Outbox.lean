import Kaya.HA.Model
import Kaya.Library.Instances
import Kaya.Library.Machine
import Kaya.Library.WorkQueue
import Mathlib.Algebra.Group.Nat.Defs

/-!
# The notification outbox

`_claim_due`, `_process_claimed` and `process_outbox` of `app/services/notification_outbox.py`, run
by any number of workers.

**Interleaving.** A worker is seen at its queries and commits: the two queries of a claim, its
commit, the load of the claimed row, and the commit that ends the publication, or, after an
exception, the load of the row and the commit of the failure. Nothing locks a row, so a commit
writes the columns that the worker has changed on its own instance (`Instances.commit`). A worker
that is cancelled goes on in its thread; `crash` is one that does not.

**Outside.** What `publish` does with the notification itself: its outcome is an input, and its
effects are part of the commit that ends the publication. `started` and `published` count, for each
row, how often a publication has begun and how often one has been committed.
-/

namespace Kaya.Notifications

open Kaya.HA (DateTime seconds)

/-! ### The rows -/

/-- `NotificationOutbox.status`. -/
inductive OutboxStatus
  | pending
  | processing
  | retry
  | processed
  | suppressed
  | quarantined
  deriving DecidableEq

/-- The row waits for a worker. -/
def OutboxStatus.isWaiting : OutboxStatus → Bool
  | .pending | .retry => true
  | _ => false

/-- The columns that are set when a row is enqueued. -/
structure OutboxRequest where
  eventType : String
  deduplicationKey : Option String := none
  resolveDeduplicationKey : Option String := none
  resolved : Bool := false

/-- `NotificationOutbox`. -/
structure NotificationOutbox where
  request : OutboxRequest
  createdAt : DateTime
  status : OutboxStatus := .pending
  retryCount : ℕ := 0
  nextRetryAt : Option DateTime := none
  claimedAt : Option DateTime := none
  processedAt : Option DateTime := none
  quarantinedAt : Option DateTime := none
  failureReasonCode : Option String := none
  resultJson : Option String := none
  notificationEventId : Option ℕ := none

/-- `MAX_OUTBOX_RETRIES`. -/
def maxOutboxRetries : ℕ := 6

/-- `STALE_CLAIM_SECONDS`. -/
def staleClaimSeconds : ℕ := 300

/-- The row after a commit. -/
def NotificationOutbox.flush (loaded current stored : NotificationOutbox) : NotificationOutbox where
  request := stored.request
  createdAt := stored.createdAt
  status := flushed loaded.status current.status stored.status
  retryCount := flushed loaded.retryCount current.retryCount stored.retryCount
  nextRetryAt := flushed loaded.nextRetryAt current.nextRetryAt stored.nextRetryAt
  claimedAt := flushed loaded.claimedAt current.claimedAt stored.claimedAt
  processedAt := flushed loaded.processedAt current.processedAt stored.processedAt
  quarantinedAt := flushed loaded.quarantinedAt current.quarantinedAt stored.quarantinedAt
  failureReasonCode :=
    flushed loaded.failureReasonCode current.failureReasonCode stored.failureReasonCode
  resultJson := flushed loaded.resultJson current.resultJson stored.resultJson
  notificationEventId :=
    flushed loaded.notificationEventId current.notificationEventId stored.notificationEventId

namespace NotificationOutbox

variable (row : NotificationOutbox) (now : DateTime)

/-- The claim is older than `STALE_CLAIM_SECONDS`. -/
def isStale : Bool :=
  row.status = .processing ∧ row.claimedAt.any (· < now - seconds staleClaimSeconds)

/-- The row may be claimed. -/
def isDue : Bool := row.status.isWaiting ∧ row.nextRetryAt.all (· ≤ now)

/-- `_claim_due`: a stale row. -/
def recoveredBy : NotificationOutbox :=
  { row with
    status := .retry
    failureReasonCode := some "stale_claim_recovered"
    nextRetryAt := some now }

/-- `_claim_due`: the row that is claimed. -/
def claimedBy : NotificationOutbox :=
  { row with
    status := .processing
    claimedAt := some now
    failureReasonCode := none }

/-- `_process_claimed`: the row after an exception. -/
def failedBy : NotificationOutbox :=
  let retryCount := row.retryCount + 1
  if maxOutboxRetries ≤ retryCount then
    { row with
      retryCount
      claimedAt := none
      failureReasonCode := some "publication_error"
      status := .quarantined
      quarantinedAt := some now
      nextRetryAt := none }
  else
    { row with
      retryCount
      claimedAt := none
      failureReasonCode := some "publication_error"
      status := .retry
      nextRetryAt := some (now + seconds (min 3600 (2 ^ retryCount * 15))) }

end NotificationOutbox

/-- What `publish` answers: the event, or the reason why there is none. -/
structure Published where
  event : Option ℕ
  suppressionReason : String := "publication_suppressed"
  diagnostics : String := ""

/-- `_process_claimed`: the row of a publication. -/
def NotificationOutbox.publishedBy (outcome : Published) (now : DateTime)
    (row : NotificationOutbox) : NotificationOutbox :=
  { row with
    status := if outcome.event.isSome then .processed else .suppressed
    failureReasonCode := if outcome.event.isSome then none else some outcome.suppressionReason
    resultJson := some outcome.diagnostics
    notificationEventId := outcome.event
    processedAt := some now
    claimedAt := none
    nextRetryAt := none }

/-! ### Workers -/

/-- Where a worker is. -/
inductive Worker
  | idle
  /-- `_claim_due`, after the query for stale rows. -/
  | querying (now : DateTime) (instances : Instances ℕ NotificationOutbox)
  /-- `_claim_due` before its commit, with the row it claims. -/
  | claiming (instances : Instances ℕ NotificationOutbox) (due : Option ℕ)
  /-- `_process_claimed` before it loads the row. -/
  | claimed (id : ℕ)
  /-- `_process_claimed`, which publishes. -/
  | publishing (id : ℕ) (loaded : NotificationOutbox)
  /-- `_process_claimed` after an exception, with the row loaded again. -/
  | failing (id : ℕ) (loaded : NotificationOutbox)

/-- The row a worker is on. -/
def Worker.row? : Worker → Option ℕ
  | .claimed id | .publishing id _ | .failing id _ => some id
  | _ => none

/-- The outbox and its workers. -/
structure Outbox where
  clock : DateTime
  ids : List ℕ
  rows : ℕ → Option NotificationOutbox
  workers : List Worker
  started : ℕ → ℕ
  published : ℕ → ℕ

/-- The order of `_claim_due`. -/
def isOlder (x y : ℕ × NotificationOutbox) : Bool :=
  x.2.createdAt < y.2.createdAt ∨ x.2.createdAt = y.2.createdAt ∧ x.1 < y.1

/-- The first row in that order. -/
def oldest : List (ℕ × NotificationOutbox) → Option (ℕ × NotificationOutbox)
  | [] => none
  | x :: xs =>
    match oldest xs with
    | none => some x
    | some y => if isOlder y x then some y else some x

/-- The row `_claim_due` finds. -/
def dueRow (s : Outbox) (now : DateTime) : Option ℕ :=
  (oldest (s.ids.filterMap fun id ↦ ((s.rows id).filter (·.isDue now)).map (id, ·))).map (·.1)

namespace Outbox

variable (s : Outbox)

/-- A worker goes on. -/
def goes (w : ℕ) (x : Worker) : Outbox := { s with workers := s.workers.set w x }

/-- The commit of one row. -/
def write (id : ℕ) (loaded current : NotificationOutbox) : Outbox :=
  { s with
    rows := Function.update s.rows id ((s.rows id).map (NotificationOutbox.flush loaded current)) }

end Outbox

/-- The next query or commit of a worker. -/
def advance (s : Outbox) (w : ℕ) : Worker → Outbox
  | .querying now instances =>
    match dueRow s now with
    | none => s.goes w (.claiming instances none)
    | some id =>
      s.goes w (.claiming (instances.edit s.rows id (·.claimedBy now)) (some id))
  | .claiming instances due =>
    { s with rows := instances.commit NotificationOutbox.flush s.rows }.goes w
      (due.elim .idle .claimed)
  | .claimed id =>
    match s.rows id with
    | none => s.goes w .idle
    | some row =>
      if row.status = .processing then
        { s with started := Function.update s.started id (s.started id + 1) }.goes w
          (.publishing id row)
      else s.goes w .idle
  | .failing id loaded => (s.write id loaded (loaded.failedBy s.clock)).goes w .idle
  | _ => s

/-- An event: the clock moves, a row is enqueued, a worker starts, begins a claim, takes its next
step, commits its publication, meets an exception, or stops. -/
inductive OutboxEvent
  | tick (microseconds : ℤ)
  | enqueue (id : ℕ) (request : OutboxRequest) (availableAt : Option DateTime)
  | start
  | claim (w : ℕ)
  | next (w : ℕ)
  | publish (w : ℕ) (outcome : Published)
  | fail (w : ℕ)
  | crash (w : ℕ)

/-- The step function. -/
def outboxStep (s : Outbox) : OutboxEvent → Outbox
  | .tick microseconds => { s with clock := s.clock + microseconds }
  | .enqueue id request availableAt =>
    match s.rows id with
    | some _ => s
    | none =>
      { s with
        ids := s.ids ++ [id]
        rows := Function.update s.rows id
          (some { request, createdAt := s.clock, nextRetryAt := availableAt }) }
  | .start => { s with workers := s.workers ++ [.idle] }
  | .claim w =>
    match s.workers[w]? with
    | some .idle =>
      s.goes w (.querying s.clock (.loadAll s.rows (·.isStale s.clock) (·.recoveredBy s.clock)))
    | _ => s
  | .next w =>
    match s.workers[w]? with
    | some x => advance s w x
    | none => s
  | .publish w outcome =>
    match s.workers[w]? with
    | some (.publishing id loaded) =>
      { s.write id loaded (loaded.publishedBy outcome s.clock) with
        published := Function.update s.published id (s.published id + 1) }.goes w .idle
    | _ => s
  | .fail w =>
    match s.workers[w]? with
    | some (.publishing id _) => s.goes w ((s.rows id).elim .idle (.failing id))
    | _ => s
  | .crash w => s.goes w .idle

/-- Nothing has been enqueued yet. -/
structure OutboxInitial (s : Outbox) : Prop where
  rows : ∀ id, s.rows id = none
  workers : s.workers = []
  started : ∀ id, s.started id = 0
  published : ∀ id, s.published id = 0

/-- The outbox. -/
def outboxMachine : Machine Outbox OutboxEvent where
  init := OutboxInitial
  step := outboxStep

/-- The outbox before its first row. -/
def emptyOutbox : Outbox where
  clock := 0
  ids := []
  rows _ := none
  workers := []
  started _ := 0
  published _ := 0

theorem emptyOutbox_initial : OutboxInitial emptyOutbox :=
  ⟨fun _ ↦ rfl, rfl, fun _ ↦ rfl, fun _ ↦ rfl⟩

end Kaya.Notifications
