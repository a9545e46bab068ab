import Kaya.HA.Model
import Mathlib.Algebra.Order.Ring.Nat

/-!
# Failures of reconciliation items

`_failure_due`, `_resolve_item_failure` and `_record_item_failure` of
`app/services/notification_runtime.py`, for the row of one monitor and operation.

The row counts the failures of all times: `_resolve_item_failure` leaves `attempt_count` as it is.
So the item is quarantined after failures in a row, and its delays start with the smallest one, as
long as it does not fail again after it has been reconciled (`countsInARow_iff`).

**Outside.** The notification that is enqueued for a quarantined item, the event it resolves, and
the texts of the exception.
-/

namespace Kaya.Notifications

open Option List
open Kaya.HA (DateTime seconds)

/-! ### The row -/

/-- `NotificationReconciliationFailure.status`. -/
inductive ItemFailureStatus
  | retry
  | quarantined
  | resolved
  | dismissed
  deriving DecidableEq

/-- `NotificationReconciliationFailure`. -/
structure ItemFailure where
  status : ItemFailureStatus := .retry
  attemptCount : ℕ := 0
  nextRetryAt : Option DateTime := none
  quarantinedAt : Option DateTime := none
  resolvedAt : Option DateTime := none

/-- `MAX_RECONCILIATION_ITEM_ATTEMPTS`. -/
def maxReconciliationItemAttempts : ℕ := 5

/-- The seconds to the next attempt. -/
def retrySeconds (attemptCount : ℕ) : ℕ := min 3600 (15 * 2 ^ attemptCount)

/-- `_resolve_item_failure`. -/
def resolveItemFailure (failure : Option ItemFailure) (now : DateTime) : Option ItemFailure :=
  failure.map fun failure ↦
    if failure.status = .resolved ∨ failure.status = .dismissed then failure
    else { failure with status := .resolved, resolvedAt := some now, nextRetryAt := none }

/-- `_record_item_failure`. -/
def recordItemFailure (failure : Option ItemFailure) (now : DateTime) : ItemFailure :=
  let failure := failure.getD {}
  let counted :=
    { failure with attemptCount := failure.attemptCount + 1, resolvedAt := none }
  if maxReconciliationItemAttempts ≤ counted.attemptCount then
    { counted with status := .quarantined, quarantinedAt := some now, nextRetryAt := none }
  else
    { counted with
      status := .retry
      nextRetryAt := some (now + seconds (retrySeconds counted.attemptCount)) }

/-! ### Calls -/

/-- How a reconciliation of the item has ended. -/
inductive Reconciled
  | failed
  | succeeded
  deriving DecidableEq

/-- The row after one call. -/
def afterCall (failure : Option ItemFailure) : Reconciled × DateTime → Option ItemFailure
  | (.failed, now) => some (recordItemFailure failure now)
  | (.succeeded, now) => resolveItemFailure failure now

/-- The row after some calls, where there was none before. -/
def afterCalls (calls : List (Reconciled × DateTime)) : Option ItemFailure :=
  calls.foldl afterCall none

/-- The failures at the end. -/
def lastFailures (calls : List (Reconciled × DateTime)) : ℕ :=
  (calls.reverse.takeWhile (·.1 = .failed)).length

/-- The row counts failures in a row. -/
structure CountsInARow (calls : List (Reconciled × DateTime)) : Prop where
  /-- A row becomes quarantined after so many failures in a row. -/
  quarantine : ∀ before now, before ++ [(.failed, now)] <+: calls →
    (∀ failure ∈ afterCalls before, failure.status ≠ .quarantined) →
      (∀ failure ∈ afterCalls (before ++ [(.failed, now)]), failure.status = .quarantined) →
        maxReconciliationItemAttempts ≤ lastFailures (before ++ [(.failed, now)])
  /-- After a resolved period the delay is the smallest. -/
  delay : ∀ before now, before ++ [(.failed, now)] <+: calls →
    (∃ failure ∈ afterCalls before, failure.status = .resolved) →
      ∀ failure ∈ afterCalls (before ++ [(.failed, now)]), failure.status = .retry →
        failure.nextRetryAt = some (now + seconds (retrySeconds 1))

section Calls

variable {calls before earlier : List (Reconciled × DateTime)} {now : DateTime}
  {failure : ItemFailure}

theorem afterCalls_append_singleton (calls : List (Reconciled × DateTime))
    (call : Reconciled × DateTime) :
    afterCalls (calls ++ [call]) = afterCall (afterCalls calls) call := by
  rw [afterCalls, foldl_append]
  rfl

/-- The failures of all times. -/
def failures (calls : List (Reconciled × DateTime)) : ℕ := (calls.map Prod.fst).count .failed

theorem failures_append_failed : failures (calls ++ [(.failed, now)]) = failures calls + 1 := by
  rw [failures, map_append, count_append]
  rfl

theorem failures_append_succeeded : failures (calls ++ [(.succeeded, now)]) = failures calls := by
  rw [failures, map_append, count_append]
  rfl

theorem failures_pos_iff : 0 < failures calls ↔ .failed ∈ calls.map Prod.fst :=
  count_pos_iff

/-- What a row says of the calls. -/
structure IsRowOf (calls : List (Reconciled × DateTime)) (failure : ItemFailure) : Prop where
  attemptCount : failure.attemptCount = failures calls
  pos : 0 < failure.attemptCount
  notDismissed : failure.status ≠ .dismissed

theorem isRowOf_record {failure : Option ItemFailure}
    (h : ∀ row ∈ failure, IsRowOf calls row) (hnone : failure = none → failures calls = 0) :
    IsRowOf (calls ++ [(.failed, now)]) (recordItemFailure failure now) := by
  have hcount : (failure.getD {}).attemptCount = failures calls := by
    cases failure with
    | none => exact (hnone rfl).symm
    | some row => exact (h row rfl).attemptCount
  rw [recordItemFailure]
  split
  · exact ⟨by rw [failures_append_failed, ← hcount], Nat.succ_pos _, by simp⟩
  · exact ⟨by rw [failures_append_failed, ← hcount], Nat.succ_pos _, by simp⟩

/-- There is a row iff there was a failure, and it counts all of them. -/
theorem afterCalls_spec (calls : List (Reconciled × DateTime)) :
    (afterCalls calls = none → failures calls = 0) ∧
      ∀ failure ∈ afterCalls calls, IsRowOf calls failure := by
  induction calls using reverseRecOn with
  | nil => exact ⟨fun _ ↦ rfl, fun _ h ↦ absurd h (by simp [afterCalls])⟩
  | append_singleton calls call ih =>
    obtain ⟨hnone, hrow⟩ := ih
    obtain ⟨outcome, now⟩ := call
    rw [afterCalls_append_singleton]
    cases outcome with
    | failed =>
      refine ⟨fun h ↦ absurd h (by simp [afterCall]), fun failure hfailure ↦ ?_⟩
      obtain rfl := some.inj hfailure
      exact isRowOf_record hrow hnone
    | succeeded =>
      rw [failures_append_succeeded, afterCall, resolveItemFailure]
      refine ⟨fun h ↦ hnone (map_eq_none_iff.1 h), fun failure hfailure ↦ ?_⟩
      obtain ⟨row, hmem, rfl⟩ := map_eq_some_iff.1 hfailure
      have hold := hrow row hmem
      split
      · exact ⟨by rw [hold.attemptCount, failures_append_succeeded], hold.pos, hold.notDismissed⟩
      · exact ⟨by rw [failures_append_succeeded, ← hold.attemptCount], hold.pos, by simp⟩

/-- The row after a failure. -/
theorem afterCalls_append_failed (calls : List (Reconciled × DateTime)) (now : DateTime) :
    ∃ row, afterCalls (calls ++ [(.failed, now)]) = some row ∧
      if maxReconciliationItemAttempts ≤ failures calls + 1 then row.status = .quarantined
      else row.status = .retry ∧
        row.nextRetryAt = some (now + seconds (retrySeconds (failures calls + 1))) := by
  obtain ⟨hnone, hrow⟩ := afterCalls_spec calls
  have hcount : ((afterCalls calls).getD {}).attemptCount = failures calls := by
    cases hcalls : afterCalls calls with
    | none => exact (hnone hcalls).symm
    | some row => exact (hrow row hcalls).attemptCount
  refine ⟨recordItemFailure (afterCalls calls) now, afterCalls_append_singleton _ _, ?_⟩
  rw [recordItemFailure, ← hcount]
  split
  · rfl
  · exact ⟨rfl, rfl⟩

/-- The row after a success, where there was a failure. -/
theorem afterCalls_append_succeeded (now : DateTime) (hfailed : 0 < failures calls) :
    ∃ row, afterCalls (calls ++ [(.succeeded, now)]) = some row ∧ row.status = .resolved := by
  obtain ⟨hnone, hrow⟩ := afterCalls_spec calls
  cases hcalls : afterCalls calls with
  | none => exact absurd (hnone hcalls) hfailed.ne'
  | some row =>
    rw [afterCalls_append_singleton, hcalls]
    refine ⟨_, rfl, ?_⟩
    have hstat := (hrow row hcalls).notDismissed
    dsimp only
    split
    next h => exact h.resolve_right hstat
    next => rfl

/-! ### Failures in a row -/

/-- The item has failed again after it was reconciled. -/
def FailsAgain (calls : List (Reconciled × DateTime)) : Prop :=
  [Reconciled.failed, .succeeded, .failed].Sublist (calls.map Prod.fst)

theorem append_singleton_sublist_iff (outcomes outcomes' : List Reconciled) (a b : Reconciled) :
    (outcomes ++ [a]).Sublist (outcomes' ++ [b]) ↔
      (outcomes ++ [a]).Sublist outcomes' ∨ a = b ∧ outcomes.Sublist outcomes' := by
  have hreverse : (outcomes ++ [a]).reverse.Sublist outcomes'.reverse ↔
      (outcomes ++ [a]).Sublist outcomes' := reverse_sublist
  rw [← hreverse, ← reverse_sublist, reverse_append, reverse_append,
    reverse_singleton, reverse_singleton, singleton_append, singleton_append,
    cons_sublist_cons', reverse_sublist]

theorem sublist_append_succeeded (hfailed : 0 < failures calls) :
    [Reconciled.failed, .succeeded].Sublist
      ((calls ++ [(Reconciled.succeeded, now)]).map Prod.fst) := by
  rw [map_append]
  have hmem := singleton_sublist.2 (failures_pos_iff.1 hfailed)
  exact hmem.append (.refl [Reconciled.succeeded])

theorem lastFailures_append_failed :
    lastFailures (calls ++ [(.failed, now)]) = lastFailures calls + 1 := by
  rw [lastFailures, reverse_append, reverse_singleton, singleton_append,
    takeWhile_cons_of_pos (by rfl), length_cons, lastFailures]

/-- Without a success after a failure, the failures are in a row. -/
theorem lastFailures_eq (h : ¬ [Reconciled.failed, .succeeded].Sublist (calls.map Prod.fst)) :
    lastFailures calls = failures calls := by
  induction calls using reverseRecOn with
  | nil => rfl
  | append_singleton calls call ih =>
    obtain ⟨outcome, now⟩ := call
    have hearlier : ¬ [Reconciled.failed, .succeeded].Sublist (calls.map Prod.fst) := by
      intro hsublist
      refine h ?_
      rw [map_append]
      exact hsublist.trans (sublist_append_left _ _)
    cases outcome with
    | failed => rw [lastFailures_append_failed, failures_append_failed, ih hearlier]
    | succeeded =>
      have hzero : failures calls = 0 :=
        Nat.eq_zero_of_not_pos fun hfailed ↦ h (sublist_append_succeeded hfailed)
      rw [failures_append_succeeded, hzero, lastFailures, reverse_append,
        reverse_singleton, singleton_append, takeWhile_cons_of_neg (by simp)]
      rfl

/-- A resolved row was reconciled after a failure. -/
theorem sublist_of_resolved (hrow : failure ∈ afterCalls calls)
    (hres : failure.status = .resolved) :
    [Reconciled.failed, .succeeded].Sublist (calls.map Prod.fst) := by
  rcases eq_nil_or_concat' calls with rfl | ⟨earlier, ⟨outcome, now⟩, rfl⟩
  · exact absurd hrow (by simp [afterCalls])
  · cases outcome with
    | failed =>
      obtain ⟨row, hlast, hstat⟩ := afterCalls_append_failed earlier now
      rw [hlast] at hrow
      obtain rfl := some.inj hrow
      split at hstat
      · exact absurd (hres.symm.trans hstat) (by decide)
      · exact absurd (hres.symm.trans hstat.1) (by decide)
    | succeeded =>
      refine sublist_append_succeeded ?_
      have hspec := (afterCalls_spec (earlier ++ [(.succeeded, now)])).2 failure hrow
      rw [← failures_append_succeeded, ← hspec.attemptCount]
      exact hspec.pos

/-- A failure right after a success that comes after a failure is counted with the earlier ones. -/
theorem not_countsInARow_of_succeeded {t : DateTime} (hfailed : 0 < failures earlier)
    (hstart : earlier ++ [(.succeeded, t)] ++ [(.failed, now)] <+: calls) :
    ¬ CountsInARow calls := by
  intro hcounts
  obtain ⟨before, hbef, hres⟩ := afterCalls_append_succeeded t hfailed
  obtain ⟨row, hrow, hstat⟩ := afterCalls_append_failed (earlier ++ [(.succeeded, t)]) now
  rw [failures_append_succeeded] at hstat
  by_cases hmax : maxReconciliationItemAttempts ≤ failures earlier + 1
  · rw [if_pos hmax] at hstat
    have hnot : ∀ failure ∈ afterCalls (earlier ++ [(.succeeded, t)]),
        failure.status ≠ .quarantined := by
      intro failure hfailure
      rw [hbef] at hfailure
      obtain rfl := some.inj hfailure
      rw [hres]
      decide
    have hcount := hcounts.quarantine _ now hstart hnot fun failure hfailure ↦ by
      rw [hrow] at hfailure
      exact some.inj hfailure ▸ hstat
    rw [lastFailures_append_failed, lastFailures, reverse_append, reverse_singleton,
      singleton_append, takeWhile_cons_of_neg (by simp)] at hcount
    exact absurd hcount (by decide)
  · rw [if_neg hmax] at hstat
    have hdelay := hcounts.delay _ now hstart ⟨before, hbef, hres⟩ row hrow hstat.1
    rw [hstat.2, some.injEq, add_right_inj] at hdelay
    have hsmall : failures earlier + 1 ≤ 4 := by
      rw [maxReconciliationItemAttempts] at hmax
      omega
    have hdelays : ∀ n ∈ [1, 2, 3], seconds (retrySeconds (n + 1)) ≠ seconds (retrySeconds 1) := by
      decide
    exact hdelays (failures earlier) (by simp; omega) hdelay

theorem CountsInARow.of_prefix
    (h : CountsInARow calls) (hstart : earlier <+: calls) : CountsInARow earlier where
  quarantine before now hbef := h.quarantine before now (hbef.trans hstart)
  delay before now hbef := h.delay before now (hbef.trans hstart)

end Calls

/-- A row counts failures in a row iff the item does not fail again after it was reconciled. -/
theorem countsInARow_iff (calls : List (Reconciled × DateTime)) :
    CountsInARow calls ↔ ¬ FailsAgain calls := by
  constructor
  · intro hcounts
    induction calls using reverseRecOn with
    | nil => exact fun h ↦ absurd h (by simp [FailsAgain])
    | append_singleton calls call ih =>
      have hearlier := ih (hcounts.of_prefix (prefix_append _ _))
      intro hagain
      rw [FailsAgain, map_append] at hagain
      rcases (append_singleton_sublist_iff [.failed, .succeeded] _ .failed _).1 hagain with
        hagain | ⟨hcall, hres⟩
      · exact hearlier hagain
      obtain ⟨outcome, now⟩ := call
      obtain rfl : Reconciled.failed = outcome := hcall
      -- The call before the last failure is a success, or the item has failed again before.
      rcases eq_nil_or_concat' calls with rfl | ⟨before, ⟨outcome, t⟩, rfl⟩
      · exact absurd hres (by simp)
      rw [map_append] at hres
      have hlast := (append_singleton_sublist_iff [.failed] _ .succeeded _).1 hres
      cases outcome with
      | failed =>
        refine hearlier ?_
        rw [FailsAgain, map_append]
        refine (append_singleton_sublist_iff [.failed, .succeeded] _ .failed _).2 (.inr ⟨rfl, ?_⟩)
        exact hlast.resolve_right fun h ↦ absurd h.1 (by simp)
      | succeeded =>
        have hfailed : 0 < failures before := by
          rw [failures_pos_iff, ← singleton_sublist]
          rcases hlast with hlast | ⟨-, hfailed⟩
          · exact (sublist_append_left [Reconciled.failed] [.succeeded]).trans hlast
          · exact hfailed
        exact not_countsInARow_of_succeeded hfailed (prefix_refl _) hcounts
  · intro hagain
    have hnot : ∀ before now, before ++ [(.failed, now)] <+: calls →
        ¬ [Reconciled.failed, .succeeded].Sublist (before.map Prod.fst) := by
      intro before now hstart hres
      refine hagain (.trans ?_ (hstart.sublist.map Prod.fst))
      rw [map_append]
      exact (append_singleton_sublist_iff [.failed, .succeeded] _ .failed _).2
        (.inr ⟨rfl, hres⟩)
    refine ⟨fun before now hstart _ hquarantined ↦ ?_,
      fun before now hstart ⟨failure, hfailure, hres⟩ ↦ ?_⟩
    · obtain ⟨row, hrow, hstat⟩ := afterCalls_append_failed before now
      have hrowQuarantined := hquarantined row hrow
      rw [lastFailures_append_failed, lastFailures_eq (hnot before now hstart)]
      by_contra hfew
      rw [if_neg hfew] at hstat
      exact absurd (hrowQuarantined.symm.trans hstat.1) (by decide)
    · exact absurd (sublist_of_resolved hfailure hres) (hnot before now hstart)

/-- The fifth failure of the item, four of them long ago. -/
def scatteredCalls : List (Reconciled × DateTime) :=
  [(.failed, 0), (.succeeded, seconds 60), (.failed, seconds 3600), (.succeeded, seconds 3720),
    (.failed, seconds 7200), (.succeeded, seconds 7400), (.failed, seconds 9000),
    (.succeeded, seconds 9300), (.failed, seconds 12000)]

theorem not_countsInARow : ¬ CountsInARow scatteredCalls := fun h ↦ by
  have hcount := h.quarantine (scatteredCalls.take 8) (seconds 12000) (prefix_refl _)
    (by decide) (by decide)
  exact absurd hcount (by decide)

end Kaya.Notifications
