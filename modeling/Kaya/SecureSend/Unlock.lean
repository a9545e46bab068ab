import Kaya.Library.LockOut
import Kaya.SecureSend.Access

/-!
# Wrong credentials

After five wrong credentials a package is locked for five minutes, after ten for thirty. The lock is
a column of the row: `attempt_limited` reads it on the instance that the request has loaded, the
password check follows, and the failure is written — as the count that was loaded, plus one — when
the check is over. Requests that have loaded the row before the first of them writes are all let
through: `eleven_attempts`, and as many more as there are requests.

`unlock_bounded` is the bound that the lock gives where wrong credentials are checked **one after
the other**, each on the failures that are stored: `Kaya.LockOut` with five failures and 300
seconds.
-/

namespace Kaya.SecureSend

open Kaya.HA (DateTime seconds)
open LockOut Function

/-- When an attempt was made. -/
def Attempt.time : Attempt → DateTime
  | .wrong attemptedAt => attemptedAt
  | .success unlockedAt => unlockedAt

/-- The credentials were wrong. -/
def Attempt.isWrong : Attempt → Bool
  | .wrong _ => true
  | .success _ => false

/-- The clock does not go back; wrong credentials are checked on the failures and the lock that are
stored, and while no other failure of the package waits for its commit. -/
structure Serial (s : Gateway) (e : Event) : Prop where
  clock : ClockAdvances s e
  fresh : ∀ i p loaded address pin passphrase, e = .next i →
    s.handlers i = some ⟨p, some loaded, .unlocking address pin passphrase⟩ →
      (attemptLimited s address p loaded).2 = false →
        credentialMaterial pin passphrase ≠ loaded.credential →
          (∀ stored, s.packages p = some stored → stored.failedAttempts = loaded.failedAttempts ∧
              stored.lockedUntil = loaded.lockedUntil) ∧
            ∀ j k a, s.handlers j = some k → k.package = p → k.flow ≠ .rejected a

section Invariant

variable {s s' : Gateway} {i p : ℕ} {h : Handler} {row loaded : SecureSendPackage}
  {address : String}

/-! ### What a step does to the log and to the lock -/

/-- The next step of the handler checks wrong credentials. -/
def Fails (s : Gateway) (h : Handler) : Prop := ∃ loaded address pin passphrase,
  h = ⟨h.package, some loaded, .unlocking address pin passphrase⟩ ∧
    (attemptLimited s address h.package loaded).2 = false ∧
      credentialMaterial pin passphrase ≠ loaded.credential

/-- The next step of the handler commits a failure, or an unlock. -/
def Settles (h : Handler) : Prop :=
  (∃ loaded address, h = ⟨h.package, some loaded, .rejected address⟩) ∨
    ∃ loaded, h = ⟨h.package, some loaded, .verified⟩

theorem writer_lock (hs : ¬ Settles h) (stored : SecureSendPackage) :
    (writer s h stored).failedAttempts = stored.failedAttempts ∧
      (writer s h stored).lockedUntil = stored.lockedUntil := by
  obtain ⟨p, row, flow⟩ := h
  cases row with
  | none => exact ⟨congrFun (congrArg (SecureSendPackage.failedAttempts ∘ ·)
      (writer_of_row_eq_none rfl)) stored, congrFun (congrArg (SecureSendPackage.lockedUntil ∘ ·)
      (writer_of_row_eq_none rfl)) stored⟩
  | some row =>
    cases flow with
    | rejected address => exact absurd (.inl ⟨row, address, rfl⟩) hs
    | verified => exact absurd (.inr ⟨row, rfl⟩) hs
    | recipient cookie =>
      simp only [writer]
      split
      · exact ⟨rfl, rfl⟩
      · exact ⟨rfl, rfl⟩
    | _ => exact ⟨rfl, rfl⟩

theorem advance_log (hf : ¬ Fails s h) (hs : ¬ Settles h) : (advance s i h).log = s.log := by
  obtain ⟨p, row, flow⟩ := h
  cases flow with
  | unlocking address pin passphrase =>
    cases row with
    | none => rfl
    | some row =>
      simp only [advance]
      split
      · rfl
      next hlimit =>
        split
        · rfl
        next hwrong =>
          exact absurd
            ⟨row, address, pin, passphrase, rfl, Bool.eq_false_iff.2 hlimit, hwrong⟩ hf
  | verified =>
    cases row with
    | none => rfl
    | some row => exact absurd (.inr ⟨row, rfl⟩) hs
  | _ => cases row <;> simp only [advance] <;> (repeat' split) <;> rfl

/-- Wrong credentials are checked. -/
theorem advance_fails {pin passphrase : String}
    (hlimit : (attemptLimited s address p loaded).2 = false)
    (hwrong : credentialMaterial pin passphrase ≠ loaded.credential) :
    let s' := advance s i ⟨p, some loaded, .unlocking address pin passphrase⟩
    s'.packages = s.packages ∧ s'.log = update s.log p (.wrong s.clock :: s.log p) ∧
      s'.handlers = update s.handlers i (some ⟨p, some loaded, .rejected address⟩) := by
  simp only [advance, hlimit, if_neg hwrong]
  exact ⟨rfl, rfl, rfl⟩

/-! ### The invariant -/

/-- The failures of a package since the last unlock. -/
def failures (s : Gateway) (p : ℕ) : List Attempt := since Attempt.isWrong (s.log p)

/-- The count and the lock cover the failures. -/
def LockedFor (failed : List Attempt) (row : SecureSendPackage) : Prop :=
  failed.length ≤ row.failedAttempts ∧ (5 ≤ failed.length →
    ∀ e ∈ failed.head?, ∃ u, row.lockedUntil = some u ∧ e.time + seconds 300 ≤ u)

/-- No failure of the package waits for its commit. -/
def NonePending (s : Gateway) (p : ℕ) : Prop :=
  ∀ j k a, s.handlers j = some k → k.package = p → k.flow ≠ .rejected a

/-- What the bound rests on. A failure that waits for its commit is the only one of its package, and
has loaded all the others; without one, the stored lock covers the failures. -/
structure UnlockInvariant (s : Gateway) : Prop where
  rows : RowInvariant s
  past : ∀ p, ∀ e ∈ s.log p, e.time ≤ s.clock
  sorted : ∀ p, Descending Attempt.time (s.log p)
  spaced : ∀ p, Spaced Attempt.time Attempt.isWrong 5 (seconds 300) (s.log p)
  absent : ∀ p, s.packages p = none → s.log p = []
  pending : ∀ i h a, s.handlers i = some h → h.flow = .rejected a → ∃ r, h.row = some r ∧
    (failures s h.package).length ≤ r.failedAttempts + 1 ∧ ∀ u, r.lockedUntil = some u → u ≤ s.clock
  alone : ∀ i j h k a b, s.handlers i = some h → s.handlers j = some k → h.flow = .rejected a →
    k.flow = .rejected b → h.package = k.package → i = j
  settled : ∀ p row, s.packages p = some row → NonePending s p → LockedFor (failures s p) row

theorem lockedFor_nil : LockedFor [] row :=
  ⟨Nat.zero_le _, fun h ↦ absurd h (by decide)⟩

theorem failures_eq (hlog : s'.log = s.log) : failures s' p = failures s p := by
  rw [failures, failures, hlog]

/-- The commit of a failure locks the package for what is in the log. -/
theorem failedBy_lock {stored : SecureSendPackage} {now : DateTime} {failed : List Attempt}
    (hcount : failed.length ≤ loaded.failedAttempts + 1)
    (hunlocked : ∀ u, loaded.lockedUntil = some u → u ≤ now) (hpast : ∀ e ∈ failed, e.time ≤ now) :
    LockedFor failed (failedBy loaded now stored) := by
  refine ⟨hcount, fun hmany e he ↦ ?_⟩
  have htime : e.time ≤ now := hpast e (List.mem_of_mem_head? he)
  obtain ⟨u, hu, hle⟩ : ∃ u, lockAfter (loaded.failedAttempts + 1) now loaded.lockedUntil = some u ∧
      now + seconds 300 ≤ u := by
    rw [lockAfter]
    split
    · exact ⟨_, rfl, Int.add_le_add_left (by decide) now⟩
    · rw [if_pos (hmany.trans hcount)]
      exact ⟨_, rfl, le_rfl⟩
  refine ⟨u, ?_, (Int.add_le_add_right htime _).trans hle⟩
  show changed loaded.lockedUntil (lockAfter _ now _) stored.lockedUntil = some u
  rw [hu, changed, if_neg]
  intro hsame
  have hlater : now < now + seconds 300 := Int.lt_add_of_pos_right now (by decide)
  exact absurd (hle.trans (hunlocked u hsame.symm)) (not_le.2 hlater)

/-- A step that writes nothing about the lock and moves no failure. -/
theorem UnlockInvariant.of_kept (hs : UnlockInvariant s) (hrows : RowInvariant s')
    (hlog : s'.log = s.log) (hclock : s.clock ≤ s'.clock)
    (hpackages : ∀ p row', s'.packages p = some row' → ∃ row, s.packages p = some row ∧
      row'.failedAttempts = row.failedAttempts ∧ row'.lockedUntil = row.lockedUntil)
    (habsent : ∀ p, s'.packages p = none → s.packages p = none)
    (hmoved : ∀ j k a, k.flow = .rejected a → (s'.handlers j = some k ↔ s.handlers j = some k)) :
    UnlockInvariant s' where
  rows := hrows
  past p e he := (hs.past p e (hlog ▸ he)).trans hclock
  sorted p := hlog ▸ hs.sorted p
  spaced p := hlog ▸ hs.spaced p
  absent p hp := hlog ▸ hs.absent p (habsent p hp)
  pending i h a hh hflow := by
    obtain ⟨r, hr, hcount, hlock⟩ := hs.pending i h a ((hmoved i h a hflow).1 hh) hflow
    exact ⟨r, hr, failures_eq hlog ▸ hcount, fun u hu ↦ (hlock u hu).trans hclock⟩
  alone i j h k a b hh hk hflow hflow' :=
    hs.alone i j h k a b ((hmoved i h a hflow).1 hh) ((hmoved j k b hflow').1 hk) hflow hflow'
  settled p row' hrow hnone := by
    obtain ⟨row, hold, hcount, hlock⟩ := hpackages p row' hrow
    have hbef : NonePending s p := fun j k a hk hp hflow ↦
      hnone j k a ((hmoved j k a hflow).2 hk) hp hflow
    rw [LockedFor, failures_eq hlog, hcount, hlock]
    exact hs.settled p row hold hbef

/-- A step of a handler that neither checks wrong credentials nor settles an attempt. -/
theorem UnlockInvariant.advance_other (hs : UnlockInvariant s) (hh : s.handlers i = some h)
    (hf : ¬ Fails s h) (hst : ¬ Settles h) : UnlockInvariant (advance s i h) := by
  refine hs.of_kept (hs.rows.advance hh) (advance_log hf hst) (advance_clock s i h).ge
    (fun p row' hrow ↦ ?_) (fun p hp ↦ ?_) fun j k a hflow ↦ ?_
  · obtain ⟨old, hold, ⟨-, rfl⟩ | ⟨-, rfl⟩⟩ := advance_row_cases hrow
    · exact ⟨old, hold, writer_lock hst old⟩
    · exact ⟨row', hold, rfl, rfl⟩
  · cases hold : s.packages p with
    | none => rfl
    | some old => exact nomatch hp.symm.trans (advance_row hold)
  · constructor
    · intro hk
      rcases advance_handler_cases hk with ⟨-, hfollows⟩ | ⟨-, hk'⟩
      · obtain ⟨pin, passphrase, loaded, heq, -, hlimit, hwrong⟩ := hfollows.rejected a hflow
        exact absurd ⟨loaded, a, pin, passphrase, heq, hlimit, hwrong⟩ hf
      · exact hk'
    · intro hk
      have hne : j ≠ i := by
        rintro rfl
        obtain rfl := Option.some.inj (hh.symm.trans hk)
        obtain ⟨r, hr, -⟩ := hs.pending j h a hk hflow
        obtain ⟨p, row, flow⟩ := h
        obtain rfl : row = some r := hr
        obtain rfl : flow = .rejected a := hflow
        exact hst (.inl ⟨r, a, rfl⟩)
      exact (advance_handler_of_ne hne).trans hk

/-- The log of a package takes the attempt that has just been made. -/
theorem UnlockInvariant.attempted (hs : UnlockInvariant s) {s' : Gateway} {attempt : Attempt}
    (hlog : s'.log = Function.update s.log p (attempt :: s.log p)) (htime : attempt.time = s.clock)
    (q : ℕ) : (∀ e ∈ s'.log q, e.time ≤ s.clock) ∧ Descending Attempt.time (s'.log q) := by
  rw [hlog]
  by_cases hq : q = p
  · subst hq
    rw [update_self]
    refine ⟨fun e he ↦ ?_, List.pairwise_cons.2 ⟨fun e he ↦ ?_, hs.sorted q⟩⟩
    · rcases List.mem_cons.1 he with rfl | he
      · exact htime.le
      · exact hs.past q e he
    · exact (hs.past q e he).trans htime.ge
  · rw [update_of_ne hq]
    exact ⟨hs.past q, hs.sorted q⟩

/-- Wrong credentials are checked on the failures that are stored. -/
theorem UnlockInvariant.advance_fails (hs : UnlockInvariant s) {pin passphrase : String}
    (hh : s.handlers i = some ⟨p, some loaded, .unlocking address pin passphrase⟩)
    (hlimit : (attemptLimited s address p loaded).2 = false)
    (hwrong : credentialMaterial pin passphrase ≠ loaded.credential)
    (hfresh : ∀ stored, s.packages p = some stored →
      stored.failedAttempts = loaded.failedAttempts ∧ stored.lockedUntil = loaded.lockedUntil)
    (hnone : NonePending s p) :
    UnlockInvariant (advance s i ⟨p, some loaded, .unlocking address pin passphrase⟩) := by
  obtain ⟨hpackages, hlog, hhandlers⟩ := SecureSend.advance_fails (i := i) hlimit hwrong
  have hclock := advance_clock s i ⟨p, some loaded, .unlocking address pin passphrase⟩
  have hrows := hs.rows.advance hh
  obtain ⟨stored, hsto, -⟩ := hs.rows.instances i _ hh
  obtain ⟨hcount, hlock⟩ := hfresh stored hsto
  have hsettled := hs.settled p stored hsto hnone
  rw [LockedFor, hcount, hlock] at hsettled
  -- The lock that was read had run out.
  have hunlocked : ∀ u, loaded.lockedUntil = some u → u ≤ s.clock := by
    intro u hu
    simp only [attemptLimited, hu, Option.any_some, decide_eq_false_iff_not, not_or,
      decide_eq_true_eq] at hlimit
    exact not_lt.1 hlimit.2
  generalize advance s i ⟨p, some loaded, .unlocking address pin passphrase⟩ = s'
    at hpackages hlog hhandlers hclock hrows
  have hnew : s'.log p = .wrong s.clock :: s.log p := by rw [hlog, update_self]
  have hother : ∀ q, q ≠ p → s'.log q = s.log q := fun q hq ↦ by
    rw [hlog, update_of_ne hq]
  have hfailures : failures s' p = .wrong s.clock :: failures s p := by
    rw [failures, hnew, since_cons_of_fails rfl, failures]
  have hpast := hs.attempted hlog rfl
  refine ⟨hrows, fun q ↦ hclock ▸ (hpast q).1, fun q ↦ (hpast q).2, fun q ↦ ?_, fun q hq ↦ ?_,
    fun j k a hk hflow ↦ ?_, fun j j' k k' a b hk hk' hflow hflow' hsame ↦ ?_,
    fun q row hrow hpend ↦ ?_⟩
  · by_cases hq : q = p
    · subst hq
      rw [hnew]
      refine ⟨fun _ hmany e he ↦ ?_, hs.spaced q⟩
      obtain ⟨u, hu, hle⟩ := hsettled.2 hmany e he
      exact hle.trans (hunlocked u hu)
    · exact hother q hq ▸ hs.spaced q
  · have hne : q ≠ p := by
      rintro rfl
      exact nomatch hsto.symm.trans ((congrFun hpackages q).symm.trans hq)
    rw [hother q hne]
    exact hs.absent q (hpackages ▸ hq)
  · rw [hclock]
    rw [hhandlers] at hk
    rcases update_eq_some_iff.1 hk with ⟨-, hk'⟩ | ⟨-, hk'⟩
    · obtain rfl := Option.some.inj hk'
      refine ⟨loaded, rfl, ?_, hunlocked⟩
      rw [hfailures]
      exact Nat.succ_le_succ hsettled.1
    · obtain ⟨r, hr, hle, hlock'⟩ := hs.pending j k a hk' hflow
      have hne : k.package ≠ p := fun hp ↦ hnone j k a hk' hp hflow
      refine ⟨r, hr, ?_, hlock'⟩
      rw [failures, hother _ hne]
      exact hle
  · rw [hhandlers] at hk hk'
    rcases update_eq_some_iff.1 hk with ⟨rfl, hk₁⟩ | ⟨-, hk₁⟩
    · obtain rfl := Option.some.inj hk₁
      rcases update_eq_some_iff.1 hk' with ⟨rfl, -⟩ | ⟨-, hk₂⟩
      · rfl
      · exact absurd hflow' (hnone j' k' b hk₂ hsame.symm)
    · rcases update_eq_some_iff.1 hk' with ⟨rfl, hk₂⟩ | ⟨-, hk₂⟩
      · obtain rfl := Option.some.inj hk₂
        exact absurd hflow (hnone j k a hk₁ hsame)
      · exact hs.alone j j' k k' a b hk₁ hk₂ hflow hflow' hsame
  · have hne : q ≠ p := by
      rintro rfl
      refine hpend i ⟨q, some loaded, .rejected address⟩ address ?_ rfl rfl
      rw [hhandlers, update_self]
    have hbef : NonePending s q := by
      intro j k a hk hkq hflow
      have hji : j ≠ i := by
        rintro rfl
        obtain rfl := Option.some.inj (hh.symm.trans hk)
        exact hne hkq.symm
      exact hpend j k a (by rw [hhandlers, update_of_ne hji, hk]) hkq hflow
    rw [failures, hother q hne]
    exact hs.settled q row (hpackages ▸ hrow) hbef

/-- Handlers that wait for the commit of a failure, after one that settles an attempt has ended. -/
theorem advance_settles {k : Handler} {j : ℕ} {a : String} (hst : Settles h)
    (hk : (advance s i h).handlers j = some k) (hflow : k.flow = .rejected a) :
    j ≠ i ∧ s.handlers j = some k := by
  rcases advance_handler_cases hk with ⟨-, hfollows⟩ | hk'
  · obtain ⟨pin, passphrase, loaded, heq, -⟩ := hfollows.rejected a hflow
    rcases hst with ⟨loaded', address, heq'⟩ | ⟨loaded', heq'⟩
    · exact nomatch congrArg Handler.flow (heq.symm.trans heq')
    · exact nomatch congrArg Handler.flow (heq.symm.trans heq')
  · exact hk'

theorem NonePending.of_advance {q : ℕ} (hh : s.handlers i = some h) (hq : q ≠ h.package)
    (hnone : NonePending (advance s i h) q) : NonePending s q := by
  intro j k a hk hkq hflow
  have hji : j ≠ i := by
    rintro rfl
    obtain rfl := Option.some.inj (hh.symm.trans hk)
    exact hq hkq.symm
  exact hnone j k a ((advance_handler_of_ne hji).trans hk) hkq hflow

/-- A failure is committed. -/
theorem UnlockInvariant.advance_rejected (hs : UnlockInvariant s)
    (hh : s.handlers i = some ⟨p, some loaded, .rejected address⟩) :
    UnlockInvariant (advance s i ⟨p, some loaded, .rejected address⟩) := by
  have hst : Settles ⟨p, some loaded, .rejected address⟩ := .inl ⟨loaded, address, rfl⟩
  have hlog : (advance s i ⟨p, some loaded, .rejected address⟩).log = s.log := rfl
  have hclock := advance_clock s i ⟨p, some loaded, .rejected address⟩
  obtain ⟨r, hr, hcount, hunlocked⟩ := hs.pending i _ address hh rfl
  obtain rfl := Option.some.inj hr
  refine ⟨hs.rows.advance hh, fun q e he ↦ ?_, hs.sorted, hs.spaced, fun q hq ↦ ?_,
    fun j k a hk hflow ↦ ?_, fun j j' k k' a b hk hk' hflow hflow' ↦ ?_, fun q row hrow hnone ↦ ?_⟩
  · rw [hclock]
    exact hs.past q e he
  · cases hold : s.packages q with
    | none => exact hs.absent q hold
    | some old => exact nomatch hq.symm.trans (advance_row hold)
  · rw [failures_eq hlog, hclock]
    exact hs.pending j k a (advance_settles hst hk hflow).2 hflow
  · exact hs.alone j j' k k' a b (advance_settles hst hk hflow).2
      (advance_settles hst hk' hflow').2 hflow hflow'
  · rw [failures_eq hlog]
    obtain ⟨old, hold, ⟨hq, rfl⟩ | ⟨hq, rfl⟩⟩ := advance_row_cases hrow
    · obtain rfl : q = p := hq
      exact failedBy_lock hcount hunlocked fun e he ↦ hs.past q e (mem_of_mem_since he)
    · exact hs.settled q row hold (hnone.of_advance hh hq)

/-- An unlock is committed: whatever it leaves of the count, the failures start anew. -/
theorem UnlockInvariant.advance_verified (hs : UnlockInvariant s)
    (hh : s.handlers i = some ⟨p, some loaded, .verified⟩) :
    UnlockInvariant (advance s i ⟨p, some loaded, .verified⟩) := by
  have hst : Settles ⟨p, some loaded, .verified⟩ := .inr ⟨loaded, rfl⟩
  have hclock := advance_clock s i ⟨p, some loaded, .verified⟩
  have hnew : (advance s i ⟨p, some loaded, .verified⟩).log p = .success s.clock :: s.log p :=
    update_self _ _ _
  have hother : ∀ q, q ≠ p → (advance s i ⟨p, some loaded, .verified⟩).log q = s.log q :=
    fun q hq ↦ update_of_ne hq _ _
  have hfailures : failures (advance s i ⟨p, some loaded, .verified⟩) p = [] := by
    rw [failures, hnew, since_cons_of_resets Bool.false_ne_true]
  have hpast := @UnlockInvariant.attempted s p hs
    (advance s i ⟨p, some loaded, .verified⟩) _ rfl rfl
  refine ⟨hs.rows.advance hh, fun q ↦ hclock ▸ (hpast q).1, fun q ↦ (hpast q).2, fun q ↦ ?_,
    fun q hq ↦ ?_, fun j k a hk hflow ↦ ?_, fun j j' k k' a b hk hk' hflow hflow' ↦ ?_,
    fun q row hrow hnone ↦ ?_⟩
  · by_cases hq : q = p
    · subst hq
      rw [hnew]
      exact ⟨nofun, hs.spaced q⟩
    · exact hother q hq ▸ hs.spaced q
  · obtain ⟨stored, hsto, -⟩ := hs.rows.instances i _ hh
    have hne : q ≠ p := by
      rintro rfl
      exact nomatch hq.symm.trans (advance_row hsto)
    rw [hother q hne]
    cases hold : s.packages q with
    | none => exact hs.absent q hold
    | some old => exact nomatch hq.symm.trans (advance_row hold)
  · obtain ⟨r, hr, hle, hlock⟩ := hs.pending j k a (advance_settles hst hk hflow).2 hflow
    refine ⟨r, hr, ?_, hclock ▸ hlock⟩
    by_cases hp : k.package = p
    · rw [hp, hfailures]
      exact Nat.zero_le _
    · rw [failures, hother _ hp]
      exact hle
  · exact hs.alone j j' k k' a b (advance_settles hst hk hflow).2
      (advance_settles hst hk' hflow').2 hflow hflow'
  · by_cases hq : q = p
    · subst hq
      rw [hfailures]
      exact lockedFor_nil
    · rw [failures, hother q hq]
      obtain ⟨old, hold, ⟨hqp, -⟩ | ⟨-, rfl⟩⟩ := advance_row_cases hrow
      · exact absurd hqp hq
      · exact hs.settled q row hold (hnone.of_advance hh hq)

/-! ### Runs -/

theorem UnlockInvariant.move (hs : UnlockInvariant s) {e : Event}
    (hmove : GatewayMove s e s') (hok : Serial s e) : UnlockInvariant s' := by
  have hrows := hs.rows.move hmove
  cases hmove with
  | kept => exact hs
  | ticked he =>
    exact hs.of_kept hrows rfl (Int.le_add_of_nonneg_right (hok.clock _ _ he))
      (fun _ row hrow ↦ ⟨row, hrow, rfl, rfl⟩) (fun _ hp ↦ hp) fun _ _ _ _ ↦ Iff.rfl
  | @created p new hnew _ _ =>
    refine ⟨hrows, hs.past, hs.sorted, hs.spaced, fun q hq ↦ ?_, hs.pending, hs.alone,
      fun q row hrow hnone ↦ ?_⟩
    · by_cases hqp : q = p
      · exact hs.absent q (hqp ▸ hnew)
      · exact hs.absent q ((update_of_ne hqp _ _).symm.trans hq)
    · rcases update_eq_some_iff.1 hrow with ⟨rfl, -⟩ | ⟨-, hrow'⟩
      · show LockedFor (since Attempt.isWrong (s.log q)) row
        rw [hs.absent q hnew]
        exact lockedFor_nil
      · exact hs.settled q row hrow' hnone
  | begun _ hfree hk =>
    refine hs.of_kept hrows rfl le_rfl (fun _ row hrow ↦ ⟨row, hrow, rfl, rfl⟩) (fun _ hp ↦ hp)
      fun j h a hflow ↦ ?_
    -- A handler that begins is no failure, and takes the place of none.
    rw [put_handlers, update_eq_some_iff]
    refine ⟨fun hj ↦ hj.elim (fun hj ↦ ?_) And.right, fun hj ↦ .inr ⟨?_, hj⟩⟩
    · exact absurd hflow (Option.some.inj hj.2 ▸ hk.rejected a)
    · rintro rfl
      exact Option.some_ne_none h (hj.symm.trans hfree)
  | @advanced i h he hh =>
    by_cases hf : Fails s h
    · obtain ⟨p, row, flow⟩ := h
      obtain ⟨loaded, address, pin, passphrase, heq, hlimit, hwrong⟩ := hf
      obtain ⟨-, rfl, rfl⟩ := Handler.mk.inj heq
      obtain ⟨hfresh, hnone⟩ := hok.fresh i p loaded address pin passphrase he hh hlimit hwrong
      exact hs.advance_fails hh hlimit hwrong hfresh hnone
    by_cases hst : Settles h
    · obtain ⟨p, row, flow⟩ := h
      rcases hst with ⟨loaded, address, heq⟩ | ⟨loaded, heq⟩
      · obtain ⟨-, rfl, rfl⟩ := Handler.mk.inj heq
        exact hs.advance_rejected hh
      · obtain ⟨-, rfl, rfl⟩ := Handler.mk.inj heq
        exact hs.advance_verified hh
    · exact hs.advance_other hh hf hst
  | @failed i h _ hh hreading =>
    refine hs.of_kept hrows rfl le_rfl (fun _ row hrow ↦ ⟨row, hrow, rfl, rfl⟩) (fun _ hp ↦ hp)
      fun j k a hk ↦ ⟨fun hj ↦ (of_update_none hj).2, fun hj ↦ ?_⟩
    refine update_eq_some_iff.2 (.inr ⟨?_, hj⟩)
    rintro rfl
    obtain rfl := Option.some.inj (hh.symm.trans hj)
    exact absurd (hreading.symm.trans hk) (by simp)

theorem GatewayInitial.unlock (hs : GatewayInitial s) : UnlockInvariant s where
  rows := hs.rows
  past p _ he := nomatch hs.log p ▸ he
  sorted p := hs.log p ▸ List.Pairwise.nil
  spaced p := hs.log p ▸ trivial
  absent p _ := hs.log p
  pending i _ _ hh := nomatch (hs.handlers i).symm.trans hh
  alone i _ _ _ _ _ hh := nomatch (hs.handlers i).symm.trans hh
  settled p _ hrow := nomatch (hs.packages p).symm.trans hrow

theorem unlockInvariant (hs : gatewayMachine.ReachableBy Serial s) : UnlockInvariant s :=
  hs.invariant (fun _ ↦ GatewayInitial.unlock) fun s e hs ↦ hs.move (gatewayStep_cases s e)

end Invariant

/-! ### The bound -/

/-- The wrong credentials that have reached the password check in a window. -/
def wrongIn (s : Gateway) (p : ℕ) (a b : DateTime) : ℕ :=
  failuresIn Attempt.time Attempt.isWrong a b (s.log p)

/-- No unlock of the package has succeeded in the window. -/
def NoUnlockIn (s : Gateway) (p : ℕ) (a b : DateTime) : Prop :=
  ∀ t, Attempt.success t ∈ s.log p → ¬ (a ≤ t ∧ t ≤ b)

/-- **The bound on wrong credentials**, where they are checked one after the other on the failures
that are stored. -/
theorem unlock_bounded {s : Gateway} (hs : gatewayMachine.ReachableBy Serial s) (p : ℕ)
    (a : DateTime) (T : ℕ) (hquiet : NoUnlockIn s p a (a + T)) :
    (wrongIn s p a (a + T) : ℤ) ≤ 10 + T / seconds 300 := by
  have hbound := failuresIn_le (k := 5) (a := a) (b := a + T) (by decide) (by decide)
    (Int.le_add_of_nonneg_right (Int.natCast_nonneg T)) ((unlockInvariant hs).sorted p)
    ((unlockInvariant hs).spaced p) fun e he hreset ha ↦ by
      cases e with
      | wrong t => exact nomatch hreset
      | success t => exact not_le.1 fun hb ↦ hquiet t he ⟨ha, hb⟩
  have hlen : a + (T : ℤ) - a = T := add_sub_cancel_left _ _
  rw [hlen] at hbound
  exact hbound.trans (Int.add_le_add_right (by decide) _)

/-! ### Requests that have loaded the row -/

section Sample

/-- Three requests with wrong credentials, one after the other. -/
def guesses : List Event :=
  .create 0 (seconds 3600) false "314159" "correct horse" ::
    (List.replicate 3 [.unlock 0 0 "192.0.2.1" "271828" "correct horse", .next 0, .next 0]).flatten

/-- Eleven requests that load the row before the first of them goes on. -/
def manyGuesses : List Event :=
  .create 0 (seconds 3600) false "314159" "correct horse" ::
    ((List.range 11).map fun i ↦ .unlock i 0 "192.0.2.1" "271828" "correct horse") ++
    (List.range 11).map .next

variable {s : Gateway} {es : List Event}

/-- A run of one handler, which finds its row as it is stored. -/
def alone : Gateway → List Event → Bool
  | _, [] => true
  | s, e :: es => (s.handlers 0).all (fun h ↦ h.row = s.packages h.package) && e.ofFirst &&
      alone (gatewayMachine.step s e) es

theorem serial_of_alone (hs : ∀ j, j ≠ 0 → s.handlers j = none) (hes : alone s es = true) :
    gatewayMachine.Admissible Serial s es := by
  induction es generalizing s with
  | nil => trivial
  | cons e es ih =>
    simp only [alone, Bool.and_eq_true] at hes
    obtain ⟨⟨hrow, hfirst⟩, hes⟩ := hes
    refine ⟨⟨fun wall mono h ↦ ?_, fun i p loaded a b c _ hh _ _ ↦ ?_⟩,
      ih (handlers_of_first hfirst hs) hes⟩
    · subst h
      exact nomatch hfirst
    · obtain rfl : i = 0 := by_contra fun hi ↦ nomatch (hs i hi).symm.trans hh
      rw [hh] at hrow
      have hstored : some loaded = s.packages p := of_decide_eq_true hrow
      refine ⟨fun stored hsto ↦ ?_, fun j k a hk _ ↦ ?_⟩
      · obtain rfl := Option.some.inj (hstored.trans hsto)
        exact ⟨rfl, rfl⟩
      · obtain rfl : j = 0 := by_contra fun hj ↦ nomatch (hs j hj).symm.trans hk
        obtain rfl := Option.some.inj (hh.symm.trans hk)
        exact nofun

theorem unlock_bounded_guesses :
    (wrongIn (gatewayMachine.run emptyGateway guesses) 0 0 (0 + (0 : ℕ)) : ℤ) ≤
      10 + (0 : ℕ) / seconds 300 :=
  unlock_bounded (.run (.start emptyGateway_initial)
    (serial_of_alone (fun _ _ ↦ rfl) (by decide +kernel))) 0 0 0 fun t ht ↦ by
      have hlog : (gatewayMachine.run emptyGateway guesses).log 0 = List.replicate 3 (.wrong 0) := by
        decide +kernel
      rw [hlog] at ht
      exact nomatch List.eq_of_mem_replicate ht

/-- **Eleven wrong credentials at one instant.** -/
theorem eleven_attempts :
    ¬ ∀ (s : Gateway) (p : ℕ) (a : DateTime) (T : ℕ), gatewayMachine.ReachableBy ClockAdvances s →
      NoUnlockIn s p a (a + T) → (wrongIn s p a (a + T) : ℤ) ≤ 10 + T / seconds 300 := by
  intro hall
  have hlog : (gatewayMachine.run emptyGateway manyGuesses).log 0 =
      List.replicate 11 (.wrong 0) := by
    decide +kernel
  have hbound := hall (gatewayMachine.run emptyGateway manyGuesses) 0 0 0
    (.run (.start emptyGateway_initial) (clockAdvances_of_all (by decide))) fun t ht ↦ by
      rw [hlog] at ht
      exact nomatch List.eq_of_mem_replicate ht
  rw [wrongIn, hlog] at hbound
  exact absurd hbound (by decide +kernel)

end Sample

end Kaya.SecureSend
