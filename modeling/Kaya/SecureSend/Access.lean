import Kaya.SecureSend.Steps

/-!
# Who may reach a package

A recipient session is accepted on three readings: the package row, which may be as old as the
request, the session row, and the clock. Whatever closes a package revokes its sessions in the same
transaction, so a request with an old row is caught by its session — as long as the bulk update of
`revoke_recipient_sessions` **sees every session that is there when its transaction ends**.

That is where the code can fail. Two transactions of one package may overlap; a session that is
inserted after the update of the other, and before its commit, survives it: `two_sessions`.

`access_safe` is the whole of the access rules in every run in which no session is inserted while
another transaction of its package has revoked the sessions and is still open. On a database with a
single writer, as SQLite is, every run is of this kind.
-/

namespace Kaya.SecureSend

open Function Option
open Kaya.HA (DateTime seconds)

/-- The clock does not go back. -/
def ClockAdvances (_ : Gateway) (e : Event) : Prop := ∀ wall mono, e = .tick wall mono → 0 ≤ wall

/-- The clock does not go back, and no session is inserted while another transaction of its package
has revoked the package's sessions and is open. -/
structure Tidy (s : Gateway) (e : Event) : Prop where
  clock : ClockAdvances s e
  alone : ∀ i h seen now, e = .next i → s.handlers i = some h → h.flow = .inserting seen now →
    ∀ j k, j ≠ i → s.handlers j = some k → k.package = h.package → k.flow.seen = none

/-- The package has been revoked, deleted or cleaned. -/
def Closed (row : SecureSendPackage) : Prop :=
  row.revokedAt.isSome = true ∨ row.deletedAt.isSome = true ∨ row.cleanedAt.isSome = true

section Invariant

variable {s s' : Gateway} {i p n m : ℕ} {h : Handler} {row : SecureSendPackage} {seen : ℕ → Bool}
  {x' x y' : RecipientSession} {e : Event}

/-! ### Sessions after a step -/

/-- A session that was there before the step. -/
structure Kept (h : Handler) (n : ℕ) (x x' : RecipientSession) : Prop where
  package : x'.package = x.package
  revokedAt : x'.revokedAt = none → x.revokedAt = none
  expiresAt : x'.expiresAt = x.expiresAt ∨
    h.flow.token = some n ∧ ∃ r, h.row = some r ∧ x'.expiresAt ≤ r.expiresAt
  seen : ∀ seen, h.flow.seen = some seen → h.row.isSome = true → x'.revokedAt = none →
    seen n = false

/-- The session that a step inserts. -/
structure Inserted (s : Gateway) (h : Handler) (n : ℕ) (x' : RecipientSession) : Prop where
  number : n = s.drawn
  package : x'.package = h.package
  expiresAt : ∃ r, h.row = some r ∧ x'.expiresAt ≤ r.expiresAt
  flow : ∃ seen now, h.flow = .inserting seen now

theorem kept_self (n : ℕ) (x : RecipientSession) (hseen : h.flow.seen = none) : Kept h n x x where
  package := rfl
  revokedAt := id
  expiresAt := .inl rfl
  seen _ hs := nomatch hseen.symm.trans hs

/-- Sessions under the bulk update. -/
theorem kept_revokeSessions {now : DateTime}
    (hseen : ∀ seen', h.flow.seen = some seen' → seen' = seen)
    (hx : (s.revokeSessions seen now).sessions n = some x') :
    ∃ x, s.sessions n = some x ∧ Kept h n x x' := by
  obtain ⟨x, hold, rfl⟩ := map_eq_some_iff.1 hx
  refine ⟨x, hold, ?_⟩
  split
  next hhit => exact ⟨rfl, nofun, .inl rfl, fun _ _ _ h ↦ nomatch h⟩
  next hmiss =>
    refine ⟨rfl, id, .inl rfl, fun seen' hs _ hopen ↦ ?_⟩
    rw [hseen seen' hs]
    exact Bool.eq_false_iff.2 fun hhit ↦ hmiss ⟨hhit, hopen⟩

/-- A session after a step of a handler: it was there, or it has been inserted. -/
theorem session_cases (hx : (advance s i h).sessions n = some x') :
    (∃ x, s.sessions n = some x ∧ Kept h n x x') ∨ Inserted s h n x' := by
  rw [(advance_sessions s i h).1] at hx
  obtain ⟨p, row, flow⟩ := h
  cases flow with
  | accepted token now csrf =>
    cases row with
    | none => exact .inl ⟨x', hx, kept_self n x' rfl⟩
    | some row =>
      rcases update_eq_some_iff.1 hx with ⟨rfl, hx'⟩ | ⟨-, hx'⟩
      · obtain ⟨x, hold, rfl⟩ := map_eq_some_iff.1 hx'
        exact .inl ⟨x, hold, rfl, id, .inr ⟨rfl, row, rfl, min_le_left _ _⟩, nofun⟩
      · exact .inl ⟨x', hx', kept_self n x' rfl⟩
  | marking seen now =>
    cases row with
    | none => exact .inl ⟨x', hx, rfl, id, .inl rfl, fun _ _ hsome ↦ nomatch hsome⟩
    | some row =>
      refine .inl (kept_revokeSessions (fun seen' hs ↦ ?_) hx)
      obtain rfl : seen = some seen' := hs
      rfl
  | inserting seen now =>
    cases row with
    | none => exact .inl ⟨x', hx, rfl, id, .inl rfl, fun _ _ hsome ↦ nomatch hsome⟩
    | some row =>
      rcases update_eq_some_iff.1 hx with ⟨rfl, hx'⟩ | ⟨-, hx'⟩
      · obtain rfl := some.inj hx'
        exact .inr ⟨rfl, rfl, ⟨row, rfl, min_le_left _ _⟩, seen, now, rfl⟩
      · exact .inl (kept_revokeSessions (fun _ hs ↦ (some.inj hs).symm) hx')
  | withdrawing seen now =>
    cases row with
    | none => exact .inl ⟨x', hx, rfl, id, .inl rfl, fun _ _ hsome ↦ nomatch hsome⟩
    | some row => exact .inl (kept_revokeSessions (fun _ hs ↦ (some.inj hs).symm) hx)
  | removing status seen now =>
    cases row with
    | none => exact .inl ⟨x', hx, rfl, id, .inl rfl, fun _ _ hsome ↦ nomatch hsome⟩
    | some row => exact .inl (kept_revokeSessions (fun _ hs ↦ (some.inj hs).symm) hx)
  | _ => exact .inl ⟨x', hx, kept_self n x' rfl⟩

theorem drawn_le (s : Gateway) (i : ℕ) (h : Handler) : s.drawn ≤ (advance s i h).drawn := by
  rw [(advance_sessions s i h).2]
  obtain ⟨p, row, flow⟩ := h
  cases flow with
  | inserting seen now =>
    cases row with
    | none => exact le_rfl
    | some row => exact Nat.le_succ _
  | _ => cases row <;> exact le_rfl

theorem drawn_of_inserted (h' : Inserted s h n x') : (advance s i h).drawn = s.drawn + 1 := by
  obtain ⟨-, -, ⟨r, hrow, -⟩, seen, now, hflow⟩ := h'
  obtain ⟨p, row, flow⟩ := h
  obtain rfl : row = some r := hrow
  obtain rfl : flow = .inserting seen now := hflow
  rfl

/-- A step that closes a package ends a transaction that has revoked its sessions. -/
theorem closed_writer (hclosed : Closed (writer s h row)) :
    Closed row ∨ ∃ seen, h.flow.seen = some seen ∧ h.row.isSome = true := by
  obtain ⟨p, loaded, flow⟩ := h
  cases loaded with
  | none =>
    rw [writer_of_row_eq_none rfl] at hclosed
    exact .inl hclosed
  | some loaded =>
    cases flow with
    | recipient cookie =>
      refine .inl ?_
      simp only [writer] at hclosed
      split at hclosed
      · exact hclosed
      · exact hclosed
    | withdrawing seen now => exact .inr ⟨seen, rfl, rfl⟩
    | removing status seen now => exact .inr ⟨seen, rfl, rfl⟩
    | _ => exact .inl hclosed

/-! ### The invariant -/

/-- What the access rules rest on. `seen` says that an open transaction has seen every session of
its package, `closed` that a request whose session is not revoked has not missed that its package is
closed. -/
structure AccessInvariant (s : Gateway) : Prop where
  rows : RowInvariant s
  drawn : ∀ n x, s.sessions n = some x → n < s.drawn
  within : ∀ n x, s.sessions n = some x →
    ∃ q, s.packages x.package = some q ∧ x.expiresAt ≤ q.expiresAt
  single : ∀ n m x y, s.sessions n = some x → s.sessions m = some y → x.package = y.package →
    x.revokedAt = none → y.revokedAt = none → n = m
  cookies : ∀ i h c, s.handlers i = some h → h.flow.cookie = some c → c < s.drawn
  tokens : ∀ i h n, s.handlers i = some h → h.flow.token = some n →
    ∃ x, s.sessions n = some x ∧ x.package = h.package
  seen : ∀ i h seen, s.handlers i = some h → h.flow.seen = some seen → ∀ n x,
    s.sessions n = some x → x.package = h.package → x.revokedAt = none → seen n = true
  closed : ∀ i h c r q x, s.handlers i = some h → h.flow.cookie = some c → h.row = some r →
    s.packages h.package = some q → s.sessions c = some x → x.package = h.package →
      x.revokedAt = none → Closed q → Closed r

/-- What `active_recipient_session` has read. -/
theorem activeRecipientSession_eq_some {token : Option ℕ}
    (h : activeRecipientSession s p row token = some n) :
    token = some n ∧ packageAccessible row s.clock = true ∧ ∃ x, s.sessions n = some x ∧
      x.package = p ∧ x.revokedAt = none ∧ s.clock < x.expiresAt := by
  cases token with
  | none => exact nomatch h
  | some m =>
    simp only [activeRecipientSession] at h
    split at h
    · exact nomatch h
    next hrow =>
      split at h
      · exact nomatch h
      next x hx =>
        split at h
        · exact nomatch h
        next hok =>
          obtain rfl := some.inj h
          rw [not_or, not_or, not_not, not_isSome_iff_eq_none, not_le] at hok
          exact ⟨rfl, by simpa using hrow, x, hx, hok⟩

/-- A session that a step does not revoke has not been seen by the transaction that it ends. -/
theorem AccessInvariant.unseen (hs : AccessInvariant s) (hh : s.handlers i = some h)
    (hx : s.sessions n = some x) (hkept : Kept h n x x') (hopen : x'.revokedAt = none)
    (hpkg : x.package = h.package) (hseen : h.flow.seen = some seen)
    (hrow : h.row.isSome = true) : False := by
  have hhit := hs.seen i h seen hh hseen n x hx hpkg (hkept.revokedAt hopen)
  exact Bool.eq_false_iff.1 (hkept.seen seen hseen hrow hopen) hhit

theorem AccessInvariant.advance_within (hs : AccessInvariant s) (hh : s.handlers i = some h)
    (hx' : (advance s i h).sessions n = some x') :
    ∃ q, (advance s i h).packages x'.package = some q ∧ x'.expiresAt ≤ q.expiresAt := by
  obtain ⟨stored, hsto, hlater⟩ := hs.rows.instances i h hh
  have hloaded : ∀ r, h.row = some r → x'.expiresAt ≤ r.expiresAt → x'.package = h.package →
      ∃ q, (advance s i h).packages x'.package = some q ∧ x'.expiresAt ≤ q.expiresAt := by
    intro r hr hle hpkg
    obtain ⟨q, hq, hgrown⟩ := @advance_grows s i h _ stored hsto
    refine ⟨q, hpkg ▸ hq, ?_⟩
    rw [hgrown.expiresAt, (hlater r hr).expiresAt]
    exact hle
  rcases session_cases hx' with ⟨x, hx, hkept⟩ | hnew
  · rcases hkept.expiresAt with heq | ⟨htoken, r, hr, hle⟩
    · obtain ⟨q, hq, hle⟩ := hs.within n x hx
      obtain ⟨q', hq', hgrown⟩ := @advance_grows s i h _ q hq
      refine ⟨q', hkept.package ▸ hq', ?_⟩
      rw [hgrown.expiresAt, heq]
      exact hle
    · obtain ⟨y, hy, hpkg⟩ := hs.tokens i h n hh htoken
      obtain rfl := some.inj (hx.symm.trans hy)
      exact hloaded r hr hle (hkept.package.trans hpkg)
  · obtain ⟨r, hr, hle⟩ := hnew.expiresAt
    exact hloaded r hr hle hnew.package

/-- An inserted session is the only one of its package. -/
theorem AccessInvariant.inserted_alone (hs : AccessInvariant s) (hh : s.handlers i = some h)
    (hnew : Inserted s h n x') (hy' : (advance s i h).sessions m = some y')
    (hpkg : x'.package = y'.package) (hopen : y'.revokedAt = none) : n = m := by
  rcases session_cases hy' with ⟨y, hy, hkept⟩ | hnew'
  · obtain ⟨seen, now, hflow⟩ := hnew.flow
    obtain ⟨r, hr, -⟩ := hnew.expiresAt
    have hsame : y.package = h.package :=
      hkept.package.symm.trans (hpkg.symm.trans hnew.package)
    have hseen : h.flow.seen = some seen := by
      rw [hflow]
      rfl
    exact (hs.unseen hh hy hkept hopen hsame hseen (by rw [hr]; rfl)).elim
  · exact hnew.number.trans hnew'.number.symm

theorem AccessInvariant.advance_single (hs : AccessInvariant s) (hh : s.handlers i = some h)
    (hx' : (advance s i h).sessions n = some x') (hy' : (advance s i h).sessions m = some y')
    (hpkg : x'.package = y'.package) (hx : x'.revokedAt = none) (hy : y'.revokedAt = none) :
    n = m := by
  rcases session_cases hx' with ⟨x, hold, hkept⟩ | hnew
  · rcases session_cases hy' with ⟨y, hold', hkept'⟩ | hnew'
    · exact hs.single n m x y hold hold'
        (hkept.package.symm.trans (hpkg.trans hkept'.package)) (hkept.revokedAt hx)
        (hkept'.revokedAt hy)
    · exact (hs.inserted_alone hh hnew' hx' hpkg.symm hx).symm
  · exact hs.inserted_alone hh hnew hy' hpkg hy

/-- A session that was there before a step is there after it. -/
theorem advance_session {n : ℕ} {x : RecipientSession} (hs : AccessInvariant s)
    (hx : s.sessions n = some x) :
    ∃ x', (advance s i h).sessions n = some x' ∧ x'.package = x.package := by
  have hkept : ∀ {x' : RecipientSession}, (advance s i h).sessions n = some x' →
      ∃ x', (advance s i h).sessions n = some x' ∧ x'.package = x.package := by
    intro x' hx'
    rcases session_cases hx' with ⟨y, hy, hkept⟩ | hnew
    · obtain rfl := some.inj (hx.symm.trans hy)
      exact ⟨x', hx', hkept.package⟩
    · exact absurd hnew.number (hs.drawn n x hx).ne
  have hsome : ((advance s i h).sessions n).isSome = true := by
    rw [(advance_sessions s i h).1]
    obtain ⟨p, row, flow⟩ := h
    have hmap : ∀ seen now, ((s.revokeSessions seen now).sessions n).isSome = true := by
      intro seen now
      show ((s.sessions n).map _).isSome = true
      rw [hx]
      rfl
    cases row with
    | none => cases flow <;> exact hx ▸ rfl
    | some row =>
      cases flow with
      | accepted token now csrf =>
        show (update s.sessions token _ n).isSome = true
        by_cases hn : n = token
        · subst hn
          rw [update_self, hx]
          rfl
        · rw [update_of_ne hn, hx]
          rfl
      | inserting seen now =>
        show (update (s.revokeSessions seen now).sessions s.drawn _ n).isSome = true
        rw [update_of_ne (hs.drawn n x hx).ne]
        exact hmap seen now
      | marking seen now => exact hmap _ now
      | withdrawing seen now => exact hmap seen now
      | removing status seen now => exact hmap seen now
      | _ => exact hx ▸ rfl
  obtain ⟨x', hx'⟩ := isSome_iff_exists.1 hsome
  exact hkept hx'

/-- Another handler's transaction goes on seeing every session. -/
theorem AccessInvariant.advance_seen_other (hs : AccessInvariant s)
    (halone : ∀ seen now, h.flow = .inserting seen now → ∀ j k, j ≠ i → s.handlers j = some k →
      k.package = h.package → k.flow.seen = none) {j : ℕ} {k : Handler} (hne : j ≠ i)
    (hk : s.handlers j = some k) (hseen : k.flow.seen = some seen)
    (hx' : (advance s i h).sessions n = some x') (hpkg : x'.package = k.package)
    (hopen : x'.revokedAt = none) : seen n = true := by
  rcases session_cases hx' with ⟨x, hx, hkept⟩ | hnew
  · exact hs.seen j k seen hk hseen n x hx (hkept.package.symm.trans hpkg)
      (hkept.revokedAt hopen)
  · obtain ⟨seen', now, hflow⟩ := hnew.flow
    exact nomatch (halone seen' now hflow j k hne hk (hpkg.symm.trans hnew.package)).symm.trans
      hseen

/-- A transaction that has just run its update has seen every session. -/
theorem unrevoked_of_kept (hunfin : h.flow.seen = none)
    (hx' : (advance s i h).sessions n = some x') (hpkg : x'.package = h.package)
    (hopen : x'.revokedAt = none) : s.unrevoked h.package n = true := by
  rcases session_cases hx' with ⟨x, hx, hkept⟩ | hnew
  · rw [Gateway.unrevoked, hx, any_some, decide_eq_true_iff]
    exact ⟨hkept.package.symm.trans hpkg, hkept.revokedAt hopen⟩
  · obtain ⟨seen, now, hflow⟩ := hnew.flow
    rw [hflow] at hunfin
    exact nomatch hunfin

/-- A package that a step has closed, seen from a session that the step has not revoked. -/
theorem AccessInvariant.advance_closed (hs : AccessInvariant s) (hh : s.handlers i = some h)
    {q' : SecureSendPackage} (hq' : (advance s i h).packages p = some q') (hclosed : Closed q')
    (hx : s.sessions n = some x) (hkept : Kept h n x x') (hopen : x'.revokedAt = none)
    (hpkg : x.package = p) : ∃ q, s.packages p = some q ∧ Closed q := by
  obtain ⟨q, hq, ⟨rfl, rfl⟩ | ⟨-, rfl⟩⟩ := advance_row_cases hq'
  · rcases closed_writer hclosed with hold | ⟨seen, hseen, hrow⟩
    · exact ⟨q, hq, hold⟩
    · exact (hs.unseen hh hx hkept hopen hpkg hseen hrow).elim
  · exact ⟨q', hq, hclosed⟩

/-- A handler moves on alone among the revoking transactions. -/
theorem AccessInvariant.advance (hs : AccessInvariant s) (hh : s.handlers i = some h)
    (halone : ∀ seen now, h.flow = .inserting seen now → ∀ j k, j ≠ i → s.handlers j = some k →
      k.package = h.package → k.flow.seen = none) : AccessInvariant (advance s i h) := by
  refine ⟨hs.rows.advance hh, fun n x' hx' ↦ ?_, fun n x' hx' ↦ hs.advance_within hh hx',
    fun n m x' y' hx' hy' ↦ hs.advance_single hh hx' hy', fun j k c hk hc ↦ ?_,
    fun j k n hk hn ↦ ?_, fun j k seen hk hseen n x' hx' hpkg hopen ↦ ?_,
    fun j k c r q' x' hk hc hr hq' hx' hpkg hopen hclosed ↦ ?_⟩
  · rcases session_cases hx' with ⟨x, hx, -⟩ | hnew
    · exact (hs.drawn n x hx).trans_le (drawn_le s i h)
    · rw [drawn_of_inserted hnew, hnew.number]
      exact Nat.lt_succ_self _
  · refine lt_of_lt_of_le ?_ (drawn_le s i h)
    rcases advance_handler_cases hk with ⟨-, hf⟩ | ⟨-, hk'⟩
    · exact hs.cookies i h c hh (hf.cookie c hc)
    · exact hs.cookies j k c hk' hc
  · rcases advance_handler_cases hk with ⟨-, hf⟩ | ⟨-, hk'⟩
    · obtain ⟨r, hr⟩ := hf.token n hn
      obtain ⟨-, -, x, hx, hpkg, -⟩ := activeRecipientSession_eq_some hr
      obtain ⟨x', hx', hsame⟩ := @advance_session s i h n x hs hx
      exact ⟨x', hx', hsame.trans (hpkg.trans hf.package.symm)⟩
    · obtain ⟨x, hx, hpkg⟩ := hs.tokens j k n hk' hn
      obtain ⟨x', hx', hsame⟩ := @advance_session s i h n x hs hx
      exact ⟨x', hx', hsame.trans hpkg⟩
  · rcases advance_handler_cases hk with ⟨-, hf⟩ | ⟨hne, hk'⟩
    · rw [hf.seen seen hseen]
      exact unrevoked_of_kept hf.unfinished hx' (hpkg.trans hf.package) hopen
    · exact hs.advance_seen_other halone hne hk' hseen hx' hpkg hopen
  · have hcookie : c < s.drawn := by
      rcases advance_handler_cases hk with ⟨-, hf⟩ | ⟨-, hk'⟩
      · exact hs.cookies i h c hh (hf.cookie c hc)
      · exact hs.cookies j k c hk' hc
    rcases session_cases hx' with ⟨x, hx, hkept⟩ | hnew
    · have hsame : x.package = k.package := hkept.package.symm.trans hpkg
      obtain ⟨q, hq, hold⟩ := hs.advance_closed hh hq' hclosed hx hkept hopen hsame
      rcases advance_handler_cases hk with ⟨-, hf⟩ | ⟨-, hk'⟩
      · rw [hf.package] at hq hsame
        rcases hf.row r hr with hloaded | hsto
        · exact hs.closed i h c r q x hh (hf.cookie c hc) hloaded hq hx hsame
            (hkept.revokedAt hopen) hold
        · exact some.inj (hq.symm.trans hsto) ▸ hold
      · exact hs.closed j k c r q x hk' hc hr hq hx hsame (hkept.revokedAt hopen) hold
    · exact absurd hnew.number hcookie.ne

/-- A step that moves handlers only. -/
theorem AccessInvariant.of_handlers (hs : AccessInvariant s) (hrows : RowInvariant s')
    (hpackages : s'.packages = s.packages) (hsessions : s'.sessions = s.sessions)
    (hdrawn : s'.drawn = s.drawn)
    (hnew : ∀ j k, s'.handlers j = some k → s.handlers j = some k ∨
      (∀ c, k.flow.cookie = some c → c < s.drawn ∧ k.row = s.packages k.package) ∧
        k.flow.token = none ∧ k.flow.seen = none) : AccessInvariant s' where
  rows := hrows
  drawn n x hx := hdrawn ▸ hs.drawn n x (hsessions ▸ hx)
  within n x hx := hpackages ▸ hs.within n x (hsessions ▸ hx)
  single n m x y hx hy := hs.single n m x y (hsessions ▸ hx) (hsessions ▸ hy)
  cookies j k c hk hc := by
    rw [hdrawn]
    rcases hnew j k hk with hold | ⟨hcookie, -, -⟩
    · exact hs.cookies j k c hold hc
    · exact (hcookie c hc).1
  tokens j k n hk hn := by
    rw [hsessions]
    rcases hnew j k hk with hold | ⟨-, htoken, -⟩
    · exact hs.tokens j k n hold hn
    · exact nomatch htoken.symm.trans hn
  seen j k seen hk hseen n x hx := by
    rcases hnew j k hk with hold | ⟨-, -, hnone⟩
    · exact hs.seen j k seen hold hseen n x (hsessions ▸ hx)
    · exact nomatch hnone.symm.trans hseen
  closed j k c r q x hk hc hr hq hx hpkg hopen hclosed := by
    rcases hnew j k hk with hold | ⟨hcookie, -, -⟩
    · exact hs.closed j k c r q x hold hc hr (hpackages ▸ hq) (hsessions ▸ hx) hpkg hopen
        hclosed
    · have hrow := (hcookie c hc).2.symm.trans hr
      obtain rfl := some.inj (hrow.symm.trans (hpackages ▸ hq))
      exact hclosed

theorem AccessInvariant.move (hs : AccessInvariant s)
    (hmove : GatewayMove s e s') (hok : Tidy s e) : AccessInvariant s' := by
  have hrows := hs.rows.move hmove
  cases hmove with
  | kept => exact hs
  | ticked _ => exact hs.of_handlers hrows rfl rfl rfl fun _ _ ↦ .inl
  | created hnew _ _ =>
    refine ⟨hrows, hs.drawn, fun n x hx ↦ ?_, hs.single, hs.cookies, hs.tokens, hs.seen,
      fun j k c r q x hk hc hr hq hx ↦ hs.closed j k c r q x hk hc hr ?_ hx⟩
    · obtain ⟨q, hq, hle⟩ := hs.within n x hx
      obtain ⟨q', hq', hgrown⟩ := create_grows hnew _ q hq
      exact ⟨q', hq', hgrown.expiresAt ▸ hle⟩
    · obtain ⟨stored, hsto, -⟩ := hs.rows.instances j k hk
      have hne : k.package ≠ _ := fun h ↦
        some_ne_none stored ((h ▸ hsto).symm.trans hnew)
      exact (update_of_ne hne _ _).symm.trans hq
  | begun _ _ hk =>
    refine hs.of_handlers hrows rfl rfl rfl fun j h hj ↦ ?_
    rcases update_eq_some_iff.1 hj with ⟨-, hj'⟩ | ⟨-, hj'⟩
    · obtain rfl := some.inj hj'
      exact .inr ⟨hk.cookie, hk.token, hk.seen⟩
    · exact .inl hj'
  | @advanced i h he hh =>
    exact hs.advance hh fun seen now hflow ↦ hok.alone i h seen now he hh hflow
  | failed _ _ _ => exact hs.of_handlers hrows rfl rfl rfl fun _ _ hk ↦ .inl (of_update_none hk).2

theorem GatewayInitial.access (hs : GatewayInitial s) : AccessInvariant s where
  rows := hs.rows
  drawn n _ hx := nomatch (hs.sessions n).symm.trans hx
  within n _ hx := nomatch (hs.sessions n).symm.trans hx
  single n _ _ _ hx := nomatch (hs.sessions n).symm.trans hx
  cookies i _ _ hh := nomatch (hs.handlers i).symm.trans hh
  tokens i _ _ hh := nomatch (hs.handlers i).symm.trans hh
  seen i _ _ hh := nomatch (hs.handlers i).symm.trans hh
  closed i _ _ _ _ _ hh := nomatch (hs.handlers i).symm.trans hh

theorem accessInvariant (hs : gatewayMachine.ReachableBy Tidy s) : AccessInvariant s :=
  hs.invariant (fun _ ↦ GatewayInitial.access) fun s e hs ↦ hs.move (gatewayStep_cases s e)

/-! ### Refused for ever -/

/-- The gateway refuses a package that it has, since it is revoked, deleted or expired. -/
def Refused (s : Gateway) (p : ℕ) : Prop :=
  ∃ row, s.packages p = some row ∧ safeState (some row) s.clock ≠ .active

/-- What `safe_state` refuses, in terms of what no writer takes back. -/
theorem safeState_ne_active_iff (h : Consistent row) (now : DateTime) :
    safeState (some row) now ≠ .active ↔ row.revokedAt.isSome = true ∨ row.deletedAt.isSome = true ∨
        (row.oneDownloadOnly = true ∧ 1 ≤ row.downloadCount) ∨ row.expiresAt ≤ now ∨
          row.expiredAt.isSome = true := by
  simp only [safeState]
  split
  next hr => exact iff_of_true nofun (.inl (hr.elim id h.revoked))
  split
  next hd => exact iff_of_true nofun (.inr (.inl (hd.elim id h.deleted)))
  split
  next hc => exact iff_of_true nofun (.inr (.inr (.inl hc)))
  split
  next he =>
    refine iff_of_true nofun (.inr (.inr (.inr ?_)))
    exact he.imp id fun he ↦ he.elim id h.expired
  next hr hd hc he =>
    rw [not_or] at hr hd he
    refine iff_of_false (not_not_intro rfl) ?_
    rintro (hrevoked | hdeleted | hcount | hexpires | hexpired)
    · exact hr.1 hrevoked
    · exact hd.1 hdeleted
    · exact hc hcount
    · exact he.1 hexpires
    · exact he.2 (.inl hexpired)

theorem clock_le_step (hok : Tidy s e) : s.clock ≤ (gatewayStep s e).clock := by
  have hmove := gatewayStep_cases s e
  generalize gatewayStep s e = s' at hmove
  cases hmove with
  | ticked he => exact Int.le_add_of_nonneg_right (hok.clock _ _ he)
  | advanced _ _ => exact (advance_clock s _ _).ge
  | _ => exact le_rfl

theorem Refused.step (hs : RowInvariant s) (hok : Tidy s e) (h : Refused s p) :
    Refused (gatewayStep s e) p := by
  obtain ⟨row, hrow, hst⟩ := h
  obtain ⟨row', hrow', hgrown⟩ := (gatewayStep_cases s e).grows p row hrow
  refine ⟨row', hrow', ?_⟩
  rw [safeState_ne_active_iff (hs.consistent p row hrow)] at hst
  rw [safeState_ne_active_iff ((hs.move (gatewayStep_cases s e)).consistent p row' hrow')]
  rcases hst with hrevoked | hdeleted | ⟨hone, hcount⟩ | hexpires | hexpired
  · exact .inl (hgrown.revoked hrevoked)
  · exact .inr (.inl (hgrown.deleted hdeleted))
  · exact .inr (.inr (.inl ⟨hgrown.oneDownloadOnly.trans hone, hgrown.downloaded hcount⟩))
  · exact .inr (.inr (.inr (.inl (hgrown.expiresAt ▸ hexpires.trans (clock_le_step hok)))))
  · exact .inr (.inr (.inr (.inr (hgrown.expired hexpired))))

/-- A package that is refused stays refused, whatever the handlers in flight write. -/
theorem Refused.run {es : List Event} (hs : RowInvariant s)
    (hes : gatewayMachine.Admissible Tidy s es) (h : Refused s p) :
    Refused (gatewayMachine.run s es) p := by
  induction es generalizing s with
  | nil => exact h
  | cons e es ih => exact ih (hs.move (gatewayStep_cases _ e)) hes.2 (h.step hs hes.1)

/-! ### The access rules -/

/-- The package is open to recipients. -/
structure Open (row : SecureSendPackage) (now : DateTime) : Prop where
  revoked : row.revokedAt = none ∧ row.status ≠ .revoked
  deleted : row.deletedAt = none ∧ row.status ≠ .deleted
  cleaned : row.cleanedAt = none
  expires : now < row.expiresAt

/-- What the access rules say of a state: a session that a handler would accept now belongs to its
package, which is open; a session does not outlive its package; a package has at most one session
that is not revoked. -/
structure AccessRules (s : Gateway) : Prop where
  accepted : ∀ i h r n, s.handlers i = some h → h.row = some r →
    activeRecipientSession s h.package r h.flow.cookie = some n →
      ∃ x q, s.sessions n = some x ∧ x.package = h.package ∧ s.packages h.package = some q ∧
        Open q s.clock
  within : ∀ n x, s.sessions n = some x →
    ∃ q, s.packages x.package = some q ∧ x.expiresAt ≤ q.expiresAt
  single : ∀ n m x y, s.sessions n = some x → s.sessions m = some y → x.package = y.package →
    x.revokedAt = none → y.revokedAt = none → n = m

theorem AccessInvariant.rules (hs : AccessInvariant s) : AccessRules s where
  within := hs.within
  single := hs.single
  accepted i h r n hh hr hn := by
    obtain ⟨hcookie, haccessible, x, hx, hpkg, hopen, hexpires⟩ :=
      activeRecipientSession_eq_some hn
    obtain ⟨q, hq, hle⟩ := hs.within n x hx
    rw [hpkg] at hq
    have hloaded : ¬ Closed r := by
      simp only [packageAccessible, decide_eq_true_eq] at haccessible
      obtain ⟨-, -, -, hrevoked, hdeleted, -, hcleaned⟩ := haccessible
      simp [Closed, hrevoked, hdeleted, hcleaned]
    have hclosed : ¬ Closed q :=
      fun hclosed ↦ hloaded (hs.closed i h n r q x hh hcookie hr hq hx hpkg hopen hclosed)
    simp only [Closed, not_or, Bool.not_eq_true, isSome_eq_false_iff, isNone_iff_eq_none] at hclosed
    have hcons := hs.rows.consistent _ q hq
    refine ⟨x, q, hx, hpkg, hq, ⟨hclosed.1, fun h ↦ ?_⟩, ⟨hclosed.2.1, fun h ↦ ?_⟩, hclosed.2.2,
      hexpires.trans_le hle⟩
    · exact nomatch hclosed.1 ▸ hcons.revoked h
    · exact nomatch hclosed.2.1 ▸ hcons.deleted h

end Invariant

/-- **The access rules**, in every run in which no session is inserted beside another transaction
that has revoked the sessions of its package: in every state, and for ever once a package is
refused. -/
theorem access_safe {s : Gateway} (hs : gatewayMachine.ReachableBy Tidy s) :
    AccessRules s ∧ ∀ p es, gatewayMachine.Admissible Tidy s es → Refused s p →
      Refused (gatewayMachine.run s es) p :=
  ⟨(accessInvariant hs).rules, fun _ _ hes h ↦ h.run (accessInvariant hs).rows hes⟩

/-- **No run takes back what closes a package**, whatever the handlers and the clock do. -/
theorem packages_later {s : Gateway} {p : ℕ} {row : SecureSendPackage}
    (hrow : s.packages p = some row) (es : List Event) :
    ∃ row', (gatewayMachine.run s es).packages p = some row' ∧ Later row row' := by
  induction es generalizing s row with
  | nil => exact ⟨row, hrow, .refl row⟩
  | cons e es ih =>
    obtain ⟨next, hnext, hlater⟩ := (gatewayStep_cases s e).grows p row hrow
    obtain ⟨last, hlast, hlater'⟩ := ih hnext
    exact ⟨last, hlast, hlater.trans hlater'⟩

/-! ### Two unlocks at once -/

section Sample

/-- A package, and an unlock by handler 0. -/
def oneUnlock : List Event :=
  [.create 0 (seconds 3600) false "314159" "correct horse",
    .unlock 0 0 "192.0.2.1" "314159" "correct horse", .next 0, .next 0, .next 0, .next 0]

/-- A package, and two unlocks whose session starts overlap. -/
def twoUnlocks : List Event :=
  [.create 0 (seconds 3600) false "314159" "correct horse",
    .unlock 0 0 "192.0.2.1" "314159" "correct horse",
    .unlock 1 0 "192.0.2.2" "314159" "correct horse", .next 0, .next 0, .next 0, .next 1, .next 1,
    .next 1, .next 0, .next 1]

/-- The clock is moved. -/
def Event.isTick : Event → Bool
  | .tick _ _ => true
  | _ => false

variable {s : Gateway} {es : List Event}

/-- A run at one instant. -/
theorem clockAdvances_of_all
    (hes : (es.all fun e ↦ !e.isTick) = true) : gatewayMachine.Admissible ClockAdvances s es := by
  induction es generalizing s with
  | nil => trivial
  | cons e es ih =>
    rw [List.all_cons, Bool.and_eq_true] at hes
    refine ⟨fun wall mono h ↦ ?_, ih hes.2⟩
    subst h
    exact nomatch hes.1

/-- An event of the first handler, or of none. -/
def Event.ofFirst (e : Event) : Bool := e.handler.all (· = 0) && !e.isTick

/-- An event of the first handler leaves the others alone. -/
theorem handlers_of_first {e : Event} (he : e.ofFirst = true)
    (hs : ∀ j, j ≠ 0 → s.handlers j = none) (j : ℕ) (hj : j ≠ 0) :
    (gatewayMachine.step s e).handlers j = none := by
  refine (gatewayStep_handlers fun hhandler ↦ ?_).trans (hs j hj)
  have hall := (Bool.and_eq_true_iff.1 he).1
  rw [hhandler] at hall
  exact hj (of_decide_eq_true hall)

/-- A run with one handler is tidy. -/
theorem tidy_of_one (hs : ∀ j, j ≠ 0 → s.handlers j = none) (hes : es.all Event.ofFirst = true) :
    gatewayMachine.Admissible Tidy s es := by
  induction es generalizing s with
  | nil => trivial
  | cons e es ih =>
    rw [List.all_cons, Bool.and_eq_true] at hes
    obtain ⟨hfirst, hes⟩ := hes
    refine ⟨⟨fun wall mono h ↦ ?_, fun i h _ _ he hh _ j k hj hk ↦ ?_⟩,
      ih (handlers_of_first hfirst hs) hes⟩
    · subst h
      exact nomatch hfirst
    · by_cases hi : i = 0
      · exact nomatch (hs j (hi ▸ hj)).symm.trans hk
      · exact nomatch (hs i hi).symm.trans hh

/-- The package is unlocked, downloaded, and unlocked at another address. -/
def inTurn : List Event :=
  oneUnlock ++ .download 0 0 (some 0) (some 0) :: List.replicate 5 (.next 0) ++
    .unlock 0 0 "192.0.2.2" "314159" "correct horse" :: List.replicate 4 (.next 0)

theorem access_safe_inTurn :
    AccessRules (gatewayMachine.run emptyGateway inTurn) ∧
      ∀ p es, gatewayMachine.Admissible Tidy (gatewayMachine.run emptyGateway inTurn) es →
        Refused (gatewayMachine.run emptyGateway inTurn) p →
          Refused (gatewayMachine.run (gatewayMachine.run emptyGateway inTurn) es) p :=
  access_safe (.run (.start emptyGateway_initial) (tidy_of_one (fun _ _ ↦ rfl) (by decide)))

/-- The package is downloaded and revoked. -/
def closing : List Event :=
  oneUnlock ++ .download 1 0 (some 0) (some 0) :: List.replicate 5 (.next 1) ++
    .revoke 2 0 :: List.replicate 4 (.next 2)

/-- Unlocks and a deletion come after that. -/
theorem packages_later_twoUnlocks : ∃ row row',
    (gatewayMachine.run emptyGateway closing).packages 0 = some row ∧
      (row.revokedAt.isSome = true ∧ row.downloadCount = 1) ∧
      (gatewayMachine.run (gatewayMachine.run emptyGateway closing)
        (twoUnlocks ++ .delete 3 0 :: List.replicate 4 (.next 3))).packages 0 = some row' ∧
      Later row row' := by
  have hclosed : ((gatewayMachine.run emptyGateway closing).packages 0).any (fun row ↦
      row.revokedAt.isSome = true ∧ row.downloadCount = 1) = true := by decide +kernel
  obtain ⟨row, hrow, hst⟩ := (Option.any_eq_true _ _).1 hclosed
  obtain ⟨row', hrow', hlater⟩ :=
    packages_later hrow (twoUnlocks ++ .delete 3 0 :: List.replicate 4 (.next 3))
  exact ⟨row, row', hrow, of_decide_eq_true hst, hrow', hlater⟩

/-- **A package with two sessions.** -/
theorem two_sessions :
    ¬ ∀ s : Gateway, gatewayMachine.ReachableBy ClockAdvances s → AccessRules s := by
  intro hall
  have hrules := hall (gatewayMachine.run emptyGateway twoUnlocks)
    (.run (.start emptyGateway_initial) (clockAdvances_of_all (by decide)))
  exact absurd (hrules.single 0 1 ⟨0, 0, 0, seconds 900, none⟩ ⟨0, 1, 0, seconds 900, none⟩
    (by decide +kernel) (by decide +kernel) rfl rfl rfl) (by decide)

end Sample

end Kaya.SecureSend
