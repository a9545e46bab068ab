import Kaya.SecureSend.Model

/-!
# What a step of the gateway can do

One statement for each part of the state. Writers work on instances that may be stale, but they
change few columns: `Later r q` says what no writer takes back — the expiry and the kind of a
package never change, and a date that closes a package is never cleared — and `RowInvariant` that
the instance of every handler is an earlier state of its row in this sense, in **every** run.

`Consistent` ties the column `status` to the dates. Viewing and downloading overwrite the status of
a package that has been closed meanwhile; the dates stay.
-/

namespace Kaya.SecureSend

open Function Option
open Kaya.HA (DateTime seconds)

/-! ### Rows -/

section Rows

variable {loaded r q stored : SecureSendPackage} {now : DateTime} {status : Cleaned} {α : Type*}

theorem isSome_changed [DecidableEq α] {loaded stored : Option α} {a : α}
    (h : stored.isSome = true) : (changed loaded (some a) stored).isSome = true := by
  rw [changed]
  split
  · exact h
  · rfl

/-- A column that a writer sets is set afterwards, also when its value was there already. -/
theorem isSome_changed_of_loaded [DecidableEq α] {loaded stored : Option α} {a : α}
    (h : loaded.isSome = true → stored.isSome = true) :
    (changed loaded (some a) stored).isSome = true := by
  rw [changed]
  split
  next heq => exact h (heq ▸ rfl)
  next => rfl

/-- `q` is a later state of the row `r`. -/
structure Later (r q : SecureSendPackage) : Prop where
  expiresAt : q.expiresAt = r.expiresAt
  oneDownloadOnly : q.oneDownloadOnly = r.oneDownloadOnly
  revoked : r.revokedAt.isSome = true → q.revokedAt.isSome = true
  deleted : r.deletedAt.isSome = true → q.deletedAt.isSome = true
  expired : r.expiredAt.isSome = true → q.expiredAt.isSome = true
  cleaned : r.cleanedAt.isSome = true → q.cleanedAt.isSome = true
  downloaded : 1 ≤ r.downloadCount → 1 ≤ q.downloadCount

@[refl] theorem Later.refl (r : SecureSendPackage) : Later r r :=
  ⟨rfl, rfl, id, id, id, id, id⟩

theorem Later.trans {a b c : SecureSendPackage} (h : Later a b) (h' : Later b c) : Later a c where
  expiresAt := h'.expiresAt.trans h.expiresAt
  oneDownloadOnly := h'.oneDownloadOnly.trans h.oneDownloadOnly
  revoked := h'.revoked ∘ h.revoked
  deleted := h'.deleted ∘ h.deleted
  expired := h'.expired ∘ h.expired
  cleaned := h'.cleaned ∘ h.cleaned
  downloaded := h'.downloaded ∘ h.downloaded

/-- The status names a date that is set. -/
structure Consistent (row : SecureSendPackage) : Prop where
  revoked : row.status = .revoked → row.revokedAt.isSome = true
  deleted : row.status = .deleted → row.deletedAt.isSome = true
  expired : row.status = .expired → row.expiredAt.isSome = true
  cleaned : row.cleanedAt.isSome = true → row.expiredAt.isSome = true ∨ row.deletedAt.isSome = true

/-- What a writer makes of a row, on an instance of it that may be stale. -/
structure Writes (loaded : SecureSendPackage) (f : SecureSendPackage → SecureSendPackage) :
    Prop where
  later : ∀ stored, Later stored (f stored)
  consistent : ∀ stored, Later loaded stored → Consistent stored → Consistent (f stored)

theorem writes_id : Writes loaded id := ⟨fun _ ↦ .refl _, fun _ _ h ↦ h⟩

/-- A package as it is created. -/
theorem Consistent.created (expiresAt : DateTime) (oneDownloadOnly : Bool)
    (credential : List Char) : Consistent { expiresAt, oneDownloadOnly, credential } :=
  ⟨nofun, nofun, nofun, nofun⟩

/-- A status that closes nothing. -/
theorem Consistent.of_status (h : Consistent stored) (loaded : SecureSendPackage) (status : Status)
    (hrevoked : status ≠ .revoked) (hdeleted : status ≠ .deleted) (hexpired : status ≠ .expired) :
    Consistent { stored with status := changed loaded.status status stored.status } := by
  by_cases hsame : status = loaded.status
  · have hkept : changed loaded.status status stored.status = stored.status := if_pos hsame
    rw [hkept]
    exact h
  · have hnew : changed loaded.status status stored.status = status := if_neg hsame
    rw [hnew]
    exact ⟨fun hs ↦ absurd hs hrevoked, fun hs ↦ absurd hs hdeleted, fun hs ↦ absurd hs hexpired,
      h.cleaned⟩

theorem openedBy_writes : Writes loaded (openedBy loaded now) where
  later _ := ⟨rfl, rfl, id, id, id, id, id⟩
  consistent stored _ h := by
    obtain ⟨hrevoked, hdeleted, hexpired, hcleaned⟩ :=
      h.of_status loaded .opened (by decide) (by decide) (by decide)
    exact ⟨hrevoked, hdeleted, hexpired, hcleaned⟩

theorem markedBy_writes : Writes loaded (markedBy loaded now) where
  later _ := ⟨rfl, rfl, id, id, id, id, fun _ ↦ Nat.le_add_left 1 _⟩
  consistent stored _ h := by
    obtain ⟨hrevoked, hdeleted, hexpired, hcleaned⟩ :=
      h.of_status loaded .downloaded (by decide) (by decide) (by decide)
    exact ⟨hrevoked, hdeleted, hexpired, hcleaned⟩

theorem failedBy_writes : Writes loaded (failedBy loaded now) where
  later _ := ⟨rfl, rfl, id, id, id, id, id⟩
  consistent _ _ h := ⟨h.revoked, h.deleted, h.expired, h.cleaned⟩

theorem unlockedBy_writes : Writes loaded (unlockedBy loaded now) where
  later _ := ⟨rfl, rfl, id, id, id, id, id⟩
  consistent _ _ h := ⟨h.revoked, h.deleted, h.expired, h.cleaned⟩

/-- The status after a writer has set one that closes the package. -/
theorem changed_status {new old : Status} (h : changed loaded.status new old = r.status) :
    r.status = new ∨ r.status = old := by
  rw [changed] at h
  split at h
  · exact .inr h.symm
  · exact .inl h.symm

theorem revokedBy_isSome (h : Later loaded stored) :
    (revokedBy loaded now stored).revokedAt.isSome = true :=
  isSome_changed_of_loaded h.revoked

theorem revokedBy_writes : Writes loaded (revokedBy loaded now) where
  later _ := ⟨rfl, rfl, isSome_changed, id, id, id, id⟩
  consistent stored hlater h := by
    have hstat : (revokedBy loaded now stored).status = .revoked ∨
        (revokedBy loaded now stored).status = stored.status := changed_status rfl
    refine ⟨fun _ ↦ revokedBy_isSome hlater, fun hs ↦ ?_, fun hs ↦ ?_, h.cleaned⟩
    · exact h.deleted ((hstat.resolve_left (by rw [hs]; decide)).symm.trans hs)
    · exact h.expired ((hstat.resolve_left (by rw [hs]; decide)).symm.trans hs)

theorem cleanedBy_later (status : Cleaned) :
    Later stored (cleanedBy status loaded now stored) where
  expiresAt := rfl
  oneDownloadOnly := rfl
  revoked := id
  deleted h := by
    show (if status = .deleted then _ else _ : Option DateTime).isSome = true
    split
    · exact isSome_changed h
    · exact h
  expired h := by
    show (if status = .expired then _ else _ : Option DateTime).isSome = true
    split
    · exact isSome_changed h
    · exact h
  cleaned := isSome_changed
  downloaded := id

theorem cleanedBy_expired (h : Later loaded stored) :
    (cleanedBy .expired loaded now stored).expiredAt.isSome = true :=
  isSome_changed_of_loaded h.expired

theorem cleanedBy_deleted (h : Later loaded stored) :
    (cleanedBy .deleted loaded now stored).deletedAt.isSome = true :=
  isSome_changed_of_loaded h.deleted

theorem cleanedBy_writes : Writes loaded (cleanedBy status loaded now) where
  later _ := cleanedBy_later status
  consistent stored hlater h := by
    have hstat : (cleanedBy status loaded now stored).status = status.status ∨
        (cleanedBy status loaded now stored).status = stored.status := changed_status rfl
    have hlater' : Later stored (cleanedBy status loaded now stored) := cleanedBy_later status
    cases status with
    | expired =>
      refine ⟨fun hs ↦ ?_, fun hs ↦ ?_, fun _ ↦ cleanedBy_expired hlater,
        fun _ ↦ .inl (cleanedBy_expired hlater)⟩
      · exact h.revoked ((hstat.resolve_left (by rw [hs]; decide)).symm.trans hs)
      · exact hlater'.deleted
          (h.deleted ((hstat.resolve_left (by rw [hs]; decide)).symm.trans hs))
    | deleted =>
      refine ⟨fun hs ↦ ?_, fun _ ↦ cleanedBy_deleted hlater, fun hs ↦ ?_,
        fun _ ↦ .inr (cleanedBy_deleted hlater)⟩
      · exact h.revoked ((hstat.resolve_left (by rw [hs]; decide)).symm.trans hs)
      · exact hlater'.expired
          (h.expired ((hstat.resolve_left (by rw [hs]; decide)).symm.trans hs))

end Rows

/-! ### One step of a handler -/

section Advance

variable {s : Gateway} {i j : ℕ} {h k : Handler}

/-- What a step of a handler makes of the row of its package. -/
def writer (s : Gateway) (h : Handler) : SecureSendPackage → SecureSendPackage :=
  match h.flow, h.row with
  | .recipient _, some row => if row.openedAt = none then openedBy row s.clock else id
  | .marking _ now, some row => markedBy row now
  | .rejected _, some row => failedBy row s.clock
  | .verified, some row => unlockedBy row s.clock
  | .withdrawing _ now, some row => revokedBy row now
  | .removing status _ now, some row => cleanedBy status row now
  | _, _ => id

@[simp] theorem write_id (p : ℕ) : s.write p id = s := by
  rw [Gateway.write, map_id, id_eq, update_eq_self]

/-- A step writes the row of the handler's package, and no other. -/
theorem advance_packages (s : Gateway) (i : ℕ) (h : Handler) :
    (advance s i h).packages = (s.write h.package (writer s h)).packages := by
  obtain ⟨p, row, flow⟩ := h
  cases flow <;> cases row <;> simp only [advance, writer] <;> (repeat' split) <;> simp

theorem writer_of_row_eq_none (hrow : h.row = none) : writer s h = id := by
  obtain ⟨p, row, flow⟩ := h
  obtain rfl : row = none := hrow
  cases flow <;> rfl

theorem writer_writes {loaded : SecureSendPackage} (hrow : h.row = some loaded) :
    Writes loaded (writer s h) := by
  obtain ⟨p, row, flow⟩ := h
  obtain rfl : row = some loaded := hrow
  cases flow with
  | recipient cookie =>
    show Writes loaded (if loaded.openedAt = none then openedBy loaded s.clock else id)
    split
    · exact openedBy_writes
    · exact writes_id
  | marking seen now => exact markedBy_writes
  | rejected address => exact failedBy_writes
  | verified => exact unlockedBy_writes
  | withdrawing seen now => exact revokedBy_writes
  | removing status seen now => exact cleanedBy_writes
  | _ => exact writes_id

/-- The sessions after a step of a handler. -/
def sessionWriter (s : Gateway) (h : Handler) : Gateway :=
  match h.flow, h.row with
  | .accepted token now _, some row => s.touch token row now
  | .marking seen now, some _ => s.revokeSessions (seen.getD fun _ ↦ false) now
  | .inserting seen now, some row => (s.revokeSessions seen now).insertSession h.package row
  | .withdrawing seen now, some _ => s.revokeSessions seen now
  | .removing _ seen now, some _ => s.revokeSessions seen now
  | _, _ => s

theorem advance_sessions (s : Gateway) (i : ℕ) (h : Handler) :
    (advance s i h).sessions = (sessionWriter s h).sessions ∧
      (advance s i h).drawn = (sessionWriter s h).drawn := by
  obtain ⟨p, row, flow⟩ := h
  cases flow <;> cases row <;> simp only [advance, sessionWriter] <;> (repeat' split) <;>
    exact ⟨rfl, rfl⟩

theorem advance_clock (s : Gateway) (i : ℕ) (h : Handler) : (advance s i h).clock = s.clock := by
  obtain ⟨p, row, flow⟩ := h
  cases flow <;> cases row <;> simp only [advance] <;> (repeat' split) <;> rfl

/-- The cookie a handler has still to check. -/
def Flow.cookie : Flow → Option ℕ
  | .recipient cookie => cookie
  | .download cookie _ => cookie
  | _ => none

/-- The session a handler has accepted. -/
def Flow.token : Flow → Option ℕ
  | .accepted token _ _ => some token
  | _ => none

/-- The sessions that an open transaction has revoked. -/
def Flow.seen : Flow → Option (ℕ → Bool)
  | .marking seen _ => seen
  | .inserting seen _ => some seen
  | .withdrawing seen _ => some seen
  | .removing _ seen _ => some seen
  | _ => none

/-- What a handler hands on to the step that follows. -/
structure Follows (s : Gateway) (h k : Handler) : Prop where
  package : k.package = h.package
  row : ∀ r, k.row = some r → h.row = some r ∨ s.packages h.package = some r
  cookie : ∀ c, k.flow.cookie = some c → h.flow.cookie = some c
  token : ∀ n, k.flow.token = some n →
    ∃ r, activeRecipientSession s h.package r h.flow.cookie = some n
  seen : ∀ seen, k.flow.seen = some seen → seen = s.unrevoked h.package
  reading : k.flow = .reading → ∀ r, k.row = some r →
    s.packages h.package = some r ∧ ¬ (r.oneDownloadOnly = true ∧ 1 ≤ r.downloadCount)
  marking : ∀ seen now, k.flow = .marking seen now → h.flow = .reading ∧ h.row = k.row
  rejected : ∀ a, k.flow = .rejected a → ∃ pin passphrase loaded,
    h = ⟨h.package, some loaded, .unlocking a pin passphrase⟩ ∧ k.row = some loaded ∧
      (attemptLimited s a h.package loaded).2 = false ∧
        credentialMaterial pin passphrase ≠ loaded.credential
  unfinished : h.flow.seen = none

/-- A handler that keeps its instance or drops it, and has no session to check or to revoke. -/
theorem follows_kept (hpkg : k.package = h.package)
    (hrow : ∀ r, k.row = some r → h.row = some r) (hcookie : k.flow.cookie = none)
    (htoken : k.flow.token = none) (hseen : k.flow.seen = none) (hreading : k.flow ≠ .reading)
    (hmarking : ∀ seen now, k.flow ≠ .marking seen now) (hrej : ∀ a, k.flow ≠ .rejected a)
    (hunfin : h.flow.seen = none) : Follows s h k where
  package := hpkg
  row r hr := .inl (hrow r hr)
  cookie _ hc := nomatch hcookie.symm.trans hc
  token _ ht := nomatch htoken.symm.trans ht
  seen _ hs := nomatch hseen.symm.trans hs
  reading hr := absurd hr hreading
  marking seen now hm := absurd hm (hmarking seen now)
  rejected a ha := absurd ha (hrej a)
  unfinished := hunfin

/-- A handler that has just accepted a session. -/
theorem follows_accepted {r : SecureSendPackage} {token : ℕ} {now : DateTime}
    {csrf : Option (Option ℕ)} (hrow : h.row = some r)
    (htoken : activeRecipientSession s h.package r h.flow.cookie = some token)
    (hunfin : h.flow.seen = none) :
    Follows s h ⟨h.package, some r, .accepted token now csrf⟩ where
  package := rfl
  row _ hr := .inl (hrow.trans hr)
  cookie := nofun
  token _ hn := ⟨r, htoken.trans hn⟩
  seen := nofun
  reading := nofun
  marking := nofun
  rejected := nofun
  unfinished := hunfin

/-- A handler that has just seen the sessions of its package. -/
theorem follows_seen (hpkg : k.package = h.package)
    (hrow : ∀ r, k.row = some r → h.row = some r ∨ s.packages h.package = some r)
    (hcookie : k.flow.cookie = none) (htoken : k.flow.token = none)
    (hseen : k.flow.seen = some (s.unrevoked h.package)) (hreading : k.flow ≠ .reading)
    (hmarking : ∀ seen now, k.flow ≠ .marking seen now) (hrej : ∀ a, k.flow ≠ .rejected a)
    (hunfin : h.flow.seen = none) : Follows s h k where
  package := hpkg
  row := hrow
  cookie _ hc := nomatch hcookie.symm.trans hc
  token _ ht := nomatch htoken.symm.trans ht
  seen _ hs := some.inj (hs.symm.trans hseen)
  reading hr := absurd hr hreading
  marking seen now hm := absurd hm (hmarking seen now)
  rejected a ha := absurd ha (hrej a)
  unfinished := hunfin

/-- One handler moves on, to one that follows it or to its end. -/
def Advances (s : Gateway) (i : ℕ) (h : Handler) (s' : Gateway) : Prop :=
  ∃ k, s'.handlers = Function.update s.handlers i k ∧ ∀ k', k = some k' → Follows s h k'

theorem Advances.put {s' : Gateway} (hs' : s'.handlers = s.handlers) (hk : Follows s h k) :
    Advances s i h (s'.put i (some k)) :=
  ⟨some k, by rw [put_handlers, hs'], fun _ heq ↦ some.inj heq ▸ hk⟩

theorem Advances.ends {s' : Gateway} (hs' : s'.handlers = s.handlers) :
    Advances s i h (s'.put i none) :=
  ⟨none, by rw [put_handlers, hs'], fun _ heq ↦ nomatch heq⟩

/-- The page of a recipient: the row is loaded, its first opening committed, and the session checked. -/
theorem advance_recipient (s : Gateway) (i p : ℕ) (row : Option SecureSendPackage)
    (cookie : Option ℕ) :
    Advances s i ⟨p, row, .recipient cookie⟩ (advance s i ⟨p, row, .recipient cookie⟩) := by
  cases row with
  | none =>
    simp only [advance]
    exact .put rfl ⟨rfl, fun _ hr ↦ .inr hr, fun _ hc ↦ hc, nofun, nofun, nofun, nofun, nofun, rfl⟩
  | some row =>
    simp only [advance]
    split
    · exact .put rfl
        ⟨rfl, fun _ hr ↦ (nomatch hr), fun _ hc ↦ hc, nofun, nofun, nofun, nofun, nofun, rfl⟩
    split
    · exact .ends rfl
    next token htoken => exact .put rfl (follows_accepted rfl htoken rfl)

/-- A download loads the row and the session again before it reads the content. -/
theorem advance_authorising (s : Gateway) (i p token : ℕ) (csrf : Option ℕ)
    (row : Option SecureSendPackage) :
    Advances s i ⟨p, row, .authorising token csrf⟩
      (advance s i ⟨p, row, .authorising token csrf⟩) := by
  simp only [advance]
  split
  next row session hrow hsession =>
    split
    · exact .ends rfl
    split
    · exact .ends rfl
    next hcount =>
      refine .put rfl
        ⟨rfl, fun _ hr ↦ .inr (hrow.trans hr), nofun, nofun, nofun, fun _ r hr ↦ ?_, nofun, nofun,
          rfl⟩
      obtain rfl : row = r := some.inj hr
      exact ⟨hrow, hcount⟩
  · exact .ends rfl

/-- Reading the sessions to be revoked. -/
theorem advance_reading (s : Gateway) (i p : ℕ) (row : Option SecureSendPackage) :
    Advances s i ⟨p, row, .reading⟩ (advance s i ⟨p, row, .reading⟩) := by
  cases row with
  | none => exact .ends rfl
  | some row =>
    simp only [advance]
    refine .put rfl
      ⟨rfl, fun _ hr ↦ .inl hr, nofun, nofun, fun seen hseen ↦ ?_, nofun,
        fun _ _ _ ↦ ⟨rfl, rfl⟩, nofun, rfl⟩
    replace hseen : seenByDownload s p row = some seen := hseen
    rw [seenByDownload] at hseen
    split at hseen
    · exact (some.inj hseen).symm
    · exact nomatch hseen

/-- An attempt to unlock: it is refused for the limit, counted where it is wrong, or verified. -/
theorem advance_unlocking (s : Gateway) (i p : ℕ) (row : Option SecureSendPackage)
    (address pin passphrase : String) :
    Advances s i ⟨p, row, .unlocking address pin passphrase⟩
      (advance s i ⟨p, row, .unlocking address pin passphrase⟩) := by
  cases row with
  | none => exact .ends rfl
  | some row =>
    simp only [advance]
    split
    · exact .ends rfl
    next hlimit =>
      split
      · exact .put rfl (follows_kept rfl (fun _ hr ↦ hr) rfl rfl rfl nofun nofun nofun rfl)
      next hwrong =>
        refine .put rfl
          ⟨rfl, fun _ hr ↦ .inl hr, nofun, nofun, nofun, nofun, nofun, fun a ha ↦ ?_, rfl⟩
        obtain rfl : address = a := Flow.rejected.inj ha
        exact ⟨pin, passphrase, row, rfl, rfl, Bool.eq_false_iff.2 hlimit, hwrong⟩

/-- What a step of a handler does to the handlers. -/
theorem advance_handlers (s : Gateway) (i : ℕ) (h : Handler) : Advances s i h (advance s i h) := by
  obtain ⟨p, row, flow⟩ := h
  cases flow with
  | recipient cookie => exact advance_recipient s i p row cookie
  | download cookie csrf =>
    cases row with
    | none => exact .ends rfl
    | some row =>
      simp only [advance]
      split
      · exact .ends rfl
      next token htoken => exact .put rfl (follows_accepted rfl htoken rfl)
  | accepted token now csrf =>
    cases row with
    | none => exact .ends rfl
    | some row =>
      simp only [advance]
      cases csrf with
      | none => exact .ends rfl
      | some csrf =>
        exact .put rfl
          (follows_kept rfl (fun _ hr ↦ nomatch hr) rfl rfl rfl nofun nofun nofun rfl)
  | authorising token csrf => exact advance_authorising s i p token csrf row
  | reading => exact advance_reading s i p row
  | unlocking address pin passphrase => exact advance_unlocking s i p row address pin passphrase
  | verified =>
    cases row with
    | none => exact .ends rfl
    | some row =>
      simp only [advance]
      exact .put rfl (follows_kept rfl (fun _ hr ↦ nomatch hr) rfl rfl rfl nofun nofun nofun rfl)
  | starting =>
    simp only [advance]
    exact .put rfl (follows_seen rfl (fun _ hr ↦ .inr hr) rfl rfl rfl nofun nofun nofun rfl)
  | revoking =>
    cases row with
    | none => exact .ends rfl
    | some row =>
      simp only [advance]
      exact .put rfl (follows_seen rfl (fun _ hr ↦ .inl hr) rfl rfl rfl nofun nofun nofun rfl)
  | cleaning status =>
    simp only [advance]
    refine .put rfl (follows_seen rfl (fun r hr ↦ ?_) rfl rfl rfl nofun nofun nofun rfl)
    cases row with
    | none => exact .inr hr
    | some row => exact .inl hr
  | _ =>
    -- a transaction ends with its commit
    cases row with
    | none => exact .ends rfl
    | some row =>
      simp only [advance]
      exact .ends rfl

/-- A handler in flight after a step of another: it follows the one that has moved, or it was there
before. -/
theorem advance_handler_cases (hk : (advance s i h).handlers j = some k) :
    j = i ∧ Follows s h k ∨ j ≠ i ∧ s.handlers j = some k := by
  obtain ⟨k', hhandlers, hfollows⟩ := advance_handlers s i h
  rw [hhandlers] at hk
  exact (update_eq_some_iff.1 hk).imp (fun h ↦ ⟨h.1, hfollows k h.2⟩) id

theorem advance_handler_of_ne (hj : j ≠ i) : (advance s i h).handlers j = s.handlers j := by
  obtain ⟨k', hhandlers, -⟩ := advance_handlers s i h
  rw [hhandlers]
  exact update_of_ne hj _ _

end Advance

/-! ### Rows along a run -/

section Runs

variable {s s' : Gateway} {i p j : ℕ} {h : Handler} {row new : SecureSendPackage} {e : Event}

/-- The rows of a gateway: each is consistent, and the instance that a handler holds is an earlier
state of the row that is stored. -/
structure RowInvariant (s : Gateway) : Prop where
  consistent : ∀ p row, s.packages p = some row → Consistent row
  instances : ∀ i h, s.handlers i = some h → ∃ stored, s.packages h.package = some stored ∧
    ∀ r, h.row = some r → Later r stored

/-- What a step makes of the rows that are stored. -/
def Grows (s s' : Gateway) : Prop :=
  ∀ p row, s.packages p = some row → ∃ row', s'.packages p = some row' ∧ Later row row'

theorem Grows.of_packages (h : s'.packages = s.packages) : Grows s s' :=
  fun _ row hrow ↦ ⟨row, h ▸ hrow, .refl row⟩

theorem writer_later (row : SecureSendPackage) : Later row (writer s h row) := by
  cases hrow : h.row with
  | none =>
    rw [writer_of_row_eq_none hrow]
    exact .refl row
  | some loaded => exact (writer_writes hrow).later row

/-- The row of the handler's package after the step, and the others. -/
theorem advance_row (hrow : s.packages p = some row) :
    (advance s i h).packages p = some (if p = h.package then writer s h row else row) := by
  rw [advance_packages, write_packages]
  by_cases hp : p = h.package
  · subst hp
    rw [update_self, hrow, if_pos rfl]
    rfl
  · rw [update_of_ne hp, hrow, if_neg hp]

theorem advance_row_none (hrow : s.packages p = none) : (advance s i h).packages p = none := by
  rw [advance_packages, write_packages]
  by_cases hp : p = h.package
  · subst hp
    rw [update_self, hrow]
    rfl
  · rw [update_of_ne hp, hrow]

/-- A row that is stored after the step: what the handler has made of the row of its package, or the
row of another package. -/
theorem advance_row_cases (hrow : (advance s i h).packages p = some row) :
    ∃ old, s.packages p = some old ∧
      (p = h.package ∧ row = writer s h old ∨ p ≠ h.package ∧ row = old) := by
  cases hold : s.packages p with
  | none => exact nomatch (advance_row_none hold).symm.trans hrow
  | some old =>
    refine ⟨old, rfl, ?_⟩
    have heq := some.inj (hrow.symm.trans (advance_row hold))
    by_cases hp : p = h.package
    · exact .inl ⟨hp, heq.trans (if_pos hp)⟩
    · exact .inr ⟨hp, heq.trans (if_neg hp)⟩

theorem advance_grows : Grows s (advance s i h) := by
  refine fun p row hrow ↦ ⟨_, advance_row hrow, ?_⟩
  split
  · exact writer_later row
  · exact .refl row

/-- A new handler holds the row that is stored. -/
theorem RowInvariant.put (hs : RowInvariant s) {k : Handler}
    (hk : ∃ stored, s.packages k.package = some stored ∧ ∀ r, k.row = some r → Later r stored) :
    RowInvariant (s.put i (some k)) where
  consistent := hs.consistent
  instances j h hj := by
    rcases update_eq_some_iff.1 hj with ⟨-, hh⟩ | ⟨-, hh⟩
    · obtain rfl := some.inj hh
      exact hk
    · exact hs.instances j h hh

theorem RowInvariant.put_none (hs : RowInvariant s) : RowInvariant (s.put i none) where
  consistent := hs.consistent
  instances j h hj := hs.instances j h (of_update_none hj).2

theorem RowInvariant.advance (hs : RowInvariant s) (hh : s.handlers i = some h) :
    RowInvariant (advance s i h) where
  consistent p row hrow := by
    obtain ⟨old, hold, ⟨rfl, rfl⟩ | ⟨-, rfl⟩⟩ := advance_row_cases hrow
    · cases hloaded : h.row with
      | none =>
        rw [writer_of_row_eq_none hloaded]
        exact hs.consistent _ old hold
      | some loaded =>
        obtain ⟨stored, hsto, hlater⟩ := hs.instances i h hh
        obtain rfl := some.inj (hsto.symm.trans hold)
        exact (writer_writes hloaded).consistent _ (hlater loaded hloaded)
          (hs.consistent _ _ hold)
    · exact hs.consistent p row hold
  instances j k hk := by
    rcases advance_handler_cases hk with ⟨rfl, hf⟩ | ⟨-, hk'⟩
    · obtain ⟨stored, hsto, hlater⟩ := hs.instances j h hh
      obtain ⟨row', hrow', hgrown⟩ := @advance_grows s j h _ stored hsto
      refine ⟨row', hf.package ▸ hrow', fun r hr ↦ ?_⟩
      rcases hf.row r hr with hkept | hloaded
      · exact (hlater r hkept).trans hgrown
      · obtain rfl := some.inj (hsto.symm.trans hloaded)
        exact hgrown
    · obtain ⟨stored, hsto, hlater⟩ := hs.instances j k hk'
      obtain ⟨row', hrow', hgrown⟩ := @advance_grows s i h _ stored hsto
      exact ⟨row', hrow', fun r hr ↦ (hlater r hr).trans hgrown⟩

theorem packageOrError_eq_some (h : packageOrError s p = some row) : s.packages p = some row := by
  rw [packageOrError] at h
  split at h
  · exact h
  · exact nomatch h

/-- A package that is created is new. -/
theorem create_grows (hnew : s.packages p = none) :
    Grows s { s with packages := update s.packages p (some new) } := by
  intro q row hrow
  have hne : q ≠ p := fun h ↦ nomatch (h ▸ hrow).symm.trans hnew
  exact ⟨row, (update_of_ne hne _ _).trans hrow, .refl row⟩

theorem RowInvariant.create (hs : RowInvariant s)
    (hnew : s.packages p = none) (hok : Consistent new) :
    RowInvariant { s with packages := update s.packages p (some new) } where
  consistent q row hrow := by
    rcases update_eq_some_iff.1 hrow with ⟨-, hrow'⟩ | ⟨-, hrow'⟩
    · exact some.inj hrow' ▸ hok
    · exact hs.consistent q row hrow'
  instances i h hh := by
    obtain ⟨stored, hsto, hlater⟩ := hs.instances i h hh
    obtain ⟨row', hrow', hgrown⟩ := create_grows hnew _ stored hsto
    exact ⟨row', hrow', fun r hr ↦ (hlater r hr).trans hgrown⟩

/-- The handler an event is about. -/
def Event.handler : Event → Option ℕ
  | .tick _ _ => none
  | .create _ _ _ _ _ => none
  | .recipient i _ _ => some i
  | .download i _ _ _ => some i
  | .unlock i _ _ _ _ => some i
  | .revoke i _ => some i
  | .delete i _ => some i
  | .sweep i _ _ => some i
  | .next i => some i
  | .fail i => some i

/-- A handler that a request or a sweep begins. It holds the row that is stored or nothing, and has
everything still ahead. -/
structure Begins (s : Gateway) (k : Handler) : Prop where
  stored : ∃ row, s.packages k.package = some row ∧ ∀ r, k.row = some r → r = row
  cookie : ∀ c, k.flow.cookie = some c → c < s.drawn ∧ k.row = s.packages k.package
  token : k.flow.token = none
  seen : k.flow.seen = none
  reading : k.flow ≠ .reading
  marking : ∀ seen now, k.flow ≠ .marking seen now
  rejected : ∀ a, k.flow ≠ .rejected a

/-- What an event does to the gateway. -/
inductive GatewayMove (s : Gateway) (e : Event) : Gateway → Prop
  | kept : GatewayMove s e s
  | ticked {wall mono : ℤ} (he : e = .tick wall mono) :
      GatewayMove s e { s with clock := s.clock + wall, monotonic := s.monotonic + mono }
  | created {p : ℕ} {new : SecureSendPackage} (hnew : s.packages p = none) (hok : Consistent new)
      (hcount : new.downloadCount = 0) :
      GatewayMove s e { s with packages := Function.update s.packages p (some new) }
  | begun {i : ℕ} {k : Handler} (he : e.handler = some i) (hfree : s.handlers i = none)
      (hk : Begins s k) : GatewayMove s e (s.put i (some k))
  | advanced {i : ℕ} {h : Handler} (he : e = .next i) (hh : s.handlers i = some h) :
      GatewayMove s e (advance s i h)
  | failed {i : ℕ} {h : Handler} (he : e = .fail i) (hh : s.handlers i = some h)
      (hreading : h.flow = .reading) : GatewayMove s e (s.put i none)

theorem known_lt {cookie : Option ℕ} {c : ℕ} (h : s.known cookie = some c) : c < s.drawn := by
  simpa using (filter_eq_some_iff.1 h).2

/-- A request begins with the row it has found, if there is one and the handler is free. -/
theorem begin_cases {found : Option SecureSendPackage} {flow : Flow}
    (he : e.handler = some i) (hfound : ∀ row, found = some row → s.packages p = some row)
    (hcookie : ∀ c, flow.cookie = some c → c < s.drawn) (htoken : flow.token = none)
    (hseen : flow.seen = none) (hreading : flow ≠ .reading)
    (hmarking : ∀ seen now, flow ≠ .marking seen now) (hrej : ∀ a, flow ≠ .rejected a) :
    GatewayMove s e (s.begin i p found flow) := by
  simp only [Gateway.begin]
  split
  next row hfree =>
    have hrow := hfound row rfl
    exact .begun he hfree ⟨⟨row, hrow, fun r hr ↦ (some.inj hr).symm⟩,
      fun c hc ↦ ⟨hcookie c hc, hrow.symm⟩, htoken, hseen, hreading, hmarking, hrej⟩
  · exact .kept

/-- **The steps of the gateway.** -/
theorem gatewayStep_cases (s : Gateway) (e : Event) : GatewayMove s e (gatewayStep s e) := by
  cases e with
  | tick wall mono => exact .ticked rfl
  | create p expiresAt oneDownloadOnly pin passphrase =>
    simp only [gatewayStep]
    split
    · exact .kept
    next hnew => exact .created hnew (.created _ _ _) rfl
  | recipient i p cookie =>
    exact begin_cases rfl (fun _ ↦ packageOrError_eq_some) (fun _ ↦ known_lt) rfl rfl (by simp)
      (by simp) (by simp)
  | download i p cookie csrf =>
    exact begin_cases rfl (fun _ ↦ packageOrError_eq_some) (fun _ ↦ known_lt) rfl rfl (by simp)
      (by simp) (by simp)
  | unlock i p address pin passphrase =>
    exact begin_cases rfl (fun _ ↦ packageOrError_eq_some) (by simp [Flow.cookie]) rfl rfl (by simp)
      (by simp) (by simp)
  | revoke i p =>
    exact begin_cases rfl (fun _ hrow ↦ (filter_eq_some_iff.1 hrow).1)
      (by simp [Flow.cookie]) rfl rfl (by simp) (by simp) (by simp)
  | delete i p =>
    exact begin_cases rfl (fun _ hrow ↦ hrow) (by simp [Flow.cookie]) rfl rfl (by simp) (by simp)
      (by simp)
  | sweep i p loaded =>
    simp only [gatewayStep]
    split
    next row hfree hrow =>
      split
      · refine .begun rfl hfree ⟨⟨row, hrow, fun r hr ↦ ?_⟩, by simp [Flow.cookie], rfl, rfl,
          by simp, by simp, by simp⟩
        replace hr : (if loaded = true then some row else none) = some r := hr
        split at hr
        · exact (some.inj hr).symm
        · exact absurd hr (by simp)
      · exact .kept
    · exact .kept
  | next i =>
    simp only [gatewayStep]
    split
    · exact .kept
    next h hh => exact .advanced rfl hh
  | fail i =>
    simp only [gatewayStep]
    split
    next hh => exact .failed rfl hh rfl
    · exact .kept

/-- A step leaves the other handlers where they are. -/
theorem GatewayMove.handlers (hmove : GatewayMove s e s')
    (hj : e.handler ≠ some j) : s'.handlers j = s.handlers j := by
  have hne : ∀ i, e.handler = some i → j ≠ i := fun i hi h ↦ hj (h ▸ hi)
  cases hmove with
  | kept => rfl
  | ticked _ => rfl
  | created _ _ _ => rfl
  | begun he _ _ => exact update_of_ne (hne _ he) _ _
  | advanced he _ => exact advance_handler_of_ne (hne _ (he ▸ rfl))
  | failed he _ _ => exact update_of_ne (hne _ (he ▸ rfl)) _ _

theorem gatewayStep_handlers (hj : e.handler ≠ some j) :
    (gatewayStep s e).handlers j = s.handlers j :=
  (gatewayStep_cases s e).handlers hj

/-- **No step takes back what closes a package.** -/
theorem GatewayMove.grows (hmove : GatewayMove s e s') : Grows s s' := by
  cases hmove with
  | created hnew _ _ => exact create_grows hnew
  | advanced _ _ => exact advance_grows
  | _ => exact .of_packages rfl

theorem RowInvariant.move (hs : RowInvariant s) (hmove : GatewayMove s e s') : RowInvariant s' := by
  cases hmove with
  | kept => exact hs
  | ticked _ => exact ⟨hs.consistent, hs.instances⟩
  | created hnew hok _ => exact hs.create hnew hok
  | begun _ _ hk =>
    obtain ⟨row, hrow, hsame⟩ := hk.stored
    exact hs.put ⟨row, hrow, fun r hr ↦ hsame r hr ▸ .refl r⟩
  | advanced _ hh => exact hs.advance hh
  | failed _ _ _ => exact hs.put_none

theorem GatewayInitial.rows (hs : GatewayInitial s) : RowInvariant s where
  consistent p _ hrow := nomatch (hs.packages p).symm.trans hrow
  instances i _ hh := nomatch (hs.handlers i).symm.trans hh

end Runs

end Kaya.SecureSend
