import Kaya.HA.Model
import Kaya.Library.Machine

/-!
# Secure Send: the recipient gateway

The handlers of `app/security_gateway.py` with the functions of `app/services/secure_send.py` they
rest on, and the routes of `app/routers/secure_send.py` that revoke and delete a package.

**Interleaving.** A handler is seen at its transactions. It works on an instance of the package row
(`Handler.row`): the query loads it, a commit expires it (`none`), and the next use of an attribute
loads it again. What is written at a commit are **the columns whose value the handler has changed on
its own instance** — `changed` — whatever the row has become since. The bulk `UPDATE` of
`revoke_recipient_sessions` acts on the sessions that its statement sees (`seen`), and its effect is
committed with the rest of the transaction.

**Names.** Access tokens and session tokens are drawn at random; here they are numbers. A session
token is named by its place in the order of drawing, and a cookie that names a token which is not
drawn yet names nothing.

**Outside.** `verify_password` accepts the material whose hash was stored; two clocks, the wall
clock and `time.monotonic`, both in microseconds, are moved from outside. The site setting that
switches the gateway off, the audit trail, the encrypted content and the notifications are left out,
and so are `logout` and the extension of a package's expiry.
-/

namespace Kaya.SecureSend

open Kaya.HA (DateTime seconds)

/-! ### The rows -/

/-- `SecureSendPackage.status`. -/
inductive Status
  | active
  | opened
  | downloaded
  | expired
  | revoked
  | deleted
  deriving DecidableEq

/-- `SecureSendPackage`. The credential is the material whose hash is stored. -/
structure SecureSendPackage where
  expiresAt : DateTime
  oneDownloadOnly : Bool
  credential : List Char
  status : Status := .active
  downloadCount : ℕ := 0
  failedAttempts : ℕ := 0
  lockedUntil : Option DateTime := none
  openedAt : Option DateTime := none
  authenticatedAt : Option DateTime := none
  downloadedAt : Option DateTime := none
  revokedAt : Option DateTime := none
  expiredAt : Option DateTime := none
  deletedAt : Option DateTime := none
  cleanedAt : Option DateTime := none
  deriving DecidableEq

/-- `SecureSendRecipientSession`. -/
structure RecipientSession where
  package : ℕ
  csrf : ℕ
  lastActivityAt : DateTime
  expiresAt : DateTime
  revokedAt : Option DateTime := none
  deriving DecidableEq

/-- `SESSION_MINUTES`, in seconds. -/
def sessionSeconds : ℕ := 900

/-- The value of a column after a commit: a column that the handler has not changed on its instance
is not written. -/
def changed {α : Type*} [DecidableEq α] (loaded new stored : α) : α :=
  if new = loaded then stored else new

/-! ### What may be accessed -/

/-- The answers of `safe_state`. -/
inductive SafeState
  | missing
  | revoked
  | expired
  | active
  deriving DecidableEq

/-- `safe_state`. -/
def safeState (row : Option SecureSendPackage) (now : DateTime) : SafeState :=
  match row with
  | none => .missing
  | some row =>
    if row.revokedAt.isSome ∨ row.status = .revoked then .revoked
    else if row.deletedAt.isSome ∨ row.status = .deleted then .missing
    else if row.oneDownloadOnly ∧ 1 ≤ row.downloadCount then .expired
    else if row.expiresAt ≤ now ∨ row.expiredAt.isSome ∨ row.status = .expired then .expired
    else .active

/-- `package_accessible`. -/
def packageAccessible (row : SecureSendPackage) (now : DateTime) : Bool :=
  row.status ≠ .expired ∧ row.status ≠ .revoked ∧ row.status ≠ .deleted ∧ row.revokedAt = none ∧
    row.deletedAt = none ∧ now < row.expiresAt ∧ row.cleanedAt = none

/-- `normalise_pin`. -/
def normalisePin (value : String) : List Char := value.toList.filter (!PyText.isSpace ·)

/-- `credential_material`, without the access token, which is that of the row. -/
def credentialMaterial (pin passphrase : String) : List Char :=
  normalisePin pin ++ Char.ofNat 0 :: PyText.stripChars passphrase.toList

/-! ### Handlers -/

/-- The statuses `clean_package_content` is called with. -/
inductive Cleaned
  | expired
  | deleted
  deriving DecidableEq

/-- The status a package is left with. -/
def Cleaned.status : Cleaned → Status
  | .expired => .expired
  | .deleted => .deleted

/-- Where a handler is. `seen` are the sessions that its bulk update has revoked, in a transaction
that is still open. -/
inductive Flow
  /-- `recipient`, after `package_or_error`. -/
  | recipient (cookie : Option ℕ)
  /-- `download_file` or `download_package`, after `package_or_error`. -/
  | download (cookie csrf : Option ℕ)
  /-- `active_recipient_session` has accepted the session; its commit is next. A download goes on
  with the token of its form. -/
  | accepted (token : ℕ) (checkedAt : DateTime) (csrf : Option (Option ℕ))
  /-- A download after that commit. -/
  | authorising (token : ℕ) (csrf : Option ℕ)
  /-- An authorised download reads the content. -/
  | reading
  /-- `mark_download` before its commit. -/
  | marking (seen : Option (ℕ → Bool)) (markedAt : DateTime)
  /-- `unlock`, after `package_or_error`. -/
  | unlocking (address pin passphrase : String)
  /-- `unlock` with wrong credentials, before its commit. -/
  | rejected (address : String)
  /-- `unlock` with the right credentials, before its first commit. -/
  | verified
  /-- `start_recipient_session`. -/
  | starting
  /-- `start_recipient_session` before its commit. -/
  | inserting (seen : ℕ → Bool) (startedAt : DateTime)
  /-- `revoke`, for an accessible package. -/
  | revoking
  /-- `revoke` before its commit. -/
  | withdrawing (seen : ℕ → Bool) (revokedAt : DateTime)
  /-- `clean_package_content`. -/
  | cleaning (status : Cleaned)
  /-- `clean_package_content` before its commit. -/
  | removing (status : Cleaned) (seen : ℕ → Bool) (cleanedAt : DateTime)

/-- A handler: its package, its instance of the row, where it is. -/
structure Handler where
  package : ℕ
  row : Option SecureSendPackage
  flow : Flow

/-- What the password check has been asked for a package, and the unlocks that succeeded. -/
inductive Attempt
  | wrong (attemptedAt : DateTime)
  | success (unlockedAt : DateTime)
  deriving DecidableEq

/-- The gateway. `drawn` counts the session tokens; `returned` and `log` record the downloads whose
content was sent and, newest first, the attempts on each package. -/
structure Gateway where
  clock : DateTime
  monotonic : ℤ
  packages : ℕ → Option SecureSendPackage
  sessions : ℕ → Option RecipientSession
  drawn : ℕ
  attempts : String → ℕ → List ℤ
  handlers : ℕ → Option Handler
  returned : List ℕ
  log : ℕ → List Attempt

namespace Gateway

variable (s : Gateway)

/-- The handler goes on, or ends. -/
def put (id : ℕ) (h : Option Handler) : Gateway :=
  { s with handlers := Function.update s.handlers id h }

/-- The row of a package is written. -/
def write (p : ℕ) (f : SecureSendPackage → SecureSendPackage) : Gateway :=
  { s with packages := Function.update s.packages p ((s.packages p).map f) }

/-- The sessions of a package that are not revoked. -/
def unrevoked (p n : ℕ) : Bool :=
  (s.sessions n).any fun session ↦ session.package = p ∧ session.revokedAt = none

/-- The bulk update of `revoke_recipient_sessions` is committed. -/
def revokeSessions (seen : ℕ → Bool) (now : DateTime) : Gateway :=
  { s with
    sessions := fun n ↦ (s.sessions n).map fun session ↦
      if seen n ∧ session.revokedAt = none then { session with revokedAt := some now }
      else session }

/-- The commit of `active_recipient_session`. -/
def touch (token : ℕ) (row : SecureSendPackage) (now : DateTime) : Gateway :=
  { s with
    sessions := Function.update s.sessions token ((s.sessions token).map fun session ↦
      { session with
        lastActivityAt := now, expiresAt := min row.expiresAt (now + seconds sessionSeconds) }) }

/-- The insertion of `start_recipient_session`. -/
def insertSession (p : ℕ) (row : SecureSendPackage) : Gateway :=
  { s with
    sessions := Function.update s.sessions s.drawn (some
      ⟨p, s.drawn, s.clock, min row.expiresAt (s.clock + seconds sessionSeconds), none⟩)
    drawn := s.drawn + 1 }

/-- The content is sent. -/
def sent (p : ℕ) : Gateway := { s with returned := p :: s.returned }

/-- An attempt is recorded. -/
def logged (p : ℕ) (attempt : Attempt) : Gateway :=
  { s with log := Function.update s.log p (attempt :: s.log p) }

/-- The failures of an address on a package. -/
def setAttempts (address : String) (p : ℕ) (values : List ℤ) : Gateway :=
  { s with
    attempts := Function.update s.attempts address
      (Function.update (s.attempts address) p values) }

end Gateway

/-! ### The functions of a handler -/

/-- `package_or_error`. -/
def packageOrError (s : Gateway) (p : ℕ) : Option SecureSendPackage :=
  if safeState (s.packages p) s.clock = .active then s.packages p else none

/-- The check of `active_recipient_session`: the token of the session that is accepted. -/
def activeRecipientSession (s : Gateway) (p : ℕ) (row : SecureSendPackage) (token : Option ℕ) :
    Option ℕ :=
  match token with
  | none => none
  | some n =>
    if !packageAccessible row s.clock then none
    else match s.sessions n with
    | none => none
    | some session =>
      if session.package ≠ p ∨ session.revokedAt.isSome ∨ session.expiresAt ≤ s.clock then none
      else some n

/-- `recipient`: the row as its first visit leaves it. -/
def openedBy (loaded : SecureSendPackage) (now : DateTime) (stored : SecureSendPackage) :
    SecureSendPackage :=
  { stored with openedAt := some now, status := changed loaded.status .opened stored.status }

/-- `mark_download`: the row as the download leaves it. -/
def markedBy (loaded : SecureSendPackage) (now : DateTime) (stored : SecureSendPackage) :
    SecureSendPackage :=
  { stored with
    downloadCount := loaded.downloadCount + 1
    downloadedAt := changed loaded.downloadedAt (some now) stored.downloadedAt
    status := changed loaded.status .downloaded stored.status }

/-- `attempt_limited`: the failures that count, and the answer. -/
def attemptLimited (s : Gateway) (address : String) (p : ℕ) (row : SecureSendPackage) :
    List ℤ × Bool :=
  let recent := (s.attempts address p).filter fun value ↦ s.monotonic - value < seconds 900
  (recent, 10 ≤ recent.length ∨ row.lockedUntil.any (s.clock < ·))

/-- The lock after so many failures. -/
def lockAfter (failed : ℕ) (now : DateTime) (loaded : Option DateTime) : Option DateTime :=
  if 10 ≤ failed then some (now + seconds 1800)
  else if 5 ≤ failed then some (now + seconds 300)
  else loaded

/-- `unlock`: the row as wrong credentials leave it. -/
def failedBy (loaded : SecureSendPackage) (now : DateTime) (stored : SecureSendPackage) :
    SecureSendPackage :=
  { stored with
    failedAttempts := loaded.failedAttempts + 1
    lockedUntil := changed loaded.lockedUntil
      (lockAfter (loaded.failedAttempts + 1) now loaded.lockedUntil) stored.lockedUntil }

/-- `unlock`: the row as the right credentials leave it. -/
def unlockedBy (loaded : SecureSendPackage) (now : DateTime) (stored : SecureSendPackage) :
    SecureSendPackage :=
  { stored with
    failedAttempts := changed loaded.failedAttempts 0 stored.failedAttempts
    lockedUntil := changed loaded.lockedUntil none stored.lockedUntil
    authenticatedAt := changed loaded.authenticatedAt (some now) stored.authenticatedAt }

/-- `revoke`: the row as it leaves it. -/
def revokedBy (loaded : SecureSendPackage) (now : DateTime) (stored : SecureSendPackage) :
    SecureSendPackage :=
  { stored with
    revokedAt := changed loaded.revokedAt (some now) stored.revokedAt
    status := changed loaded.status .revoked stored.status }

/-- `clean_package_content`: the row as it leaves it. -/
def cleanedBy (status : Cleaned) (loaded : SecureSendPackage) (now : DateTime)
    (stored : SecureSendPackage) : SecureSendPackage :=
  { stored with
    cleanedAt := changed loaded.cleanedAt (some now) stored.cleanedAt
    status := changed loaded.status status.status stored.status
    expiredAt := if status = .expired then
        changed loaded.expiredAt (some (loaded.expiredAt.getD now)) stored.expiredAt
      else stored.expiredAt
    deletedAt := if status = .deleted then
        changed loaded.deletedAt (some (loaded.deletedAt.getD now)) stored.deletedAt
      else stored.deletedAt }

/-- The sessions a download revokes. -/
def seenByDownload (s : Gateway) (p : ℕ) (row : SecureSendPackage) : Option (ℕ → Bool) :=
  if row.oneDownloadOnly then some (s.unrevoked p) else none

/-- The next step of a handler. -/
def advance (s : Gateway) (id : ℕ) (h : Handler) : Gateway :=
  let p := h.package
  match h.flow, h.row with
  | .recipient cookie, none => s.put id (some ⟨p, s.packages p, .recipient cookie⟩)
  | .recipient cookie, some row =>
    if row.openedAt = none then
      (s.write p (openedBy row s.clock)).put id (some ⟨p, none, .recipient cookie⟩)
    else match activeRecipientSession s p row cookie with
    | none => s.put id none
    | some token => s.put id (some ⟨p, some row, .accepted token s.clock none⟩)
  | .download cookie csrf, some row =>
    match activeRecipientSession s p row cookie with
    | none => s.put id none
    | some token => s.put id (some ⟨p, some row, .accepted token s.clock (some csrf)⟩)
  | .accepted token now csrf, some row =>
    (s.touch token row now).put id (csrf.map fun csrf ↦ ⟨p, none, .authorising token csrf⟩)
  | .authorising token csrf, _ =>
    match s.packages p, s.sessions token with
    | some row, some session =>
      if csrf ≠ some session.csrf then s.put id none
      else if row.oneDownloadOnly ∧ 1 ≤ row.downloadCount then s.put id none
      else s.put id (some ⟨p, some row, .reading⟩)
    | _, _ => s.put id none
  | .reading, some row =>
    s.put id (some ⟨p, some row, .marking (seenByDownload s p row) s.clock⟩)
  | .marking seen now, some row =>
    (((s.revokeSessions (seen.getD fun _ ↦ false) now).write p (markedBy row now)).sent p).put id
      none
  | .unlocking address pin passphrase, some row =>
    let limit := attemptLimited s address p row
    let pruned := s.setAttempts address p limit.1
    if limit.2 then pruned.put id none
    else if credentialMaterial pin passphrase = row.credential then
      pruned.put id (some ⟨p, some row, .verified⟩)
    else (pruned.logged p (.wrong s.clock)).put id (some ⟨p, some row, .rejected address⟩)
  | .rejected address, some row =>
    ((s.setAttempts address p (s.attempts address p ++ [s.monotonic])).write p
      (failedBy row s.clock)).put id none
  | .verified, some row =>
    ((s.write p (unlockedBy row s.clock)).logged p (.success s.clock)).put id
      (some ⟨p, none, .starting⟩)
  | .starting, _ =>
    s.put id (some ⟨p, s.packages p, .inserting (s.unrevoked p) s.clock⟩)
  | .inserting seen now, some row =>
    ((s.revokeSessions seen now).insertSession p row).put id none
  | .revoking, some row =>
    s.put id (some ⟨p, some row, .withdrawing (s.unrevoked p) s.clock⟩)
  | .withdrawing seen now, some row =>
    ((s.revokeSessions seen now).write p (revokedBy row now)).put id none
  | .cleaning status, row =>
    s.put id (some ⟨p, row.or (s.packages p), .removing status (s.unrevoked p) s.clock⟩)
  | .removing status seen now, some row =>
    ((s.revokeSessions seen now).write p (cleanedBy status row now)).put id none
  | _, none => s.put id none

/-! ### The machine -/

/-- An event: the clocks move, a package is created, a request arrives or a sweep finds a package,
a handler takes its next step, or a download cannot read its content. A sweep holds the row it has
read, or, after a commit for another package, none. -/
inductive Event
  | tick (wall mono : ℤ)
  | create (p : ℕ) (expiresAt : DateTime) (oneDownloadOnly : Bool) (pin passphrase : String)
  | recipient (id p : ℕ) (cookie : Option ℕ)
  | download (id p : ℕ) (cookie csrf : Option ℕ)
  | unlock (id p : ℕ) (address pin passphrase : String)
  | revoke (id p : ℕ)
  | delete (id p : ℕ)
  | sweep (id p : ℕ) (loaded : Bool)
  | next (id : ℕ)
  | fail (id : ℕ)

/-- The token a cookie names. -/
def Gateway.known (s : Gateway) (cookie : Option ℕ) : Option ℕ := cookie.filter (· < s.drawn)

/-- A new handler, under an identifier that is free. -/
def Gateway.begin (s : Gateway) (id p : ℕ) (row : Option SecureSendPackage) (flow : Flow) :
    Gateway :=
  match s.handlers id, row with
  | none, some row => s.put id (some ⟨p, some row, flow⟩)
  | _, _ => s

/-- The step function. -/
def gatewayStep (s : Gateway) : Event → Gateway
  | .tick wall mono => { s with clock := s.clock + wall, monotonic := s.monotonic + mono }
  | .create p expiresAt oneDownloadOnly pin passphrase =>
    match s.packages p with
    | some _ => s
    | none =>
      { s with packages := Function.update s.packages p (some
          { expiresAt, oneDownloadOnly, credential := credentialMaterial pin passphrase }) }
  | .recipient id p cookie => s.begin id p (packageOrError s p) (.recipient (s.known cookie))
  | .download id p cookie csrf =>
    s.begin id p (packageOrError s p) (.download (s.known cookie) csrf)
  | .unlock id p address pin passphrase =>
    s.begin id p (packageOrError s p) (.unlocking address pin passphrase)
  | .revoke id p =>
    s.begin id p ((s.packages p).filter (packageAccessible · s.clock)) .revoking
  | .delete id p => s.begin id p (s.packages p) (.cleaning .deleted)
  | .sweep id p loaded =>
    match s.handlers id, s.packages p with
    | none, some row =>
      if row.expiresAt ≤ s.clock ∧ row.cleanedAt = none then
        s.put id (some ⟨p, if loaded then some row else none, .cleaning .expired⟩)
      else s
    | _, _ => s
  | .next id =>
    match s.handlers id with
    | none => s
    | some h => advance s id h
  | .fail id =>
    match s.handlers id with
    | some ⟨_, _, .reading⟩ => s.put id none
    | _ => s

/-- Nothing has been sent yet. -/
structure GatewayInitial (s : Gateway) : Prop where
  packages : ∀ p, s.packages p = none
  sessions : ∀ n, s.sessions n = none
  drawn : s.drawn = 0
  handlers : ∀ id, s.handlers id = none
  returned : s.returned = []
  log : ∀ p, s.log p = []

/-- The gateway. -/
def gatewayMachine : Machine Gateway Event where
  init := GatewayInitial
  step := gatewayStep

/-- The gateway before its first package. -/
def emptyGateway : Gateway where
  clock := 0
  monotonic := 0
  packages _ := none
  sessions _ := none
  drawn := 0
  attempts _ _ := []
  handlers _ := none
  returned := []
  log _ := []

theorem emptyGateway_initial : GatewayInitial emptyGateway :=
  ⟨fun _ ↦ rfl, fun _ ↦ rfl, rfl, fun _ ↦ rfl, rfl, fun _ ↦ rfl⟩

/-! ### Projections -/

section Projections

variable (s : Gateway) (id p n : ℕ) (h : Option Handler) (row : SecureSendPackage) (now : DateTime)
  (f : SecureSendPackage → SecureSendPackage) (seen : ℕ → Bool) (attempt : Attempt)
  (address : String) (values : List ℤ)

@[simp] theorem put_packages : (s.put id h).packages = s.packages := rfl
@[simp] theorem put_handlers : (s.put id h).handlers = Function.update s.handlers id h := rfl

@[simp] theorem write_packages :
    (s.write p f).packages = Function.update s.packages p ((s.packages p).map f) := rfl
@[simp] theorem write_handlers : (s.write p f).handlers = s.handlers := rfl

@[simp] theorem revokeSessions_packages : (s.revokeSessions seen now).packages = s.packages := rfl
@[simp] theorem revokeSessions_handlers : (s.revokeSessions seen now).handlers = s.handlers := rfl

@[simp] theorem touch_packages : (s.touch n row now).packages = s.packages := rfl
@[simp] theorem touch_handlers : (s.touch n row now).handlers = s.handlers := rfl

@[simp] theorem insertSession_packages : (s.insertSession p row).packages = s.packages := rfl
@[simp] theorem insertSession_handlers : (s.insertSession p row).handlers = s.handlers := rfl

@[simp] theorem sent_packages : (s.sent p).packages = s.packages := rfl
@[simp] theorem sent_handlers : (s.sent p).handlers = s.handlers := rfl

@[simp] theorem logged_packages : (s.logged p attempt).packages = s.packages := rfl
@[simp] theorem logged_handlers : (s.logged p attempt).handlers = s.handlers := rfl

@[simp] theorem setAttempts_packages : (s.setAttempts address p values).packages = s.packages := rfl
@[simp] theorem setAttempts_handlers : (s.setAttempts address p values).handlers = s.handlers := rfl

end Projections

end Kaya.SecureSend
