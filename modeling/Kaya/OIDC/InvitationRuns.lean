import Kaya.OIDC.Takeover

/-!
# An invitation works at most once

Sessions read rows at one time and write at another. A claim, a revocation and a completion are one
conditional `UPDATE` each, so that whatever a session has read, its condition is evaluated on the
row of the invitation as it is. Hence, in every history: an invitation is claimed at most once; it
is settled — completed or revoked — at most once; it is completed only while it is claimed,
unrevoked and unexpired; and an identity comes from an invitation only in the transaction that
completes one.

The bindings are different. What the condition compares the two hashes with is computed in the
session, from the rows of the recipient and of the provider that it has read. A recipient whose row
changes after that read is linked all the same (`not_invitationLaws`). The invitation is completed
for the rows as they are where each confirmation has read rows whose bindings are still the same
(`invitationLaws`).
-/

namespace Kaya.OIDC

open Table Option

/-- The database, and what each session has read of it. -/
structure LinkState where
  db : Database
  views : ℕ → Database

/-- The date columns of an invitation. -/
def OIDCLinkInvitation.dates (invitation : OIDCLinkInvitation) : Option ℤ × Option ℤ × Option ℤ :=
  (invitation.usedAt, invitation.completedAt, invitation.revokedAt)

/-- The invitation waits to be claimed or completed. -/
def OIDCLinkInvitation.isOpen (invitation : OIDCLinkInvitation) : Bool :=
  invitation.completedAt.isNone && invitation.revokedAt.isNone

section Source

variable (lib : LinkLibrary)

/-- The open invitations of a user for a provider are revoked. -/
def revokeOpen (invitations : Table OIDCLinkInvitation) (now : ℤ) (userId providerId : ℕ) :
    Table OIDCLinkInvitation :=
  invitations.mapRows fun _ invitation ↦
    if invitation.userId = userId ∧ invitation.providerId = providerId ∧ invitation.isOpen then
      invitation.revoked now
    else invitation

/-- `create_link_invitation`. -/
def createLinkInvitation (db : Database) (now : ℤ) (userId providerId createdByUserId : ℕ) :
    Database :=
  match db.users.get? userId, db.providers.get? providerId with
  | some target, some provider =>
    if provider.isEnabled ∧ target.isActive ∧ target.passwordHash.any (· ≠ []) ∧
        ¬ db.identities.exists? fun identity ↦ identity.providerUser = (providerId, userId) then
      { db with
        invitations := (revokeOpen db.invitations now userId providerId).insert {
          userId := userId
          providerId := providerId
          createdByUserId := createdByUserId
          recipientBindingHash := invitationRecipientBinding lib userId target
          providerBindingHash := invitationProviderBinding lib providerId provider
          expiresAt := now + 30 * 60 * 1000000 } }
    else db
  | _, _ => db

/-- `open_link_invitation`, of its one column. -/
def openLinkInvitation (db : Database) (invitationId : ℕ) (sessionHash : Text) : Database :=
  { db with
    invitations := db.invitations.modify invitationId fun invitation ↦
      { invitation with redemptionSessionHash := some sessionHash } }

namespace LinkState

/-- A session reads. -/
def read (s : LinkState) (session : ℕ) (f : Database → Database) : LinkState :=
  { s with views := Function.update s.views session (f (s.views session)) }

/-- A session writes. -/
def write (s : LinkState) (db : Database) : LinkState := { s with db := db }

/-- The claim of a session, where it succeeds. -/
def claim (s : LinkState) (session invitationId userId : ℕ) (now : ℤ) :
    Option (Table OIDCLinkInvitation) :=
  let view := s.views session
  match view.invitations.get? invitationId, view.users.get? userId with
  | some loaded, some user =>
    claimAdminLinkInvitation lib s.db.invitations invitationId loaded userId user
      (view.providers.get? loaded.providerId) now
  | _, _ => none

end LinkState

/-- What sessions do. -/
inductive InvitationEvent
  /-- A session reads the rows of users. -/
  | readUsers (session : ℕ)
  /-- A session reads the rows of providers. -/
  | readProviders (session : ℕ)
  /-- A session reads the rows of transactions. -/
  | readTransactions (session : ℕ)
  /-- A session reads the rows of invitations. -/
  | readInvitations (session : ℕ)
  /-- `claim_admin_link_invitation`. -/
  | claim (session invitationId userId : ℕ) (now : ℤ)
  /-- `revoke_admin_link_invitation`. -/
  | revoke (invitationId : ℕ) (now : ℤ)
  /-- `resolve_login`. -/
  | resolveLogin (session : ℕ) (clock : Clock) (providerId transactionId : ℕ) (claims : Json)
  /-- `confirm_transaction_link`. -/
  | confirm (session : ℕ) (clock : Clock) (transactionId : ℕ) (currentUser : Option ℕ)
      (passwordVerified : Bool)
  /-- The records of users and providers change. -/
  | changeRecords (users : Table User) (providers : Table OIDCProvider)
  /-- Transactions begin, change and end. -/
  | changeTransactions (transactions : Table OIDCTransaction)
  /-- `create_link_invitation`. -/
  | invite (now : ℤ) (userId providerId createdByUserId : ℕ)
  /-- `open_link_invitation`. -/
  | openInvitation (invitationId : ℕ) (sessionHash : Text)
  /-- Identities are deleted. -/
  | unlink (identityIds : List ℕ)

/-- The state after an event. -/
def invitationStep (s : LinkState) : InvitationEvent → LinkState
  | .readUsers session => s.read session fun view ↦ { view with users := s.db.users }
  | .readProviders session => s.read session fun view ↦ { view with providers := s.db.providers }
  | .readTransactions session =>
    s.read session fun view ↦ { view with transactions := s.db.transactions }
  | .readInvitations session =>
    s.read session fun view ↦ { view with invitations := s.db.invitations }
  | .claim session invitationId userId now =>
    s.write ((s.claim lib session invitationId userId now).elim s.db fun invitations ↦
      { s.db with invitations := invitations })
  | .revoke invitationId now =>
    s.write ((revokeAdminLinkInvitation s.db.invitations invitationId now).elim s.db
      fun invitations ↦ { s.db with invitations := invitations })
  | .resolveLogin session clock providerId transactionId claims =>
    let view := s.views session
    match view.providers.get? providerId, view.transactions.get? transactionId with
    | some provider, some transaction =>
      s.write (resolveLogin lib view s.db clock providerId provider transactionId transaction
        claims).1
    | _, _ => s
  | .confirm session clock transactionId currentUser passwordVerified =>
    let view := s.views session
    match view.transactions.get? transactionId with
    | some transaction =>
      s.write (confirmTransactionLink lib view s.db clock transaction currentUser
        passwordVerified).1
    | none => s
  | .changeRecords users providers => s.write { s.db with users := users, providers := providers }
  | .changeTransactions transactions => s.write { s.db with transactions := transactions }
  | .invite now userId providerId createdByUserId =>
    s.write (createLinkInvitation lib s.db now userId providerId createdByUserId)
  | .openInvitation invitationId sessionHash =>
    s.write (openLinkInvitation s.db invitationId sessionHash)
  | .unlink identityIds =>
    s.write { s.db with identities := s.db.identities.delete identityIds }

/-- Sessions at work, from any state. -/
def invitationMachine : Machine LinkState InvitationEvent where
  init _ := True
  step := invitationStep lib

/-! ### The laws -/

/-- The step changes a column of an invitation. -/
def Writes {α : Type} [DecidableEq α] (column : OIDCLinkInvitation → α) (invitationId : ℕ)
    (t : LinkState × InvitationEvent) : Bool :=
  invitationId ∈ t.1.db.invitations.ids &&
    column ((invitationStep lib t.1 t.2).db.invitations.row invitationId) ≠
      column (t.1.db.invitations.row invitationId)

/-- The step is a claim that succeeds. -/
def Claims (invitationId : ℕ) (t : LinkState × InvitationEvent) : Prop :=
  ∃ session userId now, t.2 = .claim session invitationId userId now ∧
    (t.1.claim lib session invitationId userId now).isSome = true

/-- The invitation is claimed, open and unexpired, and bound to the rows of the recipient and of the
provider as they are. -/
def MayComplete (db : Database) (now : ℤ) (invitation : OIDCLinkInvitation) : Prop :=
  ∃ user provider, db.users.get? invitation.userId = some user ∧
    db.providers.get? invitation.providerId = some provider ∧
      Completable lib invitation.userId user invitation.providerId provider now invitation

/-- What a history does to invitations. -/
structure InvitationLaws (h : List (LinkState × InvitationEvent)) : Prop where
  /-- A claim that succeeds is one of the column. -/
  claims : ∀ invitationId, ∀ t ∈ h, Claims lib invitationId t →
    Writes lib OIDCLinkInvitation.usedAt invitationId t = true
  /-- An invitation is claimed at most once. -/
  claimedOnce : ∀ invitationId, h.countP (Writes lib OIDCLinkInvitation.usedAt invitationId) ≤ 1
  /-- It is completed or revoked, and at most once. -/
  settledOnce : ∀ invitationId, h.countP (fun t ↦
    Writes lib OIDCLinkInvitation.completedAt invitationId t ||
      Writes lib OIDCLinkInvitation.revokedAt invitationId t) ≤ 1
  /-- It is completed only where it may be. -/
  completion : ∀ invitationId, ∀ t ∈ h,
    Writes lib OIDCLinkInvitation.completedAt invitationId t = true →
      ∃ now, ((invitationStep lib t.1 t.2).db.invitations.row invitationId).completedAt =
        some now ∧ MayComplete lib t.1.db now (t.1.db.invitations.row invitationId)
  /-- An identity comes from an invitation only where one is completed. -/
  identity : ∀ t ∈ h, ∀ k ∈ (invitationStep lib t.1 t.2).db.identities.ids,
    k ∉ t.1.db.identities.ids →
      ((invitationStep lib t.1 t.2).db.identities.row k).linkMethod = "admin_invitation" →
        ∃ invitationId, Writes lib OIDCLinkInvitation.completedAt invitationId t = true ∧
          ((invitationStep lib t.1 t.2).db.identities.row k).providerUser =
            ((t.1.db.invitations.row invitationId).providerId,
              (t.1.db.invitations.row invitationId).userId)

/-- A session that confirms an administrator's link has read rows of the recipient and of the
provider whose bindings are still the same. -/
def CopiesCurrent (s : LinkState) : InvitationEvent → Prop
  | .confirm session _ transactionId _ _ =>
    ∀ transaction ∈ (s.views session).transactions.get? transactionId,
      transaction.flowType = .adminLink → ∀ target ∈ (s.views session).target transaction,
          ∀ provider ∈ (s.views session).providers.get? transaction.providerId,
            (s.db.users.get? target.1).map (invitationRecipientBinding lib target.1) =
                some (invitationRecipientBinding lib target.1 target.2) ∧
              (s.db.providers.get? transaction.providerId).map
                  (invitationProviderBinding lib transaction.providerId) =
                some (invitationProviderBinding lib transaction.providerId provider)
  | _ => True

instance (s : LinkState) : DecidablePred (CopiesCurrent lib s)
  | .confirm session _ transactionId _ _ =>
    inferInstanceAs (Decidable (∀ transaction ∈ (s.views session).transactions.get? transactionId,
      transaction.flowType = .adminLink → ∀ target ∈ (s.views session).target transaction,
          ∀ provider ∈ (s.views session).providers.get? transaction.providerId,
            (s.db.users.get? target.1).map (invitationRecipientBinding lib target.1) =
                some (invitationRecipientBinding lib target.1 target.2) ∧
              (s.db.providers.get? transaction.providerId).map
                  (invitationProviderBinding lib transaction.providerId) =
                some (invitationProviderBinding lib transaction.providerId provider)))
  | .readUsers _ | .readProviders _ | .readTransactions _ | .readInvitations _ | .claim .. |
    .revoke .. | .resolveLogin .. | .changeRecords .. | .changeTransactions _ | .invite .. |
    .openInvitation .. | .unlink _ => inferInstanceAs (Decidable True)

end Source

/-! ### One step -/

variable {lib : LinkLibrary} {s : LinkState} {e : InvitationEvent} {invitationId userId : ℕ}
  {now : ℤ} {invitation a b : OIDCLinkInvitation} {after : Database} {clock : Clock}
  {transaction : OIDCTransaction} {confirmation : Confirmation}

/-- The step completes the invitation. -/
def CompletedBy (lib : LinkLibrary) (s : LinkState) (e : InvitationEvent) (invitationId : ℕ) :
    Prop :=
  ∃ session clock transactionId currentUser passwordVerified transaction confirmation,
    e = .confirm session clock transactionId currentUser passwordVerified ∧
      (s.views session).transactions.get? transactionId = some transaction ∧
      Checked lib (s.views session) clock.now transaction currentUser passwordVerified
        confirmation ∧
      LinksByInvitation lib s.db (invitationStep lib s e).db clock transaction confirmation
        invitationId

/-- What a step may do to the row of an invitation. -/
inductive RowStep (lib : LinkLibrary) (s : LinkState) (e : InvitationEvent) (invitationId : ℕ)
    (after : OIDCLinkInvitation) : Prop
  | kept (h : after.dates = (s.db.invitations.row invitationId).dates)
  | claimed (now : ℤ) (hunused : (s.db.invitations.row invitationId).usedAt = none)
      (h : after = (s.db.invitations.row invitationId).claimed now)
  | revoked (now : ℤ) (hopen : (s.db.invitations.row invitationId).isOpen = true)
      (h : after = (s.db.invitations.row invitationId).revoked now)
  | completed (now : ℤ) (hopen : (s.db.invitations.row invitationId).isOpen = true)
      (hby : CompletedBy lib s e invitationId)
      (h : after = (s.db.invitations.row invitationId).completed now)

theorem isOpen_of_revocable (h : Revocable now invitation) : invitation.isOpen = true := by
  rw [OIDCLinkInvitation.isOpen, h.1, h.2.1]
  rfl

theorem isOpen_of_completable {providerId : ℕ} {user : User} {provider : OIDCProvider}
    (h : Completable lib userId user providerId provider now invitation) :
    invitation.isOpen = true := by
  obtain ⟨-, -, -, -, hcompl, hrevoked, -⟩ := h
  rw [OIDCLinkInvitation.isOpen, hcompl, hrevoked]
  rfl

/-- A claim that succeeds is of an invitation that has not been claimed. -/
theorem claim_eq_some {session : ℕ} {invitations : Table OIDCLinkInvitation}
    (h : s.claim lib session invitationId userId now = some invitations) :
    (s.db.invitations.row invitationId).usedAt = none ∧ invitationId ∈ s.db.invitations.ids ∧
      invitations = s.db.invitations.modify invitationId (.claimed now) := by
  dsimp only [LinkState.claim] at h
  split at h
  next loaded user _ _ =>
    simp only [claimAdminLinkInvitation] at h
    split at h
    next =>
      obtain ⟨⟨hmem, -, -, -, hunused, -⟩, rfl⟩ := (updateIf_eq_some _).1 h
      exact ⟨hunused, hmem, rfl⟩
    next => exact absurd h (by simp)
  next => exact absurd h (by simp)

theorem rowStep_of_eq {after : OIDCLinkInvitation}
    (h : after = s.db.invitations.row invitationId) : RowStep lib s e invitationId after :=
  .kept (congrArg OIDCLinkInvitation.dates h)

theorem kept_of_eq {db : Database} (hmem : invitationId ∈ s.db.invitations.ids)
    (h : db.invitations = s.db.invitations) :
    invitationId ∈ db.invitations.ids ∧
      RowStep lib s e invitationId (db.invitations.row invitationId) := by
  rw [h]
  exact ⟨hmem, rowStep_of_eq rfl⟩

variable (lib e) in
/-- The row of an invitation in a step. -/
theorem rowStep (hmem : invitationId ∈ s.db.invitations.ids) :
    invitationId ∈ (invitationStep lib s e).db.invitations.ids ∧ RowStep lib s e invitationId
        ((invitationStep lib s e).db.invitations.row invitationId) := by
  cases e with
  | claim session claimedId userId now =>
    rw [invitationStep]
    cases hclaim : s.claim lib session claimedId userId now with
    | none => exact ⟨hmem, rowStep_of_eq rfl⟩
    | some invitations =>
      obtain ⟨hunused, -, rfl⟩ := claim_eq_some hclaim
      refine ⟨hmem, ?_⟩
      by_cases heq : invitationId = claimedId
      · subst heq
        exact .claimed now hunused (modify_row_self _ _ _)
      · exact rowStep_of_eq (modify_row_of_ne _ heq _)
  | revoke revokedId now =>
    rw [invitationStep]
    cases hrevoke : revokeAdminLinkInvitation s.db.invitations revokedId now with
    | none => exact ⟨hmem, rowStep_of_eq rfl⟩
    | some invitations =>
      obtain ⟨⟨-, hrevocable⟩, rfl⟩ := (updateIf_eq_some _).1 hrevoke
      refine ⟨hmem, ?_⟩
      by_cases heq : invitationId = revokedId
      · subst heq
        exact .revoked now (isOpen_of_revocable hrevocable) (modify_row_self _ _ _)
      · exact rowStep_of_eq (modify_row_of_ne _ heq _)
  | resolveLogin session clock providerId transactionId claims =>
    dsimp only [invitationStep]
    split
    next => exact kept_of_eq hmem resolveLogin_invitations
    next => exact kept_of_eq hmem rfl
  | confirm session clock transactionId currentUser passwordVerified =>
    dsimp only [invitationStep]
    split
    next transaction htx =>
      rcases confirmTransactionLink_cases lib (s.views session) s.db clock transaction currentUser
          passwordVerified with
        ⟨-, hsame⟩ | ⟨confirmation, hchecked, huser | ⟨completedId, hinvited⟩⟩
      · exact kept_of_eq hmem hsame
      · exact kept_of_eq hmem huser.invitations
      · rw [LinkState.write, hinvited.invitations]
        refine ⟨hmem, ?_⟩
        by_cases heq : invitationId = completedId
        · subst heq
          have hdb : (invitationStep lib s (.confirm session clock transactionId currentUser
              passwordVerified)).db = (confirmTransactionLink lib (s.views session) s.db clock
                transaction currentUser passwordVerified).1 := by
            simp only [invitationStep, htx, LinkState.write]
          exact .completed clock.later (isOpen_of_completable hinvited.completable)
            ⟨session, clock, transactionId, currentUser, passwordVerified, transaction,
              confirmation, rfl, htx, hchecked, hdb ▸ hinvited⟩ (modify_row_self _ _ _)
        · exact rowStep_of_eq (modify_row_of_ne _ heq _)
    next => exact kept_of_eq hmem rfl
  | invite now userId providerId createdByUserId =>
    rw [invitationStep]
    dsimp only [LinkState.write, createLinkInvitation]
    split
    next =>
      split
      next =>
        have hkept : invitationId ∈ (revokeOpen s.db.invitations now userId providerId).ids := hmem
        refine ⟨List.mem_append_left _ hmem, ?_⟩
        dsimp only
        rw [insert_row_of_mem _ _ hkept, revokeOpen, mapRows_row, if_pos hmem]
        split
        next hopen => exact .revoked now hopen.2.2 rfl
        next => exact rowStep_of_eq rfl
      next => exact ⟨hmem, rowStep_of_eq rfl⟩
    next => exact ⟨hmem, rowStep_of_eq rfl⟩
  | openInvitation openedId sessionHash =>
    refine ⟨hmem, .kept ?_⟩
    rw [invitationStep, LinkState.write, openLinkInvitation, modify_row]
    split <;> rfl
  | _ => exact ⟨hmem, rowStep_of_eq rfl⟩

/-! ### Columns that are written -/

theorem writes_iff {α : Type} [DecidableEq α] {column : OIDCLinkInvitation → α} :
    Writes lib column invitationId (s, e) = true ↔ invitationId ∈ s.db.invitations.ids ∧
      column ((invitationStep lib s e).db.invitations.row invitationId) ≠
        column (s.db.invitations.row invitationId) := by
  rw [Writes, Bool.and_eq_true, decide_eq_true_eq, decide_eq_true_eq]

/-- The invitation has been claimed. -/
def isClaimed (invitationId : ℕ) (s : LinkState) : Bool :=
  invitationId ∈ s.db.invitations.ids && (s.db.invitations.row invitationId).usedAt.isSome

/-- The invitation has been completed or revoked. -/
def isSettled (invitationId : ℕ) (s : LinkState) : Bool :=
  invitationId ∈ s.db.invitations.ids && !(s.db.invitations.row invitationId).isOpen

theorem isClaimed_iff : isClaimed invitationId s = true ↔ invitationId ∈ s.db.invitations.ids ∧
      (s.db.invitations.row invitationId).usedAt.isSome = true := by
  rw [isClaimed, Bool.and_eq_true, decide_eq_true_eq]

theorem isSettled_iff : isSettled invitationId s = true ↔ invitationId ∈ s.db.invitations.ids ∧
      (s.db.invitations.row invitationId).isOpen = false := by
  rw [isSettled, Bool.and_eq_true, decide_eq_true_eq, Bool.not_eq_true']

theorem isOpen_of_dates (h : a.dates = b.dates) : a.isOpen = b.isOpen := by
  rw [OIDCLinkInvitation.dates, OIDCLinkInvitation.dates, Prod.mk.injEq, Prod.mk.injEq] at h
  rw [OIDCLinkInvitation.isOpen, OIDCLinkInvitation.isOpen, h.2.1, h.2.2]

theorem usedAt_of_dates (h : a.dates = b.dates) : a.usedAt = b.usedAt :=
  congrArg Prod.fst h

/-- A claim is of an invitation that has not been claimed. -/
theorem isClaimed_of_writes (h : Writes lib OIDCLinkInvitation.usedAt invitationId (s, e) = true) :
    isClaimed invitationId s = false ∧ isClaimed invitationId (invitationStep lib s e) = true := by
  obtain ⟨hmem, hchange⟩ := writes_iff.1 h
  obtain ⟨hafter, hrow⟩ := rowStep lib e hmem
  cases hrow with
  | kept hdates => exact absurd (usedAt_of_dates hdates) hchange
  | claimed now hunused hrow =>
    refine ⟨?_, isClaimed_iff.2 ⟨hafter, by rw [hrow]; rfl⟩⟩
    rw [isClaimed, hunused, isSome_none, Bool.and_false]
  | revoked now _ hrow => exact absurd (congrArg OIDCLinkInvitation.usedAt hrow) hchange
  | completed now _ _ hrow => exact absurd (congrArg OIDCLinkInvitation.usedAt hrow) hchange

theorem isClaimed_step (h : isClaimed invitationId s = true) :
    isClaimed invitationId (invitationStep lib s e) = true := by
  obtain ⟨hmem, hused⟩ := isClaimed_iff.1 h
  obtain ⟨hafter, hrow⟩ := rowStep lib e hmem
  refine isClaimed_iff.2 ⟨hafter, ?_⟩
  cases hrow with
  | kept hdates => rwa [usedAt_of_dates hdates]
  | claimed now _ hrow => rw [hrow]; rfl
  | revoked now _ hrow => rwa [hrow]
  | completed now _ _ hrow => rwa [hrow]

/-- A completion or a revocation is of an open invitation. -/
theorem isSettled_of_writes
    (h : (Writes lib OIDCLinkInvitation.completedAt invitationId (s, e) ||
      Writes lib OIDCLinkInvitation.revokedAt invitationId (s, e)) = true) :
    isSettled invitationId s = false ∧ isSettled invitationId (invitationStep lib s e) = true := by
  rw [Bool.or_eq_true, writes_iff, writes_iff, ← and_or_left] at h
  obtain ⟨hmem, hchange⟩ := h
  obtain ⟨hafter, hrow⟩ := rowStep lib e hmem
  have hdown : (s.db.invitations.row invitationId).isOpen = true →
      isSettled invitationId s = false := fun hopen ↦ by
    rw [isSettled, hopen, Bool.not_true, Bool.and_false]
  cases hrow with
  | kept hdates =>
    have hboth := congrArg Prod.snd hdates
    rcases hchange with hchange | hchange
    · exact absurd (congrArg Prod.fst hboth) hchange
    · exact absurd (congrArg Prod.snd hboth) hchange
  | claimed now _ hrow =>
    rcases hchange with hchange | hchange
    · exact absurd (congrArg OIDCLinkInvitation.completedAt hrow) hchange
    · exact absurd (congrArg OIDCLinkInvitation.revokedAt hrow) hchange
  | revoked now hopen hrow =>
    exact ⟨hdown hopen, isSettled_iff.2 ⟨hafter, by rw [hrow]; exact Bool.and_false _⟩⟩
  | completed now hopen _ hrow =>
    exact ⟨hdown hopen, isSettled_iff.2 ⟨hafter, by rw [hrow]; exact Bool.false_and _⟩⟩

theorem isSettled_step (h : isSettled invitationId s = true) :
    isSettled invitationId (invitationStep lib s e) = true := by
  obtain ⟨hmem, hsettled⟩ := isSettled_iff.1 h
  obtain ⟨hafter, hrow⟩ := rowStep lib e hmem
  refine isSettled_iff.2 ⟨hafter, ?_⟩
  cases hrow with
  | kept hdates => rwa [isOpen_of_dates hdates]
  | claimed now _ hrow => rwa [hrow]
  | revoked now hopen _ => exact absurd (hopen.symm.trans hsettled) (by simp)
  | completed now hopen _ _ => exact absurd (hopen.symm.trans hsettled) (by simp)

/-! ### Completions -/

theorem writes_of_linksByInvitation
    (h : LinksByInvitation lib s.db (invitationStep lib s e).db clock transaction confirmation
      invitationId) : Writes lib OIDCLinkInvitation.completedAt invitationId (s, e) = true := by
  obtain ⟨-, -, -, -, hcompl, -⟩ := h.completable
  refine writes_iff.2 ⟨h.mem, ?_⟩
  rw [h.invitations, modify_row_self, hcompl]
  simp [OIDCLinkInvitation.completed]

/-- What was checked on a session's copies holds of the rows, where their bindings are the same. -/
theorem mayComplete_of_linksByInvitation
    (h : LinksByInvitation lib s.db after clock transaction confirmation invitationId)
    (huser : (s.db.users.get? confirmation.target.1).map
        (invitationRecipientBinding lib confirmation.target.1) =
      some (invitationRecipientBinding lib confirmation.target.1 confirmation.target.2))
    (hprov : (s.db.providers.get? transaction.providerId).map
        (invitationProviderBinding lib transaction.providerId) =
      some (invitationProviderBinding lib transaction.providerId confirmation.provider)) :
    MayComplete lib s.db clock.later (s.db.invitations.row invitationId) := by
  obtain ⟨huserId, hproviderId, hbound, hrest⟩ := h.completable
  obtain ⟨user, hgetUser, hsameUser⟩ := map_eq_some_iff.1 huser
  obtain ⟨provider, hgetProvider, hsameProvider⟩ := map_eq_some_iff.1 hprov
  refine ⟨user, provider, huserId ▸ hgetUser, hproviderId ▸ hgetProvider, rfl, rfl, ?_, hrest⟩
  rw [huserId, hproviderId]
  exact ⟨hbound.1.trans hsameUser.symm, hbound.2.trans hsameProvider.symm⟩

theorem completedBy_of_writes
    (h : Writes lib OIDCLinkInvitation.completedAt invitationId (s, e) = true) :
    CompletedBy lib s e invitationId := by
  obtain ⟨hmem, hchange⟩ := writes_iff.1 h
  obtain ⟨-, hrow⟩ := rowStep lib e hmem
  cases hrow with
  | kept hdates =>
    exact absurd (congrArg (fun dates : Option ℤ × Option ℤ × Option ℤ ↦ dates.2.1) hdates) hchange
  | claimed now _ hrow => exact absurd (congrArg OIDCLinkInvitation.completedAt hrow) hchange
  | revoked now _ hrow => exact absurd (congrArg OIDCLinkInvitation.completedAt hrow) hchange
  | completed now _ hby _ => exact hby

/-- A completion on current copies is of an invitation that may be completed. -/
theorem mayComplete_of_writes
    (h : Writes lib OIDCLinkInvitation.completedAt invitationId (s, e) = true)
    (hcur : CopiesCurrent lib s e) :
    ∃ now, ((invitationStep lib s e).db.invitations.row invitationId).completedAt = some now ∧
      MayComplete lib s.db now (s.db.invitations.row invitationId) := by
  obtain ⟨session, clock, transactionId, currentUser, passwordVerified, transaction, confirmation,
    rfl, htx, hchecked, hinvited⟩ := completedBy_of_writes h
  obtain ⟨huser, hprov⟩ := hcur transaction htx hinvited.flow confirmation.target
    hchecked.target confirmation.provider hchecked.provider
  refine ⟨clock.later, ?_, mayComplete_of_linksByInvitation hinvited huser hprov⟩
  rw [hinvited.invitations, modify_row_self]
  rfl

/-- What a step may do to links. -/
inductive LinkStep (lib : LinkLibrary) (s : LinkState) (e : InvitationEvent) (after : Database) :
    Prop
  | deleted (identityIds : List ℕ) (h : after.links = s.db.links.delete identityIds)
  | grows (h : Grows s.db.links after.links fun link ↦ link.linkMethod ≠ "admin_invitation")
  | invited (clock : Clock) (transaction : OIDCTransaction) (confirmation : Confirmation)
      (invitationId : ℕ)
      (h : LinksByInvitation lib s.db after clock transaction confirmation invitationId)

theorem linkStep_of_eq (h : after.links = s.db.links) : LinkStep lib s e after :=
  .grows (.inl h)

variable (lib s e) in
/-- What a step does to the links. -/
theorem linkStep_invitationStep : LinkStep lib s e (invitationStep lib s e).db := by
  cases e with
  | unlink identityIds => exact .deleted identityIds map_delete
  | claim session claimedId userId now =>
    rw [invitationStep]
    cases s.claim lib session claimedId userId now <;> exact linkStep_of_eq rfl
  | revoke revokedId now =>
    rw [invitationStep]
    cases revokeAdminLinkInvitation s.db.invitations revokedId now <;> exact linkStep_of_eq rfl
  | invite now userId providerId createdByUserId =>
    refine linkStep_of_eq ?_
    dsimp only [invitationStep, LinkState.write, createLinkInvitation]
    split
    next => split <;> rfl
    next => rfl
  | resolveLogin session clock providerId transactionId claims =>
    dsimp only [invitationStep]
    split
    next provider transaction _ _ =>
      obtain ⟨userId, hgrows, -⟩ := resolveLogin_links lib (s.views session) s.db clock providerId
        transactionId provider transaction claims
      exact .grows (hgrows.imp fun _ h ↦ h.2)
    next => exact linkStep_of_eq rfl
  | confirm session clock transactionId currentUser passwordVerified =>
    dsimp only [invitationStep]
    split
    next transaction _ =>
      rcases confirmTransactionLink_cases lib (s.views session) s.db clock transaction currentUser
          passwordVerified with
        ⟨hsame, -⟩ | ⟨confirmation, -, huser | ⟨completedId, hinvited⟩⟩
      · exact linkStep_of_eq hsame
      · exact .grows (huser.links.imp fun _ h ↦ h.2)
      · exact .invited clock transaction confirmation completedId hinvited
    next => exact linkStep_of_eq rfl
  | _ => exact linkStep_of_eq rfl

/-- An identity comes from an invitation only where one is completed. -/
theorem writes_of_new_identity {k : ℕ}
    (hk : k ∈ (invitationStep lib s e).db.identities.ids) (hnew : k ∉ s.db.identities.ids)
    (hmethod : ((invitationStep lib s e).db.identities.row k).linkMethod = "admin_invitation") :
    ∃ invitationId, Writes lib OIDCLinkInvitation.completedAt invitationId (s, e) = true ∧
      ((invitationStep lib s e).db.identities.row k).providerUser =
        ((s.db.invitations.row invitationId).providerId,
          (s.db.invitations.row invitationId).userId) := by
  cases linkStep_invitationStep lib s e with
  | deleted identityIds h =>
    have hids : k ∈ (s.db.links.delete identityIds).ids := h ▸ hk
    exact absurd (s.db.links.mem_delete.1 hids).1 hnew
  | grows h => exact absurd hmethod (h.of_new hk hnew)
  | invited clock transaction confirmation invitationId h =>
    obtain ⟨huserId, hproviderId, -⟩ := h.completable
    refine ⟨invitationId, writes_of_linksByInvitation h, ?_⟩
    rw [huserId, hproviderId]
    exact (h.links.of_new hk hnew).1

/-! ### Every history -/

theorem writes_of_claims (h : Claims lib invitationId (s, e)) :
    Writes lib OIDCLinkInvitation.usedAt invitationId (s, e) = true := by
  obtain ⟨session, userId, now, rfl, hsome⟩ := h
  obtain ⟨invitations, hclaim⟩ := isSome_iff_exists.1 hsome
  obtain ⟨hunused, hmem, rfl⟩ := claim_eq_some hclaim
  refine writes_iff.2 ⟨hmem, ?_⟩
  rw [invitationStep, hclaim, elim_some, LinkState.write, modify_row_self, hunused]
  simp [OIDCLinkInvitation.claimed]

/-- **At most once.** In every history in which each session that confirms an administrator's link
holds current copies of the recipient and of the provider, the laws of invitations hold. -/
theorem invitationLaws {s₀ : LinkState} {h : List (LinkState × InvitationEvent)}
    (hh : (invitationMachine lib).History s₀ h s)
    (hcur : ∀ t ∈ h, CopiesCurrent lib t.1 t.2) : InvitationLaws lib h where
  claims _ _ _ hclaims := writes_of_claims hclaims
  claimedOnce invitationId :=
    (hh.countP_le_toNat (isClaimed invitationId) (fun _ _ hw ↦ isClaimed_of_writes hw)
      fun _ _ hclaimed ↦ isClaimed_step hclaimed).trans (Bool.toNat_le _)
  settledOnce invitationId :=
    (hh.countP_le_toNat (isSettled invitationId) (fun _ _ hw ↦ isSettled_of_writes hw)
      fun _ _ hsettled ↦ isSettled_step hsettled).trans (Bool.toNat_le _)
  completion _ t ht hw := mayComplete_of_writes hw (hcur t ht)
  identity _ _ _ hk hnew hmethod := writes_of_new_identity hk hnew hmethod

/-! ### One invitation -/

/-- The recipient of an invitation. -/
def invitedUser : User where
  email := "ann@example.org".toList
  passwordHash := some "hash".toList

/-- A database with an invitation that its recipient has opened, and the transaction to come. -/
def invitedDatabase : Database where
  users := oneRow invitedUser
  providers := oneRow { isEnabled := true }
  identities := (matchingDatabase true).identities
  transactions := oneRow {
    providerId := 1
    flowType := .adminLink
    targetUserId := some 1
    linkInvitationId := some 1 }
  invitations := oneRow {
    userId := 1
    providerId := 1
    createdByUserId := 2
    recipientBindingHash := invitationRecipientBinding asciiLinks 1 invitedUser
    providerBindingHash := invitationProviderBinding asciiLinks 1 { isEnabled := true }
    redemptionSessionHash := some "session".toList
    expiresAt := 1000 }

/-- The recipient claims the invitation and comes back from the provider. -/
def claimAndReturn : List InvitationEvent :=
  [.readUsers 0, .readProviders 0, .readInvitations 0, .claim 0 1 1 10, .readInvitations 0,
    .readTransactions 0, .resolveLogin 0 ⟨20, 21⟩ 1 1 (annsClaims true), .readTransactions 0]

/-- The confirmation. -/
def confirmLink : InvitationEvent := .confirm 0 ⟨30, 31⟩ 1 (some 1) false

/-- The recipient becomes an administrator. -/
def promote : InvitationEvent :=
  .changeRecords (oneRow { invitedUser with role := .admin }) invitedDatabase.providers

theorem invitationLaws_claimAndReturn :
    InvitationLaws asciiLinks ((invitationMachine asciiLinks).trace []
      ⟨invitedDatabase, fun _ ↦ invitedDatabase⟩ (claimAndReturn ++ [confirmLink])) :=
  invitationLaws (Machine.History.nil.trace _) (by decide +kernel)

/-- The state in which the recipient has been promoted and the session has not seen it. -/
def promotedState : LinkState :=
  (invitationMachine asciiLinks).run ⟨invitedDatabase, fun _ ↦ invitedDatabase⟩
    (claimAndReturn ++ [promote])

/-- The recipient's row changes after the session has read it, and the invitation is completed. -/
theorem not_invitationLaws : ¬ ∀ (lib : LinkLibrary) (s₀ s : LinkState)
    (h : List (LinkState × InvitationEvent)),
    (invitationMachine lib).History s₀ h s → InvitationLaws lib h := by
  intro hall
  have hlaws := hall asciiLinks ⟨invitedDatabase, fun _ ↦ invitedDatabase⟩ _ _
    (Machine.History.nil.trace (claimAndReturn ++ [promote, confirmLink]))
  have hlast : (promotedState, confirmLink) ∈ (invitationMachine asciiLinks).trace []
      ⟨invitedDatabase, fun _ ↦ invitedDatabase⟩ (claimAndReturn ++ [promote, confirmLink]) :=
    List.mem_cons_self
  obtain ⟨now, -, user, provider, huser, -, hcompletable⟩ :=
    hlaws.completion 1 _ hlast (by decide +kernel)
  obtain rfl : { invitedUser with role := .admin } = user := some.inj huser
  have hbound : (promotedState.db.invitations.row 1).recipientBindingHash ≠
      invitationRecipientBinding asciiLinks (promotedState.db.invitations.row 1).userId
        { invitedUser with role := .admin } := by
    decide +kernel
  exact hbound hcompletable.2.2.1.1

end Kaya.OIDC
