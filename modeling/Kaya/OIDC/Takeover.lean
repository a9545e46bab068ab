import Kaya.OIDC.Links

/-!
# Whose account an identity opens

An identity that is created for a user who was there before needs a reason: the claims carry the
user's email, verified; the user has given the local password, or is signed in; or an invitation of
an administrator is completed in the same step. `identity_justified` says that one of these holds
whenever a call creates an identity, in every run of calls — but for one case, which a provider's
switch decides. A provider that matches emails automatically and does not require them to be
verified links the user whose email the claims merely state (`not_identity_justified`).

What else happens to the database between the calls is arbitrary, except that nothing else creates
identities.
-/

namespace Kaya.OIDC

open Table

variable {lib : LinkLibrary} {db : Database} {now : ℤ} {clock : Clock}
  {providerId userId transactionId : ℕ} {provider : OIDCProvider} {transaction : OIDCTransaction}

/-! ### Reasons -/

/-- What happens to the database. Anything may happen to it between the calls, but that identities
are created. -/
inductive LinkEvent
  /-- A login is resolved. -/
  | resolveLogin (clock : Clock) (providerId transactionId : ℕ) (claims : Json)
  /-- A link is confirmed. -/
  | confirm (clock : Clock) (transactionId : ℕ) (currentUser : Option ℕ) (passwordVerified : Bool)
  /-- Rows change, and identities are deleted. -/
  | other (users : Table User) (providers : Table OIDCProvider)
      (transactions : Table OIDCTransaction) (invitations : Table OIDCLinkInvitation)
      (unlinked : List ℕ)

/-- The database after an event. -/
def linkStep (lib : LinkLibrary) (db : Database) : LinkEvent → Database
  | .resolveLogin clock providerId transactionId claims =>
    match db.providers.get? providerId, db.transactions.get? transactionId with
    | some provider, some transaction =>
      (resolveLogin lib db db clock providerId provider transactionId transaction claims).1
    | _, _ => db
  | .confirm clock transactionId currentUser passwordVerified =>
    match db.transactions.get? transactionId with
    | some transaction =>
      (confirmTransactionLink lib db db clock transaction currentUser passwordVerified).1
    | none => db
  | .other users providers transactions invitations unlinked =>
    { users := users
      providers := providers
      identities := db.identities.delete unlinked
      transactions := transactions
      invitations := invitations }

/-- The calls on a database that keeps its unique constraints. -/
def linkMachine (lib : LinkLibrary) : Machine Database LinkEvent where
  init db := UniqueLinks db.links
  step := linkStep lib

/-- The claims of a call. -/
def LinkEvent.Claims (lib : LinkLibrary) (db : Database) (value : IdentityClaims) :
    LinkEvent → Prop
  | .resolveLogin _ providerId _ claims =>
    ∃ provider, db.providers.get? providerId = some provider ∧
      normalisedIdentityClaims lib.toTextLibrary provider claims = .ok value
  | .confirm _ transactionId _ _ =>
    ∃ transaction, db.transactions.get? transactionId = some transaction ∧
      transaction.validatedClaims = some value
  | .other .. => False

/-- The claims carry a verified email, and it is the user's. -/
def HasVerifiedEmail (lib : LinkLibrary) (db : Database) (user : User) (e : LinkEvent) : Prop :=
  ∃ value, e.Claims lib db value ∧ value.emailVerified = true ∧ value.email = user.email

/-- The user with the email has given the local password. -/
def HasLocalPassword (db : Database) (userId : ℕ) : LinkEvent → Prop
  | .confirm _ transactionId _ passwordVerified =>
    ∃ transaction, db.transactions.get? transactionId = some transaction ∧
      transaction.flowType = .emailMatch ∧ transaction.targetUserId = some userId ∧
      passwordVerified = true
  | _ => False

/-- The user is signed in. -/
def IsSignedIn (db : Database) (userId : ℕ) : LinkEvent → Prop
  | .confirm _ transactionId currentUser _ =>
    ∃ transaction, db.transactions.get? transactionId = some transaction ∧
      transaction.flowType = .selfLink ∧ currentUser = some userId
  | _ => False

/-- An invitation of the user for the provider is completed: it was claimed and neither completed,
revoked nor expired, it was bound to the rows of both, and the claims carry a verified email that
matches the user's. -/
def CompletesInvitation (lib : LinkLibrary) (db after : Database) (providerId userId : ℕ)
    (user : User) : LinkEvent → Prop
  | .confirm clock transactionId currentUser _ =>
    ∃ transaction, db.transactions.get? transactionId = some transaction ∧
      transaction.flowType = .adminLink ∧ currentUser = some userId ∧
      ∃ invitationId, transaction.linkInvitationId = some invitationId ∧
        invitationId ∈ db.invitations.ids ∧
        (∃ provider, db.providers.get? providerId = some provider ∧
          Completable lib userId user providerId provider clock.later
            (db.invitations.row invitationId)) ∧
        (after.invitations.row invitationId).completedAt = some clock.later ∧
        ∃ value, transaction.validatedClaims = some value ∧ value.emailVerified = true ∧
          normaliseEmail lib.toTextLibrary (some value.email) =
            normaliseEmail lib.toTextLibrary (some user.email)
  | _ => False

/-- One of the four reasons for giving a user an identity of a provider. -/
def Justified (lib : LinkLibrary) (db after : Database) (providerId userId : ℕ) (user : User)
    (e : LinkEvent) : Prop :=
  HasVerifiedEmail lib db user e ∨ HasLocalPassword db userId e ∨ IsSignedIn db userId e ∨
    CompletesInvitation lib db after providerId userId user e

/-- The provider matches emails automatically and does not require them to be verified, and the
claims state the user's. -/
def MatchesUnverified (lib : LinkLibrary) (db : Database) (providerId : ℕ) (user : User) :
    LinkEvent → Prop
  | .resolveLogin _ providerId' _ claims =>
    providerId' = providerId ∧ ∃ provider, db.providers.get? providerId = some provider ∧
      provider.emailMatchingMode = .automatic ∧ provider.requireVerifiedEmail = false ∧
      ∃ value, normalisedIdentityClaims lib.toTextLibrary provider claims = .ok value ∧
        value.email = user.email
  | _ => False

/-! ### Every run -/

/-- What a call that adds links must show. -/
def GrowsFor (lib : LinkLibrary) (db after : Database) (e : LinkEvent) : Prop :=
  ∃ providerId userId,
    (Grows db.links after.links fun link ↦ link.providerUser = (providerId, userId)) ∧
      (after.links ≠ db.links → ∀ user, db.users.get? userId = some user →
        Justified lib db after providerId userId user e ∨
          MatchesUnverified lib db providerId user e)

theorem growsFor_of_eq {after : Database} {e : LinkEvent} (h : after.links = db.links) :
    GrowsFor lib db after e :=
  ⟨0, 0, .inl h, fun hne ↦ absurd h hne⟩

theorem growsFor_resolveLogin {claims : Json} (hprov : db.providers.get? providerId =
    some provider) : GrowsFor lib db
      (resolveLogin lib db db clock providerId provider transactionId transaction claims).1
      (.resolveLogin clock providerId transactionId claims) := by
  obtain ⟨userId, hgrows, hreason⟩ :=
    resolveLogin_links lib db db clock providerId transactionId provider transaction claims
  refine ⟨providerId, userId, hgrows.imp fun _ h ↦ h.1, fun _ user huser ↦ ?_⟩
  obtain ⟨hmem, rfl⟩ := (get?_eq_some _).1 huser
  rcases hreason with hnew | ⟨hmode, value, hvalue, hemail⟩
  · exact absurd hmem hnew
  · cases hver : value.emailVerified with
    | true => exact .inl (.inl ⟨value, ⟨provider, hprov, hvalue⟩, hver, hemail.symm⟩)
    | false =>
      have hswitch : provider.requireVerifiedEmail = false := by
        by_contra hrequired
        rw [emailVerified_of_normalisedIdentityClaims hvalue
          (Bool.not_eq_false _ ▸ hrequired)] at hver
        exact absurd hver (by simp)
      exact .inr ⟨rfl, provider, hprov, hmode, hswitch, value, hvalue, hemail.symm⟩

theorem growsFor_confirm {currentUser : Option ℕ} {passwordVerified : Bool}
    (htx : db.transactions.get? transactionId = some transaction) : GrowsFor lib db
      (confirmTransactionLink lib db db clock transaction currentUser passwordVerified).1
      (.confirm clock transactionId currentUser passwordVerified) := by
  rcases confirmTransactionLink_cases lib db db clock transaction currentUser passwordVerified with
    ⟨hlinks, -⟩ | ⟨confirmation, hchecked, huser | ⟨invitationId, hinvited⟩⟩
  · exact growsFor_of_eq hlinks
  · refine ⟨_, _, huser.links.imp fun _ h ↦ h.1, fun _ user _ ↦ .inl (.inr ?_)⟩
    rcases huser.flow with hflow | hflow
    · exact .inr (.inl ⟨transaction, htx, hflow, hchecked.owner hflow⟩)
    · exact .inl ⟨transaction, htx, hflow, (target_eq_some.1 hchecked.target).1,
        hchecked.password hflow⟩
  · refine ⟨_, _, hinvited.links.imp fun _ h ↦ h.1, fun _ user huser ↦ .inl (.inr (.inr (.inr ?_)))⟩
    obtain rfl : confirmation.target.2 = user :=
      Option.some.inj ((target_eq_some.1 hchecked.target).2.symm.trans huser)
    refine ⟨transaction, htx, hinvited.flow, hchecked.recipient hinvited.flow,
      invitationId, hinvited.invitation, hinvited.mem,
      ⟨confirmation.provider, hchecked.provider, hinvited.completable⟩, ?_, confirmation.value,
      hchecked.claims, hinvited.email⟩
    rw [hinvited.invitations, modify_row_self]
    rfl

variable (lib db) in
/-- Whatever happens, either links are deleted or at most one is added, for a reason. -/
theorem linkStep_cases (e : LinkEvent) :
    (∃ unlinked, (linkStep lib db e).links = db.links.delete unlinked) ∨
      GrowsFor lib db (linkStep lib db e) e := by
  cases e with
  | resolveLogin clock providerId transactionId claims =>
    right
    rw [linkStep]
    split
    next hprov _ => exact growsFor_resolveLogin hprov
    next => exact growsFor_of_eq rfl
  | confirm clock transactionId currentUser passwordVerified =>
    right
    rw [linkStep]
    split
    next htx => exact growsFor_confirm htx
    next => exact growsFor_of_eq rfl
  | other users providers transactions invitations unlinked => exact .inl ⟨unlinked, map_delete⟩

theorem uniqueLinks_step {e : LinkEvent} (h : UniqueLinks db.links) :
    UniqueLinks (linkStep lib db e).links := by
  rcases linkStep_cases lib db e with ⟨unlinked, heq⟩ | ⟨_, _, hgrows, -⟩
  · rw [heq]
    exact ⟨h.securityKey.delete unlinked, h.providerUser.delete unlinked⟩
  · exact hgrows.unique h

/-- **No takeover.** An identity that a call creates for a user who was there before has one of the
four reasons, or the provider matches emails without requiring them to be verified. In every state
an identity of a provider belongs to one user, and a user has one identity of a provider. -/
theorem identity_justified (h : (linkMachine lib).Reachable db) :
    db.identities.UniqueBy ExternalIdentity.securityKey ∧
      db.identities.UniqueBy ExternalIdentity.providerUser ∧
      ∀ e, let after := (linkMachine lib).step db e
        ∀ k ∈ after.identities.ids, k ∉ db.identities.ids →
          ∀ user, db.users.get? (after.identities.row k).userId = some user →
            Justified lib db after (after.identities.row k).providerId
              (after.identities.row k).userId user e ∨
            MatchesUnverified lib db (after.identities.row k).providerId user e := by
  have hunique : UniqueLinks db.links :=
    h.invariant (P := fun db ↦ UniqueLinks db.links) (fun _ hinit ↦ hinit)
      fun _ _ hlinks ↦ uniqueLinks_step hlinks
  refine ⟨hunique.securityKey, hunique.providerUser, fun e k hk hnew user huser ↦ ?_⟩
  rcases linkStep_cases lib db e with
    ⟨unlinked, heq⟩ | ⟨providerId, userId, hgrows, hreason⟩
  · have hids : k ∈ (db.links.delete unlinked).ids := heq ▸ hk
    exact absurd (db.links.mem_delete.1 hids).1 hnew
  · obtain ⟨rfl, rfl⟩ := Prod.mk.inj (hgrows.of_new hk hnew)
    refine hreason (fun heq ↦ hnew ?_) user huser
    have hids : k ∈ db.links.ids := heq ▸ hk
    exact hids

/-! ### A provider that trusts unverified emails -/

/-- Texts in ASCII. -/
def asciiLinks : LinkLibrary where
  toTextLibrary := asciiTexts
  sha256 text := text
  isoformat date := intText date

/-- A table with one row. -/
def oneRow {ρ : Type} (r : ρ) : Table ρ := ⟨[1], fun _ ↦ r, by decide⟩

/-- A user, and a provider that matches emails automatically. -/
def matchingDatabase (requireVerifiedEmail : Bool) : Database where
  users := oneRow { email := "ann@example.org".toList, passwordHash := some "hash".toList }
  providers := oneRow {
    isEnabled := true
    emailMatchingMode := .automatic
    requireVerifiedEmail := requireVerifiedEmail }
  identities := ⟨[], fun _ ↦ newIdentity 0 0 {} 0 ⟨[], [], [], false, none, none, none, none, []⟩ ""
    none, List.nodup_nil⟩
  transactions := oneRow { providerId := 1 }
  invitations := ⟨[], fun _ ↦ ⟨0, 0, 0, [], [], none, 0, none, none, none⟩, List.nodup_nil⟩

/-- The claims of an identity, with or without the statement that its email is verified. -/
def annsClaims (verified : Bool) : Json :=
  .dict [("iss".toList, .text "https://id.example.org".toList), ("sub".toList, .text "7".toList),
    ("email".toList, .text "ann@example.org".toList), ("email_verified".toList, .bool verified)]

/-- The login with these claims. -/
def annsLogin (verified : Bool) : LinkEvent := .resolveLogin ⟨5, 6⟩ 1 1 (annsClaims verified)

theorem init_matchingDatabase (requireVerifiedEmail : Bool) :
    (linkMachine asciiLinks).Reachable (matchingDatabase requireVerifiedEmail) :=
  .start ⟨fun _ h ↦ absurd h List.not_mem_nil, fun _ h ↦ absurd h List.not_mem_nil⟩

theorem identity_justified_annsLogin :
    Justified asciiLinks (matchingDatabase true)
        (linkStep asciiLinks (matchingDatabase true) (annsLogin true)) 1 1
        ((matchingDatabase true).users.row 1) (annsLogin true) ∨
      MatchesUnverified asciiLinks (matchingDatabase true) 1 ((matchingDatabase true).users.row 1)
        (annsLogin true) :=
  (identity_justified (init_matchingDatabase true)).2.2 (annsLogin true) 1 (by decide +kernel)
    (by decide +kernel) _ (by rfl)

/-- The claims do not say that the email is verified, and the user is linked. -/
theorem not_identity_justified : ¬ ∀ (lib : LinkLibrary) (db : Database),
    (linkMachine lib).Reachable db → ∀ e, let after := (linkMachine lib).step db e
      ∀ k ∈ after.identities.ids, k ∉ db.identities.ids →
        ∀ user, db.users.get? (after.identities.row k).userId = some user →
          Justified lib db after (after.identities.row k).providerId
            (after.identities.row k).userId user e := by
  intro hall
  have h := hall asciiLinks _ (init_matchingDatabase false) (annsLogin false) 1
    (by decide +kernel) (by decide +kernel) ((matchingDatabase false).users.row 1) (by rfl)
  rcases h with ⟨value, ⟨provider, hprov, hvalue⟩, hver, -⟩ | hnone | hnone | hnone
  · obtain rfl := Option.some.inj hprov
    have hunverified :
        (normalisedIdentityClaims asciiTexts ((matchingDatabase false).providers.row 1)
          (annsClaims false)).map IdentityClaims.emailVerified = .ok false := by rfl
    obtain ⟨value', hvalue', hfalse⟩ := map_eq_ok.1 hunverified
    obtain rfl := Except.ok.inj (hvalue.symm.trans hvalue')
    exact Bool.false_ne_true (hfalse.symm.trans hver)
  · exact hnone
  · exact hnone
  · exact hnone

end Kaya.OIDC
