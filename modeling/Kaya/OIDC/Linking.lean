import Kaya.OIDC.Invitations
import Kaya.OIDC.RoleSync

/-!
# Linking identities to accounts

`oidc_identity.py`. A call returns what its session holds afterwards, with its result. A call that
raises has rolled back or has not: what it has changed and not rolled back, the caller commits
together with its audit row. `claims_summary_json` is left out, for nothing reads it, and the claims
that wait for a confirmation are kept as they are, not as JSON.

A session does not read a row twice. `view` is what it has read of the rows that a link is about,
maybe some time ago; `db` is what the database holds when the call writes.

`resolveLogin` creates an identity for a user that exists in one place only (`linkByEmail`), where
the provider matches automatically; `confirmTransactionLink` creates all others.
-/

namespace Kaya.OIDC

open PyText

/-- `ExternalIdentity`. -/
structure ExternalIdentity where
  userId : ℕ
  providerId : ℕ
  issuer : Text
  subject : Text
  emailAtLinkTime : Option Text
  currentEmail : Option Text
  preferredUsername : Option Text
  roleManagement : RoleManagement
  linkedByUserId : Option ℕ
  linkMethod : String
  lastLoginAt : Option ℤ

/-- `flow_type`, of the flows that come here. -/
inductive FlowType
  | login
  | selfLink
  | adminLink
  | emailMatch
  deriving DecidableEq

/-- `OIDCTransaction`. -/
structure OIDCTransaction where
  providerId : ℕ
  flowType : FlowType := .login
  targetUserId : Option ℕ := none
  initiatedByUserId : Option ℕ := none
  linkInvitationId : Option ℕ := none
  validatedClaims : Option IdentityClaims := none

/-- What the calls read and write. -/
structure Database where
  users : Table User
  providers : Table OIDCProvider
  identities : Table ExternalIdentity
  transactions : Table OIDCTransaction
  invitations : Table OIDCLinkInvitation

/-- Two readings of the clock during a call. -/
structure Clock where
  now : ℤ
  later : ℤ

/-- `LoginResolution`. -/
structure LoginResolution where
  user : Option ℕ := none
  confirmationRequired : Bool := false
  provisioned : Bool := false
  linked : Bool := false

/-- The columns of `uq_external_identity_security_key`. -/
def ExternalIdentity.securityKey (identity : ExternalIdentity) : ℕ × Text × Text :=
  (identity.providerId, identity.issuer, identity.subject)

/-- The columns of `uq_external_identity_provider_user`. -/
def ExternalIdentity.providerUser (identity : ExternalIdentity) : ℕ × ℕ :=
  (identity.providerId, identity.userId)

/-- What a session holds after a call, with the result. -/
abbrev Outcome (α : Type) := Database × Except OIDCIdentityError α

section Source

variable (lib : LinkLibrary)

/-- The columns of a user that change, with `updated_at` if one does. -/
def Database.editUser (db : Database) (now : ℤ) (userId : ℕ) (f : User → User) : Database :=
  { db with
    users := db.users.modify userId fun user ↦
      if f user = user then user else { f user with updatedAt := some now } }

/-- `db.get(User, transaction.target_user_id)`. -/
def Database.target (db : Database) (transaction : OIDCTransaction) : Option (ℕ × User) :=
  transaction.targetUserId.bind fun userId ↦ (db.users.get? userId).map (userId, ·)

/-! ### Identities and profiles -/

/-- The row of a new identity. -/
def newIdentity (now : ℤ) (providerId : ℕ) (provider : OIDCProvider) (userId : ℕ)
    (value : IdentityClaims) (linkMethod : String) (linkedByUserId : Option ℕ) :
    ExternalIdentity where
  userId := userId
  providerId := providerId
  issuer := value.iss
  subject := value.sub
  emailAtLinkTime := some value.email
  currentEmail := some value.email
  preferredUsername := value.preferredUsername
  roleManagement := if provider.syncRolesOnLogin then .oidc else .localOnly
  linkedByUserId := linkedByUserId
  linkMethod := linkMethod
  lastLoginAt := some now

/-- The row is written, unless a constraint refuses it. `saved` is what a rollback returns to. -/
def insertIdentity (saved db : Database) (now : ℤ) (row : ExternalIdentity) : Outcome ℕ :=
  if db.identities.exists? fun identity ↦
      identity.securityKey = row.securityKey || identity.providerUser = row.providerUser then
    (saved, .error { category := "identity_conflict" })
  else
    (({ db with identities := db.identities.insert row }).editUser now row.userId fun user ↦
      { user with
        authenticationType :=
          if user.passwordHash.any (· ≠ []) then "local_and_oidc" else "oidc" },
      .ok db.identities.freshKey)

/-- `create_identity`. -/
def createIdentity (saved db : Database) (now : ℤ) (providerId : ℕ) (provider : OIDCProvider)
    (userId : ℕ) (value : IdentityClaims) (linkMethod : String) (linkedByUserId : Option ℕ) :
    Outcome ℕ :=
  let key := (providerId, value.iss, value.sub)
  let conflict := (db.identities.select fun identity ↦ identity.securityKey = key).head?
  let existing :=
    (db.identities.select fun identity ↦ identity.providerUser = (providerId, userId)).head?
  if conflict.any fun k ↦ (db.identities.row k).userId ≠ userId then
    (db, .error { category := "identity_conflict" })
  else
    match existing with
    | some k =>
      if (db.identities.row k).securityKey ≠ key then
        (db, .error { category := "user_identity_conflict" })
      else (db, .ok k)
    | none =>
      insertIdentity saved db now
        (newIdentity now providerId provider userId value linkMethod linkedByUserId)

/-- The columns of an identity that a login writes. -/
def ExternalIdentity.withProfile (value : IdentityClaims) (now : ℤ)
    (identity : ExternalIdentity) : ExternalIdentity :=
  { identity with
    currentEmail := some value.email
    preferredUsername := value.preferredUsername
    lastLoginAt := some now }

/-- `update_names_on_login`. -/
def User.withNames (provider : OIDCProvider) (value : IdentityClaims) (user : User) : User :=
  if provider.updateNamesOnLogin then
    { user with
      firstName := (value.firstName.map (List.take 120)).or user.firstName
      lastName := (value.lastName.map (List.take 120)).or user.lastName }
  else user

/-- The users that `filter_by(role="admin", is_active=True)` counts. -/
def Database.administrators (db : Database) : ℕ :=
  (db.users.select fun user ↦ user.role = .admin && user.isActive).length

/-- `_apply_profile`. -/
def applyProfile (db : Database) (now : ℤ) (provider : OIDCProvider) (userId identityId : ℕ)
    (value : IdentityClaims) : Outcome Unit :=
  let db := ({ db with
    identities := db.identities.modify identityId (.withProfile value now) }).editUser now userId
      (.withNames provider value)
  let user := db.users.row userId
  if provider.updateEmailOnLogin ∧ value.email ≠ user.email ∧
      (db.users.select fun other ↦ other.email = value.email).any (· ≠ userId) then
    (db, .error { category := "email_conflict" })
  else
    let db :=
      if provider.updateEmailOnLogin then
        db.editUser now userId fun user ↦ { user with email := value.email }
      else db
    let request : Request := {
      provider := provider
      roleManagement := (db.identities.row identityId).roleManagement
      groups := value.groups }
    match request.applyRole lib.toTextLibrary user.role db.administrators with
    | .error e => (db, .error e)
    | .ok none => (db, .ok ())
    | .ok (some role) =>
      (db.editUser now userId fun user ↦ { user with role := role, roleSource := "oidc" }, .ok ())

/-! ### Signing in -/

/-- An active user at the end of a link. -/
def linkTarget (db : Database) (transaction : OIDCTransaction) :
    Except OIDCIdentityError (ℕ × User) := do
  let target ← found (db.target transaction) { category := "invalid_link_target" }
  require (target.2.isActive = true) { category := "invalid_link_target" }
  pure target

/-- `validate_admin_link_invitation`. -/
def validateInvitation (db : Database) (transaction : OIDCTransaction) (target : ℕ × User)
    (now : ℤ) (value : IdentityClaims) : Except OIDCIdentityError OIDCLinkInvitation :=
  validateAdminLinkInvitation lib (transaction.linkInvitationId.bind db.invitations.get?)
    (db.providers.get? transaction.providerId) transaction.providerId target.1 target.2 now value

/-- The target of a link, with a valid invitation where it is an administrator's. -/
def checkTarget (db : Database) (transaction : OIDCTransaction) (now : ℤ)
    (value : IdentityClaims) : Except OIDCIdentityError Unit := do
  let target ← linkTarget db transaction
  if transaction.flowType = .adminLink then
    let _ ← validateInvitation lib db transaction target now value
    pure ()
  else pure ()

/-- The claims of a login, once they have been read and the flow has been checked. -/
def loginClaims (db : Database) (now : ℤ) (provider : OIDCProvider)
    (transaction : OIDCTransaction) (claims : Json) : Except OIDCIdentityError IdentityClaims := do
  let value ← normalisedIdentityClaims lib.toTextLibrary provider claims
  if transaction.flowType = .adminLink then
    checkTarget lib db transaction now value
    pure value
  else pure value

/-- The identity is known. -/
def signIn (db : Database) (now : ℤ) (provider : OIDCProvider) (identityId : ℕ)
    (value : IdentityClaims) : Outcome LoginResolution :=
  let userId := (db.identities.row identityId).userId
  match (db.users.get? userId).filter User.isActive with
  | none => (db, .error { category := "inactive_user" })
  | some _ =>
    match applyProfile lib db now provider userId identityId value with
    | (db, .error e) => (db, .error e)
    | (db, .ok ()) => (db, .ok { user := some userId })

/-- A link waits for its confirmation. -/
def awaitConfirmation (view db : Database) (now : ℤ) (transactionId : ℕ)
    (transaction : OIDCTransaction) (value : IdentityClaims) : Outcome LoginResolution :=
  match checkTarget lib view transaction now value with
  | .error e => (db, .error e)
  | .ok () =>
    ({ db with
      transactions := db.transactions.modify transactionId fun transaction ↦
        { transaction with validatedClaims := some value } }, .ok { confirmationRequired := true })

/-- The identity is given to the user with its email. -/
def linkByEmail (db : Database) (now : ℤ) (providerId : ℕ) (provider : OIDCProvider) (userId : ℕ)
    (value : IdentityClaims) : Outcome LoginResolution :=
  match createIdentity db db now providerId provider userId value "verified_email_match" none with
  | (db, .error e) => (db, .error e)
  | (db, .ok identityId) =>
    match applyProfile lib db now provider userId identityId value with
    | (db, .error e) => (db, .error e)
    | (db, .ok ()) => (db, .ok { user := some userId, linked := true })

/-- The user with the email of the claims is asked for a password. -/
def askForPassword (db : Database) (transactionId userId : ℕ) (value : IdentityClaims) :
    Outcome LoginResolution :=
  ({ db with
    transactions := db.transactions.modify transactionId fun transaction ↦
      { transaction with
        targetUserId := some userId
        flowType := .emailMatch
        validatedClaims := some value } }, .ok { confirmationRequired := true })

/-- The row of a new user. -/
def newUser (now : ℤ) (provider : OIDCProvider) (value : IdentityClaims) : User where
  email := value.email
  firstName := value.firstName.map (List.take 120)
  lastName := value.lastName.map (List.take 120)
  role := initialRole lib.toTextLibrary provider value.groups
  authenticationType := "oidc"
  roleSource := "oidc"
  updatedAt := some now

/-- A user is made for the identity. -/
def provisionUser (db : Database) (now : ℤ) (providerId : ℕ) (provider : OIDCProvider)
    (value : IdentityClaims) : Outcome LoginResolution :=
  if db.users.exists? fun user ↦ user.email = value.email then
    -- an inactive user has the email
    (db, .error { category := "provisioning_conflict" })
  else
    match createIdentity db { db with users := db.users.insert (newUser lib now provider value) }
        now providerId provider db.users.freshKey value "jit_provisioning" none with
    | (after, .error e) => (after, .error e)
    | (after, .ok _) =>
      (after, .ok { user := some db.users.freshKey, provisioned := true, linked := true })

/-- No identity is known, and no link has been asked for. -/
def firstLogin (db : Database) (now : ℤ) (providerId : ℕ) (provider : OIDCProvider)
    (transactionId : ℕ) (value : IdentityClaims) : Outcome LoginResolution :=
  match provider.emailMatchingMode,
    db.users.select fun user ↦ user.email = value.email && user.isActive with
  | .automatic, [userId] => linkByEmail lib db now providerId provider userId value
  | .confirmation, [userId] => askForPassword db transactionId userId value
  | _, [] =>
    if provider.allowJitProvisioning then provisionUser lib db now providerId provider value
    else (db, .error { category := "provisioning_disabled" })
  | _, _ :: _ => (db, .error { category := "existing_email_requires_link" })

/-- `resolve_login`. -/
def resolveLogin (view db : Database) (clock : Clock) (providerId : ℕ) (provider : OIDCProvider)
    (transactionId : ℕ) (transaction : OIDCTransaction) (claims : Json) :
    Outcome LoginResolution :=
  match loginClaims lib view clock.now provider transaction claims with
  | .error e => (db, .error e)
  | .ok value =>
    match (db.identities.select fun identity ↦
      identity.securityKey = (providerId, value.iss, value.sub)).head? with
    | some identityId =>
      if transaction.flowType = .adminLink then (db, .error { category := "identity_conflict" })
      else signIn lib db clock.now provider identityId value
    | none =>
      if transaction.flowType = .selfLink ∨ transaction.flowType = .adminLink then
        awaitConfirmation lib view db clock.later transactionId transaction value
      else firstLogin lib db clock.now providerId provider transactionId value

/-! ### Confirming a link -/

/-- What a confirmation is about. -/
structure Confirmation where
  value : IdentityClaims
  target : ℕ × User
  provider : OIDCProvider
  invitation : Option OIDCLinkInvitation

/-- The checks of `confirm_transaction_link`. -/
def checkConfirmation (db : Database) (now : ℤ) (transaction : OIDCTransaction)
    (currentUser : Option ℕ) (passwordVerified : Bool) :
    Except OIDCIdentityError Confirmation := do
  let value ← found transaction.validatedClaims { category := "invalid_link_transaction" }
  require (transaction.flowType ≠ .login) { category := "invalid_link_transaction" }
  let target ← found (db.target transaction) { category := "invalid_link_target" }
  let provider ← found (db.providers.get? transaction.providerId)
    { category := "invalid_link_target" }
  require (transaction.flowType = .selfLink → currentUser = some target.1)
    { category := "invalid_link_owner" }
  require (transaction.flowType = .adminLink → currentUser = some target.1)
    { category := "invalid_link_owner" }
  let invitation ←
    if transaction.flowType = .adminLink then
      (validateInvitation lib db transaction target now value).map some
    else pure none
  require (transaction.flowType = .emailMatch → passwordVerified = true)
    { category := "local_proof_required"
      message := "Confirm the link with your current Kaya password." }
  pure { value := value, target := target, provider := provider, invitation := invitation }

/-- The link of an administrator's invitation, which is completed with it. -/
def linkByInvitation (db : Database) (clock : Clock) (transaction : OIDCTransaction)
    (invitation : OIDCLinkInvitation) (confirmation : Confirmation) : Outcome ℕ :=
  match transaction.linkInvitationId.bind fun invitationId ↦
    completeInvitation lib db.invitations invitationId confirmation.target.1 confirmation.target.2
      transaction.providerId confirmation.provider clock.later with
  | none => (db, .error { category := "invalid_link_invitation" })
  | some invitations =>
    createIdentity db { db with invitations := invitations } clock.later transaction.providerId
      confirmation.provider confirmation.target.1 confirmation.value "admin_invitation"
      (some invitation.createdByUserId)

/-- `confirm_transaction_link`. -/
def confirmTransactionLink (view db : Database) (clock : Clock) (transaction : OIDCTransaction)
    (currentUser : Option ℕ) (passwordVerified : Bool) : Outcome ℕ :=
  match checkConfirmation lib view clock.now transaction currentUser passwordVerified with
  | .error e => (db, .error e)
  | .ok confirmation =>
    match confirmation.invitation with
    | some invitation => linkByInvitation lib db clock transaction invitation confirmation
    | none =>
      createIdentity db db clock.later transaction.providerId confirmation.provider
        confirmation.target.1 confirmation.value
        (if transaction.flowType = .selfLink then "self_service" else "verified_email_match")
        transaction.initiatedByUserId

end Source

end Kaya.OIDC
