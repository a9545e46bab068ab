import Kaya.Library.TableKeys
import Kaya.OIDC.Linking

/-!
# What the calls do to links and invitations

Every call but `createIdentity` leaves the links of identities alone, and `createIdentity` adds at
most one, which the two unique constraints let through: `Grows`. Its callers are `linkByEmail`,
`provisionUser` and `confirmTransactionLink`, and each says for whom the link is.

An invitation is changed by a confirmation only, and only together with its link: either both are
in what the session holds afterwards, or the call has rolled back (`confirmTransactionLink_cases`).
-/

namespace Kaya.OIDC

open Table

/-- The columns of an identity that no login writes. -/
structure Link where
  securityKey : ℕ × Text × Text
  providerUser : ℕ × ℕ
  linkMethod : String

/-- The link of an identity. -/
def ExternalIdentity.link (identity : ExternalIdentity) : Link where
  securityKey := identity.securityKey
  providerUser := identity.providerUser
  linkMethod := identity.linkMethod

/-- The links of all identities. -/
def Database.links (db : Database) : Table Link := db.identities.map ExternalIdentity.link

/-- Neither constraint refuses the link. -/
def IsFree (links : Table Link) (link : Link) : Prop :=
  ∀ k ∈ links.ids, (links.row k).securityKey ≠ link.securityKey ∧
    (links.row k).providerUser ≠ link.providerUser

/-- At most one link has been added, with a property. -/
def Grows (links after : Table Link) (P : Link → Prop) : Prop :=
  after = links ∨ ∃ link : Link, P link ∧ IsFree links link ∧ after = links.insert link

/-- The two unique constraints. -/
structure UniqueLinks (links : Table Link) : Prop where
  securityKey : links.UniqueBy Link.securityKey
  providerUser : links.UniqueBy Link.providerUser

variable {lib : LinkLibrary} {view db saved : Database} {now : ℤ} {clock : Clock}
  {providerId userId identityId transactionId : ℕ} {provider : OIDCProvider}
  {transaction : OIDCTransaction} {value : IdentityClaims} {links after : Table Link}
  {linkMethod : String} {linkedByUserId : Option ℕ} {P Q : Link → Prop}
  {result : Except OIDCIdentityError ℕ} {claims : Json} {target : ℕ × User}

theorem Grows.imp (h : Grows links after P) (himp : ∀ link, P link → Q link) :
    Grows links after Q :=
  h.imp_right fun ⟨link, hlink, hfree, heq⟩ ↦ ⟨link, himp link hlink, hfree, heq⟩

theorem Grows.unique (h : Grows links after P) (hunique : UniqueLinks links) :
    UniqueLinks after := by
  rcases h with rfl | ⟨link, -, hfree, rfl⟩
  · exact hunique
  · exact ⟨hunique.securityKey.insert fun k hk ↦ (hfree k hk).1,
      hunique.providerUser.insert fun k hk ↦ (hfree k hk).2⟩

/-- A new link has the property. -/
theorem Grows.of_new (h : Grows links after P) {k : ℕ} (hk : k ∈ after.ids)
    (hnew : k ∉ links.ids) : P (after.row k) := by
  rcases h with rfl | ⟨link, hlink, -, rfl⟩
  · exact absurd hk hnew
  · rwa [row_of_mem_insert hk hnew]

/-! ### What the calls do to links -/

@[simp] theorem editUser_links {f : User → User} : (db.editUser now userId f).links = db.links :=
  rfl

theorem withProfile_links : ({ db with
    identities := db.identities.modify identityId (.withProfile value now) } : Database).links =
      db.links :=
  map_modify fun _ ↦ rfl

/-- A profile has no part in a link. -/
theorem applyProfile_links :
    (applyProfile lib db now provider userId identityId value).1.links = db.links := by
  dsimp only [applyProfile]
  split
  · exact withProfile_links
  · split
    next => split <;> exact withProfile_links
    next => split <;> exact withProfile_links
    next => rw [editUser_links]; split <;> exact withProfile_links

/-- A row that is written is one that the constraints let through. -/
theorem insertIdentity_links {row : ExternalIdentity} (hsaved : saved.links = db.links) :
    Grows db.links (insertIdentity saved db now row).1.links (· = row.link) := by
  rw [insertIdentity]
  split
  next => exact .inl hsaved
  next hfree =>
    refine .inr ⟨row.link, rfl, fun k hk ↦ ?_, map_insert⟩
    have hrow := (exists?_eq_false _).1 (Bool.eq_false_iff.2 hfree) k hk
    rw [Bool.or_eq_false_iff, decide_eq_false_iff_not, decide_eq_false_iff_not] at hrow
    exact hrow

/-- `create_identity` adds one link, or none. -/
theorem createIdentity_links (hdb : db.links = links) (hsaved : saved.links = links) :
    Grows links (createIdentity saved db now providerId provider userId value linkMethod
      linkedByUserId).1.links fun link ↦
        link.providerUser = (providerId, userId) ∧ link.linkMethod = linkMethod := by
  subst hdb
  dsimp only [createIdentity]
  split
  · exact .inl rfl
  · split
    next => split <;> exact .inl rfl
    next => exact (insertIdentity_links hsaved).imp fun _ h ↦ h ▸ ⟨rfl, rfl⟩

theorem links_of_createIdentity {after : Database}
    (h : createIdentity saved db now providerId provider userId value linkMethod linkedByUserId =
      (after, result)) (hdb : db.links = links) (hsaved : saved.links = links) :
    Grows links after.links fun link ↦
      link.providerUser = (providerId, userId) ∧ link.linkMethod = linkMethod := by
  have hgrows : Grows links (createIdentity saved db now providerId provider userId value
      linkMethod linkedByUserId).1.links fun link ↦
        link.providerUser = (providerId, userId) ∧ link.linkMethod = linkMethod :=
    createIdentity_links hdb hsaved
  rwa [h] at hgrows

theorem links_of_applyProfile {after : Database} {result : Except OIDCIdentityError Unit}
    (h : applyProfile lib db now provider userId identityId value = (after, result)) :
    after.links = db.links :=
  (congrArg (fun outcome ↦ outcome.1.links) h).symm.trans applyProfile_links

theorem signIn_links : (signIn lib db now provider identityId value).1.links = db.links := by
  dsimp only [signIn]
  split
  next => rfl
  next =>
    split
    next h => exact links_of_applyProfile h
    next h => exact links_of_applyProfile h

theorem awaitConfirmation_links :
    (awaitConfirmation lib view db now transactionId transaction value).1.links = db.links := by
  rw [awaitConfirmation]
  split <;> rfl

theorem linkByEmail_links :
    Grows db.links (linkByEmail lib db now providerId provider userId value).1.links fun link ↦
      link.providerUser = (providerId, userId) ∧ link.linkMethod = "verified_email_match" := by
  rw [linkByEmail]
  split
  next h => exact links_of_createIdentity h rfl rfl
  next h =>
    have hcreate := links_of_createIdentity h rfl rfl
    split
    next h => rwa [← links_of_applyProfile h] at hcreate
    next h => rwa [← links_of_applyProfile h] at hcreate

/-- Only a new user gets the identity. -/
theorem provisionUser_links :
    Grows db.links (provisionUser lib db now providerId provider value).1.links fun link ↦
      link.providerUser = (providerId, db.users.freshKey) ∧
        link.linkMethod = "jit_provisioning" := by
  rw [provisionUser]
  split
  next => exact .inl rfl
  next =>
    split
    next h => exact links_of_createIdentity h rfl rfl
    next h => exact links_of_createIdentity h rfl rfl

variable (lib db now providerId provider transactionId value) in
/-- A first login adds a link for a new user, or for the one whose email the claims state, where
the provider matches automatically. -/
theorem firstLogin_links : ∃ userId,
    (Grows db.links (firstLogin lib db now providerId provider transactionId value).1.links
      fun link ↦ link.providerUser = (providerId, userId) ∧ link.linkMethod ≠ "admin_invitation") ∧
      (userId ∉ db.users.ids ∨
        provider.emailMatchingMode = .automatic ∧ (db.users.row userId).email = value.email) := by
  have hfresh : db.users.freshKey ∉ db.users.ids := fun h ↦ db.users.ne_freshKey h rfl
  rw [firstLogin]
  split
  next userId hmode hselect =>
    have hmem : userId ∈ db.users.select fun user ↦ user.email = value.email && user.isActive :=
      hselect ▸ List.mem_singleton_self userId
    have hmatch := ((mem_select _).1 hmem).2
    rw [Bool.and_eq_true, decide_eq_true_eq] at hmatch
    exact ⟨userId, linkByEmail_links.imp fun _ h ↦ ⟨h.1, by rw [h.2]; decide⟩,
      .inr ⟨hmode, hmatch.1⟩⟩
  next => exact ⟨db.users.freshKey, .inl rfl, .inl hfresh⟩
  next =>
    split
    next =>
      exact ⟨_, provisionUser_links.imp fun _ h ↦ ⟨h.1, by rw [h.2]; decide⟩, .inl hfresh⟩
    next => exact ⟨db.users.freshKey, .inl rfl, .inl hfresh⟩
  next => exact ⟨db.users.freshKey, .inl rfl, .inl hfresh⟩

/-! ### The calls -/

theorem normalisedIdentityClaims_of_loginClaims
    (h : loginClaims lib db now provider transaction claims = .ok value) :
    normalisedIdentityClaims lib.toTextLibrary provider claims = .ok value := by
  rw [loginClaims, bind_eq_ok] at h
  obtain ⟨value', hvalue, h⟩ := h
  split at h
  next =>
    obtain ⟨-, -, h⟩ := bind_eq_ok.1 h
    rwa [← pure_eq_ok.1 h]
  next => rwa [← pure_eq_ok.1 h]

variable (lib view db clock providerId provider transactionId transaction) in
/-- `resolve_login` adds a link for a new user, or for the one whose email the claims state, where
the provider matches automatically. -/
theorem resolveLogin_links (claims : Json) : ∃ userId, (Grows db.links
      (resolveLogin lib view db clock providerId provider transactionId transaction claims).1.links
      fun link ↦ link.providerUser = (providerId, userId) ∧ link.linkMethod ≠ "admin_invitation") ∧
      (userId ∉ db.users.ids ∨ provider.emailMatchingMode = .automatic ∧
        ∃ value, normalisedIdentityClaims lib.toTextLibrary provider claims = .ok value ∧
          (db.users.row userId).email = value.email) := by
  have hfresh : db.users.freshKey ∉ db.users.ids := fun h ↦ db.users.ne_freshKey h rfl
  rw [resolveLogin]
  split
  next => exact ⟨db.users.freshKey, .inl rfl, .inl hfresh⟩
  next value hclaims =>
    split
    next =>
      split
      next => exact ⟨db.users.freshKey, .inl rfl, .inl hfresh⟩
      next => exact ⟨db.users.freshKey, .inl signIn_links, .inl hfresh⟩
    next =>
      split
      next => exact ⟨db.users.freshKey, .inl awaitConfirmation_links, .inl hfresh⟩
      next =>
        obtain ⟨userId, hgrows, hreason⟩ :=
          firstLogin_links lib db clock.now providerId transactionId provider value
        exact ⟨userId, hgrows, hreason.imp_right fun ⟨hmode, hemail⟩ ↦
          ⟨hmode, value, normalisedIdentityClaims_of_loginClaims hclaims, hemail⟩⟩

theorem validateInvitation_eq_ok {invitation : OIDCLinkInvitation} :
    validateInvitation lib db transaction target now value = .ok invitation ↔
      transaction.linkInvitationId.bind db.invitations.get? = some invitation ∧
      ∃ provider, db.providers.get? transaction.providerId = some provider ∧
        Completable lib target.1 target.2 transaction.providerId provider now invitation ∧
        (value.emailVerified = true ∧ normaliseEmail lib.toTextLibrary (some value.email) =
          normaliseEmail lib.toTextLibrary (some target.2.email)) := by
  simp only [validateInvitation, validateAdminLinkInvitation, found_bind_eq_ok,
    require_bind_eq_ok, pure_eq_ok]
  constructor
  · rintro ⟨invitation', hinvit, provider, hprov, hcompletable, hmatch, rfl⟩
    exact ⟨hinvit, provider, hprov, hcompletable, hmatch⟩
  · rintro ⟨hinvit, provider, hprov, hcompletable, hmatch⟩
    exact ⟨invitation, hinvit, provider, hprov, hcompletable, hmatch, rfl⟩

/-- What a confirmation has been checked for. -/
structure Checked (lib : LinkLibrary) (db : Database) (now : ℤ) (transaction : OIDCTransaction)
    (currentUser : Option ℕ) (passwordVerified : Bool) (confirmation : Confirmation) : Prop where
  claims : transaction.validatedClaims = some confirmation.value
  target : db.target transaction = some confirmation.target
  provider : db.providers.get? transaction.providerId = some confirmation.provider
  flow : transaction.flowType ≠ .login
  owner : transaction.flowType = .selfLink → currentUser = some confirmation.target.1
  recipient : transaction.flowType = .adminLink → currentUser = some confirmation.target.1
  password : transaction.flowType = .emailMatch → passwordVerified = true
  invitation : ∀ invitation, confirmation.invitation = some invitation →
    transaction.flowType = .adminLink ∧
      validateInvitation lib db transaction confirmation.target now confirmation.value =
        .ok invitation
  noInvitation : confirmation.invitation = none → transaction.flowType ≠ .adminLink

theorem checked_of_checkConfirmation {currentUser : Option ℕ} {passwordVerified : Bool}
    {confirmation : Confirmation}
    (h : checkConfirmation lib db now transaction currentUser passwordVerified = .ok confirmation) :
    Checked lib db now transaction currentUser passwordVerified confirmation := by
  simp only [checkConfirmation, found_bind_eq_ok, require_bind_eq_ok] at h
  obtain ⟨value, hvalue, hflow, target, htgt, provider, hprov, howner, hrecipient, h⟩ := h
  split at h
  next hadmin =>
    obtain ⟨invitation, hinvit, h⟩ := bind_eq_ok.1 h
    obtain ⟨valid, hvalid, rfl⟩ := map_eq_ok.1 hinvit
    rw [require_bind_eq_ok, pure_eq_ok] at h
    obtain ⟨hpassword, rfl⟩ := h
    exact ⟨hvalue, htgt, hprov, hflow, howner, hrecipient, hpassword,
      fun _ heq ↦ ⟨hadmin, Option.some.inj heq ▸ hvalid⟩, fun hnone ↦ absurd hnone (by simp)⟩
  next hother =>
    obtain ⟨invitation, hinvit, h⟩ := bind_eq_ok.1 h
    obtain rfl := pure_eq_ok.1 hinvit
    rw [require_bind_eq_ok, pure_eq_ok] at h
    obtain ⟨hpassword, rfl⟩ := h
    exact ⟨hvalue, htgt, hprov, hflow, howner, hrecipient, hpassword,
      fun _ hsome ↦ absurd hsome (by simp), fun _ ↦ hother⟩

theorem target_eq_some : db.target transaction = some target ↔
    transaction.targetUserId = some target.1 ∧ db.users.get? target.1 = some target.2 := by
  rw [Database.target, Option.bind_eq_some_iff]
  constructor
  · rintro ⟨userId, htgt, h⟩
    obtain ⟨user, huser, rfl⟩ := Option.map_eq_some_iff.1 h
    exact ⟨htgt, huser⟩
  · rintro ⟨htgt, huser⟩
    exact ⟨target.1, htgt, Option.map_eq_some_iff.2 ⟨target.2, huser, rfl⟩⟩

/-! ### Invitations -/

theorem applyProfile_invitations :
    (applyProfile lib db now provider userId identityId value).1.invitations = db.invitations := by
  dsimp only [applyProfile]
  split
  · rfl
  · split
    next => split <;> rfl
    next => split <;> rfl
    next => split <;> rfl

theorem invitations_of_applyProfile {after : Database} {result : Except OIDCIdentityError Unit}
    (h : applyProfile lib db now provider userId identityId value = (after, result)) :
    after.invitations = db.invitations :=
  (congrArg (fun outcome ↦ outcome.1.invitations) h).symm.trans applyProfile_invitations

/-- A link is created with the invitations as they were before, unless it is rolled back. -/
theorem createIdentity_invitations {outcome : Outcome ℕ}
    (h : createIdentity saved db now providerId provider userId value linkMethod linkedByUserId =
      outcome) : outcome.1 = saved ∨ outcome.1.invitations = db.invitations := by
  subst h
  dsimp only [createIdentity]
  split
  · exact .inr rfl
  · split
    next => split <;> exact .inr rfl
    next =>
      rw [insertIdentity]
      split
      next => exact .inl rfl
      next => exact .inr rfl

theorem invitations_of_createIdentity {after : Database}
    (h : createIdentity saved db now providerId provider userId value linkMethod linkedByUserId =
      (after, result)) {invitations : Table OIDCLinkInvitation} (hdb : db.invitations = invitations)
    (hsaved : saved.invitations = invitations) : after.invitations = invitations :=
  (createIdentity_invitations h).elim
    (fun heq ↦ (congrArg Database.invitations heq).trans hsaved) (Eq.trans · hdb)

theorem linkByEmail_invitations :
    (linkByEmail lib db now providerId provider userId value).1.invitations = db.invitations := by
  rw [linkByEmail]
  split
  next h => exact invitations_of_createIdentity h rfl rfl
  next h =>
    have hcreate := invitations_of_createIdentity h rfl rfl
    split
    next h => exact (invitations_of_applyProfile h).trans hcreate
    next h => exact (invitations_of_applyProfile h).trans hcreate

theorem provisionUser_invitations :
    (provisionUser lib db now providerId provider value).1.invitations = db.invitations := by
  rw [provisionUser]
  split
  next => rfl
  next =>
    split
    next h => exact invitations_of_createIdentity h rfl rfl
    next h => exact invitations_of_createIdentity h rfl rfl

theorem signIn_invitations :
    (signIn lib db now provider identityId value).1.invitations = db.invitations := by
  dsimp only [signIn]
  split
  next => rfl
  next =>
    split
    next h => exact invitations_of_applyProfile h
    next h => exact invitations_of_applyProfile h

/-- A login has no part in an invitation. -/
theorem resolveLogin_invitations :
    (resolveLogin lib view db clock providerId provider transactionId transaction
      claims).1.invitations = db.invitations := by
  rw [resolveLogin]
  split
  next => rfl
  next =>
    split
    next =>
      split
      next => rfl
      next => exact signIn_invitations
    next =>
      split
      next =>
        rw [awaitConfirmation]
        split <;> rfl
      next =>
        rw [firstLogin]
        split
        next => exact linkByEmail_invitations
        next => rfl
        next =>
          split
          next => exact provisionUser_invitations
          next => rfl
        next => rfl

/-! ### Confirmations -/

/-- The confirmation completes the invitation. -/
structure LinksByInvitation (lib : LinkLibrary) (db after : Database) (clock : Clock)
    (transaction : OIDCTransaction) (confirmation : Confirmation) (invitationId : ℕ) : Prop where
  flow : transaction.flowType = .adminLink
  invitation : transaction.linkInvitationId = some invitationId
  mem : invitationId ∈ db.invitations.ids
  completable : Completable lib confirmation.target.1 confirmation.target.2
    transaction.providerId confirmation.provider clock.later (db.invitations.row invitationId)
  email : confirmation.value.emailVerified = true ∧
    normaliseEmail lib.toTextLibrary (some confirmation.value.email) =
      normaliseEmail lib.toTextLibrary (some confirmation.target.2.email)
  invitations : after.invitations = db.invitations.modify invitationId (.completed clock.later)
  links : Grows db.links after.links fun link ↦
    link.providerUser = (transaction.providerId, confirmation.target.1) ∧
      link.linkMethod = "admin_invitation"

/-- The confirmation is the user's own. -/
structure LinksByUser (db after : Database) (transaction : OIDCTransaction)
    (confirmation : Confirmation) : Prop where
  flow : transaction.flowType = .selfLink ∨ transaction.flowType = .emailMatch
  invitations : after.invitations = db.invitations
  links : Grows db.links after.links fun link ↦
    link.providerUser = (transaction.providerId, confirmation.target.1) ∧
      link.linkMethod ≠ "admin_invitation"

variable (lib view db clock transaction) in
/-- A confirmation changes neither links nor invitations, or it links the user whom it has been
checked for. -/
theorem confirmTransactionLink_cases (currentUser : Option ℕ) (passwordVerified : Bool) :
    let after :=
      (confirmTransactionLink lib view db clock transaction currentUser passwordVerified).1
    (after.links = db.links ∧ after.invitations = db.invitations) ∨ ∃ confirmation,
      Checked lib view clock.now transaction currentUser passwordVerified confirmation ∧
        (LinksByUser db after transaction confirmation ∨
          ∃ invitationId, LinksByInvitation lib db after clock transaction confirmation
            invitationId) := by
  rw [confirmTransactionLink]
  split
  next => exact .inl ⟨rfl, rfl⟩
  next confirmation hok =>
    have hchecked := checked_of_checkConfirmation hok
    split
    next invitation hinvit =>
      obtain ⟨hadmin, hvalid⟩ := hchecked.invitation invitation hinvit
      obtain ⟨-, -, -, -, hemail⟩ := validateInvitation_eq_ok.1 hvalid
      rw [linkByInvitation]
      split
      next => exact .inl ⟨rfl, rfl⟩
      next invitations hcomplete =>
        obtain ⟨invitationId, hid, hupdate⟩ := Option.bind_eq_some_iff.1 hcomplete
        obtain ⟨⟨hmem, hcompletable⟩, rfl⟩ := (updateIf_eq_some _).1 hupdate
        -- a rollback takes the completion back
        rcases createIdentity_invitations rfl with hrolled | hkept
        · exact .inl ⟨congrArg Database.links hrolled, congrArg Database.invitations hrolled⟩
        · exact .inr ⟨confirmation, hchecked, .inr ⟨invitationId, hadmin, hid, hmem, hcompletable,
            hemail, hkept, createIdentity_links rfl rfl⟩⟩
    next hnone =>
      refine .inr ⟨confirmation, hchecked, .inl ⟨?_, ?_, ?_⟩⟩
      · cases hflow : transaction.flowType with
        | login => exact absurd hflow hchecked.flow
        | adminLink => exact absurd hflow (hchecked.noInvitation hnone)
        | selfLink => exact .inl rfl
        | emailMatch => exact .inr rfl
      · exact (createIdentity_invitations rfl).elim (congrArg Database.invitations) id
      · refine (createIdentity_links rfl rfl).imp fun _ h ↦ ⟨h.1, ?_⟩
        rw [h.2]
        split <;> decide

end Kaya.OIDC
