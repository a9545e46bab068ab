import Kaya.Library.Table
import Kaya.OIDC.Providers

/-!
# Link invitations

An administrator invites a user to link an identity. The invitation is claimed before the browser
leaves for the provider and completed when it is back, each time by one conditional `UPDATE`; a
third one revokes it. An invitation carries two hashes: of the recipient's row and of the provider's
row, as they were when it was made. Every check computes them again from the rows at hand.

Dates are microseconds. `sha256` and `isoformat` are parameters.
-/

namespace Kaya.OIDC

open PyText

/-- `hashlib.sha256(…).hexdigest()` and `isoformat`. -/
structure LinkLibrary extends TextLibrary where
  sha256 : Text → Text
  isoformat : ℤ → Text

/-- `User`. -/
structure User where
  email : Text
  passwordHash : Option Text := none
  firstName : Option Text := none
  lastName : Option Text := none
  role : Role := .viewer
  isActive : Bool := true
  authenticationType : String := "local"
  roleSource : String := "local"
  updatedAt : Option ℤ := none
  deriving DecidableEq

/-- `OIDCLinkInvitation`. -/
structure OIDCLinkInvitation where
  userId : ℕ
  providerId : ℕ
  createdByUserId : ℕ
  recipientBindingHash : Text
  providerBindingHash : Text
  redemptionSessionHash : Option Text := none
  expiresAt : ℤ
  usedAt : Option ℤ := none
  completedAt : Option ℤ := none
  revokedAt : Option ℤ := none

namespace OIDCLinkInvitation

/-- What a claim writes. -/
def claimed (now : ℤ) (invitation : OIDCLinkInvitation) : OIDCLinkInvitation :=
  { invitation with usedAt := some now, redemptionSessionHash := none }

/-- What a revocation writes. -/
def revoked (now : ℤ) (invitation : OIDCLinkInvitation) : OIDCLinkInvitation :=
  { invitation with revokedAt := some now, redemptionSessionHash := none }

/-- What a completion writes. -/
def completed (now : ℤ) (invitation : OIDCLinkInvitation) : OIDCLinkInvitation :=
  { invitation with completedAt := some now }

end OIDCLinkInvitation

section Source

variable (lib : LinkLibrary)

/-! ### Bindings -/

/-- `updated.isoformat() if updated else ""`. -/
def isoformatOrEmpty (updated : Option ℤ) : Text := (updated.map lib.isoformat).getD []

/-- `str(int(b))`. -/
def bit (b : Bool) : Text := if b then "1".toList else "0".toList

/-- The text that `invitation_recipient_binding` hashes. -/
def recipientBindingText (userId : ℕ) (user : User) : Text :=
  ['|'].intercalate [intText userId,
    (normaliseEmail lib.toTextLibrary (some user.email)).getD "None".toList, user.role.text,
    bit user.isActive, isoformatOrEmpty lib user.updatedAt]

/-- `invitation_recipient_binding`. -/
def invitationRecipientBinding (userId : ℕ) (user : User) : Text :=
  lib.sha256 (recipientBindingText lib userId user)

/-- The text that `invitation_provider_binding` hashes. -/
def providerBindingText (providerId : ℕ) (provider : OIDCProvider) : Text :=
  ['|'].intercalate [intText providerId, stripChars provider.issuer, stripChars provider.clientId,
    provider.emailClaim, provider.emailVerifiedClaim, bit provider.isEnabled,
    isoformatOrEmpty lib provider.updatedAt]

/-- `invitation_provider_binding`. -/
def invitationProviderBinding (providerId : ℕ) (provider : OIDCProvider) : Text :=
  lib.sha256 (providerBindingText lib providerId provider)

/-- The invitation is bound to the two rows. -/
def OIDCLinkInvitation.BoundTo (invitation : OIDCLinkInvitation) (userId : ℕ) (user : User)
    (providerId : ℕ) (provider : OIDCProvider) : Prop :=
  invitation.recipientBindingHash = invitationRecipientBinding lib userId user ∧
    invitation.providerBindingHash = invitationProviderBinding lib providerId provider

instance (invitation : OIDCLinkInvitation) (userId : ℕ) (user : User) (providerId : ℕ)
    (provider : OIDCProvider) :
    Decidable (invitation.BoundTo lib userId user providerId provider) :=
  inferInstanceAs (Decidable (_ ∧ _))

/-! ### The three updates -/

/-- The `WHERE` clause of `claim_admin_link_invitation`. -/
def Claimable (userId : ℕ) (user : User) (providerId : ℕ) (provider : OIDCProvider)
    (sessionHash : Text) (now : ℤ) (invitation : OIDCLinkInvitation) : Prop :=
  invitation.userId = userId ∧ invitation.BoundTo lib userId user providerId provider ∧
    invitation.redemptionSessionHash = some sessionHash ∧ invitation.usedAt = none ∧
    invitation.revokedAt = none ∧ now ≤ invitation.expiresAt

/-- The `WHERE` clause of `revoke_admin_link_invitation`. -/
def Revocable (now : ℤ) (invitation : OIDCLinkInvitation) : Prop :=
  invitation.completedAt = none ∧ invitation.revokedAt = none ∧ now ≤ invitation.expiresAt

/-- The `WHERE` clause of `confirm_transaction_link`. -/
def Completable (userId : ℕ) (user : User) (providerId : ℕ) (provider : OIDCProvider) (now : ℤ)
    (invitation : OIDCLinkInvitation) : Prop :=
  invitation.userId = userId ∧ invitation.providerId = providerId ∧
    invitation.BoundTo lib userId user providerId provider ∧ invitation.usedAt ≠ none ∧
    invitation.completedAt = none ∧ invitation.revokedAt = none ∧ now ≤ invitation.expiresAt

instance (userId : ℕ) (user : User) (providerId : ℕ) (provider : OIDCProvider)
    (sessionHash : Text) (now : ℤ) :
    DecidablePred (Claimable lib userId user providerId provider sessionHash now) :=
  fun _ ↦ inferInstanceAs (Decidable (_ ∧ _ ∧ _ ∧ _ ∧ _ ∧ _))

instance (now : ℤ) : DecidablePred (Revocable now) :=
  fun _ ↦ inferInstanceAs (Decidable (_ ∧ _ ∧ _))

instance (userId : ℕ) (user : User) (providerId : ℕ) (provider : OIDCProvider) (now : ℤ) :
    DecidablePred (Completable lib userId user providerId provider now) :=
  fun _ ↦ inferInstanceAs (Decidable (_ ∧ _ ∧ _ ∧ _ ∧ _ ∧ _ ∧ _))

/-- `claim_admin_link_invitation` of an invitation that the session has loaded as `loaded`. -/
def claimAdminLinkInvitation (invitations : Table OIDCLinkInvitation) (invitationId : ℕ)
    (loaded : OIDCLinkInvitation) (userId : ℕ) (user : User) (provider : Option OIDCProvider)
    (now : ℤ) : Option (Table OIDCLinkInvitation) :=
  match loaded.redemptionSessionHash.filter (· ≠ []), provider with
  | some sessionHash, some provider =>
    invitations.updateIf invitationId
      (Claimable lib userId user loaded.providerId provider sessionHash now) (.claimed now)
  | _, _ => none

/-- `revoke_admin_link_invitation`. -/
def revokeAdminLinkInvitation (invitations : Table OIDCLinkInvitation) (invitationId : ℕ)
    (now : ℤ) : Option (Table OIDCLinkInvitation) :=
  invitations.updateIf invitationId (Revocable now) (.revoked now)

/-- The `UPDATE` of `confirm_transaction_link`. -/
def completeInvitation (invitations : Table OIDCLinkInvitation) (invitationId : ℕ) (userId : ℕ)
    (user : User) (providerId : ℕ) (provider : OIDCProvider) (now : ℤ) :
    Option (Table OIDCLinkInvitation) :=
  invitations.updateIf invitationId (Completable lib userId user providerId provider now)
    (.completed now)

/-! ### The check on the way -/

/-- `validate_admin_link_invitation`, on the rows that the session holds. -/
def validateAdminLinkInvitation (invitation : Option OIDCLinkInvitation)
    (provider : Option OIDCProvider) (providerId targetId : ℕ) (target : User) (now : ℤ)
    (value : IdentityClaims) : Except OIDCIdentityError OIDCLinkInvitation := do
  let invitation ← found invitation { category := "invalid_link_invitation" }
  let provider ← found provider { category := "invalid_link_invitation" }
  require (Completable lib targetId target providerId provider now invitation)
    { category := "invalid_link_invitation" }
  require (value.emailVerified ∧ normaliseEmail lib.toTextLibrary (some value.email) =
      normaliseEmail lib.toTextLibrary (some target.email))
    { category := "invitation_identity_mismatch" }
  pure invitation

end Source

end Kaya.OIDC
