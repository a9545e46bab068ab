import Kaya.Library.Checks
import Kaya.Library.PrefixCode
import Kaya.Library.PyText
import Mathlib.Data.List.MinMax

/-!
# Providers and their claims

`oidc_role_mapping.py` and the reading of claims in `oidc_identity.py`. Claims are JSON, as the
provider signs them; nothing is assumed about them. `validate_email` and the operations on text
outside ASCII are parameters.

`normalisedIdentityClaims` is where a provider's switch `require_verified_email` is looked at: what
it returns is verified only where the switch asks for it
(`emailVerified_of_normalisedIdentityClaims`).
-/

namespace Kaya.OIDC

open PyText

/-- The characters of a text. -/
abbrev Text := List Char

/-- A JSON value as Python reads it. A float is the text that `str` makes of it. -/
inductive Json
  | null
  | bool (b : Bool)
  | int (n : ℤ)
  | float (digits : Text)
  | text (t : Text)
  | list (items : List Json)
  | dict (items : List (Text × Json))

/-- What is not modelled of Python's texts, and `validate_email`: the normalised address, where the
text is one. -/
structure TextLibrary where
  validateEmail : Text → Option Text
  lower : Text → Text
  casefold : Text → Text
  repr : Json → Text

/-- `OIDCIdentityError`. -/
structure OIDCIdentityError where
  category : String
  message : String := "Your identity was verified, but your Kaya account is not authorised."

/-! ### Roles -/

/-- A role. -/
inductive Role
  | viewer
  | editor
  | admin
  deriving DecidableEq

namespace Role

/-- `ROLE_RANK`. -/
def rank : Role → ℕ
  | viewer => 1
  | editor => 2
  | admin => 3

/-- The text of a role in the database. -/
def text : Role → Text
  | viewer => "viewer".toList
  | editor => "editor".toList
  | admin => "admin".toList

/-- The key of `ROLE_RANK` that a text is. -/
def ofText? (text : Text) : Option Role :=
  if text = viewer.text then some viewer
  else if text = editor.text then some editor
  else if text = admin.text then some admin
  else none

end Role

/-! ### Providers -/

/-- `email_matching_mode`; any text but the two is as good as `disabled`. -/
inductive EmailMatchingMode
  | disabled
  | automatic
  | confirmation
  deriving DecidableEq

/-- `OIDCProvider`. `roleMappings` are the rows of `role_mappings_json`. -/
structure OIDCProvider where
  issuer : Text := []
  clientId : Text := []
  isEnabled : Bool := false
  requireVerifiedEmail : Bool := true
  allowJitProvisioning : Bool := false
  emailMatchingMode : EmailMatchingMode := .disabled
  allowedEmailDomains : Option Text := none
  defaultRole : Text := "viewer".toList
  syncRolesOnLogin : Bool := false
  updateNamesOnLogin : Bool := true
  updateEmailOnLogin : Bool := false
  emailClaim : Text := "email".toList
  emailVerifiedClaim : Text := "email_verified".toList
  nameClaim : Text := "name".toList
  firstNameClaim : Text := "given_name".toList
  lastNameClaim : Text := "family_name".toList
  preferredUsernameClaim : Text := "preferred_username".toList
  groupClaim : Text := "groups".toList
  roleMappings : List Json := []
  groupMatchingCaseSensitive : Bool := false
  updatedAt : Option ℤ := none

/-! ### Reading JSON -/

namespace Json

/-- `value.get(key)`. -/
def get (value : Json) (key : Text) : Json :=
  match value with
  | dict items => (items.lookup key).getD null
  | _ => null

/-- What `if value` asks. -/
def truthy : Json → Bool
  | null => false
  | bool b => b
  | int n => n ≠ 0
  | float digits => digits ≠ "0.0".toList ∧ digits ≠ "-0.0".toList
  | text t => t ≠ []
  | list items => !items.isEmpty
  | dict items => !items.isEmpty

/-- `str(value)`. -/
def str (lib : TextLibrary) : Json → Text
  | null => "None".toList
  | bool b => (if b then "True" else "False").toList
  | int n => intText n
  | float digits => digits
  | text t => t
  | value => lib.repr value

/-- `str(value or "").strip()`. -/
def strippedStr (lib : TextLibrary) (value : Json) : Text :=
  if value.truthy then stripChars (value.str lib) else []

end Json

/-! ### Claims -/

section Source

variable (lib : TextLibrary)

/-- The value at the end of a path. -/
def claimAt : List Text → Json → Json
  | [], value => value
  | part :: parts, .dict items =>
    if part = [] then .null else claimAt parts (Json.get (.dict items) part)
  | _ :: _, _ => .null

/-- `claim_value`. -/
def claimValue (claims : Json) (path : Text) : Json := claimAt (path.splitOn '.') claims

/-- `text or None`. -/
def orNone (text : Text) : Option Text := if text = [] then none else some text

/-- `claim_text`. -/
def claimText (claims : Json) (path : Text) : Option Text :=
  match claimValue claims path with
  | .text t => orNone ((stripChars t).take 1000)
  | .int n => orNone ((stripChars (Json.str lib (.int n))).take 1000)
  | .float digits => orNone ((stripChars digits).take 1000)
  | .bool b => orNone ((stripChars (Json.str lib (.bool b))).take 1000)
  | _ => none

/-- `claim_bool`. No character outside ASCII is lowered to a letter of these words. -/
def claimBool (claims : Json) (path : Text) : Bool :=
  match claimValue claims path with
  | .bool b => b
  | value =>
    (value.strippedStr lib).map Char.toLower ∈ ["1".toList, "true".toList, "yes".toList]

/-- The groups among the items of a list. -/
def groupOf : Json → Option Text
  | .text t => orNone ((stripChars t).take 255)
  | .int n => orNone ((stripChars (Json.str lib (.int n))).take 255)
  | .bool b => orNone ((stripChars (Json.str lib (.bool b))).take 255)
  | _ => none

/-- `claim_groups`. -/
def claimGroups (claims : Json) (path : Text) : List Text :=
  match claimValue claims path with
  | .text t => if stripChars t = [] then [] else [(stripChars t).take 255]
  | .list items => (items.take 100).filterMap (groupOf lib)
  | _ => []

/-- `normalise_email`. -/
def normaliseEmail (value : Option Text) : Option Text :=
  (lib.validateEmail (value.getD [])).map lib.lower

/-- `allowed_domains`. -/
def allowedDomains (provider : OIDCProvider) : List Text :=
  let lines := splitLines ((provider.allowedEmailDomains.getD []).map fun c ↦
    if c = ',' then '\n' else c)
  (lines.filter fun item ↦ stripChars item ≠ []).map fun item ↦
    (lib.lower (stripChars item)).dropWhile (· = '@')

/-- `email_is_allowed`. -/
def emailIsAllowed (provider : OIDCProvider) (email : Text) : Bool :=
  allowedDomains lib provider = [] ||
    lib.lower ((email.splitOn '@').getLastD []) ∈ allowedDomains lib provider

/-- `role_mappings`: the group and the role of each row that has both. -/
def roleMappings (provider : OIDCProvider) : List (Text × Role) :=
  provider.roleMappings.filterMap fun row ↦
    match row.get "role".toList with
    | .text role =>
      let group := Json.strippedStr lib (row.get "group".toList)
      if group = [] then none else (Role.ofText? role).map (group, ·)
    | _ => none

/-- How a group is compared. -/
def comparedGroup (provider : OIDCProvider) (group : Text) : Text :=
  if provider.groupMatchingCaseSensitive then group else lib.casefold group

/-- `mapped_role`. -/
def mappedRole (provider : OIDCProvider) (groups : List Text) : Option Role :=
  let candidates := (roleMappings lib provider).filter fun row ↦
    comparedGroup lib provider row.1 ∈ groups.map (comparedGroup lib provider)
  (candidates.map Prod.snd).argmax Role.rank

/-- `initial_role`. -/
def initialRole (provider : OIDCProvider) (groups : List Text) : Role :=
  (mappedRole lib provider groups).getD ((Role.ofText? provider.defaultRole).getD .viewer)

/-- What `normalised_identity_claims` returns. -/
structure IdentityClaims where
  iss : Text
  sub : Text
  email : Text
  emailVerified : Bool
  name : Option Text := none
  firstName : Option Text := none
  lastName : Option Text := none
  preferredUsername : Option Text := none
  groups : List Text := []

/-- `normalised_identity_claims`. -/
def normalisedIdentityClaims (provider : OIDCProvider) (claims : Json) :
    Except OIDCIdentityError IdentityClaims := do
  let issuer := (claims.get "iss".toList).strippedStr lib
  let subject := (claims.get "sub".toList).strippedStr lib
  let email := normaliseEmail lib (claimText lib claims provider.emailClaim)
  let verified := claimBool lib claims provider.emailVerifiedClaim
  require (issuer ≠ [] ∧ subject ≠ []) { category := "missing_security_identity" }
  let email ← found (email.filter (· ≠ [])) { category := "missing_or_invalid_email" }
  require (¬ (provider.requireVerifiedEmail ∧ ¬ verified)) { category := "unverified_email" }
  require (emailIsAllowed lib provider email) { category := "disallowed_email_domain" }
  pure {
    iss := issuer
    sub := subject
    email := email
    emailVerified := verified
    name := claimText lib claims provider.nameClaim
    firstName := claimText lib claims provider.firstNameClaim
    lastName := claimText lib claims provider.lastNameClaim
    preferredUsername := claimText lib claims provider.preferredUsernameClaim
    groups := claimGroups lib claims provider.groupClaim }

end Source

/-! ### What the readers return -/

variable {lib : TextLibrary} {provider : OIDCProvider}

/-- A provider that requires a verified email gets one. -/
theorem emailVerified_of_normalisedIdentityClaims {claims : Json} {value : IdentityClaims}
    (h : normalisedIdentityClaims lib provider claims = .ok value)
    (hrequired : provider.requireVerifiedEmail) : value.emailVerified := by
  simp only [normalisedIdentityClaims, require_bind_eq_ok, found_bind_eq_ok, pure_eq_ok] at h
  obtain ⟨-, email, -, hver, -, rfl⟩ := h
  by_contra hnot
  exact hver ⟨hrequired, hnot⟩

end Kaya.OIDC
