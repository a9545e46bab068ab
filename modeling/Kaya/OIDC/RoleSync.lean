import Kaya.Library.Departures
import Kaya.Library.Machine
import Kaya.OIDC.Providers

/-!
# Roles that follow the provider's groups

The end of `_apply_profile`: a login sets the role that the groups of its claims are mapped to, and
is refused where it would demote the last active administrator. Logins of different users run at
the same time. Each one loads its user, counts the active administrators in a statement of its own
and commits; between these steps other logins take theirs.

The count is of those who are administrators, not of those who are about to stop being one. Two
logins that lower the last two administrators both read two, and both commit: nobody is left
(`not_administrators_pos`). No login takes the last administrator's role as long as each of them
reads at most one, or at least two more than there are logins that have read and will demote
(`administrators_pos`).
-/

namespace Kaya.OIDC

open Departures Option

/-- `role_management` of an identity: `"oidc"` or `"local"`. -/
inductive RoleManagement
  | oidc
  | localOnly
  deriving DecidableEq

/-- What a login brings: the provider, the identity's `role_management` and the groups of the
claims. -/
structure Request where
  provider : OIDCProvider
  roleManagement : RoleManagement
  groups : List Text

/-- A login under way: the role as it was loaded, and the count of active administrators once it has
been read. -/
structure Login where
  request : Request
  role : Role
  administrators : Option ℕ := none

/-- A user with the login that is under way for them. -/
structure Account where
  role : Role
  isActive : Bool := true
  login : Option Login := none

section Source

variable (lib : TextLibrary)

/-- The role that a login is synchronised with. -/
def Request.syncedRole (request : Request) : Option Role :=
  if request.provider.syncRolesOnLogin ∧ request.roleManagement = .oidc then
    mappedRole lib request.provider request.groups
  else none

/-- What `_apply_profile` does to a role: the new one, where it changes. -/
def Request.applyRole (request : Request) (role : Role) (administrators : ℕ) :
    Except OIDCIdentityError (Option Role) := do
  match request.syncedRole lib with
  | none => pure none
  | some new =>
    if new = role then pure none
    else
      require (¬ (role = .admin ∧ new ≠ .admin ∧ administrators ≤ 1))
        { category := "last_administrator_protection" }
      pure (some new)

/-! ### The steps of a login -/

namespace Account

/-- `filter_by(role="admin", is_active=True)`. -/
def isAdministrator (account : Account) : Bool := account.role = .admin && account.isActive

/-- `db.get(User, …)` for a login with a known identity. -/
def load (request : Request) (account : Account) : Account :=
  if account.isActive ∧ account.login.isNone then
    { account with login := some { request := request, role := account.role } }
  else account

/-- The count is read. It is read once. -/
def read (administrators : ℕ) (account : Account) : Account :=
  { account with
    login := account.login.map fun login ↦
      { login with administrators := some (login.administrators.getD administrators) } }

/-- The end of a login: the change is committed, or the login is refused. -/
def finish (login : Login) (administrators : ℕ) (account : Account) : Account :=
  match login.request.applyRole lib login.role administrators with
  | .ok (some role) => { account with role := role, login := none }
  | .ok none => { account with login := none }
  | .error _ => { account with login := none }

/-- The login commits, once it has read. -/
def commit (account : Account) : Account :=
  match account.login with
  | none => account
  | some login =>
    match login.administrators with
    | none => account
    | some administrators => account.finish lib login administrators

/-- The login fails on its way. -/
def abandon (account : Account) : Account := { account with login := none }

end Account

/-- The number of active administrators. -/
def administrators (accounts : List Account) : ℕ := accounts.countP Account.isAdministrator

/-- What happens to the accounts. -/
inductive LoginEvent
  /-- A login loads its user. -/
  | load (i : ℕ) (request : Request)
  /-- A login counts the active administrators. -/
  | read (i : ℕ)
  /-- A login commits or is refused. -/
  | commit (i : ℕ)
  /-- A login fails. -/
  | abandon (i : ℕ)
  /-- A login without an account is given one. -/
  | provision (provider : OIDCProvider) (groups : List Text)

/-- One step of one login. -/
def loginStep (accounts : List Account) : LoginEvent → List Account
  | .load i request => accounts.modify i (Account.load request)
  | .read i => accounts.modify i (Account.read (administrators accounts))
  | .commit i => accounts.modify i (Account.commit lib)
  | .abandon i => accounts.modify i Account.abandon
  | .provision provider groups =>
    if provider.allowJitProvisioning then
      accounts ++ [{ role := initialRole lib provider groups }]
    else accounts

/-- Logins of different users, from a time when there is an active administrator. -/
def loginMachine : Machine (List Account) LoginEvent where
  init accounts := 0 < administrators accounts ∧ ∀ account ∈ accounts, account.login = none
  step := loginStep lib

/-! ### The condition on the counts -/

/-- The login takes an administrator's role away, unless it is refused. -/
def Login.demotes (login : Login) : Bool :=
  login.role = .admin && (login.request.syncedRole lib).any (· ≠ .admin)

/-- The account's login has passed the check and is about to demote. -/
def Account.isLeaving (account : Account) : Bool :=
  account.login.any fun login ↦ login.demotes lib && login.administrators.any (1 < ·)

/-- The account's login is about to demote and has not counted yet. -/
def Account.isUnread (account : Account) : Bool :=
  account.login.any fun login ↦ login.demotes lib && login.administrators.isNone

/-- A login that would demote reads at most one, or two more than there are logins that have passed
the check and not committed. -/
def CountsDepartures (accounts : List Account) : LoginEvent → Prop
  | .read i =>
    ∀ account ∈ accounts[i]?, account.isUnread lib → administrators accounts ≤ 1 ∨
        accounts.countP (Account.isLeaving lib) + 2 ≤ administrators accounts
  | _ => True

instance (accounts : List Account) : DecidablePred (CountsDepartures lib accounts)
  | .read i => inferInstanceAs (Decidable (∀ account ∈ accounts[i]?, account.isUnread lib →
      administrators accounts ≤ 1 ∨
        accounts.countP (Account.isLeaving lib) + 2 ≤ administrators accounts))
  | .load _ _ | .commit _ | .abandon _ | .provision _ _ => inferInstanceAs (Decidable True)

end Source

/-! ### One login -/

variable {lib : TextLibrary} {account : Account} {login : Login} {request : Request} {n i : ℕ}

/-- What a login has loaded is still so. -/
def Account.Loaded (account : Account) : Prop :=
  ∀ login ∈ account.login, account.isActive = true ∧ login.role = account.role

/-- A role that changes is the one the groups are mapped to; an administrator who loses theirs was
not the last one counted. -/
theorem Request.applyRole_eq_some {role new : Role}
    (h : request.applyRole lib role n = .ok (some new)) :
    request.syncedRole lib = some new ∧ ¬ (role = .admin ∧ new ≠ .admin ∧ n ≤ 1) := by
  rw [Request.applyRole] at h
  cases hsynced : request.syncedRole lib with
  | none => simp [hsynced] at h
  | some synced =>
    simp only [hsynced] at h
    split at h
    · simp at h
    · rw [require_bind_eq_ok, pure_eq_ok, some.injEq] at h
      obtain ⟨hkept, rfl⟩ := h
      exact ⟨rfl, hkept⟩

theorem Account.isLeaving_of_login (h : account.login = some login) :
    account.isLeaving lib = (login.demotes lib && login.administrators.any (1 < ·)) := by
  rw [Account.isLeaving, h, any_some]

theorem Account.isLeaving_of_none (h : account.login = none) : account.isLeaving lib = false := by
  rw [Account.isLeaving, h, any_none]

/-! ### One step -/

/-- What a step may do to an account: it lets no administrator go who was not about to leave, and
announces no departure. -/
def Keeps (lib : TextLibrary) (account after : Account) : Prop :=
  (after.isLeaving lib).toNat + account.isAdministrator.toNat ≤
    after.isAdministrator.toNat + (account.isLeaving lib).toNat

theorem Account.keeps_load : Keeps lib account (account.load request) := by
  rw [load]
  split
  next h =>
    rw [Keeps, isLeaving_of_login rfl, isLeaving_of_none (isNone_iff_eq_none.1 h.2)]
    simp [isAdministrator]
  next => exact (Nat.add_comm _ _).le

theorem Account.keeps_abandon : Keeps lib account account.abandon := by
  rw [Keeps, isLeaving_of_none rfl, Bool.toNat_false, Nat.zero_add]
  exact Nat.le_add_right _ _

theorem Account.isAdministrator_read : (account.read n).isAdministrator = account.isAdministrator :=
  rfl

/-- A login that does not demote, or reads again, announces nothing; nor does one that reads at most
one. -/
theorem Account.isLeaving_read (h : account.isUnread lib = true → n ≤ 1) :
    (account.read n).isLeaving lib = account.isLeaving lib := by
  cases hlogin : account.login with
  | none =>
    rw [isLeaving_of_none hlogin, isLeaving_of_none (by rw [read, hlogin]; rfl)]
  | some login =>
    have hafter : (account.read n).login =
        some { login with administrators := some (login.administrators.getD n) } := by
      rw [read, hlogin, map_some]
    rw [isLeaving_of_login hlogin, isLeaving_of_login hafter]
    cases hread : login.administrators with
    | some count => rfl
    | none =>
      rw [getD_none, any_some, any_none, Bool.and_false]
      cases hdemotes : login.demotes lib with
      | false => exact (congrArg (· && decide (1 < n)) hdemotes).trans (Bool.false_and _)
      | true =>
        have hn := h (by rw [isUnread, hlogin, any_some, hdemotes, hread]; rfl)
        rw [decide_eq_false (not_lt.2 hn), Bool.and_false]

/-- An administrator who stops being one has been leaving. -/
theorem Account.keeps_finish (hloaded : account.Loaded) (hlogin : account.login = some login)
    (hread : login.administrators = some n) : Keeps lib account (account.finish lib login n) := by
  obtain ⟨hlive, hrole⟩ := hloaded login hlogin
  rw [finish]
  split
  next new happly =>
    obtain ⟨hsynced, hkept⟩ := Request.applyRole_eq_some happly
    rw [Keeps, isLeaving_of_none rfl, Bool.toNat_false, Nat.zero_add]
    by_cases hnew : new = .admin
    · -- the role is an administrator's afterwards
      have hafter :
          ({ account with role := new, login := none } : Account).isAdministrator = true := by
        rw [isAdministrator, hlive, hnew]
        rfl
      rw [hafter]
      exact (Bool.toNat_le _).trans (Nat.le_add_right _ _)
    · by_cases hadmin : login.role = .admin
      · -- the login had read more than one
        have hmany : 1 < n := by
          by_contra hfew
          exact hkept ⟨hadmin, hnew, not_lt.1 hfew⟩
        have hdemotes : login.demotes lib = true := by
          rw [Login.demotes, hadmin, hsynced, any_some, decide_eq_true hnew]
          rfl
        rw [isLeaving_of_login hlogin, hread, hdemotes, any_some, decide_eq_true hmany]
        exact (Bool.toNat_le _).trans (Nat.le_add_left _ _)
      · have hbef : account.isAdministrator = false := by
          rw [isAdministrator, ← hrole, decide_eq_false hadmin, Bool.false_and]
        rw [hbef]
        exact Nat.zero_le _
  next => exact keeps_abandon
  next => exact keeps_abandon

theorem Account.keeps_commit (hloaded : account.Loaded) :
    Keeps lib account (account.commit lib) := by
  rw [commit]
  split
  next => exact (Nat.add_comm _ _).le
  next login hlogin =>
    split
    next => exact (Nat.add_comm _ _).le
    next n hread => exact keeps_finish hloaded hlogin hread

/-! ### Loaded roles -/

theorem Account.loaded_of_none (h : account.login = none) : account.Loaded := by
  intro login hlogin
  rw [h] at hlogin
  exact absurd hlogin (by simp)

theorem Account.Loaded.load (h : account.Loaded) (request : Request) :
    (account.load request).Loaded := by
  rw [Account.load]
  split
  next hlive =>
    intro login hlogin
    obtain rfl := some.inj (mem_def.1 hlogin)
    exact ⟨hlive.1, rfl⟩
  next => exact h

theorem Account.Loaded.read (h : account.Loaded) (n : ℕ) : (account.read n).Loaded := by
  intro login hlogin
  obtain ⟨before, hbef, rfl⟩ := map_eq_some_iff.1 (mem_def.1 hlogin)
  exact h before hbef

theorem Account.Loaded.commit (h : account.Loaded) : (account.commit lib).Loaded := by
  rw [Account.commit]
  split
  next => exact h
  next =>
    split
    next => exact h
    next =>
      refine loaded_of_none ?_
      rw [finish]
      split <;> rfl

/-! ### Every run -/

/-- Fewer logins will demote than there are active administrators, and what each login has loaded
is still so. -/
structure Staffed (lib : TextLibrary) (accounts : List Account) : Prop where
  covered : Covered Account.isAdministrator (Account.isLeaving lib) accounts
  loaded : ∀ account ∈ accounts, account.Loaded

variable {accounts : List Account}

/-- A step of one account that keeps what it may keep. -/
theorem Staffed.modify (h : Staffed lib accounts) {f : Account → Account}
    (hkeeps : ∀ account, account.Loaded → Keeps lib account (f account))
    (hloaded : ∀ account, account.Loaded → (f account).Loaded) :
    Staffed lib (accounts.modify i f) where
  covered := h.covered.modify fun account haccount ↦
    hkeeps account (h.loaded account (List.mem_of_getElem? haccount))
  loaded := forall_mem_modify h.loaded fun account hmem ↦ hloaded account (h.loaded account hmem)

theorem Staffed.read (h : Staffed lib accounts)
    (hcounts : CountsDepartures lib accounts (.read i)) :
    Staffed lib (accounts.modify i (Account.read (administrators accounts))) where
  covered := by
    by_cases hfew : ∀ account ∈ accounts[i]?, account.isUnread lib → administrators accounts ≤ 1
    · refine h.covered.modify fun account haccount ↦ ?_
      rw [Account.isLeaving_read (hfew account haccount), Account.isAdministrator_read]
      exact (Nat.add_comm _ _).le
    · -- a departure is announced: there are two administrators more than departures
      push Not at hfew
      obtain ⟨account, haccount, hunread, hmany⟩ := hfew
      have henough := (hcounts account haccount hunread).resolve_left (not_le.2 hmany)
      exact covered_modify_of_le henough fun _ _ ↦ rfl
  loaded := forall_mem_modify h.loaded fun account hmem ↦ (h.loaded account hmem).read _

theorem staffed_step {e : LoginEvent} (h : Staffed lib accounts)
    (hcounts : CountsDepartures lib accounts e) : Staffed lib (loginStep lib accounts e) := by
  cases e with
  | load i request =>
    exact h.modify (fun _ _ ↦ Account.keeps_load) fun _ hloaded ↦ hloaded.load request
  | read i => exact h.read hcounts
  | commit i =>
    exact h.modify (fun _ hloaded ↦ Account.keeps_commit hloaded) fun _ hloaded ↦ hloaded.commit
  | abandon i =>
    exact h.modify (fun _ _ ↦ Account.keeps_abandon) fun _ _ ↦ Account.loaded_of_none rfl
  | provision provider groups =>
    rw [loginStep]
    split
    next =>
      exact ⟨h.covered.append (Account.isLeaving_of_none rfl), fun account hmem ↦
        (List.mem_append.1 hmem).elim (h.loaded account) fun hnew ↦
          Account.loaded_of_none (by rw [List.mem_singleton.1 hnew])⟩
    next => exact h

theorem staffed_of_init (h : (loginMachine lib).init accounts) : Staffed lib accounts where
  covered := by
    have hnone : accounts.countP (Account.isLeaving lib) = 0 :=
      List.countP_eq_zero.2 fun account hmem ↦ by
        rw [Account.isLeaving_of_none (h.2 account hmem)]
        exact Bool.false_ne_true
    rw [Covered, hnone]
    exact h.1
  loaded account hmem := Account.loaded_of_none (h.2 account hmem)

/-- **The last administrator.** While every login that would demote reads at most one administrator,
or two more than there are logins about to demote, there is an active administrator. -/
theorem administrators_pos (h : (loginMachine lib).ReachableBy (CountsDepartures lib) accounts) :
    0 < administrators accounts :=
  (h.invariant (P := Staffed lib) (fun _ hinit ↦ staffed_of_init hinit)
    fun _ _ hstaffed hcounts ↦ staffed_step hstaffed hcounts).covered.pos

/-! ### Two administrators -/

/-- Texts in ASCII. -/
def asciiTexts : TextLibrary where
  validateEmail text := if '@' ∈ text then some text else none
  lower text := text.map Char.toLower
  casefold text := text.map Char.toLower
  repr _ := []

/-- A provider that makes viewers of its staff. -/
def staffProvider : OIDCProvider where
  syncRolesOnLogin := true
  roleMappings :=
    [.dict [("group".toList, .text "staff".toList), ("role".toList, .text "viewer".toList)]]

/-- A login of one of the staff. -/
def staffRequest : Request where
  provider := staffProvider
  roleManagement := .oidc
  groups := ["Staff".toList]

/-- Two administrators. -/
def twoAdministrators : List Account := [{ role := .admin }, { role := .admin }]

/-- The logins of two administrators, the first one before the second. -/
def sequentialLogins : List LoginEvent :=
  [.load 0 staffRequest, .read 0, .commit 0, .load 1 staffRequest, .read 1, .commit 1]

/-- The logins of two administrators at the same time. -/
def simultaneousLogins : List LoginEvent :=
  [.load 0 staffRequest, .load 1 staffRequest, .read 0, .read 1, .commit 0, .commit 1]

theorem init_twoAdministrators : (loginMachine asciiTexts).init twoAdministrators :=
  ⟨by decide, by decide⟩

theorem administrators_pos_sequentialLogins :
    0 < administrators ((loginMachine asciiTexts).run twoAdministrators sequentialLogins) :=
  administrators_pos (Machine.ReachableBy.run (.start init_twoAdministrators) (by decide +kernel))

/-- Nobody is left when both have read two. -/
theorem not_administrators_pos : ¬ ∀ (lib : TextLibrary) (accounts : List Account),
    (loginMachine lib).Reachable accounts → 0 < administrators accounts := by
  intro hpos
  have hinit : (loginMachine asciiTexts).Reachable twoAdministrators :=
    .start init_twoAdministrators
  have h := hpos asciiTexts _ (hinit.run simultaneousLogins)
  revert h
  decide +kernel

end Kaya.OIDC
