import Kaya.HA.AgentKeys

/-!
# Identities and keys of backup agents

`issue_bootstrap`, `register_identity` and `consume_rotation_bootstrap` of
`app/services/backup_agent_protocol.py`, `rotate` and the identity side of `change_agent_lifecycle`
of `app/routers/backup_agent_v2.py`.

Every key an agent ever had stays in the table, and a text that is in the table is never accepted
again: `signingTexts_nodup`. As for the nodes of a high-availability cluster, that is uniqueness of
**texts**, and `OneKeyOneAgent` follows where the agents submit the text `b64u` of their key.

**Outside.** The digest of a token, the verification of a signature, and the identifiers the server
draws, which are inputs here; one that is taken makes the commit fail.
-/

namespace Kaya.Backup

open Kaya.HA (DateTime seconds)
open Kaya.HA.Credentials Base64 List

/-! ### The rows -/

/-- `HTTPException`. -/
structure HTTPException where
  status : ℕ
  detail : String

/-- `BackupAgentIdentity.state`. -/
inductive IdentityState
  | active
  | rotationPending
  | revoked
  | decommissioned
  deriving DecidableEq

/-- `BackupAgentIdentity`. -/
structure BackupAgentIdentity where
  id : String
  hostId : ℕ
  state : IdentityState
  envelopePublicKey : String
  activatedAt : Option DateTime := none
  revokedAt : Option DateTime := none
  deriving DecidableEq

/-- `BackupAgentKey.status`. -/
inductive KeyStatus
  | active
  | retired
  deriving DecidableEq

/-- `BackupAgentKey`. -/
structure BackupAgentKey where
  identityId : String
  keyId : String
  signingPublicKey : String
  status : KeyStatus := .active
  retiredAt : Option DateTime := none
  deriving DecidableEq

/-- `BackupAgentBootstrap`. -/
structure BackupAgentBootstrap where
  hostId : ℕ
  tokenHash : String
  expiresAt : DateTime
  usedAt : Option DateTime := none
  deriving DecidableEq

/-- The three tables. -/
structure AgentTables where
  identities : List BackupAgentIdentity := []
  keys : List BackupAgentKey := []
  bootstraps : List BackupAgentBootstrap := []

/-! ### Bootstrap tokens -/

/-- `BOOTSTRAP_TTL`, in seconds. -/
def bootstrapTtl : ℕ := 900

/-- A token of the host that has not been used. -/
def BackupAgentBootstrap.openFor (row : BackupAgentBootstrap) (hostId : ℕ) : Bool :=
  row.hostId = hostId ∧ row.usedAt = none

/-- The row is marked as used. -/
def markUsed (rows : List BackupAgentBootstrap) (p : BackupAgentBootstrap → Bool) (now : DateTime) :
    List BackupAgentBootstrap :=
  rows.map fun row ↦ if p row then { row with usedAt := some now } else row

/-- `issue_bootstrap`, with the digest of the new token. The column is unique. -/
def issueBootstrap (t : AgentTables) (hostId : ℕ) (hash : String) (now : DateTime) :
    Except HTTPException AgentTables :=
  if t.bootstraps.any (·.tokenHash = hash) then .error ⟨500, "Internal Server Error"⟩
  else
    .ok { t with
      bootstraps := markUsed t.bootstraps (·.openFor hostId) now ++
        [⟨hostId, hash, now + seconds bootstrapTtl, none⟩] }

/-- `consume_rotation_bootstrap`: the rows after it. -/
def consumeRotationBootstrap (t : AgentTables) (hostId : ℕ) (hash : String) (now : DateTime) :
    Except HTTPException (List BackupAgentBootstrap) :=
  match t.bootstraps.find? fun row ↦ row.openFor hostId ∧ row.tokenHash = hash with
  | none => .error ⟨401, "Invalid or expired rotation bootstrap"⟩
  | some row =>
    if row.expiresAt < now then .error ⟨401, "Invalid or expired rotation bootstrap"⟩
    else .ok (markUsed t.bootstraps (· = row) now)

/-! ### Registration and rotation -/

/-- `b64u_decode`. -/
def b64uDecode (value : String) : Option (List UInt8) :=
  if value = "" ∨ value.toList.contains '=' then none else urlsafeB64decode (repad value.toList)

/-- The text decodes to 32 bytes. -/
def isKeyText (value : String) : Bool := (b64uDecode value).any (·.length = 32)

/-- `register_identity`, with the identifiers it draws. -/
def registerIdentity (crypto : KeyCrypto) (t : AgentTables) (token signing envelope : String)
    (identityId keyId : String) (now : DateTime) : Except HTTPException AgentTables :=
  match t.bootstraps.find? fun row ↦ row.tokenHash = crypto.tokenHash token ∧ row.usedAt = none with
  | none => .error ⟨401, "Invalid or expired bootstrap token"⟩
  | some row =>
    if row.expiresAt < now then .error ⟨401, "Invalid or expired bootstrap token"⟩
    else if !isKeyText signing ∨ !isKeyText envelope then .error ⟨400, "Invalid agent public key"⟩
    else if t.identities.any (·.hostId = row.hostId) then .error ⟨409, "Host already enrolled"⟩
    else if t.keys.any (·.signingPublicKey = signing) ∨
        t.identities.any (·.envelopePublicKey = envelope) then
      .error ⟨409, "Agent public key has already been enrolled"⟩
    else if t.identities.any (·.id = identityId) ∨ t.keys.any (·.keyId = keyId) then
      .error ⟨500, "Internal Server Error"⟩
    else
      .ok {
        identities := t.identities ++ [⟨identityId, row.hostId, .active, envelope, some now, none⟩]
        keys := t.keys ++ [⟨identityId, keyId, signing, .active, none⟩]
        bootstraps := markUsed t.bootstraps (· = row) now }

/-- The identity and the key of `authenticate_request`. -/
def authenticated (t : AgentTables) (identityId keyId : String) :
    Except HTTPException (BackupAgentIdentity × BackupAgentKey) :=
  match t.identities.find? (·.id = identityId), t.keys.find? fun key ↦
      key.keyId = keyId ∧ key.identityId = identityId ∧ key.status = .active with
  | some identity, some key =>
    if identity.state = .active ∨ identity.state = .rotationPending then .ok (identity, key)
    else .error ⟨401, "Agent authentication failed"⟩
  | _, _ => .error ⟨401, "Agent authentication failed"⟩

/-- The body of a rotation; `none` for a value that is not a text. -/
structure RotatePayload where
  signingPublicKey : Option String
  envelopePublicKey : Option String
  bootstrapToken : Option String

/-- The key that is retired. -/
def BackupAgentKey.retire (key : BackupAgentKey) (now : DateTime) : BackupAgentKey :=
  { key with status := .retired, retiredAt := some now }

/-- `rotate`, with the identifier it draws. `active` tells whether the identity has a dispatch that
is claimed or running. -/
def rotate (crypto : KeyCrypto) (t : AgentTables) (identityId keyId : String)
    (payload : RotatePayload) (active : Bool) (newKeyId : String) (now : DateTime) :
    Except HTTPException AgentTables :=
  match authenticated t identityId keyId with
  | .error refusal => .error refusal
  | .ok (identity, key) =>
    match payload.signingPublicKey, payload.envelopePublicKey with
    | some signing, some envelope =>
      if !isKeyText signing ∨ !isKeyText envelope then
        .error ⟨400, "Invalid rotation public keys"⟩
      else match payload.bootstrapToken with
      | none => .error ⟨400, "Rotation bootstrap is required"⟩
      | some token =>
        if 256 < token.length then .error ⟨400, "Rotation bootstrap is required"⟩
        else match consumeRotationBootstrap t identity.hostId (crypto.tokenHash token) now with
        | .error refusal => .error refusal
        | .ok bootstraps =>
          if t.keys.any (·.signingPublicKey = signing) then
            .error ⟨409, "Signing key has already been used"⟩
          else if active then
            .error ⟨409, "Key rotation is blocked while a dispatch is active"⟩
          else if t.keys.any (·.keyId = newKeyId) then .error ⟨500, "Internal Server Error"⟩
          else
            .ok {
              identities := t.identities.map fun row ↦
                if row.id = identity.id then
                  { row with state := .active, envelopePublicKey := envelope }
                else row
              keys := (t.keys.map fun row ↦
                if row.keyId = key.keyId then row.retire now else row) ++
                  [⟨identity.id, newKeyId, signing, .active, none⟩]
              bootstraps := bootstraps }
    | _, _ => .error ⟨400, "Invalid rotation public keys"⟩

/-- The two actions of `change_agent_lifecycle`. -/
inductive Lifecycle
  | revoke
  | decommission

/-- The state an action leaves the identity in. -/
def Lifecycle.state : Lifecycle → IdentityState
  | .revoke => .revoked
  | .decommission => .decommissioned

/-- `change_agent_lifecycle`, without the dispatches. -/
def changeAgentLifecycle (t : AgentTables) (hostId : ℕ) (action : Lifecycle) (now : DateTime) :
    Except HTTPException AgentTables :=
  match t.identities.find? (·.hostId = hostId) with
  | none => .error ⟨404, "Agent identity not found"⟩
  | some identity =>
    .ok { t with
      identities := t.identities.map fun row ↦
        if row.id = identity.id then { row with state := action.state, revokedAt := some now }
        else row
      keys := t.keys.map fun row ↦
        if row.identityId = identity.id ∧ row.status = .active then row.retire now else row }

/-! ### The machine -/

/-- A call with the clock it reads. -/
inductive AgentCall
  | issue (hostId : ℕ) (hash : String) (now : DateTime)
  | register (token signing envelope identityId keyId : String) (now : DateTime)
  | rotate (identityId keyId : String) (payload : RotatePayload) (active : Bool)
      (newKeyId : String) (now : DateTime)
  | lifecycle (hostId : ℕ) (action : Lifecycle) (now : DateTime)

/-- What a call answers. -/
def agentCall (crypto : KeyCrypto) (t : AgentTables) : AgentCall → Except HTTPException AgentTables
  | .issue hostId hash now => issueBootstrap t hostId hash now
  | .register token signing envelope identityId keyId now =>
    registerIdentity crypto t token signing envelope identityId keyId now
  | .rotate identityId keyId payload active newKeyId now =>
    rotate crypto t identityId keyId payload active newKeyId now
  | .lifecycle hostId action now => changeAgentLifecycle t hostId action now

/-- The tables under calls one after the other; a call that fails changes nothing. -/
def agentMachine (crypto : KeyCrypto) : Machine AgentTables AgentCall where
  init t := t = {}
  step t call := (agentCall crypto t call).toOption.getD t

/-- The signing key a call submits. -/
def AgentCall.signing : AgentCall → Option String
  | .register _ signing _ _ _ _ => some signing
  | .rotate _ _ payload _ _ _ => payload.signingPublicKey
  | _ => none

/-- Agents submit the text `b64u` of their key. -/
def SubmitsWritten (_ : AgentTables) (call : AgentCall) : Prop :=
  ∀ signing, call.signing = some signing → WrittenByB64u signing

/-! ### Texts and keys -/

section Keys

variable {crypto : KeyCrypto} {t t' : AgentTables}
  {signing identityId keyId : String} {now : DateTime}

/-- The signing keys that have been stored, as they were submitted. -/
def AgentTables.texts (t : AgentTables) : List String := t.keys.map (·.signingPublicKey)

theorem map_texts {f : BackupAgentKey → BackupAgentKey}
    (hf : ∀ key, (f key).signingPublicKey = key.signingPublicKey) (keys : List BackupAgentKey) :
    (keys.map f).map (·.signingPublicKey) = keys.map (·.signingPublicKey) := by
  rw [map_map]
  exact map_congr_left fun key _ ↦ hf key

/-- A key that is retired, or left alone. -/
theorem retire_text (p : Prop) [Decidable p] (key : BackupAgentKey) (now : DateTime) :
    (if p then key.retire now else key).signingPublicKey = key.signingPublicKey := by
  split
  · rfl
  · rfl

theorem not_mem_texts (h : ¬ (t.keys.any (·.signingPublicKey = signing)) = true) :
    signing ∉ t.texts := by
  intro hmem
  obtain ⟨key, hkey, rfl⟩ := mem_map.1 hmem
  exact h (any_eq_true.2 ⟨key, hkey, decide_eq_true rfl⟩)

/-- What a call does to the texts: nothing, or it adds the one submitted, which was not there. -/
def TextStep (t t' : AgentTables) (call : AgentCall) : Prop :=
  t'.texts = t.texts ∨
    ∃ signing, call.signing = some signing ∧ signing ∉ t.texts ∧ t'.texts = t.texts ++ [signing]

theorem registerIdentity_texts {token envelope : String}
    (h : registerIdentity crypto t token signing envelope identityId keyId now = .ok t') :
    signing ∉ t.texts ∧ t'.texts = t.texts ++ [signing] := by
  rw [registerIdentity] at h
  split at h
  · exact nomatch h
  split at h
  · exact nomatch h
  split at h
  · exact nomatch h
  split at h
  · exact nomatch h
  split at h
  · exact nomatch h
  next hused =>
    split at h
    · exact nomatch h
    · obtain rfl := Except.ok.inj h
      exact ⟨not_mem_texts fun hany ↦ hused (.inl hany), map_append⟩

theorem rotate_texts {newKeyId : String} {payload : RotatePayload} {active : Bool}
    (h : rotate crypto t identityId keyId payload active newKeyId now = .ok t') :
    ∃ signing, payload.signingPublicKey = some signing ∧ signing ∉ t.texts ∧
      t'.texts = t.texts ++ [signing] := by
  rw [rotate] at h
  split at h
  · exact nomatch h
  split at h
  next signing envelope hsigning _ =>
    split at h
    · exact nomatch h
    split at h
    · exact nomatch h
    split at h
    · exact nomatch h
    split at h
    · exact nomatch h
    split at h
    · exact nomatch h
    next hused =>
      split at h
      · exact nomatch h
      split at h
      · exact nomatch h
      · obtain rfl := Except.ok.inj h
        refine ⟨signing, hsigning, not_mem_texts hused, ?_⟩
        rw [AgentTables.texts, map_append, map_texts fun key ↦ retire_text _ key now]
        rfl
  · exact nomatch h

theorem agentCall_texts {call : AgentCall} (h : agentCall crypto t call = .ok t') :
    TextStep t t' call := by
  cases call with
  | issue hostId hash now =>
    simp only [agentCall, issueBootstrap] at h
    split at h
    · exact nomatch h
    · obtain rfl := Except.ok.inj h
      exact .inl rfl
  | register token signing envelope identityId keyId now =>
    exact .inr ⟨signing, rfl, registerIdentity_texts h⟩
  | rotate identityId keyId payload active newKeyId now => exact .inr (rotate_texts h)
  | lifecycle hostId action now =>
    simp only [agentCall, changeAgentLifecycle] at h
    split at h
    · exact nomatch h
    · obtain rfl := Except.ok.inj h
      exact .inl (map_texts (fun key ↦ retire_text _ key now) t.keys)

theorem agentMachine_texts (call : AgentCall) :
    TextStep t ((agentMachine crypto).step t call) call := by
  show TextStep t ((agentCall crypto t call).toOption.getD t) call
  cases hcall : agentCall crypto t call with
  | error _ => exact .inl rfl
  | ok t' => exact agentCall_texts hcall

/-- **No text is stored twice**, whatever is submitted. -/
theorem signingTexts_nodup (ht : (agentMachine crypto).Reachable t) : t.texts.Nodup := by
  refine ht.invariant (P := fun t ↦ t.texts.Nodup) (fun t hinit ↦ ?_) fun t call hnodup ↦ ?_
  · obtain rfl : t = {} := hinit
    exact nodup_nil
  obtain hkept | ⟨signing, -, hnew, htexts⟩ := agentMachine_texts call
  · rw [hkept]
    exact hnodup
  · rw [htexts]
    exact hnodup.append (nodup_singleton _) (disjoint_singleton.2 hnew)

theorem signingTexts_written (ht : (agentMachine crypto).ReachableBy SubmitsWritten t) :
    ∀ text ∈ t.texts, WrittenByB64u text := by
  refine ht.invariant (P := fun t ↦ ∀ text ∈ t.texts, WrittenByB64u text) (fun t hinit ↦ ?_)
    fun t call hw hok ↦ ?_
  · obtain rfl : t = {} := hinit
    exact fun text h ↦ nomatch h
  obtain hkept | ⟨signing, hsigning, -, htexts⟩ := agentMachine_texts call
  · rw [hkept]
    exact hw
  · rw [htexts, forall_mem_append, forall_mem_singleton]
    exact ⟨hw, hok signing hsigning⟩

/-- No two active keys of different identities decode to one key of 32 bytes. -/
def OneKeyOneAgent (t : AgentTables) : Prop :=
  ∀ k ∈ t.keys, ∀ k' ∈ t.keys, k.identityId ≠ k'.identityId → k.status = .active →
    k'.status = .active → ∀ key, key.length = 32 → b64uDecode k.signingPublicKey = some key →
      b64uDecode k'.signingPublicKey ≠ some key

theorem b64uDecode_eq_some {text : String} {key : List UInt8} (h : b64uDecode text = some key) :
    decodeUrlsafe text = some key := by
  rw [b64uDecode] at h
  split at h
  · exact nomatch h
  · exact h

/-- Where the agents submit the text of their key, no two agents have one key. -/
theorem agentKeys_distinct (ht : (agentMachine crypto).ReachableBy SubmitsWritten t) :
    OneKeyOneAgent t := by
  intro k hk k' hk' hne _ _ key _ hkey hkey'
  have htext : k.signingPublicKey = k'.signingPublicKey :=
    (signingTexts_written ht _ (mem_map_of_mem hk)).eq_of_decode
      (signingTexts_written ht _ (mem_map_of_mem hk'))
      ((b64uDecode_eq_some hkey).trans (b64uDecode_eq_some hkey').symm)
  have hsame : k = k' := inj_on_of_nodup_map (signingTexts_nodup ht.reachable) hk hk' htext
  exact hne (congrArg BackupAgentKey.identityId hsame)

end Keys

/-- **One key, one identity**, in both registries, where the agents submit the text of their key. -/
theorem one_key_one_identity {crypto : KeyCrypto} {nodes : Table AgentNode} {t : AgentTables}
    (hs : (credentialMachine crypto).ReachableBy RegistersWritten nodes)
    (ht : (agentMachine crypto).ReachableBy SubmitsWritten t) :
    OneKeyOneNode nodes ∧ OneKeyOneAgent t :=
  ⟨keys_distinct hs, agentKeys_distinct ht⟩

/-- **No text is held twice** in either registry, whatever the agents submit. -/
theorem key_texts_distinct {crypto : KeyCrypto} {nodes : Table AgentNode} {t : AgentTables}
    (hs : (credentialMachine crypto).Reachable nodes) (ht : (agentMachine crypto).Reachable t) :
    TextsDistinct nodes ∧ t.texts.Nodup :=
  ⟨keyTexts_distinct hs, signingTexts_nodup ht⟩

/-! ### Two spellings of one key -/

section Sample

/-- Tokens are stored as they are, and every string of 32 bytes is a key. -/
def sampleCrypto : KeyCrypto := ⟨id, fun _ ↦ true⟩

/-- The text of a key of 32 equal bytes. -/
def keyText (byte : UInt8) : String := String.ofList (b64u (List.replicate 32 byte))

/-- The text of the key of zeros, with a bit set that no byte uses. -/
def otherSpelling : String := "AAAAAAAAAAAAAAAAAAAAAAAAAAAAAAAAAAAAAAAAAAB"

/-- Two nodes of one cluster. -/
def sampleNodes : Table AgentNode where
  ids := [1, 2]
  row id :=
    ⟨if id = 1 then "first" else "second", "cluster", false, none, none, none, 0, none, none⟩
  nodup := HA.nodup_pair

theorem sampleNodes_init : NoCredentials sampleNodes := fun _ ↦ rfl

/-- Both nodes register, with these texts. -/
def registrations (text text' : String) : List CredentialEvent :=
  [.bootstrap 1 "one" 0, .bootstrap 2 "two" 0, .register ⟨"cluster", "first", "one", text, "1"⟩ 0,
    .register ⟨"cluster", "second", "two", text', "1"⟩ 0]

/-- Two hosts enrol, with these signing keys. -/
def enrolments (text text' : String) : List AgentCall :=
  [.issue 1 "one" 0, .issue 2 "two" 0, .register "one" text (keyText 2) "agent-1" "key-1" 0,
    .register "two" text' (keyText 3) "agent-2" "key-2" 0]

theorem keyText_written (byte : UInt8) : WrittenByB64u (keyText byte) :=
  ⟨replicate 32 byte, String.toList_ofList⟩

theorem registrations_written (byte byte' : UInt8) :
    (credentialMachine sampleCrypto).Admissible RegistersWritten sampleNodes
      (registrations (keyText byte) (keyText byte')) := by
  refine ⟨nofun, nofun, fun payload now h ↦ ?_, fun payload now h ↦ ?_, trivial⟩
  · obtain ⟨rfl, -⟩ := CredentialEvent.register.inj h
    exact keyText_written byte
  · obtain ⟨rfl, -⟩ := CredentialEvent.register.inj h
    exact keyText_written byte'

theorem enrolments_written (byte byte' : UInt8) :
    (agentMachine sampleCrypto).Admissible SubmitsWritten {}
      (enrolments (keyText byte) (keyText byte')) := by
  refine ⟨nofun, nofun, fun signing h ↦ ?_, fun signing h ↦ ?_, trivial⟩
  · obtain rfl := Option.some.inj h
    exact keyText_written byte
  · obtain rfl := Option.some.inj h
    exact keyText_written byte'

theorem key_texts_distinct_sample :
    TextsDistinct ((credentialMachine sampleCrypto).run sampleNodes
        (registrations (keyText 0) otherSpelling)) ∧
      ((agentMachine sampleCrypto).run {} (enrolments (keyText 0) otherSpelling)).texts.Nodup :=
  key_texts_distinct (.run _ (.start sampleNodes_init)) (.run _ (.start rfl))

theorem one_key_one_identity_sample :
    OneKeyOneNode ((credentialMachine sampleCrypto).run sampleNodes
        (registrations (keyText 0) (keyText 1))) ∧
      OneKeyOneAgent ((agentMachine sampleCrypto).run {} (enrolments (keyText 0) (keyText 1))) :=
  one_key_one_identity (.run (.start sampleNodes_init) (registrations_written 0 1))
    (.run (.start rfl) (enrolments_written 0 1))

/-- **One key, two nodes; one key, two agents.** -/
theorem one_key_two_identities :
    (¬ ∀ nodes, (credentialMachine sampleCrypto).Reachable nodes → OneKeyOneNode nodes) ∧
      ¬ ∀ t, (agentMachine sampleCrypto).Reachable t → OneKeyOneAgent t := by
  constructor
  · intro hall
    have hone := hall _ (.run (registrations (keyText 0) otherSpelling) (.start sampleNodes_init))
    have hkeys := hone 1 (by decide) 2 (by decide) (by decide) _ (by rfl) _ (by rfl) rfl rfl _ rfl _
      rfl (replicate 32 0) (by decide)
    exact hkeys (by decide +kernel) (by decide +kernel)
  · intro hall
    have hone := hall _ (.run (enrolments (keyText 0) otherSpelling) (.start rfl))
    have hkeys := hone ⟨"agent-1", "key-1", keyText 0, .active, none⟩ (by decide +kernel)
      ⟨"agent-2", "key-2", otherSpelling, .active, none⟩ (by decide +kernel) (by decide) rfl rfl
      (replicate 32 0) (by decide)
    exact hkeys (by decide +kernel) (by decide +kernel)

end Sample

end Kaya.Backup
