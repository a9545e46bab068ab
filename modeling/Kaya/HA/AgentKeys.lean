import Kaya.HA.Model
import Kaya.Library.Base64
import Kaya.Library.Machine

/-!
# Agent credentials

`create_bootstrap_token`, `revoke_agent` and `register_agent` of `app/services/ha_agents.py`. A node
has at most one credential; registering an agent puts a public key into it, as **the text that was
submitted**, and signatures are later verified against the bytes this text decodes to.

`keyTexts_distinct`: no two nodes hold one text, whatever is submitted. That is less than it seems,
since a text is read leniently (`Kaya.Library.Base64`) and two texts may be one key; `keys_distinct`
is what follows for nodes whose agents submit the text `b64u` of their key.

**Outside.** The digest of a bootstrap token and the answer of
`Ed25519PublicKey.from_public_bytes`.
-/

namespace Kaya.HA.Credentials

open Base64

/-! ### The rows -/

/-- The digest of a token, and which strings of 32 bytes are accepted as a public key. -/
structure KeyCrypto where
  tokenHash : String → String
  isPublicKey : List UInt8 → Bool

/-- `HAAgentCredential`. -/
structure AgentCredential where
  agentId : String
  publicKey : Option String := none
  bootstrapTokenHash : Option String := none
  bootstrapExpiresAt : Option DateTime := none
  registeredAt : Option DateTime := none
  revokedAt : Option DateTime := none
  lastRotatedAt : Option DateTime := none

/-- `HANode` with its cluster and its credential, as far as a registration reads or writes them. -/
structure AgentNode where
  publicId : String
  clusterPublicId : String
  clusterDeleted : Bool
  agentId : Option String := none
  agentVersion : Option String := none
  lastHeartbeatAt : Option DateTime := none
  lastReportSequence : ℕ := 0
  lastAgentReportedAt : Option DateTime := none
  credential : Option AgentCredential := none

/-- `HAAgentRegister`. -/
structure HAAgentRegister where
  clusterId : String
  nodeId : String
  bootstrapToken : String
  publicKey : String
  agentVersion : String

/-- The credential of a node holds this token. -/
def AgentNode.hasToken (node : AgentNode) (hash : String) : Bool :=
  match node.credential with
  | none => false
  | some credential => credential.bootstrapTokenHash = some hash

/-- The credential of a node holds this text as its public key. -/
def AgentNode.hasKey (node : AgentNode) (text : String) : Bool :=
  match node.credential with
  | none => false
  | some credential => credential.publicKey = some text

/-! ### The operations -/

/-- `BOOTSTRAP_LIFETIME_MINUTES`, in minutes. -/
def bootstrapLifetimeMinutes : ℕ := 15

/-- `create_bootstrap_token`, with the digest of the new token. The column is unique. -/
def createBootstrapToken (nodes : Table AgentNode) (id : ℕ) (hash : String) (now : DateTime) :
    Except String (Table AgentNode) :=
  if nodes.ids.any fun j ↦ j ≠ id ∧ (nodes.row j).hasToken hash then
    .error "UNIQUE constraint failed: ha_agent_credentials.bootstrap_token_hash"
  else
    .ok (nodes.modify id fun node ↦
      { node with
        credential := some
          { node.credential.getD { agentId := node.publicId } with
            bootstrapTokenHash := some hash
            bootstrapExpiresAt := some (now + seconds (60 * bootstrapLifetimeMinutes)) } })

/-- `revoke_agent`. -/
def revokeAgent (nodes : Table AgentNode) (id : ℕ) (now : DateTime) :
    Except String (Table AgentNode) :=
  match (nodes.row id).credential with
  | none => .error "This node does not have an agent identity."
  | some credential =>
    .ok (nodes.modify id fun node ↦
      { node with
        credential := some
          { credential with
            revokedAt := some now, bootstrapTokenHash := none, bootstrapExpiresAt := none } })

/-- `_decode_urlsafe`. -/
def decodeUrlsafe (value : String) : Option (List UInt8) := urlsafeB64decode (repad value.toList)

/-- The node as a registration leaves it. -/
def AgentNode.register (node : AgentNode) (credential : AgentCredential) (payload : HAAgentRegister)
    (now : DateTime) : AgentNode :=
  { node with
    credential := some
      { credential with
        publicKey := some payload.publicKey
        bootstrapTokenHash := none
        bootstrapExpiresAt := none
        registeredAt := some now
        lastRotatedAt := if credential.registeredAt.isSome then some now else none
        revokedAt := none }
    agentId := some credential.agentId
    agentVersion := some payload.agentVersion
    lastHeartbeatAt := some now
    lastReportSequence := 0
    lastAgentReportedAt := none }

/-- `register_agent`. -/
def registerAgent (crypto : KeyCrypto) (nodes : Table AgentNode) (payload : HAAgentRegister)
    (now : DateTime) : Except String (Table AgentNode) :=
  match nodes.ids.find? fun id ↦
      (nodes.row id).hasToken (crypto.tokenHash payload.bootstrapToken) with
  | none => .error "The bootstrap token is invalid, expired, or has already been used."
  | some id =>
    match (nodes.row id).credential with
    | none => .error "The bootstrap token is invalid, expired, or has already been used."
    | some credential =>
      if credential.bootstrapExpiresAt.all (· < now) then
        .error "The bootstrap token is invalid, expired, or has already been used."
      else if (nodes.row id).publicId ≠ payload.nodeId ∨
          (nodes.row id).clusterPublicId ≠ payload.clusterId ∨ (nodes.row id).clusterDeleted then
        .error "The bootstrap token is not valid for this cluster and node."
      else match decodeUrlsafe payload.publicKey with
      | none => .error "Invalid encoded agent credential."
      | some publicKey =>
        if publicKey.length ≠ 32 then
          .error "The agent public key must be an Ed25519 public key."
        else if !crypto.isPublicKey publicKey then
          .error "The agent public key must be an Ed25519 public key."
        else if nodes.ids.any fun j ↦ j ≠ id ∧ (nodes.row j).hasKey payload.publicKey then
          .error "This agent identity is already bound to another node."
        else .ok (nodes.modify id fun node ↦ node.register credential payload now)

/-! ### The machine -/

/-- A call, and the clock it reads. -/
inductive CredentialEvent
  | bootstrap (node : ℕ) (hash : String) (now : DateTime)
  | register (payload : HAAgentRegister) (now : DateTime)
  | revoke (node : ℕ) (now : DateTime)

/-- A call; one that fails changes nothing. -/
def credentialCall (crypto : KeyCrypto) (nodes : Table AgentNode) :
    CredentialEvent → Except String (Table AgentNode)
  | .bootstrap node hash now => createBootstrapToken nodes node hash now
  | .register payload now => registerAgent crypto nodes payload now
  | .revoke node now => revokeAgent nodes node now

/-- No node has a credential. -/
def NoCredentials (nodes : Table AgentNode) : Prop := ∀ id, (nodes.row id).credential = none

/-- The credentials of the nodes, under calls one after the other. -/
def credentialMachine (crypto : KeyCrypto) : Machine (Table AgentNode) CredentialEvent where
  init := NoCredentials
  step nodes e := (credentialCall crypto nodes e).toOption.getD nodes

/-- The text of a public key is the one that `b64u` writes, as the agents write it. -/
def WrittenByB64u (text : String) : Prop := ∃ key, text.toList = b64u key

/-- Agents that register submit the text `b64u` of their key. -/
def RegistersWritten (_ : Table AgentNode) (e : CredentialEvent) : Prop :=
  ∀ payload now, e = .register payload now → WrittenByB64u payload.publicKey

/-! ### Texts and keys -/

section Keys

variable {crypto : KeyCrypto} {nodes nodes' : Table AgentNode} {id j : ℕ} {text text' : String}

/-- One key, one text. -/
theorem WrittenByB64u.eq_of_decode (h : WrittenByB64u text) (h' : WrittenByB64u text')
    (hkey : decodeUrlsafe text = decodeUrlsafe text') : text = text' := by
  obtain ⟨key, hk⟩ := h
  obtain ⟨key', hk'⟩ := h'
  rw [decodeUrlsafe, decodeUrlsafe, hk, hk', urlsafeB64decode_b64u, urlsafeB64decode_b64u,
    Option.some_inj] at hkey
  refine String.ext ?_
  rw [hk, hk', hkey]

theorem hasKey_iff {node : AgentNode} : node.hasKey text = true ↔
    ∃ credential, node.credential = some credential ∧ credential.publicKey = some text := by
  rw [AgentNode.hasKey]
  cases node.credential with
  | none => simp
  | some credential => simp

/-- What a call does to the texts: a node has the text it had, or the one that has been submitted
and that no other node has. -/
def KeyStep (nodes nodes' : Table AgentNode) (e : CredentialEvent) : Prop :=
  (∀ id text, (nodes'.row id).hasKey text = true → (nodes.row id).hasKey text = true) ∨
    ∃ id payload now, e = .register payload now ∧
      (∀ text, (nodes'.row id).hasKey text = true → text = payload.publicKey) ∧
      (∀ j ∈ nodes.ids, j ≠ id → (nodes.row j).hasKey payload.publicKey = false) ∧
      ∀ j ≠ id, nodes'.row j = nodes.row j

/-- The tables before and after a call. -/
theorem credentialCall_keys {e : CredentialEvent} (h : credentialCall crypto nodes e = .ok nodes') :
    nodes'.ids = nodes.ids ∧ KeyStep nodes nodes' e := by
  cases e with
  | bootstrap id hash now =>
    simp only [credentialCall, createBootstrapToken] at h
    split at h
    · exact nomatch h
    · obtain rfl := Except.ok.inj h
      refine ⟨rfl, .inl fun j text hj ↦ ?_⟩
      rw [Table.modify_row] at hj
      split at hj
      · rw [hasKey_iff] at hj ⊢
        obtain ⟨credential, hc, hkey⟩ := hj
        obtain rfl := Option.some.inj hc
        cases hold : (nodes.row j).credential with
        | none => simp [hold] at hkey
        | some old => exact ⟨old, rfl, by simpa [hold] using hkey⟩
      · exact hj
  | revoke id now =>
    simp only [credentialCall, revokeAgent] at h
    cases hold : (nodes.row id).credential with
    | none => exact nomatch hold ▸ h
    | some old =>
      rw [hold] at h
      obtain rfl := Except.ok.inj h
      refine ⟨rfl, .inl fun j text hj ↦ ?_⟩
      rw [Table.modify_row] at hj
      split at hj
      next hid =>
        subst hid
        rw [hasKey_iff] at hj ⊢
        obtain ⟨credential, hc, hkey⟩ := hj
        obtain rfl := Option.some.inj hc
        exact ⟨old, hold, hkey⟩
      next => exact hj
  | register payload now =>
    simp only [credentialCall, registerAgent] at h
    split at h
    · exact nomatch h
    next id hfind =>
      split at h
      · exact nomatch h
      next credential hc =>
        split at h
        · exact nomatch h
        split at h
        · exact nomatch h
        split at h
        · exact nomatch h
        split at h
        · exact nomatch h
        split at h
        · exact nomatch h
        split at h
        · exact nomatch h
        next hreused =>
          obtain rfl := Except.ok.inj h
          refine ⟨rfl, .inr ⟨id, payload, now, rfl, fun text htext ↦ ?_, fun j hj hne ↦ ?_,
            fun j hne ↦ nodes.modify_row_of_ne hne _⟩⟩
          · rw [Table.modify_row_self, hasKey_iff] at htext
            obtain ⟨credential', hc', hkey⟩ := htext
            obtain rfl := Option.some.inj hc'
            exact (Option.some.inj hkey).symm
          · rw [Bool.eq_false_iff]
            exact fun hkey ↦ hreused (List.any_eq_true.2 ⟨j, hj, by simpa using ⟨hne, hkey⟩⟩)

/-- No two nodes hold one text. -/
def TextsDistinct (nodes : Table AgentNode) : Prop :=
  ∀ i ∈ nodes.ids, ∀ j ∈ nodes.ids, i ≠ j → ∀ text, (nodes.row i).hasKey text = true →
    (nodes.row j).hasKey text = false

/-- A call keeps the texts distinct. -/
theorem TextsDistinct.call {e : CredentialEvent} (hd : TextsDistinct nodes)
    (h : credentialCall crypto nodes e = .ok nodes') : TextsDistinct nodes' := by
  obtain ⟨hids, hkept | ⟨id, payload, now, -, hnew, hfree, hother⟩⟩ := credentialCall_keys h
  · intro i hi j hj hij text htext
    rw [hids] at hi hj
    have hfalse := hd i hi j hj hij text (hkept i text htext)
    exact Bool.eq_false_iff.2 fun hkey ↦ Bool.eq_false_iff.1 hfalse (hkept j text hkey)
  · intro i hi j hj hij text htext
    rw [hids] at hi hj
    by_cases hiid : i = id
    · subst hiid
      obtain rfl := hnew text htext
      rw [hother j hij.symm]
      exact hfree j hj hij.symm
    · rw [hother i hiid] at htext
      by_cases hjid : j = id
      · subst hjid
        refine Bool.eq_false_iff.2 fun hkey ↦ ?_
        obtain rfl := hnew text hkey
        exact Bool.eq_false_iff.1 (hfree i hi hiid) htext
      · rw [hother j hjid]
        exact hd i hi j hj hij text htext

/-- **No two nodes hold one text**, whatever is submitted. -/
theorem keyTexts_distinct (hs : (credentialMachine crypto).Reachable nodes) :
    TextsDistinct nodes := by
  refine hs.invariant (fun nodes hinit i hi j hj hij text htext ↦ ?_) fun nodes e hd ↦ ?_
  · obtain ⟨credential, hc, -⟩ := hasKey_iff.1 htext
    exact nomatch (hinit i).symm.trans hc
  · show TextsDistinct ((credentialCall crypto nodes e).toOption.getD nodes)
    cases hcall : credentialCall crypto nodes e with
    | error _ => exact hd
    | ok nodes' => exact hd.call hcall

/-- Every text is the one that `b64u` writes. -/
def TextsWritten (nodes : Table AgentNode) : Prop :=
  ∀ id text, (nodes.row id).hasKey text = true → WrittenByB64u text

theorem keyTexts_written (hs : (credentialMachine crypto).ReachableBy RegistersWritten nodes) :
    TextsWritten nodes := by
  refine hs.invariant (fun nodes hinit id text htext ↦ ?_) fun nodes e hw hok ↦ ?_
  · obtain ⟨credential, hc, -⟩ := hasKey_iff.1 htext
    exact nomatch (hinit id).symm.trans hc
  · show TextsWritten ((credentialCall crypto nodes e).toOption.getD nodes)
    cases hcall : credentialCall crypto nodes e with
    | error _ => exact hw
    | ok nodes' =>
      obtain ⟨-, hkept | ⟨id, payload, now, rfl, hnew, -, hother⟩⟩ := credentialCall_keys hcall
      · exact fun j text htext ↦ hw j text (hkept j text htext)
      · intro j text htext
        replace htext : (nodes'.row j).hasKey text = true := htext
        by_cases hjid : j = id
        · subst hjid
          obtain rfl := hnew text htext
          exact hok payload now rfl
        · rw [hother j hjid] at htext
          exact hw j text htext

/-- No two credentials that are not revoked decode to one key of 32 bytes. -/
def OneKeyOneNode (nodes : Table AgentNode) : Prop :=
  ∀ i ∈ nodes.ids, ∀ j ∈ nodes.ids, i ≠ j → ∀ c, (nodes.row i).credential = some c →
    ∀ c', (nodes.row j).credential = some c' → c.revokedAt = none → c'.revokedAt = none →
      ∀ text, c.publicKey = some text → ∀ text', c'.publicKey = some text' →
        ∀ key, key.length = 32 → decodeUrlsafe text = some key → decodeUrlsafe text' ≠ some key

/-- Where the agents submit the text of their key, no two nodes have one key. -/
theorem keys_distinct (hs : (credentialMachine crypto).ReachableBy RegistersWritten nodes) :
    OneKeyOneNode nodes := by
  intro i hi j hj hij c hc c' hc' _ _ text htext text' htext' key _ hkey hkey'
  have hheld : (nodes.row i).hasKey text = true := hasKey_iff.2 ⟨c, hc, htext⟩
  have hheld' : (nodes.row j).hasKey text' = true := hasKey_iff.2 ⟨c', hc', htext'⟩
  have hwritten := keyTexts_written hs
  obtain rfl := (hwritten i text hheld).eq_of_decode (hwritten j text' hheld')
    (hkey.trans hkey'.symm)
  exact Bool.eq_false_iff.1 (keyTexts_distinct hs.reachable i hi j hj hij text hheld) hheld'

end Keys

end Kaya.HA.Credentials
