import Kaya.HA.Agents
import Kaya.Library.Machine

/-!
# Signed agent requests

`_authenticate_agent_request` and `prune_agent_request_history` of `app/services/ha_agents.py`. A
request is accepted once it is signed by the agent it names, its time is within a window of the
server's clock, and its row is the first of its identifier.

**Interleaving.** A handler is seen at two moments: its checks, which read the credential, the clock
and the history, and its end, which reads the body, verifies the signature and commits the row. The
body is awaited in between, and **nothing bounds that wait**. Any number of handlers may be between
the two.

**Outside.** The digest and the signature scheme are parameters. A credential is named by its agent
identifier, which is unique.

The history is pruned by the time a row was received, with a clock read earlier than the deletion.
-/

namespace Kaya.HA

/-! ### Requests -/

/-- The digest of a body and the verification of a signature: the public key, the signature, the
text. A digest is written in hexadecimal digits. -/
structure RequestCrypto where
  digest : List UInt8 → String
  verify : String → String → String → Bool
  digest_hex : ∀ body, '\n' ∉ (digest body).toList

/-- What a handler has before it awaits the body: the headers without surrounding white space, the
method in upper case, the path. Neither a header nor a method has a line feed. -/
structure AgentRequest where
  agentId : String
  timestamp : String
  requestId : String
  signature : String
  protocol : String
  method : String
  path : String
  timestamp_line : '\n' ∉ timestamp.toList
  method_line : '\n' ∉ method.toList

/-- `character.isalnum()`, on the characters a header can have. -/
def isAlnum (c : Char) : Bool :=
  c.isAlphanum || "ª²³µ¹º¼½¾".toList.contains c ||
    (0xC0 ≤ c.toNat && c.toNat ≤ 0xFF && c.toNat ≠ 0xD7 && c.toNat ≠ 0xF7)

/-- The accepted shape of a request identifier. -/
def isRequestId (text : String) : Bool :=
  text.length ≤ 80 && text.toList.all fun c ↦ isAlnum c || "-_.:".toList.contains c

/-- `datetime.fromtimestamp(int(text), timezone.utc)`: the years 1 to 9999. -/
def requestTime (text : String) : Option DateTime :=
  match PyText.int text.toList with
  | none => none
  | some t => if -62135596800 ≤ t ∧ t ≤ 253402300799 then some (t * 1000000) else none

/-- The text that is signed. -/
def canonicalText (method path requestId timestamp bodyHash : String) : List Char :=
  ['\n'].intercalate [method.toList, path.toList, requestId.toList, timestamp.toList, bodyHash.toList]

/-- `HAAgentCredential`, as far as a request reads it. -/
structure HAAgentCredential where
  publicKey : Option String
  registeredAt : Option DateTime
  revokedAt : Option DateTime
  clusterDeleted : Bool

/-- `HAAgentRequest`. -/
structure HAAgentRequestRow where
  agentId : String
  requestId : String
  requestTimestamp : DateTime
  receivedAt : DateTime

/-- A handler between its checks and its end. -/
structure RequestHandler where
  request : AgentRequest
  requestTime : DateTime
  publicKey : String
  checkedAt : DateTime

/-- What has been accepted: the agent, the identifier, the time, the method, the path and the digest
of the body. -/
structure AcceptedRequest where
  agentId : String
  requestId : String
  timestamp : String
  method : String
  path : String
  bodyHash : String
  deriving DecidableEq

/-- The server: the credentials, the history, the handlers in flight. `pruned` and `accepted` record
the rows that were deleted and the requests that were let through. -/
structure RequestGate where
  clock : DateTime
  credentials : String → Option HAAgentCredential
  history : List HAAgentRequestRow
  handlers : ℕ → Option RequestHandler
  pruned : List HAAgentRequestRow
  accepted : List AcceptedRequest

/-! ### The checks -/

/-- The status and the detail of a rejection. -/
structure Rejection where
  status : ℕ
  detail : String

/-- `REQUESTS_PER_MINUTE`. -/
def requestsPerMinute : ℕ := 120

/-- `MAX_AGENT_BODY_BYTES`. -/
def maxAgentBodyBytes : ℕ := 256 * 1024

/-- The public key of a credential that may be used. -/
def usableKey (credential : Option HAAgentCredential) : Option String :=
  match credential with
  | none => none
  | some credential =>
    if credential.revokedAt.isSome ∨ credential.registeredAt = none ∨ credential.clusterDeleted then
      none
    else credential.publicKey.filter (· ≠ "")

/-- `_authenticate_agent_request` up to `await request.body()`. -/
def checkRequest (s : RequestGate) (request : AgentRequest) (now : DateTime) :
    Except Rejection RequestHandler :=
  if request.agentId = "" ∨ request.timestamp = "" ∨ request.requestId = "" ∨
      request.signature = "" then
    .error ⟨401, "Missing agent authentication headers"⟩
  else if request.protocol ≠ "1" then .error ⟨426, "Unsupported agent protocol version"⟩
  else if !isRequestId request.requestId then .error ⟨400, "Invalid agent request ID"⟩
  else match usableKey (s.credentials request.agentId) with
  | none => .error ⟨401, "Invalid or revoked agent identity"⟩
  | some publicKey =>
    match requestTime request.timestamp with
    | none => .error ⟨400, "Invalid agent request timestamp"⟩
    | some requestTime =>
      if !withinRequestWindow now requestTime then .error ⟨401, "Expired agent request"⟩
      else if s.history.any fun row ↦
          row.agentId = request.agentId ∧ row.requestId = request.requestId then
        .error ⟨409, "Replayed agent request"⟩
      else if requestsPerMinute ≤ (s.history.filter fun row ↦
          row.agentId = request.agentId ∧ now - seconds 60 ≤ row.receivedAt).length then
        .error ⟨429, "Agent request rate limit exceeded"⟩
      else .ok ⟨request, requestTime, publicKey, now⟩

/-- The request a handler would let through with a body. -/
def RequestHandler.accepted (crypto : RequestCrypto) (h : RequestHandler) (body : List UInt8) :
    AcceptedRequest :=
  ⟨h.request.agentId, h.request.requestId, h.request.timestamp, h.request.method, h.request.path,
    crypto.digest body⟩

/-- The text a request is signed with. -/
def AcceptedRequest.canonical (a : AcceptedRequest) : List Char :=
  canonicalText a.method a.path a.requestId a.timestamp a.bodyHash

/-- `_authenticate_agent_request` from `await request.body()` on, up to the commit. -/
def finishRequest (crypto : RequestCrypto) (s : RequestGate) (h : RequestHandler)
    (body : List UInt8) (now : DateTime) : Except Rejection HAAgentRequestRow :=
  if maxAgentBodyBytes < body.length then .error ⟨413, "Agent payload is too large"⟩
  else if !crypto.verify h.publicKey h.request.signature
      (String.ofList (h.accepted crypto body).canonical) then
    .error ⟨401, "Invalid agent request signature"⟩
  -- The unique constraint on the credential and the identifier.
  else if s.history.any fun row ↦
      row.agentId = h.request.agentId ∧ row.requestId = h.request.requestId then
    .error ⟨409, "Replayed agent request"⟩
  else .ok ⟨h.request.agentId, h.request.requestId, h.requestTime, now⟩

/-- `prune_agent_request_history`: what is deleted. -/
def isPruned (now : DateTime) (row : HAAgentRequestRow) : Bool :=
  row.receivedAt < now - seconds 86400

/-! ### The machine -/

/-- One moment of the server. `pruneAt` is the clock a deletion has read. -/
inductive RequestAction
  | check (handler : ℕ) (request : AgentRequest)
  | finish (handler : ℕ) (body : List UInt8)
  | drop (handler : ℕ)
  | prune (pruneAt : DateTime)
  | configure (agentId : String) (credential : Option HAAgentCredential)

/-- An event: a moment and the clock it reads. -/
structure RequestEvent where
  now : DateTime
  action : RequestAction

/-- What a moment does, at the clock it reads. -/
def requestAction (crypto : RequestCrypto) (s : RequestGate) (now : DateTime) :
    RequestAction → RequestGate
  | .check id request =>
    match s.handlers id, checkRequest s request now with
    | none, .ok handler => { s with handlers := Function.update s.handlers id (some handler) }
    | _, _ => s
  | .finish id body =>
    match s.handlers id with
    | none => s
    | some handler =>
      let ended := { s with handlers := Function.update s.handlers id none }
      match finishRequest crypto s handler body now with
      | .error _ => ended
      | .ok row =>
        { ended with
          history := row :: s.history, accepted := handler.accepted crypto body :: s.accepted }
  | .drop id => { s with handlers := Function.update s.handlers id none }
  | .prune pruneAt =>
    if now < pruneAt then s
    else
      { s with
        history := s.history.filter fun row ↦ !isPruned pruneAt row
        pruned := s.history.filter (isPruned pruneAt) ++ s.pruned }
  | .configure agentId credential =>
    { s with credentials := Function.update s.credentials agentId credential }

/-- The step function. -/
def requestStep (crypto : RequestCrypto) (s : RequestGate) (e : RequestEvent) : RequestGate :=
  requestAction crypto { s with clock := e.now } e.now e.action

/-- No request has been received. -/
structure GateInitial (s : RequestGate) : Prop where
  history : s.history = []
  handlers : ∀ id, s.handlers id = none
  pruned : s.pruned = []
  accepted : s.accepted = []

/-- The server. -/
def requestMachine (crypto : RequestCrypto) : Machine RequestGate RequestEvent where
  init := GateInitial
  step := requestStep crypto

/-- The clock does not go back, and a handler ends at most a day after its checks. -/
structure Punctual (s : RequestGate) (e : RequestEvent) : Prop where
  clock : s.clock ≤ e.now
  finish : ∀ id body, e.action = .finish id body → ∀ h, s.handlers id = some h →
    e.now ≤ h.checkedAt + seconds 86400

end Kaya.HA
