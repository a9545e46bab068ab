import Kaya.Backup.AgentKeys
import Kaya.Library.Instances

/-!
# Backup dispatches

`offers`, `claim`, `status` and `change_agent_lifecycle` of `app/routers/backup_agent_v2.py`.

**Interleaving.** A handler is seen at its transactions. It works on the instances of the dispatch
and of the job that it has loaded (`Handler.loaded`, `Handler.job`), and a commit writes **the
columns whose value the handler has changed on its own instance** (`flushed`), whatever the rows
have become since. The conditional `UPDATE` of `claim` and the one of `change_agent_lifecycle` look
at the rows as they are. After a commit the instance is loaded again, which is a step of its own.

**Names.** A job has one dispatch at most, which goes under the number of the job here. Grants are
drawn at random; here they are numbers, and the stored digest of a grant is that number.

**Outside.** The signature of a request, the scopes of an agent and the limit on its rate: the
events are the requests that pass them. What `claim` prepares before it seals the envelope can fail
in several ways, and the manifest of an offer in one; both are inputs. The audit trail and the
notification of a failed backup are left out.
-/

namespace Kaya.Backup

open Kaya.HA (DateTime seconds)

/-! ### The rows -/

/-- `BackupAgentDispatch.state`. -/
inductive DispatchState
  | offered
  | claimed
  | running
  | successful
  | failed
  | revoked
  deriving DecidableEq

/-- A dispatch that is over. -/
def DispatchState.isFinal : DispatchState → Bool
  | .successful | .failed | .revoked => true
  | _ => false

/-- What `claim` hands out: whom it is for, its grant, and the sealed rest. The expiry is exact
here; the code writes it in whole seconds. -/
structure Envelope where
  agentId : String
  claimId : String
  dispatch : ℕ
  grant : ℕ
  expiresAt : DateTime
  ciphertext : String
  deriving DecidableEq

/-- `BackupAgentDispatch`. -/
structure BackupAgentDispatch where
  identityId : Option String := none
  claimId : Option String := none
  state : DispatchState := .offered
  grant : Option ℕ := none
  grantExpiresAt : Option DateTime := none
  envelope : Option Envelope := none
  claimedAt : Option DateTime := none
  finishedAt : Option DateTime := none
  deriving DecidableEq

/-- `BackupJob.status`. -/
inductive JobStatus
  | queued
  | dispatched
  | running
  | successful
  | failed
  deriving DecidableEq

/-- `BackupJob`. -/
structure BackupJob where
  hostId : ℕ
  status : JobStatus := .queued
  artifactPath : Option String := none
  sizeBytes : Option ℕ := none
  error : Option String := none
  dispatchedAt : Option DateTime := none
  finishedAt : Option DateTime := none
  deriving DecidableEq

/-- `GRANT_TTL`, in seconds. -/
def grantTtl : ℕ := 900

/-- The grant of the dispatch is over. -/
def BackupAgentDispatch.grantExpired (row : BackupAgentDispatch) (now : DateTime) : Bool :=
  row.grantExpiresAt.any (· < now)

/-! ### Requests -/

/-- A number in the body of a request, where there may be anything. A Boolean is a number. -/
inductive NumberField
  | absent
  | number (n : ℤ)
  | other

/-- A text in the body of a request. -/
inductive TextField
  | absent
  | text (value : String)
  | other

/-- The states an agent may report. -/
inductive ReportedState
  | running
  | successful
  | failed
  deriving DecidableEq

/-- The body of a status report. A state that is none of the three and a grant that is no text are
`none`; `unknownField` tells whether there is a member that is not allowed. -/
structure StatusPayload where
  state : Option ReportedState
  dispatchGrant : Option ℕ
  unknownField : Bool := false
  progressPercent : NumberField := .absent
  bytesProcessed : NumberField := .absent
  resultDigest : TextField := .absent
  resultCode : TextField := .absent

/-- What the preparation of a claim gives: the sealed text, and for a backup the path of its
artifact. -/
structure Prepared where
  ciphertext : String
  artifactPath : Option String

/-- Where a handler is. -/
inductive Flow
  /-- `claim`, with the dispatch loaded. -/
  | claiming (claimId : String) (prepared : Except HTTPException Prepared)
  /-- `claim`, before the commit that gives an expired dispatch back. -/
  | requeueing
  /-- `claim`, for a claim that is made already, before its commit and after it. -/
  | replaying (claimId : String)
  | rereading (claimId : String)
  /-- `claim`, before its conditional update. -/
  | sealing (claimId : String) (envelope : Envelope) (artifactPath : Option String)
      (now : DateTime)
  /-- `claim`, after the commit that follows an update of no row. -/
  | conflicted (claimId : String)
  /-- `status`, with the dispatch loaded. -/
  | reporting (payload : StatusPayload)
  /-- `status`, before its commit. -/
  | recording (payload : StatusPayload) (reported : ReportedState) (now : DateTime)

/-- A handler: its dispatch, the identity it has authenticated, its instances, where it is. -/
structure Handler where
  dispatch : ℕ
  identity : String
  loaded : BackupAgentDispatch
  job : BackupJob
  flow : Flow

/-- What is sent back. -/
inductive Reply
  | offers (dispatches : List ℕ)
  | envelope (dispatch : ℕ) (claimId : String) (envelope : Envelope) (sentAt : DateTime)
  | status (reported : ReportedState)
  | lifecycle (state : IdentityState)
  | error (refusal : HTTPException)

/-- The server. `drawn` counts the grants, and `replies` are newest first. -/
structure Server where
  clock : DateTime
  identities : List BackupAgentIdentity
  jobIds : List ℕ
  jobs : ℕ → Option BackupJob
  dispatches : ℕ → Option BackupAgentDispatch
  drawn : ℕ
  handlers : ℕ → Option Handler
  replies : List Reply

namespace Server

variable (s : Server)

/-- The handler goes on, or ends. -/
def put (id : ℕ) (h : Option Handler) : Server :=
  { s with handlers := Function.update s.handlers id h }

/-- A reply is sent. -/
def reply (r : Reply) : Server := { s with replies := r :: s.replies }

/-- The handler ends with a reply. -/
def answer (id : ℕ) (r : Reply) : Server := (s.put id none).reply r

/-- The row of a dispatch is written. -/
def write (d : ℕ) (f : BackupAgentDispatch → BackupAgentDispatch) : Server :=
  { s with dispatches := Function.update s.dispatches d ((s.dispatches d).map f) }

/-- The row of a job is written. -/
def writeJob (d : ℕ) (f : BackupJob → BackupJob) : Server :=
  { s with jobs := Function.update s.jobs d ((s.jobs d).map f) }

end Server

/-! ### Offers -/

/-- The identity of `authenticate_request`. -/
def authenticateRequest (s : Server) (agent : String) : Except HTTPException BackupAgentIdentity :=
  match s.identities.find? (·.id = agent) with
  | none => .error ⟨401, "Agent authentication failed"⟩
  | some identity =>
    if identity.state = .active ∨ identity.state = .rotationPending then .ok identity
    else .error ⟨401, "Agent authentication failed"⟩

/-- The first five jobs of the host that are queued. -/
def queuedJobs (s : Server) (hostId : ℕ) : List ℕ :=
  (s.jobIds.filter fun id ↦ (s.jobs id).any fun job ↦
    job.hostId = hostId ∧ job.status = .queued).take 5

/-- `offers`. `manifest` fails for a job whose target has an unsupported type. -/
def offers (s : Server) (agent : String) (manifest : ℕ → Bool) : Server :=
  match authenticateRequest s agent with
  | .error refusal => s.reply (.error refusal)
  | .ok identity =>
    let listed := queuedJobs s identity.hostId
    if !listed.all manifest then s.reply (.error ⟨409, "Unsupported backup target type"⟩)
    else
      { s with
        dispatches := fun d ↦ if d ∈ listed ∧ s.dispatches d = none then some {} else s.dispatches d
        replies := .offers listed :: s.replies }

/-! ### Claims -/

/-- A lower-case hexadecimal digit. -/
def isLowerHex (c : Char) : Bool := "0123456789abcdef".toList.contains c

/-- `str(uuid.UUID(value)) == value` and the version is 4. -/
def isUuid4 (value : String) : Bool :=
  let parts := value.toList.splitOn '-'
  parts.map List.length = [8, 4, 4, 4, 12] ∧ parts.all (·.all isLowerHex) ∧
    value.toList[14]? = some '4' ∧ (value.toList[19]?).any ("89ab".toList.contains ·)

/-- `claim`: the dispatch as an expired claim leaves it. -/
def BackupAgentDispatch.requeuedBy (loaded stored : BackupAgentDispatch) : BackupAgentDispatch :=
  { stored with
    identityId := flushed loaded.identityId none stored.identityId
    claimId := flushed loaded.claimId none stored.claimId
    grant := flushed loaded.grant none stored.grant
    grantExpiresAt := flushed loaded.grantExpiresAt none stored.grantExpiresAt
    envelope := flushed loaded.envelope none stored.envelope
    state := flushed loaded.state .offered stored.state }

/-- `claim`: the dispatch as its conditional update leaves it. -/
def BackupAgentDispatch.claimedWith (envelope : Envelope) (now : DateTime)
    (stored : BackupAgentDispatch) : BackupAgentDispatch :=
  { stored with
    identityId := some envelope.agentId
    claimId := some envelope.claimId
    state := .claimed
    grant := some envelope.grant
    grantExpiresAt := some envelope.expiresAt
    claimedAt := some now
    envelope := some envelope }

/-- `claim`: the job of a claimed dispatch. -/
def BackupJob.dispatchedBy (loaded : BackupJob) (artifactPath : Option String) (now : DateTime)
    (stored : BackupJob) : BackupJob :=
  { stored with
    status := flushed loaded.status .dispatched stored.status
    dispatchedAt := flushed loaded.dispatchedAt (some now) stored.dispatchedAt
    artifactPath := flushed loaded.artifactPath (artifactPath.or loaded.artifactPath)
      stored.artifactPath }

/-- `claim` up to the load of the dispatch. -/
def beginClaim (s : Server) (id d : ℕ) (agent claimId : String)
    (prepared : Except HTTPException Prepared) : Server :=
  match authenticateRequest s agent with
  | .error refusal => s.reply (.error refusal)
  | .ok identity =>
    if !isUuid4 claimId then
      s.reply (.error ⟨400, "A canonical UUIDv4 claim_id is required"⟩)
    else match s.dispatches d, s.jobs d with
    | some row, some job =>
      if job.hostId ≠ identity.hostId then s.reply (.error ⟨404, "Dispatch not found"⟩)
      else s.put id (some ⟨d, identity.id, row, job, .claiming claimId prepared⟩)
    | _, _ => s.reply (.error ⟨404, "Dispatch not found"⟩)

/-- `claim` after the load of the dispatch, up to its first write. -/
def decideClaim (s : Server) (id : ℕ) (h : Handler) (claimId : String)
    (prepared : Except HTTPException Prepared) : Server :=
  match h.loaded.identityId with
  | some owner =>
    if owner ≠ h.identity ∨ h.loaded.claimId ≠ some claimId then
      s.answer id (.error ⟨409, "Dispatch already claimed"⟩)
    else if h.loaded.grantExpired s.clock then
      s.put id (some { h with flow := .requeueing })
    else if h.loaded.envelope = none then
      s.answer id (.error ⟨409, "Dispatch claim is incomplete"⟩)
    else s.put id (some { h with flow := .replaying claimId })
  | none =>
    match prepared with
    | .error refusal => s.answer id (.error refusal)
    | .ok prepared =>
      let envelope : Envelope :=
        ⟨h.identity, claimId, h.dispatch, s.drawn, s.clock + seconds grantTtl, prepared.ciphertext⟩
      { s with drawn := s.drawn + 1 }.put id
        (some { h with flow := .sealing claimId envelope prepared.artifactPath s.clock })

/-- `claim` with its conditional update. -/
def commitClaim (s : Server) (id : ℕ) (h : Handler) (claimId : String) (envelope : Envelope)
    (artifactPath : Option String) (now : DateTime) : Server :=
  if (s.dispatches h.dispatch).any fun row ↦ row.identityId = none ∧ row.state = .offered then
    ((s.write h.dispatch (.claimedWith envelope now)).writeJob h.dispatch
      (h.job.dispatchedBy artifactPath now)).answer id
        (.envelope h.dispatch claimId envelope s.clock)
  else s.put id (some { h with flow := .conflicted claimId })

/-- `claim` after an update of no row: the dispatch as it is now. -/
def answerConflict (s : Server) (id : ℕ) (h : Handler) (claimId : String) : Server :=
  match (s.dispatches h.dispatch).filter (fun row ↦
      row.identityId = some h.identity ∧ row.claimId = some claimId) >>= (·.envelope) with
  | some envelope => s.answer id (.envelope h.dispatch claimId envelope s.clock)
  | none => s.answer id (.error ⟨409, "Dispatch already claimed"⟩)

/-- `claim` after the commit for a claim that is made already: the envelope is loaded again. -/
def answerReplay (s : Server) (id : ℕ) (h : Handler) (claimId : String) : Server :=
  match (s.dispatches h.dispatch).bind (·.envelope) with
  | some envelope => s.answer id (.envelope h.dispatch claimId envelope s.clock)
  | none => s.answer id (.error ⟨500, "Internal Server Error"⟩)

/-! ### Status reports -/

/-- The state a report leaves the dispatch in. -/
def ReportedState.state : ReportedState → DispatchState
  | .running => .running
  | .successful => .successful
  | .failed => .failed

/-- The status a report leaves the job in. -/
def ReportedState.status : ReportedState → JobStatus
  | .running => .running
  | .successful => .successful
  | .failed => .failed

/-- The transitions of `status`. -/
def allowed : DispatchState → List ReportedState
  | .claimed => [.running, .failed]
  | .running => [.successful, .failed]
  | _ => []

/-- A number that is absent or within the bounds. -/
def NumberField.within (field : NumberField) (low high : ℤ) : Bool :=
  match field with
  | .absent => true
  | .number n => low ≤ n ∧ n ≤ high
  | .other => false

/-- A digest that is absent or well formed. -/
def TextField.isDigest : TextField → Bool
  | .absent => true
  | .text value => value.length = 64 ∧ value.toList.all isLowerHex
  | .other => false

/-- The checks of `status`, and the state that is reported. -/
def checkStatus (loaded : BackupAgentDispatch) (payload : StatusPayload) (now : DateTime) :
    Except HTTPException ReportedState :=
  if payload.dispatchGrant = none ∨ payload.dispatchGrant ≠ loaded.grant ∨
      loaded.grantExpiresAt = none ∨ loaded.grantExpired now then
    .error ⟨401, "Invalid or expired dispatch grant"⟩
  else if payload.unknownField then .error ⟨400, "Unknown status field"⟩
  else match payload.state with
  | none => .error ⟨409, "Invalid dispatch state transition"⟩
  | some reported =>
    if reported ∉ allowed loaded.state then .error ⟨409, "Invalid dispatch state transition"⟩
    else if !payload.progressPercent.within 0 100 then .error ⟨400, "Invalid progress_percent"⟩
    else if !payload.bytesProcessed.within 0 (2 ^ 63 - 1) then
      .error ⟨400, "Invalid bytes_processed"⟩
    else if !payload.resultDigest.isDigest then .error ⟨400, "Invalid result_digest"⟩
    else .ok reported

/-- `status`: the dispatch as a report leaves it. -/
def BackupAgentDispatch.recordedBy (loaded : BackupAgentDispatch) (reported : ReportedState)
    (now : DateTime) (stored : BackupAgentDispatch) : BackupAgentDispatch :=
  let row := { stored with state := flushed loaded.state reported.state stored.state }
  if reported = .running then row
  else
    { row with
      finishedAt := flushed loaded.finishedAt (some now) stored.finishedAt
      grant := flushed loaded.grant none stored.grant
      grantExpiresAt := flushed loaded.grantExpiresAt none stored.grantExpiresAt }

/-- `status`: the error of the job. -/
def errorText (payload : StatusPayload) (reported : ReportedState) (loaded : Option String) :
    Option String :=
  match payload.resultCode with
  | .text code => if reported = .failed then some (String.ofList (code.toList.take 120)) else none
  | _ => loaded

/-- `status`: the size of the job. -/
def sizeBytes (payload : StatusPayload) (loaded : Option ℕ) : Option ℕ :=
  match payload.bytesProcessed with
  | .number n => some n.toNat
  | _ => loaded

/-- `status`: the job as a report leaves it. -/
def BackupJob.recordedBy (loaded : BackupJob) (payload : StatusPayload) (reported : ReportedState)
    (now : DateTime) (stored : BackupJob) : BackupJob :=
  { stored with
    status := flushed loaded.status reported.status stored.status
    sizeBytes := flushed loaded.sizeBytes (Backup.sizeBytes payload loaded.sizeBytes)
      stored.sizeBytes
    error := flushed loaded.error (errorText payload reported loaded.error) stored.error
    finishedAt := if reported = .running then stored.finishedAt
      else flushed loaded.finishedAt (some now) stored.finishedAt }

/-- `status` up to the load of the dispatch. -/
def beginStatus (s : Server) (id d : ℕ) (agent : String) (payload : StatusPayload) : Server :=
  match authenticateRequest s agent with
  | .error refusal => s.reply (.error refusal)
  | .ok identity =>
    match (s.dispatches d).filter (·.identityId = some identity.id), s.jobs d with
    | some row, some job => s.put id (some ⟨d, identity.id, row, job, .reporting payload⟩)
    | _, _ => s.reply (.error ⟨404, "Dispatch not found"⟩)

/-! ### The machine -/

/-- `change_agent_lifecycle`: the dispatches of the identity that are not done. -/
def BackupAgentDispatch.revokedFor (identity : String) (row : BackupAgentDispatch) :
    BackupAgentDispatch :=
  if row.identityId = some identity ∧ row.state ≠ .successful ∧ row.state ≠ .failed then
    { row with state := .revoked, grant := none, grantExpiresAt := none }
  else row

/-- `change_agent_lifecycle`. -/
def lifecycle (s : Server) (hostId : ℕ) (action : Lifecycle) : Server :=
  match s.identities.find? (·.hostId = hostId) with
  | none => s.reply (.error ⟨404, "Agent identity not found"⟩)
  | some identity =>
    { s with
      identities := s.identities.map fun row ↦
        if row.id = identity.id then
          { row with state := action.state, revokedAt := some s.clock }
        else row
      dispatches := fun d ↦ (s.dispatches d).map (·.revokedFor identity.id)
      replies := .lifecycle action.state :: s.replies }

/-- The next step of a handler. -/
def advance (s : Server) (id : ℕ) (h : Handler) : Server :=
  match h.flow with
  | .claiming claimId prepared => decideClaim s id h claimId prepared
  | .requeueing =>
    ((s.write h.dispatch h.loaded.requeuedBy).writeJob h.dispatch fun stored ↦
      { stored with status := flushed h.job.status .queued stored.status }).answer id
        (.error ⟨409, "Dispatch claim expired and was requeued"⟩)
  | .replaying claimId => s.put id (some { h with flow := .rereading claimId })
  | .rereading claimId => answerReplay s id h claimId
  | .sealing claimId envelope artifactPath now =>
    commitClaim s id h claimId envelope artifactPath now
  | .conflicted claimId => answerConflict s id h claimId
  | .reporting payload =>
    match checkStatus h.loaded payload s.clock with
    | .error refusal => s.answer id (.error refusal)
    | .ok reported =>
      s.put id (some { h with
        job := (s.jobs h.dispatch).getD h.job
        flow := .recording payload reported s.clock })
  | .recording payload reported now =>
    ((s.write h.dispatch (h.loaded.recordedBy reported now)).writeJob h.dispatch
      (h.job.recordedBy payload reported now)).answer id (.status reported)

/-- An event: time passes, an agent enrols, a job is queued, an agent asks for offers, a claim or a
report arrives, an administrator acts, a handler takes its next step or is lost. -/
inductive Event
  | tick (microseconds : ℕ)
  | enrol (agent : String) (hostId : ℕ)
  | queue (d hostId : ℕ)
  | offers (agent : String) (manifest : ℕ → Bool)
  | claim (id d : ℕ) (agent claimId : String) (prepared : Except HTTPException Prepared)
  | status (id d : ℕ) (agent : String) (payload : StatusPayload)
  | lifecycle (hostId : ℕ) (action : Lifecycle)
  | next (id : ℕ)
  | lost (id : ℕ)

/-- A request under an identifier that is free. -/
def Server.arrive (s : Server) (id : ℕ) (began : Server) : Server :=
  match s.handlers id with
  | none => began
  | some _ => s

/-- The step function. -/
def serverStep (s : Server) : Event → Server
  | .tick microseconds => { s with clock := s.clock + microseconds }
  | .enrol agent hostId =>
    if s.identities.any fun row ↦ row.id = agent ∨ row.hostId = hostId then s
    else { s with identities := s.identities ++ [⟨agent, hostId, .active, "", some s.clock, none⟩] }
  | .queue d hostId =>
    match s.jobs d with
    | some _ => s
    | none =>
      { s with
        jobIds := s.jobIds ++ [d]
        jobs := Function.update s.jobs d (some { hostId }) }
  | .offers agent manifest => Backup.offers s agent manifest
  | .claim id d agent claimId prepared => s.arrive id (beginClaim s id d agent claimId prepared)
  | .status id d agent payload => s.arrive id (beginStatus s id d agent payload)
  | .lifecycle hostId action => Backup.lifecycle s hostId action
  | .next id =>
    match s.handlers id with
    | none => s
    | some h => advance s id h
  | .lost id => s.put id none

/-- Nothing has been queued yet. -/
structure ServerInitial (s : Server) : Prop where
  jobs : ∀ d, s.jobs d = none
  dispatches : ∀ d, s.dispatches d = none
  handlers : ∀ id, s.handlers id = none
  replies : s.replies = []

/-- The server. -/
def serverMachine : Machine Server Event where
  init := ServerInitial
  step := serverStep

/-- The server before its first agent. -/
def emptyServer : Server where
  clock := 0
  identities := []
  jobIds := []
  jobs _ := none
  dispatches _ := none
  drawn := 0
  handlers _ := none
  replies := []

theorem emptyServer_initial : ServerInitial emptyServer :=
  ⟨fun _ ↦ rfl, fun _ ↦ rfl, fun _ ↦ rfl, rfl⟩

end Kaya.Backup
