import Kaya.Assets.Model
import Kaya.Library.Checks
import Kaya.Library.Instances
import Kaya.Library.Machine

/-!
# Identity evidence, confirmed by concurrent transactions

`confirm_identity_evidence`, `confirm_existing_identity_evidence` and `revoke_identity_evidence` of
`app/services/asset_identity.py`, and the evidence of `adopt_discovered_device` in
`app/services/asset_discovery.py`.

**Interleaving.** A transaction is seen at each lock it requests, at each check and each lookup, and
at its commit. `lock_identity_scope` is an exclusive lock for each MAC until the end of the
transaction; a query sees what is committed when it is made, except that an instance the session has
loaded before stays as it was loaded. A commit writes the columns that have changed on the instance
(`flush`). A transaction may end at any point (`abort`): its checks, its audit record, its process.

**Outside.** The other locks of an adoption and what it writes besides evidence. An adoption has
revalidated its candidate, or it aborts.
-/

namespace Kaya.Assets

open Kaya.HA (DateTime)

/-! ### Values -/

/-- What a row of evidence is about. -/
structure EvidenceValue where
  evidenceType : EvidenceType
  normalisedValue : String
  source : String
  sourceScope : Option String

/-- `_normalise_evidence`. -/
def normaliseEvidence (evidenceType : EvidenceType) (value : FoldedText) :
    Except String String := do
  let text := PyText.strip value.text
  require (text ≠ "" ∧ text.length ≤ 255) "Identity evidence must contain 1 to 255 characters."
  match evidenceType with
  | .mac => found (normaliseMac value.text) "MAC evidence must be a valid 48-bit address."
  | _ => return value.folded

namespace AssetIdentityEvidence

/-- The row is about the value, for the asset. -/
def isAbout (row : AssetIdentityEvidence) (assetId : ℕ) (value : EvidenceValue) : Bool :=
  row.assetId = some assetId ∧ row.evidenceType = value.evidenceType ∧
    row.normalisedValue = value.normalisedValue ∧ row.source = value.source ∧
    row.sourceScope = value.sourceScope ∧ row.status ≠ .revoked

/-- A confirmed row of another asset in the same source and scope. -/
def isScopedConflict (row : AssetIdentityEvidence) (assetId : ℕ) (value : EvidenceValue) : Bool :=
  row.evidenceType = value.evidenceType ∧ row.normalisedValue = value.normalisedValue ∧
    row.source = value.source ∧ row.sourceScope = value.sourceScope ∧ row.status = .confirmed ∧
    row.assetId.any (· ≠ assetId)

/-- The row after a commit. -/
def flush (loaded current stored : AssetIdentityEvidence) : AssetIdentityEvidence :=
  { stored with
    lastObservedAt := flushed loaded.lastObservedAt current.lastObservedAt stored.lastObservedAt
    status := flushed loaded.status current.status stored.status
    confirmedBy := flushed loaded.confirmedBy current.confirmedBy stored.confirmedBy
    confirmedAt := flushed loaded.confirmedAt current.confirmedAt stored.confirmedAt
    revokedAt := flushed loaded.revokedAt current.revokedAt stored.revokedAt
    conflictReason := flushed loaded.conflictReason current.conflictReason stored.conflictReason }

end AssetIdentityEvidence

/-- The evidence. -/
abbrev Evidence := Table AssetIdentityEvidence

/-! ### Transactions -/

/-- Who writes the evidence: a confirmation, or `_add_evidence` of an adoption. -/
inductive Writer
  | confirmation
  | adoption
  deriving DecidableEq

/-- A write that waits for the commit. -/
inductive Change
  | insert (row : AssetIdentityEvidence)
  | update (id : ℕ) (loaded current : AssetIdentityEvidence)

/-- A transaction that confirms evidence: the locks it has yet to request, the values it has yet to
confirm, whether the first of them has been checked, and its writes. -/
structure Confirmation where
  writer : Writer
  assetId : ℕ
  userId : ℕ
  now : DateTime
  loaded : Option (ℕ × AssetIdentityEvidence)
  locks : List String
  values : List EvidenceValue
  checked : Bool
  changes : List Change

/-- A transaction. -/
inductive Process
  | confirming (c : Confirmation)
  | revoking (id : ℕ) (loaded : AssetIdentityEvidence) (revokedAt : DateTime)

/-- The evidence, who holds the lock of each MAC, and the transactions. -/
structure EvidenceState where
  evidence : Evidence
  locks : String → Option ℕ
  processes : ℕ → Option Process

/-- The MACs among the values. -/
def macsOf (values : List EvidenceValue) : List String :=
  (values.filter (·.evidenceType = .mac)).map (·.normalisedValue)

/-- The checks before a value is confirmed. A confirmation compares sources and scopes of client
identifiers only. -/
def checkValue (evidence : Evidence) (c : Confirmation) (value : EvidenceValue) : Bool :=
  (value.evidenceType ≠ .mac ∨
      confirmedMacOwnedElsewhere evidence value.normalisedValue c.assetId = false) ∧
    (c.writer = .confirmation ∧ value.evidenceType ≠ .dhcpClientId ∧
        value.evidenceType ≠ .providerClientId ∨
      evidence.exists? (·.isScopedConflict c.assetId value) = false)

/-- A new row. -/
def Confirmation.newRow (c : Confirmation) (value : EvidenceValue) : AssetIdentityEvidence where
  assetId := some c.assetId
  evidenceType := value.evidenceType
  normalisedValue := value.normalisedValue
  source := value.source
  sourceScope := value.sourceScope
  firstObservedAt := some c.now

/-- What the writer sets. `_add_evidence` leaves `revoked_at` alone. -/
def Confirmation.apply (c : Confirmation) (row : AssetIdentityEvidence) : AssetIdentityEvidence :=
  { row with
    lastObservedAt := some c.now
    status := .confirmed
    confirmedBy := some c.userId
    confirmedAt := some c.now
    revokedAt := if c.writer = .confirmation then none else row.revokedAt
    conflictReason := none }

/-- The lookup of the row, and what is set on it. -/
def Confirmation.change (c : Confirmation) (evidence : Evidence) (value : EvidenceValue) :
    Change :=
  match (evidence.select (·.isAbout c.assetId value)).head? with
  | some id =>
    let loaded := ((c.loaded.filter (·.1 = id)).map (·.2)).getD (evidence.row id)
    .update id loaded (c.apply loaded)
  | none => .insert (c.apply (c.newRow value))

/-- A write of a commit. -/
def Change.commit (evidence : Evidence) : Change → Evidence
  | .insert row => evidence.insert row
  | .update id loaded current => evidence.modify id (AssetIdentityEvidence.flush loaded current)

/-- The columns of `revoke_identity_evidence`. -/
def revokedBy (row : AssetIdentityEvidence) (revokedAt : DateTime) : AssetIdentityEvidence :=
  { row with status := .revoked, revokedAt := some revokedAt }

/-! ### Requests -/

/-- The arguments of `confirm_identity_evidence`. -/
structure ConfirmRequest where
  assetId : ℕ
  evidenceType : EvidenceType
  value : FoldedText
  source : String
  sourceScope : Option String := none
  now : DateTime

/-- `confirm_identity_evidence` up to its lock. -/
def confirmIdentityEvidence (assets : ℕ → Bool) (user : User) (request : ConfirmRequest)
    (loaded : Option (ℕ × AssetIdentityEvidence)) : Except String Confirmation := do
  require user.isAdmin "Administrator access is required."
  require (assets request.assetId) "Hardware asset not found."
  let source := PyText.strip request.source
  require (1 ≤ source.length ∧ source.length ≤ 80)
    "Evidence source must contain 1 to 80 characters."
  let sourceScope := request.sourceScope.map PyText.strip
  require (sourceScope.all fun scope ↦ scope ≠ "" ∧ scope.length ≤ 255)
    "Evidence source scope must contain 1 to 255 characters."
  let normalised ← normaliseEvidence request.evidenceType request.value
  let values := [⟨request.evidenceType, normalised, source, sourceScope⟩]
  return {
    writer := .confirmation
    assetId := request.assetId
    userId := user.id
    now := request.now
    loaded
    locks := macsOf values
    values
    checked := false
    changes := [] }

/-- `confirm_existing_identity_evidence` up to the lock. The stored value is folded again. -/
def confirmExistingIdentityEvidence (assets : ℕ → Bool) (evidence : Evidence) (user : User)
    (evidenceId : ℕ) (folded : String) (confirmedAt : Option DateTime) (now : DateTime) :
    Except String Confirmation := do
  require user.isAdmin "Administrator access is required."
  let row ← found (evidence.get? evidenceId) "Identity evidence not found."
  let assetId ← found row.assetId "Identity evidence not found."
  confirmIdentityEvidence assets user
    { assetId
      evidenceType := row.evidenceType
      value := ⟨row.normalisedValue, folded⟩
      source := row.source
      sourceScope := row.sourceScope
      now := (confirmedAt <|> row.lastObservedAt).getD now }
    (some (evidenceId, row))

/-- `revoke_identity_evidence` up to its commit. -/
def revokeIdentityEvidence (evidence : Evidence) (user : User) (evidenceId : ℕ)
    (revokedAt : DateTime) : Except String Process := do
  require user.isAdmin "Administrator access is required."
  let row ← found (evidence.get? evidenceId) "Identity evidence not found."
  return .revoking evidenceId row revokedAt

/-- Where a candidate comes from. -/
inductive DiscoveryKind
  | dns
  | dhcp
  | traffic
  deriving DecidableEq

/-- The columns of a candidate that its evidence is made of. -/
structure Candidate where
  kind : DiscoveryKind
  macAddresses : List String
  dhcpClientIds : List FoldedText
  dhcpIdentityScope : Option String := none
  name : FoldedText
  /-- The name of the managed static record of its MAC and address. -/
  managedStaticName : Option FoldedText := none

/-- `evidence_values` of `adopt_discovered_device`. -/
def Candidate.evidenceValues (candidate : Candidate) :
    List (EvidenceType × FoldedText × String × Option String) :=
  let source := if candidate.kind = .dns then "dns" else "dhcp"
  (candidate.macAddresses.head?.map fun mac ↦
      (EvidenceType.mac, (⟨mac, mac⟩ : FoldedText), "discovery", some source)).toList ++
    (candidate.dhcpClientIds.head?.map fun clientId ↦
      (EvidenceType.dhcpClientId, clientId, "dhcp", candidate.dhcpIdentityScope)).toList ++
    (if candidate.kind ≠ .traffic ∧ candidate.name.text ≠ "" ∧
        candidate.name.text ≠ "Unidentified device" then
      [(.hostname, candidate.name, source, none)]
    else []) ++
    ((candidate.managedStaticName.filter fun name ↦ PyText.strip name.text ≠ "").map fun name ↦
      (EvidenceType.hostname, name, "vlan_ip_manager", none)).toList

/-- `adopt_discovered_device` up to its locks. The asset is an existing or a new one. -/
def adoptDiscoveredDevice (user : User) (candidate : Candidate) (assetId : ℕ) (now : DateTime) :
    Except String Confirmation := do
  require user.isAdmin "Administrator access is required."
  require (candidate.kind = .traffic ∨ candidate.macAddresses ≠ [] ∨ candidate.dhcpClientIds ≠ [])
    "A stable MAC or DHCP client identifier is required before adoption."
  let values ← candidate.evidenceValues.mapM fun (evidenceType, value, source, sourceScope) ↦ do
    let normalised ← normaliseEvidence evidenceType value
    return (⟨evidenceType, normalised, source, sourceScope⟩ : EvidenceValue)
  return {
    writer := .adoption
    assetId
    userId := user.id
    now
    loaded := none
    locks := macsOf values
    values := if candidate.kind = .traffic then [] else values
    checked := false
    changes := [] }

/-! ### Steps -/

/-- An event: a transaction begins, takes its next step, or ends without a commit. -/
inductive EvidenceEvent
  | confirm (p : ℕ) (assets : ℕ → Bool) (user : User) (request : ConfirmRequest)
  | confirmExisting (p : ℕ) (assets : ℕ → Bool) (user : User) (evidenceId : ℕ) (folded : String)
    (confirmedAt : Option DateTime) (now : DateTime)
  | adopt (p : ℕ) (user : User) (candidate : Candidate) (assetId : ℕ) (now : DateTime)
  | revoke (p : ℕ) (user : User) (evidenceId : ℕ) (revokedAt : DateTime)
  | next (p : ℕ)
  | abort (p : ℕ)

namespace EvidenceState

variable (s : EvidenceState)

/-- A transaction begins, unless the number is taken. -/
def begin (p : ℕ) (process : Except String Process) : EvidenceState :=
  match s.processes p, process with
  | none, .ok process => { s with processes := Function.update s.processes p (some process) }
  | _, _ => s

/-- A transaction goes on. -/
def goes (p : ℕ) (c : Confirmation) : EvidenceState :=
  { s with processes := Function.update s.processes p (some (.confirming c)) }

/-- A transaction ends, and its locks with it. -/
def finish (p : ℕ) (evidence : Evidence) : EvidenceState where
  evidence := evidence
  locks mac := (s.locks mac).filter (· ≠ p)
  processes := Function.update s.processes p none

/-- The next step of a confirmation: a lock, a check, a lookup, or the commit. -/
def advance (p : ℕ) (c : Confirmation) : EvidenceState :=
  match c.locks with
  | mac :: rest =>
    if (s.locks mac).all (· = p) then
      { s with locks := Function.update s.locks mac (some p) }.goes p { c with locks := rest }
    else s
  | [] =>
    match c.values with
    | value :: rest =>
      if c.checked then
        s.goes p
          { c with
            values := rest
            checked := false
            changes := c.changes ++ [c.change s.evidence value] }
      else if checkValue s.evidence c value then s.goes p { c with checked := true }
      else s.finish p s.evidence
    | [] => s.finish p (c.changes.foldl Change.commit s.evidence)

end EvidenceState

/-- The step function. -/
def evidenceStep (s : EvidenceState) : EvidenceEvent → EvidenceState
  | .confirm p assets user request =>
    s.begin p ((confirmIdentityEvidence assets user request none).map .confirming)
  | .confirmExisting p assets user evidenceId folded confirmedAt now =>
    s.begin p ((confirmExistingIdentityEvidence assets s.evidence user evidenceId folded confirmedAt
      now).map .confirming)
  | .adopt p user candidate assetId now =>
    s.begin p ((adoptDiscoveredDevice user candidate assetId now).map .confirming)
  | .revoke p user evidenceId revokedAt =>
    s.begin p (revokeIdentityEvidence s.evidence user evidenceId revokedAt)
  | .next p =>
    match s.processes p with
    | some (.confirming c) => s.advance p c
    | some (.revoking id loaded revokedAt) =>
      s.finish p (s.evidence.modify id (loaded.flush (revokedBy loaded revokedAt)))
    | none => s
  | .abort p => s.finish p s.evidence

/-- The asset holds the MAC: confirmed evidence that is not revoked. -/
def Holds (evidence : Evidence) (mac : String) (assetId : ℕ) : Prop :=
  ∃ id ∈ evidence.ids, (evidence.row id).holdsMac mac = true ∧
    (evidence.row id).assetId = some assetId

/-- A MAC names one asset. -/
def MacUnique (evidence : Evidence) : Prop :=
  ∀ mac assetId assetId', Holds evidence mac assetId → Holds evidence mac assetId' →
    assetId = assetId'

/-- No transaction runs, and no MAC names two assets. -/
structure EvidenceInitial (s : EvidenceState) : Prop where
  unique : MacUnique s.evidence
  locks : ∀ mac, s.locks mac = none
  processes : ∀ p, s.processes p = none

/-- The evidence. -/
def evidenceMachine : Machine EvidenceState EvidenceEvent where
  init := EvidenceInitial
  step := evidenceStep

end Kaya.Assets
