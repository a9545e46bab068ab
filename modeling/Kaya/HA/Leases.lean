import Kaya.HA.Topology
import Mathlib.Data.List.MinMax

/-!
# DHCP lease replication

`app/services/ha_leases.py`: the leases of the authoritative Pi-hole are captured as numbered
snapshots, and the other node stages the latest one.

**Inspection.** What a Pi-hole answers is outside the repository, so an inspection takes the answer
as an argument (`LeaseAnswer`): an error, DHCP disabled, or the normalised leases. The periodic
monitor loads its inputs, talks to the Pi-hole and persists the plan in three separate sessions,
which is why `prepareLeaseInspection`, `inspectLeasePlan` and `persistLeasePlan` are three functions
here and why a plan can be persisted long after the cluster it was prepared from has changed.

**Direction.** `leaseNodes` replicates *from the authority*: the target is the other node, whoever
is active.
-/

namespace Kaya.HA

/-- The answer of a Pi-hole to a lease inspection: the message of a failed call, `none` when DHCP is
disabled there, or the normalised leases. -/
abbrev LeaseAnswer := Except String (Option (List Lease))

/-- `LeaseInspectionInputs`, without the connection. -/
structure LeaseInspectionInputs where
  sourceId : NodeId
  targetId : NodeId
  continuityEnabled : Bool
  deriving DecidableEq

/-- `LeasePlan`. -/
structure LeasePlan where
  applicable : Bool
  sourceId : NodeId
  targetId : NodeId
  leases : List Lease
  deriving DecidableEq

/-! ### Inspection -/

/-- `_nodes`: the authority, failing that the node with the active role, and the other node. -/
def leaseNodes (c : HACluster) : Except String (NodeId × NodeId) :=
  let authority := c.nodes.ids.find? fun n ↦ c.authoritativeNodeId = some n
  match authority <|> c.nodes.ids.find? fun n ↦ (c.node n).role = .active with
  | none => .error "Kaya cannot identify the main Pi-hole for lease replication."
  | some source =>
    match c.nodes.ids.find? (· ≠ source) with
    | none => .error "Lease replication requires a standby Pi-hole."
    | some target => .ok (source, target)

/-- `prepare_lease_inspection`. -/
def prepareLeaseInspection (c : HACluster) : Except String LeaseInspectionInputs :=
  (leaseNodes c).map fun (sourceId, targetId) ↦
    { sourceId, targetId, continuityEnabled := leaseContinuityEnabled c }

/-- `inspect_lease_plan`. -/
def inspectLeasePlan (inputs : LeaseInspectionInputs) (answer : LeaseAnswer) :
    Except String LeasePlan :=
  if !inputs.continuityEnabled then .ok ⟨false, inputs.sourceId, inputs.targetId, []⟩
  else match answer with
  | .error message => .error message
  | .ok none => .ok ⟨false, inputs.sourceId, inputs.targetId, []⟩
  | .ok (some leases) => .ok ⟨true, inputs.sourceId, inputs.targetId, leases⟩

/-- `inspect_cluster_leases`. -/
def inspectClusterLeases (c : HACluster) (answer : LeaseAnswer) : Except String LeasePlan :=
  (prepareLeaseInspection c).bind fun inputs ↦ inspectLeasePlan inputs answer

/-! ### Persisting a plan -/

/-- `_state`: a missing row is created with its defaults. -/
def leaseState (c : HACluster) : HALeaseReplicationState := c.leaseReplication.getD {}

/-- The snapshot with the largest generation. -/
def latestSnapshot (c : HACluster) : Option HALeaseSnapshot :=
  c.leaseSnapshots.argmax HALeaseSnapshot.generation

/-- The generation a new snapshot receives. -/
def nextLeaseGeneration (c : HACluster) : ℕ :=
  max (leaseState c).desiredGeneration ((latestSnapshot c).elim 0 (·.generation)) + 1

/-- The state row once a plan has been accepted: its ends and its time. -/
def planState (c : HACluster) (now : DateTime) (plan : LeasePlan) : HALeaseReplicationState :=
  { leaseState c with
    sourceNodeId := some plan.sourceId, targetNodeId := some plan.targetId,
    lastFullReconciliationAt := some now, lastErrorRedacted := none }

/-- The state row of an inapplicable plan. -/
def inapplicableState (c : HACluster) (now : DateTime) (plan : LeasePlan) :
    HALeaseReplicationState :=
  { planState c now plan with
    status := .notApplicable, leaseCount := 0, differenceCount := 0, conflictCount := 0 }

/-- The state row of an applicable plan, before its status is known. -/
def capturedState (c : HACluster) (now : DateTime) (plan : LeasePlan) : HALeaseReplicationState :=
  let checksum := Digest.leasePayload plan.sourceId plan.leases
  { planState c now plan with
    leaseCount := plan.leases.length
    differenceCount :=
      if (latestSnapshot c).any (·.checksum = checksum) then 0
      else max 1 (max plan.leases.length ((latestSnapshot c).elim 0 (·.leaseCount)))
    conflictCount := 0 }

/-- The state row of a failed inspection. -/
def blockedState (c : HACluster) (now : DateTime) (message : String) : HALeaseReplicationState :=
  { leaseState c with
    status := .blocked
    conflictCount := if PyText.lowerContains message "conflict" then 1 else 0
    lastErrorRedacted := some (PyText.take 1000 message)
    lastFullReconciliationAt := some now }

/-- The snapshot an applicable plan adds when the leases have changed. -/
def planSnapshot (c : HACluster) (plan : LeasePlan) : HALeaseSnapshot where
  sourceNodeId := plan.sourceId
  targetNodeId := plan.targetId
  generation := nextLeaseGeneration c
  checksum := .leasePayload plan.sourceId plan.leases
  leaseCount := plan.leases.length
  status := .pending

/-- The status of the latest snapshot, if it already holds these leases and may still be used. -/
def reusableSnapshot (c : HACluster) (plan : LeasePlan) : Option SnapshotStatus :=
  (latestSnapshot c).bind fun s ↦
    if s.checksum = .leasePayload plan.sourceId plan.leases ∧ s.status ≠ .failed then some s.status
    else none

/-- The cluster with a new lease-replication row. -/
def setLeaseState (c : HACluster) (state : HALeaseReplicationState) : HACluster :=
  { c with leaseReplication := some state }

/-- `reconcile_cluster_leases` with a precomputed inspection. The row is committed in every case;
a failed inspection is raised again after that. -/
def persistLeasePlan (c : HACluster) (now : DateTime) (inspection : Except String LeasePlan) :
    HACluster × Except String Unit :=
  match inspection with
  | .error message => (setLeaseState c (blockedState c now message), .error message)
  | .ok plan =>
    if !plan.applicable then (setLeaseState c (inapplicableState c now plan), .ok ())
    else
      let state := capturedState c now plan
      -- The digest covers the leases only, so an unchanged list does not start a new generation.
      match reusableSnapshot c plan with
      | some .staged => (setLeaseState c { state with status := .current }, .ok ())
      | some _ => (setLeaseState c { state with status := .pending }, .ok ())
      | none =>
        let c' := { c with leaseSnapshots := c.leaseSnapshots ++ [planSnapshot c plan] }
        (setLeaseState c'
          { state with desiredGeneration := nextLeaseGeneration c, status := .pending }, .ok ())

/-- `reconcile_cluster_leases`. -/
def reconcileClusterLeases (c : HACluster) (now : DateTime) (answer : LeaseAnswer) :
    HACluster × Except String Unit :=
  persistLeasePlan c now (inspectClusterLeases c answer)

/-! ### The staging action -/

/-- The action `desired_lease_action` offers. -/
structure LeaseAction where
  actionId : ActionId
  generation : ℕ
  checksum : Digest
  deriving DecidableEq

/-- The snapshot of a generation. -/
def snapshotAt (c : HACluster) (generation : ℕ) : Option HALeaseSnapshot :=
  c.leaseSnapshots.find? (·.generation = generation)

/-- `desired_lease_action`. -/
def desiredLeaseAction (c : HACluster) (n : NodeId) : Option LeaseAction :=
  match c.leaseReplication with
  | none => none
  | some state =>
    if state.status ≠ .pending ∨ state.targetNodeId ≠ some n then none
    else match snapshotAt c state.desiredGeneration with
    | none => none
    | some snapshot =>
      if snapshot.status ≠ .pending then none
      else some ⟨.lease n snapshot.generation snapshot.checksum, snapshot.generation,
        snapshot.checksum⟩

/-- `snapshot_for_agent`: the snapshot a node may download for a generation. -/
def snapshotForAgent (c : HACluster) (n : NodeId) (generation : ℕ) :
    Except String HALeaseSnapshot :=
  match c.leaseReplication with
  | none => .error "This lease snapshot is not assigned to this node."
  | some state =>
    if state.targetNodeId ≠ some n ∨ state.desiredGeneration ≠ generation then
      .error "This lease snapshot is not assigned to this node."
    else match snapshotAt c generation with
    | none => .error "The requested lease snapshot is unavailable."
    | some snapshot =>
      if snapshot.status ≠ .pending then .error "The requested lease snapshot is unavailable."
      else .ok snapshot

/-- The cluster with a new status on the snapshot of one generation. Generations are unique. -/
def setSnapshotStatus (c : HACluster) (generation : ℕ) (status : SnapshotStatus) : HACluster :=
  { c with leaseSnapshots :=
      c.leaseSnapshots.map fun s ↦ if s.generation = generation then { s with status } else s }

/-- `record_lease_stage_result`. -/
def recordLeaseStageResult (c : HACluster) (n : NodeId) (generation : ℕ) (checksum : Option Digest)
    (status : ResultStatus) (message : String) : Except String HACluster :=
  match c.leaseReplication with
  | none => .error "The lease result does not match the target's current desired generation."
  | some state =>
    if state.targetNodeId ≠ some n ∨ state.desiredGeneration ≠ generation then
      .error "The lease result does not match the target's current desired generation."
    else match snapshotAt c generation with
    | none => .error "The staged lease checksum does not match Kaya's validated snapshot."
    | some snapshot =>
      match status with
      | .applied =>
        if checksum ≠ some snapshot.checksum then
          .error "The staged lease checksum does not match Kaya's validated snapshot."
        else
          let c := (setSnapshotStatus c generation .staged).modifyNode n
            fun node ↦ { node with leaseGeneration := generation }
          .ok (setLeaseState c
            { state with
              status := .current, appliedGeneration := generation, differenceCount := 0
              lastErrorRedacted := none })
      | .failed =>
        .ok (setLeaseState (setSnapshotStatus c generation .failed)
          { state with status := .error, lastErrorRedacted := some (PyText.take 1000 message) })

end Kaya.HA
