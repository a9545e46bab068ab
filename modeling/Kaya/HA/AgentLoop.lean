import Kaya.HA.System

/-!
# One cycle of an agent

`ha_agent/kaya_ha_agent.py`: what an agent does with a desired state, and how it delivers the results.
Every result first goes into the agent's own store, under one of four keys, and stays there until the
server has taken it (`submit_pending`). While a DHCP or resolver result waits, `reconcile_desired`
does not execute an action **with the same identifier** again.

The privileged helpers are outside the agent, and so is the network: `HelperAnswers` is what a cycle
hears from them. Texts that an apply function builds from the output of its helper are part of the
answer.
-/

namespace Kaya.HA

/-! ### What the server sends -/

/-- `AUTOMATIC_AGENT_VERSION`. -/
def automaticAgentVersion : List ℤ := [0, 2, 7]

/-- The keys of `desired_state` that `reconcile_desired` reads. -/
structure DesiredState where
  clusterGeneration : ℕ
  roleGeneration : ℕ
  desiredRole : Role
  virtualIp : Option String
  maintenanceMode : Bool
  automaticFailover : Bool
  automaticHoldDownSeconds : ℕ
  dhcpManaged : Bool
  peerHost : Option String
  networkInterface : Option String
  keepalived : Option KeepalivedAction
  leaseSnapshot : Option LeaseAction
  failover : Option DhcpAction
  resolverRepair : Option ExpectedAction
  deriving DecidableEq

/-- `desired_state`. A maintenance action takes the place of a failover action. -/
def desiredState (c : HACluster) (n : NodeId) (now : DateTime) : Except String DesiredState := do
  let keepalived ← desiredKeepalivedAction c n
  let prefixLength := c.prefixLength.getD 0
  pure
    { clusterGeneration := c.clusterGeneration, roleGeneration := c.roleGeneration
      desiredRole := (c.node n).desiredRole
      virtualIp := (c.virtualIp.filter (· ≠ "")).map fun vip ↦ s!"{vip}/{prefixLength}"
      maintenanceMode := c.maintenanceMode
      automaticFailover := c.automaticFailoverEnabled ∧
        ∀ peer ∈ c.nodes.ids, ¬ versionTuple (c.node peer).agentVersion < automaticAgentVersion
      automaticHoldDownSeconds := 10
      dhcpManaged := piholeManagesDhcp c
      peerHost := (c.nodes.ids.find? (· ≠ n)).bind fun peer ↦ (c.node peer).managementHost
      networkInterface := (c.node n).networkInterface
      keepalived, leaseSnapshot := desiredLeaseAction c n
      failover := desiredMaintenanceAction c n now <|> desiredFailoverAction c n now
      resolverRepair := desiredResolverAction c n }

/-! ### What the agent stores -/

/-- The keys under which a result waits for its delivery. -/
inductive PendingKey
  | action | lease | failover | resolver
  deriving DecidableEq

/-- The agent's `State`, as far as a cycle reads or writes it. -/
structure AgentStore where
  runtime : AgentState := {}
  lastValidClusterGeneration : ℕ := 0
  observedGeneration : ℕ := 0
  roleGeneration : ℕ := 0
  desiredRole : Option Role := none
  desiredVirtualIp : Option String := none
  automaticFailover : Bool := false
  maintenanceMode : Bool := false
  dhcpManaged : Bool := false
  peerHost : Option String := none
  networkInterface : Option String := none
  automaticHoldDownSeconds : ℕ := 10
  lastKayaContact : Option DateTime := none
  configGeneration : ℕ := 0
  keepalivedChecksum : Option Digest := none
  leaseGeneration : ℕ := 0
  pending : PendingKey → Option HAAgentActionResult := fun _ ↦ none
  /-- The types of the queued events. -/
  events : List String := []

/-- Store or clear the result under a key. -/
def AgentStore.setPending (store : AgentStore) (key : PendingKey)
    (result : Option HAAgentActionResult) : AgentStore :=
  { store with pending := Function.update store.pending key result }

@[simp] theorem AgentStore.setPending_pending (store : AgentStore) (key : PendingKey)
    (result : Option HAAgentActionResult) : (store.setPending key result).pending key = result :=
  Function.update_self ..

theorem AgentStore.setPending_pending_of_ne {store : AgentStore} {key key' : PendingKey}
    {result : Option HAAgentActionResult} (h : key' ≠ key) :
    (store.setPending key result).pending key' = store.pending key' :=
  Function.update_of_ne h ..

/-- What a privileged helper answers. -/
structure HelperAnswer where
  returnCode : ℕ := 0
  applied : Bool
  message : String
  /-- `dhcp_running` in the output of the DHCP helper. -/
  dhcpRunning : Option Bool := none

/-- What a cycle hears from outside: the helpers, or why they could not be asked, and the verdict on
the downloaded lease snapshot. -/
structure HelperAnswers where
  keepalived : Except String HelperAnswer
  lease : Except String Unit
  failover : Except String HelperAnswer
  resolver : Except String HelperAnswer

/-! ### The four actions -/

/-- `apply_desired_keepalived`, with the result of an exception. -/
def applyDesiredKeepalived (store : AgentStore) (action : KeepalivedAction)
    (answer : Except String HelperAnswer) : AgentStore × HAAgentActionResult :=
  let failed (message : String) : HAAgentActionResult :=
    { actionId := action.actionId, actionType := .keepalivedApply, generation := action.generation
      status := .failed, message := PyText.take 1000 message }
  let applied (message : String) : HAAgentActionResult :=
    { actionId := action.actionId, actionType := .keepalivedApply, generation := action.generation
      status := .applied, checksum := some action.checksum, message }
  if action.generation < store.configGeneration then
    (store, failed "Rejected stale Keepalived generation.")
  else if action.generation = store.configGeneration ∧
      store.keepalivedChecksum = some action.checksum then
    (store, applied "Keepalived generation was already applied.")
  else match answer with
  | .error message => (store, failed message)
  | .ok output =>
    if output.returnCode ≠ 0 ∨ !output.applied then (store, failed output.message)
    else
      ({ store with
          configGeneration := action.generation, keepalivedChecksum := some action.checksum },
        applied "Generated Keepalived configuration validated and activated.")

/-- Download and stage a lease snapshot. -/
def stageLeaseSnapshot (store : AgentStore) (action : LeaseAction) (answer : Except String Unit) :
    AgentStore × HAAgentActionResult :=
  match answer with
  | .error message =>
    (store,
      { actionId := action.actionId, actionType := .leaseSnapshotStage
        generation := action.generation, status := .failed, message := PyText.take 1000 message })
  | .ok () =>
    ({ store with leaseGeneration := action.generation },
      { actionId := action.actionId, actionType := .leaseSnapshotStage
        generation := action.generation, status := .applied, checksum := some action.checksum
        message := "Validated lease snapshot staged locally; DHCP was not changed." })

/-- `apply_failover_action` with its helper, and the result of an exception. -/
def executeFailoverAction (store : AgentStore) (action : DhcpAction)
    (answer : Except String HelperAnswer) : AgentStore × HAAgentActionResult :=
  match applyFailoverAction store.runtime action with
  | .error refusal => (store, action.result .failed (PyText.take 1000 refusal))
  | .ok runtime =>
    match answer with
    | .error message =>
      ({ store with runtime }, action.result .failed (PyText.take 1000 message))
    | .ok output =>
      if output.returnCode ≠ 0 ∨ !output.applied then
        ({ store with runtime }, action.result .failed (PyText.take 1000 output.message))
      else
        ({ store with runtime :=
            { runtime with dhcpRunning := output.dhcpRunning.getD runtime.dhcpRunning } },
          action.result .applied output.message)

/-- `apply_resolver_action`, with the result of an exception. -/
def applyResolverAction (action : ExpectedAction) (answer : Except String HelperAnswer) :
    HAAgentActionResult :=
  match answer with
  | .error message =>
    { actionId := action.actionId, actionType := .resolverRepair, generation := action.generation
      status := .failed, message := PyText.take 1000 message }
  | .ok output =>
    { actionId := action.actionId, actionType := .resolverRepair, generation := action.generation
      status := if output.returnCode = 0 ∧ output.applied then .applied else .failed
      checksum := if output.returnCode = 0 then some action.checksum else none
      message := PyText.take 1000 output.message }

/-! ### The cycle -/

/-- The markers and settings of an accepted desired state. Neither marker moves backwards. -/
def adoptDesired (store : AgentStore) (desired : DesiredState) (now : DateTime) : AgentStore :=
  { store with
    lastValidClusterGeneration := desired.clusterGeneration
    observedGeneration := max store.observedGeneration desired.roleGeneration
    desiredRole := some desired.desiredRole
    desiredVirtualIp := desired.virtualIp
    roleGeneration := max store.roleGeneration desired.roleGeneration
    automaticFailover := desired.automaticFailover
    maintenanceMode := desired.maintenanceMode
    dhcpManaged := desired.dhcpManaged
    peerHost := desired.peerHost
    networkInterface := desired.networkInterface
    automaticHoldDownSeconds := max 5 (min 60
      (if desired.automaticHoldDownSeconds = 0 then 10 else desired.automaticHoldDownSeconds))
    lastKayaContact := some now }

/-- The Keepalived part. -/
def reconcileKeepalived (store : AgentStore) (desired : DesiredState) (answers : HelperAnswers) :
    AgentStore :=
  match desired.keepalived with
  | none => store
  | some action =>
    let (store, result) := applyDesiredKeepalived store action answers.keepalived
    store.setPending .action (some result)

/-- The lease part. -/
def reconcileLeaseSnapshot (store : AgentStore) (desired : DesiredState)
    (answers : HelperAnswers) : AgentStore :=
  match desired.leaseSnapshot with
  | none => store
  | some action =>
    let (store, result) := stageLeaseSnapshot store action answers.lease
    store.setPending .lease (some result)

/-- The resolver part. -/
def reconcileResolver (store : AgentStore) (desired : DesiredState) (answers : HelperAnswers) :
    AgentStore :=
  match desired.resolverRepair with
  | none => store
  | some action =>
    if (store.pending .resolver).any (·.actionId = action.actionId) then store
    else store.setPending .resolver (some (applyResolverAction action answers.resolver))

/-- `reconcile_desired`, with the DHCP action it executes. -/
def reconcileDesired (store : AgentStore) (desired : DesiredState) (answers : HelperAnswers)
    (now : DateTime) : AgentStore × Option DhcpAction :=
  if desired.clusterGeneration < store.lastValidClusterGeneration then
    ({ store with events := store.events ++ ["stale_generation_rejected"] }, none)
  else
    let store := reconcileKeepalived (adoptDesired store desired now) desired answers
    let store := reconcileLeaseSnapshot store desired answers
    match desired.failover with
    | none => (reconcileResolver store desired answers, none)
    | some action =>
      -- A waiting result with this identifier ends the cycle, whatever its generation.
      if (store.pending .failover).any (·.actionId = action.actionId) then (store, none)
      else
        let (store, result) := executeFailoverAction store action answers.failover
        (reconcileResolver (store.setPending .failover (some result)) desired answers, some action)

/-- `submit_pending`: `posted` is whether the server took the request. -/
def submitPending (store : AgentStore) (key : PendingKey) (posted : Bool) : AgentStore :=
  match store.pending key with
  | none => store
  | some _ => if posted then store.setPending key none else store

/-- What a cycle of `run_once` meets after its heartbeat: the desired state of the response, the
helpers, and which results the server then takes. -/
structure AgentCycle where
  now : DateTime
  desired : DesiredState
  answers : HelperAnswers
  posted : PendingKey → Bool

/-- The end of `run_once`: reconcile, then deliver the four kinds of results. -/
def runOnce (store : AgentStore) (cycle : AgentCycle) : AgentStore × Option DhcpAction :=
  let (store, executed) := reconcileDesired store cycle.desired cycle.answers cycle.now
  let store := submitPending store .action (cycle.posted .action)
  let store := submitPending store .lease (cycle.posted .lease)
  let store := submitPending store .failover (cycle.posted .failover)
  (submitPending store .resolver (cycle.posted .resolver), executed)

/-- A sequence of cycles, with the DHCP actions executed in it. -/
def runCycles (store : AgentStore) : List AgentCycle → AgentStore × List DhcpAction
  | [] => (store, [])
  | cycle :: cycles =>
    let (store, executed) := runOnce store cycle
    let (store, later) := runCycles store cycles
    (store, executed.toList ++ later)

end Kaya.HA
