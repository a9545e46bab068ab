import Kaya.HA.LeaseDocuments

/-!
# The privileged DHCP helper

`main` of `ha_agent/kaya_ha_failover_helper.py`. The helper runs as root on a node, under a lock, and
is the only program that changes `dhcp.active` and the lease file.

**The outside.** Everything the helper asks of the node may fail, so a call takes an account of what it
meets (`HelperCalls`): how each command ends, what each reading finds. `none` stands for a command or
a reading that raises. A command that fails may have taken effect all the same, and others may change
a setting too, so a command carries the value of `dhcp.active` it leaves.

**Writes.** A file is replaced by renaming, so a write that fails leaves it as it was.

**Errors.** `HelperError.backedUp` says whether the lease file had been backed up by then.
-/

namespace Kaya.HA

/-! ### The node -/

/-- The node as the helper finds and leaves it. A lease file that is not there is `none`. -/
structure HelperNode where
  dhcpActive : Bool
  leaseFile : Option ByteArray
  /-- `lease-snapshots/current.json`, if it can be read and is well formed. -/
  staged : Option StagedSnapshot

/-- What the lease file says: nothing when there is none. -/
def HelperNode.leases (node : HelperNode) : ByteArray := node.leaseFile.getD .empty

/-- The helper's failure. -/
structure HelperError where
  message : String
  backedUp : Bool := false

/-! ### DHCP status -/

/-- How `pihole-FTL --config dhcp.active` ends: it raises, it says nothing of use, or it prints the
setting. -/
inductive ConfigRead
  | raises | unreadable | readable
  deriving DecidableEq

/-- `_dhcp_active`. -/
def dhcpActiveRead (active : Bool) : ConfigRead → Except String (Option Bool)
  | .raises => .error "pihole-FTL could not be run."
  | .unreadable => .ok none
  | .readable => .ok (some active)

/-- What one look at the node finds besides the setting: the return code of
`systemctl is-active pihole-FTL`, and whether UDP port 67 is bound. -/
structure Look where
  config : ConfigRead
  service : Option ℕ
  listening : Option Bool

/-- The result of `_dhcp_status`. -/
structure DhcpStatus where
  configured : Option Bool
  serviceActive : Option Bool
  listening : Option Bool
  runtimeState : DhcpRuntimeState
  observationStatus : ObservationStatus

/-- `_dhcp_status`. -/
def dhcpStatus (active : Bool) (look : Look) : Except String DhcpStatus := do
  let configured ← dhcpActiveRead active look.config
  match look.service with
  | none => .error "systemctl could not be run."
  | some returncode =>
    let serviceActive := if returncode = 0 then some true else if returncode = 3 then some false
      else none
    let available := configured.isSome && serviceActive.isSome && look.listening.isSome
    let running := serviceActive = some true && look.listening = some true
    .ok { configured, serviceActive, listening := look.listening
          runtimeState := if !available then .unknown else if running then .running else .stopped
          observationStatus := if available then .fresh else .unavailable }

/-- The post-condition `_wait_for_dhcp` waits for. -/
def DhcpStatus.ready (enabled : Bool) (status : DhcpStatus) : Bool :=
  if enabled then
    status.configured = some true && status.serviceActive = some true &&
      status.listening = some true && status.runtimeState = .running
  else
    status.configured = some false && status.listening = some false &&
      status.runtimeState = .stopped

/-- `_wait_for_dhcp`, with the turns that are left. -/
def waitForDhcp (enabled active : Bool) (looks : ℕ → Look) : ℕ → Except String DhcpStatus
  | 0 => .error <| if enabled then
      "Pi-hole accepted the DHCP setting but did not start serving on UDP port 67. " ++
        "Check the standby DHCP range, network interface, Pi-hole FTL log, and host firewall."
    else
      "Pi-hole accepted the DHCP setting but UDP port 67 is still in use. " ++
        "DHCP ownership could not be released safely."
  | turns + 1 => do
    let latest ← dhcpStatus active (looks turns)
    if latest.observationStatus = .fresh ∧ latest.ready enabled then .ok latest
    else waitForDhcp enabled active looks turns

/-- What one call of `_set_dhcp` meets: the status before, the return code of the command and the
setting it leaves, the status after. The looks of the wait are numbered from its end. -/
structure SetDhcpCall where
  before : Look
  returncode : Option ℕ
  leaves : Bool
  immediate : ConfigRead
  looks : ℕ → Look

/-- `_set_dhcp`. -/
def setDhcp (enabled : Bool) (call : SetDhcpCall) (node : HelperNode) :
    Except String DhcpStatus × HelperNode :=
  match dhcpStatus node.dhcpActive call.before with
  | .error message => (.error message, node)
  | .ok _ =>
    let node := { node with dhcpActive := call.leaves }
    match call.returncode with
    | none => (.error "pihole-FTL could not be run.", node)
    | some returncode =>
      match dhcpActiveRead node.dhcpActive call.immediate with
      | .error message => (.error message, node)
      | .ok immediate =>
        if returncode ≠ 0 then
          (.error s!"Pi-hole DHCP activation command failed with exit code {returncode}", node)
        else if immediate ≠ some enabled then
          (.error "Pi-hole DHCP command returned success but dhcp.active remained", node)
        else (waitForDhcp enabled node.dhcpActive call.looks 20, node)

/-! ### The agent's state and the Virtual IP -/

/-- The agent's state database, as far as the helper reads it. -/
structure HelperState where
  automaticFailover : Bool := false
  maintenanceMode : Bool := false
  dhcpManaged : Bool := false
  keepalivedGeneration : ℕ := 0
  failoverGeneration : ℕ := 0
  observedRole : Option Role := none
  vipOwned : Bool := false
  dnsHealthy : Bool := false
  desiredVirtualIp : String := ""
  failoverConfigurationOnly : Bool := false
  failoverRestoreOriginal : Bool := false
  failoverLeaseGeneration : ℕ := 0
  leaseGeneration : ℕ := 0

/-- A reading of the state database. -/
def readState (state : Option HelperState) : Except String HelperState :=
  match state with
  | none => .error "unable to open database file"
  | some state => .ok state

/-- `_automatic_allowed`. -/
def automaticAllowed (state : HelperState) (generation : ℕ) : Bool :=
  state.automaticFailover && !state.maintenanceMode && state.dhcpManaged &&
    generation = state.keepalivedGeneration

/-- `_promotion_fence`. -/
def promotionFence (state : HelperState) (generation : ℕ) (automatic : Bool) : Bool :=
  (if automatic then state.keepalivedGeneration = generation
    else state.failoverGeneration = generation) &&
  state.observedRole = some .active && state.vipOwned && state.dnsHealthy

/-- How `ip -j address show` ends: the addresses of the node, or nothing when it fails. -/
structure FenceLook where
  state : Option HelperState
  addresses : Option (Option (List String))

/-- `_owns_vip`. -/
def ownsVip (state : HelperState) (addresses : Option (List String)) : Bool :=
  let desired := String.ofList (state.desiredVirtualIp.toList.takeWhile (· ≠ '/'))
  desired ≠ "" && addresses.any (·.contains desired)

/-- `_promotion_fence(generation, automatic) and _owns_vip()`. -/
def fenceHolds (generation : ℕ) (automatic : Bool) (look : FenceLook) : Except String Bool := do
  let state ← readState look.state
  if promotionFence state generation automatic then
    match look.addresses with
    | none => .error "ip could not be run."
    | some addresses => .ok (ownsVip state addresses)
  else .ok false

/-- `_wait_for_dns`, with the turns that are left. The probes are numbered from its end. -/
def waitForDns (probes : ℕ → Option Bool) : ℕ → Except String Unit
  | 0 => .error "Pi-hole FTL did not return to a healthy DNS state after DHCP activation."
  | turns + 1 =>
    match probes turns with
    | none => .error "systemctl could not be run."
    | some true => .ok ()
    | some false => waitForDns probes turns

/-! ### Promotion -/

/-- What a call of the helper meets. -/
structure HelperCalls where
  /-- The state database before the lock is held, under the lock, where the scope of the action is
  read, and where the settings of the promotion are. -/
  early : Option HelperState
  locked : Option HelperState
  scope : Option HelperState
  settings : Option HelperState
  /-- The fence before the promotion and after it. -/
  fenceBefore : FenceLook
  fenceAfter : FenceLook
  /-- The backup can be written; the new leases can be written. -/
  backUp : Bool
  write : Bool
  /-- The command proper: `_set_dhcp(True)` of a promotion, `_set_dhcp(False)` of a demotion. -/
  set : SetDhcpCall
  probes : ℕ → Option Bool
  /-- `_set_dhcp(False)` after a lost fence. -/
  fenceDisable : SetDhcpCall
  /-- The clean-up: `_set_dhcp(False)`, the backup can be read, the leases can be written. -/
  disable : SetDhcpCall
  readBack : Bool
  restore : Bool

/-- `_lease_lines`, with the snapshot it reads. -/
def stagedLines (node : HelperNode) (generation : ℕ) : Except String String :=
  match node.staged with
  | none => .error "[Errno 2] No such file or directory"
  | some document => leaseLines document generation

/-- `_atomic_write(LEASE_FILE, content, ownership)`. -/
def writeLeases (succeeds : Bool) (content : ByteArray) (node : HelperNode) :
    Except String Unit × HelperNode :=
  if succeeds then (.ok (), { node with leaseFile := some content })
  else (.error "The lease file could not be written.", node)

/-- The bytes a promotion puts into the lease file, if it gets so far. -/
def newLeases (calls : HelperCalls) (automatic : Bool) (node : HelperNode) :
    Except String (Option ByteArray) := do
  let state ← readState calls.settings
  if !automatic && state.failoverRestoreOriginal then .ok none
  else
    let generation := if automatic then state.leaseGeneration else state.failoverLeaseGeneration
    (stagedLines node generation).map fun lines ↦ some lines.toUTF8

/-- The first statements of the `try` block: the staged leases replace the old ones. -/
def stageLeases (calls : HelperCalls) (automatic : Bool) (node : HelperNode) :
    Except String Unit × HelperNode :=
  match newLeases calls automatic node with
  | .error message => (.error message, node)
  | .ok none => (.ok (), node)
  | .ok (some content) => writeLeases calls.write content node

/-- From `_set_dhcp(True)` to the second fence. A lost fence disables DHCP and then fails. -/
def activate (calls : HelperCalls) (generation : ℕ) (automatic : Bool) (node : HelperNode) :
    Except String DhcpStatus × HelperNode :=
  match setDhcp true calls.set node with
  | (.error message, node) => (.error message, node)
  | (.ok status, node) =>
    match waitForDns calls.probes 10 with
    | .error message => (.error message, node)
    | .ok () =>
      match fenceHolds generation automatic calls.fenceAfter with
      | .error message => (.error message, node)
      | .ok true => (.ok status, node)
      | .ok false =>
        match setDhcp false calls.fenceDisable node with
        | (.error message, node) => (.error message, node)
        | (.ok _, node) =>
          (.error ("Promotion was fenced because local VIP ownership changed; " ++
            "DHCP was disabled again."), node)

/-- The `try` block of a promotion. -/
def attemptPromotion (calls : HelperCalls) (generation : ℕ) (automatic : Bool) (node : HelperNode) :
    Except String DhcpStatus × HelperNode :=
  match stageLeases calls automatic node with
  | (.error message, node) => (.error message, node)
  | (.ok (), node) => activate calls generation automatic node

/-- `backup.read_text(encoding="utf-8")`, encoded again as it is written. -/
def backupText (backup : ByteArray) : Option ByteArray :=
  (String.fromUTF8? backup).map fun text ↦
    (String.ofList (PyText.universalNewlines text.toList)).toUTF8

/-- The clean-up inside `except Exception`. An error of its own ends it early, and is dropped. -/
def cleanUp (calls : HelperCalls) (backup : ByteArray) (node : HelperNode) : HelperNode :=
  match setDhcp false calls.disable node with
  | (.error _, node) => node
  | (.ok _, node) =>
    match (if calls.readBack then backupText backup else none) with
    | none => node
    | some content => (writeLeases calls.restore content node).2

/-- A promotion once its fence has held: the backup, the attempt, the clean-up. -/
def promote (calls : HelperCalls) (generation : ℕ) (automatic : Bool) (node : HelperNode) :
    Except HelperError DhcpStatus × HelperNode :=
  if !calls.backUp then (.error { message := "The lease file could not be backed up." }, node)
  else
    match attemptPromotion calls generation automatic node with
    | (.ok status, attempted) => (.ok status, attempted)
    | (.error message, attempted) =>
      (.error { message, backedUp := true }, cleanUp calls node.leases attempted)

/-! ### The commands -/

/-- The commands that name a generation. -/
inductive HelperCommand
  | demote | promote | automaticDemote | automaticPromote

/-- `command.startswith("automatic-")`. -/
def HelperCommand.automatic : HelperCommand → Bool
  | .automaticDemote | .automaticPromote => true
  | .demote | .promote => false

/-- The node is demoted. -/
def HelperCommand.demotes : HelperCommand → Bool
  | .demote | .automaticDemote => true
  | .promote | .automaticPromote => false

/-- The generation is the current one, and an automatic action is permitted. -/
def generationAllowed (command : HelperCommand) (state : HelperState) (generation : ℕ) : Bool :=
  if command.automatic then automaticAllowed state generation
  else generation = state.failoverGeneration

/-- `configuration_only`: the node already serves DHCP, and only the setting is missing. -/
def configurationOnly (calls : HelperCalls) (command : HelperCommand) : Except String Bool :=
  if command.automatic then .ok false
  else (readState calls.scope).map (·.failoverConfigurationOnly)

/-- An outcome that precedes any backup. -/
def unbacked {α : Type*} (outcome : Except String α) : Except HelperError α :=
  outcome.mapError fun message ↦ { message }

/-- A promotion or a demotion once the lock is held. -/
def transition (calls : HelperCalls) (command : HelperCommand) (generation : ℕ)
    (node : HelperNode) : Except HelperError DhcpStatus × HelperNode :=
  if command.demotes then
    let (outcome, node) := setDhcp false calls.set node
    (unbacked outcome, node)
  else
    match fenceHolds generation command.automatic calls.fenceBefore with
    | .error message => (.error { message }, node)
    | .ok false => (.error { message :=
        "Promotion requires current local VRRP authority, VIP ownership and healthy DNS." }, node)
    | .ok true =>
      match configurationOnly calls command with
      | .error message => (.error { message }, node)
      | .ok true =>
        let (outcome, node) := activate calls generation false node
        (unbacked outcome, node)
      | .ok false => promote calls generation command.automatic node

/-- The generation checks, before the lock is held and under it. -/
def checkGeneration (calls : HelperCalls) (command : HelperCommand) (generation : ℕ) :
    Except String Unit := do
  let early ← readState calls.early
  if generation < 1 ∨ !generationAllowed command early generation then
    .error "The DHCP action generation is stale or automatic failover is not permitted."
  else
    let locked ← readState calls.locked
    if !generationAllowed command locked generation then
      .error (if command.automatic then
        "The automatic DHCP action became stale while waiting for the failover lock."
      else "The DHCP action became stale while waiting for the failover lock.")
    else .ok ()

/-- `main`, for a command that names a generation. -/
def helperMain (calls : HelperCalls) (command : HelperCommand) (generation : ℕ)
    (node : HelperNode) : Except HelperError DhcpStatus × HelperNode :=
  match checkGeneration calls command generation with
  | .error message => (.error { message }, node)
  | .ok () => transition calls command generation node

end Kaya.HA
