import Kaya.HA.Failover
import Kaya.Library.IPv4

/-!
# Keepalived configuration

`app/services/ha_keepalived.py`: the configuration rendered for a node, and the `KEEPALIVED_APPLY`
action that carries it. Stable configurations use `nopreempt`; only the destination of a controlled
move may preempt, and only while it is moving.
-/

namespace Kaya.HA

/-- `INTERFACE_PATTERN`: one to eighty characters of a fixed alphabet. -/
def validInterface (name : Option String) : Bool :=
  match name with
  | none => false
  | some text =>
    let cs := text.toList
    1 ≤ cs.length ∧ cs.length ≤ 80 ∧ cs.all fun c ↦ c.isAlphanum || "_.:-".toList.contains c

/-- `_node_address`. -/
def nodeAddress (node : HANode) : Except String ℕ :=
  match IPv4.address (node.managementHost.getD "") with
  | some ip => .ok ip
  | none =>
    let name := node.displayName
    .error s!"{name} must use an IPv4 management address before Keepalived deployment."

/-- The Virtual IP with its prefix length, when both are set and valid. -/
def virtualInterface (c : HACluster) : Except String (ℕ × ℕ) :=
  match c.virtualIp, c.prefixLength with
  | some text, some len =>
    if text = "" ∨ len = 0 then
      .error "Set a virtual IPv4 address and prefix length before deployment."
    else match IPv4.address text with
    | some ip =>
      if len ≤ 32 then .ok (ip, len) else .error "The virtual IP and prefix length are invalid."
    | none => .error "The virtual IP and prefix length are invalid."
  | _, _ => .error "Set a virtual IPv4 address and prefix length before deployment."

/-- `validate_network`. -/
def validateNetwork (c : HACluster) (routerId : Option ℕ := none) : Except String Unit := do
  if c.nodes.ids.length ≠ 2 then
    .error "Exactly two nodes are required for Keepalived deployment."
  let (vip, len) ← virtualInterface c
  if vip = IPv4.networkAddress vip len ∨ vip = IPv4.broadcastAddress vip len then
    .error "The virtual IP cannot be the network or broadcast address."
  let addresses ← c.nodes.ids.mapM fun n ↦ nodeAddress (c.node n)
  if vip ∈ addresses then
    .error "The virtual IP cannot match either node address."
  if !addresses.all (IPv4.sameNetwork vip · len) then
    .error "Both nodes and the virtual IP must be on the same IPv4 subnet."
  match c.nodes.ids.find? fun n ↦ !validInterface (c.node n).networkInterface with
  | some n =>
    let name := (c.node n).displayName
    .error s!"Enter a valid network interface for {name}."
  | none => pure ()
  match routerId <|> c.vrrpRouterId with
  | some id =>
    if 1 ≤ id ∧ id ≤ 255 then pure ()
    else .error "VRRP router ID must be between 1 and 255."
  | none => .error "VRRP router ID must be between 1 and 255."

/-- `_controlled_preemption_target`. -/
def controlledPreemptionTarget (c : HACluster) : Option NodeId :=
  let moving := (activeFailover c).bind fun r ↦
    let run := c.failoverRun r
    if run.phase = .movingVip then some run.targetNodeId
    else if run.phase = .rollbackMovingVip then some run.sourceNodeId
    else none
  let rebuilding := c.maintenanceRuns.newest? HAMaintenanceRun.createdAt fun run ↦
    run.operation = .reinitialise ∧ run.status = .running ∧ run.phase = .waitingForVip
  moving <|> rebuilding.bind fun m ↦ (c.maintenanceRun m).desiredActiveNodeId

/-- The eight-character tag of a cluster in its Keepalived names. -/
def clusterTag (c : HACluster) : String :=
  String.ofList (((c.publicId.toList.filter (· ≠ '-')).take 8).map Char.toUpper)

/-- The rendered text. -/
def keepalivedContent (c : HACluster) (node : HANode) (allowPreemption : Bool) : String :=
  let generation := c.keepalivedGeneration
  let tag := clusterTag c
  let policy := if allowPreemption then "    preempt_delay 3\n" else "    nopreempt\n"
  let hook := "/usr/lib/kaya-ha-agent/kaya_ha_transition.py"
  let interface := node.networkInterface.getD ""
  let router := c.vrrpRouterId.getD 0
  let priority := node.vrrpPriority.getD 0
  let vip := c.virtualIp.getD ""
  let len := c.prefixLength.getD 0
  "# Managed by Kaya High Availability. Do not edit.\n" ++
  s!"# cluster={c.publicId} generation={generation}\n" ++
  "global_defs \x7b\n    script_user kaya-ha kaya-ha\n    enable_script_security\n\x7d\n\n" ++
  s!"vrrp_script KAYA_DNS_{tag} \x7b\n" ++
  "    script \"/usr/lib/kaya-ha-agent/check-pihole-dns\"\n" ++
  "    interval 2\n    timeout 2\n    fall 3\n    rise 3\n\x7d\n\n" ++
  s!"vrrp_instance KAYA_HA_{tag} \x7b\n" ++ "    state BACKUP\n" ++
  s!"    interface {interface}\n" ++ s!"    virtual_router_id {router}\n" ++
  s!"    priority {priority}\n" ++ s!"    advert_int 1\n{policy}\n" ++
  "    virtual_ipaddress \x7b\n" ++ s!"        {vip}/{len}\n" ++
  "    \x7d\n\n    track_script \x7b\n" ++ s!"        KAYA_DNS_{tag}\n" ++ "    \x7d\n\n" ++
  s!"    notify_master \"{hook} master {generation}\"\n" ++
  s!"    notify_backup \"{hook} backup {generation}\"\n" ++
  s!"    notify_fault \"{hook} fault {generation}\"\n" ++ "\x7d\n"

/-- `render_keepalived_config`. -/
def renderKeepalivedConfig (c : HACluster) (n : NodeId) (allowPreemption : Bool) :
    Except String String := do
  validateNetwork c
  if n ∉ c.nodes.ids ∨ !(c.node n).vrrpPriority.any fun p ↦ 1 ≤ p ∧ p < 255 then
    .error "Each node requires a Keepalived priority between 1 and 254."
  pure (keepalivedContent c (c.node n) allowPreemption)

/-- The action `desired_keepalived_action` offers. -/
structure KeepalivedAction where
  actionId : ActionId
  generation : ℕ
  configuration : String
  checksum : Digest
  deriving DecidableEq

/-- `desired_keepalived_action`. -/
def desiredKeepalivedAction (c : HACluster) (n : NodeId) :
    Except String (Option KeepalivedAction) :=
  if (c.keepalivedStatus ≠ .pendingAgent ∧ c.keepalivedStatus ≠ .deploying) ∨
      (c.node n).keepalivedStatus ≠ .pendingAgent then .ok none
  else
    (renderKeepalivedConfig c n (controlledPreemptionTarget c = some n)).map fun content ↦
      some ⟨.keepalived c.keepalivedGeneration n, c.keepalivedGeneration, content,
        .keepalivedConfig content⟩

/-! ### What is offered -/

section Offers

variable {c : HACluster} {n : NodeId} {a : KeepalivedAction}

theorem renderKeepalivedConfig_eq_ok {allowPreemption : Bool} {content : String}
    (h : renderKeepalivedConfig c n allowPreemption = .ok content) :
    n ∈ c.nodes.ids ∧ content = keepalivedContent c (c.node n) allowPreemption := by
  unfold renderKeepalivedConfig at h
  cases hnet : validateNetwork c with
  | error message =>
    rw [hnet] at h
    cases h
  | ok _ =>
    rw [hnet] at h
    dsimp only [bind, Except.bind, pure, Except.pure] at h
    split at h <;> rename_i hpriority
    · cases h
    · rw [not_or, not_not] at hpriority
      exact ⟨hpriority.1, (Except.ok.inj h).symm⟩

/-- **Inversion** of an offer. -/
theorem desiredKeepalivedAction_eq_ok (h : desiredKeepalivedAction c n = .ok (some a)) :
    n ∈ c.nodes.ids ∧ (c.node n).keepalivedStatus = .pendingAgent ∧
      a.generation = c.keepalivedGeneration ∧ a.configuration =
        keepalivedContent c (c.node n) (decide (controlledPreemptionTarget c = some n)) ∧
      a.actionId = .keepalived c.keepalivedGeneration n ∧
      a.checksum = .keepalivedConfig a.configuration := by
  unfold desiredKeepalivedAction at h
  split at h <;> rename_i hpend
  · cases h
  rcases hcont : renderKeepalivedConfig c n (controlledPreemptionTarget c = some n) with
    message | content
  · rw [hcont] at h
    cases h
  rw [hcont] at h
  cases h
  rw [not_or, not_not] at hpend
  obtain ⟨hn, hrendered⟩ := renderKeepalivedConfig_eq_ok hcont
  exact ⟨hn, hpend.2, rfl, hrendered, rfl, rfl⟩

end Offers

end Kaya.HA
