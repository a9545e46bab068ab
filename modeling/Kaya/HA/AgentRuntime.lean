import Kaya.HA.Maintenance

/-!
# The agent's side of a DHCP action

`ha_agent/failover_runtime.py` and the generation check of `ha_agent/kaya_ha_failover_helper.py`:
what an agent verifies, on its own state, before it lets the privileged helper touch DHCP.

The owner-protection rule is written here a second time, independently of the server: a running DHCP
server is only stopped under an authorised hand-over, and so is the node that owns the Virtual IP.
The fields of an action that the server always fills in the same way (`automatic` is false, the
checksum is a SHA-256 digest, a run identifier is present) are not part of `DhcpAction`.
-/

namespace Kaya.HA

/-- The agent's local state, as far as a DHCP action reads or writes it. -/
structure AgentState where
  failoverGeneration : ℕ := 0
  dhcpRunning : Bool := false
  vipOwned : Bool := false
  observedRole : Option Role := none
  failoverLeaseGeneration : ℕ := 0
  failoverRestoreOriginal : Bool := false
  failoverConfigurationOnly : Bool := false

/-- The guards of `apply_failover_action`, in order; `none` when all of them pass. -/
def failoverActionRefusal (state : AgentState) (action : DhcpAction) : Option String :=
  let handover := action.ownerHandoverAuthorised
  if action.generation < 1 then some "Kaya supplied an invalid DHCP transition action."
  else if action.generation < state.failoverGeneration then
    some "Automatic or stale DHCP transitions are rejected."
  else if action.configurationOnly ∧ action.actionType ≠ .promote then
    some "Kaya supplied an invalid DHCP repair scope."
  else if action.actionType = .demote ∧ state.dhcpRunning ∧ !handover then
    some ("Refusing to disable DHCP on the current sole owner without a verified atomic " ++
      "handover.")
  else if action.actionType = .demote ∧ state.vipOwned ∧ state.observedRole = some .active ∧
      !handover then
    some "Rejecting stale DHCP demotion because this node currently owns the VIP."
  else if action.actionType = .promote ∧ (!state.vipOwned ∨ state.observedRole ≠ some .active) then
    some "Rejecting stale DHCP promotion because this node no longer owns the VIP."
  else none

/-- `apply_failover_action` up to the call of the helper: the state the helper then reads. -/
def applyFailoverAction (state : AgentState) (action : DhcpAction) : Except String AgentState :=
  match failoverActionRefusal state action with
  | some refusal => .error refusal
  | none =>
    .ok { state with
      failoverGeneration := action.generation
      failoverLeaseGeneration := action.leaseGeneration
      failoverRestoreOriginal := action.restoreOriginal
      failoverConfigurationOnly := action.configurationOnly }

/-- The first two steps of `_lease_lines`: the staged document is read — zero stands for none — and
must be exactly the one asked for. -/
def leaseLinesCheck (staged generation : ℕ) : Except String Unit :=
  if staged = 0 then .error "[Errno 2] No such file or directory"
  else if staged ≠ generation then .error "The staged lease generation is not current."
  else .ok ()

/-- Which demotions an agent refuses. -/
theorem failoverActionRefusal_demote {state : AgentState} {action : DhcpAction}
    (htype : action.actionType = .demote) (honly : action.configurationOnly = false)
    (hpos : 1 ≤ action.generation) (hgen : state.failoverGeneration ≤ action.generation) :
    failoverActionRefusal state action = none ↔ action.ownerHandoverAuthorised = true ∨
        (state.dhcpRunning = false ∧
          ¬ (state.vipOwned = true ∧ state.observedRole = some .active)) := by
  have h1 : ¬ action.generation < 1 := by omega
  have h2 : ¬ action.generation < state.failoverGeneration := by omega
  unfold failoverActionRefusal
  simp only [if_neg h1, if_neg h2, htype, honly]
  rcases action.ownerHandoverAuthorised with - | -
  · rcases state.dhcpRunning with - | -
    · simp
    · simp
  · simp

end Kaya.HA
