import Kaya.HA.Topology

/-!
# Authorising a DHCP demotion

`app/services/ha_dhcp_safety.py`: the one decision every `DHCP_DEMOTE` passes through. A node that
is the sole active DHCP owner may only give DHCP up in an explicit handover to a replacement that is
ready *now*; any other node may be cleaned up without one.

`authoriseDhcpDemotion_allowed` is the inversion every caller uses: an allowed decision is either a
cleanup of a node that is **not** the sole owner, or a handover in which all of `handoverChecks`
passed. The first alternative is the weak one — "not the sole owner" is what the fresh reports fail
to show, so a node whose own report is stale or unknown falls under it.
-/

namespace Kaya.HA

/-- `_agent_version`, and its copy `_version` in the failover engine: the first three components,
padded with zeros. -/
def agentVersion (value : Option String) : List ℤ :=
  match (((PyText.orDefault value "0").toList.splitOn '.').take 3).mapM PyText.int with
  | some parts => (parts ++ [0, 0, 0]).take 3
  | none => [0, 0, 0]

/-- `version_tuple` of the agent installer: every component, no padding. -/
def versionTuple (value : Option String) : List ℤ :=
  (PyText.dottedInts (PyText.orDefault value "")).getD []

/-- `OWNER_PROTECTION_AGENT_VERSION`. -/
def ownerProtectionAgentVersion : List ℤ := [0, 2, 13]

/-- `DHCPDemotionDecision`. -/
structure DHCPDemotionDecision where
  allowed : Bool
  ownerHandover : Bool
  reason : String

section Authorise

variable (c : HACluster) (node replacement : NodeId) (now : DateTime)

/-- Keepalived is deployed and running on a node. -/
def keepalivedReady (n : HANode) : Bool :=
  n.keepalivedStatus = .deployed ∧ n.keepalivedRuntimeState = .running

/-- DNS answers and FTL is up on a node. -/
def serviceReady (n : HANode) : Bool := n.dnsHealthy = some true ∧ n.ftlActive = some true

/-- The replacement holds lease data it may serve from: the cluster does not manage DHCP, or the
replacement owns the Virtual IP and is the local authority, or the replicated snapshot is current
and the replacement is one of its two ends. -/
def leaseReady (localAuthority : Bool) : Bool :=
  !piholeManagesDhcp c || (vipOwners c (.failover now) = [replacement] ∧ localAuthority) ||
  match c.leaseReplication with
  | none => false
  | some state => state.status = .current ∧ state.appliedGeneration = state.desiredGeneration ∧
      ((state.targetNodeId = some replacement ∧
          state.desiredGeneration ≤ (c.node replacement).leaseGeneration) ∨
        state.sourceNodeId = some replacement)

/-- The replacement has proved that DHCP is stopped: released, and not configured. -/
def provedStopped : Bool :=
  let o := dhcpObservation (c.node replacement) (.failover now)
  o.released ∧ o.configured = some false

/-- The readiness checks of an explicit handover, with their messages, in the order they are
reported. -/
def handoverChecks (localAuthority : Bool) : List (Bool × String) :=
  let w := Window.failover now
  let vip := vipOwners c w
  [((freshNodes c w).length = 2, "both node observations are not fresh"),
    (vip = [node] ∨ vip = [replacement], "Virtual IP ownership is not exclusive"),
    (dhcpUnknown c w = [], "DHCP ownership is not fully observed"),
    (heartbeatIsFresh (c.node node) w, "the current owner heartbeat is stale"),
    (serviceReady (c.node node), "the current owner service health is not ready"),
    (keepalivedReady (c.node node), "the current owner failover service is not ready"),
    (heartbeatIsFresh (c.node replacement) w, "the replacement heartbeat is stale"),
    (serviceReady (c.node replacement), "the replacement service health is not ready"),
    (keepalivedReady (c.node replacement), "the replacement failover service is not ready"),
    (c.keepalivedGeneration ≤ (c.node replacement).configGeneration,
      "the replacement configuration generation is stale"),
    (vip = [replacement] ∨ (c.node replacement).vipOwned = false,
      "the replacement Virtual IP state is unsafe"),
    (provedStopped c replacement now, "the replacement has not proved DHCP is stopped"),
    (leaseReady c replacement now localAuthority, "the replacement lease generation is not ready")]

/-- `authorise_dhcp_demotion`. -/
def authoriseDhcpDemotion (replacement : Option NodeId) (ownerHandover localAuthority : Bool) :
    DHCPDemotionDecision :=
  let w := Window.failover now
  if agentVersion (c.node node).agentVersion < ownerProtectionAgentVersion then
    ⟨false, false, "Update this node to HA Agent 0.2.13 before Kaya may issue a DHCP demotion."⟩
  else if dhcpOwners c w ≠ [node] then
    if (dhcpOwners c w).length < 2 ∧ (c.node node).vipOwned ∧
        (dhcpObservation (c.node node) w).active then
      ⟨false, false, "Current ownership evidence is inconsistent; DHCP demotion was suppressed."⟩
    else ⟨true, false, "The node is not the sole active DHCP owner."⟩
  else if !ownerHandover then
    ⟨false, false, "Routine work cannot disable DHCP on the sole active owner."⟩
  else match replacement with
  | none => ⟨false, false, "The replacement node is not defined for this handover."⟩
  | some r =>
    if r = node then
      ⟨false, false, "The replacement node is not defined for this handover."⟩
    else match (handoverChecks c node r now localAuthority).find? (!·.1) with
    | some (_, blocker) =>
      ⟨false, false, s!"The replacement is not ready for atomic handover: {blocker}."⟩
    | none => ⟨true, true, "The replacement is ready for the explicit atomic handover."⟩

end Authorise

/-! ### What an allowed demotion rests on -/

/-- All readiness checks of a handover passed. -/
structure HandoverReady (c : HACluster) (node replacement : NodeId) (now : DateTime)
    (localAuthority : Bool) : Prop where
  ne : replacement ≠ node
  bothFresh : (freshNodes c (.failover now)).length = 2
  ownerFresh : heartbeatIsFresh (c.node node) (.failover now) = true
  replacementFresh : heartbeatIsFresh (c.node replacement) (.failover now) = true
  replacementService : serviceReady (c.node replacement) = true
  replacementKeepalived : keepalivedReady (c.node replacement) = true
  replacementStopped : provedStopped c replacement now = true
  lease : leaseReady c replacement now localAuthority = true

variable {c : HACluster} {node : NodeId} {now : DateTime} {replacement : Option NodeId}
  {ownerHandover localAuthority : Bool}

theorem handoverReady_of_checks {r : NodeId} (hne : r ≠ node)
    (h : (handoverChecks c node r now localAuthority).find? (!·.1) = none) :
    HandoverReady c node r now localAuthority := by
  simp only [handoverChecks, List.find?_eq_none, List.forall_mem_cons, List.not_mem_nil,
    IsEmpty.forall_iff, implies_true, and_true, Bool.not_eq_true', Bool.not_eq_false,
    decide_eq_true_eq] at h
  obtain ⟨h1, -, -, h4, -, -, h7, h8, h9, -, -, h12, h13⟩ := h
  exact ⟨hne, h1, h4, h7, h8, h9, h12, h13⟩

/-- **The inversion.** An allowed demotion cleans up a node that is not the sole owner, or hands the
sole owner's DHCP to a ready replacement; the flag it returns says which. -/
theorem authoriseDhcpDemotion_allowed
    (h : (authoriseDhcpDemotion c node now replacement ownerHandover localAuthority).allowed = true) :
    ((authoriseDhcpDemotion c node now replacement ownerHandover localAuthority).ownerHandover
        = false ∧ dhcpOwners c (.failover now) ≠ [node]) ∨
    ((authoriseDhcpDemotion c node now replacement ownerHandover localAuthority).ownerHandover
        = true ∧ dhcpOwners c (.failover now) = [node] ∧ ownerHandover = true ∧
      ∃ r, replacement = some r ∧ HandoverReady c node r now localAuthority) := by
  unfold authoriseDhcpDemotion at h ⊢
  dsimp only at h ⊢
  split at h <;> rename_i hversion
  · simp at h
  rw [if_neg hversion]
  split at h <;> rename_i hsole
  · rw [if_pos hsole]
    split at h <;> rename_i hincons
    · simp at h
    · rw [if_neg hincons]
      exact Or.inl ⟨rfl, hsole⟩
  rw [if_neg hsole]
  split at h <;> rename_i hflag
  · simp at h
  rw [if_neg hflag]
  rcases replacement with - | r
  · simp at h
  dsimp only at h ⊢
  split at h <;> rename_i hself
  · simp at h
  rw [if_neg hself]
  rcases hchecks : (handoverChecks c node r now localAuthority).find? (!·.1) with - | ⟨b, m⟩
  · have hrdy := handoverReady_of_checks hself hchecks
    refine Or.inr ⟨?_, by simpa using hsole, by simpa using hflag, r, rfl, hrdy⟩
    rw [hchecks]
  · simp [hchecks] at h

end Kaya.HA
