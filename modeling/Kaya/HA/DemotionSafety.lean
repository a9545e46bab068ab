import Kaya.HA.FailoverCompletion
import Kaya.HA.Reports

/-!
# Which demotions are offered

A `DHCP_DEMOTE` reaches an agent from three places — the failover engine, a reinitialisation, a
self-heal — and all of them ask `authorise_dhcp_demotion` first. `offered_demotion` says what an
offered demotion has in common.

Two laws are read off it.

* **Justification.** A demotion should rest on a ready replacement, or on proof that the node is not
  the only DHCP server. What the code checks is weaker: *not shown to be the only one*. The two
  coincide exactly when both nodes have been heard and the node's own observation is not unknown
  (`demotion_justified_iff`).
* **Agreement.** The agent has an owner-protection rule of its own. It reads local flags where the
  server reads observations, and it knows only one way to be allowed to stop a running DHCP server:
  the handover flag. The server sets that flag for the sole owner only, so the two disagree on every
  other node that serves DHCP or holds the Virtual IP (`demotion_accepted_iff`).
-/

namespace Kaya.HA

/-- Kaya offers the DHCP action `a` to the node `n`. -/
def Offered (c : HACluster) (n : NodeId) (now : DateTime) (a : DhcpAction) : Prop :=
  desiredFailoverAction c n now = some a ∨ desiredMaintenanceAction c n now = some a

/-! ### What an offered demotion rests on -/

/-- An authorised demotion, as an action carries it on. -/
structure AuthorisedDemotion (c : HACluster) (n : NodeId) (now : DateTime) (a : DhcpAction) :
    Prop where
  configurationOnly : a.configurationOnly = false
  decision : (a.ownerHandoverAuthorised = false ∧ dhcpOwners c (.failover now) ≠ [n]) ∨
    (a.ownerHandoverAuthorised = true ∧ dhcpOwners c (.failover now) = [n] ∧
      ∃ r localAuthority, HandoverReady c n r now localAuthority)

section Offers

variable {c : HACluster} {n : NodeId} {now : DateTime} {a : DhcpAction}

/-- The decision behind an action, whoever made it. -/
theorem AuthorisedDemotion.of_allowed {replacement : Option NodeId}
    {ownerHandover localAuthority : Bool} (honly : a.configurationOnly = false)
    (hallow : (authoriseDhcpDemotion c n now replacement ownerHandover localAuthority).allowed =
      true)
    (hflag : a.ownerHandoverAuthorised =
      (authoriseDhcpDemotion c n now replacement ownerHandover localAuthority).ownerHandover) :
    AuthorisedDemotion c n now a := by
  refine ⟨honly, ?_⟩
  rcases authoriseDhcpDemotion_allowed hallow with
    ⟨hfalse, howners⟩ | ⟨htrue, howners, -, r, -, hrdy⟩
  · exact .inl ⟨hflag.trans hfalse, howners⟩
  · exact .inr ⟨hflag.trans htrue, howners, r, localAuthority, hrdy⟩

theorem selfHealAction_demotion {m : RunId} (h : selfHealAction c m n now = some a)
    (hdemote : a.actionType = .demote) : AuthorisedDemotion c n now a := by
  unfold selfHealAction at h
  dsimp only at h
  split at h
  · cases h
  split at h
  · cases h
  · cases h
    cases hdemote
  · split at h <;> rename_i hallow
    · cases h
      refine .of_allowed rfl hallow ?_
      -- Routine work never carries the handover flag.
      rcases authoriseDhcpDemotion_allowed hallow with ⟨hfalse, -⟩ | ⟨-, -, hflag, -⟩
      · exact hfalse.symm
      · cases hflag
    · cases h

theorem reinitialisationAction_demotion {m : RunId} (h : reinitialisationAction c m n now = some a)
    (hdemote : a.actionType = .demote) : AuthorisedDemotion c n now a := by
  unfold reinitialisationAction at h
  dsimp only at h
  split at h
  · cases h
  split at h
  · split at h <;> rename_i hallow
    · cases h
      exact .of_allowed rfl hallow rfl
    · cases h
  split at h
  · cases h
    cases hdemote
  · cases h

/-- **Inversion.** Every offered demotion has been authorised. -/
theorem offered_demotion (h : Offered c n now a) (hdemote : a.actionType = .demote) :
    AuthorisedDemotion c n now a := by
  rcases h with h | h
  · obtain ⟨r, -, -, hact, hauth⟩ := desiredFailoverAction_eq_some h
    obtain ⟨hallow, hflag⟩ := hauth hdemote
    refine .of_allowed ?_ hallow hflag
    rw [hact]
    rfl
  · unfold desiredMaintenanceAction at h
    split at h
    · cases h
    dsimp only at h
    split at h
    · cases h
    split at h
    · cases h
    · exact selfHealAction_demotion h hdemote
    · exact reinitialisationAction_demotion h hdemote

end Offers

/-! ### Justification -/

/-- What a demotion should rest on: an authorised handover to a ready replacement, or fresh reports
of both nodes that prove the node not to be the only DHCP server. A node whose own state is unknown
is demoted in a handover only. -/
def DemotionJustified (c : HACluster) (n : NodeId) (now : DateTime) (a : DhcpAction) : Prop :=
  ((a.ownerHandoverAuthorised = true ∧ ∃ r localAuthority, HandoverReady c n r now localAuthority) ∨
    ((freshNodes c (.failover now)).length = 2 ∧
      (((dhcpObservation (c.node n) (.failover now)).state ≠ .unknown ∧
          (dhcpObservation (c.node n) (.failover now)).state ≠ .active) ∨ ∃ m ∈ c.nodes.ids, m ≠ n ∧
          (dhcpObservation (c.node m) (.failover now)).state = .active))) ∧
  ((dhcpObservation (c.node n) (.failover now)).state = .unknown → a.ownerHandoverAuthorised = true)

section Justification

variable {c : HACluster} {n : NodeId} {now : DateTime} {a : DhcpAction}

theorem active_of_soleOwner (h : dhcpOwners c (.failover now) = [n]) :
    (dhcpObservation (c.node n) (.failover now)).state = .active := by
  have hmem : n ∈ dhcpOwners c (.failover now) := by
    rw [h]
    exact List.mem_singleton_self n
  simpa [DHCPObservation.active] using (mem_dhcpOwners.1 hmem).2

/-- A node that serves without being the only owner is not the only server. -/
theorem exists_other_server (hn : n ∈ c.nodes.ids)
    (hlive : (dhcpObservation (c.node n) (.failover now)).state = .active)
    (howners : dhcpOwners c (.failover now) ≠ [n]) :
    ∃ m ∈ c.nodes.ids, m ≠ n ∧ (dhcpObservation (c.node m) (.failover now)).state = .active := by
  have hserving : (dhcpObservation (c.node n) (.failover now)).active = true := by
    rw [DHCPObservation.active, hlive]
    rfl
  have hother : ∃ m ∈ dhcpOwners c (.failover now), m ≠ n := by
    by_contra hall
    push Not at hall
    exact howners (eq_singleton_of_nodup dhcpOwners_nodup (mem_dhcpOwners.2 ⟨hn, hserving⟩) hall)
  obtain ⟨m, hm, hne⟩ := hother
  obtain ⟨hmem, hother⟩ := mem_dhcpOwners.1 hm
  exact ⟨m, hmem, hne, by simpa [DHCPObservation.active] using hother⟩

/-- **Justification.** An offered demotion is justified exactly when both nodes have been heard and
the node's own observation is not unknown. -/
theorem demotion_justified_iff (hn : n ∈ c.nodes.ids) (h : Offered c n now a)
    (hdemote : a.actionType = .demote) :
    DemotionJustified c n now a ↔ (freshNodes c (.failover now)).length = 2 ∧
        (dhcpObservation (c.node n) (.failover now)).state ≠ .unknown := by
  have hauth := offered_demotion h hdemote
  -- Only the sole owner is handed over, and a sole owner is observed active.
  have hknown (htrue : a.ownerHandoverAuthorised = true) :
      (dhcpObservation (c.node n) (.failover now)).state ≠ .unknown := by
    rcases hauth.decision with ⟨hfalse, -⟩ | ⟨-, howners, -⟩
    · rw [htrue] at hfalse
      cases hfalse
    · rw [active_of_soleOwner howners]
      decide
  constructor
  · rintro ⟨⟨htrue, r, localAuthority, hrdy⟩ | ⟨hfresh, -⟩, hunk⟩
    · exact ⟨hrdy.bothFresh, hknown htrue⟩
    · exact ⟨hfresh, fun hst ↦ hknown (hunk hst) hst⟩
  · rintro ⟨hfresh, hst⟩
    refine ⟨?_, fun hunk ↦ absurd hunk hst⟩
    rcases hauth.decision with ⟨-, howners⟩ | ⟨htrue, -, hrdy⟩
    · right
      refine ⟨hfresh, ?_⟩
      by_cases hlive : (dhcpObservation (c.node n) (.failover now)).state = .active
      · exact .inr (exists_other_server hn hlive howners)
      · exact .inl ⟨hst, hlive⟩
    · exact .inl ⟨htrue, hrdy⟩

end Justification

/-- The handover has started, and nothing has been heard of the first node for 130 seconds. -/
def unheardRun : List Event :=
  sampleStartedRun ++ [⟨seconds 130, .heartbeat 2 (sampleHeartbeat false false 1)⟩]

/-- The demotion that opens the sample handover is justified. -/
theorem demotion_justified_sample :
    DemotionJustified (haMachine.run sampleSys sampleStartedRun).cluster 1 0 (sampleDemotion 2 true) :=
  (demotion_justified_iff (c := (haMachine.run sampleSys sampleStartedRun).cluster)
    (by decide +kernel) (.inl (by decide +kernel)) rfl).2 ⟨by decide +kernel, by decide +kernel⟩

/-- A node that has not been heard of is told to stop DHCP, without a handover. -/
theorem demotion_of_unheard_node :
    haMachine.Reachable (haMachine.run sampleSys unheardRun) ∧
    Offered (haMachine.run sampleSys unheardRun).cluster 1 (seconds 130) (sampleDemotion 2 false) ∧
    ¬ DemotionJustified (haMachine.run sampleSys unheardRun).cluster 1 (seconds 130)
      (sampleDemotion 2 false) := by
  refine ⟨sampleSys_reachable _, .inl (by decide +kernel), fun h ↦ ?_⟩
  have hunk : (dhcpObservation ((haMachine.run sampleSys unheardRun).cluster.node 1)
      (.failover (seconds 130))).state = .unknown := by decide +kernel
  exact absurd (h.2 hunk) (by decide)

/-! ### Agreement with the agent -/

/-- Offered generations are positive in every reachable state. -/
theorem offered_generation_pos {s : Sys} (hs : haMachine.Reachable s) {n : NodeId} {now : DateTime}
    {a : DhcpAction} (h : Offered s.cluster n now a) : 1 ≤ a.generation := by
  rcases h with h | h
  · obtain ⟨r, hr, -, hact, -⟩ := desiredFailoverAction_eq_some h
    rw [hact]
    exact runGeneration_pos hs (Table.newest?_eq_some hr).1
  · obtain ⟨m, -, -, hact, -⟩ := desiredMaintenanceAction_eq_some h
    rw [hact]
    exact roleGeneration_pos hs

/-- The agent's fields are those of a heartbeat. -/
structure AgentState.Reported (state : AgentState) (hb : HAAgentHeartbeat) : Prop where
  vipOwned : state.vipOwned = hb.vipOwned
  observedRole : state.observedRole = some hb.observedRole
  dhcpRunning : state.dhcpRunning = hb.dhcpRunning

/-- A heartbeat of a node that neither serves DHCP nor holds the Virtual IP as the active node. -/
def HAAgentHeartbeat.Idle (hb : HAAgentHeartbeat) : Prop :=
  hb.dhcpRunning = false ∧ ¬ (hb.vipOwned = true ∧ hb.observedRole = .active)

/-- **Agreement.** The agent, still in the state of its last heartbeat, accepts an offered demotion
exactly when its node is the sole DHCP owner in the server's eyes, or when the heartbeat says that it
neither serves DHCP nor holds the Virtual IP as the active node. What the server has written into the
row of the node since does not matter. -/
theorem demotion_accepted_iff {s₀ s : Sys} {h : List (Sys × Event)} (hinit : haMachine.init s₀)
    (hh : haMachine.History s₀ h s) {n : NodeId} {now : DateTime} {a : DhcpAction}
    (hoffer : Offered s.cluster n now a) (hdemote : a.actionType = .demote) {state : AgentState}
    (hst : ∃ t hb, lastHeartbeat n h = some (t, hb) ∧ state.Reported hb)
    (hgen : state.failoverGeneration ≤ a.generation) :
    failoverActionRefusal state a = none ↔ dhcpOwners s.cluster (.failover now) = [n] ∨
        ∃ t hb, lastHeartbeat n h = some (t, hb) ∧ hb.Idle := by
  have hauth := offered_demotion hoffer hdemote
  obtain ⟨t, hb, hlast, hrep⟩ := hst
  have hidle : (∃ t' hb', lastHeartbeat n h = some (t', hb') ∧ hb'.Idle) ↔
      (state.dhcpRunning = false ∧
        ¬ (state.vipOwned = true ∧ state.observedRole = some .active)) := by
    rw [hrep.dhcpRunning, hrep.vipOwned, hrep.observedRole, Option.some_inj]
    constructor
    · rintro ⟨t', hb', hlast', hidle⟩
      obtain ⟨rfl, rfl⟩ := Prod.mk.inj (Option.some.inj (hlast.symm.trans hlast'))
      exact hidle
    · exact fun hidle ↦ ⟨t, hb, hlast, hidle⟩
  rw [failoverActionRefusal_demote hdemote hauth.configurationOnly
    (offered_generation_pos (hh.reachable hinit) hoffer) hgen, hidle]
  -- the flag is set for the sole owner, and for no other node
  refine or_congr_left ?_
  rcases hauth.decision with ⟨hfalse, howners⟩ | ⟨htrue, howners, -⟩
  · simp [hfalse, howners]
  · simp [htrue, howners]

/-- The handover has started, and both nodes report that they serve DHCP. -/
def twoServersRun : List Event :=
  sampleStartedRun ++ [⟨0, .heartbeat 1 (sampleHeartbeat true true 0)⟩,
    ⟨0, .heartbeat 2 (sampleHeartbeat false true 1)⟩]

/-- The handover has started, and the first node reports that it holds the Virtual IP and serves. -/
def soleServerRun : List Event :=
  sampleStartedRun ++ [⟨0, .heartbeat 1 (sampleHeartbeat true true 0)⟩]

/-- The agent of the first sample node, after the heartbeat that shows it serving. -/
def sampleAgent : AgentState :=
  { failoverGeneration := 1, dhcpRunning := true, vipOwned := true, observedRole := some .active }

theorem sampleAgent_reported : sampleAgent.Reported (sampleHeartbeat true true 0) := ⟨rfl, rfl, rfl⟩

/-- The demotion that opens the sample handover is accepted. -/
theorem demotion_accepted_sample :
    failoverActionRefusal sampleAgent (sampleDemotion 2 true) = none := by
  have hoffer : Offered (haMachine.run sampleSys soleServerRun).cluster 1 0
      (sampleDemotion 2 true) :=
    .inl (by decide +kernel)
  have hlast : lastHeartbeat 1 (haMachine.trace [] sampleSys soleServerRun) =
      some (0, sampleHeartbeat true true 0) := by decide +kernel
  exact (demotion_accepted_iff sampleSys_initial (.trace soleServerRun .nil) hoffer rfl
    ⟨0, _, hlast, sampleAgent_reported⟩ (by decide)).2 (.inl (by decide +kernel))

/-- With two DHCP servers Kaya offers the demotion that would end the split, and the agent refuses
it. -/
theorem demotion_refused_with_two_servers :
    haMachine.History sampleSys (haMachine.trace [] sampleSys twoServersRun)
      (haMachine.run sampleSys twoServersRun) ∧
    dhcpOwners (haMachine.run sampleSys twoServersRun).cluster (.failover 0) = [1, 2] ∧
    Offered (haMachine.run sampleSys twoServersRun).cluster 1 0 (sampleDemotion 2 false) ∧
    lastHeartbeat 1 (haMachine.trace [] sampleSys twoServersRun) =
      some (0, sampleHeartbeat true true 0) ∧ sampleAgent.Reported (sampleHeartbeat true true 0) ∧
    sampleAgent.failoverGeneration ≤ (sampleDemotion 2 false).generation ∧
    failoverActionRefusal sampleAgent (sampleDemotion 2 false) ≠ none :=
  ⟨.trace twoServersRun .nil, by decide +kernel, .inl (by decide +kernel), by decide +kernel,
    sampleAgent_reported, by decide, by decide⟩

/-! ### Recovering from an unhealthy owner -/

section Recovery

variable {c : HACluster} {r : RunId} {n : NodeId} {now : DateTime}

/-- The sole DHCP owner is asked for its own health before it may hand over. -/
theorem authoriseDhcpDemotion_of_unhealthy {replacement : Option NodeId}
    {ownerHandover localAuthority : Bool} (howners : dhcpOwners c (.failover now) = [n])
    (hunhealthy : serviceReady (c.node n) = false) :
    (authoriseDhcpDemotion c n now replacement ownerHandover localAuthority).allowed = false := by
  unfold authoriseDhcpDemotion
  dsimp only
  split
  · rfl
  rw [if_neg (not_not.mpr howners)]
  split
  · rfl
  cases replacement with
  | none => rfl
  | some other =>
    dsimp only
    split
    · rfl
    have hblocked : ((handoverChecks c n other now localAuthority).find? (!·.1)).isSome = true := by
      rw [List.find?_isSome]
      exact ⟨(serviceReady (c.node n), "the current owner service health is not ready"),
        by simp [handoverChecks], by simp [hunhealthy]⟩
    obtain ⟨blocker, hblocker⟩ := Option.isSome_iff_exists.mp hblocked
    rw [hblocker]

/-- What the recovery of a completed run is for: the node it promoted serves DHCP and holds the
Virtual IP alone but answers DNS no more, while the original node is ready to take over. -/
structure UnhealthyOwner (c : HACluster) (r : RunId) (now : DateTime) : Prop where
  managed : piholeManagesDhcp c = true
  status : (c.failoverRun r).status = .succeeded
  targetUnhealthy : (c.node (c.failoverRun r).targetNodeId).dnsHealthy ≠ some true
  sourceHealthy : (c.node (c.failoverRun r).sourceNodeId).dnsHealthy = some true
  targetFresh : heartbeatIsFresh (c.node (c.failoverRun r).targetNodeId) (.failover now) = true
  sourceFresh : heartbeatIsFresh (c.node (c.failoverRun r).sourceNodeId) (.failover now) = true
  vipOwner : vipOwners c (.failover now) = [(c.failoverRun r).targetNodeId]
  dhcpOwner : dhcpOwners c (.failover now) = [(c.failoverRun r).targetNodeId]
  targetKeepalived : keepalivedReady (c.node (c.failoverRun r).targetNodeId) = true
  sourceStopped : provedStopped c (c.failoverRun r).sourceNodeId now = true
  sourceConfiguration :
    c.keepalivedGeneration ≤ (c.node (c.failoverRun r).sourceNodeId).configGeneration
  sourceLease : leaseReady c (c.failoverRun r).sourceNodeId now false = true

/-- The request is accepted, and the target is to be demoted first. -/
theorem UnhealthyOwner.rollback (h : UnhealthyOwner c r now) (requestedAt : DateTime) :
    ∃ reason, requestFailoverRollback c r true requestedAt =
      .ok (noteRollback (setFailoverPhase (rollbackBase c r) r .rollbackDemotingTarget) r reason) := by
  have howned : (c.node (c.failoverRun r).targetNodeId).vipOwned = true :=
    (mem_vipOwners.mp (h.vipOwner ▸ List.mem_singleton_self _)).2
  have hrecover : recoverUnhealthyActive c (c.failoverRun r) = true := by
    rw [recoverUnhealthyActive, decide_eq_true_eq]
    exact ⟨h.status, howned, h.targetUnhealthy, h.sourceHealthy⟩
  simp only [requestFailoverRollback, hrecover, howned, Bool.not_true, Bool.and_false,
    Bool.false_eq_true, and_false, false_and, or_self, if_false]
  exact ⟨_, rfl⟩

/-- **The recovery of an unhealthy owner is never offered its first step.** The request is accepted
because the target answers DNS no more, and the demotion is refused for the same reason. -/
theorem recovery_never_offered (h : UnhealthyOwner c r now) (requestedAt : DateTime) :
    ∃ c', requestFailoverRollback c r true requestedAt = .ok c' ∧
      (c'.failoverRun r).status = .rollingBack ∧
      (c'.failoverRun r).phase = .rollbackDemotingTarget ∧
      ¬∃ a, desiredFailoverAction c' (c.failoverRun r).targetNodeId now = some a ∧
        a.actionType = .demote := by
  obtain ⟨reason, hok⟩ := h.rollback requestedAt
  have hrow := failoverRun_of_modify (rollbackNoted_failoverRuns c r .rollbackDemotingTarget reason)
  refine ⟨_, hok, by rw [hrow], by rw [hrow], ?_⟩
  rintro ⟨a, hoffer, hdemote⟩
  obtain ⟨r', -, -, -, hauth⟩ := desiredFailoverAction_eq_some hoffer
  set c' := noteRollback (setFailoverPhase (rollbackBase c r) r .rollbackDemotingTarget) r reason
  -- The request changes no report, so the owner is judged as before.
  have howner : dhcpOwners c' (.failover now) = [(c.failoverRun r).targetNodeId] := h.dhcpOwner
  have hunhealthy : serviceReady (c'.node (c.failoverRun r).targetNodeId) = false := by
    have : serviceReady (c.node (c.failoverRun r).targetNodeId) = false := by
      simp [serviceReady, h.targetUnhealthy]
    exact this
  obtain ⟨hallow, -⟩ := hauth hdemote
  rw [authoriseDhcpDemotion_of_unhealthy howner hunhealthy] at hallow
  exact Bool.false_ne_true hallow

/-- The second sample node has taken over, and then fails to answer DNS. -/
def unhealthyCluster : HACluster :=
  { sampleCluster with
    currentActiveNodeId := some 2, authoritativeNodeId := some 2, roleGeneration := 2
    nodes :=
      ⟨[1, 2], fun n ↦ if n = 1 then sampleNode "first" false false 1 0
        else { sampleNode "second" true true 1 0 with dnsHealthy := some false }, nodup_pair⟩
    failoverRuns :=
      ⟨[1], fun _ ↦ ⟨1, 2, .succeeded, .complete, true, 1, 2, none, {}, 0, 0⟩, nodup_one⟩
    leaseReplication := some
      { sourceNodeId := some 2, targetNodeId := some 1, status := .current, desiredGeneration := 1
        appliedGeneration := 1 } }

theorem unhealthyCluster_unhealthyOwner : UnhealthyOwner unhealthyCluster 1 0 := by
  constructor <;> decide +kernel

theorem recovery_never_offered_sample :
    ∃ c', requestFailoverRollback unhealthyCluster 1 true 0 = .ok c' ∧
      (c'.failoverRun 1).status = .rollingBack ∧
      (c'.failoverRun 1).phase = .rollbackDemotingTarget ∧
      ¬∃ a, desiredFailoverAction c' 2 0 = some a ∧ a.actionType = .demote :=
  recovery_never_offered unhealthyCluster_unhealthyOwner 0

/-- The accepted recovery offers nothing to the node it has to demote. -/
theorem recovery_stuck : UnhealthyOwner unhealthyCluster 1 0 ∧
    (requestFailoverRollback unhealthyCluster 1 true 0).toOption.map (fun c' ↦
      ((c'.failoverRun 1).phase, desiredFailoverAction c' 2 0)) =
        some (.rollbackDemotingTarget, none) :=
  ⟨unhealthyCluster_unhealthyOwner, by decide +kernel⟩

end Recovery

end Kaya.HA
