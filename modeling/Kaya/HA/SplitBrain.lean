import Kaya.HA.Reports

/-!
# Evidence of a split brain

Two nodes whose fresh heartbeats both claim the Virtual IP are a split brain, and `vip_owned` is its
only record. Two functions write that column on behalf of a silent agent.

* `reconcile_vip_ownership` retires the bit of a peer that has stopped reporting: it looks at the age
  of the peer's heartbeat first, so a bit that is fresh **now** was never retired
  (`reconcileVipOwnership_vipOwned`).
* `_adopt_verified_automatic_owner` clears the bit of every other node, whatever the age of its
  heartbeat: the signed completion event of the new owner is taken as the proof that the other bit is
  a cached one (`ingestEvent_vipOwned`).

So the evidence stands until a completion event is adopted after the heartbeat that gave it, and no
longer (`splitBrain_reported`, `splitBrain_adopted`).
-/

namespace Kaya.HA

open List

/-- The heartbeat of a node is accepted in a transition. -/
def HeardFrom (n : NodeId) (t : Sys × Event) : Prop :=
  ∃ hb, t.2.action = .heartbeat n hb ∧ heartbeatAccepted (t.1.cluster.node n) hb t.2.now

/-- The last accepted heartbeat of a node claims the Virtual IP and is fresh. -/
def ClaimsVip (n : NodeId) (h : List (Sys × Event)) (now : DateTime) : Prop :=
  ∃ t hb, lastHeartbeat n h = some (t, hb) ∧ now - seconds 45 ≤ t ∧ hb.vipOwned = true

/-- `_adopt_verified_automatic_owner` takes the event as proof of ownership. -/
def verifiesOwner (c : HACluster) (n : NodeId) (event : HAAgentEventItem) (now : DateTime) : Bool :=
  event.eventType = "automatic_failover_completed" ∧ c.automaticFailoverEnabled ∧
    event.generation = .whole c.keepalivedGeneration ∧
    (c.node n).observedRole = some .active ∧ (c.node n).vipOwned ∧
    (c.node n).dnsHealthy = some true ∧
    (piholeManagesDhcp c → (dhcpObservation (c.node n) (.topology now)).active)

/-- A completion event of another node is adopted in a transition. -/
def AdoptsOther (n : NodeId) (t : Sys × Event) : Prop :=
  ∃ k event, t.2.action = .ingestEvent k event ∧ k ≠ n ∧ verifiesOwner t.1.cluster k event t.2.now

section Ownership

variable {c : HACluster} {n k m : NodeId} {now : DateTime} {event : HAAgentEventItem}

theorem heartbeatIsFresh_of_heard {c' : HACluster} {w : Window}
    (h : (c'.node n).heard = (c.node n).heard) :
    heartbeatIsFresh (c'.node n) w = heartbeatIsFresh (c.node n) w := by
  rw [heartbeatIsFresh, heartbeatIsFresh, lastHeartbeatAt_of_heard h]

theorem heartbeatIsFresh_of_le {node : HANode} {t : DateTime} (ht : node.lastHeartbeatAt = some t)
    (hle : now - seconds 45 ≤ t) : heartbeatIsFresh node (.topology now) = true := by
  rw [heartbeatIsFresh, ht]
  show (decide (now - seconds 45 ≤ t) && true) = true
  rw [decide_eq_true hle]
  rfl

theorem reportConflict_nodes (previous : ClusterStatus) (reporting : Option NodeId)
    (pending : Bool) : (reportConflict c previous reporting pending now).nodes = c.nodes := by
  obtain ⟨events, hwrit⟩ := reportConflict_writes c now previous reporting pending
  rw [hwrit]

theorem reclassifyConflict_nodes (since : DateTime) (until? : Option DateTime) :
    (reclassifyConflict c since until?).nodes = c.nodes := by
  obtain ⟨events, hwrit⟩ := reclassifyConflict_writes c since until?
  rw [hwrit]

theorem adoptOwner_report (previous : Option NodeId) (owner : NodeId) (completed : Bool) :
    ((adoptOwner c previous owner completed now).node n).report = (c.node n).report := by
  unfold adoptOwner
  dsimp only
  split
  · show ((c.mapNodes fun n node ↦ { followOwner owner n node with
      vrrpPriority := if n = owner then some 150 else some 100 }).node n).report = _
    rw [node_of_mapNodes]
    split <;> rfl
  · rfl

/-- The retirement of cached bits spares the nodes that are fresh. -/
theorem retireOwners_vipOwned (owner : NodeId) (completed : HAEvent)
    (hfresh : heartbeatIsFresh (c.node n) (.topology now)) :
    ((retireOwners c owner completed now).node n).vipOwned = (c.node n).vipOwned := by
  unfold retireOwners
  dsimp only
  rw [HACluster.node, reclassifyConflict_nodes, ← HACluster.node, node_of_mapNodes]
  split
  · rw [if_neg (by simp [hfresh])]
  · rfl

/-- **The reconciliation spares fresh bits.** -/
theorem reconcileVipOwnership_vipOwned (reporting : Option NodeId)
    (hfresh : heartbeatIsFresh (c.node n) (.topology now)) :
    ((reconcileVipOwnership c reporting now).node n).vipOwned = (c.node n).vipOwned := by
  unfold reconcileVipOwnership
  split
  · rfl
  dsimp only
  set c₁ := reportConflict (observeOwner c (transitionPending c reporting now) now) c.status
    reporting (transitionPending c reporting now) now with hc₁
  have hnodes : c₁.nodes = c.nodes := reportConflict_nodes _ _ _
  have hreport : (c₁.node n).report = (c.node n).report := report_of_nodes hnodes
  split
  · exact vipOwned_of_report hreport
  rename_i owner howner
  split
  · rw [vipOwned_of_report (adoptOwner_report _ _ _)]
    exact vipOwned_of_report hreport
  · rename_i completed hcompl
    have hadopted : ((adoptOwner c₁ c.currentActiveNodeId owner true now).node n).report =
        (c.node n).report := (adoptOwner_report _ _ _).trans hreport
    rw [retireOwners_vipOwned owner completed, vipOwned_of_report hadopted]
    rw [heartbeatIsFresh_of_heard (heard_of_report hadopted)]
    exact hfresh

/-- An event that proves nothing changes nothing but the events. -/
theorem adoptVerifiedAutomaticOwner_of_not_verifies
    (h : ¬ verifiesOwner c k event now) : adoptVerifiedAutomaticOwner c k event now = c := by
  unfold adoptVerifiedAutomaticOwner
  dsimp only
  split
  · rfl
  rename_i hguard
  split
  · rfl
  rename_i hdhcp
  refine absurd ?_ h
  simp only [not_or, not_not, Bool.not_eq_true', Bool.not_eq_false] at hguard
  simp only [not_and, Bool.not_eq_true', Bool.not_eq_false] at hdhcp
  obtain ⟨htype, henab, hgen, hrole, howned, hdns⟩ := hguard
  exact decide_eq_true ⟨htype, henab, hgen, hrole, howned, hdns, hdhcp⟩

theorem ingestEvent_of_not_verifies (h : ¬ verifiesOwner c k event now) :
    ∃ events, ingestEvent c k event now = { c with events := events } := by
  unfold ingestEvent
  split
  · exact ⟨c.events, rfl⟩
  · exact ⟨_, adoptVerifiedAutomaticOwner_of_not_verifies h⟩

/-- **The adoption of an owner** leaves the bit of a node unless another node is adopted. -/
theorem ingestEvent_vipOwned
    (howned : (c.node n).vipOwned = true) (h : ¬ (k ≠ n ∧ verifiesOwner c k event now)) :
    ((ingestEvent c k event now).node n).vipOwned = true := by
  by_cases hverifies : verifiesOwner c k event now
  · obtain rfl : k = n := by
      by_contra hne
      exact h ⟨hne, hverifies⟩
    unfold ingestEvent adoptVerifiedAutomaticOwner
    dsimp only
    split
    · exact howned
    split
    · exact howned
    split
    · exact howned
    rw [HACluster.node, reclassifyConflict_nodes]
    show ((c.mapNodes fun i node ↦ { followOwner k i node with
      vipOwned := i = k, vrrpPriority := if i = k then some 150 else some 100 }).node k).vipOwned = _
    rw [node_of_mapNodes]
    split
    · exact decide_eq_true rfl
    · exact howned
  · obtain ⟨events, heq⟩ := ingestEvent_of_not_verifies hverifies
    rw [heq]
    exact howned

/-- Two owners: neither is the current one, and nothing is adopted. -/
theorem reconcileVipOwnership_of_two (hne : n ≠ m) (hn : n ∈ vipOwners c (.topology now))
    (hm : m ∈ vipOwners c (.topology now)) (reporting : Option NodeId) :
    reconcileVipOwnership c reporting now = c ∨
      (reconcileVipOwnership c reporting now).currentActiveNodeId = none ∧
        (reconcileVipOwnership c reporting now).authoritativeNodeId = c.authoritativeNodeId := by
  have hsole : soleVipOwner c (.topology now) = none := by
    unfold soleVipOwner
    split
    · rename_i k hk
      rw [hk, mem_singleton] at hn hm
      exact absurd (hn.trans hm.symm) hne
    · rfl
  unfold reconcileVipOwnership
  split
  · exact .inl rfl
  refine .inr ?_
  dsimp only
  have hobserved : soleVipOwner (reportConflict (observeOwner c (transitionPending c reporting now)
      now) c.status reporting (transitionPending c reporting now) now) (.topology now) = none := by
    rw [← hsole]
    unfold soleVipOwner vipOwners freshNodes HACluster.node
    rw [reportConflict_nodes]
    rfl
  rw [hobserved]
  dsimp only
  obtain ⟨events, hwrit⟩ := reportConflict_writes
    (observeOwner c (transitionPending c reporting now) now) now c.status reporting
    (transitionPending c reporting now)
  rw [hwrit]
  exact ⟨hsole, rfl⟩

theorem duplicateVip_of_two (hne : n ≠ m)
    (hn : n ∈ vipOwners c (.topology now)) (hm : m ∈ vipOwners c (.topology now)) :
    ∃ issue ∈ (reconcileTopology c (.topology now)).issues, issue.code = .duplicateVip := by
  have hlen : 1 < (vipOwners c (.topology now)).length := by
    rcases hl : vipOwners c (.topology now) with _ | ⟨a, _ | ⟨b, l⟩⟩
    · rw [hl] at hn
      exact absurd hn not_mem_nil
    · rw [hl, mem_singleton] at hn hm
      exact absurd (hn.trans hm.symm) hne
    · rw [length_cons, length_cons]
      omega
  refine ⟨⟨.duplicateVip, "Virtual IP ownership conflict detected",
    "More than one node reports ownership of the DNS Virtual IP.", .critical, true⟩,
    mem_append_left _ (mem_append_left _ (mem_append_right _ ?_)), rfl⟩
  rw [if_pos hlen]
  exact mem_singleton_self _

end Ownership

section History

variable {n : NodeId} {s₀ s : Sys} {h : List (Sys × Event)} {now : DateTime} {hb : HAAgentHeartbeat}
  {e : Event} {c : HACluster} {node : HANode}

/-- The columns of a node agree with its last accepted heartbeat, and the bit of a heartbeat that is
still fresh stands until another node is adopted. -/
structure BitKept (n : NodeId) (now : DateTime) (h : List (Sys × Event)) (s : Sys) : Prop where
  lastHeartbeatAt : ∀ t hb, lastHeartbeat n h = some (t, hb) →
    (s.cluster.node n).lastHeartbeatAt = some t
  vipOwned : ∀ t hb, lastHeartbeat n h = some (t, hb) → now - seconds 45 ≤ t →
    hb.vipOwned = true → ¬ OnceSince (HeardFrom n) (AdoptsOther n) h →
    (s.cluster.node n).vipOwned = true

/-- A transition that is not an accepted heartbeat of the node. -/
theorem BitKept.later (hk : BitKept n now h s) (hheard : ¬ HeardFrom n (s, e))
    (hlast : lastHeartbeat n ((s, e) :: h) = lastHeartbeat n h)
    (hcolumn : ((step s e).cluster.node n).lastHeartbeatAt = (s.cluster.node n).lastHeartbeatAt)
    (howned : ∀ t, (s.cluster.node n).lastHeartbeatAt = some t → now - seconds 45 ≤ t →
      ¬ AdoptsOther n (s, e) → (s.cluster.node n).vipOwned = true →
      ((step s e).cluster.node n).vipOwned = true) : BitKept n now ((s, e) :: h) (step s e) where
  lastHeartbeatAt t hb ht := by
    rw [hcolumn]
    exact hk.lastHeartbeatAt t hb (hlast ▸ ht)
  vipOwned t hb ht hfresh hbit hadopted := by
    rw [hlast] at ht
    refine howned t (hk.lastHeartbeatAt t hb ht) hfresh (fun h ↦ hadopted (.now h)) ?_
    exact hk.vipOwned t hb ht hfresh hbit fun h ↦ hadopted (.later hheard h)

theorem applyHeartbeat_lastHeartbeatAt :
    (applyHeartbeat c hb now node).lastHeartbeatAt = some now := by
  unfold applyHeartbeat applyDhcpReport
  dsimp only
  split <;> split <;> rfl

theorem applyHeartbeat_vipOwned : (applyHeartbeat c hb now node).vipOwned = hb.vipOwned := by
  unfold applyHeartbeat applyDhcpReport
  dsimp only
  split <;> split <;> rfl

/-- An accepted heartbeat of the node writes both columns. -/
theorem BitKept.heard {time : DateTime} (hacc : heartbeatAccepted (s.cluster.node n) hb time) :
    BitKept n now ((s, ⟨time, .heartbeat n hb⟩) :: h) (step s ⟨time, .heartbeat n hb⟩) := by
  have hnode : (step s ⟨time, .heartbeat n hb⟩).cluster.node n =
      applyHeartbeat s.cluster hb time (s.cluster.node n) := by
    simp only [step_cluster, clusterStep, if_pos hacc]
    exact node_of_modifyNode.trans (if_pos rfl)
  have hlast : lastHeartbeat n ((s, ⟨time, .heartbeat n hb⟩) :: h) = some (time, hb) :=
    if_pos ⟨rfl, hacc⟩
  constructor
  · intro t hb' ht
    obtain ⟨rfl, -⟩ := Prod.mk.inj (Option.some.inj (hlast.symm.trans ht))
    rw [hnode, applyHeartbeat_lastHeartbeatAt]
  · intro t hb' ht _ hbit _
    obtain ⟨-, rfl⟩ := Prod.mk.inj (Option.some.inj (hlast.symm.trans ht))
    rw [hnode, applyHeartbeat_vipOwned]
    exact hbit

/-- Whatever else happens leaves the bit, unless another node is adopted or the heartbeat has gone
stale. -/
theorem BitKept.step (hk : BitKept n now h s) (hclock : e.now ≤ now)
    (hobserve : ∀ k node, e.action ≠ .observe k node) : BitKept n now ((s, e) :: h) (step s e) := by
  by_cases hheard : HeardFrom n (s, e)
  · obtain ⟨hb, hact, hacc⟩ := hheard
    obtain ⟨time, a⟩ := e
    obtain rfl : a = .heartbeat n hb := hact
    exact BitKept.heard hacc
  have hlast : lastHeartbeat n ((s, e) :: h) = lastHeartbeat n h := by
    simp only [lastHeartbeat]
    split
    · rename_i k hb hact
      rw [if_neg]
      rintro ⟨rfl, hacc⟩
      exact hheard ⟨hb, hact, hacc⟩
    · rfl
  -- A refused heartbeat of the node is the only rewriting left.
  by_cases hrewrites : e.action.Rewrites n
  · have hsame : (Kaya.HA.step s e).cluster = s.cluster := by
      obtain ⟨time, a⟩ := e
      cases a with
      | observe k node => exact absurd rfl (hobserve k node)
      | heartbeat k hb =>
        obtain rfl : k = n := hrewrites
        have hrefused : ¬ heartbeatAccepted (s.cluster.node k) hb time :=
          fun hacc ↦ hheard ⟨hb, rfl, hacc⟩
        simp only [step_cluster, clusterStep, if_neg hrefused]
      | _ => exact absurd hrewrites not_false
    exact hk.later hheard hlast (by rw [hsame]) fun _ _ _ _ howned ↦ by rw [hsame]; exact howned
  have hcolumn := lastHeartbeatAt_of_heard (@step_heard s e n hrewrites)
  refine hk.later hheard hlast hcolumn fun t ht hfresh hadopts howned ↦ ?_
  by_cases hattributes : e.action.Attributes
  · obtain ⟨time, a⟩ := e
    cases a with
    | reconcileVipOwnership reporting =>
      refine (reconcileVipOwnership_vipOwned reporting ?_).trans howned
      have hbound : time - seconds 45 ≤ now - seconds 45 := Int.sub_le_sub_right hclock _
      exact heartbeatIsFresh_of_le ht (le_trans hbound hfresh)
    | ingestEvent k event =>
      exact ingestEvent_vipOwned howned fun h ↦ hadopts ⟨k, event, rfl, h⟩
    | _ => exact absurd hattributes not_false
  · rw [vipOwned_of_report (step_report hrewrites hattributes)]
    exact howned

theorem bitKept_of_history (hh : haMachine.History s₀ h s) (hclock : ∀ t ∈ h, t.2.now ≤ now)
    (hobserve : ∀ t ∈ h, ∀ k node, t.2.action ≠ .observe k node) : BitKept n now h s := by
  induction hh with
  | nil => exact ⟨fun _ _ ht ↦ absurd ht (by simp [lastHeartbeat]),
      fun _ _ ht ↦ absurd ht (by simp [lastHeartbeat])⟩
  | cons e _ ih =>
    have hk := ih (fun t ht ↦ hclock t (mem_cons_of_mem _ ht))
      fun t ht ↦ hobserve t (mem_cons_of_mem _ ht)
    exact hk.step (hclock _ mem_cons_self) (hobserve _ mem_cons_self)

/-- The fresh claim of a node stands as long as no other node has been adopted since. -/
theorem mem_vipOwners_of_claims (hk : BitKept n now h s) (hn : n ∈ s.cluster.nodes.ids)
    (hclaims : ClaimsVip n h now) (hadopted : ¬ OnceSince (HeardFrom n) (AdoptsOther n) h) :
    n ∈ vipOwners s.cluster (.topology now) := by
  obtain ⟨t, hb, hlast, hfresh, hbit⟩ := hclaims
  refine mem_vipOwners.2 ⟨mem_freshNodes.2 ⟨hn, ?_⟩, hk.vipOwned t hb hlast hfresh hbit hadopted⟩
  exact heartbeatIsFresh_of_le (hk.lastHeartbeatAt t hb hlast) hfresh

/-- **A split brain is reported.** In every run of the system, whenever the last accepted heartbeats
of two nodes are both fresh and both claim the Virtual IP, and neither claim has been overruled by a
verified completion event of another node since, the topology lists both as owners, reports the
conflict, and neither the reconciliation nor an event that proves nothing makes one of them the
current active node. -/
theorem splitBrain_reported {m : NodeId} (hh : haMachine.History s₀ h s)
    (hobserve : ∀ t ∈ h, ∀ k node, t.2.action ≠ .observe k node)
    (hclock : ∀ t ∈ h, t.2.now ≤ now) (hne : n ≠ m) (hn : n ∈ s.cluster.nodes.ids)
    (hm : m ∈ s.cluster.nodes.ids) (hclaims : ClaimsVip n h now) (hclaims' : ClaimsVip m h now)
    (hadopted : ¬ OnceSince (HeardFrom n) (AdoptsOther n) h)
    (hadopted' : ¬ OnceSince (HeardFrom m) (AdoptsOther m) h) :
    n ∈ (reconcileTopology s.cluster (.topology now)).vipOwnerIds ∧
    m ∈ (reconcileTopology s.cluster (.topology now)).vipOwnerIds ∧
    (∃ issue ∈ (reconcileTopology s.cluster (.topology now)).issues, issue.code = .duplicateVip) ∧
    (∀ reporting, reconcileVipOwnership s.cluster reporting now = s.cluster ∨
      (reconcileVipOwnership s.cluster reporting now).currentActiveNodeId = none ∧
        (reconcileVipOwnership s.cluster reporting now).authoritativeNodeId =
          s.cluster.authoritativeNodeId) ∧ ∀ k event, ¬ verifiesOwner s.cluster k event now →
      (ingestEvent s.cluster k event now).currentActiveNodeId =
        s.cluster.currentActiveNodeId := by
  have howner := mem_vipOwners_of_claims (bitKept_of_history hh hclock hobserve) hn hclaims hadopted
  have howner' :=
    mem_vipOwners_of_claims (bitKept_of_history hh hclock hobserve) hm hclaims' hadopted'
  refine ⟨howner, howner', duplicateVip_of_two hne howner howner',
    reconcileVipOwnership_of_two hne howner howner', fun k event hverifies ↦ ?_⟩
  obtain ⟨events, heq⟩ := ingestEvent_of_not_verifies hverifies
  rw [heq]

end History

section Sample

/-- The sample cluster with automatic failover, both nodes claiming the Virtual IP. -/
def splitSys : Sys :=
  { sampleSys with cluster := { sampleCluster with automaticFailoverEnabled := true } }

/-- Both nodes report the Virtual IP. -/
def splitHistory : List (Sys × Event) :=
  [(step splitSys ⟨0, .heartbeat 1 (sampleHeartbeat true false 0)⟩,
      ⟨0, .heartbeat 2 (sampleHeartbeat true true 0)⟩),
    (splitSys, ⟨0, .heartbeat 1 (sampleHeartbeat true false 0)⟩)]

/-- The state after both reports. -/
def splitState : Sys :=
  step (step splitSys ⟨0, .heartbeat 1 (sampleHeartbeat true false 0)⟩)
    ⟨0, .heartbeat 2 (sampleHeartbeat true true 0)⟩

/-- The completion event of an automatic failover under the generation of the sample cluster. -/
def sampleCompletion : HAAgentEventItem :=
  { eventType := "automatic_failover_completed", generation := .whole 0, occurredAt := 0 }

theorem splitState_history : haMachine.History splitSys splitHistory splitState :=
  .cons _ (.cons _ .nil)

theorem claimsVip_of_both (n : NodeId) (hn : n = 1 ∨ n = 2) : ClaimsVip n splitHistory 0 := by
  rcases hn with rfl | rfl
  · exact ⟨0, sampleHeartbeat true false 0, by decide, by decide, rfl⟩
  · exact ⟨0, sampleHeartbeat true true 0, by decide, by decide, rfl⟩

theorem splitBrain_reported_both :
    ∃ issue ∈ (reconcileTopology splitState.cluster (.topology 0)).issues,
      issue.code = .duplicateVip := by
  have hquiet : ∀ n, ¬ OnceSince (HeardFrom n) (AdoptsOther n) splitHistory := by
    intro n
    simp [splitHistory, OnceSince, AdoptsOther]
  have hclock : ∀ t ∈ splitHistory, t.2.now ≤ 0 := by simp [splitHistory]
  have hobserve : ∀ t ∈ splitHistory, ∀ k node, t.2.action ≠ .observe k node := by
    simp [splitHistory]
  exact (splitBrain_reported splitState_history hobserve hclock (by decide : (1 : NodeId) ≠ 2)
    (by decide) (by decide) (claimsVip_of_both 1 (.inl rfl)) (claimsVip_of_both 2 (.inr rfl))
    (hquiet 1) (hquiet 2)).2.2.1

/-- **A split brain that is not reported.** Both heartbeats are fresh and claim the Virtual IP, and
the second node's completion event makes it the only owner and the current active node. -/
theorem splitBrain_adopted :
    Initial splitSys ∧ haMachine.History splitSys
        ((splitState, ⟨0, .ingestEvent 2 sampleCompletion⟩) :: splitHistory)
        (step splitState ⟨0, .ingestEvent 2 sampleCompletion⟩) ∧
      ClaimsVip 1 ((splitState, ⟨0, .ingestEvent 2 sampleCompletion⟩) :: splitHistory) 0 ∧
      ClaimsVip 2 ((splitState, ⟨0, .ingestEvent 2 sampleCompletion⟩) :: splitHistory) 0 ∧
      (reconcileTopology (step splitState ⟨0, .ingestEvent 2 sampleCompletion⟩).cluster
        (.topology 0)).vipOwnerIds = [2] ∧
      (∀ issue ∈ (reconcileTopology (step splitState ⟨0, .ingestEvent 2 sampleCompletion⟩).cluster
        (.topology 0)).issues, issue.code ≠ .duplicateVip) ∧
      (step splitState ⟨0, .ingestEvent 2 sampleCompletion⟩).cluster.currentActiveNodeId =
        some 2 := by
  have hclaims (n : NodeId) (hn : n = 1 ∨ n = 2) : ClaimsVip n
      ((splitState, ⟨0, .ingestEvent 2 sampleCompletion⟩) :: splitHistory) 0 :=
    claimsVip_of_both n hn
  exact ⟨⟨rfl, rfl, rfl, rfl, rfl, rfl, le_rfl, rfl, fun _ ↦ rfl, fun _ ↦ rfl, rfl⟩,
    .cons _ splitState_history, hclaims 1 (.inl rfl), hclaims 2 (.inr rfl), by decide +kernel,
    by decide +kernel, by decide +kernel⟩

end Sample

end Kaya.HA
