import Kaya.HA.FailoverCompletion
import Kaya.HA.SelfHealLatch
import Mathlib.Tactic.Linarith

/-!
# Transitions without another report

What becomes of a transition when nothing more is heard of the agents. The deadlines of
`advance_failover` belong to the phases that verify something and to the wait for the Virtual IP; a
phase that waits for an action's result has none, and neither has the wait for a lease snapshot.
`advance_dhcp_self_heal` has a deadline for its verification only.

Once the last heartbeat is older than the window of the engine, nothing is observed any more: no
owner is seen, no release is proved and no retry is safe. Then a call either ends the run or leaves
it where only an agent can move it.
-/

namespace Kaya.HA

open List Option

/-! ### Nothing is observed -/

section Quiet

variable {c : HACluster} {n : NodeId} {now : DateTime} {run : HAFailoverRun}

/-- Nothing fresh is known of these nodes. -/
def Quiet (c : HACluster) (ns : List NodeId) (now : DateTime) : Prop :=
  ∀ n ∈ ns, heartbeatIsFresh (c.node n) (.failover now) = false

/-- The nodes of a cluster and of a run. -/
def concerned (c : HACluster) (run : HAFailoverRun) : List NodeId :=
  run.sourceNodeId :: run.targetNodeId :: c.nodes.ids

/-- Every heartbeat becomes old. -/
theorem exists_quiet (c : HACluster) (ns : List NodeId) :
    ∃ from_ : DateTime, ∀ now, from_ ≤ now → Quiet c ns now := by
  induction ns with
  | nil => exact ⟨0, fun _ _ _ hn ↦ (not_mem_nil hn).elim⟩
  | cons n ns ih =>
    obtain ⟨start, hstart⟩ := ih
    refine ⟨max start ((c.node n).lastHeartbeatAt.getD 0 + seconds 121), fun now hnow ↦ ?_⟩
    refine forall_mem_cons.mpr ⟨?_, hstart now (le_trans (le_max_left ..) hnow)⟩
    have hlate := le_trans (le_max_right ..) hnow
    cases hbeat : (c.node n).lastHeartbeatAt with
    | none => simp [heartbeatIsFresh, hbeat]
    | some t =>
      rw [hbeat, getD_some] at hlate
      have hold : ¬now - seconds 120 ≤ t := by
        simp only [seconds] at hlate ⊢
        push_cast at hlate ⊢
        linarith
      simp [heartbeatIsFresh, hbeat, Window.admits, Window.failover, hold]

theorem dhcpObservation_of_quiet (h : heartbeatIsFresh (c.node n) (.failover now) = false) :
    (dhcpObservation (c.node n) (.failover now)).state = .unknown ∧
      (dhcpObservation (c.node n) (.failover now)).status = .stale := by
  simp [dhcpObservation, h]

theorem dhcpReleased_of_quiet (h : heartbeatIsFresh (c.node n) (.failover now) = false) :
    dhcpReleased c n now = false := by
  simp [dhcpReleased, DHCPObservation.released, (dhcpObservation_of_quiet h).1]

theorem freshNodes_of_quiet (h : Quiet c c.nodes.ids now) : freshNodes c (.failover now) = [] := by
  rw [freshNodes, filter_eq_nil_iff]
  intro n hn hfresh
  exact Bool.false_ne_true ((h n hn).symm.trans hfresh)

theorem vipOwners_of_quiet (h : Quiet c c.nodes.ids now) : vipOwners c (.failover now) = [] := by
  rw [vipOwners, freshNodes_of_quiet h, filter_nil]

theorem requestedTopologyIsVerified_of_quiet (h : Quiet c c.nodes.ids now) (run : HAFailoverRun)
    (rolledBack : Bool) : requestedTopologyIsVerified c run rolledBack now = false := by
  simp [requestedTopologyIsVerified, reconcileTopology, vipOwners_of_quiet h]

theorem queueSafeDhcpRepair_of_quiet (h : Quiet c c.nodes.ids now) (r : RunId)
    (rolledBack : Bool) : queueSafeDhcpRepair c r rolledBack now = none := by
  simp [queueSafeDhcpRepair, dhcpRepairIsSafe, reconcileTopology, vipOwners_of_quiet h]

theorem queueSafeDhcpReleaseRetry_of_quiet {r : RunId} {rolledBack : Bool}
    (h : heartbeatIsFresh (c.node ((c.failoverRun r).origin rolledBack)) (.failover now) = false) :
    queueSafeDhcpReleaseRetry c r rolledBack now = none := by
  simp [queueSafeDhcpReleaseRetry, (dhcpObservation_of_quiet h).2]

end Quiet

/-! ### Failover runs -/

/-- The Virtual IP is reported on the destination alone, with Keepalived deployed everywhere: what
`advance_failover` waits for while it moves. -/
def vipHandedOver (c : HACluster) (run : HAFailoverRun) (rolledBack : Bool) : Bool :=
  (c.node (run.destination rolledBack)).vipOwned ∧ !(c.node (run.origin rolledBack)).vipOwned ∧
    ∀ n ∈ c.nodes.ids, (c.node n).keepalivedStatus = .deployed

/-- The run has a deadline: it was started for the wrong mode, it is being verified, or it moves the
Virtual IP and will not go on to wait for a promotion. -/
def Timed (c : HACluster) (run : HAFailoverRun) : Prop :=
  (run.dhcpManaged = false ∧ piholeManagesDhcp c = true) ∨
  match run.phase with
  | .verifyingSourceDhcpRelease | .verifyingRollbackTargetRelease => True
  | .verifyingTarget | .rollbackVerifyingSource => True
  | .movingVip => ¬(vipHandedOver c run false = true ∧ run.dhcpManaged = true)
  | .rollbackMovingVip => ¬(vipHandedOver c run true = true ∧ run.dhcpManaged = true)
  | _ => False

/-- `advance_failover` at these times. -/
def advanceAll (c : HACluster) (times : List DateTime) : HACluster := times.foldl advanceFailover c

/-- From some deadline on, enough calls of `advance_failover` end the run. -/
def FailoverEnds (c : HACluster) (r : RunId) : Prop :=
  ∃ (deadline : DateTime) (calls : ℕ), ∀ times : List DateTime,
    (∀ t ∈ times, deadline ≤ t) → calls ≤ times.length →
      ((advanceAll c times).failoverRun r).status.isActive = false

section Failover

variable {c : HACluster} {r : RunId} {now : DateTime} {rolledBack : Bool}

/-- A run that has ended stays ended. -/
theorem advanceFailover_ended (h : (c.failoverRun r).status.isActive = false) :
    ((advanceFailover c now).failoverRun r).status.isActive = false := by
  cases hlive : activeFailover c with
  | none => rwa [advanceFailover_of_none hlive]
  | some r' =>
    have hne : r ≠ r' := by
      rintro rfl
      exact Bool.false_ne_true (h.symm.trans (Table.newest?_eq_some hlive).2)
    have hmoves : RunMoves c now r' c (advanceFailover c now) := advanceFailover_moves hlive
    rwa [hmoves.others r hne]

theorem safeFailure_row (message : String) :
    ((safeFailure c r message).failoverRun r).status = .failedSafe ∧
      ((safeFailure c r message).failoverRun r).phase = .failedSafe := by
  rw [failoverRun_of_modify (safeFailure_failoverRuns c r message)]
  exact ⟨rfl, rfl⟩

theorem verifyPhase_safeFailure (message : String) :
    verifyPhase (safeFailure c r message) r now = safeFailure c r message := by
  rw [verifyPhase, (safeFailure_row message).2]

theorem safeFailure_ended (message : String) :
    ((safeFailure c r message).failoverRun r).status.isActive = false := by
  rw [(safeFailure_row message).1]
  rfl

/-! ### What has a deadline ends -/

theorem verifyFinal_ended (hquiet : Quiet c c.nodes.ids now)
    (hlate : seconds 30 < now - verificationStartedAt (c.failoverRun r)) :
    ((verifyFinal c r rolledBack now).failoverRun r).status.isActive = false := by
  simp only [verifyFinal, requestedTopologyIsVerified_of_quiet hquiet,
    queueSafeDhcpRepair_of_quiet hquiet, Bool.false_eq_true, if_false, if_pos hlate, getD_none]
  exact safeFailure_ended _

theorem verifyRelease_eq_safeFailure
    (hquiet : heartbeatIsFresh (c.node ((c.failoverRun r).origin rolledBack)) (.failover now) =
      false) (hlate : seconds 45 < now - verificationStartedAt (c.failoverRun r)) :
    ∃ message, verifyRelease c r rolledBack now = safeFailure c r message := by
  simp only [verifyRelease, dhcpReleased_of_quiet hquiet,
    queueSafeDhcpReleaseRetry_of_quiet hquiet, Bool.false_eq_true, if_false, if_pos hlate,
    getD_none]
  exact ⟨_, rfl⟩

/-- The wait for the Virtual IP: it goes on, or the run ends. -/
theorem awaitVip_of_quiet {rolledBack : Bool}
    (hquiet : heartbeatIsFresh (c.node (c.failoverRun r).targetNodeId) (.failover now) = false) :
    (vipHandedOver c (c.failoverRun r) rolledBack = true ∧ awaitVip c r rolledBack now =
      setFailoverPhase c r (if rolledBack then
        if (c.failoverRun r).dhcpManaged then .rollbackPromotingSource else .rollbackVerifyingSource
      else if (c.failoverRun r).dhcpManaged then .promotingTarget else .verifyingTarget)) ∨
    (vipHandedOver c (c.failoverRun r) rolledBack = false ∧
      (seconds 60 < now - vipMoveStartedAt (c.failoverRun r) →
        ∃ message, awaitVip c r rolledBack now = safeFailure c r message)) := by
  rw [awaitVip]
  by_cases hover : vipHandedOver c (c.failoverRun r) rolledBack = true
  · refine .inl ⟨hover, ?_⟩
    rw [vipHandedOver, decide_eq_true_eq] at hover
    exact if_pos hover
  · refine .inr ⟨Bool.eq_false_of_not_eq_true hover, fun hlate ↦ ?_⟩
    rw [vipHandedOver, decide_eq_true_eq] at hover
    simp only [if_neg hover, if_pos hlate, dhcpReleased_of_quiet hquiet, Bool.false_eq_true,
      and_false, if_false]
    exact ⟨_, rfl⟩

theorem setFailoverPhase_row (phase : FailoverPhase) :
    (setFailoverPhase c r phase).failoverRun r = { c.failoverRun r with phase } :=
  failoverRun_of_modify (setFailoverPhase_failoverRuns c r phase)

/-- Moving on without a promotion leads to a verification that is overdue as well. -/
theorem verifyPhase_awaitVip_ended (hnodes : Quiet c c.nodes.ids now)
    (htgt : heartbeatIsFresh (c.node (c.failoverRun r).targetNodeId) (.failover now) = false)
    (hnot : ¬(vipHandedOver c (c.failoverRun r) rolledBack = true ∧
      (c.failoverRun r).dhcpManaged = true))
    (hverify : seconds 30 < now - verificationStartedAt (c.failoverRun r))
    (hmove : seconds 60 < now - vipMoveStartedAt (c.failoverRun r)) :
    ((verifyPhase (awaitVip c r rolledBack now) r now).failoverRun r).status.isActive = false := by
  obtain ⟨hover, hph⟩ | ⟨-, hfailed⟩ := @awaitVip_of_quiet c r now rolledBack htgt
  · have hman : (c.failoverRun r).dhcpManaged = false :=
      Bool.eq_false_of_not_eq_true fun h ↦ hnot ⟨hover, h⟩
    rw [hph, hman, verifyPhase, setFailoverPhase_row]
    have hlate : ∀ phase, seconds 30 <
        now - verificationStartedAt ((setFailoverPhase c r phase).failoverRun r) := by
      intro phase
      rw [setFailoverPhase_row]
      exact hverify
    cases rolledBack with
    | false => exact verifyFinal_ended hnodes (hlate _)
    | true => exact verifyFinal_ended hnodes (hlate _)
  · obtain ⟨message, hmessage⟩ := hfailed hmove
    rw [hmessage, verifyPhase_safeFailure]
    exact safeFailure_ended message

/-- What a call does when nothing is observed and the run is not one for the wrong mode. -/
theorem advanceRun_of_quiet (hquiet : Quiet c c.nodes.ids now)
    (hmode : ¬(!(c.failoverRun r).dhcpManaged ∧ piholeManagesDhcp c)) :
    advanceRun c r now = verifyPhase (switchPhase c r now) r now := by
  simp only [advanceRun, if_neg hmode, requestedTopologyIsVerified_of_quiet hquiet,
    Bool.false_eq_true, and_false, if_false]

/-- **A run with a deadline ends** at the first call after it. -/
theorem advanceRun_ended (hquiet : Quiet c (concerned c (c.failoverRun r)) now)
    (htimed : Timed c (c.failoverRun r))
    (hverify : seconds 45 < now - verificationStartedAt (c.failoverRun r))
    (hmove : seconds 60 < now - vipMoveStartedAt (c.failoverRun r)) :
    ((advanceRun c r now).failoverRun r).status.isActive = false := by
  obtain ⟨hsrc, hrest⟩ := forall_mem_cons.mp hquiet
  obtain ⟨htgt, hnodes⟩ := forall_mem_cons.mp hrest
  by_cases hmode : !(c.failoverRun r).dhcpManaged ∧ piholeManagesDhcp c
  · simp only [advanceRun, if_pos hmode]
    exact safeFailure_ended _
  rw [advanceRun_of_quiet hnodes hmode]
  have hph := htimed.resolve_left fun h ↦ hmode ⟨by rw [h.1]; rfl, h.2⟩
  have hverify' : seconds 30 < now - verificationStartedAt (c.failoverRun r) :=
    lt_trans (by norm_num [seconds]) hverify
  have hoverdue : ∀ rolledBack, heartbeatIsFresh (c.node ((c.failoverRun r).origin rolledBack))
      (.failover now) = false := by
    rintro (- | -)
    · exact hsrc
    · exact htgt
  cases hcase : (c.failoverRun r).phase <;> rw [hcase] at hph <;> rw [switchPhase, hcase]
  case verifyingSourceDhcpRelease =>
    obtain ⟨message, hmessage⟩ := verifyRelease_eq_safeFailure (hoverdue false) hverify
    dsimp only
    rw [hmessage, verifyPhase_safeFailure]
    exact safeFailure_ended message
  case verifyingRollbackTargetRelease =>
    obtain ⟨message, hmessage⟩ := verifyRelease_eq_safeFailure (hoverdue true) hverify
    dsimp only
    rw [hmessage, verifyPhase_safeFailure]
    exact safeFailure_ended message
  case movingVip => exact verifyPhase_awaitVip_ended hnodes htgt hph hverify' hmove
  case rollbackMovingVip => exact verifyPhase_awaitVip_ended hnodes htgt hph hverify' hmove
  case verifyingTarget =>
    dsimp only
    rw [verifyPhase, hcase]
    exact verifyFinal_ended hnodes hverify'
  case rollbackVerifyingSource =>
    dsimp only
    rw [verifyPhase, hcase]
    exact verifyFinal_ended hnodes hverify'
  all_goals exact hph.elim

/-! ### What waits for an agent stays -/

/-- Phases without a deadline. -/
def FailoverPhase.waits : FailoverPhase → Bool
  | verifyingSourceDhcpRelease | verifyingRollbackTargetRelease | verifyingTarget
  | rollbackVerifyingSource | movingVip | rollbackMovingVip => false
  | _ => true

theorem not_timed_of_waits {run : HAFailoverRun} (hmode : ¬(run.dhcpManaged = false ∧
    piholeManagesDhcp c = true)) (hwaits : run.phase.waits = true) : ¬Timed c run := by
  rintro (hwrong | htimed)
  · exact hmode hwrong
  · cases hph : run.phase <;> rw [hph] at hwaits htimed <;>
      first | exact htimed | exact absurd hwaits (by decide)

theorem verifyPhase_of_waits (h : (c.failoverRun r).phase.waits = true) :
    verifyPhase c r now = c := by
  rw [verifyPhase]
  cases hph : (c.failoverRun r).phase <;> rw [hph] at h <;>
    first | rfl | exact absurd h (by decide)

/-- **A run without a deadline waits on**: a call leaves it, or moves it to another phase that
waits. -/
theorem advanceRun_waits (hquiet : Quiet c (concerned c (c.failoverRun r)) now)
    (hnot : ¬Timed c (c.failoverRun r)) : advanceRun c r now = c ∨
      ∃ phase : FailoverPhase, phase.waits = true ∧
        advanceRun c r now = setFailoverPhase c r phase := by
  obtain ⟨-, hrest⟩ := forall_mem_cons.mp hquiet
  obtain ⟨htgt, hnodes⟩ := forall_mem_cons.mp hrest
  have hmode : ¬(!(c.failoverRun r).dhcpManaged ∧ piholeManagesDhcp c) := fun h ↦
    hnot (.inl ⟨by simpa using h.1, h.2⟩)
  have hph := fun h ↦ hnot (.inr h)
  rw [advanceRun_of_quiet hnodes hmode]
  have hset : ∀ phase : FailoverPhase, phase.waits = true →
      verifyPhase (setFailoverPhase c r phase) r now = setFailoverPhase c r phase := by
    intro phase hwaits
    refine verifyPhase_of_waits ?_
    rw [setFailoverPhase_row]
    exact hwaits
  have hstay : (c.failoverRun r).phase.waits = true → switchPhase c r now = c →
      verifyPhase (switchPhase c r now) r now = c := by
    intro hwaits hsame
    rw [hsame, verifyPhase_of_waits hwaits]
  cases hcase : (c.failoverRun r).phase <;> rw [hcase] at hph hstay
  case waitingForLeases =>
    rw [switchPhase, hcase]
    dsimp only
    split
    · exact .inr ⟨_, rfl, hset _ rfl⟩
    · exact .inl (verifyPhase_of_waits (by rw [hcase]; rfl))
  case rollbackDemotingTarget =>
    refine .inl (hstay rfl ?_)
    rw [switchPhase, hcase]
    simp [dhcpReleased_of_quiet htgt]
  case movingVip =>
    obtain ⟨hover, hman⟩ := not_not.mp hph
    obtain ⟨-, hnext⟩ | ⟨hfalse, -⟩ := @awaitVip_of_quiet c r now false htgt
    · refine .inr ⟨.promotingTarget, rfl, ?_⟩
      rw [hman] at hnext
      rw [switchPhase, hcase]
      dsimp only
      rw [hnext]
      exact hset _ rfl
    · cases hfalse.symm.trans hover
  case rollbackMovingVip =>
    obtain ⟨hover, hman⟩ := not_not.mp hph
    obtain ⟨-, hnext⟩ | ⟨hfalse, -⟩ := @awaitVip_of_quiet c r now true htgt
    · refine .inr ⟨.rollbackPromotingSource, rfl, ?_⟩
      rw [hman] at hnext
      rw [switchPhase, hcase]
      dsimp only
      rw [hnext]
      exact hset _ rfl
    · cases hfalse.symm.trans hover
  all_goals first
    | exact absurd trivial hph
    | exact .inl (hstay rfl (by rw [switchPhase, hcase]))

/-- The run that is advanced, without a deadline and with nothing observed. -/
structure Stuck (c : HACluster) (r : RunId) (now : DateTime) : Prop where
  current : activeFailover c = some r
  untimed : ¬Timed c (c.failoverRun r)
  quiet : Quiet c (concerned c (c.failoverRun r)) now

theorem activeFailover_setFailoverPhase (phase : FailoverPhase) :
    activeFailover (setFailoverPhase c r phase) = activeFailover c := by
  rw [activeFailover, setFailoverPhase_failoverRuns]
  refine Table.newest?_congr rfl (fun k ↦ ?_) fun k ↦ ?_
  · rw [Table.modify_row]
    split
    · rfl
    · rfl
  · rw [Table.modify_row]
    split
    · rfl
    · rfl

/-- **One call keeps a stuck run stuck.** -/
theorem Stuck.advanceFailover (h : Stuck c r now) : Stuck (advanceFailover c now) r now := by
  have hrun : HA.advanceFailover c now = advanceRun c r now := by
    rw [HA.advanceFailover, h.current]
  rw [hrun]
  rcases advanceRun_waits h.quiet h.untimed with hsame | ⟨phase, hwaits, hset⟩
  · rwa [hsame]
  · rw [hset]
    refine ⟨(activeFailover_setFailoverPhase phase).trans h.current, ?_, ?_⟩
    · rw [setFailoverPhase_row]
      exact not_timed_of_waits (fun hmode ↦ h.untimed (.inl hmode)) hwaits
    · rw [setFailoverPhase_row]
      exact h.quiet

/-- **No number of calls ends a stuck run.** -/
theorem Stuck.advanceAll (h : Stuck c r now) (calls : ℕ) :
    Stuck (advanceAll c (List.replicate calls now)) r now := by
  induction calls generalizing c with
  | zero => exact h
  | succ calls ih => exact ih h.advanceFailover

theorem Stuck.isActive (h : Stuck c r now) : (c.failoverRun r).status.isActive = true :=
  (Table.newest?_eq_some h.current).2

theorem not_failoverEnds (hcur : activeFailover c = some r)
    (hnot : ¬Timed c (c.failoverRun r)) : ¬FailoverEnds c r := by
  rintro ⟨deadline, calls, hends⟩
  obtain ⟨start, hstart⟩ := exists_quiet c (concerned c (c.failoverRun r))
  have hstuck : Stuck c r (max deadline start) := ⟨hcur, hnot, hstart _ (le_max_right ..)⟩
  have hended := hends (replicate calls (max deadline start))
    (fun t ht ↦ by rw [eq_of_mem_replicate ht]; exact le_max_left ..)
    (by rw [length_replicate])
  exact Bool.false_ne_true (hended.symm.trans (hstuck.advanceAll calls).isActive)

theorem advanceAll_ended (times : List DateTime) (h : (c.failoverRun r).status.isActive = false) :
    ((advanceAll c times).failoverRun r).status.isActive = false := by
  induction times generalizing c with
  | nil => exact h
  | cons t times ih => exact ih (advanceFailover_ended h)

/-- **Which failover runs end without another report.** -/
theorem failoverEnds_iff (hcur : activeFailover c = some r) :
    FailoverEnds c r ↔ Timed c (c.failoverRun r) := by
  refine ⟨fun hends ↦ not_not.mp fun hnot ↦ not_failoverEnds hcur hnot hends, fun htimed ↦ ?_⟩
  obtain ⟨start, hstart⟩ := exists_quiet c (concerned c (c.failoverRun r))
  refine ⟨max start (max (verificationStartedAt (c.failoverRun r) + seconds 46)
    (vipMoveStartedAt (c.failoverRun r) + seconds 61)), 1, ?_⟩
  intro times htimes hcalls
  cases times with
  | nil => exact absurd hcalls (by decide)
  | cons t times =>
    have hlate := (forall_mem_cons.mp htimes).1
    obtain ⟨hquiet, hlate⟩ := max_le_iff.mp hlate
    obtain ⟨hverify, hmove⟩ := max_le_iff.mp hlate
    have hrun : advanceFailover c t = advanceRun c r t := by rw [advanceFailover, hcur]
    refine advanceAll_ended times ?_
    rw [hrun]
    refine advanceRun_ended (hstart t hquiet) htimed ?_ ?_
    · simp only [seconds] at hverify ⊢
      push_cast at hverify ⊢
      linarith
    · simp only [seconds] at hmove ⊢
      push_cast at hmove ⊢
      linarith

end Failover

/-! ### Self-heals -/

/-- The self-heal has a deadline: it is being verified with a second node at hand or an incomplete
record, or it asks for a demotion that the agent of the node is too old for. -/
def SelfHealTimed (c : HACluster) (run : HAMaintenanceRun) : Prop :=
  if run.phase = .repairingDhcp then
    ∃ n, run.result.repairNodeId = some n ∧ run.result.actionType = some .demote ∧
      agentVersion (c.node n).agentVersion < ownerProtectionAgentVersion
  else
    run.result.repairNodeId = none ∨ run.result.actionType = none ∨
      ∀ owner, run.desiredActiveNodeId = some owner → ∃ n ∈ c.nodes.ids, n ≠ owner

/-- `advance_dhcp_self_heal` at these times. -/
def healAll (c : HACluster) (m : RunId) (times : List DateTime) : HACluster :=
  times.foldl (fun c t ↦ advanceDhcpSelfHeal c m t) c

/-- The self-heal is over and the cluster out of maintenance. -/
def Healed (c : HACluster) (m : RunId) : Prop :=
  (c.maintenanceRun m).status ≠ .running ∧ c.maintenanceMode = false

/-- From some deadline on, enough calls of `advance_dhcp_self_heal` end the run and the
maintenance. -/
def SelfHealEnds (c : HACluster) (m : RunId) : Prop :=
  ∃ (deadline : DateTime) (calls : ℕ), ∀ times : List DateTime,
    (∀ t ∈ times, deadline ≤ t) → calls ≤ times.length → Healed (healAll c m times) m

section SelfHeal

variable {c : HACluster} {m : RunId} {now : DateTime} {n : NodeId}

/-- A row update that stops the run, in a cluster out of maintenance. -/
theorem modifyMaintenance_healed {f : HAMaintenanceRun → HAMaintenanceRun}
    (hmode : c.maintenanceMode = false) (hstat : ∀ run, (f run).status ≠ .running) :
    Healed (c.modifyMaintenance m f) m := by
  refine ⟨?_, hmode⟩
  rw [HACluster.maintenanceRun, HACluster.modifyMaintenance, Table.modify_row_self]
  exact hstat _

theorem failDhcpSelfHeal_healed (message : String) : Healed (failDhcpSelfHeal c m message) m :=
  modifyMaintenance_healed rfl fun _ ↦ by simp

theorem healAll_healed (times : List DateTime) (h : Healed c m) : Healed (healAll c m times) m := by
  induction times generalizing c with
  | nil => exact h
  | cons t times ih =>
    rw [healAll, foldl_cons, advanceDhcpSelfHeal_of_ne (.inr h.1)]
    exact ih h

/-- A cleanup is authorised when nothing is observed, unless the agent is too old. -/
theorem authoriseDhcpDemotion_of_quiet (hquiet : Quiet c (n :: c.nodes.ids) now)
    (replacement : Option NodeId) :
    (authoriseDhcpDemotion c n now replacement false false).allowed = true ↔
      ¬agentVersion (c.node n).agentVersion < ownerProtectionAgentVersion := by
  obtain ⟨hnode, hnodes⟩ := forall_mem_cons.mp hquiet
  have hinactive : (dhcpObservation (c.node n) (.failover now)).active = false := by
    simp [DHCPObservation.active, (dhcpObservation_of_quiet hnode).1]
  have howners : dhcpOwners c (.failover now) = [] := by
    rw [dhcpOwners, freshNodes_of_quiet hnodes, filter_nil]
  by_cases hversion : agentVersion (c.node n).agentVersion < ownerProtectionAgentVersion
  · simp [authoriseDhcpDemotion, hversion]
  · simp [authoriseDhcpDemotion, hversion, howners, hinactive]

theorem cancelSelfHeal_healed (hnode : (c.maintenanceRun m).result.repairNodeId = some n)
    (hact : (c.maintenanceRun m).result.actionType = some .demote)
    (hrefused : (authoriseDhcpDemotion c n now (c.maintenanceRun m).desiredActiveNodeId false
      false).allowed = false) : Healed (cancelSelfHeal c m now) m := by
  rw [cancelSelfHeal, hnode, hact]
  dsimp only
  rw [hrefused, if_neg Bool.false_ne_true]
  exact modifyMaintenance_healed rfl fun _ ↦ by simp

/-- A self-heal without a deadline is left alone. -/
theorem advanceDhcpSelfHeal_waits
    (hquiet : ∀ n, (c.maintenanceRun m).result.repairNodeId = some n →
      Quiet c (n :: c.nodes.ids) now)
    (hnot : ¬SelfHealTimed c (c.maintenanceRun m)) : advanceDhcpSelfHeal c m now = c := by
  rw [SelfHealTimed] at hnot
  rw [advanceDhcpSelfHeal]
  dsimp only
  split
  · rfl
  split <;> rename_i hph
  · rw [if_pos hph] at hnot
    rw [cancelSelfHeal]
    dsimp only
    split
    · rename_i n hnode hact
      rw [if_pos]
      rw [authoriseDhcpDemotion_of_quiet (hquiet n hnode)]
      exact fun hversion ↦ hnot ⟨n, hnode, hact, hversion⟩
    · rfl
  · rw [if_neg hph] at hnot
    simp only [not_or, not_forall, not_exists, not_and, not_not] at hnot
    obtain ⟨hnode, hact, owner, howner, hall⟩ := hnot
    obtain ⟨n, hnode⟩ := ne_none_iff_exists'.mp hnode
    obtain ⟨action, hact⟩ := ne_none_iff_exists'.mp hact
    have hstby : c.nodes.ids.find? (· ≠ owner) = none := by
      rw [find?_eq_none]
      intro n hn
      simpa using hall n hn
    rw [hnode, howner, hact]
    dsimp only
    rw [hstby]

/-- A self-heal with a deadline ends at the first call after it. -/
theorem advanceDhcpSelfHeal_healed (hoper : (c.maintenanceRun m).operation = .dhcpSelfHeal)
    (hstat : (c.maintenanceRun m).status = .running)
    (htimed : SelfHealTimed c (c.maintenanceRun m))
    (hlate : seconds 45 < now - (c.maintenanceRun m).phaseStartedAt) :
    Healed (advanceDhcpSelfHeal c m now) m := by
  rw [SelfHealTimed] at htimed
  rw [advanceDhcpSelfHeal]
  dsimp only
  rw [if_neg (by simp [hoper, hstat])]
  split <;> rename_i hph
  · rw [if_pos hph] at htimed
    obtain ⟨n, hnode, hact, hversion⟩ := htimed
    refine cancelSelfHeal_healed hnode hact ?_
    simp [authoriseDhcpDemotion, hversion]
  · rw [if_neg hph] at htimed
    split
    · rename_i n owner action hnode howner hact
      rw [hnode, howner, hact] at htimed
      simp only [reduceCtorEq, false_or, some.injEq, forall_eq'] at htimed
      obtain ⟨other, hother, hne⟩ := htimed
      obtain ⟨standby, hstby⟩ : ∃ standby, c.nodes.ids.find? (· ≠ owner) = some standby := by
        rw [← isSome_iff_exists, find?_isSome]
        exact ⟨other, hother, by simpa using hne⟩
      rw [hstby]
      dsimp only
      split
      · exact modifyMaintenance_healed rfl fun _ ↦ by simp
      · exact failDhcpSelfHeal_healed _
    · exact failDhcpSelfHeal_healed _

/-- **Which self-heals end without another report.** -/
theorem selfHealEnds_iff (hoper : (c.maintenanceRun m).operation = .dhcpSelfHeal)
    (hstat : (c.maintenanceRun m).status = .running) :
    SelfHealEnds c m ↔ SelfHealTimed c (c.maintenanceRun m) := by
  constructor
  · rintro ⟨deadline, calls, hends⟩
    by_contra hnot
    obtain ⟨start, hstart⟩ := exists_quiet c
      ((c.maintenanceRun m).result.repairNodeId.toList ++ c.nodes.ids)
    have hquiet : ∀ n, (c.maintenanceRun m).result.repairNodeId = some n →
        Quiet c (n :: c.nodes.ids) (max deadline start) := by
      intro n hnode
      have hall := hstart _ (le_max_right deadline start)
      rw [hnode] at hall
      exact hall
    have hwaits := advanceDhcpSelfHeal_waits hquiet hnot
    have hsame : healAll c m (replicate calls (max deadline start)) = c := by
      generalize calls = k
      induction k with
      | zero => rfl
      | succ k ih => rwa [replicate_succ, healAll, foldl_cons, hwaits]
    have hhealed := hends (replicate calls (max deadline start))
      (fun t ht ↦ by rw [eq_of_mem_replicate ht]; exact le_max_left ..)
      (by rw [length_replicate])
    rw [hsame] at hhealed
    exact hhealed.1 hstat
  · intro htimed
    refine ⟨(c.maintenanceRun m).phaseStartedAt + seconds 46, 1, fun times htimes hcalls ↦ ?_⟩
    cases times with
    | nil => exact absurd hcalls (by decide)
    | cons t times =>
      have hlate := (forall_mem_cons.mp htimes).1
      refine healAll_healed times (advanceDhcpSelfHeal_healed hoper hstat htimed ?_)
      simp only [seconds] at hlate ⊢
      push_cast at hlate ⊢
      linarith

end SelfHeal

/-- **Which transitions end without another report**: exactly those with a deadline. -/
theorem transition_ends_iff (c : HACluster) :
    (∀ r, activeFailover c = some r → (FailoverEnds c r ↔ Timed c (c.failoverRun r))) ∧
      ∀ m, (c.maintenanceRun m).operation = .dhcpSelfHeal → (c.maintenanceRun m).status = .running →
          (SelfHealEnds c m ↔ SelfHealTimed c (c.maintenanceRun m)) :=
  ⟨fun _ ↦ failoverEnds_iff, fun _ ↦ selfHealEnds_iff⟩

section Sample

/-- While the Virtual IP is moving the sample handover ends. -/
theorem moving_ends : FailoverEnds (haMachine.run sampleSys sampleMovingRun).cluster 1 := by
  refine ((transition_ends_iff _).1 1 (by decide +kernel)).mpr (.inr ?_)
  have hph : ((haMachine.run sampleSys sampleMovingRun).cluster.failoverRun 1).phase =
      .movingVip := by decide +kernel
  rw [hph]
  decide +kernel

/-- A self-heal that has just started. -/
def healingRun : List Event := [⟨0, .startDhcpSelfHeal false⟩]

/-- A handover whose demotion is not answered never ends, and neither does a self-heal. -/
theorem unanswered_never_ends :
    (haMachine.Reachable (haMachine.run sampleSys sampleStartedRun) ∧
      activeFailover (haMachine.run sampleSys sampleStartedRun).cluster = some 1 ∧
      ¬FailoverEnds (haMachine.run sampleSys sampleStartedRun).cluster 1) ∧
    haMachine.Reachable (haMachine.run driftSys healingRun) ∧
      ((haMachine.run driftSys healingRun).cluster.maintenanceRun 1).operation = .dhcpSelfHeal ∧
      ((haMachine.run driftSys healingRun).cluster.maintenanceRun 1).status = .running ∧
      ¬SelfHealEnds (haMachine.run driftSys healingRun).cluster 1 := by
  have hinit : Initial driftSys :=
    ⟨rfl, rfl, rfl, rfl, rfl, rfl, le_rfl, rfl, fun _ ↦ rfl, fun _ ↦ rfl, rfl⟩
  have hcur : activeFailover (haMachine.run sampleSys sampleStartedRun).cluster = some 1 := by
    decide +kernel
  have hoper : ((haMachine.run driftSys healingRun).cluster.maintenanceRun 1).operation =
      .dhcpSelfHeal := by decide +kernel
  have hstat : ((haMachine.run driftSys healingRun).cluster.maintenanceRun 1).status =
      .running := by decide +kernel
  refine ⟨⟨sampleSys_reachable _, hcur, not_failoverEnds hcur ?_⟩, .run _ (.start hinit),
    hoper, hstat, ?_⟩
  · exact not_timed_of_waits (by decide +kernel) (by decide +kernel)
  · rw [selfHealEnds_iff hoper hstat, SelfHealTimed, if_pos (by decide +kernel)]
    rintro ⟨n, -, hact, -⟩
    revert hact
    decide +kernel

end Sample

end Kaya.HA
