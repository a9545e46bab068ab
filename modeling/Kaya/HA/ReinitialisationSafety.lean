import Kaya.HA.ReinitialisationSteps

/-!
# Ownership in a reinitialisation

A reinitialisation takes DHCP from one node and gives it to another, across restarts of the server,
lost results and clocks that jump. What must never happen is that the new active node is told to
start DHCP before it owns the Virtual IP alone and before the standby was seen without DHCP.

The first half is in the step itself. The second lies in the past: between the observation of the
standby and the promotion there are the rebuild and the wait for the Virtual IP, and a restart sends
the run back to its first phase. The phases behind the release (`MaintenancePhase.isReleased`) carry
the observation: they are entered by making it, and left towards the first phase only
(`releaseObserved_step`).
-/

namespace Kaya.HA

/-- The phases behind the observation that the standby has released DHCP. -/
def MaintenancePhase.isReleased : MaintenancePhase → Bool
  | rebuildingHa | waitingForVip | promotingActive | verifyingDhcpActivation | verifying => true
  | _ => false

theorem isReleased_of_isPreparation {phase : MaintenancePhase} (h : phase.isPreparation = true) :
    phase.isReleased = false := by
  cases phase <;> first
    | rfl
    | cases h

/-- The advance of the run sees the standby without DHCP. -/
def ObservesRelease (m : RunId) (t : Sys × Event) : Prop :=
  ∃ inputs target standby, t.2.action = .advanceReinitialisation m inputs ∧
    (t.1.cluster.maintenanceRun m).desiredActiveNodeId = some target ∧
    t.1.cluster.nodes.ids.find? (· ≠ target) = some standby ∧
    Maintenance.dhcpReleased t.1.cluster standby t.2.now = true

/-- The transition leaves the run in `WAITING_FOR_REPORTS`. -/
def StartsOver (m : RunId) (t : Sys × Event) : Prop :=
  ((step t.1 t.2).cluster.maintenanceRun m).phase = .waitingForReports

/-- A running reinitialisation that is past the release has seen it since it last started over. -/
def ReleaseObserved (h : List (Sys × Event)) (s : Sys) : Prop :=
  piholeManagesDhcp s.cluster = true → ∀ m ∈ s.cluster.maintenanceRuns.ids,
    (s.cluster.maintenanceRun m).operation = .reinitialise →
    (s.cluster.maintenanceRun m).status = .running →
    (s.cluster.maintenanceRun m).phase.isReleased = true →
    OnceSince (StartsOver m) (ObservesRelease m) h

section Release

variable {s₀ s : Sys} {h : List (Sys × Event)} {e : Event} {m : RunId}

theorem not_startsOver (hrel : ((step s e).cluster.maintenanceRun m).phase.isReleased = true) :
    ¬ StartsOver m (s, e) := by
  intro hstart
  have hph : ((step s e).cluster.maintenanceRun m).phase = .waitingForReports := hstart
  rw [hph] at hrel
  cases hrel

/-- A result leads behind the release only from `PROMOTING_ACTIVE`. -/
theorem isReleased_of_answered {run : HAMaintenanceRun} {phase : MaintenancePhase}
    (hoper : run.operation = .reinitialise) (hafter : phaseAfterResult run = some phase)
    (hrel : phase.isReleased = true) : run.phase.isReleased = true := by
  unfold phaseAfterResult at hafter
  rw [if_neg (by rw [hoper]; decide)] at hafter
  split at hafter <;> rename_i hbef
  · cases hafter
    cases hrel
  · rw [hbef]
    rfl
  · cases hafter

/-- An advance leads behind the release by seeing it, or from a phase behind it. -/
theorem released_of_move {c : HACluster} {stalled : StalledRecovery} {now : DateTime}
    {run run' : HAMaintenanceRun} (hmove : ReinitialisationMove c stalled now run run')
    (hman : piholeManagesDhcp c = true) (hrel : run'.phase.isReleased = true) :
    run.phase.isReleased = true ∨ ∃ target standby, run.desiredActiveNodeId = some target ∧
      c.nodes.ids.find? (· ≠ target) = some standby ∧
      Maintenance.dhcpReleased c standby now = true := by
  cases hmove with
  | stay hph => exact .inl (hph ▸ hrel)
  | stop hph =>
    rw [hph] at hrel
    cases hrel
  | restart hph =>
    rw [hph] at hrel
    cases hrel
  | prepare hph =>
    exact absurd (hrel.symm.trans (isReleased_of_isPreparation hph)) (by decide)
  | released target standby htgt hstby hseen =>
    exact .inr ⟨target, standby, htgt, hstby, hseen hman⟩
  | rebuild hbef => exact .inl (by rw [hbef]; rfl)
  | promote target htgt hbef => exact .inl (by rw [hbef]; rfl)
  | verify hbef =>
    refine .inl ?_
    rcases hbef with hbef | hbef <;> rw [hbef] <;> rfl
  | finish target htgt hfresh hvip hdhcp hph =>
    rw [hph] at hrel
    cases hrel

theorem releaseObserved_step (hobserved : ReleaseObserved h s) :
    ReleaseObserved ((s, e) :: h) (step s e) := by
  intro hman m hm hoper hrunning hrel
  rw [step_piholeManagesDhcp] at hman
  rcases Decidable.em (m ∈ s.cluster.maintenanceRuns.ids) with hold | hnew
  · rw [operation_step hold] at hoper
    have hlater (hbef : (s.cluster.maintenanceRun m).phase.isReleased = true)
        (hstat : (s.cluster.maintenanceRun m).status = .running) :
        OnceSince (StartsOver m) (ObservesRelease m) ((s, e) :: h) :=
      .later (not_startsOver hrel) (hobserved hman m hold hoper hstat hbef)
    cases @reinitialisation_step s e m hold hoper with
    | same hrow => exact hlater (hrow ▸ hrel) (hrow ▸ hrunning)
    | advanced inputs hact hstat hmove =>
      rcases released_of_move hmove hman hrel with
        hbef | ⟨target, standby, htgt, hstby, hseen⟩
      · exact hlater hbef hstat
      · exact .now ⟨inputs, target, standby, hact, htgt, hstby, hseen⟩
    | answered phase hafter hph hstat =>
      exact hlater (isReleased_of_answered hoper hafter (hph ▸ hrel))
        (hstat.symm.trans hrunning)
  · -- A run that has just been started is in the first phase.
    rcases maintenance_step s e with ⟨hids, -⟩ | hstart
    · exact absurd (hids ▸ hm) hnew
    · rw [hstart.ids, List.mem_append, List.mem_singleton] at hm
      obtain rfl := hm.resolve_left hnew
      rw [(hstart.new.reinitialise hoper).1] at hrel
      cases hrel

theorem releaseObserved_of_history (hinit : Initial s₀) (hh : haMachine.History s₀ h s) :
    ReleaseObserved h s := by
  refine hh.invariant (P := ReleaseObserved) ?_ fun _ _ _ ↦ releaseObserved_step
  intro _ m hm
  rw [hinit.maintenanceRuns] at hm
  exact absurd hm List.not_mem_nil

/-- A run that has ended is offered nothing, now and later. -/
theorem not_offered_of_ended (hm : m ∈ s₀.cluster.maintenanceRuns.ids)
    (hended : (s₀.cluster.maintenanceRun m).status.isActive = false)
    (hh : haMachine.History s₀ h s) {n : NodeId} {now : DateTime} {a : DhcpAction}
    (ha : desiredMaintenanceAction s.cluster n now = some a) (action : DhcpActionType)
    (k : NodeId) : a.actionId ≠ .maintenance m action k := by
  have hkept : m ∈ s.cluster.maintenanceRuns.ids ∧
      (s.cluster.maintenanceRun m).status.isActive = false := by
    refine hh.invariant (P := fun _ s ↦ m ∈ s.cluster.maintenanceRuns.ids ∧
      (s.cluster.maintenanceRun m).status.isActive = false) ⟨hm, hended⟩ fun _ s e hs ↦ ?_
    exact ⟨maintenanceRuns_grow hs.1, ended_step hs.1 hs.2⟩
  obtain ⟨j, hj, -, hshape, -⟩ := desiredMaintenanceAction_eq_some ha
  rw [hshape]
  intro heq
  obtain ⟨rfl, -, -⟩ := ActionId.maintenance.inj heq
  have hlive := (Table.newest?_eq_some hj).2
  exact absurd (hkept.2.symm.trans hlive) (by decide)

/-- **Reinitialisation is safe.** In every run of the system on a cluster that manages DHCP, for every
reinitialisation and every next step:

* `PROMOTING_ACTIVE` is entered only by an advance whose inspection since the start of the phase shows
  both nodes and the chosen node as the only owner of the Virtual IP, and only after an advance of the
  same run, since it last was in `WAITING_FOR_REPORTS`, saw the standby without DHCP;
* `SUCCEEDED` is entered only by an advance whose inspection shows both nodes and the chosen node as
  the only owner of the Virtual IP and of DHCP;
* after `FAILED_SAFE` no DHCP action of the run is ever offered again. -/
theorem reinitialisation_safe (hinit : Initial s₀) (hh : haMachine.History s₀ h s)
    (hman : piholeManagesDhcp s.cluster = true) (hm : m ∈ s.cluster.maintenanceRuns.ids)
    (hoper : (s.cluster.maintenanceRun m).operation = .reinitialise) (e : Event) :
    ((s.cluster.maintenanceRun m).phase ≠ .promotingActive →
      ((step s e).cluster.maintenanceRun m).phase = .promotingActive →
      ∃ inputs target, e.action = .advanceReinitialisation m inputs ∧
        (s.cluster.maintenanceRun m).desiredActiveNodeId = some target ∧
        (phaseInspection s.cluster (s.cluster.maintenanceRun m) inputs.stalled e.now).fresh = true ∧
        (phaseInspection s.cluster (s.cluster.maintenanceRun m) inputs.stalled e.now).vipOwnerIds =
          [target] ∧ OnceSince (StartsOver m) (ObservesRelease m) h) ∧
    ((s.cluster.maintenanceRun m).status ≠ .succeeded →
      ((step s e).cluster.maintenanceRun m).status = .succeeded →
      ∃ inputs target, e.action = .advanceReinitialisation m inputs ∧
        (s.cluster.maintenanceRun m).desiredActiveNodeId = some target ∧
        (phaseInspection s.cluster (s.cluster.maintenanceRun m) inputs.stalled e.now).fresh = true ∧
        (phaseInspection s.cluster (s.cluster.maintenanceRun m) inputs.stalled e.now).vipOwnerIds =
          [target] ∧
        (phaseInspection s.cluster (s.cluster.maintenanceRun m) inputs.stalled e.now).dhcpOwnerIds =
          [target]) ∧ ((s.cluster.maintenanceRun m).status = .failedSafe →
      ∀ h' s', haMachine.History s h' s' → ∀ n now a,
        desiredMaintenanceAction s'.cluster n now = some a →
        ∀ action k, a.actionId ≠ .maintenance m action k) := by
  refine ⟨fun hbef hafter ↦ ?_, fun hbef hafter ↦ ?_, fun hfailed h' s' hh' n now a ha ↦ ?_⟩
  · cases @reinitialisation_step s e m hm hoper with
    | same hrow => exact absurd (hrow ▸ hafter) hbef
    | advanced inputs hact hrunning hmove =>
      cases hmove with
      | promote target htgt hwait hfresh hvip hph hstat =>
        refine ⟨inputs, target, hact, htgt, hfresh, hvip, ?_⟩
        exact releaseObserved_of_history hinit hh hman m hm hoper hrunning
          (by rw [hwait]; rfl)
      | stay hph => exact absurd (hph.symm.trans hafter) hbef
      | prepare hph =>
        rw [hafter] at hph
        cases hph
      | stop hph => cases hph.symm.trans hafter
      | restart hph => cases hph.symm.trans hafter
      | released _ _ _ _ _ hph => cases hph.symm.trans hafter
      | rebuild _ hph => cases hph.symm.trans hafter
      | verify _ hph => cases hph.symm.trans hafter
      | finish _ _ _ _ _ hph => cases hph.symm.trans hafter
    | answered phase hresult hph =>
      rw [hph] at hafter
      unfold phaseAfterResult at hresult
      rw [if_neg (by rw [hoper]; decide), hafter] at hresult
      split at hresult <;> cases hresult
  · cases @reinitialisation_step s e m hm hoper with
    | same hrow => exact absurd (hrow ▸ hafter) hbef
    | advanced inputs hact hrunning hmove =>
      have hkept {run : HAMaintenanceRun}
          (hstat : run.status = (s.cluster.maintenanceRun m).status)
          (hrun : run = (step s e).cluster.maintenanceRun m) : False := by
        rw [hrun, hafter] at hstat
        exact hbef hstat.symm
      cases hmove with
      | finish target htgt hfresh hvip hdhcp =>
        exact ⟨inputs, target, hact, htgt, hfresh, hvip, hdhcp hman⟩
      | stop _ hstat => cases hstat.symm.trans hafter
      | stay _ hstat => exact (hkept hstat rfl).elim
      | prepare _ hstat => exact (hkept hstat rfl).elim
      | restart _ hstat => exact (hkept hstat rfl).elim
      | released _ _ _ _ _ _ hstat => exact (hkept hstat rfl).elim
      | rebuild _ _ hstat => exact (hkept hstat rfl).elim
      | promote _ _ _ _ _ _ hstat => exact (hkept hstat rfl).elim
      | verify _ _ hstat => exact (hkept hstat rfl).elim
    | answered phase hresult hph hstat => exact absurd (hstat.symm.trans hafter) hbef
  · have hended : (s.cluster.maintenanceRun m).status.isActive = false := by
      rw [hfailed]
      rfl
    exact fun action k ↦ not_offered_of_ended hm hended hh' ha action k

end Release

section Sample

/-- The second node has stopped DHCP, and the runtime is rebuilt around the first one, which owns the
Virtual IP and serves no DHCP. -/
def rebuiltRun : List Event :=
  demotingRun ++ [⟨0, .actionResult 2
        { actionId := .maintenance 1 .demote 2, actionType := .dhcp .demote, generation := 1
          status := .applied, checksum := some (.maintenanceAction .demote 1 1 2), message := "" }⟩,
      ⟨0, .heartbeat 2 (sampleHeartbeat false false 1)⟩, ⟨0, .advanceReinitialisation 1 {}⟩,
      ⟨0, .advanceReinitialisation 1 {}⟩, ⟨0, .observe 1 (sampleNode "first" true false 0 0)⟩,
      ⟨0, .observe 2 (sampleNode "second" false false 1 0)⟩]

theorem reinitialisation_safe_promoting :
    ((step (haMachine.run sampleSys rebuiltRun)
        ⟨0, .advanceReinitialisation 1 {}⟩).cluster.maintenanceRun 1).phase = .promotingActive ∧
      ∃ h, haMachine.History sampleSys h (haMachine.run sampleSys rebuiltRun) ∧
        OnceSince (StartsOver 1) (ObservesRelease 1) h := by
  have hafter : ((step (haMachine.run sampleSys rebuiltRun)
      ⟨0, .advanceReinitialisation 1 {}⟩).cluster.maintenanceRun 1).phase = .promotingActive := by
    decide +kernel
  obtain ⟨h, hh⟩ := Machine.History.run rebuiltRun (.nil : haMachine.History sampleSys [] sampleSys)
  obtain ⟨inputs, target, -, -, -, -, honce⟩ :=
    (reinitialisation_safe sampleSys_initial hh (by decide +kernel) (by decide +kernel : 1 ∈ _)
      (by decide +kernel) ⟨0, .advanceReinitialisation 1 {}⟩).1 (by decide +kernel) hafter
  exact ⟨hafter, h, hh, honce⟩

end Sample

end Kaya.HA
