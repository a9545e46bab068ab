import Kaya.HA.ReinitialisationSteps

/-!
# Automation settings across reinitialisations

A reinitialisation switches the automation of the cluster off and gives it back when it succeeds. In
between lies `previous_state_json` of its run. When an attempt fails, the settings stay switched off,
and the next attempt has to find the original ones in the row of the failed one: it looks at the
**latest maintenance run** and inherits from it if that is a failed reinitialisation.

So a reconciliation between two attempts breaks the chain: it becomes the latest run, the next attempt
takes a snapshot of the switched-off settings, and its success makes them permanent
(`settings_lost_after_reconciliation`). `InheritsLast` says that a start looks at the right run, and
`settings_survive` is the law for every run whose starts do.
-/

namespace Kaya.HA

open List

/-! ### Attempts in a history -/

/-- The reinitialisations, in the order in which they were started. -/
def reinitialisations (c : HACluster) : List RunId :=
  c.maintenanceRuns.ids.filter fun m ↦ (c.maintenanceRun m).operation = .reinitialise

/-- The most recently started reinitialisation. -/
def lastReinitialisation (c : HACluster) : Option RunId := (reinitialisations c).getLast?

/-- A reinitialisation is started in the transition. -/
def startsAttempt (t : Sys × Event) : Bool :=
  match t.2.action with
  | .startReinitialisation desiredActive authority acknowledged =>
    (startReinitialisation t.1.cluster desiredActive authority acknowledged t.2.now).isOk
  | _ => false

/-- A reinitialisation succeeds in the transition. -/
def endsSeries (t : Sys × Event) : Bool :=
  t.1.cluster.maintenanceRuns.ids.any fun m ↦
    (t.1.cluster.maintenanceRun m).operation = .reinitialise ∧
      (t.1.cluster.maintenanceRun m).status ≠ .succeeded ∧
      ((step t.1 t.2).cluster.maintenanceRun m).status = .succeeded

/-- The settings before the first attempt of the series that is open, if one is: a series begins with
an attempt and ends with a success. -/
def originalSettings : List (Sys × Event) → Option PreviousState
  | [] => none
  | t :: h =>
    if endsSeries t then none
    else match originalSettings h with
    | some settings => some settings
    | none => if startsAttempt t then some (snapshotState t.1.cluster) else none

/-- The run a start inherits from is the failed attempt it follows. -/
structure InheritsLast (c : HACluster) : Prop where
  finds : ∀ m, lastReinitialisation c = some m → (c.maintenanceRun m).status = .failedSafe →
    latestMaintenance c = some m
  only : ∀ m, latestMaintenance c = some m → (c.maintenanceRun m).operation = .reinitialise →
    (c.maintenanceRun m).status = .failedSafe → lastReinitialisation c = some m

instance (c : HACluster) : Decidable (InheritsLast c) :=
  decidable_of_iff
    ((∀ m ∈ lastReinitialisation c, (c.maintenanceRun m).status = .failedSafe →
        latestMaintenance c = some m) ∧
      ∀ m ∈ latestMaintenance c, (c.maintenanceRun m).operation = .reinitialise →
        (c.maintenanceRun m).status = .failedSafe → lastReinitialisation c = some m)
    ⟨fun h ↦ ⟨h.1, h.2⟩, fun h ↦ ⟨h.finds, h.only⟩⟩

/-- A start of a reinitialisation looks at the right run. -/
def KeepsSettings (s : Sys) (e : Event) : Prop :=
  startsAttempt (s, e) = true → InheritsLast s.cluster

instance (s : Sys) (e : Event) : Decidable (KeepsSettings s e) :=
  inferInstanceAs (Decidable (startsAttempt (s, e) = true → InheritsLast s.cluster))

/-! ### The settings a success gives back -/

section Finish

variable {c : HACluster} {m : RunId} {now : DateTime} {target standby : NodeId}
  {inputs : ReinitialisationInputs}

/-- A run that succeeds gives back the settings it has kept. -/
def GivesBack (c : HACluster) (m : RunId) (c' : HACluster) : Prop :=
  (c.maintenanceRun m).status ≠ .succeeded → (c'.maintenanceRun m).status = .succeeded →
    snapshotState c' = (c.maintenanceRun m).previousState

theorem GivesBack.of_status {c' : HACluster}
    (h : (c'.maintenanceRun m).status = (c.maintenanceRun m).status) : GivesBack c m c' :=
  fun hbef hafter ↦ absurd (h.symm.trans hafter) hbef

theorem GivesBack.setPhase (phase : MaintenancePhase) : GivesBack c m (setPhase c m phase now) :=
  .of_status (setPhase_status phase)

theorem GivesBack.failSafe {c₁ : HACluster} (message : String) :
    GivesBack c m (failSafe c₁ m message) := by
  intro _ hafter
  rw [Kaya.HA.failSafe, modifyMaintenance_row] at hafter
  cases hafter

theorem awaitReports_givesBack : GivesBack c m (awaitReports c m target inputs now) := by
  have hrow : ((c.modifyMaintenance m fun run ↦ { run with result := {} }).maintenanceRun m) =
      { c.maintenanceRun m with result := {} } := modifyMaintenance_row _ _ _
  unfold awaitReports
  dsimp only
  split
  · exact .of_status (by rw [hrow])
  split
  · intro _ _
    rw [finishReinitialisation, hrow]
    rfl
  · refine .of_status ?_
    rw [setPhase_status, hrow]

theorem stageDhcp_givesBack : GivesBack c m (stageDhcp c m inputs now) := by
  obtain ⟨hruns, -, -⟩ := persistLeasePlan_maintenance c now (inspectClusterLeases c inputs.leases)
  unfold stageDhcp reconcileClusterLeases
  split <;> rename_i c' hpersist <;> rw [hpersist] at hruns
  · exact .failSafe _
  split
  · exact .failSafe _
  · exact .of_status (by rw [setPhase_status, HACluster.maintenanceRun, hruns])

theorem awaitRebuild_givesBack : GivesBack c m (awaitRebuild c m target inputs now) := by
  unfold awaitRebuild
  dsimp only
  split
  · exact .failSafe _
  split
  · exact .of_status rfl
  split
  · split
    · exact .failSafe _
    · exact .of_status rfl
  split
  · exact .setPhase _
  · exact .setPhase _

/-- The phase that completes the run gives its settings back. -/
theorem reinitialisationPhase_givesBack :
    GivesBack c m (reinitialisationPhase c m target standby inputs now) := by
  unfold reinitialisationPhase
  split
  · exact awaitReports_givesBack
  · unfold backUp
    dsimp only
    split
    · exact .failSafe _
    · exact .failSafe _
    · exact .of_status (setPhase_status _)
  · unfold synchronise
    split
    · exact .failSafe _
    · exact .setPhase _
  · exact stageDhcp_givesBack
  · split
    · exact .setPhase _
    · exact .of_status rfl
  · split
    · exact .setPhase _
    · exact .setPhase _
  · unfold verifyDhcpRelease
    split
    · exact .of_status (by rw [modifyMaintenance_row]; exact setPhase_status _)
    split
    · exact .failSafe _
    · exact .of_status rfl
  · exact .of_status (setPhase_status _)
  · exact awaitRebuild_givesBack
  · unfold verifyDhcpActivation
    dsimp only
    split
    · exact .of_status (by rw [modifyMaintenance_row]; exact setPhase_status _)
    split
    · exact .failSafe _
    · exact .of_status rfl
  · unfold verifyInvariants
    split
    · exact fun _ _ ↦ rfl
    split
    · exact .failSafe _
    · exact .of_status rfl
  · exact .of_status rfl

theorem advanceReinitialisation_givesBack {processStartedAt : DateTime} :
    GivesBack c m (advanceReinitialisation c m inputs processStartedAt now) := by
  unfold advanceReinitialisation
  dsimp only
  split
  · exact .of_status rfl
  split
  · exact .failSafe _
  split
  · exact .of_status rfl
  split
  · exact .of_status (by rw [modifyMaintenance_row]; exact setPhase_status _)
  · exact reinitialisationPhase_givesBack

end Finish

/-! ### The most recent attempt -/

section Last

variable {c c' : HACluster} {m : RunId} {s : Sys} {e : Event}

theorem mem_reinitialisations : m ∈ reinitialisations c ↔
    m ∈ c.maintenanceRuns.ids ∧ (c.maintenanceRun m).operation = .reinitialise := by
  simp [reinitialisations]

/-- Where the old runs keep their operation, the new ones decide. -/
theorem reinitialisations_append {new : List RunId}
    (hids : c'.maintenanceRuns.ids = c.maintenanceRuns.ids ++ new)
    (hold : ∀ m ∈ c.maintenanceRuns.ids,
      (c'.maintenanceRun m).operation = (c.maintenanceRun m).operation) :
    reinitialisations c' = reinitialisations c ++
      new.filter fun m ↦ (c'.maintenanceRun m).operation = .reinitialise := by
  rw [reinitialisations, hids, filter_append]
  congr 1
  refine filter_congr fun m hm ↦ ?_
  rw [hold m hm]

theorem reinitialisations_of_ids
    (hids : (step s e).cluster.maintenanceRuns.ids = s.cluster.maintenanceRuns.ids) :
    reinitialisations (step s e).cluster = reinitialisations s.cluster := by
  have happend : (step s e).cluster.maintenanceRuns.ids = s.cluster.maintenanceRuns.ids ++ [] := by
    rw [hids, append_nil]
  rw [reinitialisations_append happend fun m hm ↦ operation_step hm, filter_nil, append_nil]

theorem reinitialisations_of_other {run : HAMaintenanceRun}
    (hids : (step s e).cluster.maintenanceRuns.ids =
      s.cluster.maintenanceRuns.ids ++ [s.cluster.maintenanceRuns.freshKey])
    (hnew : (step s e).cluster.maintenanceRun s.cluster.maintenanceRuns.freshKey = run)
    (hother : run.operation ≠ .reinitialise) :
    reinitialisations (step s e).cluster = reinitialisations s.cluster := by
  rw [reinitialisations_append hids fun m hm ↦ operation_step hm, filter_singleton, hnew]
  simp [hother]

/-- Only an accepted start adds an attempt. -/
theorem reinitialisations_step (h : startsAttempt (s, e) = false) :
    reinitialisations (step s e).cluster = reinitialisations s.cluster := by
  cases maintenance_change s e with
  | same hruns => exact reinitialisations_of_ids (by rw [hruns])
  | reconciled k stalled hk hact hc' =>
    exact reinitialisations_of_ids (by rw [hc']; exact reconcileClusterState_effect.ids)
  | reinitialised k inputs hk hact hc' =>
    exact reinitialisations_of_ids (by rw [hc']; exact advanceReinitialisation_effect.ids)
  | healed k hk hact hc' =>
    exact reinitialisations_of_ids (by rw [hc']; exact advanceDhcpSelfHeal_effect.ids)
  | answered n result action c₁ hact hok hc' =>
    obtain ⟨k, hk, heffect⟩ := recordMaintenanceActionResult_effect hok
    exact reinitialisations_of_ids (by rw [hc']; exact heffect.ids)
  | startedReconciliation hact hok =>
    obtain ⟨-, -, hc'⟩ := startReconciliation_eq_ok hok
    refine reinitialisations_of_other ?_ rfl ?_
    · rw [hc']
      rfl
    · rw [hc', insertMaintenance, HACluster.maintenanceRun, Table.insert_row_fresh]
      exact MaintenanceOperation.noConfusion
  | startedReinitialisation desiredActive authority acknowledged hact hok =>
    simp [startsAttempt, hact, hok, Except.isOk, Except.toBool] at h
  | evaluated forceRetry hact hc' =>
    cases startDhcpSelfHeal_evaluation s.cluster forceRetry e.now with
    | refused _ hsame => exact reinitialisations_of_ids (by rw [hc', hsame])
    | quiet _ hquiet =>
      have hidle := clearChangedDhcpFailureLatches_idle (c := s.cluster)
        (evaluatedFingerprint s.cluster e.now)
      exact reinitialisations_of_ids (by rw [hc', hquiet]; exact hidle.ids)
    | started c₁ run repair node _ hidle _ _ _ hoper _ _ hstarted =>
      have hids₁ : c₁.maintenanceRuns.ids = s.cluster.maintenanceRuns.ids :=
        hidle.ids.trans (clearChangedDhcpFailureLatches_idle _).ids
      have hfresh : c₁.maintenanceRuns.freshKey = s.cluster.maintenanceRuns.freshKey := by
        rw [Table.freshKey, Table.freshKey, hids₁]
      have hother : run.operation ≠ .reinitialise := by
        rw [hoper]
        decide
      refine reinitialisations_of_other ?_ ?_ hother
      · rw [hc', hstarted, ← hfresh, ← hids₁]
        rfl
      · rw [hc', hstarted, ← hfresh]
        exact Table.insert_row_fresh _ _

/-- What an accepted start does. -/
structure Attempts (c c' : HACluster) : Prop where
  noMaintenance : activeMaintenance c = none
  old : ∀ m ∈ c.maintenanceRuns.ids, c'.maintenanceRun m = c.maintenanceRun m
  mem : ∀ m ∈ c'.maintenanceRuns.ids, m ∈ c.maintenanceRuns.ids ∨ lastReinitialisation c' = some m
  last : ∃ m, lastReinitialisation c' = some m ∧ (c'.maintenanceRun m).status = .running ∧
    (c'.maintenanceRun m).previousState = inheritedState c

theorem attempts_of_starts (h : startsAttempt (s, e) = true) :
    Attempts s.cluster (step s e).cluster := by
  obtain ⟨now, a⟩ := e
  unfold startsAttempt at h
  dsimp only at h
  split at h
  · rename_i desiredActive authority acknowledged
    rcases hstart : startReinitialisation s.cluster desiredActive authority acknowledged now with
      message | c'
    · rw [hstart] at h
      cases h
    have hstep : (step s ⟨now, .startReinitialisation desiredActive authority acknowledged⟩).cluster
        = c' := by
      rw [step_cluster]
      dsimp only [clusterStep]
      rw [hstart]
      rfl
    obtain ⟨-, hmaint, -, hc'⟩ := startReinitialisation_eq_ok hstart
    have hold : ∀ m ∈ s.cluster.maintenanceRuns.ids,
        c'.maintenanceRun m = s.cluster.maintenanceRun m := fun m hm ↦
      startReinitialisation_row hstart hm
    have hids : c'.maintenanceRuns.ids =
        s.cluster.maintenanceRuns.ids ++ [s.cluster.maintenanceRuns.freshKey] := by
      rw [hc']
      rfl
    have hrow : c'.maintenanceRun s.cluster.maintenanceRuns.freshKey =
        { operation := .reinitialise, status := .running, phase := .waitingForReports
          desiredActiveNodeId := some desiredActive, authoritativeNodeId := some authority
          previousState := inheritedState s.cluster
          phaseStartedAt := now, startedAt := now, createdAt := now } := by
      rw [hc', insertMaintenance, HACluster.maintenanceRun]
      exact Table.insert_row_fresh _ _
    have hlast : lastReinitialisation c' = some s.cluster.maintenanceRuns.freshKey := by
      rw [lastReinitialisation, reinitialisations_append hids fun m hm ↦ by rw [hold m hm],
        filter_singleton, hrow]
      simp
    rw [hstep]
    refine ⟨hmaint, hold, fun m hm ↦ ?_, _, hlast, by rw [hrow], by rw [hrow]⟩
    rw [hids] at hm
    rcases mem_append.1 hm with hm | hm
    · exact .inl hm
    · rw [mem_singleton.1 hm]
      exact .inr hlast
  · cases h

end Last

/-! ### The settings over a history -/

/-- The invariant: while a series of attempts is open, its most recent run has kept the settings
before the first one; and only that run can be running. -/
structure SettingsKept (h : List (Sys × Event)) (s : Sys) : Prop where
  sole : ∀ m ∈ reinitialisations s.cluster, (s.cluster.maintenanceRun m).status = .running →
    lastReinitialisation s.cluster = some m
  closed : lastReinitialisation s.cluster = none → originalSettings h = none
  last : ∀ m, lastReinitialisation s.cluster = some m →
    ((s.cluster.maintenanceRun m).status = .succeeded ∧ originalSettings h = none) ∨
    (((s.cluster.maintenanceRun m).status = .running ∨
        (s.cluster.maintenanceRun m).status = .failedSafe) ∧
      originalSettings h = some (s.cluster.maintenanceRun m).previousState)

section History

variable {s : Sys} {e : Event} {h : List (Sys × Event)} {m : RunId}

/-- Only an advance ends a running attempt, and only with success or a safe stop. -/
theorem reinitialisation_status (hm : m ∈ reinitialisations s.cluster) :
    ((step s e).cluster.maintenanceRun m).status = (s.cluster.maintenanceRun m).status ∨
      ((s.cluster.maintenanceRun m).status = .running ∧
        (∃ inputs, e.action = .advanceReinitialisation m inputs) ∧
        (((step s e).cluster.maintenanceRun m).status = .failedSafe ∨
          ((step s e).cluster.maintenanceRun m).status = .succeeded)) := by
  obtain ⟨hmem, hoper⟩ := mem_reinitialisations.1 hm
  cases @reinitialisation_step s e m hmem hoper with
  | same hrow => exact .inl (by rw [hrow])
  | answered phase _ _ hstat => exact .inl hstat
  | advanced inputs hact hrun hmove =>
    cases hmove with
    | stay _ hstat => exact .inl hstat
    | stop _ hstat => exact .inr ⟨hrun, ⟨inputs, hact⟩, .inl hstat⟩
    | restart _ hstat => exact .inl hstat
    | prepare _ hstat => exact .inl hstat
    | released _ _ _ _ _ _ hstat => exact .inl hstat
    | rebuild _ _ hstat => exact .inl hstat
    | promote _ _ _ _ _ _ hstat => exact .inl hstat
    | verify _ _ hstat => exact .inl hstat
    | finish _ _ _ _ _ _ hstat => exact .inr ⟨hrun, ⟨inputs, hact⟩, .inr hstat⟩

theorem previousState_step (hm : m ∈ s.cluster.maintenanceRuns.ids) :
    ((step s e).cluster.maintenanceRun m).previousState =
      (s.cluster.maintenanceRun m).previousState :=
  (maintenanceRun_evolves hm).previous

theorem endsSeries_eq_true : endsSeries (s, e) = true ↔ ∃ m ∈ reinitialisations s.cluster,
    (s.cluster.maintenanceRun m).status ≠ .succeeded ∧
      ((step s e).cluster.maintenanceRun m).status = .succeeded := by
  simp only [endsSeries, any_eq_true, decide_eq_true_eq, mem_reinitialisations]
  constructor
  · rintro ⟨m, hm, hoper, hbef, hafter⟩
    exact ⟨m, ⟨hm, hoper⟩, hbef, hafter⟩
  · rintro ⟨m, ⟨hm, hoper⟩, hbef, hafter⟩
    exact ⟨m, hm, hoper, hbef, hafter⟩

/-- A start keeps the settings of the series it continues, and begins a series with those of the
cluster. -/
theorem SettingsKept.inherits (hkept : SettingsKept h s) (hlast : InheritsLast s.cluster)
    (hidle : activeMaintenance s.cluster = none) :
    (originalSettings h).getD (snapshotState s.cluster) = inheritedState s.cluster := by
  have hended (m : RunId) (hm : m ∈ s.cluster.maintenanceRuns.ids) :
      (s.cluster.maintenanceRun m).status ≠ .running := by
    refine ne_running_of_ended ?_
    exact Table.newest?_eq_none_iff.1 hidle m hm
  -- the settings are the cluster's own unless the latest run is a failed attempt
  have hown (h' : ∀ m, lastReinitialisation s.cluster = some m →
      (s.cluster.maintenanceRun m).status ≠ .failedSafe) :
      inheritedState s.cluster = snapshotState s.cluster := by
    unfold inheritedState
    rcases hlatest : latestMaintenance s.cluster with - | k
    · rfl
    · dsimp only [Option.map]
      rw [if_neg]
      rintro ⟨hoper, hstat⟩
      exact h' k (hlast.only k hlatest hoper hstat) hstat
  rcases hm : lastReinitialisation s.cluster with - | m
  · rw [hkept.closed hm, hown fun m h' ↦ absurd (hm.symm.trans h') (by simp)]
    rfl
  obtain ⟨hmem, hoper⟩ := mem_reinitialisations.1 (mem_of_getLast? hm)
  rcases hkept.last m hm with ⟨hstat, horig⟩ | ⟨hrun | hstat, horig⟩
  · rw [horig, hown fun k h' ↦ ?_]
    · rfl
    · obtain rfl : m = k := Option.some.inj (hm.symm.trans h')
      rw [hstat]
      decide
  · exact absurd hrun (hended m hmem)
  · rw [horig, inheritedState, hlast.finds m hm hstat]
    dsimp only [Option.map]
    rw [if_pos ⟨hoper, hstat⟩]
    rfl

theorem SettingsKept.started (hkept : SettingsKept h s) (hlast : InheritsLast s.cluster)
    (hstarts : startsAttempt (s, e) = true) : SettingsKept ((s, e) :: h) (step s e) := by
  have hattempts := attempts_of_starts hstarts
  have hopen : endsSeries (s, e) = false := by
    by_contra hends
    obtain ⟨m, hm, hbef, hafter⟩ := endsSeries_eq_true.1 (Bool.not_eq_false _ ▸ hends)
    rw [hattempts.old m (mem_reinitialisations.1 hm).1] at hafter
    exact hbef hafter
  have horig : originalSettings ((s, e) :: h) = some (inheritedState s.cluster) := by
    rw [← hkept.inherits hlast hattempts.noMaintenance, originalSettings, hopen]
    rcases originalSettings h with - | settings
    · simp [hstarts]
    · simp
  obtain ⟨k, hk, hstat, hprev⟩ := hattempts.last
  refine ⟨fun m hm hrun ↦ ?_, fun hnone ↦ ?_, fun m hm ↦ .inr ?_⟩
  · rcases hattempts.mem m (mem_reinitialisations.1 hm).1 with hold | hnew
    · rw [hattempts.old m hold] at hrun
      have hended := Table.newest?_eq_none_iff.1 hattempts.noMaintenance m hold
      exact absurd hrun (ne_running_of_ended hended)
    · exact hnew
  · cases hk.symm.trans hnone
  · obtain rfl : k = m := Option.some.inj (hk.symm.trans hm)
    rw [horig, hprev]
    exact ⟨.inl hstat, rfl⟩

/-- A step that starts no attempt. -/
theorem SettingsKept.continued (hkept : SettingsKept h s)
    (hstarts : startsAttempt (s, e) = false) : SettingsKept ((s, e) :: h) (step s e) := by
  have hruns := reinitialisations_step hstarts
  have hlast : lastReinitialisation (step s e).cluster = lastReinitialisation s.cluster := by
    rw [lastReinitialisation, hruns, ← lastReinitialisation]
  have horig : originalSettings ((s, e) :: h) =
      if endsSeries (s, e) then none else originalSettings h := by
    rw [originalSettings, hstarts]
    rcases originalSettings h with - | settings
    · simp
    · rfl
  refine ⟨fun m hm hrun ↦ ?_, fun hnone ↦ ?_, fun m hm ↦ ?_⟩
  · rw [hruns] at hm
    rw [hlast]
    refine hkept.sole m hm ?_
    rcases @reinitialisation_status s e m hm with hsame | ⟨hbef, -, -⟩
    · rw [← hsame, hrun]
    · exact hbef
  · rw [hlast] at hnone
    rw [horig, hkept.closed hnone, ite_self]
  rw [hlast] at hm
  have hmem := mem_of_getLast? hm
  have hmem' := (mem_reinitialisations.1 hmem).1
  rw [horig, previousState_step hmem']
  by_cases hends : endsSeries (s, e) = true
  · -- the run that succeeds is the most recent one
    obtain ⟨k, hk, hbef, hafter⟩ := endsSeries_eq_true.1 hends
    rw [if_pos hends]
    rcases @reinitialisation_status s e k hk with hsame | ⟨hrun, -, -⟩
    · exact absurd (hsame.symm.trans hafter) hbef
    · obtain rfl : k = m := Option.some.inj ((hkept.sole k hk hrun).symm.trans hm)
      exact .inl ⟨hafter, rfl⟩
  · rw [if_neg hends]
    have hfailed (hbef : (s.cluster.maintenanceRun m).status ≠ .succeeded) :
        ((step s e).cluster.maintenanceRun m).status ≠ .succeeded := fun hafter ↦
      hends (endsSeries_eq_true.2 ⟨m, hmem, hbef, hafter⟩)
    rcases hkept.last m hm with ⟨hstat, hnone⟩ | ⟨hstat, hsome⟩
    · rcases @reinitialisation_status s e m hmem with hsame | ⟨hrun, -, -⟩
      · exact .inl ⟨hsame.trans hstat, hnone⟩
      · rw [hstat] at hrun
        cases hrun
    · refine .inr ⟨?_, hsome⟩
      rcases @reinitialisation_status s e m hmem with hsame | ⟨hrun, -, hstop | hdone⟩
      · rw [hsame]
        exact hstat
      · exact .inr hstop
      · exact absurd hdone (hfailed (by rw [hrun]; decide))

theorem settings_kept {s₀ : Sys} (hinit : Initial s₀) (hh : haMachine.History s₀ h s)
    (hkeeps : ∀ t ∈ h, KeepsSettings t.1 t.2) : SettingsKept h s := by
  induction hh with
  | nil =>
    have hnone : reinitialisations s₀.cluster = [] := by
      rw [reinitialisations, hinit.maintenanceRuns]
      rfl
    refine ⟨fun m hm ↦ ?_, fun _ ↦ rfl, fun m hm ↦ ?_⟩
    · rw [hnone] at hm
      cases hm
    · rw [lastReinitialisation, hnone] at hm
      cases hm
  | @cons h s e _ ih =>
    have hkept := ih fun t ht ↦ hkeeps t (mem_cons_of_mem _ ht)
    rcases hstarts : startsAttempt (s, e) with - | -
    · exact hkept.continued hstarts
    · exact hkept.started (hkeeps (s, e) mem_cons_self hstarts) hstarts

/-- **Settings survive.** In a run whose attempts look at the right row, a reinitialisation that
succeeds leaves the settings as they were before the first attempt since the last success. -/
theorem settings_survive {s₀ : Sys} (hinit : Initial s₀) (hh : haMachine.History s₀ h s)
    (hkeeps : ∀ t ∈ h, KeepsSettings t.1 t.2) (hm : m ∈ s.cluster.maintenanceRuns.ids)
    (hoper : (s.cluster.maintenanceRun m).operation = .reinitialise)
    (hbef : (s.cluster.maintenanceRun m).status ≠ .succeeded)
    (hafter : ((step s e).cluster.maintenanceRun m).status = .succeeded) :
    originalSettings h = some (snapshotState (step s e).cluster) := by
  have hkept := settings_kept hinit hh hkeeps
  have hmem := mem_reinitialisations.2 ⟨hm, hoper⟩
  rcases @reinitialisation_status s e m hmem with hsame | ⟨hrun, ⟨inputs, hact⟩, -⟩
  · exact absurd (hsame.symm.trans hafter) hbef
  have hstep : (step s e).cluster =
      advanceReinitialisation s.cluster m inputs s.processStartedAt e.now := by
    rw [step_cluster, hact]
    exact if_pos hm
  rw [hstep] at hafter ⊢
  rw [advanceReinitialisation_givesBack hbef hafter]
  rcases hkept.last m (hkept.sole m hmem hrun) with ⟨hstat, -⟩ | ⟨-, horig⟩
  · exact absurd hstat hbef
  · exact horig

end History

section Sample

/-- The sample cluster, with its automation switched on. -/
def automatedSys : Sys :=
  { sampleSys with cluster :=
      { sampleCluster with automaticFailoverEnabled := true, automaticSyncEnabled := true } }

/-- Both nodes are heard, and the first one owns the Virtual IP and DHCP. -/
def settledReports (now : DateTime) : List Event :=
  [⟨now, .heartbeat 1 (sampleHeartbeat true true 0)⟩,
    ⟨now, .heartbeat 2 (sampleHeartbeat false false 0)⟩]

/-- A reinitialisation that would move ownership stops, since there is no backup. -/
def abandonedRun : List Event :=
  ⟨0, .startReinitialisation 2 1 true⟩ :: settledReports 0 ++ [⟨0, .advanceReinitialisation 1 {}⟩,
      ⟨0, .advanceReinitialisation 1 { backup := .error "no backup" }⟩]

/-- The next attempt finds everything in place. -/
def reattemptedRun : List Event :=
  abandonedRun ++ ⟨seconds 1, .startReinitialisation 1 1 true⟩ :: settledReports (seconds 1)

theorem settings_survive_retry :
    ((haMachine.run automatedSys reattemptedRun).cluster.maintenanceRun 1).status = .failedSafe ∧
      (step (haMachine.run automatedSys reattemptedRun)
        ⟨seconds 1, .advanceReinitialisation 2 {}⟩).cluster.automaticFailoverEnabled = true := by
  have hinit : Initial automatedSys :=
    ⟨rfl, rfl, rfl, rfl, rfl, rfl, le_rfl, rfl, fun _ ↦ rfl, fun _ ↦ rfl, rfl⟩
  have hh := Machine.History.trace reattemptedRun
    (.nil : haMachine.History automatedSys [] automatedSys)
  have hsettings := settings_survive (e := ⟨seconds 1, .advanceReinitialisation 2 {}⟩) hinit hh
    (by decide +kernel) (by decide +kernel : 2 ∈ _) (by decide +kernel) (by decide +kernel)
    (by decide +kernel)
  have horig : originalSettings (haMachine.trace [] automatedSys reattemptedRun) =
      some ⟨true, true, false⟩ := by
    decide +kernel
  have henab := congrArg PreviousState.automaticFailoverEnabled
    (Option.some.inj (hsettings.symm.trans horig))
  exact ⟨by decide +kernel, henab⟩

/-- A reconciliation between the attempts. -/
def reconciledRun : List Event :=
  abandonedRun ++ ⟨seconds 1, .startReconciliation⟩ :: settledReports (seconds 1) ++
    ⟨seconds 1, .reconcileClusterState 2 fun _ ↦ none⟩ ::
    ⟨seconds 2, .startReinitialisation 1 1 true⟩ :: settledReports (seconds 2)

/-- **A reconciliation hides the failed attempt.** The next attempt takes the switched-off settings
for those of the operator, and its success makes them permanent. -/
theorem settings_lost_after_reconciliation :
    Initial automatedSys ∧
      haMachine.History automatedSys (haMachine.trace [] automatedSys reconciledRun)
        (haMachine.run automatedSys reconciledRun) ∧
      ((haMachine.run automatedSys reconciledRun).cluster.maintenanceRun 1).status = .failedSafe ∧
      ((haMachine.run automatedSys reconciledRun).cluster.maintenanceRun 3).status = .running ∧
      ((step (haMachine.run automatedSys reconciledRun)
        ⟨seconds 2, .advanceReinitialisation 3 {}⟩).cluster.maintenanceRun 3).status = .succeeded ∧
      originalSettings (haMachine.trace [] automatedSys reconciledRun) = some ⟨true, true, false⟩ ∧
      snapshotState (step (haMachine.run automatedSys reconciledRun)
        ⟨seconds 2, .advanceReinitialisation 3 {}⟩).cluster = ⟨false, false, false⟩ := by
  refine ⟨⟨rfl, rfl, rfl, rfl, rfl, rfl, le_rfl, rfl, fun _ ↦ rfl, fun _ ↦ rfl, rfl⟩,
    Machine.History.trace reconciledRun .nil, ?_⟩
  decide +kernel

end Sample

end Kaya.HA
