import Kaya.HA.MaintenanceRows

/-!
# One bounded repair attempt

A DHCP self-heal is one attempt. When it fails, its row keeps a latch with the fingerprint of the
topology it was made for, and no automatic evaluation starts another attempt for the same drift while
the latch stands. The latch lives in the row of a run that has ended and is cleared by a different
function than the one that reads it: an evaluation first clears every latch whose fingerprint is not
the current one and then looks for a latch with its own drift signature.

`SelfHealEvaluation` is what an evaluation can do, `Latched` the row of a failed attempt.
`selfHeal_bounded` is the law over runs: no second attempt for a drift before some evaluation has
seen another topology.
-/

namespace Kaya.HA

open Option

/-- The fingerprint an evaluation computes. -/
def evaluatedFingerprint (c : HACluster) (now : DateTime) : Digest :=
  dhcpTopologyFingerprint c (reconcileTopology c (.topology now)) now

/-- The drift a repair was started for: its signature and the fingerprint of its topology. -/
def HAMaintenanceRun.drift (run : HAMaintenanceRun) : Option Digest × Option Digest :=
  (run.result.driftSignature, run.result.topologyFingerprint)

/-- What `start_dhcp_self_heal` can do. -/
inductive SelfHealEvaluation (c : HACluster) (forceRetry : Bool) (now : DateTime) (c' : HACluster) :
    Prop
  /-- The cluster is not in a state to be looked at. -/
  | refused (hallow : selfHealAllowed c = false) (hc' : c' = c)
  /-- Changed latches are cleared, and no attempt is started. -/
  | quiet (hallow : selfHealAllowed c = true)
      (hc' : c' = clearChangedDhcpFailureLatches c (evaluatedFingerprint c now))
  /-- An attempt is started; an automatic one only where no latch has its signature. -/
  | started (c₁ : HACluster) (run : HAMaintenanceRun) (repair : RepairType) (node : NodeId)
      (hallow : selfHealAllowed c = true)
      (hidle : MaintenanceIdle (clearChangedDhcpFailureLatches c (evaluatedFingerprint c now)) c₁)
      (hdrift : ∀ m, (c₁.maintenanceRun m).drift = (c.maintenanceRun m).drift)
      (hothers : ∀ m, isFailedSelfHeal (c.maintenanceRun m) = false →
        c₁.maintenanceRun m = c.maintenanceRun m)
      (hautomatic : forceRetry = false → c₁.maintenanceRuns =
          (clearChangedDhcpFailureLatches c (evaluatedFingerprint c now)).maintenanceRuns ∧
        matchingDhcpFailureLatch (clearChangedDhcpFailureLatches c (evaluatedFingerprint c now))
          (.drift repair node (evaluatedFingerprint c now)) = none)
      (hoper : run.operation = .dhcpSelfHeal)
      (hsig : run.result.driftSignature = some (.drift repair node (evaluatedFingerprint c now)))
      (hprint : run.result.topologyFingerprint = some (evaluatedFingerprint c now))
      (hc' : c' = insertMaintenance { c₁ with maintenanceMode := true } run)

section Evaluation

variable {c : HACluster} {m : RunId} {now : DateTime}

/-- The row of a run after changed latches have been cleared. -/
theorem clearChangedDhcpFailureLatches_row (fingerprint : Digest) (m : RunId) :
    (clearChangedDhcpFailureLatches c fingerprint).maintenanceRun m = c.maintenanceRun m ∨
      isFailedSelfHeal (c.maintenanceRun m) = true ∧
        (c.maintenanceRun m).result.topologyFingerprint ≠ some fingerprint ∧
        (clearChangedDhcpFailureLatches c fingerprint).maintenanceRun m =
          { c.maintenanceRun m with
            result := { (c.maintenanceRun m).result with latchActive := false } } := by
  unfold clearChangedDhcpFailureLatches
  simp only [HACluster.maintenanceRun, Table.mapRows_row]
  split
  · split <;> rename_i hchg
    · exact .inr ⟨hchg.1, hchg.2.2, rfl⟩
    · exact .inl rfl
  · exact .inl rfl

theorem clearChangedDhcpFailureLatches_drift (fingerprint : Digest) (m : RunId) :
    ((clearChangedDhcpFailureLatches c fingerprint).maintenanceRun m).drift =
      (c.maintenanceRun m).drift := by
  rcases clearChangedDhcpFailureLatches_row fingerprint m with hsame | ⟨-, -, hcleared⟩
  · rw [hsame]
  · rw [hcleared]
    rfl

theorem clearChangedDhcpFailureLatches_of_not_failed (fingerprint : Digest)
    (h : isFailedSelfHeal (c.maintenanceRun m) = false) :
    (clearChangedDhcpFailureLatches c fingerprint).maintenanceRun m = c.maintenanceRun m := by
  rcases clearChangedDhcpFailureLatches_row fingerprint m with hsame | ⟨hfailed, -, -⟩
  · exact hsame
  · exact absurd (h.symm.trans hfailed) (by decide)

/-- **Inversion** of an evaluation. -/
theorem startDhcpSelfHeal_evaluation (c : HACluster) (forceRetry : Bool) (now : DateTime) :
    SelfHealEvaluation c forceRetry now (startDhcpSelfHeal c forceRetry now) := by
  unfold startDhcpSelfHeal
  split <;> rename_i hallow
  · exact .refused (by simpa using hallow) rfl
  have hpos : selfHealAllowed c = true := by simpa using hallow
  dsimp only
  rw [← evaluatedFingerprint]
  split
  · exact .quiet hpos rfl
  split
  · exact .quiet hpos rfl
  rename_i node action hrepair
  generalize (if action = .promote then RepairType.activeDhcpConfigurationRepair
    else .standbyDhcpConfigurationRepair) = repair
  split <;> rename_i hlatched
  · exact .quiet hpos rfl
  refine .started _ _ repair node hpos ?_ ?_ ?_ ?_ rfl rfl rfl rfl
  · split
    · exact .of_eq rfl
    · rename_i latch hlatch
      have hfailed := (Table.newest?_eq_some hlatch).2
      simp only [decide_eq_true_eq] at hfailed
      exact unlatch_idle hfailed.1
  · intro m
    split
    · exact clearChangedDhcpFailureLatches_drift _ m
    · refine Eq.trans ?_ (clearChangedDhcpFailureLatches_drift (evaluatedFingerprint c now) m)
      simp only [HACluster.maintenanceRun, HACluster.modifyMaintenance, Table.modify_row]
      split <;> rfl
  · intro m hm
    split
    · exact clearChangedDhcpFailureLatches_of_not_failed _ hm
    · rename_i latch hlatch
      have hfailed := (Table.newest?_eq_some hlatch).2
      simp only [decide_eq_true_eq] at hfailed
      have hcleared := clearChangedDhcpFailureLatches_of_not_failed (evaluatedFingerprint c now) hm
      have hne : m ≠ latch := by
        rintro rfl
        have hrow := hfailed.1
        rw [← HACluster.maintenanceRun, hcleared, hm] at hrow
        cases hrow
      refine Eq.trans ?_ hcleared
      simp only [HACluster.maintenanceRun, HACluster.modifyMaintenance, Table.modify_row,
        if_neg hne]
  · intro hautomatic
    simp only [hautomatic, Bool.not_false, and_true, Bool.not_eq_true, isSome_eq_false_iff,
      isNone_iff_eq_none] at hlatched
    rw [hlatched]
    exact ⟨rfl, rfl⟩

/-- An evaluation leaves the runs that are not failed self-heals. -/
theorem SelfHealEvaluation.row {forceRetry : Bool} {c' : HACluster}
    (h : SelfHealEvaluation c forceRetry now c') (hm : m ∈ c.maintenanceRuns.ids)
    (hrow : isFailedSelfHeal (c.maintenanceRun m) = false) :
    c'.maintenanceRun m = c.maintenanceRun m := by
  cases h with
  | refused _ hc' => rw [hc']
  | quiet _ hc' =>
    rw [hc']
    exact clearChangedDhcpFailureLatches_of_not_failed _ hrow
  | started c₁ run repair node hallow hidle _ hothers _ _ _ _ hc' =>
    have hmem : m ∈ c₁.maintenanceRuns.ids := by
      rw [hidle.ids]
      exact hm
    rw [hc', ← hothers m hrow]
    exact Table.insert_row_of_mem _ _ hmem

end Evaluation

/-! ### The row of a self-heal -/

section Row

variable {c c' : HACluster} {m : RunId} {now : DateTime}

/-- Advancing a self-heal keeps its drift, and a failure sets the latch. -/
theorem advanceDhcpSelfHeal_row :
    ((advanceDhcpSelfHeal c m now).maintenanceRun m).drift = (c.maintenanceRun m).drift ∧
      (((advanceDhcpSelfHeal c m now).maintenanceRun m).status = .failedSafe →
        (c.maintenanceRun m).status = .failedSafe ∨
          ((advanceDhcpSelfHeal c m now).maintenanceRun m).result.latchActive = true) := by
  have hsame : (c.maintenanceRun m).drift = (c.maintenanceRun m).drift ∧
      ((c.maintenanceRun m).status = .failedSafe → (c.maintenanceRun m).status = .failedSafe ∨
        (c.maintenanceRun m).result.latchActive = true) := ⟨rfl, .inl⟩
  have hfailed (message : String) :
      ((failDhcpSelfHeal c m message).maintenanceRun m).drift = (c.maintenanceRun m).drift ∧
      (((failDhcpSelfHeal c m message).maintenanceRun m).status = .failedSafe →
        (c.maintenanceRun m).status = .failedSafe ∨
          ((failDhcpSelfHeal c m message).maintenanceRun m).result.latchActive = true) := by
    rw [failDhcpSelfHeal, modifyMaintenance_row]
    exact ⟨rfl, fun _ ↦ .inr rfl⟩
  unfold advanceDhcpSelfHeal
  dsimp only
  split
  · exact hsame
  split
  · unfold cancelSelfHeal
    dsimp only
    split
    · split
      · exact hsame
      · rw [modifyMaintenance_row]
        exact ⟨rfl, fun h ↦ by cases h⟩
    · exact hsame
  split
  · split
    · exact hsame
    split
    · rw [modifyMaintenance_row]
      exact ⟨rfl, fun h ↦ by cases h⟩
    split
    · exact hfailed _
    · exact hsame
  · exact hfailed _

/-- An agent's result keeps the drift of every run and the status of a self-heal. -/
theorem recordMaintenanceActionResult_selfHeal {n : NodeId} {action : DhcpActionType}
    {generation : ℕ} {checksum : Option Digest} {status : ResultStatus} {message : String}
    (h : recordMaintenanceActionResult c n action generation checksum status message now = .ok c')
    (hoper : (c.maintenanceRun m).operation = .dhcpSelfHeal) :
    (c'.maintenanceRun m).drift = (c.maintenanceRun m).drift ∧
      (c'.maintenanceRun m).status = (c.maintenanceRun m).status := by
  obtain ⟨k, hk, heffect⟩ := recordMaintenanceActionResult_effect h
  by_cases hkm : m = k
  · subst hkm
    have hph : phaseAfterResult (c.maintenanceRun m) = some .verifyingDhcpRepair :=
      if_pos hoper
    unfold recordMaintenanceActionResult at h
    rw [hk] at h
    split at h
    · rename_i m' expected hm' hexp
      obtain rfl : m = m' := some.inj hm'
      split at h
      · cases h
      dsimp only at h
      rw [hph] at h
      split at h <;> cases h <;> (try (rename_i hnone; cases hnone))
      · simp only [setPhase, noteActionResult, modifyMaintenance_row]
        exact ⟨rfl, trivial⟩
      · simp only [setPhase, noteActionResult, modifyMaintenance_row]
        exact ⟨rfl, trivial⟩
    · cases h
  · rw [heffect.others m hkm]
    exact ⟨rfl, rfl⟩

/-- The signature of a self-heal is made from the fingerprint it carries. -/
def SignedDrift (run : HAMaintenanceRun) : Prop :=
  run.operation = .dhcpSelfHeal → ∃ repair node fingerprint,
    run.drift = (some (.drift repair node fingerprint), some fingerprint)

theorem SignedDrift.of_drift {run run' : HAMaintenanceRun} (h : SignedDrift run)
    (hoper : run'.operation = run.operation) (hdrift : run'.drift = run.drift) :
    SignedDrift run' := by
  intro hrun'
  rw [hdrift]
  exact h (hoper ▸ hrun')

theorem SignedDrift.of_ne {run : HAMaintenanceRun} (h : run.operation ≠ .dhcpSelfHeal) :
    SignedDrift run :=
  fun hrun ↦ absurd hrun h

/-- An evaluation keeps the rows signed. -/
theorem SelfHealEvaluation.signed {forceRetry : Bool} (h : SelfHealEvaluation c forceRetry now c')
    (hrows : ∀ m ∈ c.maintenanceRuns.ids, SignedDrift (c.maintenanceRun m)) :
    ∀ m ∈ c'.maintenanceRuns.ids, SignedDrift (c'.maintenanceRun m) := by
  have hcleared := clearChangedDhcpFailureLatches_idle (c := c) (evaluatedFingerprint c now)
  cases h with
  | refused _ hc' =>
    rw [hc']
    exact hrows
  | quiet _ hc' =>
    intro m hm
    rw [hc'] at hm ⊢
    exact (hrows m hm).of_drift (hcleared.rows m).operation
      (clearChangedDhcpFailureLatches_drift _ m)
  | started c₁ run repair node hallow hidle hdrift _ _ hoper hsig hprint hc' =>
    intro m hm
    rw [hc'] at hm ⊢
    rcases insertMaintenance_row hm with ⟨hold, hrow⟩ | hrow
    · rw [hrow]
      have hmem : m ∈ c.maintenanceRuns.ids := hcleared.ids ▸ hidle.ids ▸ hold
      exact (hrows m hmem).of_drift
        ((hidle.rows m).operation.trans (hcleared.rows m).operation) (hdrift m)
    · rw [hrow]
      intro _
      exact ⟨repair, node, _, Prod.ext hsig hprint⟩

end Row

section Runs

variable {ok : Sys → Event → Prop} {s : Sys} {m : RunId}

/-- An advance of a run that is not a self-heal keeps that row, or leaves the row of another run. -/
theorem SignedDrift.of_effect {c c' : HACluster} {k : RunId} (h : MaintenanceEffect c k c')
    (hk : (c.maintenanceRun k).operation ≠ .dhcpSelfHeal ∨ c' = c)
    (hrows : ∀ m ∈ c.maintenanceRuns.ids, SignedDrift (c.maintenanceRun m)) :
    ∀ m ∈ c'.maintenanceRuns.ids, SignedDrift (c'.maintenanceRun m) := by
  rcases hk with hother | rfl
  · intro m hm
    rw [h.ids] at hm
    by_cases hkm : m = k
    · subst hkm
      exact .of_ne (h.row.operation ▸ hother)
    · rw [h.others m hkm]
      exact hrows m hm
  · exact hrows

/-- A self-heal is signed when it starts, and keeps its drift. -/
theorem signedDrift_step {e : Event}
    (hrows : ∀ m ∈ s.cluster.maintenanceRuns.ids, SignedDrift (s.cluster.maintenanceRun m)) :
    ∀ m ∈ (step s e).cluster.maintenanceRuns.ids,
      SignedDrift ((step s e).cluster.maintenanceRun m) := by
  have hinsert {c : HACluster} {run : HAMaintenanceRun}
      (hruns : c.maintenanceRuns = s.cluster.maintenanceRuns)
      (hoper : run.operation ≠ .dhcpSelfHeal) :
      ∀ m ∈ (insertMaintenance c run).maintenanceRuns.ids,
        SignedDrift ((insertMaintenance c run).maintenanceRun m) := by
    intro m hm
    rcases insertMaintenance_row hm with ⟨hold, hrow⟩ | hrow
    · rw [hrow, HACluster.maintenanceRun, hruns]
      exact hrows m (hruns ▸ hold)
    · rw [hrow]
      exact .of_ne hoper
  cases maintenance_change s e with
  | same hruns =>
    unfold HACluster.maintenanceRun
    rw [hruns]
    exact hrows
  | reconciled k stalled hk hact hc' =>
    rw [hc']
    refine .of_effect reconcileClusterState_effect ?_ hrows
    by_cases hoper : (s.cluster.maintenanceRun k).operation = .reconcile
    · exact .inl (by rw [hoper]; decide)
    · exact .inr (if_pos (.inl hoper))
  | reinitialised k inputs hk hact hc' =>
    rw [hc']
    refine .of_effect advanceReinitialisation_effect ?_ hrows
    by_cases hoper : (s.cluster.maintenanceRun k).operation = .reinitialise
    · exact .inl (by rw [hoper]; decide)
    · exact .inr (advanceReinitialisation_of_ne (.inl hoper))
  | healed k hk hact hc' =>
    have heffect : MaintenanceEffect s.cluster k (step s e).cluster :=
      hc' ▸ advanceDhcpSelfHeal_effect
    intro m hm
    rw [heffect.ids] at hm
    by_cases hkm : m = k
    · subst hkm
      rw [hc']
      exact (hrows m hm).of_drift advanceDhcpSelfHeal_effect.row.operation
        advanceDhcpSelfHeal_row.1
    · rw [heffect.others m hkm]
      exact hrows m hm
  | answered n result action c₁ hact hok hc' =>
    obtain ⟨k, -, heffect⟩ := recordMaintenanceActionResult_effect hok
    intro m hm
    rw [hc'] at hm ⊢
    have hmem : m ∈ s.cluster.maintenanceRuns.ids := heffect.ids ▸ hm
    show SignedDrift (c₁.maintenanceRun m)
    by_cases hoper : (s.cluster.maintenanceRun m).operation = .dhcpSelfHeal
    · obtain ⟨hdrift, -⟩ := recordMaintenanceActionResult_selfHeal hok hoper
      refine (hrows m hmem).of_drift ?_ hdrift
      by_cases hkm : m = k
      · subst hkm
        exact heffect.row.operation
      · rw [heffect.others m hkm]
    · by_cases hkm : m = k
      · subst hkm
        exact .of_ne (heffect.row.operation ▸ hoper)
      · rw [heffect.others m hkm]
        exact hrows m hmem
  | startedReconciliation hact hok =>
    rw [(startReconciliation_eq_ok hok).2.2]
    exact hinsert rfl (by simp)
  | startedReinitialisation desiredActive authority acknowledged hact hok =>
    rw [(startReinitialisation_eq_ok hok).2.2.2]
    exact hinsert rfl (by simp)
  | evaluated forceRetry hact hc' =>
    rw [hc']
    exact (startDhcpSelfHeal_evaluation _ _ _).signed hrows

theorem signedDrift (hs : haMachine.ReachableBy ok s) (hm : m ∈ s.cluster.maintenanceRuns.ids) :
    SignedDrift (s.cluster.maintenanceRun m) := by
  have hrows : ∀ m ∈ s.cluster.maintenanceRuns.ids, SignedDrift (s.cluster.maintenanceRun m) := by
    refine hs.invariant (P := fun s ↦ ∀ m ∈ s.cluster.maintenanceRuns.ids,
      SignedDrift (s.cluster.maintenanceRun m)) ?_ fun s e h _ ↦ signedDrift_step h
    intro s hinit m hm
    rw [hinit.maintenanceRuns] at hm
    exact absurd hm List.not_mem_nil
  exact hrows m hm

/-- The row of a failed attempt whose latch stands. -/
structure Latched (c : HACluster) (m : RunId) (drift : Option Digest × Option Digest) : Prop where
  mem : m ∈ c.maintenanceRuns.ids
  failed : isFailedSelfHeal (c.maintenanceRun m) = true
  active : (c.maintenanceRun m).result.latchActive = true
  drift : (c.maintenanceRun m).drift = drift

/-- An evaluation that is allowed and computes the fingerprint. -/
def Evaluates (t : Sys × Event) (fingerprint : Digest) : Prop :=
  ∃ forceRetry, t.2.action = .startDhcpSelfHeal forceRetry ∧
    selfHealAllowed t.1.cluster = true ∧ evaluatedFingerprint t.1.cluster t.2.now = fingerprint

namespace Latched

variable {signature : Option Digest} {fingerprint : Digest} {e : Event}

theorem ended {c : HACluster} {drift : Option Digest × Option Digest} (h : Latched c m drift) :
    (c.maintenanceRun m).status.isActive = false :=
  isActive_of_isFailedSelfHeal h.failed

/-- An evaluation that computes the fingerprint of the latch leaves its row. -/
theorem cleared_row {c : HACluster} (h : Latched c m (signature, some fingerprint)) :
    (clearChangedDhcpFailureLatches c fingerprint).maintenanceRun m = c.maintenanceRun m := by
  rcases clearChangedDhcpFailureLatches_row fingerprint m with hsame | ⟨-, hchg, -⟩
  · exact hsame
  · exact absurd (congrArg Prod.snd h.drift) hchg

/-- **A latch stands** until an evaluation computes another fingerprint. -/
theorem step (h : Latched s.cluster m (signature, some fingerprint))
    (hforced : e.action ≠ .startDhcpSelfHeal true)
    (hquiet : ∀ fingerprint', Evaluates (s, e) fingerprint' → fingerprint' = fingerprint) :
    Latched (step s e).cluster m (signature, some fingerprint) := by
  have hrow : (Kaya.HA.step s e).cluster.maintenanceRun m = s.cluster.maintenanceRun m := by
    by_cases hevaluated : ∃ forceRetry, e.action = .startDhcpSelfHeal forceRetry
    · obtain ⟨forceRetry, hact⟩ := hevaluated
      obtain rfl : forceRetry = false := by
        rw [Bool.eq_false_iff]
        rintro rfl
        exact hforced hact
      have hstep : (Kaya.HA.step s e).cluster = startDhcpSelfHeal s.cluster false e.now := by
        rw [step_cluster, hact]
        rfl
      rw [hstep]
      cases startDhcpSelfHeal_evaluation s.cluster false e.now with
      | refused _ hc' => rw [hc']
      | quiet hallow hc' =>
        rw [hc', hquiet _ ⟨false, hact, hallow, rfl⟩]
        exact h.cleared_row
      | started c₁ run repair node hallow _ _ _ hautomatic _ _ _ hc' =>
        have hprint := hquiet _ ⟨false, hact, hallow, rfl⟩
        rw [hc']
        have hruns := (hautomatic rfl).1
        have hmem : m ∈ c₁.maintenanceRuns.ids := by
          rw [hruns]
          exact h.mem
        have hinserted : (insertMaintenance { c₁ with maintenanceMode := true } run).maintenanceRun
            m = c₁.maintenanceRun m := Table.insert_row_of_mem _ _ hmem
        rw [hinserted, HACluster.maintenanceRun, hruns, hprint]
        exact h.cleared_row
    · exact ended_row h.mem h.ended fun forceRetry hact ↦ hevaluated ⟨forceRetry, hact⟩
  exact ⟨maintenanceRuns_grow h.mem, hrow ▸ h.failed, hrow ▸ h.active, hrow ▸ h.drift⟩

/-- A latch stands over a whole history in which nothing else is seen. -/
theorem history {s₀ : Sys} {h : List (Sys × Event)} (hh : haMachine.History s₀ h s)
    (hl : Latched s₀.cluster m (signature, some fingerprint))
    (hforced : ∀ t ∈ h, t.2.action ≠ .startDhcpSelfHeal true)
    (hquiet : ∀ t ∈ h, ∀ fingerprint', Evaluates t fingerprint' → fingerprint' = fingerprint) :
    Latched s.cluster m (signature, some fingerprint) := by
  induction hh with
  | nil => exact hl
  | cons e _ ih =>
    have hbef := ih (fun t ht ↦ hforced t (List.mem_cons_of_mem _ ht))
      fun t ht ↦ hquiet t (List.mem_cons_of_mem _ ht)
    exact hbef.step (hforced _ List.mem_cons_self) (hquiet _ List.mem_cons_self)

/-- An automatic evaluation starts nothing for the drift of a standing latch. -/
theorem not_started (h : Latched s.cluster m (signature, some fingerprint))
    (hsigned : ∃ repair node, signature = some (.drift repair node fingerprint)) {now : DateTime}
    {k : RunId}
    (hk : k ∈ (Kaya.HA.step s ⟨now, .startDhcpSelfHeal false⟩).cluster.maintenanceRuns.ids)
    (hnew : k ∉ s.cluster.maintenanceRuns.ids) :
    ((Kaya.HA.step s ⟨now, .startDhcpSelfHeal false⟩).cluster.maintenanceRun
      k).result.driftSignature ≠ signature := by
  have hstep : (Kaya.HA.step s ⟨now, .startDhcpSelfHeal false⟩).cluster =
      startDhcpSelfHeal s.cluster false now := rfl
  rw [hstep] at hk ⊢
  cases startDhcpSelfHeal_evaluation s.cluster false now with
  | refused _ hc' =>
    rw [hc'] at hk
    exact absurd hk hnew
  | quiet _ hc' =>
    rw [hc'] at hk
    exact absurd hk hnew
  | started c₁ run repair node hallow _ _ _ hautomatic _ hsig _ hc' =>
    obtain ⟨hruns, hlatch⟩ := hautomatic rfl
    rw [hc'] at hk ⊢
    rcases insertMaintenance_row hk with ⟨hold, -⟩ | hrow
    · have hmem : k ∈ c₁.maintenanceRuns.ids := hold
      rw [hruns] at hmem
      exact absurd hmem hnew
    rw [hrow, hsig]
    obtain ⟨repair', node', rfl⟩ := hsigned
    intro heq
    -- The signature contains the fingerprint, so the latch has survived the clearing and matches.
    obtain ⟨rfl, rfl, rfl⟩ := Digest.drift.inj (some.inj heq)
    have hnone := Table.newest?_eq_none_iff.1 hlatch m h.mem
    have hrow' := h.cleared_row
    rw [HACluster.maintenanceRun] at hrow'
    rw [hrow'] at hnone
    exact of_decide_eq_false hnone ⟨h.failed, h.active, congrArg Prod.fst h.drift⟩

/-- The end of an attempt sets the latch. -/
theorem of_failed (hm : m ∈ s.cluster.maintenanceRuns.ids)
    (hoper : (s.cluster.maintenanceRun m).operation = .dhcpSelfHeal)
    (hrunning : (s.cluster.maintenanceRun m).status = .running)
    (hfailed : ((Kaya.HA.step s e).cluster.maintenanceRun m).status = .failedSafe) :
    Latched (Kaya.HA.step s e).cluster m (s.cluster.maintenanceRun m).drift := by
  have hne : (s.cluster.maintenanceRun m).status ≠ .failedSafe := by
    rw [hrunning]
    decide
  have habsurd (h : (Kaya.HA.step s e).cluster.maintenanceRun m = s.cluster.maintenanceRun m) :
      False := hne (h ▸ hfailed)
  have hmem := @maintenanceRuns_grow m s e hm
  cases maintenance_change s e with
  | same hruns => exact (habsurd (by rw [HACluster.maintenanceRun, hruns])).elim
  | reconciled k stalled hk hact hc' =>
    refine (habsurd ?_).elim
    rw [hc']
    by_cases hkm : m = k
    · subst hkm
      have hother : (s.cluster.maintenanceRun m).operation ≠ .reconcile := by
        rw [hoper]
        decide
      rw [reconcileClusterState]
      dsimp only
      rw [if_pos (.inl hother)]
    · exact reconcileClusterState_effect.others m hkm
  | reinitialised k inputs hk hact hc' =>
    refine (habsurd ?_).elim
    rw [hc']
    by_cases hkm : m = k
    · subst hkm
      rw [advanceReinitialisation_of_ne (.inl (by rw [hoper]; decide))]
    · exact advanceReinitialisation_effect.others m hkm
  | healed k hk hact hc' =>
    by_cases hkm : m = k
    · subst hkm
      rw [hc'] at hfailed hmem ⊢
      obtain ⟨hdrift, hlatch⟩ := @advanceDhcpSelfHeal_row s.cluster m e.now
      have hop := (@advanceDhcpSelfHeal_effect s.cluster m e.now).row.operation
      refine ⟨hmem, decide_eq_true ⟨hop.trans hoper, hfailed⟩, ?_, hdrift⟩
      exact (hlatch hfailed).resolve_left hne
    · refine (habsurd ?_).elim
      rw [hc']
      exact advanceDhcpSelfHeal_effect.others m hkm
  | answered n result action c₁ hact hok hc' =>
    have hstat := (recordMaintenanceActionResult_selfHeal hok hoper).2
    rw [hc'] at hfailed
    exact absurd (hstat.symm.trans hfailed) hne
  | startedReconciliation hact hok => exact (habsurd (startReconciliation_row hok hm)).elim
  | startedReinitialisation desiredActive authority acknowledged hact hok =>
    exact (habsurd (startReinitialisation_row hok hm)).elim
  | evaluated forceRetry hact hc' =>
    -- While the run is active nothing is evaluated.
    have hlive := isActive_of_running hrunning
    have hrefused : selfHealAllowed s.cluster = false := by
      rw [Bool.eq_false_iff]
      intro hallow
      simp only [selfHealAllowed, decide_eq_true_eq, isNone_iff_eq_none] at hallow
      have hinactive := Table.newest?_eq_none_iff.1 hallow.2.2.2.2.1 m hm
      exact absurd (hlive.symm.trans hinactive) (by decide)
    refine (habsurd ?_).elim
    rw [hc', startDhcpSelfHeal, hrefused]
    rfl

end Latched

/-- **Self-heal is bounded.** In every run of the system at most one self-heal is running. And once a
self-heal has ended `FAILED_SAFE`, whatever follows — heartbeats, results, advances, evaluations, all
but an administrator's forced retry — an automatic evaluation starts no other run with its drift
signature unless an evaluation in between has computed a fingerprint other than that of the failed
run. -/
theorem selfHeal_bounded (hs : haMachine.Reachable s) :
    (∀ m ∈ s.cluster.maintenanceRuns.ids, ∀ m' ∈ s.cluster.maintenanceRuns.ids,
      (s.cluster.maintenanceRun m).operation = .dhcpSelfHeal →
      (s.cluster.maintenanceRun m').operation = .dhcpSelfHeal →
      (s.cluster.maintenanceRun m).status = .running →
      (s.cluster.maintenanceRun m').status = .running → m = m') ∧
    ∀ m ∈ s.cluster.maintenanceRuns.ids, (s.cluster.maintenanceRun m).operation = .dhcpSelfHeal →
      (s.cluster.maintenanceRun m).status = .running →
      ∀ e, ((step s e).cluster.maintenanceRun m).status = .failedSafe →
      ∀ h s', haMachine.History (step s e) h s' → (∀ t ∈ h, t.2.action ≠ .startDhcpSelfHeal true) →
      ∀ now, ∀ k ∈ (step s' ⟨now, .startDhcpSelfHeal false⟩).cluster.maintenanceRuns.ids,
      k ∉ s'.cluster.maintenanceRuns.ids →
      ((step s' ⟨now, .startDhcpSelfHeal false⟩).cluster.maintenanceRun k).result.driftSignature =
        ((step s e).cluster.maintenanceRun m).result.driftSignature →
      ∃ t ∈ h, ∃ fingerprint, Evaluates t fingerprint ∧
        ((step s e).cluster.maintenanceRun m).result.topologyFingerprint ≠ some fingerprint := by
  refine ⟨fun m hm m' hm' _ _ hrunning hrunning' ↦ ?_, ?_⟩
  · exact soleMaintenance hs m hm m' hm' (isActive_of_running hrunning)
      (isActive_of_running hrunning')
  · intro m hm hoper hrunning e hfailed h s' hh hforced now k hk hnew hsig
    obtain ⟨repair, node, fingerprint, hdrift⟩ := signedDrift hs hm hoper
    have hlatched := Latched.of_failed hm hoper hrunning hfailed
    rw [hdrift] at hlatched
    by_contra hquiet
    push Not at hquiet
    have hprint : ((step s e).cluster.maintenanceRun m).result.topologyFingerprint =
        some fingerprint := congrArg Prod.snd hlatched.drift
    have hlatched' := Latched.history hh hlatched hforced fun t ht fingerprint' hevaluates ↦
      some.inj ((hquiet t ht fingerprint' hevaluates).symm.trans hprint)
    refine hlatched'.not_started ⟨repair, node, rfl⟩ hk hnew ?_
    rw [hsig]
    exact congrArg Prod.fst hlatched.drift

end Runs

section Sample

/-- A node of a cluster whose owner has lost its DHCP setting while it keeps serving. -/
def driftNode (name : String) (owner : Bool) : HANode :=
  { sampleNode name owner owner 0 0 with
    agentVersion := some "0.2.13", dhcpConfigured := some false, observedGeneration := 1
    vipStableSince := if owner then some (-seconds 20) else none }

/-- The heartbeat of such a node. -/
def driftHeartbeat (owner : Bool) : HAAgentHeartbeat :=
  { sampleHeartbeat owner owner 0 with
    dhcpConfigured := some false, observedGeneration := 1, dhcpObservationStatus := some .fresh }

/-- The system around it. -/
def driftSys : Sys :=
  { sampleSys with cluster :=
      { sampleCluster with nodes :=
          { sampleCluster.nodes with
            row := fun n ↦ if n = 1 then driftNode "first" true else driftNode "second" false } } }

/-- The repair is started and reported as failed; both nodes keep reporting the same state. -/
def repairingRun : List Event :=
  [⟨0, .startDhcpSelfHeal false⟩, ⟨0, .actionResult 1
      { actionId := .maintenance 1 .promote 1, actionType := .dhcp .promote, generation := 1
        status := .failed, checksum := some (.maintenanceAction .promote 1 1 1)
        message := "no lease file" }⟩, ⟨seconds 46, .heartbeat 1 (driftHeartbeat true)⟩,
    ⟨seconds 46, .heartbeat 2 (driftHeartbeat false)⟩]

theorem selfHeal_bounded_sample :
    ((step (haMachine.run driftSys repairingRun)
        ⟨seconds 46, .advanceDhcpSelfHeal 1⟩).cluster.maintenanceRun 1).status = .failedSafe ∧
      ∀ k ∈ (step (step (haMachine.run driftSys repairingRun)
          ⟨seconds 46, .advanceDhcpSelfHeal 1⟩)
          ⟨seconds 46, .startDhcpSelfHeal false⟩).cluster.maintenanceRuns.ids,
        k ∉ (step (haMachine.run driftSys repairingRun)
          ⟨seconds 46, .advanceDhcpSelfHeal 1⟩).cluster.maintenanceRuns.ids →
        ((step (step (haMachine.run driftSys repairingRun) ⟨seconds 46, .advanceDhcpSelfHeal 1⟩)
          ⟨seconds 46, .startDhcpSelfHeal false⟩).cluster.maintenanceRun k).result.driftSignature ≠
        ((step (haMachine.run driftSys repairingRun)
          ⟨seconds 46, .advanceDhcpSelfHeal 1⟩).cluster.maintenanceRun 1).result.driftSignature := by
  have hinit : Initial driftSys :=
    ⟨rfl, rfl, rfl, rfl, rfl, rfl, le_rfl, rfl, fun _ ↦ rfl, fun _ ↦ rfl, rfl⟩
  have hs : haMachine.Reachable (haMachine.run driftSys repairingRun) := .run _ (.start hinit)
  have hfailed : ((step (haMachine.run driftSys repairingRun)
      ⟨seconds 46, .advanceDhcpSelfHeal 1⟩).cluster.maintenanceRun 1).status = .failedSafe := by
    decide +kernel
  refine ⟨hfailed, fun k hk hnew hsig ↦ ?_⟩
  obtain ⟨t, ht, -⟩ := (selfHeal_bounded hs).2 1 (by decide +kernel) (by decide +kernel)
    (by decide +kernel) _ hfailed [] _ .nil (fun t ht ↦ absurd ht List.not_mem_nil) (seconds 46) k
    hk hnew hsig
  exact List.not_mem_nil ht

end Sample

end Kaya.HA
