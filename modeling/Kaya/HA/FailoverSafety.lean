import Kaya.HA.SystemSteps

/-!
# A node is promoted only after the other one released DHCP

The two phases in which a failover run tells a node to start DHCP are `PROMOTING_TARGET` and
`ROLLBACK_PROMOTING_SOURCE`. Many edges lead into them: the normal move of the Virtual IP, the
recovery from a move that failed, the direct rollback, the rollback shortcut, the repair of a
promotion that did not take. What they have in common is stated on **histories**: at or after the
step that started the run (for a rollback, that turned it around) the engine itself made a fresh
observation of the *other* node with DHCP released.

The law does not follow from the phase alone, because the observation lies in the past. It is
carried through the phases in between by `SourceVerified` and `TargetVerified`: the phases of a run
that can only be entered after a verified release. A move into such a phase either makes the
observation or starts from such a phase (`FailoverMove.sourceVerified`,
`FailoverMove.targetVerified`), and the second kind of move never changes the direction of the run.
-/

namespace Kaya.HA

/-! ### Observations of the past -/

/-- The engine looks at the cluster: it advances a run, or it serves a rollback request. -/
def Action.isEngineStep : Action → Bool
  | .advanceFailover | .requestFailoverRollback .. => true
  | _ => false

/-- The engine takes this transition on a fresh observation of `n` with DHCP released. -/
structure SeesReleased (n : NodeId) (t : Sys × Event) : Prop where
  engine : t.2.action.isEngineStep = true
  released : (dhcpObservation (t.1.cluster.node n) (.failover t.2.now)).released = true
  fresh : (dhcpObservation (t.1.cluster.node n) (.failover t.2.now)).status = .fresh
  heartbeat : heartbeatIsFresh (t.1.cluster.node n) (.failover t.2.now) = true

/-- This transition starts the run `r`. -/
def StartsRun (r : RunId) (t : Sys × Event) : Prop :=
  r ∉ t.1.cluster.failoverRuns.ids ∧ r ∈ (step t.1 t.2).cluster.failoverRuns.ids

/-- At this transition the run `r` becomes `ROLLING_BACK`. -/
def TurnsBack (r : RunId) (t : Sys × Event) : Prop :=
  (t.1.cluster.failoverRun r).status ≠ .rollingBack ∧
    ((step t.1 t.2).cluster.failoverRun r).status = .rollingBack

variable {node : HANode} {w : Window} {n : NodeId} {c : HACluster} {now : DateTime} {a : DhcpAction}

/-- A released observation is a fresh one. -/
theorem dhcpObservation_status_of_released
    (h : (dhcpObservation node w).released = true) : (dhcpObservation node w).status = .fresh := by
  unfold dhcpObservation at h ⊢
  dsimp only at h ⊢
  split at h <;> rename_i hstale
  · cases h
  rw [if_neg hstale]
  split at h <;> rename_i hincomplete
  · cases h
  rw [if_neg hincomplete]
  split at h <;> rename_i hlive
  · cases h
  rw [if_neg hlive]
  split at h <;> rename_i hrel
  · rw [if_pos hrel]
  split at h
  · cases h
  · cases h

theorem heartbeatIsFresh_of_released
    (h : (dhcpObservation node w).released = true) : heartbeatIsFresh node w = true := by
  refine heartbeatIsFresh_of_dhcpObservation_ne_unknown fun hunk ↦ ?_
  rw [DHCPObservation.released, hunk] at h
  cases h

theorem SeesReleased.of_dhcpReleased {s : Sys} {e : Event} (hengine : e.action.isEngineStep = true)
    (h : dhcpReleased s.cluster n e.now = true) : SeesReleased n (s, e) :=
  ⟨hengine, h, dhcpObservation_status_of_released h, heartbeatIsFresh_of_released h⟩

/-! ### Phases behind a verified release -/

/-- The run has verified that its source released DHCP. Without managed DHCP the Virtual IP moves
unverified, so only the promotion itself counts there. -/
def HAFailoverRun.SourceVerified (run : HAFailoverRun) : Prop :=
  run.phase = .promotingTarget ∨
    (run.dhcpManaged = true ∧ (run.phase = .movingVip ∨ run.phase = .verifyingTarget))

/-- The run has verified, on its way back, that its target released DHCP. -/
def HAFailoverRun.TargetVerified (run : HAFailoverRun) : Prop :=
  run.phase = .rollbackPromotingSource ∨ (run.dhcpManaged = true ∧
      (run.phase = .rollbackMovingVip ∨ run.phase = .rollbackVerifyingSource))

section Moves

variable {c : HACluster} {now : DateTime} {run run' : HAFailoverRun}
  {phase : FailoverPhase} {report : FailoverReport}

/-- Among the phases that wait for a result, only `PROMOTING_TARGET` leads behind the release of the
source. -/
theorem sourceVerified_of_reported (hph : run.phase.afterResult = some phase)
    (hv : { run with phase, report }.SourceVerified) : run.SourceVerified := by
  rcases hbef : run.phase with _ | _ | _ | _ | _ | _ | _ | _ | _ | _ | _ | _ | _ | _ <;>
    rw [hbef] at hph <;> cases hph
  · simp [HAFailoverRun.SourceVerified] at hv
  · exact .inl hbef
  · simp [HAFailoverRun.SourceVerified] at hv
  · simp [HAFailoverRun.SourceVerified] at hv

/-- Among the phases that wait for a result, only `ROLLBACK_PROMOTING_SOURCE` leads behind the
release of the target. -/
theorem targetVerified_of_reported (hph : run.phase.afterResult = some phase)
    (hv : { run with phase, report }.TargetVerified) : run.TargetVerified := by
  rcases hbef : run.phase with _ | _ | _ | _ | _ | _ | _ | _ | _ | _ | _ | _ | _ | _ <;>
    rw [hbef] at hph <;> cases hph
  · simp [HAFailoverRun.TargetVerified] at hv
  · simp [HAFailoverRun.TargetVerified] at hv
  · simp [HAFailoverRun.TargetVerified] at hv
  · exact .inl hbef

/-- A move into a phase behind the release of the source observes it, or starts behind it. -/
theorem FailoverMove.sourceVerified (h : FailoverMove c now run run') (hv : run'.SourceVerified) :
    dhcpReleased c run.sourceNodeId now = true ∨ run.SourceVerified := by
  cases h with
  | misclassified | failed | leasesCurrent | rollbackShortcut | vipRestored | rollbackCompleted
  | rollbackDirect | rollbackStarted => simp [HAFailoverRun.SourceVerified] at hv
  | verified rolledBack => cases rolledBack <;> simp [HAFailoverRun.SourceVerified] at hv
  | releaseRetry rolledBack => cases rolledBack <;> simp [HAFailoverRun.SourceVerified] at hv
  | released rolledBack _ _ hrel =>
    cases rolledBack with
    | true => simp [HAFailoverRun.SourceVerified] at hv
    | false => exact .inl hrel
  | repaired rolledBack _ _ _ _ hrel =>
    cases rolledBack with
    | true => simp [HAFailoverRun.SourceVerified] at hv
    | false => exact .inl hrel
  | vipMoved rolledBack _ _ hph =>
    -- A managed run was verified before its Virtual IP moved; a DNS-only run does not promote.
    right
    cases rolledBack with
    | true =>
      exfalso
      rcases hman : run.dhcpManaged with - | - <;>
        simp [HAFailoverRun.SourceVerified, hman] at hv
    | false =>
      rcases hman : run.dhcpManaged with - | -
      · simp [HAFailoverRun.SourceVerified, hman] at hv
      · exact .inr ⟨hman, .inl hph⟩
  | reported _ hph => exact .inr (sourceVerified_of_reported hph hv)

/-- A move into a phase behind the release of the target observes it, or starts behind it and keeps
the direction of the run. -/
theorem FailoverMove.targetVerified (h : FailoverMove c now run run') (hv : run'.TargetVerified) :
    dhcpReleased c run.targetNodeId now = true ∨
      (run.TargetVerified ∧ run'.status = run.status) := by
  cases h with
  | misclassified | failed | leasesCurrent | rollbackCompleted | rollbackStarted =>
    simp [HAFailoverRun.TargetVerified] at hv
  | verified rolledBack => cases rolledBack <;> simp [HAFailoverRun.TargetVerified] at hv
  | releaseRetry rolledBack => cases rolledBack <;> simp [HAFailoverRun.TargetVerified] at hv
  | rollbackShortcut _ _ hrel => exact .inl hrel
  | vipRestored _ _ _ _ hrel => exact .inl hrel
  | rollbackDirect _ _ _ hrel => exact .inl hrel
  | released rolledBack _ _ hrel =>
    cases rolledBack with
    | true => exact .inl hrel
    | false => simp [HAFailoverRun.TargetVerified] at hv
  | repaired rolledBack _ _ _ _ hrel =>
    cases rolledBack with
    | true => exact .inl hrel
    | false => simp [HAFailoverRun.TargetVerified] at hv
  | vipMoved rolledBack _ _ hph =>
    right
    refine ⟨?_, rfl⟩
    cases rolledBack with
    | true =>
      rcases hman : run.dhcpManaged with - | -
      · simp [HAFailoverRun.TargetVerified, hman] at hv
      · exact .inr ⟨hman, .inl hph⟩
    | false =>
      exfalso
      rcases hman : run.dhcpManaged with - | - <;>
        simp [HAFailoverRun.TargetVerified, hman] at hv
  | reported _ hph => exact .inr ⟨targetVerified_of_reported hph hv, rfl⟩

theorem FailoverMove.sourceVerified_run (h : Relation.ReflTransGen (FailoverMove c now) run run')
    (hv : run'.SourceVerified) :
    dhcpReleased c run.sourceNodeId now = true ∨ run.SourceVerified := by
  induction h with
  | refl => exact .inr hv
  | tail hmoves hlast ih =>
    rcases hlast.sourceVerified hv with hrel | hbef
    · rw [(FailoverMove.identity_run hmoves).1] at hrel
      exact .inl hrel
    · exact ih hbef

theorem FailoverMove.targetVerified_run (h : Relation.ReflTransGen (FailoverMove c now) run run')
    (hv : run'.TargetVerified) :
    dhcpReleased c run.targetNodeId now = true ∨
      (run.TargetVerified ∧ run'.status = run.status) := by
  induction h with
  | refl => exact .inr ⟨hv, rfl⟩
  | tail hmoves hlast ih =>
    rcases hlast.targetVerified hv with hrel | ⟨hbef, hstat⟩
    · rw [(FailoverMove.identity_run hmoves).2.1] at hrel
      exact .inl hrel
    · rcases ih hbef with hrel | ⟨hfirst, hsame⟩
      · exact .inl hrel
      · exact .inr ⟨hfirst, hstat.trans hsame⟩

end Moves

/-! ### The invariant of histories -/

/-- What the past of a run holds, given its row. -/
structure RunReleaseSeen (h : List (Sys × Event)) (r : RunId) (run : HAFailoverRun) : Prop where
  source : run.SourceVerified → OnceSince (StartsRun r) (SeesReleased run.sourceNodeId) h
  target : run.TargetVerified → OnceSince (TurnsBack r) (SeesReleased run.targetNodeId) h

/-- Every run that has passed a verification has seen it. -/
def ReleaseSeen (h : List (Sys × Event)) (s : Sys) : Prop :=
  ∀ r ∈ s.cluster.failoverRuns.ids, RunReleaseSeen h r (s.cluster.failoverRun r)

section Histories

variable {h : List (Sys × Event)} {s : Sys} {e : Event} {r : RunId} {run : HAFailoverRun}

/-- A step behind which a run lies further back only if it did before. -/
theorem RunReleaseSeen.later (hseen : RunReleaseSeen h r (s.cluster.failoverRun r))
    (hr : r ∈ s.cluster.failoverRuns.ids)
    (hsrc : run.sourceNodeId = (s.cluster.failoverRun r).sourceNodeId)
    (htgt : run.targetNodeId = (s.cluster.failoverRun r).targetNodeId)
    (hsourceVerified : run.SourceVerified → (s.cluster.failoverRun r).SourceVerified)
    (htargetVerified : run.TargetVerified → (s.cluster.failoverRun r).TargetVerified)
    (hstat : ((step s e).cluster.failoverRun r).status = (s.cluster.failoverRun r).status) :
    RunReleaseSeen ((s, e) :: h) r run where
  source hv := by
    rw [hsrc]
    exact .later (fun hstart ↦ hstart.1 hr) (hseen.source (hsourceVerified hv))
  target hv := by
    rw [htgt]
    refine .later (fun hturn ↦ hturn.1 ?_) (hseen.target (htargetVerified hv))
    rw [← hstat]
    exact hturn.2

theorem RunReleaseSeen.same (hseen : RunReleaseSeen h r (s.cluster.failoverRun r))
    (hr : r ∈ s.cluster.failoverRuns.ids)
    (hrow : (step s e).cluster.failoverRun r = s.cluster.failoverRun r) :
    RunReleaseSeen ((s, e) :: h) r ((step s e).cluster.failoverRun r) := by
  rw [hrow]
  exact hseen.later hr rfl rfl id id (by rw [hrow])

/-- A step of the engine on the run itself. -/
theorem RunReleaseSeen.moved (hseen : RunReleaseSeen h r (s.cluster.failoverRun r))
    (hr : r ∈ s.cluster.failoverRuns.ids) (hengine : e.action.isEngineStep = true)
    (hmoves : RowMoves s.cluster e.now r (step s e).cluster) :
    RunReleaseSeen ((s, e) :: h) r ((step s e).cluster.failoverRun r) := by
  obtain ⟨hsrc, htgt, -, -⟩ := FailoverMove.identity_run hmoves.moves
  constructor
  · intro hv
    rw [hsrc]
    rcases FailoverMove.sourceVerified_run hmoves.moves hv with hrel | hbef
    · exact .now (.of_dhcpReleased hengine hrel)
    · exact .later (fun hstart ↦ hstart.1 hr) (hseen.source hbef)
  · intro hv
    rw [htgt]
    rcases FailoverMove.targetVerified_run hmoves.moves hv with hrel | ⟨hbef, hstat⟩
    · exact .now (.of_dhcpReleased hengine hrel)
    · refine .later (fun hturn ↦ hturn.1 ?_) (hseen.target hbef)
      rw [← hstat]
      exact hturn.2

/-- A step of the engine on one run leaves the others where they are. -/
theorem ReleaseSeen.rowMoves (hseen : ReleaseSeen h s) (hengine : e.action.isEngineStep = true)
    (hmoves : RowMoves s.cluster e.now r (step s e).cluster) :
    ReleaseSeen ((s, e) :: h) (step s e) := by
  intro j hj
  rw [hmoves.ids] at hj
  by_cases hjr : j = r
  · subst hjr
    exact (hseen j hj).moved hj hengine hmoves
  · exact (hseen j hj).same hj (hmoves.others j hjr)

/-- A new run lies behind no verification. -/
theorem NewRun.not_verified {c : HACluster} {source target : NodeId} {managed : Bool}
    {now : DateTime} (hnew : NewRun c source target managed now run) :
    ¬ run.SourceVerified ∧ ¬ run.TargetVerified := by
  have hph := hnew.phase
  have hman := hnew.managed
  unfold startPhase at hph
  constructor
  · rintro (hprom | ⟨htrue, hmov | hverifying⟩)
    · rw [hprom] at hph
      split_ifs at hph
    · rw [hmov] at hph
      rw [htrue] at hman
      subst hman
      split_ifs at hph with _ hunmanaged
      exact hunmanaged rfl
    · rw [hverifying] at hph
      split_ifs at hph
  · rintro (hprom | ⟨-, hmov | hverifying⟩)
    · rw [hprom] at hph
      split_ifs at hph
    · rw [hmov] at hph
      split_ifs at hph
    · rw [hverifying] at hph
      split_ifs at hph

/-- The rows of a table that a step leaves alone. -/
theorem ReleaseSeen.unchanged (hseen : ReleaseSeen h s)
    (hruns : (step s e).cluster.failoverRuns = s.cluster.failoverRuns) :
    ReleaseSeen ((s, e) :: h) (step s e) := by
  intro j hj
  rw [hruns] at hj
  refine (hseen j hj).same hj ?_
  rw [HACluster.failoverRun, hruns]

/-- **One step.** -/
theorem ReleaseSeen.step (hseen : ReleaseSeen h s) (e : Event) :
    ReleaseSeen ((s, e) :: h) (step s e) := by
  cases step_kind s e with
  | idle hruns => exact hseen.unchanged hruns
  | maintenance m hmoves => exact hseen.unchanged hmoves.failover
  | maintenanceStarted hstart => exact hseen.unchanged hstart.failover
  | advanced r ha hr hmoves =>
    exact hseen.rowMoves (by rw [ha]; rfl) hmoves
  | rollback r acknowledged ha hr hok =>
    exact hseen.rowMoves (by rw [ha]; rfl) (requestFailoverRollback_moves hok).rows
  | reported r hrow hr hmoves =>
    -- A result is no step of the engine and observes nothing: the release was seen before it.
    intro j hj
    rw [hmoves.ids] at hj
    by_cases hjr : j = r
    · subst hjr
      obtain ⟨phase, hph, hrow⟩ := hrow
      rw [hrow]
      refine (hseen j hj).later hj rfl rfl (sourceVerified_of_reported hph)
        (targetVerified_of_reported hph) ?_
      rw [hrow]
    · exact (hseen j hj).same hj (hmoves.others j hjr)
  | created source target _ _ _ answer _ _ hrdy hsrc htgt hc' =>
    intro j hj
    rcases created_row hc' hj with ⟨hold, hrow⟩ | hnew
    · exact (hseen j hold).same hold hrow
    · exact ⟨fun hv ↦ absurd hv hnew.not_verified.1, fun hv ↦ absurd hv hnew.not_verified.2⟩

/-- **Every run.** -/
theorem releaseSeen_of_history {s₀ : Sys} (hinit : Initial s₀)
    (hist : haMachine.History s₀ h s) : ReleaseSeen h s := by
  refine Machine.History.invariant (P := ReleaseSeen) ?_ (fun _ _ e hseen ↦ hseen.step e) hist
  intro r hr
  rw [hinit.failoverRuns] at hr
  exact absurd hr List.not_mem_nil

end Histories

/-! ### Promotions -/

/-- An action is offered to one node only. -/
theorem desiredFailoverAction_unique {n' : NodeId} {now' : DateTime}
    {a' : DhcpAction} (h : desiredFailoverAction c n now = some a)
    (h' : desiredFailoverAction c n' now' = some a') : n = n' := by
  obtain ⟨r, hr, hact, -, -⟩ := desiredFailoverAction_eq_some h
  obtain ⟨r', hr', hact', -, -⟩ := desiredFailoverAction_eq_some h'
  obtain rfl : r' = r := Option.some.inj (hr'.symm.trans hr)
  rcases phaseAction_eq_some hact with ⟨hp, hn, -⟩ | ⟨hp, hn, -⟩ | ⟨hp, hn, -⟩ | ⟨hp, hn, -⟩ <;>
    rcases phaseAction_eq_some hact' with
      ⟨hp', hn', -⟩ | ⟨hp', hn', -⟩ | ⟨hp', hn', -⟩ | ⟨hp', hn', -⟩
  all_goals
    rw [hp] at hp'
    first
    | exact hn.trans hn'.symm
    | cases hp'

/-- A promotion is offered to the target while it is being promoted, or to the source on the way
back. -/
theorem promotion_phase
    (h : desiredFailoverAction c n now = some a) (hpromote : a.actionType = .promote) :
    ∃ r, activeFailover c = some r ∧
      (((c.failoverRun r).phase = .promotingTarget ∧ n = (c.failoverRun r).targetNodeId) ∨
        ((c.failoverRun r).phase = .rollbackPromotingSource ∧
          n = (c.failoverRun r).sourceNodeId)) := by
  obtain ⟨r, hr, hact, -, -⟩ := desiredFailoverAction_eq_some h
  rw [hpromote] at hact
  refine ⟨r, hr, ?_⟩
  rcases phaseAction_eq_some hact with
    ⟨-, -, hdemote, -⟩ | ⟨hph, hn, -⟩ | ⟨-, -, hdemote, -⟩ | ⟨hph, hn, -⟩
  · cases hdemote
  · exact .inl ⟨hph, hn⟩
  · cases hdemote
  · exact .inr ⟨hph, hn⟩

/-- **Promotion follows release.** In every run from a newly configured cluster: a run in
`PROMOTING_TARGET` saw its source release DHCP since it started; a run in
`ROLLBACK_PROMOTING_SOURCE` saw its target release DHCP since it last turned back. So a promotion is
offered to a node only after the release of the other node has been verified in that direction, and
no state offers actions to two nodes. -/
theorem promotion_follows_release {s₀ s : Sys} {h : List (Sys × Event)} (hinit : Initial s₀)
    (hist : haMachine.History s₀ h s) :
    (∀ r ∈ s.cluster.failoverRuns.ids, (s.cluster.failoverRun r).phase = .promotingTarget →
      OnceSince (StartsRun r) (SeesReleased (s.cluster.failoverRun r).sourceNodeId) h) ∧
    (∀ r ∈ s.cluster.failoverRuns.ids, (s.cluster.failoverRun r).phase = .rollbackPromotingSource →
      OnceSince (TurnsBack r) (SeesReleased (s.cluster.failoverRun r).targetNodeId) h) ∧
    (∀ n now a, desiredFailoverAction s.cluster n now = some a → a.actionType = .promote →
      ∃ r, activeFailover s.cluster = some r ∧ ((n = (s.cluster.failoverRun r).targetNodeId ∧
            OnceSince (StartsRun r) (SeesReleased (s.cluster.failoverRun r).sourceNodeId) h) ∨
          (n = (s.cluster.failoverRun r).sourceNodeId ∧
            OnceSince (TurnsBack r) (SeesReleased (s.cluster.failoverRun r).targetNodeId) h))) ∧
    (∀ n n' now now' a a', desiredFailoverAction s.cluster n now = some a →
      desiredFailoverAction s.cluster n' now' = some a' → n = n') := by
  have hseen := releaseSeen_of_history hinit hist
  have hfwd (r : RunId) (hr : r ∈ s.cluster.failoverRuns.ids)
      (hph : (s.cluster.failoverRun r).phase = .promotingTarget) :=
    (hseen r hr).source (.inl hph)
  have hback (r : RunId) (hr : r ∈ s.cluster.failoverRuns.ids)
      (hph : (s.cluster.failoverRun r).phase = .rollbackPromotingSource) :=
    (hseen r hr).target (.inl hph)
  refine ⟨hfwd, hback, ?_, ?_⟩
  · intro n now a hoffer hpromote
    obtain ⟨r, hr, ⟨hph, hn⟩ | ⟨hph, hn⟩⟩ := promotion_phase hoffer hpromote
    · exact ⟨r, hr, .inl ⟨hn, hfwd r (Table.newest?_eq_some hr).1 hph⟩⟩
    · exact ⟨r, hr, .inr ⟨hn, hback r (Table.newest?_eq_some hr).1 hph⟩⟩
  · intro n n' now now' a a' hoffer hoffer'
    exact desiredFailoverAction_unique hoffer hoffer'

/-- The sample handover reaches `PROMOTING_TARGET`, having seen the release. -/
theorem promotion_follows_release_sample :
    ∃ h, haMachine.History sampleSys h (haMachine.run sampleSys samplePromotingRun) ∧
      ((haMachine.run sampleSys samplePromotingRun).cluster.failoverRun 1).phase =
        .promotingTarget ∧
      OnceSince (StartsRun 1) (SeesReleased 1) h := by
  have hnil : haMachine.History sampleSys [] sampleSys := .nil
  obtain ⟨h, hist⟩ := hnil.run samplePromotingRun
  refine ⟨h, hist, by decide +kernel, ?_⟩
  have hseen := (promotion_follows_release sampleSys_initial hist).1 1 (by decide +kernel)
    (by decide +kernel)
  have hsrc : ((haMachine.run sampleSys samplePromotingRun).cluster.failoverRun 1).sourceNodeId =
      1 := by decide +kernel
  rwa [hsrc] at hseen

end Kaya.HA
