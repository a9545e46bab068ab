import Kaya.Cutover.Upgrade

/-!
# Which database is authoritative

The two markers of an upgrade, the state file and the table in the target, agree as far as it
matters (`UpgradeInvariant`): once an upgrade has written, the state file says so; a target that has
become authoritative has a completed marker, and no run ever works on it again, because `migrate`
turns down a target with tables. One lemma says what a statement does to each (`Stage.step_cases`
and below), and the invariant is the induction over the steps.
-/

namespace Kaya.Cutover

open Option
open Function (Injective)

variable {δ : Type}

/-! ### The stages -/

/-- `migrate` has seen an empty target, and authority has not been given away. -/
def Stage.owns : Stage → Bool
  | .enteringPrecheck => false
  | .preflighting => false
  | .backingUp => false
  | .enteringMaintenance => false
  | .converting => false
  | .preflightingConversion => false
  | .checkingTarget => false
  | .returning => false
  | .handling _ => false
  | _ => true

/-- The marker of the target is there, and not yet completed. -/
def Stage.isOpen : Stage → Bool
  | .preparingTarget => true
  | .enteringPostgresPrepared => true
  | .startingCopy => true
  | .enteringMigrating => true
  | .copying => true
  | .enteringValidating => true
  | .startingValidation => true
  | .validating => true
  | .completing => true
  | _ => false

/-- The marker of the target is completed. -/
def Stage.isCompleted : Stage → Bool
  | .checkingSource => true
  | .enteringPostgresReady => true
  | .measuring => true
  | .reporting => true
  | .checkingResult => true
  | .recordingPostgresReady => true
  | .writingReport => true
  | .enteringCutoverPending => true
  | .enteringPostgresActive => true
  | _ => false

/-- The result of `migrate` has been looked at. -/
def Stage.isChecked : Stage → Bool
  | .recordingPostgresReady => true
  | .writingReport => true
  | .enteringCutoverPending => true
  | .enteringPostgresActive => true
  | _ => false

/-- The target has a completed marker. -/
def Target.IsCompleted (target : Target) : Prop :=
  ∃ row rows, target = .marked (row :: rows) ∧ row.state = .completed

/-- The target has the marker of the run only. -/
def Target.IsOpen (target : Target) (migrationId : String) : Prop :=
  ∃ row, target = .marked [row] ∧ row.migrationId = migrationId

/-- What a run relies on at a stage. -/
structure StageFacts (run : Run δ) (target : Target) (authoritative : List δ) (stage : Stage) :
    Prop where
  owned : stage.owns = true → run.target ∉ authoritative
  isOpen : stage.isOpen = true → target.IsOpen run.readings.migrationId
  completed : stage.isCompleted = true → target.IsCompleted
  returned : stage.isChecked = true → run.returned = some .completed

/-! ### What a statement does -/

section Statements

variable {run : Run δ} {target : Target} {stage stage' : Stage}

theorem target_assign (run : Run δ) (stage : Stage) : (stage.assign run).target = run.target := by
  cases stage <;> rfl

theorem readings_assign (run : Run δ) (stage : Stage) :
    (stage.assign run).readings = run.readings := by
  cases stage <;> rfl

/-- Where what a stage relies on comes from. -/
theorem Stage.flags_of_next (h : stage.next run = some stage') :
    (stage'.owns = true →
      stage = .checkingTarget ∨ stage.owns = true ∧ stage ≠ .enteringPostgresActive) ∧
    (stage'.isOpen = true → stage = .creatingMarker ∨ stage.isOpen = true) ∧
    (stage'.isCompleted = true → stage = .completing ∨ stage.isCompleted = true) ∧
    (stage'.isChecked = true → stage = .checkingResult ∨ stage.isChecked = true) := by
  cases stage with
  | enteringMaintenance =>
    obtain rfl := some.inj h
    split <;> simp [Stage.owns, Stage.isOpen, Stage.isCompleted, Stage.isChecked]
  | _ => cases h <;> simp [Stage.owns, Stage.isOpen, Stage.isCompleted, Stage.isChecked]

/-- An exception leads to a handler. -/
theorem Stage.afterException_eq (h : stage.afterException run = some stage') :
    stage' = .markingFailed ∧ stage.owns = true ∧ stage ≠ .enteringPostgresActive ∨
      ∃ migrationId, stage' = .handling migrationId := by
  cases stage <;> cases h <;> simp [Stage.isGuarded, Stage.owns]

section

variable (h : target.IsOpen run.readings.migrationId)

include h

theorem Target.IsOpen.stateUpdate
    (migrationId : String) (state : Migration.MigrationState) :
    (target.stateUpdate migrationId state).IsOpen run.readings.migrationId := by
  obtain ⟨row, rfl, hid⟩ := h
  refine ⟨_, rfl, ?_⟩
  dsimp only
  split
  · exact hid
  · exact hid

theorem Target.IsOpen.complete :
    (target.stateUpdate run.readings.migrationId .completed).IsCompleted := by
  obtain ⟨row, rfl, hid⟩ := h
  refine ⟨_, _, rfl, ?_⟩
  dsimp only
  rw [if_pos hid]

theorem Target.IsOpen.effect :
    (stage.effect run target).IsOpen run.readings.migrationId ∨ stage = .creatingMarker := by
  cases stage with
  | creatingMarker => exact .inr rfl
  | startingCopy => exact .inl (h.stateUpdate _ _)
  | startingValidation => exact .inl (h.stateUpdate _ _)
  | completing => exact .inl (h.stateUpdate _ _)
  | markingFailed => exact .inl (h.stateUpdate _ _)
  | _ => exact .inl h

end

theorem Stage.effect_of_isCompleted (h : stage.isCompleted = true) :
    stage.effect run target = target := by
  cases stage <;> first | rfl | exact absurd h (by simp [Stage.isCompleted])

theorem Stage.assign_of_isChecked (h : stage.isChecked = true) : stage.assign run = run := by
  cases stage <;> first | rfl | exact absurd h (by simp [Stage.isChecked])

/-- **A statement leaves what the next one relies on.** -/
theorem StageFacts.next {authoritative : List δ} (h : StageFacts run target authoritative stage)
    (hrefuses : stage.refuses run target = false)
    (hempty : target = .empty → run.target ∉ authoritative) (hnext : stage.next run = some stage') :
    StageFacts (stage.assign run) (stage.effect run target)
      (if stage = .enteringPostgresActive then run.target :: authoritative else authoritative)
      stage' where
  owned howns := by
    rw [target_assign]
    obtain rfl | ⟨hstage, hne⟩ := (Stage.flags_of_next hnext).1 howns
    · rw [if_neg (by simp)]
      exact hempty (by simpa [Stage.refuses] using hrefuses)
    · rw [if_neg hne]
      exact h.owned hstage
  isOpen hopen := by
    rw [readings_assign]
    obtain rfl | hstage := (Stage.flags_of_next hnext).2.1 hopen
    · exact ⟨run.markerRow, rfl, rfl⟩
    · refine (h.isOpen hstage).effect.resolve_right ?_
      rintro rfl
      exact absurd hstage (by simp [Stage.isOpen])
  completed hcompl := by
    obtain rfl | hstage := (Stage.flags_of_next hnext).2.2.1 hcompl
    · exact (h.isOpen rfl).complete
    · rw [Stage.effect_of_isCompleted hstage]
      exact h.completed hstage
  returned hchecked := by
    obtain rfl | hstage := (Stage.flags_of_next hnext).2.2.2 hchecked
    · show run.returned = some .completed
      simpa [Stage.refuses] using hrefuses
    · rw [Stage.assign_of_isChecked hstage]
      exact h.returned hstage

/-- A stage with no more than the target relies on little. -/
theorem StageFacts.of_owned {run : Run δ} {target : Target} {authoritative : List δ}
    (howned : stage.owns = true → run.target ∉ authoritative) (hopen : stage.isOpen = false)
    (hcompl : stage.isCompleted = false) (hchecked : stage.isChecked = false) :
    StageFacts run target authoritative stage where
  owned := howned
  isOpen h := absurd (hopen.symm.trans h) Bool.false_ne_true
  completed h := absurd (hcompl.symm.trans h) Bool.false_ne_true
  returned h := absurd (hchecked.symm.trans h) Bool.false_ne_true

/-- What an exception leads to relies on little. -/
theorem StageFacts.afterException {authoritative : List δ} {run' : Run δ} {target' : Target}
    (h : StageFacts run target authoritative stage) (hrun : run'.target = run.target)
    (hexc : stage.afterException run = some stage') :
    stage ≠ .enteringPostgresActive ∧ StageFacts run' target' authoritative stage' ∨
      ∀ authoritative, StageFacts run' target' authoritative stage' := by
  obtain ⟨rfl, howns, hne⟩ | ⟨migrationId, rfl⟩ := Stage.afterException_eq hexc
  · exact .inl ⟨hne, .of_owned (fun _ ↦ hrun ▸ h.owned howns) rfl rfl rfl⟩
  · exact .inr fun _ ↦ .of_owned (fun howns ↦ absurd howns (by simp [Stage.owns])) rfl rfl rfl

/-- What is written says that an upgrade has been started, and `POSTGRES_ACTIVE` only after the
result of `migrate`. -/
theorem Stage.isUpgrade_of_written {persisted : Persisted}
    (h : stage.written run = some persisted) :
    persisted.state.isUpgrade ∧
      (persisted.state = .postgresActive → stage = .enteringPostgresActive) ∧
        (persisted.state = .failed → ∃ migrationId, stage = .handling migrationId) := by
  cases stage <;> cases h <;>
    simp [UpgradeState.isUpgrade, UpgradeState.needsRecovery, Run.persisted, Run.reported]

/-- The target of a run keeps its marker from an exception on. -/
theorem Stage.effect_of_not_owns (h : stage.owns = false) : stage.effect run target = target := by
  cases stage <;> first | rfl | exact absurd h (by simp [Stage.owns])

end Statements

/-! ### Every run -/

section Runs

variable {host : Host} {s : Upgrade δ} {target : δ} {run : Run δ} {stage : Stage}

/-- What holds in every state. -/
structure UpgradeInvariant (s : Upgrade δ) : Prop where
  unstarted : s.started = false →
    s.authoritative = [] ∧ ∀ persisted ∈ s.marker, persisted.state = .sqliteActive
  started : s.started = true → ∃ persisted, s.marker = some persisted ∧ persisted.state.isUpgrade
  writer : ∀ persisted ∈ s.marker, persisted.state = .postgresActive →
    ∃ run, s.writer = some run ∧ run.returned = some .completed
  completed : ∀ target ∈ s.authoritative, (s.targets target).IsCompleted
  process : ∀ run stage, s.process = some (run, stage) →
    StageFacts run (s.targets run.target) s.authoritative stage
  unfailed : s.process ≠ none → ∀ persisted ∈ s.marker, persisted.state ≠ .failed

theorem UpgradeInvariant.not_authoritative (h : UpgradeInvariant s)
    (hnot : ¬ (s.targets target).IsCompleted) : target ∉ s.authoritative :=
  fun hmem ↦ hnot (h.completed target hmem)

theorem Target.not_isCompleted_of_failed {target : Target} {row : MarkerRow}
    {rows : List MarkerRow} (htgt : target = .marked (row :: rows))
    (hfailed : row.state = .failed) : ¬ target.IsCompleted := by
  rintro ⟨row', rows', htgt', hcompl⟩
  obtain ⟨rfl, -⟩ := List.cons.inj (Target.marked.inj (htgt.symm.trans htgt'))
  exact absurd (hfailed.symm.trans hcompl) (by simp)

theorem Target.not_isCompleted_empty : ¬ Target.empty.IsCompleted := by
  rintro ⟨row, rows, h, -⟩
  exact absurd h (by simp)

/-- The process goes on elsewhere, or ends. -/
theorem UpgradeInvariant.setProcess (h : UpgradeInvariant s) {process : Option (Run δ × Stage)}
    (hproc : ∀ run stage, process = some (run, stage) →
      StageFacts run (s.targets run.target) s.authoritative stage)
    (hfailed : process ≠ none → ∀ persisted ∈ s.marker, persisted.state ≠ .failed) :
    UpgradeInvariant { s with process } :=
  ⟨h.unstarted, h.started, h.writer, h.completed, hproc, hfailed⟩

theorem UpgradeInvariant.leave (h : UpgradeInvariant s)
    (hproc : s.process = some (run, stage)) : UpgradeInvariant (s.leave run stage) := by
  refine h.setProcess (fun run' stage' hstage ↦ ?_) fun _ ↦ h.unfailed (by simp [hproc])
  obtain ⟨_, hexc, hpair⟩ := map_eq_some_iff.1 hstage
  cases hpair
  obtain ⟨-, hfacts⟩ | hfacts := (h.process run stage hproc).afterException rfl hexc
  · exact hfacts
  · exact hfacts s.authoritative

/-- A run is not started from `FAILED`. -/
theorem unfailed_of_startUpgrade {disk : Disk} {marker : Option Persisted}
    {sourcePath : String} {backup : Option String} {readings : Readings}
    (h : startUpgrade host disk marker target sourcePath backup readings = .ok run) :
    ∀ persisted ∈ marker, persisted.state ≠ .failed := by
  rintro persisted rfl hfailed
  rw [startUpgrade, require_bind_eq_ok, bind_eq_ok] at h
  obtain ⟨-, installation, hinstallation, h⟩ := h
  obtain ⟨heligible, -⟩ := require_bind_eq_ok.1 h
  obtain hst | hst := detectInstallation_persisted hinstallation
  · rw [hst, hfailed] at heligible
    exact absurd heligible (by simp)
  · rw [hst] at heligible
    exact absurd heligible (by simp)

/-- A call that permits a retry finds a failed upgrade, and leaves `PRECHECK`. -/
theorem UpgradeInvariant.permit (h : UpgradeInvariant s)
    {outcome : Except String (String × Persisted)}
    (houtcome : ∀ backup written, outcome = .ok (backup, written) →
      PermitsRetry host s.disk s.marker backup written) : UpgradeInvariant (s.permit outcome) := by
  obtain _ | ⟨backup, written⟩ := outcome
  · exact h
  obtain ⟨⟨persisted, hmarker, hfailed⟩, hprecheck, -⟩ := houtcome backup written rfl
  have hnone : s.process = none := by
    by_contra hproc
    exact h.unfailed hproc persisted hmarker hfailed
  have hstarted : s.started = true := by
    by_contra hunstarted
    have hlive := (h.unstarted (Bool.eq_false_iff.2 hunstarted)).2 persisted hmarker
    exact absurd (hlive.symm.trans hfailed) (by simp)
  refine ⟨fun hunstarted ↦ ?_, fun _ ↦ ⟨written, rfl, .inl (by rw [hprecheck]; rfl)⟩,
    fun current hcur hlive ↦ ?_, h.completed, h.process, fun hproc ↦ absurd hnone hproc⟩
  · exact absurd (hstarted.symm.trans hunstarted) (by simp)
  · obtain rfl := some.inj hcur
    exact absurd (hprecheck.symm.trans hlive) (by simp)

section Take

variable [DecidableEq δ] {run : Run δ} {stage : Stage} {next : Option Stage} {target : δ}

/-- What is in the state file has been written now or before. -/
theorem mem_marker_take {persisted : Persisted} (h : persisted ∈ (s.take run stage next).marker) :
    stage.written run = some persisted ∨ stage.written run = none ∧ persisted ∈ s.marker := by
  have hor : (stage.written run).or s.marker = some persisted := h
  cases hwritten : stage.written run with
  | none =>
    rw [hwritten, none_or] at hor
    exact .inr ⟨rfl, hor⟩
  | some persisted' =>
    rw [hwritten, some_or] at hor
    exact .inl hor

theorem targets_take_of_not_owns (h : stage.owns = false) :
    (s.take run stage next).targets = s.targets := by
  show Function.update s.targets run.target (stage.effect run (s.targets run.target)) = s.targets
  rw [Stage.effect_of_not_owns h, Function.update_eq_self]

theorem targets_take_of_ne (h : target ≠ run.target) :
    (s.take run stage next).targets target = s.targets target :=
  Function.update_of_ne h _ _

theorem targets_take_self :
    (s.take run stage next).targets run.target = stage.effect run (s.targets run.target) :=
  Function.update_self _ _ _

/-- A statement keeps the completed markers of the authoritative targets. -/
theorem UpgradeInvariant.completed_take (h : UpgradeInvariant s)
    (hproc : s.process = some (run, stage))
    (htgt : target ∈ (s.take run stage next).authoritative) :
    ((s.take run stage next).targets target).IsCompleted := by
  have hfacts := h.process run stage hproc
  have hold : target ∈ s.authoritative →
      ((s.take run stage next).targets target).IsCompleted := by
    intro hmem
    by_cases heq : target = run.target
    · subst heq
      have howns : stage.owns = false :=
        Bool.eq_false_iff.2 fun howns ↦ hfacts.owned howns hmem
      rw [targets_take_of_not_owns howns]
      exact h.completed _ hmem
    · rw [targets_take_of_ne heq]
      exact h.completed _ hmem
  by_cases hlive : stage = .enteringPostgresActive
  · subst hlive
    have hcons : target ∈ run.target :: s.authoritative := htgt
    obtain rfl | hmem := List.mem_cons.1 hcons
    · rw [targets_take_self]
      exact hfacts.completed rfl
    · exact hold hmem
  · have hsame : (s.take run stage next).authoritative = s.authoritative := if_neg hlive
    exact hold (hsame ▸ htgt)

theorem UpgradeInvariant.process_take (h : UpgradeInvariant s)
    (hproc : s.process = some (run, stage))
    (hrefuses : stage.refuses run (s.targets run.target) = false)
    (hnext : next = stage.next run ∨ next = stage.afterException run) {run' : Run δ}
    {stage' : Stage} (hproc' : (s.take run stage next).process = some (run', stage')) :
    StageFacts run' ((s.take run stage next).targets run'.target)
      (s.take run stage next).authoritative stage' := by
  have hfacts := h.process run stage hproc
  obtain ⟨_, hstage', hpair⟩ := map_eq_some_iff.1 hproc'
  cases hpair
  rw [target_assign, targets_take_self]
  obtain rfl | rfl := hnext
  · refine hfacts.next hrefuses (fun hempty ↦ h.not_authoritative ?_) hstage'
    rw [hempty]
    exact Target.not_isCompleted_empty
  · obtain ⟨hne, hkept⟩ | hkept := hfacts.afterException (target_assign run stage) hstage'
    · have hsame : (s.take run stage (stage.afterException run)).authoritative =
          s.authoritative := if_neg hne
      rw [hsame]
      exact hkept
    · exact hkept _

/-- **A statement keeps the invariant.** -/
theorem UpgradeInvariant.take (h : UpgradeInvariant s) (hproc : s.process = some (run, stage))
    (hrefuses : stage.refuses run (s.targets run.target) = false)
    (hnext : next = stage.next run ∨ next = stage.afterException run) :
    UpgradeInvariant (s.take run stage next) where
  unstarted hstarted := by
    obtain ⟨hold, hnone⟩ := Bool.or_eq_false_iff.1 hstarted
    have hwritten : stage.written run = none := by simpa using hnone
    have hne : stage ≠ .enteringPostgresActive := by
      rintro rfl
      exact absurd hwritten (by simp [Stage.written])
    obtain ⟨hauthor, hmarker⟩ := h.unstarted hold
    refine ⟨(if_neg hne).trans hauthor, fun persisted hpers ↦ ?_⟩
    obtain hnew | ⟨-, hmem⟩ := mem_marker_take hpers
    · exact absurd (hwritten.symm.trans hnew) (by simp)
    · exact hmarker persisted hmem
  started hstarted := by
    cases hwritten : stage.written run with
    | some persisted =>
      exact ⟨persisted, by simp [Upgrade.take, hwritten], (Stage.isUpgrade_of_written hwritten).1⟩
    | none =>
      have hold : s.started = true := by simpa [Upgrade.take, hwritten] using hstarted
      obtain ⟨persisted, hmarker, hupgrade⟩ := h.started hold
      exact ⟨persisted, by simp [Upgrade.take, hwritten, hmarker], hupgrade⟩
  writer persisted hpers hlive := by
    obtain hnew | ⟨hnone, hmem⟩ := mem_marker_take hpers
    · obtain rfl := (Stage.isUpgrade_of_written hnew).2.1 hlive
      exact ⟨run, rfl, (h.process run _ hproc).returned rfl⟩
    · obtain ⟨writer, hwriter, hreturned⟩ := h.writer persisted hmem hlive
      exact ⟨writer, by simp [Upgrade.take, hnone, hwriter], hreturned⟩
  completed _ htgt := h.completed_take hproc htgt
  process _ _ hproc' := h.process_take hproc hrefuses hnext hproc'
  unfailed hsome persisted hpers hfailed := by
    obtain hnew | ⟨-, hmem⟩ := mem_marker_take hpers
    · obtain ⟨migrationId, rfl⟩ := (Stage.isUpgrade_of_written hnew).2.2 hfailed
      obtain rfl | rfl := hnext
      · exact hsome rfl
      · exact hsome rfl
    · exact h.unfailed (by simp [hproc]) persisted hmem hfailed

end Take

theorem UpgradeInvariant.call [DecidableEq δ] (h : UpgradeInvariant s) (hproc : s.process = none)
    (e : UpgradeEvent δ) : UpgradeInvariant (s.call host e) := by
  cases e with
  | runUpgrade target sourcePath recoveryBackup readings =>
    rw [Upgrade.call]
    split
    next run hrun =>
      refine h.setProcess (fun run' stage' hstage ↦ ?_) fun _ ↦ unfailed_of_startUpgrade hrun
      cases hstage
      exact .of_owned (fun howns ↦ absurd howns (by simp [Stage.owns])) rfl rfl rfl
    next => exact h
  | cleanFailedTarget target migrationId fingerprint hasDataDir =>
    rw [Upgrade.call]
    split
    next cleaned hcleaned =>
      obtain ⟨-, row, rows, htgt, hfailed, -⟩ := cleanFailedTarget_eq_ok hcleaned
      have hnot := h.not_authoritative (Target.not_isCompleted_of_failed htgt hfailed)
      refine ⟨h.unstarted, h.started, h.writer, fun target' htgt' ↦ ?_,
        fun run stage hstage ↦ ?_, h.unfailed⟩
      · have hne : target' ≠ target := fun heq ↦ hnot (heq ▸ htgt')
        show (Function.update s.targets target cleaned target').IsCompleted
        rw [Function.update_of_ne hne]
        exact h.completed target' htgt'
      · exact absurd (hproc.symm.trans hstage) (by simp)
    next => exact h
  | prepareFailedRetry fingerprint =>
    exact h.permit fun _ _ hok ↦ permitsRetry_of_prepareFailedRetry hok
  | prepareFailedPretargetRetry target =>
    exact h.permit fun _ _ hok ↦ permitsRetry_of_prepareFailedPretargetRetry hok
  | _ => exact h

theorem UpgradeInvariant.progress [DecidableEq δ] (h : UpgradeInvariant s)
    (hproc : s.process = some (run, stage)) (e : UpgradeEvent δ) :
    UpgradeInvariant (s.progress run stage e) := by
  cases e with
  | proceed =>
    rw [Upgrade.progress]
    split_ifs with hrefuses
    · exact h.leave hproc
    · exact h.take hproc (Bool.eq_false_iff.2 hrefuses) (.inl rfl)
  | raise taken =>
    rw [Upgrade.progress]
    split_ifs with htaken
    · rw [Bool.and_eq_true, Bool.not_eq_true'] at htaken
      exact h.take hproc htaken.2 (.inr rfl)
    · exact h.leave hproc
  | kill =>
    exact h.setProcess (fun _ _ hstage ↦ absurd hstage (by simp)) fun hsome ↦ absurd rfl hsome
  | _ => exact h

theorem UpgradeInvariant.step [DecidableEq δ] (h : UpgradeInvariant s) (e : UpgradeEvent δ) :
    UpgradeInvariant (upgradeStep host s e) := by
  unfold upgradeStep
  split
  next => exact ⟨h.unstarted, h.started, h.writer, h.completed, h.process, h.unfailed⟩
  next hproc => exact h.call hproc _
  next run stage hproc => exact h.progress hproc _

theorem upgradeInvariant [DecidableEq δ] (h : (upgradeMachine host).Reachable s) :
    UpgradeInvariant s := by
  refine Machine.ReachableBy.invariant (P := UpgradeInvariant) ?_ ?_ h
  · intro s hinit
    refine ⟨fun _ ↦ ⟨hinit.authoritative, hinit.marker⟩, fun hstarted ↦ ?_,
      fun persisted hpers hlive ↦ ?_, fun target htgt ↦ ?_, fun run stage hstage ↦ ?_,
      fun hproc ↦ absurd hinit.process hproc⟩
    · exact absurd (hinit.started.symm.trans hstarted) (by simp)
    · exact absurd ((hinit.marker persisted hpers).symm.trans hlive) (by simp)
    · exact absurd (hinit.authoritative ▸ htgt) List.not_mem_nil
    · exact absurd (hinit.process.symm.trans hstage) (by simp)
  · intro s e hs _
    exact hs.step e

/-- Only a call that permits a retry takes the state file out of `FAILED`. -/
theorem permitsRetry_of_step [DecidableEq δ] (h : UpgradeInvariant s) {persisted : Persisted}
    (hmarker : s.marker = some persisted) (hfailed : persisted.state = .failed)
    {e : UpgradeEvent δ} (hchg : (upgradeStep host s e).marker ≠ s.marker) :
    ∃ backup written, (upgradeStep host s e).marker = some written ∧
      PermitsRetry host s.disk s.marker backup written := by
  have hproc : s.process = none := by
    by_contra hsome
    exact h.unfailed hsome persisted hmarker hfailed
  have hpermit : ∀ outcome : Except String (String × Persisted),
      (s.permit outcome).marker ≠ s.marker → (∀ backup written, outcome = .ok (backup, written) →
          PermitsRetry host s.disk s.marker backup written) →
        ∃ backup written, (s.permit outcome).marker = some written ∧
          PermitsRetry host s.disk s.marker backup written := by
    rintro (_ | ⟨backup, written⟩) hne houtcome
    · exact absurd rfl hne
    · exact ⟨backup, written, rfl, houtcome backup written rfl⟩
  unfold upgradeStep at hchg ⊢
  rw [hproc] at hchg ⊢
  cases e with
  | prepareFailedRetry fingerprint =>
    exact hpermit _ hchg fun _ _ hok ↦ permitsRetry_of_prepareFailedRetry hok
  | prepareFailedPretargetRetry target =>
    exact hpermit _ hchg fun _ _ hok ↦ permitsRetry_of_prepareFailedPretargetRetry hok
  | runUpgrade target sourcePath recoveryBackup readings =>
    dsimp only [Upgrade.call] at hchg
    split at hchg
    · exact absurd rfl hchg
    · exact absurd rfl hchg
  | cleanFailedTarget target migrationId fingerprint hasDataDir =>
    dsimp only [Upgrade.call] at hchg
    split at hchg
    · exact absurd rfl hchg
    · exact absurd rfl hchg
  | _ => exact absurd rfl hchg

/-- Authority goes from SQLite to PostgreSQL once, and nothing authoritative is lost. -/
structure AuthorityIsSafe [DecidableEq δ] (host : Host) (s : Upgrade δ) : Prop where
  /-- The run that has written `POSTGRES_ACTIVE` had `COMPLETED` from `migrate`. -/
  active : ∀ persisted ∈ s.marker, persisted.state = .postgresActive →
    ∃ run, s.writer = some run ∧ run.returned = some .completed
  /-- SQLite is taken only before any upgrade. -/
  sqlite : ∀ configuredUrl url,
    authoritativeDatabaseUrl host.resolve s.disk.isFile s.marker configuredUrl = .ok url →
      url.isSqlite = true → s.started = false ∧ s.authoritative = [] ∧
        ∀ persisted ∈ s.marker, persisted.state = .sqliteActive
  /-- A retry is permitted only of a source that is as its verified backup. -/
  failedRetry : ∀ fingerprint backup written,
    prepareFailedRetry host s.disk s.marker fingerprint = .ok (backup, written) →
      ∃ source, written.sourcePath = some source ∧ SameAsBackup host s.disk source backup
  pretargetRetry : ∀ target backup written,
    prepareFailedPretargetRetry host s.disk s.marker (s.targets target) = .ok (backup, written) →
      ∃ source, written.sourcePath = some source ∧ SameAsBackup host s.disk source backup
  /-- No other call takes the state file out of `FAILED`. -/
  recovered : ∀ persisted e, s.marker = some persisted → persisted.state = .failed →
    (upgradeStep host s e).marker ≠ s.marker → ∃ backup written source,
      (upgradeStep host s e).marker = some written ∧ written.sourcePath = some source ∧
        SameAsBackup host s.disk source backup
  /-- What is dropped has a failed marker with the id, and has never been authoritative. -/
  cleaned : ∀ target migrationId fingerprint hasDataDir target',
    cleanFailedTarget host s.disk s.marker (s.targets target) migrationId fingerprint hasDataDir =
      .ok target' → (∃ row rows, s.targets target = .marked (row :: rows) ∧ row.state = .failed ∧
          row.migrationId = migrationId) ∧ target ∉ s.authoritative

/-- **Authority is switched safely**, whatever fails or is killed, and whenever. -/
theorem upgrade_authority [DecidableEq δ] (hsha : Injective host.sha256)
    (h : (upgradeMachine host).Reachable s) : AuthorityIsSafe host s := by
  have hs : UpgradeInvariant s := upgradeInvariant h
  refine ⟨hs.writer, fun configuredUrl url hurl hsqlite ↦ ?_,
    fun fingerprint backup written hok ↦ ?_, fun target backup written hok ↦ ?_,
    fun persisted e hmarker hfailed hchg ↦ ?_,
    fun target migrationId fingerprint hasDataDir target' hok ↦ ?_⟩
  · have hunstarted : s.started = false := by
      rw [← Bool.not_eq_true]
      intro hstarted
      obtain ⟨persisted, hmarker, hupgrade⟩ := hs.started hstarted
      exact authoritativeDatabaseUrl_sqlite hurl hsqlite persisted hmarker hupgrade
    exact ⟨hunstarted, hs.unstarted hunstarted⟩
  · obtain ⟨source, hsrc, hsame⟩ := (permitsRetry_of_prepareFailedRetry hok).same
    exact ⟨source, hsrc, hsame hsha⟩
  · obtain ⟨source, hsrc, hsame⟩ := (permitsRetry_of_prepareFailedPretargetRetry hok).same
    exact ⟨source, hsrc, hsame hsha⟩
  · obtain ⟨backup, written, hwritten, hpermits⟩ :=
      permitsRetry_of_step hs hmarker hfailed hchg
    obtain ⟨source, hsrc, hsame⟩ := hpermits.same
    exact ⟨backup, written, source, hwritten, hsrc, hsame hsha⟩
  · obtain ⟨-, row, rows, htgt, hfailed, hid⟩ := cleanFailedTarget_eq_ok hok
    exact ⟨⟨row, rows, htgt, hfailed, hid⟩,
      hs.not_authoritative (Target.not_isCompleted_of_failed htgt hfailed)⟩

end Runs

/-! ### Examples -/

/-- A host with one revision, whose only database is an empty file. -/
def emptyHost : Host where
  script := { revisions := [("head", [])], expectedHead := "head", closed := by decide }
  sha256 bytes := String.ofList (hexText bytes)
  resolve path := path
  backupDir := "/data/backups"
  inDataDir _ := true
  readable _ := true
  contents _ := some { schema := [], tables := [] }
  revision _ := some "head"
  prepareDatabase _ := none

theorem emptyHost_sha256_injective : Injective emptyHost.sha256 :=
  fun _ _ h ↦ hexText_injective (String.ofList_injective h)

def emptyDisk : Disk where
  files path := if path = "/data/kaya.db" then some { main := [] } else none
  metadata := []

def readings : Readings where
  sourceRevision := some "head"
  sourceFingerprint := "physical"
  targetRevision := "head"
  snapshotFingerprint := "logical"
  convertedFingerprint := "physical"
  fingerprintBefore := "physical"
  migrationId := "first"

/-- An upgrade that fails after it has given the authority away, and a cleaning. -/
def lateFailure : List (UpgradeEvent String) :=
  .runUpgrade "kaya" "/data/kaya.db" none readings :: List.replicate 26 .proceed ++
    [.raise false, .proceed, .cleanFailedTarget "kaya" "first" "physical" false]

theorem upgrade_authority_lateFailure :
    AuthorityIsSafe emptyHost
      ((upgradeMachine emptyHost).run
        { disk := emptyDisk, marker := none, targets := fun _ ↦ .empty } lateFailure) :=
  upgrade_authority emptyHost_sha256_injective
    (.run _ (.start ⟨fun _ h ↦ absurd h (by simp), rfl, rfl, rfl⟩))

end Kaya.Cutover
