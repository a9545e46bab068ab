import Kaya.Library.Machine

/-!
# The completion marker

`migrate` of `app/db/sqlite_to_postgres.py` from its first look at the source to its return, one
statement at a time. The row of `kaya_migration_state` in the target is the marker: startup trusts a
target whose marker says `COMPLETED`. The process can be killed before every statement, every
statement can raise, also after the database has taken it, and another process can write the source
at any time. `sourceAtCompletion` keeps the source as it is when the marker is completed.

`migrate` looks at the source again only after `_validate_target` has completed the marker. The
marker is honest in every run in which the source does not change until then (`marker_honest`), and
in others it is not (`marker_lies`).
-/

namespace Kaya.Migration

open Option

/-- `STATE_PREPARING` and the others. -/
inductive MigrationState
  | preparing
  | copying
  | validating
  | completed
  | failed
  deriving DecidableEq

/-- `validation_state`. -/
inductive ValidationState
  | pending
  | running
  | passed
  | failed
  deriving DecidableEq

/-- The tables of the application, and their order in the plan. -/
structure Tables where
  application : List String
  order : List String
  /-- A plan of fewer tables is refused. -/
  complete : ∀ table ∈ application, table ∈ order

/-- The row of `kaya_migration_state`. -/
structure Marker (φ : Type) where
  sourceFingerprint : φ
  state : MigrationState
  validationState : ValidationState := .pending
  deriving DecidableEq

/-- The target. `hasTables` also counts tables of other origin. -/
structure Target (φ : Type) where
  hasTables : Bool := false
  marker : Option (Marker φ) := none
  copied : List String := []
  restored : Bool := false
  sequences : List String := []
  validated : List String := []

/-- The statement of `migrate` that is next. -/
inductive Stage
  | checkingTarget
  | backingUp
  | creating
  | preparing
  | planning
  | copying (rest : List String)
  | restoring
  | sequencing (rest : List String)
  | startingValidation
  | validating (rest : List String)
  | completing
  | checkingSource
  | handling
  deriving DecidableEq

/-- The source, the target, and the process with `fingerprint_before`. -/
structure Conversion (φ : Type) where
  source : φ
  target : Target φ := {}
  process : Option (φ × Stage) := none
  sourceAtCompletion : Option φ := none

variable {φ : Type}

/-- `_state_update`. -/
def Target.stateUpdate (target : Target φ) (update : Marker φ → Marker φ) : Target φ :=
  { target with marker := target.marker.map update }

/-- What the statement leaves in the target. -/
def Stage.effect (before : φ) (target : Target φ) : Stage → Target φ
  | .creating =>
    { target with
      hasTables := true
      marker := some { sourceFingerprint := before, state := .preparing } }
  | .planning => target.stateUpdate ({ · with state := .copying })
  | .copying (table :: _) => { target with copied := table :: target.copied }
  | .restoring => { target with restored := true }
  | .sequencing (table :: _) => { target with sequences := table :: target.sequences }
  | .startingValidation =>
    target.stateUpdate ({ · with state := .validating, validationState := .running })
  | .validating (table :: _) => { target with validated := table :: target.validated }
  | .completing => target.stateUpdate ({ · with state := .completed, validationState := .passed })
  | _ => target

/-- The statement after it. -/
def Stage.next (tables : Tables) : Stage → Option Stage
  | .checkingTarget => some .backingUp
  | .backingUp => some .creating
  | .creating => some .preparing
  | .preparing => some .planning
  | .planning => some (.copying tables.order)
  | .copying (_ :: rest) => some (.copying rest)
  | .copying [] => some .restoring
  | .restoring => some (.sequencing tables.application)
  | .sequencing (_ :: rest) => some (.sequencing rest)
  | .sequencing [] => some .startingValidation
  | .startingValidation => some (.validating tables.application)
  | .validating (_ :: rest) => some (.validating rest)
  | .validating [] => some .completing
  | .completing => some .checkingSource
  | .checkingSource => none
  | .handling => none

/-- The statement raises by itself: `_target_eligibility`, and the last look at the source. -/
def Stage.refuses [DecidableEq φ] (s : Conversion φ) (before : φ) : Stage → Bool
  | .checkingTarget => s.target.hasTables
  | .checkingSource => s.source ≠ before
  | _ => false

/-- Where an exception leads: only what follows the backup is inside the `try`. -/
def Stage.afterException : Stage → Option Stage
  | .checkingTarget => none
  | .backingUp => none
  | .handling => none
  | _ => some .handling

/-- The statement has been taken, and the process goes on at `next`. -/
def Conversion.take (s : Conversion φ) (before : φ) (stage : Stage) (next : Option Stage) :
    Conversion φ :=
  { s with
    target := stage.effect before s.target
    process := next.map (before, ·)
    sourceAtCompletion := if stage = .completing then some s.source else s.sourceAtCompletion }

inductive ConversionEvent (φ : Type)
  /-- Another process writes the source. -/
  | modify (source : φ)
  | start
  | proceed
  /-- An exception, before or after the database has taken the statement. -/
  | raise (taken : Bool)
  /-- The `except` clause, whose own statement may fail. -/
  | handle (taken : Bool)
  | kill

def conversionStep [DecidableEq φ] (tables : Tables) (s : Conversion φ) :
    ConversionEvent φ → Conversion φ
  | .modify source => { s with source }
  | .start =>
    match s.process with
    | none => { s with process := some (s.source, .checkingTarget) }
    | some _ => s
  | .proceed =>
    match s.process with
    | none => s
    | some (before, stage) =>
      if stage = .handling then s
      else if stage.refuses s before then
        { s with process := stage.afterException.map (before, ·) }
      else s.take before stage (stage.next tables)
  | .raise taken =>
    match s.process with
    | none => s
    | some (before, stage) =>
      if stage = .handling then s
      else if taken && !stage.refuses s before then s.take before stage stage.afterException
      else { s with process := stage.afterException.map (before, ·) }
  | .handle taken =>
    match s.process with
    | some (_, .handling) =>
      { s with
        target :=
          if taken then
            s.target.stateUpdate ({ · with state := .failed, validationState := .failed })
          else s.target
        process := none }
    | _ => s
  | .kill => { s with process := none }

/-- No migration has run. -/
structure ConversionInitial (s : Conversion φ) : Prop where
  marker : s.target.marker = none
  process : s.process = none

def conversionMachine [DecidableEq φ] (tables : Tables) :
    Machine (Conversion φ) (ConversionEvent φ) where
  init := ConversionInitial
  step := conversionStep tables

/-! ### What a completed marker stands for -/

/-- All that a migration does to the target has been done. -/
structure Complete (tables : Tables) (target : Target φ) : Prop where
  copied : ∀ table ∈ tables.application, table ∈ target.copied
  restored : target.restored = true
  sequences : ∀ table ∈ tables.application, table ∈ target.sequences
  validated : ∀ table ∈ tables.application, table ∈ target.validated

/-- A completed marker stands for a complete target and the source of the start. -/
def HonestMarker (tables : Tables) (s : Conversion φ) : Prop :=
  ∀ marker ∈ s.target.marker, marker.state = .completed →
    Complete tables s.target ∧ s.sourceAtCompletion = some marker.sourceFingerprint

/-- What has been done before a statement. -/
def Progress (tables : Tables) (target : Target φ) : Stage → Prop
  | .copying rest => ∀ table ∈ tables.order, table ∈ target.copied ∨ table ∈ rest
  | .restoring => ∀ table ∈ tables.order, table ∈ target.copied
  | .sequencing rest =>
    (∀ table ∈ tables.order, table ∈ target.copied) ∧ target.restored = true ∧
      ∀ table ∈ tables.application, table ∈ target.sequences ∨ table ∈ rest
  | .startingValidation =>
    (∀ table ∈ tables.order, table ∈ target.copied) ∧ target.restored = true ∧
      ∀ table ∈ tables.application, table ∈ target.sequences
  | .validating rest =>
    (∀ table ∈ tables.order, table ∈ target.copied) ∧ target.restored = true ∧
      (∀ table ∈ tables.application, table ∈ target.sequences) ∧
      ∀ table ∈ tables.application, table ∈ target.validated ∨ table ∈ rest
  | .completing => Complete tables target
  | _ => True

/-- The marker is there, and open. -/
def OpenMarker (before : φ) (target : Target φ) : Prop :=
  ∃ marker, target.marker = some marker ∧ marker.sourceFingerprint = before ∧
    marker.state ≠ .completed

/-- The marker before a statement. -/
def MarkerAt (before : φ) (target : Target φ) : Stage → Prop
  | .backingUp => target.marker = none
  | .creating => target.marker = none
  | .checkingTarget => True
  | .checkingSource => True
  | .handling => True
  | _ => OpenMarker before target

variable {tables : Tables} {before : φ} {target : Target φ}
  {table : String} {done : List String} {marker : Marker φ} {stage : Stage}

theorem mem_cons_or {head : String} {rest : List String}
    (h : table ∈ done ∨ table ∈ head :: rest) : table ∈ head :: done ∨ table ∈ rest := by
  rw [List.mem_cons] at h ⊢
  tauto

theorem mem_of_done (h : table ∈ done ∨ table ∈ []) : table ∈ done :=
  h.resolve_right List.not_mem_nil

/-- **A statement makes the progress that the next one relies on.** -/
theorem Progress.next {stage stage' : Stage} (h : Progress tables target stage)
    (hnext : stage.next tables = some stage') :
    Progress tables (stage.effect before target) stage' := by
  cases stage with
  | planning =>
    cases hnext
    exact fun table htable ↦ .inr htable
  | copying rest =>
    cases rest with
    | nil =>
      cases hnext
      exact fun table htable ↦ mem_of_done (h table htable)
    | cons head rest =>
      cases hnext
      exact fun table htable ↦ mem_cons_or (h table htable)
  | restoring =>
    cases hnext
    exact ⟨h, rfl, fun table htable ↦ .inr htable⟩
  | sequencing rest =>
    obtain ⟨hcopied, hrestored, hsequences⟩ := h
    cases rest with
    | nil =>
      cases hnext
      exact ⟨hcopied, hrestored, fun table htable ↦ mem_of_done (hsequences table htable)⟩
    | cons head rest =>
      cases hnext
      exact ⟨hcopied, hrestored, fun table htable ↦ mem_cons_or (hsequences table htable)⟩
  | startingValidation =>
    cases hnext
    exact ⟨h.1, h.2.1, h.2.2, fun table htable ↦ .inr htable⟩
  | validating rest =>
    obtain ⟨hcopied, hrestored, hsequences, hvalidated⟩ := h
    cases rest with
    | nil =>
      cases hnext
      exact ⟨fun table htable ↦ hcopied table (tables.complete table htable), hrestored,
        hsequences, fun table htable ↦ mem_of_done (hvalidated table htable)⟩
    | cons head rest =>
      cases hnext
      exact ⟨hcopied, hrestored, hsequences,
        fun table htable ↦ mem_cons_or (hvalidated table htable)⟩
  | handling => cases hnext
  | checkingSource => cases hnext
  | _ =>
    cases hnext
    trivial

theorem OpenMarker.not_completed (h : OpenMarker before target)
    (hmarker : marker ∈ target.marker) : marker.state ≠ .completed := by
  obtain ⟨current, hcur, -, hopen⟩ := h
  cases hcur.symm.trans hmarker
  exact hopen

theorem OpenMarker.stateUpdate (h : OpenMarker before target) {update : Marker φ → Marker φ}
    (hprint : ∀ marker, (update marker).sourceFingerprint = marker.sourceFingerprint)
    (hopen : ∀ marker, (update marker).state ≠ .completed) :
    OpenMarker before (target.stateUpdate update) := by
  obtain ⟨marker, hmarker, hbef, -⟩ := h
  exact ⟨update marker, congrArg (Option.map update) hmarker, (hprint marker).trans hbef,
    hopen marker⟩

/-- The loops over tables leave the marker alone. -/
theorem marker_loop {rest : List String}
    (h : stage = .copying rest ∨ stage = .sequencing rest ∨ stage = .validating rest) :
    (stage.effect before target).marker = target.marker := by
  rcases h with rfl | rfl | rfl
  · cases rest <;> rfl
  · cases rest <;> rfl
  · cases rest <;> rfl

/-- A statement leaves the marker that the next one finds. -/
theorem MarkerAt.next {stage stage' : Stage} (h : MarkerAt before target stage)
    (hnew : stage = .checkingTarget → target.marker = none)
    (hnext : stage.next tables = some stage') :
    MarkerAt before (stage.effect before target) stage' := by
  cases stage with
  | checkingTarget =>
    cases hnext
    exact hnew rfl
  | creating =>
    cases hnext
    exact ⟨_, rfl, rfl, by simp⟩
  | planning =>
    cases hnext
    exact OpenMarker.stateUpdate h (fun _ ↦ rfl) (by simp)
  | startingValidation =>
    cases hnext
    exact OpenMarker.stateUpdate h (fun _ ↦ rfl) (by simp)
  | copying rest =>
    cases rest with
    | nil =>
      cases hnext
      exact h
    | cons head rest =>
      cases hnext
      exact h
  | sequencing rest =>
    cases rest with
    | nil =>
      cases hnext
      exact h
    | cons head rest =>
      cases hnext
      exact h
  | validating rest =>
    cases rest with
    | nil =>
      cases hnext
      exact h
    | cons head rest =>
      cases hnext
      exact h
  | completing =>
    cases hnext
    trivial
  | checkingSource => cases hnext
  | handling => cases hnext
  | _ =>
    cases hnext
    exact h

/-- Only one statement completes the marker. -/
theorem completed_effect (h : MarkerAt before target stage)
    (hmarker : marker ∈ (stage.effect before target).marker) (hst : marker.state = .completed) :
    stage = .completing ∧ marker.sourceFingerprint = before ∨ stage.effect before target = target ∧
      (stage = .checkingTarget ∨ stage = .checkingSource ∨ stage = .handling) := by
  cases stage with
  | checkingTarget => exact .inr ⟨rfl, .inl rfl⟩
  | checkingSource => exact .inr ⟨rfl, .inr (.inl rfl)⟩
  | handling => exact .inr ⟨rfl, .inr (.inr rfl)⟩
  | backingUp =>
    have hnone : target.marker = none := h
    exact absurd (hnone.symm.trans hmarker) (by simp)
  | creating =>
    cases hmarker
    exact absurd hst (by simp)
  | planning =>
    obtain ⟨old, -, rfl⟩ := map_eq_some_iff.1 hmarker
    exact absurd hst (by simp)
  | startingValidation =>
    obtain ⟨old, -, rfl⟩ := map_eq_some_iff.1 hmarker
    exact absurd hst (by simp)
  | completing =>
    obtain ⟨current, hcur, hprint, -⟩ := h
    obtain ⟨old, hold, rfl⟩ := map_eq_some_iff.1 hmarker
    cases hcur.symm.trans hold
    exact .inl ⟨rfl, hprint⟩
  | copying rest =>
    exact absurd hst (OpenMarker.not_completed h (marker_loop (.inl rfl) ▸ hmarker))
  | sequencing rest =>
    exact absurd hst (OpenMarker.not_completed h (marker_loop (.inr (.inl rfl)) ▸ hmarker))
  | validating rest =>
    exact absurd hst (OpenMarker.not_completed h (marker_loop (.inr (.inr rfl)) ▸ hmarker))
  | _ => exact absurd hst (OpenMarker.not_completed h hmarker)

theorem marker_effect_eq_none (h : (stage.effect before target).hasTables = false)
    (hnone : target.hasTables = false → target.marker = none) :
    (stage.effect before target).marker = none := by
  cases stage with
  | creating => exact absurd h (by simp [Stage.effect])
  | planning => exact congrArg (Option.map _) (hnone h)
  | startingValidation => exact congrArg (Option.map _) (hnone h)
  | completing => exact congrArg (Option.map _) (hnone h)
  | copying rest =>
    rw [marker_loop (.inl rfl)]
    cases rest <;> exact hnone h
  | sequencing rest =>
    rw [marker_loop (.inr (.inl rfl))]
    cases rest <;> exact hnone h
  | validating rest =>
    rw [marker_loop (.inr (.inr rfl))]
    cases rest <;> exact hnone h
  | _ => exact hnone h

/-! ### Every run -/

section Runs

variable {s : Conversion φ} {process : Option (φ × Stage)} {stage : Stage} {next : Option Stage}

/-- What a process relies on, and what a completed marker stands for whatever happens to the
source. -/
structure MarkerInvariant (tables : Tables) (s : Conversion φ) : Prop where
  progress : ∀ before stage, s.process = some (before, stage) → Progress tables s.target stage
  marker : ∀ before stage, s.process = some (before, stage) → MarkerAt before s.target stage
  untouched : s.target.hasTables = false → s.target.marker = none
  complete : ∀ marker ∈ s.target.marker, marker.state = .completed → Complete tables s.target

/-- What a process is before it has found anything out, or when it has failed. -/
def Rests (s : Conversion φ) (process : Option (φ × Stage)) : Prop :=
  ∀ before stage, process = some (before, stage) →
    stage = .handling ∨ stage = .checkingTarget ∧ s.source = before

/-- The process goes on at a statement that needs nothing, or ends. -/
theorem MarkerInvariant.setProcess (h : MarkerInvariant tables s) (hproc : Rests s process) :
    MarkerInvariant tables { s with process } where
  progress before stage hstage := by
    obtain rfl | ⟨rfl, -⟩ := hproc before stage hstage
    · trivial
    · trivial
  marker before stage hstage := by
    obtain rfl | ⟨rfl, -⟩ := hproc before stage hstage
    · trivial
    · trivial
  untouched := h.untouched
  complete := h.complete

theorem afterException_eq {before' : φ} {stage' : Stage}
    (h : stage.afterException.map (before, ·) = some (before', stage')) : stage' = .handling := by
  obtain ⟨exception, hexc, hpair⟩ := map_eq_some_iff.1 h
  cases hpair
  cases stage with
  | checkingTarget => cases hexc
  | backingUp => cases hexc
  | handling => cases hexc
  | _ =>
    cases hexc
    rfl

/-- What a step does. -/
inductive ConversionMove [DecidableEq φ] (tables : Tables) (s : Conversion φ)
    (e : ConversionEvent φ) : Conversion φ → Prop
  | modify (source : φ) (he : e = .modify source) : ConversionMove tables s e { s with source }
  | idle : ConversionMove tables s e s
  /-- The process starts, fails or ends. -/
  | rest (process : Option (φ × Stage)) (hproc : Rests s process) :
      ConversionMove tables s e { s with process }
  /-- A statement is taken. -/
  | take (before : φ) (stage : Stage) (next : Option Stage)
      (hproc : s.process = some (before, stage)) (hstage : stage ≠ .handling)
      (hrefuses : stage.refuses s before = false)
      (hnext : next = stage.next tables ∨ next = stage.afterException) :
      ConversionMove tables s e (s.take before stage next)
  /-- The `except` clause. -/
  | failed : ConversionMove tables s e
      { s with
        target := s.target.stateUpdate ({ · with state := .failed, validationState := .failed })
        process := none }

/-- What a step of a conversion does. -/
theorem conversionStep_move [DecidableEq φ] (tables : Tables) (s : Conversion φ)
    (e : ConversionEvent φ) : ConversionMove tables s e (conversionStep tables s e) := by
  have hnone : Rests s none := fun _ _ hstage ↦ absurd hstage (by simp)
  cases e with
  | modify source => exact .modify source rfl
  | start =>
    rw [conversionStep]
    split
    · refine .rest _ fun before stage hstage ↦ ?_
      cases hstage
      exact .inr ⟨rfl, rfl⟩
    · exact .idle
  | proceed =>
    rw [conversionStep]
    split
    · exact .idle
    next before stage hproc =>
      split_ifs with hstage hrefuses
      · exact .idle
      · exact .rest _ fun _ _ hnext ↦ .inl (afterException_eq hnext)
      · exact .take before stage _ hproc hstage (Bool.eq_false_iff.2 hrefuses) (.inl rfl)
  | raise taken =>
    rw [conversionStep]
    split
    · exact .idle
    next before stage hproc =>
      split_ifs with hstage htaken
      · exact .idle
      · rw [Bool.and_eq_true, Bool.not_eq_true'] at htaken
        exact .take before stage _ hproc hstage htaken.2 (.inr rfl)
      · exact .rest _ fun _ _ hnext ↦ .inl (afterException_eq hnext)
  | handle taken =>
    rw [conversionStep]
    split
    · cases taken with
      | true => exact .failed
      | false => exact .rest none hnone
    · exact .idle
  | kill => exact .rest none hnone

section

variable (h : MarkerInvariant tables s)

include h

theorem MarkerInvariant.complete_effect
    (hproc : s.process = some (before, stage)) {marker : Marker φ}
    (hmarker : marker ∈ (stage.effect before s.target).marker)
    (hst : marker.state = .completed) : Complete tables (stage.effect before s.target) := by
  obtain ⟨rfl, -⟩ | ⟨hsame, -⟩ := completed_effect (h.marker before stage hproc) hmarker hst
  · have hdone : Complete tables s.target := h.progress before _ hproc
    exact ⟨hdone.copied, hdone.restored, hdone.sequences, hdone.validated⟩
  · rw [hsame] at hmarker ⊢
    exact h.complete marker hmarker hst

/-- A statement is taken, and the process goes on or handles an exception. -/
theorem MarkerInvariant.take [DecidableEq φ]
    (hproc : s.process = some (before, stage)) (hrefuses : stage.refuses s before = false)
    (hnext : next = stage.next tables ∨ next = stage.afterException) :
    MarkerInvariant tables (s.take before stage next) := by
  have hnew : stage = .checkingTarget → s.target.marker = none := by
    rintro rfl
    exact h.untouched hrefuses
  refine ⟨fun before' stage' hstage ↦ ?_, fun before' stage' hstage ↦ ?_, fun hnone ↦ ?_,
    fun marker hmarker hst ↦ h.complete_effect hproc hmarker hst⟩
  · obtain rfl | rfl := hnext
    · obtain ⟨_, hcur, hpair⟩ := map_eq_some_iff.1 hstage
      cases hpair
      exact (h.progress before stage hproc).next hcur
    · rw [afterException_eq hstage]
      trivial
  · obtain rfl | rfl := hnext
    · obtain ⟨_, hcur, hpair⟩ := map_eq_some_iff.1 hstage
      cases hpair
      exact (h.marker before stage hproc).next hnew hcur
    · rw [afterException_eq hstage]
      trivial
  · exact marker_effect_eq_none hnone h.untouched

theorem MarkerInvariant.handle :
    MarkerInvariant tables
      { s with
        target := s.target.stateUpdate ({ · with state := .failed, validationState := .failed })
        process := none } where
  progress _ _ hstage := absurd hstage (by simp)
  marker _ _ hstage := absurd hstage (by simp)
  untouched hnone := congrArg (Option.map _) (h.untouched hnone)
  complete marker hmarker hst := by
    obtain ⟨old, -, rfl⟩ := map_eq_some_iff.1 hmarker
    exact absurd hst (by simp)

theorem MarkerInvariant.step [DecidableEq φ]
    (e : ConversionEvent φ) : MarkerInvariant tables (conversionStep tables s e) := by
  have hmove := conversionStep_move tables s e
  generalize conversionStep tables s e = s' at hmove ⊢
  cases hmove with
  | modify source he => exact ⟨h.progress, h.marker, h.untouched, h.complete⟩
  | idle => exact h
  | rest process hproc => exact h.setProcess hproc
  | take before stage next hproc hstage hrefuses hnext => exact h.take hproc hrefuses hnext
  | failed => exact h.handle

end

/-- **Whatever happens to the source, a completed marker stands for a complete target.** -/
theorem markerInvariant [DecidableEq φ] (h : (conversionMachine tables).Reachable s) :
    MarkerInvariant tables s := by
  refine Machine.ReachableBy.invariant (P := MarkerInvariant tables) ?_ ?_ h
  · intro s hinit
    refine ⟨fun _ _ hstage ↦ ?_, fun _ _ hstage ↦ ?_, fun _ ↦ hinit.marker, fun marker hmarker ↦ ?_⟩
    · exact absurd (hinit.process.symm.trans hstage) (by simp)
    · exact absurd (hinit.process.symm.trans hstage) (by simp)
    · exact absurd (hinit.marker.symm.trans hmarker) (by simp)
  · intro s e hs _
    exact hs.step e

/-! ### Targets that are not empty -/

/-- A process has done no more than to look at the target. -/
def OnlyLooks (s : Conversion φ) : Prop :=
  ∀ before stage, s.process = some (before, stage) → stage = .checkingTarget

/-- `_target_eligibility` stops every process before it writes. -/
theorem OnlyLooks.step [DecidableEq φ] (h : OnlyLooks s) (htables : s.target.hasTables = true)
    (e : ConversionEvent φ) :
    (conversionStep tables s e).target = s.target ∧ OnlyLooks (conversionStep tables s e) := by
  rcases hproc : s.process with - | ⟨before, stage⟩
  · cases e <;> simp [conversionStep, hproc, OnlyLooks]
  · obtain rfl := h before stage hproc
    cases e <;> simp [conversionStep, hproc, OnlyLooks, Stage.refuses, htables,
      Stage.afterException]

theorem OnlyLooks.run [DecidableEq φ] (h : OnlyLooks s) (htables : s.target.hasTables = true)
    (es : List (ConversionEvent φ)) : ((conversionMachine tables).run s es).target = s.target := by
  induction es generalizing s with
  | nil => rfl
  | cons e es ih =>
    obtain ⟨htgt, hlooks⟩ : (conversionStep tables s e).target = s.target ∧
      OnlyLooks (conversionStep tables s e) := h.step htables e
    exact (ih hlooks (htgt ▸ htables)).trans htgt

/-- **A completed marker is final**: the target is complete, and once its process has ended, no
later migration changes it. -/
theorem completed_target_final [DecidableEq φ] (h : (conversionMachine tables).Reachable s)
    (hmarker : marker ∈ s.target.marker) (hst : marker.state = .completed) :
    Complete tables s.target ∧ (s.process = none →
      ∀ es, ((conversionMachine tables).run s es).target = s.target) := by
  have hinv := markerInvariant h
  refine ⟨hinv.complete marker hmarker hst, fun hproc es ↦ ?_⟩
  have hlooks : OnlyLooks s := fun _ _ hstage ↦ absurd (hproc.symm.trans hstage) (by simp)
  have htables : s.target.hasTables = true := by
    by_contra huntouched
    rw [Bool.not_eq_true] at huntouched
    exact absurd ((hinv.untouched huntouched).symm.trans hmarker) (by simp)
  exact hlooks.run htables es

/-! ### Runs in which the source stays -/

/-- The marker is not completed before this statement. -/
def Stage.isEarly : Stage → Bool
  | .checkingSource => false
  | .handling => false
  | _ => true

/-- The source does not change while a migration has yet to complete its marker. -/
def undisturbed [DecidableEq φ] (s : Conversion φ) : ConversionEvent φ → Bool
  | .modify source => source = s.source || !(s.process.any fun process ↦ process.2.isEarly)
  | _ => true

/-- The process and the marker know the source. -/
structure SourceInvariant (s : Conversion φ) : Prop where
  same : ∀ before stage, s.process = some (before, stage) → stage.isEarly = true → s.source = before
  completed : ∀ marker ∈ s.target.marker, marker.state = .completed →
    s.sourceAtCompletion = some marker.sourceFingerprint

theorem SourceInvariant.setProcess (h : SourceInvariant s) (hproc : Rests s process) :
    SourceInvariant { s with process } := by
  refine ⟨fun before stage hstage hearly ↦ ?_, h.completed⟩
  obtain rfl | ⟨-, hsrc⟩ := hproc before stage hstage
  · exact absurd hearly (by simp [Stage.isEarly])
  · exact hsrc

theorem SourceInvariant.take [DecidableEq φ] (h : SourceInvariant s) (hs : MarkerInvariant tables s)
    (hproc : s.process = some (before, stage)) (hstage : stage ≠ .handling)
    (hnext : next = stage.next tables ∨ next = stage.afterException) :
    SourceInvariant (s.take before stage next) := by
  refine ⟨fun before' stage' hproc' hearly ↦ ?_, fun marker hmarker hst ↦ ?_⟩
  · obtain ⟨next', hnext', hpair⟩ := map_eq_some_iff.1 hproc'
    cases hpair
    refine h.same before stage hproc ?_
    cases stage with
    | checkingSource =>
      obtain rfl | rfl := hnext
      · cases hnext'
      · cases hnext'
        exact absurd hearly (by simp [Stage.isEarly])
    | handling => exact absurd rfl hstage
    | _ => rfl
  · show (if stage = .completing then some s.source else s.sourceAtCompletion) = _
    obtain ⟨rfl, hprint⟩ | ⟨hsame, hlate⟩ :=
      completed_effect (hs.marker before stage hproc) hmarker hst
    · rw [if_pos rfl, h.same before _ hproc rfl, hprint]
    · have hnot : stage ≠ .completing := by
        rintro rfl
        simp at hlate
      rw [if_neg hnot]
      exact h.completed marker (hsame ▸ hmarker) hst

theorem SourceInvariant.step [DecidableEq φ] (h : SourceInvariant s)
    (hs : MarkerInvariant tables s) {e : ConversionEvent φ} (he : undisturbed s e = true) :
    SourceInvariant (conversionStep tables s e) := by
  have hmove := conversionStep_move tables s e
  generalize conversionStep tables s e = s' at hmove ⊢
  cases hmove with
  | modify source hmodify =>
    refine ⟨fun before stage hproc hearly ↦ ?_, h.completed⟩
    rw [hmodify, undisturbed, Bool.or_eq_true, decide_eq_true_eq] at he
    obtain hsame | hlate := he
    · exact hsame.trans (h.same before stage hproc hearly)
    · have hproc' : s.process = some (before, stage) := hproc
      rw [hproc', any_some, hearly] at hlate
      exact absurd hlate (by simp)
  | idle => exact h
  | rest process hproc => exact h.setProcess hproc
  | take before stage next hproc hstage hrefuses hnext => exact h.take hs hproc hstage hnext
  | failed =>
    refine ⟨fun _ _ hstage _ ↦ absurd hstage (by simp), fun marker hmarker hst ↦ ?_⟩
    obtain ⟨old, -, rfl⟩ := map_eq_some_iff.1 hmarker
    exact absurd hst (by simp)

/-- **A completed marker is honest** in every run in which the source does not change between the
start of a migration and its marker. -/
theorem marker_honest [DecidableEq φ]
    (h : (conversionMachine tables).ReachableBy (undisturbed · · = true) s) :
    HonestMarker tables s := by
  have hinv : MarkerInvariant tables s ∧ SourceInvariant s := by
    refine Machine.ReachableBy.invariant
      (P := fun s ↦ MarkerInvariant tables s ∧ SourceInvariant s) ?_ ?_ h
    · intro s hinit
      refine ⟨markerInvariant (.start hinit), fun _ _ hstage ↦ ?_, fun marker hmarker ↦ ?_⟩
      · exact absurd (hinit.process.symm.trans hstage) (by simp)
      · exact absurd (hinit.marker.symm.trans hmarker) (by simp)
    · intro s e hs he
      exact ⟨hs.1.step e, hs.2.step hs.1 he⟩
  intro marker hmarker hst
  exact ⟨hinv.1.complete marker hmarker hst, hinv.2.completed marker hmarker hst⟩

end Runs

/-! ### Examples -/

/-- An application with one table. -/
def oneTable : Tables where
  application := ["users"]
  order := ["users"]
  complete _ htable := htable

/-- The statements up to the marker, for one table. -/
def untilMarker : List (ConversionEvent ℕ) := List.replicate 14 .proceed

theorem marker_honest_example :
    HonestMarker oneTable
      ((conversionMachine oneTable).run { source := 0 } (.start :: untilMarker)) :=
  marker_honest (.run (.start ⟨rfl, rfl⟩) (by decide +kernel))

/-- A migration that is killed behind its marker. -/
def killedBehindMarker : Conversion ℕ :=
  (conversionMachine oneTable).run { source := 0 } (.start :: untilMarker ++ [.kill])

theorem completed_target_final_example : Complete oneTable killedBehindMarker.target ∧
    (killedBehindMarker.process = none → ∀ es,
      ((conversionMachine oneTable).run killedBehindMarker es).target =
        killedBehindMarker.target) :=
  completed_target_final (.run _ (.start ⟨rfl, rfl⟩))
    (show (⟨0, .completed, .passed⟩ : Marker ℕ) ∈ _ by decide +kernel) rfl

/-- The source changes after the start, and the process is killed before it looks again. -/
theorem marker_lies : ¬ ∀ s : Conversion ℕ,
    (conversionMachine oneTable).Reachable s → HonestMarker oneTable s := by
  intro hhonest
  have hreach : (conversionMachine oneTable).Reachable
      ((conversionMachine oneTable).run { source := 0 }
        (.start :: .modify 1 :: untilMarker ++ [.kill])) :=
    Machine.Reachable.run _ (.start ⟨rfl, rfl⟩)
  have hmarker := hhonest _ hreach
    { sourceFingerprint := 0, state := .completed, validationState := .passed }
    (by decide +kernel) rfl
  exact absurd hmarker.2 (by decide +kernel)

end Kaya.Migration
