import Mathlib.Logic.Function.Basic

/-!
# Instances of rows, and what a commit writes

An object-relational session that is seen at its transactions. It holds instances of the rows it has
loaded, changes them in memory, and writes at its commit **the columns whose value it has changed on
its own instance**, whatever the rows have become since.

`flushed` is one column; `Instances` are the instances of a session on a table, where `flush` puts
the columns of a row together.
-/

namespace Kaya

/-! ### One column -/

section Columns

variable {α : Type*} [DecidableEq α] {loaded new stored : α}

/-- The value of a column after a commit: a column that has not been changed on the instance is not
written. -/
def flushed (loaded new stored : α) : α := if new = loaded then stored else new

theorem flushed_of_ne (hne : new ≠ loaded) : flushed loaded new stored = new := if_neg hne

@[simp] theorem flushed_self : flushed loaded loaded stored = stored := if_pos rfl

/-- On a row that has not changed since, everything is written. -/
@[simp] theorem flushed_stored : flushed stored new stored = new := by
  rw [flushed]
  split
  next h => exact h.symm
  · rfl

/-- What the commit has not written was there before. -/
theorem stored_of_flushed {a : α} (h : flushed loaded new stored = a) (hne : new ≠ a) :
    stored = a := by
  rw [flushed] at h
  split at h
  · exact h
  · exact absurd h hne

end Columns

/-! ### The instances of a session -/

/-- The instances of a session: the row as it was loaded, and what the instance has become. -/
abbrev Instances (ι ρ : Type*) := ι → Option (ρ × ρ)

namespace Instances

variable {ι ρ : Type*} {instances : Instances ι ρ} {i : ι}

/-- The rows that a query finds are loaded, and changed alike. -/
def loadAll (rows : ι → Option ρ) (p : ρ → Bool) (change : ρ → ρ) : Instances ι ρ :=
  fun i ↦ ((rows i).filter p).map fun row ↦ (row, change row)

/-- A row is changed: on its instance, or on one that is loaded now. -/
def edit [DecidableEq ι] (instances : Instances ι ρ) (rows : ι → Option ρ) (i : ι)
    (change : ρ → ρ) : Instances ι ρ :=
  Function.update instances i <|
    match instances i with
    | some (loaded, current) => some (loaded, change current)
    | .none => (rows i).map fun row ↦ (row, change row)

/-- The rows after the commit. -/
def commit (instances : Instances ι ρ) (flush : ρ → ρ → ρ → ρ) (rows : ι → Option ρ) :
    ι → Option ρ :=
  fun i ↦ (rows i).map fun stored ↦
    match instances i with
    | some (loaded, current) => flush loaded current stored
    | .none => stored

theorem commit_of_none (h : instances i = .none)
    (flush : ρ → ρ → ρ → ρ) (rows : ι → Option ρ) : instances.commit flush rows i = rows i := by
  simp [commit, h]

theorem commit_of_some {loaded current stored : ρ}
    {rows : ι → Option ρ} (h : instances i = some (loaded, current)) (hrow : rows i = some stored)
    (flush : ρ → ρ → ρ → ρ) :
    instances.commit flush rows i = some (flush loaded current stored) := by
  simp [commit, h, hrow]

theorem commit_isSome {flush : ρ → ρ → ρ → ρ} {rows : ι → Option ρ} :
    (instances.commit flush rows i).isSome = (rows i).isSome :=
  Option.isSome_map

end Instances

end Kaya
