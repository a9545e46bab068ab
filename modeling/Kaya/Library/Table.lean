import Mathlib.Data.List.Sort

/-!
# Tables addressed by a primary key

A database table as the rows a program can name: the keys in use, in the order the program iterates
them, and the row at each key. Keys are unique — that is a field, so a table with a repeated key
cannot be built — and a row is read by `row`, which is total: what lies at a key not in use is never
listed by `ids`.

Rows are updated in place (`modify`, `mapRows`) or added under a fresh key (`insert`). Neither
`modify` nor `mapRows` changes the keys, so a law about which keys exist is never at stake in an
update.

`newest?` is the lookup "the most recent row that satisfies `p`", as a stable descending sort by a
date column followed by a scan. Programs rarely need more of it than `newest?_eq_some` and
`newest?_eq_none_iff`.
-/

namespace Kaya

/-- Rows of type `ρ` under unique natural-number keys. -/
structure Table (ρ : Type*) where
  /-- The keys in use, in iteration order. -/
  ids : List ℕ
  /-- The row at a key. -/
  row : ℕ → ρ
  /-- Keys are unique. -/
  nodup : ids.Nodup

namespace Table

variable {ρ β : Type*} (t : Table ρ) {k : ℕ}

/-! ### Updates -/

/-- Rewrite the row at one key. -/
def modify (k : ℕ) (f : ρ → ρ) : Table ρ :=
  { t with row := fun j ↦ if j = k then f (t.row j) else t.row j }

/-- Rewrite every listed row, with its key at hand. -/
def mapRows (f : ℕ → ρ → ρ) : Table ρ :=
  { t with row := fun j ↦ if j ∈ t.ids then f j (t.row j) else t.row j }

/-- Every row through a function, listed or not. -/
def map {β : Type*} (f : ρ → β) : Table β where
  ids := t.ids
  row j := f (t.row j)
  nodup := t.nodup

/-- The key the next insertion uses: larger than every key in use. -/
def freshKey : ℕ := t.ids.foldr max 0 + 1

theorem le_foldr_max {k : ℕ} : ∀ {l : List ℕ}, k ∈ l → k ≤ l.foldr max 0
  | a :: l, h => by
    rcases List.mem_cons.1 h with rfl | h
    · exact le_max_left _ _
    · exact (le_foldr_max h).trans (le_max_right _ _)

theorem ne_freshKey (h : k ∈ t.ids) : k ≠ t.freshKey := by
  have := le_foldr_max h
  unfold freshKey
  omega

/-- Add a row under the fresh key. -/
def insert (r : ρ) : Table ρ where
  ids := t.ids ++ [t.freshKey]
  row j := if j = t.freshKey then r else t.row j
  nodup := by
    refine List.Nodup.append t.nodup (List.nodup_singleton _) fun k hk hk' ↦ ?_
    exact t.ne_freshKey hk (List.mem_singleton.1 hk')

/-- `UPDATE … WHERE id = k AND p`, where it changes exactly one row. -/
def updateIf (k : ℕ) (p : ρ → Prop) [DecidablePred p] (f : ρ → ρ) : Option (Table ρ) :=
  if k ∈ t.ids ∧ p (t.row k) then some (t.modify k f) else none

/-- A conditional update changes a row that met the condition. -/
theorem updateIf_eq_some {p : ρ → Prop} [DecidablePred p] {f : ρ → ρ} {t' : Table ρ} :
    t.updateIf k p f = some t' ↔ (k ∈ t.ids ∧ p (t.row k)) ∧ t.modify k f = t' := by
  rw [updateIf, Option.ite_none_right_eq_some, Option.some.injEq]

@[simp] theorem modify_ids (k : ℕ) (f : ρ → ρ) : (t.modify k f).ids = t.ids := rfl

@[simp] theorem modify_row_self (k : ℕ) (f : ρ → ρ) : (t.modify k f).row k = f (t.row k) := by
  simp [modify]

theorem modify_row_of_ne {j : ℕ} (h : j ≠ k) (f : ρ → ρ) : (t.modify k f).row j = t.row j := by
  simp [modify, h]

theorem modify_row (j k : ℕ) (f : ρ → ρ) :
    (t.modify k f).row j = if j = k then f (t.row j) else t.row j := rfl

theorem modify_modify (k : ℕ) (f g : ρ → ρ) :
    (t.modify k f).modify k g = t.modify k fun r ↦ g (f r) := by
  unfold modify
  congr 1
  funext j
  dsimp only
  split
  · rfl
  · rfl

theorem mapRows_row (f : ℕ → ρ → ρ) (j : ℕ) :
    (t.mapRows f).row j = if j ∈ t.ids then f j (t.row j) else t.row j := rfl

@[simp] theorem insert_ids (r : ρ) : (t.insert r).ids = t.ids ++ [t.freshKey] := rfl

@[simp] theorem insert_row_fresh (r : ρ) : (t.insert r).row t.freshKey = r := by
  simp [insert]

theorem insert_row_of_mem (r : ρ) (h : k ∈ t.ids) : (t.insert r).row k = t.row k := by
  simp [insert, t.ne_freshKey h]

@[simp] theorem map_ids (f : ρ → β) : (t.map f).ids = t.ids := rfl

@[simp] theorem map_row (f : ρ → β) (j : ℕ) : (t.map f).row j = f (t.row j) := rfl

/-- An update is invisible through a function that forgets it. -/
theorem map_mapRows {g : ρ → β} {f : ℕ → ρ → ρ} (h : ∀ k r, g (f k r) = g r) :
    (t.mapRows f).map g = t.map g := by
  unfold map
  congr 1
  funext j
  rw [mapRows_row]
  split
  · exact h _ _
  · rfl

/-! ### Queries -/

/-- The row at a key in use. -/
def get? (k : ℕ) : Option ρ := if k ∈ t.ids then some (t.row k) else none

/-- The keys of the rows with a property. -/
def select (p : ρ → Bool) : List ℕ := t.ids.filter fun k ↦ p (t.row k)

/-- Some row has the property. -/
def exists? (p : ρ → Bool) : Bool := t.ids.any fun k ↦ p (t.row k)

theorem get?_eq_some {r : ρ} : t.get? k = some r ↔ k ∈ t.ids ∧ t.row k = r := by
  rw [get?]
  split
  next h => simp [h]
  next h => simp [h]

theorem mem_select {p : ρ → Bool} : k ∈ t.select p ↔ k ∈ t.ids ∧ p (t.row k) = true := by
  simp [select]

theorem exists?_eq_false {p : ρ → Bool} :
    t.exists? p = false ↔ ∀ k ∈ t.ids, p (t.row k) = false := by
  simp [exists?]

/-! ### The newest row with a property -/

/-- The key of the most recent row with property `p`, by the date column `date`; among equal dates
the first listed wins. -/
def newest? (date : ρ → ℤ) (p : ρ → Bool) : Option ℕ :=
  (t.ids.insertionSort fun a b ↦ date (t.row b) ≤ date (t.row a)).find? fun k ↦ p (t.row k)

variable {t} {date : ρ → ℤ} {p : ρ → Bool}

theorem newest?_eq_some (h : t.newest? date p = some k) : k ∈ t.ids ∧ p (t.row k) = true :=
  ⟨(List.mem_insertionSort _).1 (List.mem_of_find?_eq_some h),
    List.find?_some (p := fun k ↦ p (t.row k)) h⟩

theorem newest?_eq_none_iff : t.newest? date p = none ↔ ∀ k ∈ t.ids, p (t.row k) = false := by
  simp [newest?, List.find?_eq_none]

theorem newest?_isSome_of_mem {k : ℕ} (hk : k ∈ t.ids) (hp : p (t.row k) = true) :
    ∃ j, t.newest? date p = some j := by
  rcases h : t.newest? date p with - | j
  · exact absurd hp (by simp [newest?_eq_none_iff.1 h k hk])
  · exact ⟨j, rfl⟩

/-- The lookup reads nothing but the keys, the date column and the property. -/
theorem newest?_congr {t' : Table ρ} (hids : t'.ids = t.ids)
    (hdate : ∀ k, date (t'.row k) = date (t.row k)) (hp : ∀ k, p (t'.row k) = p (t.row k)) :
    t'.newest? date p = t.newest? date p := by
  simp only [newest?, hids, hdate, hp]

end Table

end Kaya
