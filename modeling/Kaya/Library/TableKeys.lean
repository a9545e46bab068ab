import Kaya.Library.TableSums

/-!
# Unique columns

`UniqueBy key` is a unique constraint: no two rows of a table agree in `key`. It survives whatever
leaves the key alone, every deletion, and an insertion that the constraint lets through. What a
table is to a constraint is its image under the key (`map_modify`, `map_insert`).
-/

namespace Kaya.Table

variable {ρ κ β : Type*} {t : Table ρ} {key : ρ → κ} {g : ρ → β} {f : ρ → ρ} {k : ℕ} {r : ρ}

/-- No two rows agree in a key. -/
def UniqueBy (t : Table ρ) (key : ρ → κ) : Prop :=
  ∀ j ∈ t.ids, ∀ k ∈ t.ids, key (t.row j) = key (t.row k) → j = k

/-- An update is invisible through a function that forgets it. -/
theorem map_modify (h : ∀ r, g (f r) = g r) : (t.modify k f).map g = t.map g := by
  simp only [map, modify, mk.injEq, true_and]
  funext j
  split
  · exact h _
  · rfl

theorem map_insert : (t.insert r).map g = (t.map g).insert (g r) := by
  simp only [map, insert, mk.injEq]
  refine ⟨rfl, ?_⟩
  funext j
  exact apply_ite g _ _ _

theorem map_delete {ks : List ℕ} : (t.delete ks).map g = (t.map g).delete ks := rfl

theorem UniqueBy.delete (h : t.UniqueBy key) (ks : List ℕ) : (t.delete ks).UniqueBy key :=
  fun j hj k hk ↦ h j (t.mem_delete.1 hj).1 k (t.mem_delete.1 hk).1

/-- A row whose key is new may be inserted. -/
theorem UniqueBy.insert (h : t.UniqueBy key) (hfree : ∀ k ∈ t.ids, key (t.row k) ≠ key r) :
    (t.insert r).UniqueBy key := by
  intro j hj k hk heq
  rw [insert_ids, List.mem_append, List.mem_singleton] at hj hk
  rcases hj with hj | rfl
  · rcases hk with hk | rfl
    · rw [insert_row_of_mem _ _ hj, insert_row_of_mem _ _ hk] at heq
      exact h j hj k hk heq
    · rw [insert_row_of_mem _ _ hj, insert_row_fresh] at heq
      exact absurd heq (hfree j hj)
  · rcases hk with hk | rfl
    · rw [insert_row_of_mem _ _ hk, insert_row_fresh] at heq
      exact absurd heq.symm (hfree k hk)
    · rfl

/-- The inserted row is the only new one. -/
theorem row_of_mem_insert (hk : k ∈ (t.insert r).ids) (hnew : k ∉ t.ids) :
    (t.insert r).row k = r := by
  rw [insert_ids, List.mem_append, List.mem_singleton] at hk
  rcases hk with hk | rfl
  · exact absurd hk hnew
  · rw [insert_row_fresh]

end Kaya.Table
