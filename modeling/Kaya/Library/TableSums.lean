import Kaya.Library.Table
import Mathlib.Algebra.BigOperators.Group.List.Basic

/-!
# Sums over tables

The sum of an amount over the rows of a table, in any commutative monoid, with the deletion of
listed rows: an insertion adds an amount, a deletion takes the amounts of its rows away.
-/

namespace Kaya.Table

open List

variable {ρ M : Type*} (t : Table ρ) {ks : List ℕ}

/-- The table without the rows at some keys. -/
def delete (ks : List ℕ) : Table ρ where
  ids := t.ids.filter (· ∉ ks)
  row := t.row
  nodup := t.nodup.filter _

theorem mem_delete {k : ℕ} : k ∈ (t.delete ks).ids ↔ k ∈ t.ids ∧ k ∉ ks := by
  simp [delete]

@[simp] theorem delete_row (ks : List ℕ) (k : ℕ) : (t.delete ks).row k = t.row k := rfl

/-- The rows at some keys. -/
def rows (ks : List ℕ) : List ρ := ks.map t.row

/-- The sum of an amount over the rows. -/
def sum [AddCommMonoid M] (amount : ρ → M) : M := ((t.rows t.ids).map amount).sum

variable [AddCommMonoid M] (amount : ρ → M)

theorem rows_insert (r : ρ) (h : ks ⊆ t.ids) : (t.insert r).rows ks = t.rows ks :=
  map_congr_left fun _ hk ↦ t.insert_row_of_mem r (h hk)

theorem sum_insert (r : ρ) : (t.insert r).sum amount = t.sum amount + amount r := by
  have hids : (t.insert r).rows (t.insert r).ids = t.rows t.ids ++ [r] := by
    rw [insert_ids, rows, map_append, map_singleton, insert_row_fresh]
    exact congrArg (· ++ [r]) (t.rows_insert r (Subset.refl _))
  rw [sum, hids, map_append, sum_append, map_singleton, sum_singleton, sum]

/-- What is deleted and what is left. -/
theorem sum_delete (hsub : ks ⊆ t.ids) (hnodup : ks.Nodup) :
    (t.delete ks).sum amount + ((t.rows ks).map amount).sum = t.sum amount := by
  have hmem : (t.ids.filter (· ∈ ks)).Perm ks := by
    refine (perm_ext_iff_of_nodup (t.nodup.filter _) hnodup).2 fun k ↦ ?_
    simp only [mem_filter, decide_eq_true_eq]
    exact and_iff_right_of_imp fun hk ↦ hsub hk
  have hids : (t.ids.filter (· ∉ ks) ++ ks).Perm t.ids := by
    refine ((Perm.refl _).append hmem.symm).trans (perm_append_comm.trans ?_)
    have hsplit := filter_append_perm (fun k ↦ decide (k ∈ ks)) t.ids
    simpa only [decide_not] using hsplit
  have hrows := ((hids.map t.row).map amount).sum_eq
  rwa [map_append, map_append, sum_append] at hrows

end Kaya.Table
