import Mathlib.Algebra.BigOperators.Group.List.Basic
import Mathlib.Algebra.Order.Group.Nat
import Mathlib.Algebra.Order.Monoid.Prod
import Mathlib.Data.List.Nodup

/-!
# Ledgers: totals over upserted rows

A table that is only ever written by `INSERT … ON CONFLICT (key) DO UPDATE`: a row whose key is new
is appended, a row whose key is taken is merged into the first row that has it. Nothing here fixes
what a row is; a key is any projection of it and an amount is any projection into a commutative
monoid.

The one law programs need is `total_upsert`: when merging adds the amounts and keeps the key, an
upsert adds exactly its own amount to the total of every group of keys that contains its own, and
nothing to any other. It needs no uniqueness of keys — only the first matching row is touched — so
it holds of every table a program may be started on.

`rowAt` looks at one row: a sequence of upserts absorbs into it those of its key, in their order
(`rowAt_upsertAll`). Where no key comes twice a table is determined by these rows up to its order
(`perm_of_rowAt_eq`), and when merging is associative and commutative (`Mergeable`) rows may be
merged among themselves first and in any order (`Mergeable.rowAt_batch`).
-/

namespace Kaya.Ledger

open List

variable {ρ κ M : Type*}

/-! ### Upserts -/

section Upsert

variable [DecidableEq κ] (key : ρ → κ) (merge : ρ → ρ → ρ)

/-- `INSERT … ON CONFLICT (key) DO UPDATE`: merge `excluded` into the first row with its key, or
append it. -/
def upsert (excluded : ρ) : List ρ → List ρ
  | [] => [excluded]
  | row :: rows =>
    if key row = key excluded then merge row excluded :: rows else row :: upsert excluded rows

/-- A sequence of upserts. -/
def upsertAll (excluded : List ρ) (rows : List ρ) : List ρ :=
  excluded.foldl (fun rows row ↦ upsert key merge row rows) rows

end Upsert

/-! ### Totals -/

section Total

variable [AddCommMonoid M]

/-- The total amount of the rows that satisfy `p`. -/
def total (p : ρ → Bool) (amount : ρ → M) (rows : List ρ) : M := ((rows.filter p).map amount).sum

variable {p : ρ → Bool} {amount : ρ → M} {ι : Type*}

@[simp] theorem total_nil : total p amount [] = 0 := rfl

theorem total_cons (row : ρ) (rows : List ρ) :
    total p amount (row :: rows) = (if p row then amount row else 0) + total p amount rows := by
  by_cases h : p row = true
  · simp [total, h]
  · simp [total, h]

theorem total_append (rows rows' : List ρ) :
    total p amount (rows ++ rows') = total p amount rows + total p amount rows' := by
  rw [total, total, total, filter_append, map_append, sum_append]

theorem total_singleton (row : ρ) : total p amount [row] = if p row then amount row else 0 := by
  rw [total_cons, total_nil, add_zero]

theorem total_flatMap (f : ι → List ρ) (xs : List ι) :
    total p amount (xs.flatMap f) = (xs.map fun x ↦ total p amount (f x)).sum := by
  induction xs with
  | nil => rfl
  | cons x xs ih => rw [flatMap_cons, total_append, ih, map_cons, sum_cons]

/-- Totals of two tables agree when they agree for each origin of their rows. -/
theorem total_flatMap_congr {ρ' : Type*} {f : ι → List ρ} {g : ι → List ρ'} {p' : ρ' → Bool}
    {amount' : ρ' → M} {xs : List ι} (h : ∀ x ∈ xs, total p amount (f x) = total p' amount' (g x)) :
    total p amount (xs.flatMap f) = total p' amount' (xs.flatMap g) := by
  rw [total_flatMap, total_flatMap, map_congr_left h]

/-- Rows that no group contains do not count. -/
theorem total_eq_zero {rows : List ρ} (h : ∀ row ∈ rows, p row = false) :
    total p amount rows = 0 := by
  have hfilter : rows.filter p = [] := filter_eq_nil_iff.2 fun row hr ↦ by simp [h row hr]
  rw [total, hfilter, map_nil, sum_nil]

variable [DecidableEq κ] {key : ρ → κ} {merge : ρ → ρ → ρ}

/-- **An upsert adds its own amount to its own group.** -/
theorem total_upsert {excluded : ρ}
    (hamount : ∀ row, amount (merge row excluded) = amount row + amount excluded)
    (hmerge : ∀ row, key row = key excluded → p (merge row excluded) = p row)
    (hkey : ∀ row, key row = key excluded → p row = p excluded) (rows : List ρ) :
    total p amount (upsert key merge excluded rows) =
      total p amount rows + if p excluded then amount excluded else 0 := by
  induction rows with
  | nil => rw [upsert, total_singleton, total_nil, zero_add]
  | cons row rows ih =>
    by_cases h : key row = key excluded
    · rw [upsert, if_pos h, total_cons, total_cons, hmerge row h, hkey row h, hamount row]
      split
      · rw [add_right_comm]
      · rw [zero_add, add_zero]
    · rw [upsert, if_neg h, total_cons, total_cons, ih, add_assoc]

/-- A sequence of upserts adds the total of what it upserts. -/
theorem total_upsertAll (hamount : ∀ row row', amount (merge row row') = amount row + amount row')
    (hmerge : ∀ row row', key row = key row' → p (merge row row') = p row)
    (hkey : ∀ row row', key row = key row' → p row = p row') :
    ∀ excluded rows : List ρ, total p amount (upsertAll key merge excluded rows) =
      total p amount rows + total p amount excluded
  | [], rows => by rw [upsertAll, List.foldl_nil, total_nil, add_zero]
  | row :: excluded, rows => by
    have ih := total_upsertAll hamount hmerge hkey excluded (upsert key merge row rows)
    rw [upsertAll, foldl_cons]
    rw [upsertAll] at ih
    rw [ih, total_upsert (fun r ↦ hamount r row) (fun r ↦ hmerge r row) (fun r ↦ hkey r row),
      total_cons, add_assoc]

end Total

/-! ### Comparing totals -/

section Order

variable [AddCommMonoid M] [PartialOrder M] {p q : ρ → Bool} {amount : ρ → M} {rows : List ρ}
  {ι : Type*}

/-- **A row is part of its total.** -/
theorem le_total [CanonicallyOrderedAdd M] {row : ρ} (hrow : row ∈ rows) (hp : p row = true) :
    amount row ≤ total p amount rows := by
  induction rows with
  | nil => exact absurd hrow not_mem_nil
  | cons first rows ih =>
    rw [total_cons]
    rcases mem_cons.1 hrow with rfl | hrest
    · rw [if_pos hp]
      exact le_self_add
    · exact (ih hrest).trans le_add_self

/-- A larger group has a larger total. -/
theorem total_le_of_imp [CanonicallyOrderedAdd M] [IsOrderedAddMonoid M]
    (h : ∀ row, p row = true → q row = true) (rows : List ρ) :
    total p amount rows ≤ total q amount rows := by
  induction rows with
  | nil => exact le_rfl
  | cons row rows ih =>
    rw [total_cons, total_cons]
    refine add_le_add ?_ ih
    split_ifs with hp hq hq
    · exact le_rfl
    · exact absurd (h row hp) hq
    · exact zero_le
    · exact le_rfl

variable [IsOrderedAddMonoid M]

theorem total_flatMap_le {f g : ι → List ρ} {xs : List ι}
    (h : ∀ x ∈ xs, total p amount (f x) ≤ total p amount (g x)) :
    total p amount (xs.flatMap f) ≤ total p amount (xs.flatMap g) := by
  induction xs with
  | nil => exact le_rfl
  | cons x xs ih =>
    obtain ⟨hx, hxs⟩ := forall_mem_cons.1 h
    rw [flatMap_cons, flatMap_cons, total_append, total_append]
    exact add_le_add hx (ih hxs)

/-- Smaller amounts in the same groups. -/
theorem total_map_le {f g : ι → ρ} {xs : List ι}
    (h : ∀ x ∈ xs, p (f x) = p (g x) ∧ amount (f x) ≤ amount (g x)) :
    total p amount (xs.map f) ≤ total p amount (xs.map g) := by
  induction xs with
  | nil => exact le_rfl
  | cons x xs ih =>
    obtain ⟨⟨hgroup, hamount⟩, hxs⟩ := forall_mem_cons.1 h
    rw [map_cons, map_cons, total_cons, total_cons, hgroup]
    refine add_le_add ?_ (ih hxs)
    split_ifs
    · exact hamount
    · exact le_rfl

/-- **Nothing is lost under a further condition** exactly where it holds of every row of the group
with an amount. -/
theorem total_and_eq_iff {amount : ρ → ℕ} :
    total (fun row ↦ p row && q row) amount rows = total p amount rows ↔
      ∀ row ∈ rows, p row = true → amount row ≠ 0 → q row = true := by
  induction rows with
  | nil => simp
  | cons row rows ih =>
    have hle : total (fun row ↦ p row && q row) amount rows ≤ total p amount rows :=
      total_le_of_imp (fun _ h ↦ (Bool.and_eq_true_iff.1 h).1) rows
    rw [total_cons, total_cons, forall_mem_cons, ← ih]
    cases p row <;> cases q row <;> simp
    omega

end Order

/-! ### Rows -/

section Lookup

variable [DecidableEq κ] {key : ρ → κ} {merge : ρ → ρ → ρ}

/-- The row of a key, if there is one. -/
def rowAt (key : ρ → κ) (k : κ) (rows : List ρ) : Option ρ := rows.find? fun row ↦ key row = k

/-- What an upsert leaves under its own key. -/
def absorb (merge : ρ → ρ → ρ) (stored : Option ρ) (excluded : ρ) : Option ρ :=
  some (stored.elim excluded (merge · excluded))

theorem rowAt_cons (row : ρ) (k : κ) (rows : List ρ) :
    rowAt key k (row :: rows) = if key row = k then some row else rowAt key k rows := by
  rw [rowAt, find?_cons]
  by_cases hk : key row = k
  · rw [if_pos hk, decide_eq_true hk]
  · rw [if_neg hk, decide_eq_false hk, rowAt]

/-- **An upsert changes the row of its key, and no other.** -/
theorem rowAt_upsert {excluded : ρ}
    (hkey : ∀ row, key row = key excluded → key (merge row excluded) = key row) (k : κ)
    (rows : List ρ) :
    rowAt key k (upsert key merge excluded rows) =
      if key excluded = k then absorb merge (rowAt key k rows) excluded
      else rowAt key k rows := by
  induction rows with
  | nil => exact rowAt_cons excluded k []
  | cons row rows ih =>
    rw [upsert]
    by_cases h : key row = key excluded
    · rw [if_pos h, rowAt_cons, rowAt_cons, hkey row h, h]
      by_cases hk : key excluded = k
      · simp only [if_pos hk, absorb, Option.elim_some]
      · simp only [if_neg hk]
    · rw [if_neg h, rowAt_cons, rowAt_cons, ih]
      by_cases hk : key row = k
      · have hne : key excluded ≠ k := fun he ↦ h (hk.trans he.symm)
        simp only [if_pos hk, if_neg hne]
      · simp only [if_neg hk]

/-- A sequence of upserts absorbs those of the key, in their order. -/
theorem rowAt_upsertAll (hkey : ∀ row row', key row = key row' → key (merge row row') = key row)
    (k : κ) (excluded rows : List ρ) :
    rowAt key k (upsertAll key merge excluded rows) =
      (excluded.filter fun row ↦ key row = k).foldl (absorb merge) (rowAt key k rows) := by
  induction excluded generalizing rows with
  | nil => rfl
  | cons row excluded ih =>
    have hcons : upsertAll key merge (row :: excluded) rows =
        upsertAll key merge excluded (upsert key merge row rows) := rfl
    rw [hcons, ih, rowAt_upsert fun r ↦ hkey r row]
    by_cases hk : key row = k
    · have hfilter : (row :: excluded).filter (fun row ↦ decide (key row = k)) =
          row :: excluded.filter fun row ↦ decide (key row = k) :=
        filter_cons_of_pos (decide_eq_true hk)
      rw [if_pos hk, hfilter, foldl_cons]
    · rw [if_neg hk, filter_cons_of_neg (by simpa using hk)]

/-- Where no key comes twice, there is at most one row of a key. -/
theorem filter_eq_rowAt {rows : List ρ} (h : (rows.map key).Nodup) (k : κ) :
    (rows.filter fun row ↦ key row = k) = (rowAt key k rows).toList := by
  induction rows with
  | nil => rfl
  | cons row rows ih =>
    obtain ⟨hrow, hrows⟩ := nodup_cons.1 h
    rw [rowAt_cons]
    by_cases hk : key row = k
    · have hrest : (rows.filter fun row ↦ key row = k) = [] := by
        refine filter_eq_nil_iff.2 fun r hr hkey ↦ hrow ?_
        rw [hk, ← of_decide_eq_true hkey]
        exact mem_map_of_mem hr
      have hfilter : (row :: rows).filter (fun row ↦ decide (key row = k)) =
          row :: rows.filter fun row ↦ decide (key row = k) :=
        filter_cons_of_pos (decide_eq_true hk)
      rw [if_pos hk, hfilter, hrest, Option.toList_some]
    · rw [if_neg hk, filter_cons_of_neg (by simpa using hk), ih hrows]

end Lookup

/-! ### Distinct keys -/

section Distinct

variable [DecidableEq κ] {key : ρ → κ} {merge : ρ → ρ → ρ} {rows rows' : List ρ} {excluded : ρ}

/-- An upsert adds its key to the keys of the table, unless it is among them. -/
theorem map_key_upsert
    (hkey : ∀ row, key row = key excluded → key (merge row excluded) = key row) (rows : List ρ) :
    (upsert key merge excluded rows).map key =
      if key excluded ∈ rows.map key then rows.map key else rows.map key ++ [key excluded] := by
  induction rows with
  | nil => rfl
  | cons row rows ih =>
    rw [upsert]
    by_cases h : key row = key excluded
    · rw [if_pos h, map_cons, hkey row h, map_cons, if_pos (h ▸ mem_cons_self)]
    · rw [if_neg h, map_cons, ih, map_cons]
      have hmem : key excluded ∈ key row :: rows.map key ↔ key excluded ∈ rows.map key :=
        mem_cons.trans (or_iff_right (Ne.symm h))
      simp only [hmem]
      split_ifs
      · rfl
      · rfl

theorem nodup_upsert (hkey : ∀ row, key row = key excluded → key (merge row excluded) = key row)
    (h : (rows.map key).Nodup) : ((upsert key merge excluded rows).map key).Nodup := by
  rw [map_key_upsert hkey]
  split_ifs with hmem
  · exact h
  · exact nodup_append.2 ⟨h, pairwise_singleton _ _, fun k hk k' hk' hsame ↦
      hmem (mem_singleton.1 hk' ▸ hsame ▸ hk)⟩

theorem nodup_upsertAll
    (hkey : ∀ row row', key row = key row' → key (merge row row') = key row) (excluded : List ρ)
    (h : (rows.map key).Nodup) : ((upsertAll key merge excluded rows).map key).Nodup := by
  induction excluded generalizing rows with
  | nil => exact h
  | cons row excluded ih => exact ih (nodup_upsert (fun r ↦ hkey r row) h)

theorem rowAt_eq_some_iff (h : (rows.map key).Nodup) {row : ρ} :
    rowAt key (key row) rows = some row ↔ row ∈ rows := by
  have hfilter := filter_eq_rowAt h (key row)
  constructor
  · exact fun hrow ↦ mem_of_find?_eq_some hrow
  · intro hrow
    have hmem : row ∈ rows.filter fun r ↦ key r = key row :=
      mem_filter.2 ⟨hrow, decide_eq_true rfl⟩
    rw [hfilter] at hmem
    exact Option.mem_toList.1 hmem

/-- **Tables with the same rows** differ only in their order. -/
theorem perm_of_rowAt_eq (h : (rows.map key).Nodup) (h' : (rows'.map key).Nodup)
    (hrow : ∀ k, rowAt key k rows = rowAt key k rows') : rows.Perm rows' := by
  refine (perm_ext_iff_of_nodup (h.of_map key) (h'.of_map key)).2 fun row ↦ ?_
  rw [← rowAt_eq_some_iff h, ← rowAt_eq_some_iff h', hrow]

end Distinct

/-! ### Batches -/

/-- Merging keeps the key, and is a commutative semigroup on the rows of a key. -/
structure Mergeable (key : ρ → κ) (merge : ρ → ρ → ρ) : Prop where
  key_merge : ∀ row row', key row = key row' → key (merge row row') = key row
  assoc : ∀ row row' row'', merge (merge row row') row'' = merge row (merge row' row'')
  comm : ∀ row row', key row = key row' → merge row row' = merge row' row

namespace Mergeable

variable {key : ρ → κ} {merge : ρ → ρ → ρ} {xs : List ρ}

theorem merge_foldl (h : Mergeable key merge) (row row' : ρ) (xs : List ρ) :
    xs.foldl merge (merge row row') = merge row (xs.foldl merge row') := by
  induction xs generalizing row' with
  | nil => rfl
  | cons x xs ih => rw [foldl_cons, foldl_cons, h.assoc, ih]

theorem foldl_absorb_some (merge : ρ → ρ → ρ) (row : ρ) (xs : List ρ) :
    xs.foldl (absorb merge) (some row) = some (xs.foldl merge row) := by
  induction xs generalizing row with
  | nil => rfl
  | cons x xs ih => exact ih (merge row x)

/-- Rows may be merged before they are absorbed. -/
theorem foldl_absorb_merged (h : Mergeable key merge) (stored : Option ρ) (xs : List ρ) :
    (xs.foldl (absorb merge) none).toList.foldl (absorb merge) stored =
      xs.foldl (absorb merge) stored := by
  cases xs with
  | nil => rfl
  | cons x xs =>
    have hfirst : absorb merge none x = some x := rfl
    rw [foldl_cons, hfirst, foldl_absorb_some, Option.toList_some, foldl_cons,
      foldl_nil, foldl_cons]
    cases stored with
    | none => rw [hfirst, foldl_absorb_some]; rfl
    | some row =>
      have hsto : ∀ y, absorb merge (some row) y = some (merge row y) := fun _ ↦ rfl
      rw [hsto, hsto, foldl_absorb_some, h.merge_foldl]

theorem absorb_right_comm (h : Mergeable key merge) {row row' : ρ} (hkey : key row = key row')
    (stored : Option ρ) :
    absorb merge (absorb merge stored row) row' = absorb merge (absorb merge stored row') row := by
  cases stored with
  | none => exact congrArg some (h.comm row row' hkey)
  | some first =>
    have hcomm : merge (merge first row) row' = merge (merge first row') row := by
      rw [h.assoc, h.assoc, h.comm row row' hkey]
    exact congrArg some hcomm

variable [DecidableEq κ]

/-- A row does not mind the order in which others are absorbed. -/
theorem foldl_absorb_perm (h : Mergeable key merge) {ys : List ρ} (hperm : xs.Perm ys) (k : κ)
    (stored : Option ρ) :
    (xs.filter fun row ↦ key row = k).foldl (absorb merge) stored =
      (ys.filter fun row ↦ key row = k).foldl (absorb merge) stored := by
  refine (hperm.filter _).foldl_eq' (fun row hrow row' hrow' z ↦ ?_) stored
  have hk := of_decide_eq_true (mem_filter.1 hrow).2
  have hk' := of_decide_eq_true (mem_filter.1 hrow').2
  exact h.absorb_right_comm (hk.trans hk'.symm) z

/-- **Writing merged rows, in any order, is writing each of them.** -/
theorem rowAt_batch (h : Mergeable key merge) {values : List ρ}
    (hvalues : values.Perm (upsertAll key merge xs [])) (k : κ) (rows : List ρ) :
    rowAt key k (upsertAll key merge values rows) =
      (xs.filter fun row ↦ key row = k).foldl (absorb merge) (rowAt key k rows) := by
  have hnodup : ((upsertAll key merge xs []).map key).Nodup := nodup_upsertAll h.key_merge xs .nil
  have hnone : rowAt key k ([] : List ρ) = none := rfl
  rw [rowAt_upsertAll h.key_merge, h.foldl_absorb_perm hvalues, filter_eq_rowAt hnodup,
    rowAt_upsertAll h.key_merge, hnone, h.foldl_absorb_merged]

end Mergeable

end Kaya.Ledger
