import Kaya.Library.Dict
import Mathlib.Algebra.BigOperators.Group.List.Basic

/-!
# Grouping rows in a dictionary

`collect` puts every row of a list under its key: what lies there is merged with the row, a blank
value where nothing does. `groupBy` collects the rows themselves. The order of the keys is the order
in which they come up.

An amount is any function of the values into a commutative monoid that is zero on a blank value and
that merging adds to. Its total over the dictionary grows by the amounts of the rows
(`total_collect`), however they fall into groups.
-/

namespace Kaya.Dict

open List Option

variable {κ α β M : Type*} [DecidableEq κ] {k : κ} {key : α → κ} {rows group : List α}
  {item : κ × β} {blank : κ → β} {merge : β → α → β} {d : Dict κ β} {row : α}

/-- Put each row under its key. -/
def collect (key : α → κ) (blank : κ → β) (merge : β → α → β) (d : Dict κ β) (rows : List α) :
    Dict κ β :=
  rows.foldl (fun d row ↦ d.set (key row) (merge ((d.get? (key row)).getD (blank (key row))) row)) d

/-- `groups.setdefault(key, []).append(row)` for each row. -/
def groupBy (key : α → κ) (rows : List α) : Dict κ (List α) :=
  collect key (fun _ ↦ []) (fun group row ↦ group ++ [row]) .empty rows

/-! ### Totals -/

section Total

variable [AddCommMonoid M] {amount : κ → β → M} {v : β} {w : M}

/-- The sum of an amount over the items. -/
def total (amount : κ → β → M) (d : Dict κ β) : M :=
  (d.items.map fun item ↦ amount item.1 item.2).sum

theorem sum_setItems {k : κ} {items : List (κ × β)}
    (h : amount k v = (((items.find? (·.1 = k)).map Prod.snd).map (amount k)).getD 0 + w) :
    ((setItems k v items).map fun item ↦ amount item.1 item.2).sum =
      (items.map fun item ↦ amount item.1 item.2).sum + w := by
  induction items with
  | nil => simpa [setItems] using h
  | cons item items ih =>
    rw [setItems]
    rw [find?_cons] at h
    by_cases hk : item.1 = k
    · subst hk
      simp only [decide_true, map_some, getD_some] at h
      simp only [if_true, map_cons, sum_cons, h]
      rw [add_right_comm]
    · rw [decide_eq_false hk] at h
      simp only [if_neg hk, map_cons, sum_cons, ih h, add_assoc]

/-- Assigning adds what the amount of the key grows by. -/
theorem total_set {d : Dict κ β} {k : κ} (h : amount k v = ((d.get? k).map (amount k)).getD 0 + w) :
    (d.set k v).total amount = d.total amount + w :=
  sum_setItems h

variable {key : α → κ} {blank : κ → β} {merge : β → α → β} {gain : α → M}

/-- **Collecting adds the amounts of the rows.** -/
theorem total_collect (amount : κ → β → M) (gain : α → M) (hblank : ∀ k, amount k (blank k) = 0)
    {rows : List α}
    (hmerge : ∀ row ∈ rows, ∀ v, amount (key row) (merge v row) = amount (key row) v + gain row)
    (d : Dict κ β) :
    (collect key blank merge d rows).total amount = d.total amount + (rows.map gain).sum := by
  induction rows generalizing d with
  | nil => rw [collect, foldl_nil, map_nil, sum_nil, add_zero]
  | cons row rows ih =>
    have hset : (d.set (key row) (merge ((d.get? (key row)).getD (blank (key row))) row)).total
        amount = d.total amount + gain row := by
      refine total_set ?_
      rw [hmerge row mem_cons_self]
      cases d.get? (key row) with
      | none => rw [getD_none, map_none, getD_none, hblank]
      | some v => rw [getD_some, map_some, getD_some]
    rw [collect, foldl_cons, ← collect, ih fun r hr ↦ hmerge r (mem_cons_of_mem _ hr),
      hset, map_cons, sum_cons, add_assoc]

omit [DecidableEq κ] in
@[simp] theorem total_empty : (empty : Dict κ β).total amount = 0 := rfl

/-- A sum over the rows, group by group. -/
theorem total_groupBy (key : α → κ) (gain : α → M) (rows : List α) :
    (groupBy key rows).total (fun _ group ↦ (group.map gain).sum) = (rows.map gain).sum := by
  have hmerge : ∀ row ∈ rows, ∀ group : List α,
      ((group ++ [row]).map gain).sum = (group.map gain).sum + gain row := by
    intro row _ group
    rw [map_append, sum_append, map_singleton, sum_singleton]
  exact (total_collect (fun _ (group : List α) ↦ (group.map gain).sum) gain (fun _ ↦ rfl)
    hmerge empty).trans (zero_add _)

end Total

/-! ### The groups -/

theorem mem_setItems {v : β} {items : List (κ × β)}
    (h : item ∈ setItems k v items) : item = (k, v) ∨ item ∈ items := by
  induction items with
  | nil => exact .inl (mem_singleton.1 h)
  | cons first items ih =>
    rw [setItems] at h
    split at h
    · obtain h | h := mem_cons.1 h
      · exact .inl h
      · exact .inr (mem_cons_of_mem _ h)
    · obtain rfl | h := mem_cons.1 h
      · exact .inr mem_cons_self
      · exact (ih h).imp_right (mem_cons_of_mem _)

/-- What a value satisfies under its key, and merging a row of the key keeps. -/
theorem collect_invariant {p : κ → β → Prop} (hblank : ∀ k, p k (blank k))
    (hmerge : ∀ row ∈ rows, ∀ v, p (key row) v → p (key row) (merge v row))
    (hd : ∀ item ∈ d.items, p item.1 item.2) :
    ∀ item ∈ (collect key blank merge d rows).items, p item.1 item.2 := by
  induction rows generalizing d with
  | nil => exact hd
  | cons row rows ih =>
    rw [collect, foldl_cons, ← collect]
    refine ih (fun r hr ↦ hmerge r (mem_cons_of_mem _ hr)) fun item hitem ↦ ?_
    obtain rfl | hitem := mem_setItems hitem
    · refine hmerge row mem_cons_self _ ?_
      cases h : d.get? (key row) with
      | none => exact hblank _
      | some v => exact hd _ (get?_eq_some_iff.1 h)
    · exact hd item hitem

/-- A group holds rows of its key. -/
theorem mem_groupBy (h : (k, group) ∈ (groupBy key rows).items) (hrow : row ∈ group) :
    row ∈ rows ∧ key row = k :=
  collect_invariant (p := fun k group ↦ ∀ row ∈ group, row ∈ rows ∧ key row = k)
    (fun _ _ hrow ↦ absurd hrow not_mem_nil)
    (fun _ hmem _ hgroup r hr ↦ (mem_append.1 hr).elim (hgroup r) fun hr ↦
      (mem_singleton.1 hr).symm ▸ ⟨hmem, rfl⟩)
    (fun _ hitem ↦ absurd hitem not_mem_nil) (k, group) h row hrow

/-- Every key is that of a row. -/
theorem exists_of_mem_collect (h : item ∈ (collect key blank merge d rows).items) :
    item.1 ∈ d.keys ∨ ∃ row ∈ rows, key row = item.1 := by
  induction rows generalizing d with
  | nil => exact .inl (mem_map_of_mem h)
  | cons row rows ih =>
    rw [collect, foldl_cons, ← collect] at h
    obtain h | ⟨r, hr, hkey⟩ := ih h
    · obtain h | h := mem_keys_set.1 h
      · exact .inr ⟨row, mem_cons_self, h.symm⟩
      · exact .inl h
    · exact .inr ⟨r, mem_cons_of_mem _ hr, hkey⟩

theorem exists_of_mem_groupBy {item : κ × List α}
    (h : item ∈ (groupBy key rows).items) : ∃ row ∈ rows, key row = item.1 :=
  (exists_of_mem_collect h).resolve_left not_mem_nil

/-- What lies under a key after collecting rows. -/
theorem get?_collect_append {d : Dict κ (List α)} :
    (collect key (fun _ ↦ []) (fun group row ↦ group ++ [row]) d rows).get? k =
      if rows.filter (key · = k) = [] then d.get? k
      else some ((d.get? k).getD [] ++ rows.filter (key · = k)) := by
  induction rows generalizing d with
  | nil => rfl
  | cons row rows ih =>
    have hnext : collect key (fun _ ↦ []) (fun group row ↦ group ++ [row]) d (row :: rows) =
        collect key (fun _ ↦ []) (fun group row ↦ group ++ [row])
          (d.set (key row) ((d.get? (key row)).getD [] ++ [row])) rows := rfl
    rw [hnext, ih, get?_set]
    by_cases hk : key row = k
    · subst hk
      simp
    · rw [filter_cons_of_neg (by simpa using hk), if_neg (Ne.symm hk)]

/-- A group has all the rows of its key, in their order. -/
theorem groupBy_eq_filter
    (h : (k, group) ∈ (groupBy key rows).items) : group = rows.filter (key · = k) := by
  have hget : (groupBy key rows).get? k = some group := get?_eq_some_iff.2 h
  rw [groupBy, get?_collect_append] at hget
  split at hget
  · cases hget
  · exact (some.inj hget).symm

/-- A row has a group. -/
theorem mem_groupBy_of_mem (h : row ∈ rows) :
    (key row, rows.filter (key · = key row)) ∈ (groupBy key rows).items := by
  refine get?_eq_some_iff.1 ?_
  rw [groupBy, get?_collect_append, if_neg]
  · rfl
  · exact ne_nil_of_mem (mem_filter.2 ⟨h, decide_eq_true rfl⟩)

end Kaya.Dict
