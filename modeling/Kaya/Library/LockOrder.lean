import Mathlib.Data.List.Dedup
import Mathlib.Data.List.Sort
import Mathlib.Data.Prod.Lex

/-!
# Locks in one order

A transaction requests exclusive locks one after the other and holds each until it ends; a lock it
holds already is no further request. `InOrder` says that every new lock is larger than those held.
Two transactions that keep to one order are never in a `Deadlock`.

Locks that come in tiers are pairs under the lexicographic order, and `sortedKeys` is how a program
takes a tier. A transaction that has a lock of an upper tier keeps to the order only where the locks
of a lower tier it requests then are its own already (`inOrder_below`).
-/

namespace Kaya

open List

variable {κ : Type*} [LinearOrder κ] {held held' xs ys keys : List κ} {k k' : κ} {n m : ℕ}

/-! ### Orders -/

/-- Every new lock is larger than those held. -/
def InOrder : List κ → List κ → Prop
  | _, [] => True
  | held, k :: ks => (k ∈ held ∨ ∀ h ∈ held, h < k) ∧ InOrder (held ++ [k]) ks

instance instDecidableInOrder : ∀ held xs : List κ, Decidable (InOrder held xs)
  | _, [] => inferInstanceAs (Decidable True)
  | held, k :: ks =>
    have : Decidable (InOrder (held ++ [k]) ks) := instDecidableInOrder (held ++ [k]) ks
    inferInstanceAs (Decidable ((k ∈ held ∨ ∀ h ∈ held, h < k) ∧ InOrder (held ++ [k]) ks))

@[simp] theorem inOrder_nil : InOrder held [] := trivial

theorem inOrder_cons : InOrder held (k :: xs) ↔
    (k ∈ held ∨ ∀ h ∈ held, h < k) ∧ InOrder (held ++ [k]) xs := Iff.rfl

theorem inOrder_append : InOrder held (xs ++ ys) ↔ InOrder held xs ∧ InOrder (held ++ xs) ys := by
  induction xs generalizing held with
  | nil => simp
  | cons k xs ih => simp only [cons_append, inOrder_cons, ih, and_assoc, append_assoc, nil_append]

/-- Only what is held matters, not since when. -/
theorem inOrder_congr (h : ∀ x, x ∈ held ↔ x ∈ held') : InOrder held xs ↔ InOrder held' xs := by
  induction xs generalizing held held' with
  | nil => exact Iff.rfl
  | cons k xs ih =>
    have happend : ∀ x, x ∈ held ++ [k] ↔ x ∈ held' ++ [k] := fun x ↦ by
      simp only [mem_append, h]
    simp only [inOrder_cons, h, ih happend]

/-- Locks in strictly increasing order. -/
theorem inOrder_of_pairwise (h : (held ++ xs).Pairwise (· < ·)) : InOrder held xs := by
  induction xs generalizing held with
  | nil => trivial
  | cons k xs ih =>
    refine ⟨.inr fun x hx ↦ ?_, ih (by simpa using h)⟩
    exact (pairwise_append.1 h).2.2 x hx k mem_cons_self

theorem inOrder_of_sorted (h : xs.Pairwise (· < ·)) : InOrder [] xs := by
  refine inOrder_of_pairwise ?_
  rwa [nil_append]

/-- Below a lock that is held, only locks that are held too. -/
theorem inOrder_below (hk : k ∈ held) (hlt : ∀ x ∈ xs, x < k) :
    InOrder held xs ↔ ∀ x ∈ xs, x ∈ held := by
  induction xs generalizing held with
  | nil => simp
  | cons x xs ih =>
    have hx : ¬ ∀ h ∈ held, h < x := fun h ↦ lt_asymm (h k hk) (hlt x mem_cons_self)
    rw [inOrder_cons, or_iff_left hx, forall_mem_cons]
    refine and_congr_right fun hheld ↦ ?_
    have hsame : ∀ y, y ∈ held ++ [x] ↔ y ∈ held := fun y ↦ by
      rw [mem_append, mem_singleton]
      exact or_iff_left_of_imp fun h ↦ h ▸ hheld
    rw [inOrder_congr hsame]
    exact ih hk fun y hy ↦ hlt y (mem_cons_of_mem x hy)

/-! ### Deadlocks -/

/-- A transaction waits for `k` and holds what it has requested before. -/
def WaitsAt (xs held : List κ) (k : κ) : Prop := (∃ rest, xs = held ++ k :: rest) ∧ k ∉ held

/-- Each of the two waits for a lock that the other one holds. -/
def Deadlock (xs ys : List κ) : Prop :=
  ∃ held k held' k', WaitsAt xs held k ∧ WaitsAt ys held' k' ∧ k ∈ held' ∧ k' ∈ held

theorem InOrder.lt_of_waitsAt (h : InOrder [] xs) (hwaits : WaitsAt xs held k) :
    ∀ x ∈ held, x < k := by
  obtain ⟨⟨rest, rfl⟩, hnew⟩ := hwaits
  exact (inOrder_append.1 h).2.1.resolve_left hnew

/-- **Transactions that keep to one order do not wait for each other.** -/
theorem not_deadlock (hxs : InOrder [] xs) (hys : InOrder [] ys) : ¬ Deadlock xs ys := by
  rintro ⟨held, k, held', k', hwaits, hwaits', hk, hk'⟩
  exact lt_asymm (hxs.lt_of_waitsAt hwaits k' hk') (hys.lt_of_waitsAt hwaits' k hk)

omit [LinearOrder κ] in
theorem Deadlock.symm (h : Deadlock xs ys) : Deadlock ys xs := by
  obtain ⟨held, k, held', k', hwaits, hwaits', hk, hk'⟩ := h
  exact ⟨held', k', held, k, hwaits', hwaits, hk', hk⟩

omit [LinearOrder κ] in
/-- A last lock that the other transaction does not request is no cause to wait. -/
theorem Deadlock.of_snoc (h : Deadlock (xs ++ [k]) ys) (hk : k ∉ ys) : Deadlock xs ys := by
  obtain ⟨held, x, held', y, ⟨⟨rest, heq⟩, hnew⟩, hwaits, hx, hy⟩ := h
  obtain ⟨⟨rest', hys⟩, -⟩ := id hwaits
  have hne : x ≠ k := fun hxk ↦ hk (hxk ▸ hys ▸ mem_append_left _ hx)
  rcases eq_nil_or_concat rest with rfl | ⟨rest, z, rfl⟩
  · exact absurd (append_inj' heq rfl).2 (by simpa using hne.symm)
  · refine ⟨held, x, held', y, ⟨⟨rest, ?_⟩, hnew⟩, hwaits, hx, hy⟩
    have hsnoc : xs ++ [k] = (held ++ x :: rest) ++ [z] := by simpa using heq
    exact (append_inj' hsnoc rfl).1

/-! ### Tiers -/

/-- `sorted(set(keys))`. -/
def sortedKeys (keys : List κ) : List κ := keys.dedup.insertionSort (· ≤ ·)

theorem pairwise_sortedKeys (keys : List κ) : (sortedKeys keys).Pairwise (· < ·) := by
  have hsorted : (sortedKeys keys).Pairwise (· ≤ ·) := pairwise_insertionSort (· ≤ ·) _
  have hnodup : (sortedKeys keys).Nodup :=
    (perm_insertionSort (· ≤ ·) _).nodup_iff.2 (nodup_dedup keys)
  exact (hsorted.and hnodup).imp fun h ↦ lt_of_le_of_ne h.1 h.2

@[simp] theorem mem_sortedKeys : k ∈ sortedKeys keys ↔ k ∈ keys := by
  simp [sortedKeys]

/-- The locks of a tier. -/
def tier (n : ℕ) (keys : List κ) : List (ℕ ×ₗ κ) := keys.map fun k ↦ toLex (n, k)

omit [LinearOrder κ] in
theorem mem_tier {x : ℕ ×ₗ κ} : x ∈ tier n keys ↔ ∃ k ∈ keys, toLex (n, k) = x := mem_map

omit [LinearOrder κ] in
theorem tier_append (n : ℕ) (keys keys' : List κ) :
    tier n (keys ++ keys') = tier n keys ++ tier n keys' := map_append

omit [LinearOrder κ] in
theorem toLex_mem_tier : (toLex (n, k) : ℕ ×ₗ κ) ∈ tier m keys ↔ n = m ∧ k ∈ keys := by
  constructor
  · intro h
    obtain ⟨k', hk', heq⟩ := mem_tier.1 h
    obtain ⟨rfl, rfl⟩ := Prod.mk.inj (toLex_inj.1 heq)
    exact ⟨rfl, hk'⟩
  · rintro ⟨rfl, hk⟩
    exact mem_tier.2 ⟨k, hk, rfl⟩

theorem toLex_lt_iff : (toLex (n, k) : ℕ ×ₗ κ) < toLex (n, k') ↔ k < k' := by
  simp [Prod.Lex.toLex_lt_toLex]

theorem pairwise_tier (n : ℕ) (h : keys.Pairwise (· < ·)) : (tier n keys).Pairwise (· < ·) := by
  refine pairwise_map.2 (h.imp ?_)
  intro k k' hlt
  exact Prod.Lex.toLex_lt_toLex.2 (.inr ⟨rfl, hlt⟩)

theorem tier_lt (hnm : n < m) {keys' : List κ} : ∀ x ∈ tier n keys, ∀ y ∈ tier m keys', x < y := by
  intro x hx y hy
  obtain ⟨k, -, rfl⟩ := mem_tier.1 hx
  obtain ⟨k', -, rfl⟩ := mem_tier.1 hy
  exact Prod.Lex.toLex_lt_toLex.2 (.inl hnm)

/-- A tier is in order where its keys are. -/
theorem inOrder_tier (held : List κ) : InOrder (tier n held) (tier n keys) ↔ InOrder held keys := by
  induction keys generalizing held with
  | nil => exact Iff.rfl
  | cons k keys ih =>
    have hlarger : (∀ x ∈ tier n held, x < toLex (n, k)) ↔ ∀ h ∈ held, h < k := by
      simp only [tier, forall_mem_map, toLex_lt_iff]
    have hheld : tier n held ++ [toLex (n, k)] = tier n (held ++ [k]) := by
      rw [tier_append]
      rfl
    show ((toLex (n, k) ∈ tier n held ∨ ∀ x ∈ tier n held, x < toLex (n, k)) ∧
        InOrder (tier n held ++ [toLex (n, k)]) (tier n keys)) ↔ _
    rw [hlarger, hheld, ih, toLex_mem_tier, inOrder_cons]
    simp only [true_and]

end Kaya
