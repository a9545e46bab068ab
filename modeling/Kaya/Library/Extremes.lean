import Mathlib.Algebra.BigOperators.Group.List.Basic
import Mathlib.Algebra.Order.Group.Nat
import Mathlib.Data.List.ReduceOption

/-!
# Extremes as sums

A program that keeps a minimum next to a count adds to both. `Merged op` makes that addition one in
a commutative monoid: a value that may be missing, where `op` merges two that are there. The sum of
a list is then the least of its values, or the greatest (`value_sum_min`, `value_sum_max`).
-/

namespace Kaya

open List

/-- A value that may be missing, added by `op`. -/
@[ext]
structure Merged {α : Type*} (op : α → α → α) where
  /-- The value. -/
  value : Option α

namespace Merged

variable {α : Type*} {op : α → α → α}

instance : Zero (Merged op) := ⟨⟨none⟩⟩

instance : Add (Merged op) := ⟨fun x y ↦ ⟨Option.merge op x.value y.value⟩⟩

@[simp] theorem value_zero : (0 : Merged op).value = none := rfl

@[simp] theorem value_add (x y : Merged op) : (x + y).value = Option.merge op x.value y.value :=
  rfl

instance [Std.Associative op] [Std.Commutative op] : AddCommMonoid (Merged op) where
  add_assoc x y z := Merged.ext ((inferInstance : Std.Associative (Option.merge op)).assoc _ _ _)
  zero_add x := Merged.ext (by simp)
  add_zero x := Merged.ext (by simp)
  add_comm x y := Merged.ext ((inferInstance : Std.Commutative (Option.merge op)).comm _ _)
  nsmul := nsmulRec

section Extremum

variable {f : List α → Option α} (hnil : f [] = none)
  (hcons : ∀ x xs, f (x :: xs) = some ((f xs).elim x (op x)))

include hnil hcons

/-- A sum is the extremum of the values. -/
theorem value_sum [Std.Associative op] [Std.Commutative op] (values : List (Option α)) :
    ((values.map fun value ↦ (⟨value⟩ : Merged op)).sum).value = f values.reduceOption := by
  induction values with
  | nil => exact hnil.symm
  | cons value values ih =>
    rw [map_cons, sum_cons, value_add, ih]
    cases value with
    | none => rw [Option.merge_none_left, reduceOption_cons_of_none]
    | some a =>
      rw [reduceOption_cons_of_some, hcons]
      cases f values.reduceOption with
      | none => rfl
      | some b => rfl

/-- The extremum of two lists. -/
theorem extremum_append [Std.Associative op] (xs ys : List α) :
    f (xs ++ ys) = Option.merge op (f xs) (f ys) := by
  induction xs with
  | nil => rw [nil_append, hnil, Option.merge_none_left]
  | cons x xs ih =>
    rw [cons_append, hcons, hcons, ih]
    cases f xs with
    | none =>
      cases f ys with
      | none => rfl
      | some y => rfl
    | some a =>
      cases f ys with
      | none => rfl
      | some y => exact congrArg some (Std.Associative.assoc x a y).symm

end Extremum

variable [LinearOrder α]

theorem value_sum_min (values : List (Option α)) :
    ((values.map fun value ↦ (⟨value⟩ : Merged (min : α → α → α))).sum).value =
      values.reduceOption.min? :=
  value_sum min?_nil (fun _ _ ↦ min?_cons) values

theorem value_sum_max (values : List (Option α)) :
    ((values.map fun value ↦ (⟨value⟩ : Merged (max : α → α → α))).sum).value =
      values.reduceOption.max? :=
  value_sum max?_nil (fun _ _ ↦ max?_cons) values

/-- The least of the values of two lists. -/
theorem min?_append (xs ys : List α) : (xs ++ ys).min? = Option.merge min xs.min? ys.min? :=
  extremum_append min?_nil (fun _ _ ↦ min?_cons) xs ys

/-- The greatest of the values of two lists. -/
theorem max?_append (xs ys : List α) : (xs ++ ys).max? = Option.merge max xs.max? ys.max? :=
  extremum_append max?_nil (fun _ _ ↦ max?_cons) xs ys

end Merged

/-- A natural number, added by taking the higher one. -/
@[ext]
structure Highest where
  /-- The value. -/
  value : ℕ

namespace Highest

instance : Zero Highest := ⟨⟨0⟩⟩

instance : Add Highest := ⟨fun x y ↦ ⟨max x.value y.value⟩⟩

@[simp] theorem value_zero : (0 : Highest).value = 0 := rfl

@[simp] theorem value_add (x y : Highest) : (x + y).value = max x.value y.value := rfl

instance : AddCommMonoid Highest where
  add_assoc x y z := Highest.ext (max_assoc _ _ _)
  zero_add x := Highest.ext (Nat.zero_max _)
  add_zero x := Highest.ext (Nat.max_zero _)
  add_comm x y := Highest.ext (max_comm _ _)
  nsmul := nsmulRec

theorem value_sum (values : List ℕ) :
    ((values.map fun value ↦ (⟨value⟩ : Highest)).sum).value = values.foldr max 0 := by
  induction values with
  | nil => rfl
  | cons value values ih => rw [map_cons, sum_cons, value_add, ih, foldr_cons]

end Highest

/-- The greatest of a start and the values of a list. -/
theorem le_foldl_max {ι α : Type*} [LinearOrder α] (f : ι → α) {x : α} (l : List ι) (a : α) :
    x ≤ l.foldl (fun m i ↦ max m (f i)) a ↔ x ≤ a ∨ ∃ i ∈ l, x ≤ f i := by
  induction l generalizing a with
  | nil => simp
  | cons i l ih => simp only [foldl_cons, ih, le_max_iff, exists_mem_cons_iff, or_assoc]

end Kaya
