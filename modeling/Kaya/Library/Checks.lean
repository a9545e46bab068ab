import Mathlib.Data.List.Basic
import Mathlib.Data.Option.Basic

/-!
# Checks and lookups that raise

`require` is a check and `found` a lookup, each with the error it raises. A computation with them
succeeds where every check holds, every lookup finds something and the rest succeeds, and the simp
lemmas say so.
-/

namespace Kaya

open List

variable {ε α β : Type} {e e' : ε} {a : α} {m : Except ε α} {k f : β → Except ε α} {p : Prop}
  {x : Option β} {xs : List β} {ys : List α} {P' : α → Prop}

/-- A check. -/
def require (p : Prop) [Decidable p] (e : ε) : Except ε Unit := if p then .ok () else .error e

/-- A lookup. -/
def found (x : Option β) (e : ε) : Except ε β := x.elim (.error e) .ok

theorem bind_eq_ok {m : Except ε β} : (m >>= k) = .ok a ↔ ∃ b, m = .ok b ∧ k b = .ok a := by
  cases m with
  | ok b =>
    show k b = .ok a ↔ ∃ b', Except.ok b = .ok b' ∧ k b' = .ok a
    simp only [Except.ok.injEq, exists_eq_left']
  | error e =>
    show Except.error e = .ok a ↔ ∃ b', Except.error e = .ok b' ∧ k b' = .ok a
    simp only [reduceCtorEq, false_and, exists_false]

theorem map_eq_ok {m : Except ε β} {f : β → α} : m.map f = .ok a ↔ ∃ b, m = .ok b ∧ f b = a := by
  cases m with
  | ok b => simp [Except.map]
  | error e => simp [Except.map]

@[simp] theorem require_eq_ok [Decidable p] {u : Unit} : require p e = .ok u ↔ p := by
  rw [require]
  split
  next h => simp only [h]
  next h => simp only [h, reduceCtorEq]

@[simp] theorem require_bind_eq_ok [Decidable p] {k : Unit → Except ε α} :
    (require p e >>= k) = .ok a ↔ p ∧ k () = .ok a := by
  rw [bind_eq_ok]
  exact ⟨fun ⟨_, hp, h⟩ ↦ ⟨require_eq_ok.1 hp, h⟩, fun ⟨hp, h⟩ ↦ ⟨(), require_eq_ok.2 hp, h⟩⟩

/-- A check fails itself, or what follows it does. -/
theorem require_bind_eq_error [Decidable p] {k : Unit → Except ε α} :
    (require p e >>= k) = .error e' ↔ ¬ p ∧ e = e' ∨ p ∧ k () = .error e' := by
  rw [require]
  split
  next h =>
    show k () = .error e' ↔ _
    simp only [h, not_true, false_and, true_and, false_or]
  next h =>
    show Except.error e = .error e' ↔ _
    simp only [h, not_false_iff, true_and, false_and, or_false, Except.error.injEq]

@[simp] theorem found_eq_ok {b : β} : found x e = .ok b ↔ x = some b := by
  cases x with
  | none => simp [found]
  | some b' => simp [found]

@[simp] theorem found_bind_eq_ok : (found x e >>= k) = .ok a ↔ ∃ b, x = some b ∧ k b = .ok a := by
  simp only [bind_eq_ok, found_eq_ok]

/-- A lookup fails itself, or what follows it does. -/
theorem found_bind_eq_error :
    (found x e >>= k) = .error e' ↔ x = none ∧ e = e' ∨ ∃ b, x = some b ∧ k b = .error e' := by
  cases x with
  | none =>
    show Except.error e = .error e' ↔ _
    simp only [true_and, reduceCtorEq, false_and, exists_false, or_false, Except.error.injEq]
  | some b =>
    show k b = .error e' ↔ _
    simp only [reduceCtorEq, false_and, Option.some.injEq, exists_eq_left', false_or]

@[simp] theorem pure_eq_ok {b : α} : (pure b : Except ε α) = .ok a ↔ b = a :=
  ⟨Except.ok.inj, congrArg _⟩

/-- All elements pass. -/
theorem mapM_eq_ok_iff : xs.mapM f = .ok ys ↔ xs.map f = ys.map .ok := by
  induction xs generalizing ys with
  | nil =>
    rw [mapM_nil, pure_eq_ok, map_nil, eq_comm, nil_eq, map_eq_nil_iff]
  | cons x xs ih =>
    rw [mapM_cons, bind_eq_ok, map_cons]
    constructor
    · rintro ⟨y, hy, hrest⟩
      obtain ⟨ys', hys', hpure⟩ := bind_eq_ok.1 hrest
      rw [← pure_eq_ok.1 hpure, map_cons, hy, ih.1 hys']
    · intro h
      obtain _ | ⟨y, ys⟩ := ys
      · exact absurd h (by simp)
      · obtain ⟨hy, hrest⟩ := cons.inj h
        exact ⟨y, hy, bind_eq_ok.2 ⟨ys, ih.2 hrest, rfl⟩⟩

/-- All elements pass, each with a result that is known. -/
theorem eq_map_of_mapM {g : β → α} (hf : ∀ x y, f x = .ok y → y = g x) (h : xs.mapM f = .ok ys) :
    ys = xs.map g ∧ ∀ x ∈ xs, f x = .ok (g x) := by
  rw [mapM_eq_ok_iff] at h
  have hok : ∀ x ∈ xs, f x = .ok (g x) := by
    intro x hx
    obtain ⟨y, -, hy⟩ := mem_map.1 (h ▸ mem_map_of_mem hx)
    rw [← hy, hf x y hy.symm]
  refine ⟨?_, hok⟩
  rw [map_congr_left hok] at h
  have hmap := congrArg (map fun m : Except ε α ↦ m.toOption) h
  simp only [map_map, Function.comp_def, Except.toOption] at hmap
  have hinj : Function.Injective (some : α → Option α) := Option.some_injective α
  have hsome : (xs.map g).map some = ys.map some := by
    rw [map_map]
    exact hmap
  exact (hinj.list_map hsome).symm

/-! ### Computations with two outcomes -/

/-- A result is as `P` says, and an error as `E` says. -/
def Yields (E : ε → Prop) (P : α → Prop) : Except ε α → Prop
  | .ok a => P a
  | .error e => E e

variable {E : ε → Prop} {P : α → Prop} {Q : β → Prop}

theorem yields_iff : Yields E P m ↔ (∀ a, m = .ok a → P a) ∧ ∀ e, m = .error e → E e := by
  cases m with
  | ok a =>
    exact ⟨fun h ↦ ⟨fun _ heq ↦ Except.ok.inj heq ▸ h, fun _ heq ↦ absurd heq (by simp)⟩,
      fun h ↦ h.1 a rfl⟩
  | error e =>
    exact ⟨fun h ↦ ⟨fun _ heq ↦ absurd heq (by simp), fun _ heq ↦ Except.error.inj heq ▸ h⟩,
      fun h ↦ h.2 e rfl⟩

theorem Yields.imp (h : Yields E P m) (hP : ∀ a, P a → P' a) : Yields E P' m := by
  cases m with
  | ok a => exact hP a h
  | error e => exact h

theorem Yields.mono {E' : ε → Prop} (h : Yields E P m)
    (hE : ∀ e, E e → E' e) (hP : ∀ a, P a → P' a) : Yields E' P' m := by
  cases m with
  | ok a => exact hP a h
  | error e => exact hE e h

theorem Yields.bind {k : α → Except ε β} (h : Yields E P m)
    (hk : ∀ a, P a → Yields E Q (k a)) : Yields E Q (m >>= k) := by
  cases m with
  | ok a => exact hk a h
  | error e => exact h

theorem Yields.require [Decidable p] (h : p) : Yields E (fun _ ↦ True) (require p e) := by
  rw [Kaya.require, if_pos h]
  trivial

/-- A loop, by an invariant of the elements that are done. -/
theorem Yields.foldlM {I : List β → α → Prop} {step : α → β → Except ε α} (xs : List β)
    (hstart : I [] a)
    (hstep : ∀ done x rest a, xs = done ++ x :: rest → I done a →
      Yields E (I (done ++ [x])) (step a x)) : Yields E (I xs) (xs.foldlM step a) := by
  have hloop : ∀ (rest done : List β) (a : α), xs = done ++ rest → I done a →
      Yields E (I xs) (rest.foldlM step a) := by
    intro rest
    induction rest with
    | nil =>
      intro done a hxs ha
      rw [append_nil] at hxs
      exact hxs ▸ ha
    | cons x rest ih =>
      intro done a hxs ha
      rw [foldlM_cons]
      refine (hstep done x rest a hxs ha).bind fun a' ha' ↦ ih (done ++ [x]) a' ?_ ha'
      rw [hxs, append_assoc]
      rfl
  exact hloop xs [] a rfl hstart

/-- An error of a `mapM` is that of an element. -/
theorem Yields.mapM (xs : List β)
    (h : ∀ x ∈ xs, Yields E (fun _ ↦ True) (f x)) : Yields E (fun _ ↦ True) (xs.mapM f) := by
  induction xs with
  | nil => trivial
  | cons x xs ih =>
    rw [mapM_cons]
    exact (h x mem_cons_self).bind fun _ _ ↦
      (ih fun x hx ↦ h x (mem_cons_of_mem _ hx)).bind fun _ _ ↦ trivial

/-- Checks of all elements. -/
theorem Yields.forM {check : β → Except ε Unit} (xs : List β)
    (h : ∀ x ∈ xs, Yields E (fun _ ↦ True) (check x)) :
    Yields E (fun _ ↦ True) (xs.forM check) := by
  induction xs with
  | nil => trivial
  | cons x xs ih =>
    show Yields E _ (check x >>= fun _ ↦ xs.forM check)
    exact (h x mem_cons_self).bind fun _ _ ↦
      ih fun x hx ↦ h x (mem_cons_of_mem _ hx)

end Kaya
