import Mathlib.Data.List.Basic

/-!
# Departures

Members of a list are present, and some of them are about to leave. While fewer are about to leave
than are present, whoever of them leaves, someone stays: `Covered`. A check that counts the present
before a departure keeps a list covered only where it counts the announced departures too
(`covered_modify_of_le`).
-/

namespace Kaya.Departures

open List

variable {α : Type*} {p present leaving : α → Bool} {l : List α} {i : ℕ} {f : α → α} {a : α}

/-- Fewer are about to leave than are present. -/
def Covered (present leaving : α → Bool) (l : List α) : Prop := l.countP leaving < l.countP present

theorem Covered.pos (h : Covered present leaving l) : 0 < l.countP present := Nat.zero_lt_of_lt h

/-- What a member's change does to a count. -/
theorem countP_modify (h : l[i]? = some a) :
    (l.modify i f).countP p + (p a).toNat = l.countP p + (p (f a)).toNat := by
  induction l generalizing i with
  | nil => simp at h
  | cons b l ih =>
    cases i with
    | zero =>
      obtain rfl : b = a := by simpa using h
      simp only [modify_zero_cons, countP_cons]
      cases p b <;> cases p (f b) <;> simp
    | succ i =>
      have htail := ih (i := i) (by simpa using h)
      simp only [modify_succ_cons, countP_cons]
      omega

/-- What every change of a member preserves, every member keeps. -/
theorem forall_mem_modify {P : α → Prop} (h : ∀ a ∈ l, P a) (hf : ∀ a ∈ l, P (f a)) :
    ∀ a ∈ l.modify i f, P a := by
  induction l generalizing i with
  | nil => simp
  | cons b l ih =>
    cases i with
    | zero =>
      rw [modify_zero_cons]
      exact forall_mem_cons.2 ⟨hf b mem_cons_self, (forall_mem_cons.1 h).2⟩
    | succ i =>
      rw [modify_succ_cons]
      exact forall_mem_cons.2 ⟨(forall_mem_cons.1 h).1,
        ih (forall_mem_cons.1 h).2 (forall_mem_cons.1 hf).2⟩

theorem modify_of_none (h : l[i]? = none) : l.modify i f = l :=
  modify_eq_self (getElem?_eq_none_iff.1 h)

/-- A change that lets no present member go, but for one that was about to leave, and announces no
departure, but for one that becomes present, keeps a list covered. -/
theorem Covered.modify (h : Covered present leaving l)
    (hchange : ∀ a ∈ l[i]?, (leaving (f a)).toNat + (present a).toNat ≤
      (present (f a)).toNat + (leaving a).toNat) : Covered present leaving (l.modify i f) := by
  cases hi : l[i]? with
  | none => rwa [modify_of_none hi]
  | some a =>
    have hleaving := countP_modify (p := leaving) (f := f) hi
    have hpresent := countP_modify (p := present) (f := f) hi
    have hle := hchange a hi
    simp only [Covered] at h ⊢
    omega

/-- One more departure may be announced where two more are present than leave. -/
theorem covered_modify_of_le (h : l.countP leaving + 2 ≤ l.countP present)
    (hpresent : ∀ a ∈ l[i]?, present (f a) = present a) :
    Covered present leaving (l.modify i f) := by
  cases hi : l[i]? with
  | none =>
    rw [modify_of_none hi, Covered]
    omega
  | some a =>
    have hl := countP_modify (p := leaving) (f := f) hi
    have hp := countP_modify (p := present) (f := f) hi
    rw [hpresent a hi] at hp
    have hone := Bool.toNat_le (leaving (f a))
    simp only [Covered]
    omega

/-- A member who is not about to leave may join. -/
theorem Covered.append (h : Covered present leaving l) (ha : leaving a = false) :
    Covered present leaving (l ++ [a]) := by
  simp only [Covered, countP_append, countP_singleton, ha] at h ⊢
  simp only [Bool.false_eq_true, if_false]
  omega

end Kaya.Departures
