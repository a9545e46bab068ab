import Mathlib.Data.Set.Lattice
import Mathlib.Order.CompletePartialOrder

/-!
# Half-open periods

A period runs from its start up to, and without, its end; a period without an end goes on forever.
`overlap` is the test programs make on two periods. It is exact on periods that are not empty, and
what it rejects is disjoint in any case (`disjoint_of_not_overlap`). Times are any linear order.
-/

namespace Kaya

variable {τ : Type*} [LinearOrder τ] {a b t u : τ} {x y : Option τ}

/-- The times of a period. -/
def period (start : τ) (stop : Option τ) : Set τ := {t | start ≤ t ∧ ∀ e ∈ stop, t < e}

/-- Each of the two begins before the other ends. -/
def overlap (start : τ) (stop : Option τ) (start' : τ) (stop' : Option τ) : Bool :=
  stop.all (start' < ·) && stop'.all (start < ·)

theorem overlap_eq_true : overlap a x b y = true ↔ (∀ e ∈ x, b < e) ∧ ∀ e ∈ y, a < e := by
  simp only [overlap, Bool.and_eq_true, Option.all_eq_true, decide_eq_true_eq]
  rfl

theorem disjoint_of_not_overlap (h : overlap a x b y = false) :
    Disjoint (period a x) (period b y) := by
  refine Set.disjoint_left.2 fun t ht ht' ↦ ?_
  have htrue : overlap a x b y = true := overlap_eq_true.2
    ⟨fun e he ↦ ht'.1.trans_lt (ht.2 e he), fun e he ↦ ht.1.trans_lt (ht'.2 e he)⟩
  exact Bool.false_ne_true (h.symm.trans htrue)

/-- A period ends before another one begins. -/
theorem disjoint_of_stop_le (h : t ≤ b) : Disjoint (period a (some t)) (period b y) := by
  refine disjoint_of_not_overlap ?_
  cases hoverlap : overlap a (some t) b y with
  | false => rfl
  | true => exact absurd ((overlap_eq_true.1 hoverlap).1 t rfl) h.not_gt

/-- A period with an end shares no time with one that goes on: it is empty, or it ends before. -/
theorem disjoint_period_none_iff :
    Disjoint (period a (some t)) (period b none) ↔ t ≤ a ∨ t ≤ b := by
  constructor
  · intro h
    by_contra! hlt
    have hmem : max a b ∈ period a (some t) := by
      refine ⟨le_max_left a b, fun e he ↦ ?_⟩
      obtain rfl := Option.some.inj he
      exact max_lt hlt.1 hlt.2
    exact Set.disjoint_left.1 h hmem ⟨le_max_right a b, fun e he ↦ by simp at he⟩
  · rintro (hempty | hle)
    · refine Set.disjoint_left.2 fun u hu _ ↦ ?_
      exact absurd (hempty.trans hu.1) (hu.2 t rfl).not_ge
    · exact disjoint_of_stop_le hle

/-- What ends earlier is part of what ends later. -/
theorem period_subset (h : ∀ e ∈ x, ∃ e' ∈ y, e' ≤ e) : period a y ⊆ period a x := by
  rintro t ⟨hstart, hstop⟩
  refine ⟨hstart, fun e he ↦ ?_⟩
  obtain ⟨e', he', hle⟩ := h e he
  exact (hstop e' he').trans_le hle

theorem period_subset_none : period a y ⊆ period a none := fun _ ht ↦ ⟨ht.1, fun _ h ↦ (nomatch h)⟩

end Kaya
