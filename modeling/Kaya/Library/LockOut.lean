import Mathlib.Data.List.Basic
import Mathlib.Tactic.Linarith

/-!
# Lock-outs

A log of attempts, **newest first**, of which some have failed; any other attempt resets the count
of failures. A lock-out lets `k` failures pass after a reset and keeps every later one at least `d`
away from the failure before it: `Spaced`.

`failuresIn_le` is what such a rule gives: in a window without a reset there are at most `k`
failures and one more for every `d` of its length. The failures of a window belong to one run of
failures (`failuresIn_eq_recent`), and in such a run all but the oldest `k` are spaced
(`recent_le`).
-/

namespace Kaya.LockOut

open List

variable {ε : Type*} (time : ε → ℤ) (fails : ε → Bool)

/-- The failures since the last reset, newest first. -/
def since (es : List ε) : List ε := es.takeWhile fails

/-- After `k` failures since the last reset, the next one is `d` later. -/
def Spaced (k : ℕ) (d : ℤ) : List ε → Prop
  | [] => True
  | e :: es =>
    (fails e = true → k ≤ (since fails es).length →
      ∀ e' ∈ (since fails es).head?, time e' + d ≤ time e) ∧ Spaced k d es

/-- The log is in the order of time. -/
def Descending (es : List ε) : Prop := es.Pairwise fun e e' ↦ time e' ≤ time e

/-- The number of failures in a window. -/
def failuresIn (a b : ℤ) (es : List ε) : ℕ :=
  es.countP fun e ↦ fails e ∧ a ≤ time e ∧ time e ≤ b

/-- The number of failures since the last reset that are not older than `a`. -/
def recent (a : ℤ) (es : List ε) : ℕ := (since fails es).countP fun e ↦ a ≤ time e

variable {time fails} {k : ℕ} {d a b : ℤ} {e : ε} {es : List ε}

theorem since_cons_of_fails (h : fails e = true) : since fails (e :: es) = e :: since fails es :=
  takeWhile_cons_of_pos h

theorem since_cons_of_resets (h : ¬ fails e = true) : since fails (e :: es) = [] :=
  takeWhile_cons_of_neg h

theorem mem_of_mem_since (h : e ∈ since fails es) : e ∈ es :=
  (takeWhile_sublist fails).subset h

theorem recent_cons_of_fails (h : fails e = true) (ha : a ≤ time e) :
    recent time fails a (e :: es) = recent time fails a es + 1 := by
  rw [recent, since_cons_of_fails h]
  exact countP_cons_of_pos (p := fun e ↦ decide (a ≤ time e)) (decide_eq_true ha)

theorem recent_eq_zero (h : ∀ e ∈ es, time e < a) : recent time fails a es = 0 :=
  countP_eq_zero.2 fun e he ↦ by simpa using h e (mem_of_mem_since he)

/-- Where a failure is recent, the last one is. -/
theorem exists_head_of_recent (hsorted : Descending time es) (h : recent time fails a es ≠ 0) :
    ∃ e, (since fails es).head? = some e ∧ a ≤ time e := by
  cases es with
  | nil => exact absurd rfl h
  | cons e es =>
    by_cases hfails : fails e = true
    · refine ⟨e, by rw [since_cons_of_fails hfails, head?_cons], ?_⟩
      by_contra hold
      refine h (recent_eq_zero fun e' he' ↦ ?_)
      rcases mem_cons.1 he' with rfl | he'
      · exact not_le.1 hold
      · exact ((pairwise_cons.1 hsorted).1 e' he').trans_lt (not_le.1 hold)
    · rw [recent, since_cons_of_resets hfails] at h
      exact absurd rfl h

/-- In a run of failures, all but the oldest `k` are spaced. -/
theorem recent_le (hk : 1 ≤ k) (hd : 0 < d) (hsorted : Descending time es)
    (hspaced : Spaced time fails k d es) (hhead : (since fails es).head? = some e)
    (ha : a ≤ time e) : d * (recent time fails a es - k) ≤ time e - a := by
  induction es generalizing e with
  | nil => exact nomatch hhead
  | cons x es ih =>
    have hfails : fails x = true := by
      by_contra hx
      rw [since_cons_of_resets hx] at hhead
      exact nomatch hhead
    rw [since_cons_of_fails hfails, head?_cons] at hhead
    obtain rfl := Option.some.inj hhead
    rw [recent_cons_of_fails hfails ha]
    by_cases hfew : recent time fails a es < k
    · -- The failures that need not be spaced.
      have hle : (((recent time fails a es + 1 : ℕ) : ℤ) - k) ≤ 0 := by
        push_cast
        omega
      exact (Int.mul_nonpos_of_nonneg_of_nonpos hd.le hle).trans (Int.sub_nonneg_of_le ha)
    · have hmany : k ≤ (since fails es).length := (not_lt.1 hfew).trans countP_le_length
      obtain ⟨e', hhead', ha'⟩ := exists_head_of_recent (pairwise_cons.1 hsorted).2
        (fun hzero : recent time fails a es = 0 ↦ by omega)
      have hgap : time e' + d ≤ time x := hspaced.1 hfails hmany e' hhead'
      have hih := ih (pairwise_cons.1 hsorted).2 hspaced.2 hhead' ha'
      push_cast
      linarith

/-- The failures of a window that ends the log, and has no reset, are the recent ones. -/
theorem failuresIn_eq_recent (hsorted : Descending time es) (hb : ∀ e ∈ es, time e ≤ b)
    (hquiet : ∀ e ∈ es, fails e = false → a ≤ time e → b < time e) :
    failuresIn time fails a b es = recent time fails a es := by
  induction es with
  | nil => rfl
  | cons e es ih =>
    have hih := ih (pairwise_cons.1 hsorted).2 (fun e he ↦ hb e (mem_cons_of_mem _ he))
      fun e he ↦ hquiet e (mem_cons_of_mem _ he)
    have hle : time e ≤ b := hb e mem_cons_self
    by_cases ha : a ≤ time e
    · have hfails : fails e = true := by
        by_contra hreset
        have := hquiet e mem_cons_self (Bool.eq_false_iff.2 hreset) ha
        omega
      rw [recent_cons_of_fails hfails ha, failuresIn,
        countP_cons_of_pos (by simp [hfails, ha, hle]), ← failuresIn, hih]
    · have hold : ∀ e' ∈ e :: es, time e' < a := by
        intro e' he'
        rcases mem_cons.1 he' with rfl | he'
        · exact not_le.1 ha
        · exact ((pairwise_cons.1 hsorted).1 e' he').trans_lt (not_le.1 ha)
      rw [recent_eq_zero hold, failuresIn, countP_eq_zero]
      intro e' he'
      have := hold e' he'
      simp only [decide_eq_true_eq, not_and]
      omega

/-- **The bound of a lock-out.** -/
theorem failuresIn_le (hk : 1 ≤ k) (hd : 0 < d) (hab : a ≤ b) (hsorted : Descending time es)
    (hspaced : Spaced time fails k d es)
    (hquiet : ∀ e ∈ es, fails e = false → a ≤ time e → b < time e) :
    (failuresIn time fails a b es : ℤ) ≤ k + (b - a) / d := by
  induction es with
  | nil =>
    have hpos : 0 ≤ (b - a) / d := Int.ediv_nonneg (Int.sub_nonneg_of_le hab) hd.le
    show (0 : ℤ) ≤ _
    omega
  | cons e es ih =>
    by_cases hnew : b < time e
    · -- The newest attempt is after the window.
      rw [failuresIn, countP_cons_of_neg (by simp [hnew])]
      exact ih (pairwise_cons.1 hsorted).2 hspaced.2
        fun e he ↦ hquiet e (mem_cons_of_mem _ he)
    · have hb : ∀ e' ∈ e :: es, time e' ≤ b := by
        intro e' he'
        rcases mem_cons.1 he' with rfl | he'
        · exact not_lt.1 hnew
        · exact ((pairwise_cons.1 hsorted).1 e' he').trans (not_lt.1 hnew)
      rw [failuresIn_eq_recent hsorted hb hquiet]
      by_cases hzero : recent time fails a (e :: es) = 0
      · have hpos : 0 ≤ (b - a) / d := Int.ediv_nonneg (Int.sub_nonneg_of_le hab) hd.le
        rw [hzero]
        omega
      · obtain ⟨e', hhead, ha⟩ := exists_head_of_recent hsorted hzero
        have hle := recent_le hk hd hsorted hspaced hhead ha
        have hend : time e' ≤ b := hb e' (mem_of_mem_since (mem_of_mem_head? hhead))
        have hdiv : (recent time fails a (e :: es) : ℤ) - k ≤ (b - a) / d :=
          (Int.le_ediv_iff_mul_le hd).2 (by linarith)
        linarith

end Kaya.LockOut
