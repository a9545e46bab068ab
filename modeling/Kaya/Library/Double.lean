import Mathlib.Algebra.Order.Field.Power
import Mathlib.Data.Rat.Floor
import Mathlib.Tactic.IntervalCases
import Mathlib.Tactic.Positivity

/-!
# Double precision as rounding

A Python `float` in the range where it neither overflows nor becomes subnormal: a rational number
with fifty-three significant bits. An operation on such numbers is the exact one followed by
`toDouble`, rounding to nearest with ties to even.

The last section is about times: the whole second of a double that stands for `n` seconds and `us`
microseconds is `n`, except that the rounding `Carries` it to the next one when the spacing of the
doubles around `n` has grown to microseconds.
-/

namespace Kaya.Double

/-- Round to the nearest integer, a half to the even one. -/
def roundHalfEven (q : ℚ) : ℤ :=
  let below := ⌊q⌋
  if q - below < 1 / 2 then below
  else if 1 / 2 < q - below then below + 1
  else if below % 2 = 0 then below
  else below + 1

/-- The power of two just below `|q|`. -/
def exponent (q : ℚ) : ℤ :=
  let e : ℤ := (Nat.log2 q.num.natAbs : ℤ) - Nat.log2 q.den
  if |q| < 2 ^ e then e - 1 else e

/-- The distance between neighbouring doubles at `q`. -/
def ulp (q : ℚ) : ℚ := 2 ^ (exponent q - 52)

/-- The double nearest to `q`. -/
def toDouble (q : ℚ) : ℚ := if q = 0 then 0 else roundHalfEven (q / ulp q) * ulp q

/-- `int(x)`: towards zero. -/
def trunc (q : ℚ) : ℤ := if 0 ≤ q then ⌊q⌋ else ⌈q⌉

example : toDouble (1 / 10) = 3602879701896397 / 36028797018963968 := by decide +kernel

/-! ### The exponent -/

theorem two_zpow_pos (e : ℤ) : (0 : ℚ) < 2 ^ e := by positivity

variable {q : ℚ} {e n : ℤ}

theorem exponent_spec (hq : q ≠ 0) : (2 : ℚ) ^ exponent q ≤ |q| ∧ |q| < 2 ^ (exponent q + 1) := by
  have hnum : q.num.natAbs ≠ 0 := by simpa using hq
  have hden : q.den ≠ 0 := q.den_ne_zero
  have habs : |q| = (q.num.natAbs : ℚ) / q.den := by
    conv_lhs => rw [← Rat.num_div_den q, abs_div, Nat.abs_cast]
    rw [Nat.cast_natAbs, Int.cast_abs]
  have hdenpos : (0 : ℚ) < q.den := by exact_mod_cast q.den_pos
  have hnumlow : (2 : ℚ) ^ (Nat.log2 q.num.natAbs : ℤ) ≤ q.num.natAbs := by
    rw [zpow_natCast]
    exact_mod_cast Nat.log2_self_le hnum
  have hnumhigh : (q.num.natAbs : ℚ) < 2 ^ ((Nat.log2 q.num.natAbs : ℤ) + 1) := by
    rw [← Nat.cast_succ, zpow_natCast]
    exact_mod_cast Nat.lt_log2_self
  have hdenlow : (2 : ℚ) ^ (Nat.log2 q.den : ℤ) ≤ q.den := by
    rw [zpow_natCast]
    exact_mod_cast Nat.log2_self_le hden
  have hdenhigh : (q.den : ℚ) < 2 ^ ((Nat.log2 q.den : ℤ) + 1) := by
    rw [← Nat.cast_succ, zpow_natCast]
    exact_mod_cast Nat.lt_log2_self
  have hlow : (2 : ℚ) ^ ((Nat.log2 q.num.natAbs : ℤ) - Nat.log2 q.den - 1) ≤ |q| := by
    rw [habs, le_div_iff₀ hdenpos]
    calc (2 : ℚ) ^ ((Nat.log2 q.num.natAbs : ℤ) - Nat.log2 q.den - 1) * q.den
        ≤ 2 ^ ((Nat.log2 q.num.natAbs : ℤ) - Nat.log2 q.den - 1) *
          2 ^ ((Nat.log2 q.den : ℤ) + 1) := by gcongr
      _ = 2 ^ (Nat.log2 q.num.natAbs : ℤ) := by
          rw [← zpow_add₀ two_ne_zero]
          congr 1
          ring
      _ ≤ q.num.natAbs := hnumlow
  have hhigh : |q| < (2 : ℚ) ^ ((Nat.log2 q.num.natAbs : ℤ) - Nat.log2 q.den + 1) := by
    rw [habs, div_lt_iff₀ hdenpos]
    calc (q.num.natAbs : ℚ) < 2 ^ ((Nat.log2 q.num.natAbs : ℤ) + 1) := hnumhigh
      _ = 2 ^ ((Nat.log2 q.num.natAbs : ℤ) - Nat.log2 q.den + 1) * 2 ^ (Nat.log2 q.den : ℤ) := by
          rw [← zpow_add₀ two_ne_zero]
          congr 1
          ring
      _ ≤ 2 ^ ((Nat.log2 q.num.natAbs : ℤ) - Nat.log2 q.den + 1) * q.den := by gcongr
  rw [exponent]
  split <;> rename_i hbelow
  · rw [sub_add_cancel]
    exact ⟨hlow, hbelow⟩
  · exact ⟨not_lt.mp hbelow, hhigh⟩

theorem exponent_eq (hlow : 2 ^ e ≤ |q|) (hhigh : |q| < 2 ^ (e + 1)) : exponent q = e := by
  have hq : q ≠ 0 := by
    rintro rfl
    rw [abs_zero] at hlow
    exact absurd hlow (not_le.mpr (two_zpow_pos e))
  obtain ⟨hlow', hhigh'⟩ := exponent_spec hq
  have h₁ : exponent q < e + 1 := (zpow_lt_zpow_iff_right₀ one_lt_two).mp (hlow'.trans_lt hhigh)
  have h₂ : e < exponent q + 1 := (zpow_lt_zpow_iff_right₀ one_lt_two).mp (hlow.trans_lt hhigh')
  omega

theorem exponent_zero : exponent 0 = -1 := by decide +kernel

theorem exponent_le (he : -1 ≤ e) (h : |q| < 2 ^ (e + 1)) : exponent q ≤ e := by
  by_cases hq : q = 0
  · rwa [hq, exponent_zero]
  · have := (zpow_lt_zpow_iff_right₀ one_lt_two).mp ((exponent_spec hq).1.trans_lt h)
    omega

/-! ### Rounding to integers -/

theorem floor_le_roundHalfEven (q : ℚ) : ⌊q⌋ ≤ roundHalfEven q := by
  simp only [roundHalfEven]
  split_ifs <;> omega

theorem roundHalfEven_le_ceil (q : ℚ) : roundHalfEven q ≤ ⌈q⌉ := by
  by_cases hint : q = ⌊q⌋
  · simp only [roundHalfEven]
    rw [if_pos (by rw [sub_eq_zero.mpr hint]; norm_num)]
    exact Int.floor_le_ceil q
  · have hceil : ⌊q⌋ < ⌈q⌉ := Int.lt_ceil.mpr (lt_of_le_of_ne (Int.floor_le q) (Ne.symm hint))
    simp only [roundHalfEven]
    split_ifs <;> omega

theorem abs_roundHalfEven_sub_le (q : ℚ) : |(roundHalfEven q : ℚ) - q| ≤ 1 / 2 := by
  have hlow := Int.floor_le q
  have hhigh := Int.lt_floor_add_one q
  rw [abs_le]
  simp only [roundHalfEven]
  split_ifs <;> push_cast <;> constructor <;> linarith

theorem roundHalfEven_neg (q : ℚ) : roundHalfEven (-q) = -roundHalfEven q := by
  have hlow := Int.floor_le q
  have hhigh := Int.lt_floor_add_one q
  by_cases hint : q = ⌊q⌋
  · have hneg : ⌊-q⌋ = -⌊q⌋ := by
      rw [Int.floor_eq_iff]
      push_cast
      constructor <;> linarith
    simp only [roundHalfEven, hneg]
    push_cast
    rw [if_pos (by linarith), if_pos (by linarith)]
  · have hlt : (⌊q⌋ : ℚ) < q := lt_of_le_of_ne hlow (Ne.symm hint)
    have hneg : ⌊-q⌋ = -⌊q⌋ - 1 := by
      rw [Int.floor_eq_iff]
      push_cast
      constructor <;> linarith
    simp only [roundHalfEven, hneg]
    push_cast
    split_ifs <;> first | omega | (exfalso; linarith)

/-- From the middle on towards an even number. -/
theorem roundHalfEven_eq_of_even {m : ℤ} (heven : m % 2 = 0) (hlow : m - 1 / 2 ≤ q)
    (hhigh : q < m) : roundHalfEven q = m := by
  have hfloor : ⌊q⌋ = m - 1 := by
    rw [Int.floor_eq_iff]
    push_cast
    constructor <;> linarith
  simp only [roundHalfEven, hfloor]
  push_cast
  rw [if_neg (by linarith), if_neg (show ¬(m - 1) % 2 = 0 by omega)]
  split_ifs <;> omega

/-! ### Rounding to doubles -/

theorem ulp_pos (q : ℚ) : 0 < ulp q := two_zpow_pos _

theorem abs_toDouble_sub_le (q : ℚ) : |toDouble q - q| ≤ ulp q / 2 := by
  rw [toDouble]
  split <;> rename_i hq
  · rw [hq, sub_zero, abs_zero]
    exact (half_pos (ulp_pos 0)).le
  · have hu := ulp_pos q
    have hsplit : (roundHalfEven (q / ulp q) : ℚ) * ulp q - q =
        (roundHalfEven (q / ulp q) - q / ulp q) * ulp q := by
      rw [sub_mul, div_mul_cancel₀ _ hu.ne']
    rw [hsplit, abs_mul, abs_of_pos hu]
    calc |(roundHalfEven (q / ulp q) : ℚ) - q / ulp q| * ulp q ≤ 1 / 2 * ulp q := by
          gcongr
          exact abs_roundHalfEven_sub_le _
      _ = ulp q / 2 := by ring

@[simp]
theorem toDouble_zero : toDouble 0 = 0 := if_pos rfl

theorem exponent_neg (q : ℚ) : exponent (-q) = exponent q := by
  by_cases hq : q = 0
  · rw [hq, neg_zero]
  · obtain ⟨hlow, hhigh⟩ := exponent_spec hq
    exact exponent_eq (by rwa [abs_neg]) (by rwa [abs_neg])

theorem ulp_neg (q : ℚ) : ulp (-q) = ulp q := by rw [ulp, exponent_neg, ulp]

/-- Rounding does not look at the sign. -/
theorem toDouble_neg (q : ℚ) : toDouble (-q) = -toDouble q := by
  by_cases hq : q = 0
  · rw [hq, neg_zero, toDouble_zero, neg_zero]
  · rw [toDouble, if_neg (neg_ne_zero.mpr hq), toDouble, if_neg hq, ulp_neg, neg_div,
      roundHalfEven_neg, Int.cast_neg, neg_mul]

theorem trunc_neg (q : ℚ) : trunc (-q) = -trunc q := by
  rw [trunc, trunc]
  split_ifs with hneg hpos hpos
  · obtain rfl : q = 0 := le_antisymm (neg_nonneg.mp hneg) hpos
    rw [neg_zero, Int.floor_zero, neg_zero]
  · rw [Int.floor_neg]
  · rw [Int.ceil_neg]
  · exact absurd (neg_nonneg.mpr (not_le.mp hpos).le) hneg

theorem toDouble_nonneg (h : 0 ≤ q) : 0 ≤ toDouble q := by
  rw [toDouble]
  split
  · exact le_rfl
  · have hfloor : 0 ≤ ⌊q / ulp q⌋ := Int.floor_nonneg.mpr (div_nonneg h (ulp_pos q).le)
    have hround : (0 : ℚ) ≤ roundHalfEven (q / ulp q) := by
      exact_mod_cast hfloor.trans (floor_le_roundHalfEven _)
    exact mul_nonneg hround (ulp_pos q).le

theorem toDouble_nonpos (h : q ≤ 0) : toDouble q ≤ 0 := by
  rw [toDouble]
  split
  · exact le_rfl
  · have hceil : ⌈q / ulp q⌉ ≤ 0 :=
      Int.ceil_nonpos.mpr (div_nonpos_of_nonpos_of_nonneg h (ulp_pos q).le)
    have hround : (roundHalfEven (q / ulp q) : ℚ) ≤ 0 := by
      exact_mod_cast (roundHalfEven_le_ceil _).trans hceil
    exact mul_nonpos_of_nonpos_of_nonneg hround (ulp_pos q).le

theorem trunc_nonpos (h : q ≤ 0) : trunc q ≤ 0 := by
  rw [trunc]
  split <;> rename_i hsign
  · rw [le_antisymm h hsign, Int.floor_zero]
  · exact Int.ceil_nonpos.mpr h

/-- An integer below `2 ^ 53` is a multiple of the spacing. -/
theorem exists_mul_ulp (hq : exponent q ≤ 52) (n : ℤ) :
    ∃ m : ℤ, m = n * 2 ^ (52 - exponent q).toNat ∧ (n : ℚ) = m * ulp q := by
  refine ⟨_, rfl, ?_⟩
  have hexp : ((52 - exponent q).toNat : ℤ) = 52 - exponent q := Int.toNat_of_nonneg (by omega)
  push_cast
  rw [ulp, mul_assoc, ← zpow_natCast, hexp, ← zpow_add₀ two_ne_zero]
  simp

theorem le_toDouble (hexp : exponent q ≤ 52) (h : n ≤ q) : n ≤ toDouble q := by
  rw [toDouble]
  split <;> rename_i hq
  · rwa [hq] at h
  · obtain ⟨m, -, hm⟩ := exists_mul_ulp hexp n
    have hu := ulp_pos q
    rw [hm] at h ⊢
    have hle : m ≤ ⌊q / ulp q⌋ := by
      rw [Int.le_floor, le_div_iff₀ hu]
      exact h
    gcongr
    exact hle.trans (floor_le_roundHalfEven _)

theorem toDouble_le (hexp : exponent q ≤ 52) (h : q ≤ n) : toDouble q ≤ n := by
  rw [toDouble]
  split <;> rename_i hq
  · rwa [hq] at h
  · obtain ⟨m, -, hm⟩ := exists_mul_ulp hexp n
    have hu := ulp_pos q
    rw [hm] at h ⊢
    have hle : ⌈q / ulp q⌉ ≤ m := by
      rw [Int.ceil_le, div_le_iff₀ hu]
      exact h
    gcongr
    exact (roundHalfEven_le_ceil _).trans hle

/-- **Integers below `2 ^ 53` are doubles.** -/
theorem toDouble_intCast (hlow : -2 ^ 53 < n) (hhigh : n < 2 ^ 53) : toDouble n = n := by
  have hexp : exponent (n : ℚ) ≤ 52 := by
    refine exponent_le (by norm_num) ?_
    rw [abs_lt]
    norm_num
    exact ⟨by exact_mod_cast hlow, by exact_mod_cast hhigh⟩
  exact le_antisymm (toDouble_le hexp le_rfl) (le_toDouble hexp le_rfl)

theorem trunc_intCast (n : ℤ) : trunc n = n := by
  rw [trunc]
  split
  · exact Int.floor_intCast n
  · exact Int.ceil_intCast n

/-- A positive number is not rounded to nothing. -/
theorem toDouble_pos (h : 0 < q) : 0 < toDouble q := by
  have hu := ulp_pos q
  have hlow := (exponent_spec h.ne').1
  rw [abs_of_pos h] at hlow
  have hhalf : ulp q / 2 < q := by
    refine lt_of_lt_of_le ?_ hlow
    calc ulp q / 2 < ulp q := half_lt_self hu
      _ ≤ 2 ^ exponent q := zpow_le_zpow_right₀ one_le_two (by omega)
  have herror := (abs_le.mp (abs_toDouble_sub_le q)).1
  linarith

/-! ### Carrying to the next integer -/

theorem exponent_of_mem {n : ℕ} (hn : n ≠ 0) (hlow : n ≤ q) (hhigh : q < n + 1) :
    exponent q = Nat.log2 n := by
  have hpos : (0 : ℚ) ≤ q := (Nat.cast_nonneg n).trans hlow
  refine exponent_eq ?_ ?_
  · rw [abs_of_nonneg hpos, zpow_natCast]
    refine le_trans ?_ hlow
    exact_mod_cast Nat.log2_self_le hn
  · rw [abs_of_nonneg hpos, ← Nat.cast_succ, zpow_natCast]
    refine hhigh.trans_le ?_
    exact_mod_cast Nat.lt_log2_self

/-- **Carrying.** A number rounds up to the next integer exactly from half a spacing on: an integer
is an even multiple of the spacing, so the middle goes up as well. -/
theorem floor_toDouble {n : ℕ} (hn : n ≠ 0) (hsmall : n < 2 ^ 52) (hlow : n ≤ q)
    (hhigh : q < n + 1) :
    ⌊toDouble q⌋ = if n + 1 - q ≤ 2 ^ ((Nat.log2 n : ℤ) - 53) then (n : ℤ) + 1 else n := by
  have hexp := exponent_of_mem hn hlow hhigh
  have hlog : Nat.log2 n < 52 := (Nat.log2_lt hn).mpr hsmall
  have hle : exponent q ≤ 52 := by omega
  have hq : q ≠ 0 := by
    have : (1 : ℚ) ≤ n := by exact_mod_cast Nat.one_le_iff_ne_zero.mpr hn
    linarith
  have hhalf : ulp q / 2 = 2 ^ ((Nat.log2 n : ℤ) - 53) := by
    rw [ulp, hexp, div_eq_iff two_ne_zero, ← zpow_add_one₀ two_ne_zero]
    congr 1
    ring
  have hbelow : ((n : ℤ) : ℚ) ≤ toDouble q := le_toDouble hle (by exact_mod_cast hlow)
  have habove : toDouble q ≤ ((n + 1 : ℤ) : ℚ) := toDouble_le hle (by push_cast; exact hhigh.le)
  have herror := abs_le.mp (abs_toDouble_sub_le q)
  rw [hhalf] at herror
  split <;> rename_i hcarry
  · obtain ⟨m, hm, hmul⟩ := exists_mul_ulp hle ((n : ℤ) + 1)
    have heven : m % 2 = 0 := by
      obtain ⟨k, hk⟩ : ∃ k, (52 - exponent q).toNat = k + 1 :=
        ⟨(52 - exponent q).toNat - 1, by omega⟩
      rw [hm, hk, pow_succ, ← mul_assoc, Int.mul_emod_left]
    have hu := ulp_pos q
    have hround : roundHalfEven (q / ulp q) = m := by
      refine roundHalfEven_eq_of_even heven ?_ ?_
      · rw [le_div_iff₀ hu, sub_mul, ← hmul]
        push_cast
        linarith
      · rw [div_lt_iff₀ hu, ← hmul]
        push_cast
        exact hhigh
    rw [toDouble, if_neg hq, hround, ← hmul, Int.floor_intCast]
  · rw [Int.floor_eq_iff]
    refine ⟨hbelow, ?_⟩
    push_cast
    linarith

theorem ulp_le (he : -1 ≤ e) (h : |q| < 2 ^ (e + 1)) : ulp q ≤ 2 ^ (e - 52) := by
  rw [ulp]
  have := exponent_le he h
  exact zpow_le_zpow_right₀ one_le_two (by omega)

/-! ### Seconds and microseconds -/

/-- Rounding to a double carries `n + us / 10 ^ 6` up to the next second. -/
def Carries (n us : ℕ) : Prop := (1000000 - us) * 2 ^ (53 - Nat.log2 n) ≤ 1000000

instance (n us : ℕ) : Decidable (Carries n us) := inferInstanceAs (Decidable (_ ≤ _))

section Seconds

variable {n us : ℕ} {f : ℚ}

theorem not_carries_of_log2 (hlog : Nat.log2 n ≤ 33) (hus : us < 1000000) : ¬Carries n us := by
  have hpow : 2 ^ 20 ≤ 2 ^ (53 - Nat.log2 n) := Nat.pow_le_pow_right two_pos (by omega)
  have hone : 1 ≤ 1000000 - us := by omega
  have hmul : 1 * 2 ^ 20 ≤ (1000000 - us) * 2 ^ (53 - Nat.log2 n) := Nat.mul_le_mul hone hpow
  rw [Carries]
  omega

/-- Five centuries pass before a microsecond is lost. -/
theorem not_carries_of_lt (hn : n < 2 ^ 34) (hus : us < 1000000) : ¬Carries n us := by
  refine not_carries_of_log2 ?_ hus
  by_cases hzero : n = 0
  · simp [hzero]
  · exact Nat.le_of_lt_succ ((Nat.log2_lt hzero).mpr hn)

/-- A whole second is a double. -/
theorem not_carries_zero (hn : n < 2 ^ 52) : ¬Carries n 0 := by
  have hlog : Nat.log2 n ≤ 51 := by
    by_cases hzero : n = 0
    · simp [hzero]
    · exact Nat.le_of_lt_succ ((Nat.log2_lt hzero).mpr hn)
  have hpow : 2 ^ 1 ≤ 2 ^ (53 - Nat.log2 n) := Nat.pow_le_pow_right two_pos (by omega)
  rw [Carries]
  omega

/-- A bound that is far from every multiple of a microsecond. -/
theorem one_sub_le_iff {a c : ℕ} {p : ℚ} (hf : |1 - f - a / 1000000| ≤ 1 / 2 ^ 54)
    (hlow : (c : ℚ) / 1000000 + 1 / 2 ^ 54 ≤ p) (hhigh : p < (c + 1) / 1000000 - 1 / 2 ^ 54) :
    1 - f ≤ p ↔ a ≤ c := by
  obtain ⟨hflow, hfhigh⟩ := abs_le.mp hf
  constructor
  · intro hle
    by_contra hmore
    have hsucc : (c : ℚ) + 1 ≤ a := by exact_mod_cast Nat.lt_of_not_le hmore
    linarith
  · intro hle
    have hcast : (a : ℚ) ≤ c := by exact_mod_cast hle
    linarith

/-- The fraction of a second may itself have been rounded: no half lies that close. -/
theorem one_sub_le_iff_carries (hlog : Nat.log2 n ≤ 37) (hus : us < 1000000)
    (hf : |f - us / 1000000| ≤ 1 / 2 ^ 54) :
    1 - f ≤ 2 ^ ((Nat.log2 n : ℤ) - 53) ↔ Carries n us := by
  by_cases hsmall : Nat.log2 n ≤ 32
  · have hpow : (2 : ℚ) ^ ((Nat.log2 n : ℤ) - 53) ≤ 2 ^ (-21 : ℤ) :=
      zpow_le_zpow_right₀ one_le_two (by omega)
    have hlast : (us : ℚ) ≤ 999999 := by exact_mod_cast Nat.le_of_lt_succ hus
    obtain ⟨hflow, hfhigh⟩ := abs_le.mp hf
    norm_num at hpow hfhigh
    exact iff_of_false (by linarith) (not_carries_of_log2 (by omega) hus)
  obtain ⟨a, ha⟩ : ∃ a : ℕ, us + a = 1000000 := ⟨1000000 - us, by omega⟩
  have hgap : |1 - f - a / 1000000| ≤ 1 / 2 ^ 54 := by
    have hcast : (us : ℚ) + a = 1000000 := by exact_mod_cast ha
    rw [abs_sub_comm] at hf
    convert hf using 2
    linarith
  rw [Carries, show 1000000 - us = a by omega]
  generalize Nat.log2 n = k at hlog hsmall ⊢
  -- Spacings from two to thirty microseconds.
  interval_cases k
  · rw [one_sub_le_iff (c := 0) hgap (by norm_num) (by norm_num)]
    omega
  · rw [one_sub_le_iff (c := 1) hgap (by norm_num) (by norm_num)]
    omega
  · rw [one_sub_le_iff (c := 3) hgap (by norm_num) (by norm_num)]
    omega
  · rw [one_sub_le_iff (c := 7) hgap (by norm_num) (by norm_num)]
    omega
  · rw [one_sub_le_iff (c := 15) hgap (by norm_num) (by norm_num)]
    omega

/-- The fraction of a second that `us` microseconds are, as a double. -/
theorem abs_toDouble_micros_sub_le (hus : us < 1000000) :
    |toDouble (us / 1000000) - us / 1000000| ≤ 1 / 2 ^ 54 := by
  have hlast : (us : ℚ) ≤ 999999 := by exact_mod_cast Nat.le_of_lt_succ hus
  have hulp : ulp ((us : ℚ) / 1000000) ≤ 2 ^ (-1 - 52 : ℤ) := by
    refine ulp_le le_rfl ?_
    rw [abs_of_nonneg (by positivity)]
    norm_num
    linarith
  refine (abs_toDouble_sub_le _).trans ?_
  norm_num at hulp ⊢
  linarith

/-- **The whole second of a double.** -/
theorem floor_toDouble_seconds (hn : n < 2 ^ 38) (hus : us < 1000000)
    (hf : |f - us / 1000000| ≤ 1 / 2 ^ 54) (hnonneg : 0 ≤ f) :
    ⌊toDouble (n + f)⌋ = if Carries n us then (n : ℤ) + 1 else n := by
  have hlast : (us : ℚ) ≤ 999999 := by exact_mod_cast Nat.le_of_lt_succ hus
  obtain ⟨hflow, hfhigh⟩ := abs_le.mp hf
  have hlt : f < 1 - 1 / 2 ^ 52 := by
    norm_num at hfhigh ⊢
    linarith
  by_cases hzero : n = 0
  · rw [if_neg (not_carries_of_log2 (by simp [hzero]) hus), hzero, Nat.cast_zero, zero_add]
    have hulp : ulp f ≤ 2 ^ (-1 - 52 : ℤ) := by
      refine ulp_le le_rfl ?_
      rw [abs_of_nonneg hnonneg]
      norm_num at hlt ⊢
      linarith
    have hexp : exponent f ≤ 52 := by
      refine exponent_le (by norm_num) ?_
      rw [abs_of_nonneg hnonneg]
      norm_num at hlt ⊢
      linarith
    have hbelow : ((0 : ℤ) : ℚ) ≤ toDouble f := le_toDouble hexp (by simpa using hnonneg)
    obtain ⟨-, herror⟩ := abs_le.mp (abs_toDouble_sub_le f)
    rw [Nat.cast_zero, Int.floor_eq_iff]
    refine ⟨hbelow, ?_⟩
    norm_num at hulp hlt ⊢
    linarith
  · have hlog : Nat.log2 n ≤ 37 := Nat.le_of_lt_succ ((Nat.log2_lt hzero).mpr hn)
    have hone : (0 : ℚ) < 1 / 2 ^ 52 := by positivity
    rw [floor_toDouble hzero (hn.trans (by norm_num)) (by linarith) (by linarith)]
    have hfraction : (n : ℚ) + 1 - (n + f) = 1 - f := by ring
    simp only [hfraction, one_sub_le_iff_carries hlog hus hf]

/-- **The whole second of a negative double**, towards zero: the fraction is dropped, unless it is
carried to the second below. -/
theorem trunc_toDouble_neg (hn : n < 2 ^ 38) (hpos : 0 < us) (hus : us < 1000000)
    (hf : |f - us / 1000000| ≤ 1 / 2 ^ 54) :
    trunc (toDouble (-(n + 1) + f)) = if Carries n (1000000 - us) then -(n : ℤ) - 1 else -n := by
  have hlast : (us : ℚ) ≤ 999999 := by exact_mod_cast Nat.le_of_lt_succ hus
  have hcast : ((1000000 - us : ℕ) : ℚ) = 1000000 - us := by
    rw [Nat.cast_sub hus.le, Nat.cast_ofNat]
  obtain ⟨hflow, hfhigh⟩ := abs_le.mp hf
  have hrest : |1 - f - ((1000000 - us : ℕ) : ℚ) / 1000000| ≤ 1 / 2 ^ 54 := by
    rw [hcast, abs_sub_comm]
    convert hf using 2
    ring
  have hnonneg : 0 ≤ 1 - f := by
    norm_num at hfhigh
    linarith
  have hmirror : -((n : ℚ) + 1) + f = -(n + (1 - f)) := by ring
  have hsum : (0 : ℚ) ≤ n + (1 - f) := by positivity
  rw [hmirror, toDouble_neg, trunc_neg, trunc, if_pos (toDouble_nonneg hsum),
    floor_toDouble_seconds hn (by omega) hrest hnonneg]
  split_ifs
  · ring
  · rfl

/-- What cutting a double towards zero makes of `n` seconds and a fraction. -/
theorem trunc_toDouble_seconds {n : ℤ} (hlow : -2 ^ 38 < n) (hhigh : n < 2 ^ 38)
    (hus : us < 1000000) (hf : |f - us / 1000000| ≤ 1 / 2 ^ 54) (hnonneg : 0 ≤ f)
    (hzero : us = 0 → f = 0) :
    trunc (toDouble (n + f)) = n + if 0 ≤ n then if Carries n.toNat us then 1 else 0
      else if us = 0 ∨ Carries (-n - 1).toNat (1000000 - us) then 0 else 1 := by
  by_cases hsign : 0 ≤ n
  · obtain ⟨m, rfl⟩ := Int.eq_ofNat_of_zero_le hsign
    have hfloor := floor_toDouble_seconds (n := m) (by omega) hus hf hnonneg
    rw [if_pos hsign, Int.toNat_natCast, Int.cast_natCast, trunc,
      if_pos (toDouble_nonneg (by positivity)), hfloor]
    split_ifs
    · rfl
    · rw [add_zero]
  · obtain ⟨m, rfl⟩ : ∃ m : ℕ, n = -(m + 1) := ⟨(-n - 1).toNat, by omega⟩
    have hm : (-(-(m + 1) : ℤ) - 1).toNat = m := by omega
    rw [if_neg hsign, hm]
    by_cases hus0 : us = 0
    · rw [if_pos (.inl hus0), hzero hus0, add_zero, add_zero,
        toDouble_intCast (by omega) (by omega), trunc_intCast]
    · have hcut := trunc_toDouble_neg (n := m) (by omega) (by omega) hus hf
      push_cast at hcut ⊢
      rw [hcut]
      simp only [hus0, false_or]
      split_ifs <;> omega

end Seconds

end Kaya.Double
