import Mathlib.Computability.RegularExpressions
import Mathlib.Tactic.IntervalCases

/-!
# Regular expressions as a validator writes them

Mathlib's regular expressions over characters, with the forms a Python `re` pattern uses on top of
them: literal text, a character class, alternatives and bounded repetition. `fullmatch` is Mathlib's
derivative matcher.
-/

namespace Kaya.Regex

open RegularExpression List

/-- Regular expressions over characters. -/
abbrev Re := RegularExpression Char

/-- Literal text. -/
def lit (text : String) : Re := text.toList.foldr (fun c r ↦ char c * r) 1

/-- `(?:r|s|…)`. -/
def anyOf (rs : List Re) : Re := rs.foldr (· + ·) 0

/-- `[…]`. -/
def cls (cs : List Char) : Re := anyOf (cs.map char)

/-- `r{m,n}`. -/
def repeated (r : Re) (m n : ℕ) : Re := r ^ m * (1 + r) ^ (n - m)

/-- The characters from `first` to `last`. -/
def charRange (first last : Char) : List Char :=
  (List.range' first.toNat (last.toNat - first.toNat + 1)).map Char.ofNat

/-- `re.fullmatch`. -/
def fullmatch (r : Re) (text : List Char) : Bool := r.rmatch text

variable {r s : Re} {rs : List Re} {cs text rest : List Char} {m n : ℕ}

theorem fullmatch_iff : fullmatch r text = true ↔ text ∈ r.matches' := rmatch_iff_matches' r text

theorem fullmatch_mul (hr : fullmatch r text = true) (hs : fullmatch s rest = true) :
    fullmatch (r * s) (text ++ rest) = true := by
  rw [fullmatch_iff] at hr hs ⊢
  exact Language.append_mem_mul hr hs

theorem fullmatch_lit (text : String) : fullmatch (lit text) text.toList = true := by
  rw [lit]
  induction text.toList with
  | nil => rfl
  | cons c cs ih =>
    have hc : fullmatch (char c) [c] = true := (char_rmatch_iff c [c]).mpr rfl
    exact fullmatch_mul hc ih

theorem fullmatch_anyOf (hmem : r ∈ rs) (h : fullmatch r text = true) :
    fullmatch (anyOf rs) text = true := by
  induction rs with
  | nil => cases hmem
  | cons s rs ih =>
    refine (add_rmatch_iff s (anyOf rs) text).mpr ?_
    rcases mem_cons.mp hmem with rfl | hlater
    · exact .inl h
    · exact .inr (ih hlater)

theorem fullmatch_cls {c : Char} (hc : c ∈ cs) : fullmatch (cls cs) [c] = true :=
  fullmatch_anyOf (mem_map_of_mem hc) ((char_rmatch_iff c [c]).mpr rfl)

theorem fullmatch_star (h : ∀ c ∈ text, c ∈ cs) : fullmatch (cls cs).star text = true := by
  rw [fullmatch_iff]
  refine Language.mem_kstar.mpr ⟨text.map fun c ↦ [c], ?_, ?_⟩
  · rw [← flatMap_def, flatMap_singleton']
  · intro word hword
    obtain ⟨c, hc, rfl⟩ := mem_map.mp hword
    exact fullmatch_iff.mp (fullmatch_cls (h c hc))

theorem fullmatch_pow {words : List (List Char)} (hlen : words.length = n)
    (h : ∀ word ∈ words, fullmatch r word = true) : fullmatch (r ^ n) words.flatten = true := by
  rw [fullmatch_iff, matches'_pow]
  exact Language.mem_pow.mpr ⟨words, rfl, hlen, fun word hword ↦ fullmatch_iff.mp (h word hword)⟩

theorem fullmatch_repeated (hm : m ≤ text.length) (hn : text.length ≤ n)
    (h : ∀ c ∈ text, c ∈ cs) : fullmatch (repeated (cls cs) m n) text = true := by
  have hsplit : text = ((text.take m).map fun c ↦ [c]).flatten ++
      ((text.drop m).map (fun c ↦ [c]) ++ replicate (n - text.length) []).flatten := by
    rw [flatten_append, ← flatMap_def, ← flatMap_def, flatMap_singleton',
      flatMap_singleton', flatten_replicate_nil, append_nil, take_append_drop]
  rw [hsplit]
  refine fullmatch_mul (fullmatch_pow ?_ ?_) (fullmatch_pow ?_ ?_)
  · rw [length_map, length_take, min_eq_left hm]
  · intro word hword
    obtain ⟨c, hc, rfl⟩ := mem_map.mp hword
    exact fullmatch_cls (h c (mem_of_mem_take hc))
  · rw [length_append, length_map, length_drop, length_replicate]
    omega
  · intro word hword
    refine (add_rmatch_iff 1 (cls cs) word).mpr ?_
    rcases mem_append.mp hword with hchar | hnil
    · obtain ⟨c, hc, rfl⟩ := mem_map.mp hchar
      exact .inr (fullmatch_cls (h c (mem_of_mem_drop hc)))
    · rw [eq_of_mem_replicate hnil]
      exact .inl rfl

/-! ### Characters and numbers -/

theorem mem_charRange {first last c : Char} (hfirst : first.toNat ≤ c.toNat)
    (hlast : c.toNat ≤ last.toNat) : c ∈ charRange first last := by
  refine mem_map.mpr ⟨c.toNat, ?_, Char.ofNat_toNat c⟩
  rw [mem_range'_1]
  omega

theorem mem_charRange_of_isDigit {c : Char} (h : c.isDigit = true) : c ∈ charRange '0' '9' := by
  rw [Char.isDigit_iff_toNat] at h
  exact mem_charRange h.1 h.2

/-- A letter or a digit lies in one of three ranges. -/
theorem isAlphanum_cases {c : Char} (h : c.isAlphanum = true) :
    ('A' ≤ c ∧ c ≤ 'Z') ∨ ('a' ≤ c ∧ c ≤ 'z') ∨ c.isDigit = true := by
  rcases Bool.or_eq_true_iff.1 h with halpha | hdigit
  · rcases Bool.or_eq_true_iff.1 halpha with hupper | hlower
    · exact .inl (of_decide_eq_true hupper)
    · obtain ⟨hfirst, hlast⟩ := Bool.and_eq_true_iff.1 hlower
      exact .inr (.inl ⟨of_decide_eq_true hfirst, of_decide_eq_true hlast⟩)
  · exact .inr (.inr hdigit)

/-- A positive number is written as a digit other than zero and further digits. -/
theorem toDigits_eq_cons {n : ℕ} (h : 1 ≤ n) : ∃ c cs, Nat.toDigits 10 n = c :: cs ∧
    c ∈ charRange '1' '9' ∧ ∀ d ∈ cs, d ∈ charRange '0' '9' := by
  induction n using Nat.strongRecOn with
  | ind n ih =>
    rcases Nat.lt_or_ge n 10 with hlt | hge
    · refine ⟨n.digitChar, [], Nat.toDigits_of_lt_base hlt, ?_, forall_mem_nil _⟩
      clear ih
      interval_cases n <;> decide
    · obtain ⟨c, cs, hcons, hc, hcs⟩ := ih (n / 10) (by omega) (by omega)
      refine ⟨c, cs ++ [(n % 10).digitChar], ?_, hc, ?_⟩
      · rw [Nat.toDigits_of_base_le (by decide) hge, hcons, cons_append]
      · intro d hd
        rcases mem_append.mp hd with hearlier | hlast
        · exact hcs d hearlier
        · rw [mem_singleton.mp hlast]
          have hlt : n % 10 < 10 := Nat.mod_lt _ (by decide)
          generalize n % 10 = k at hlt
          clear ih hlast
          interval_cases k <;> decide

end Kaya.Regex
