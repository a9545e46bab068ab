import Kaya.Assets.Model
import Mathlib.Tactic.IntervalCases

/-!
# Four readings of a MAC address

Four modules read a MAC address from a text: `_normalise_evidence` of `asset_identity.py` when
evidence is stored (`normaliseMac`), `_mac` of `asset_identity_resolution.py` when it is looked up,
`normalise_mac` of `dns_clients.py` when DNS clients are keyed, and the check of `normalise_leases`
in `ha_leases.py`. The first and the third take any text with twelve hexadecimal digits, the second
forgets to lower them before it matches, the third bans two addresses, and the last wants pairs
with separators. `macs_agree_iff` says for which texts all four give the same answer.
-/

namespace Kaya.Assets

open List

/-! ### The readings -/

/-- A digit of `[0-9a-f]`. -/
def isLowerHexDigit (c : Char) : Bool := c.isDigit || (decide ('a' ≤ c) && decide (c ≤ 'f'))

/-- `asset_identity_resolution._mac`. -/
def resolutionMac (value : String) : Option String :=
  if value = "" then none
  else
    let compact := value.toList.filter isHexDigit
    if compact.length = 12 ∧ compact.all isLowerHexDigit then
      some (String.ofList ((joinPairs compact).map Char.toLower))
    else none

/-- `INVALID_MACS`. -/
def invalidMacs : List String := ["00:00:00:00:00:00", "ff:ff:ff:ff:ff:ff"]

/-- `dns_clients.normalise_mac`. -/
def clientMac (value : String) : Option String :=
  let compact := (value.toList.map Char.toLower).filter isLowerHexDigit
  if compact.length = 12 then
    (some (String.ofList (joinPairs compact))).filter (· ∉ invalidMacs)
  else none

/-- `[0-9a-f]{2}(?::[0-9a-f]{2}){n}`. -/
def matchesMacRe : ℕ → List Char → Bool
  | 0, [a, b] => isLowerHexDigit a && isLowerHexDigit b
  | n + 1, a :: b :: c :: cs =>
    isLowerHexDigit a && isLowerHexDigit b && c == ':' && matchesMacRe n cs
  | _, _ => false

/-- `.lower().replace("-", ":")`. -/
def leaseChar (c : Char) : Char := if c.toLower = '-' then ':' else c.toLower

/-- The hardware address of `normalise_leases`, where it raises nothing. -/
def leaseMac (value : String) : Option String :=
  let mac := (PyText.strip value).toList.map leaseChar
  if matchesMacRe 5 mac then some (String.ofList mac) else none

/-- All four reject the text or give the same address. -/
def MacsAgree (value : String) : Prop :=
  resolutionMac value = normaliseMac value ∧ clientMac value = normaliseMac value ∧
    leaseMac value = normaliseMac value

/-! ### The condition -/

/-- The hexadecimal digits of a text. -/
def hexDigits (value : String) : List Char := value.toList.filter isHexDigit

/-- The address with these digits. -/
def canonicalMac (digits : List Char) : String :=
  String.ofList (joinPairs (digits.map Char.toLower))

/-- `n + 1` pairs of digits, with a colon or a dash between two of them. -/
def isPaired : ℕ → List Char → Bool
  | 0, [a, b] => isHexDigit a && isHexDigit b
  | n + 1, a :: b :: c :: cs =>
    isHexDigit a && isHexDigit b && (c == ':' || c == '-') && isPaired n cs
  | _, _ => false

/-- The texts that all four read in the same way: those that do not have twelve digits, the usual
spellings in lower case, and overlong ones of the broadcast address with a capital. -/
def SameReading (value : String) : Prop :=
  (hexDigits value).length ≠ 12 ∨
  ((PyText.strip value).length ≤ 255 ∧ (hexDigits value).all isLowerHexDigit = true ∧
    canonicalMac (hexDigits value) ∉ invalidMacs ∧ isPaired 5 (PyText.strip value).toList = true) ∨
  (255 < (PyText.strip value).length ∧ (hexDigits value).all isLowerHexDigit = false ∧
    canonicalMac (hexDigits value) ∈ invalidMacs)

/-! ### Characters -/

theorem toLower_of_not_upper {c : Char} (h : ¬ ('A' ≤ c ∧ c ≤ 'Z')) : c.toLower = c :=
  dif_neg h

/-- A property of a capital and its small letter holds for all of them if it does for each. -/
theorem upper_cases {P : Char → Prop} (hupper : ∀ n ∈ List.range' 65 26, P (Char.ofNat n))
    (hother : ∀ c, ¬ ('A' ≤ c ∧ c ≤ 'Z') → P c) (c : Char) : P c := by
  by_cases h : 'A' ≤ c ∧ c ≤ 'Z'
  · have hlow : 65 ≤ c.toNat := h.1
    have hhigh : c.toNat ≤ 90 := h.2
    rw [← Char.ofNat_toNat c]
    exact hupper _ (mem_range'_1.2 ⟨hlow, by omega⟩)
  · exact hother c h

theorem isLowerHexDigit_toLower (c : Char) : isLowerHexDigit c.toLower = isHexDigit c := by
  refine upper_cases (P := fun c ↦ isLowerHexDigit c.toLower = isHexDigit c) (by decide) ?_ c
  intro c hc
  have hfalse : (decide ('A' ≤ c) && decide (c ≤ 'F')) = false := by
    rw [Bool.and_eq_false_iff, decide_eq_false_iff_not, decide_eq_false_iff_not]
    by_contra hcon
    rw [not_or, not_not, not_not] at hcon
    exact hc ⟨hcon.1, Char.le_trans hcon.2 (by decide)⟩
  rw [toLower_of_not_upper hc, isLowerHexDigit, isHexDigit, hfalse, Bool.or_false]

theorem leaseChar_eq_colon (c : Char) : (leaseChar c == ':') = (c == ':' || c == '-') := by
  refine upper_cases (P := fun c ↦ (leaseChar c == ':') = (c == ':' || c == '-')) (by decide) ?_ c
  intro c hc
  rw [leaseChar, toLower_of_not_upper hc]
  split
  next h => simp [h]
  next h => simp [h]

theorem isLowerHexDigit_leaseChar (c : Char) : isLowerHexDigit (leaseChar c) = isHexDigit c := by
  rw [← isLowerHexDigit_toLower, leaseChar]
  split
  next h =>
    rw [h]
    decide
  · rfl

theorem leaseChar_of_isHexDigit {c : Char} (h : isHexDigit c = true) : leaseChar c = c.toLower := by
  rw [leaseChar, if_neg]
  intro hdash
  rw [← isLowerHexDigit_toLower, hdash] at h
  exact absurd h (by decide)

theorem isSpace_of_isHexDigit {c : Char} (h : isHexDigit c = true) : PyText.isSpace c = false := by
  have hrange : (48 ≤ c.toNat ∧ c.toNat ≤ 57) ∨ (97 ≤ c.toNat ∧ c.toNat ≤ 102) ∨
      (65 ≤ c.toNat ∧ c.toNat ≤ 70) := by
    simp only [isHexDigit, Char.isDigit, Bool.or_eq_true, Bool.and_eq_true, decide_eq_true_eq] at h
    exact or_assoc.1 h
  simp only [PyText.isSpace, Bool.or_eq_false_iff, Bool.and_eq_false_iff, decide_eq_false_iff_not,
    beq_eq_false_iff_ne]
  omega

/-! ### Digits -/

theorem filter_dropWhile {α : Type} {p q : α → Bool} (h : ∀ a, p a = true → q a = false)
    (l : List α) : (l.dropWhile q).filter p = l.filter p := by
  induction l with
  | nil => rfl
  | cons a l ih =>
    cases ha : q a with
    | false => rw [dropWhile_cons_of_neg (by simp [ha])]
    | true =>
      have hp : p a = false := by
        by_contra hp
        exact absurd (h a (Bool.eq_true_of_not_eq_false hp)) (by simp [ha])
      rw [dropWhile_cons_of_pos ha, ih, filter_cons_of_neg (by simp [hp])]

/-- Stripping keeps the digits. -/
theorem hexDigits_strip (value : String) :
    (PyText.strip value).toList.filter isHexDigit = hexDigits value := by
  rw [PyText.strip, String.toList_ofList, PyText.stripChars, filter_reverse,
    filter_dropWhile fun _ ↦ isSpace_of_isHexDigit, filter_reverse,
    filter_dropWhile fun _ ↦ isSpace_of_isHexDigit, reverse_reverse, hexDigits]

theorem filter_map_toLower (cs : List Char) :
    (cs.map Char.toLower).filter isLowerHexDigit = (cs.filter isHexDigit).map Char.toLower := by
  rw [filter_map]
  exact congrArg (map Char.toLower)
    (filter_congr fun c _ ↦ isLowerHexDigit_toLower c)

theorem map_joinPairs (cs : List Char) :
    (joinPairs cs).map Char.toLower = joinPairs (cs.map Char.toLower) := by
  induction cs using joinPairs.induct with
  | case1 => rfl
  | case2 a => rfl
  | case3 a b => rfl
  | case4 a b cs hcs ih =>
    obtain ⟨c, cs, rfl⟩ := exists_cons_of_ne_nil fun h ↦ hcs h
    simp only [joinPairs, map_cons, ih]
    rfl

theorem matchesMacRe_map (n : ℕ) (cs : List Char) :
    matchesMacRe n (cs.map leaseChar) = isPaired n cs := by
  induction n generalizing cs with
  | zero =>
    match cs with
    | [] => rfl
    | [a] => rfl
    | [a, b] => simp only [map_cons, map_nil, matchesMacRe, isPaired, isLowerHexDigit_leaseChar]
    | a :: b :: c :: cs => rfl
  | succ n ih =>
    match cs with
    | [] => rfl
    | [a] => rfl
    | [a, b] => rfl
    | a :: b :: c :: cs =>
      simp only [map_cons, matchesMacRe, isPaired, isLowerHexDigit_leaseChar,
        leaseChar_eq_colon, ih]

/-- Pairs of digits are the address with these digits. -/
theorem isPaired_spec {n : ℕ} {cs : List Char} (h : isPaired n cs = true) :
    cs.map leaseChar = joinPairs ((cs.filter isHexDigit).map Char.toLower) ∧
      (cs.filter isHexDigit).length = 2 * n + 2 ∧ cs.length = 3 * n + 2 := by
  induction n generalizing cs with
  | zero =>
    match cs with
    | [a, b] =>
      rw [isPaired, Bool.and_eq_true] at h
      obtain ⟨ha, hb⟩ := h
      simp [ha, hb, joinPairs, leaseChar_of_isHexDigit]
  | succ n ih =>
    match cs with
    | a :: b :: c :: cs =>
      rw [isPaired, Bool.and_eq_true, Bool.and_eq_true, Bool.and_eq_true] at h
      obtain ⟨⟨⟨ha, hb⟩, hc⟩, hcs⟩ := h
      obtain ⟨hmap, hdigits, hlen⟩ := ih hcs
      have hcolon : leaseChar c = ':' := by
        rw [← leaseChar_eq_colon, beq_iff_eq] at hc
        exact hc
      have hseparator : isHexDigit c = false := by
        rw [← isLowerHexDigit_leaseChar, hcolon]
        decide
      obtain ⟨d, ds, hds⟩ := exists_cons_of_length_pos
        (show 0 < (cs.filter isHexDigit).length by omega)
      rw [hds] at hmap hdigits
      rw [filter_cons_of_pos ha, filter_cons_of_pos hb,
        filter_cons_of_neg (by simp [hseparator]), hds]
      refine ⟨?_, ?_, ?_⟩
      · simp only [map_cons, joinPairs, hcolon, leaseChar_of_isHexDigit ha,
          leaseChar_of_isHexDigit hb, hmap]
      · simp only [length_cons] at hdigits ⊢
        omega
      · simp only [length_cons]
        omega

/-! ### What each reading accepts -/

theorem normaliseMac_eq (value : String) :
    normaliseMac value =
      if (hexDigits value).length = 12 ∧ (PyText.strip value).length ≤ 255 then
        some (canonicalMac (hexDigits value))
      else none := by
  have hdigits := hexDigits_strip value
  rw [normaliseMac]
  simp only [hdigits]
  split
  next h =>
    rw [if_neg]
    rintro ⟨hlen, hshort⟩
    obtain hempty | hlong := h
    · rw [← hdigits, hempty] at hlen
      exact absurd hlen (by decide)
    · omega
  next h =>
    rw [not_or, not_lt] at h
    simp only [length_map, h.2, and_true, canonicalMac]

theorem resolutionMac_eq (value : String) :
    resolutionMac value =
      if (hexDigits value).length = 12 ∧ (hexDigits value).all isLowerHexDigit = true then
        some (canonicalMac (hexDigits value))
      else none := by
  rw [resolutionMac]
  split
  next h =>
    rw [h, if_neg]
    exact fun hdigits ↦ absurd hdigits.1 (by decide)
  · simp only [map_joinPairs]
    rfl

theorem clientMac_eq (value : String) :
    clientMac value =
      if (hexDigits value).length = 12 ∧ canonicalMac (hexDigits value) ∉ invalidMacs then
        some (canonicalMac (hexDigits value))
      else none := by
  have hcompact : (value.toList.map Char.toLower).filter isLowerHexDigit =
      (hexDigits value).map Char.toLower := filter_map_toLower _
  rw [clientMac]
  simp only [hcompact, length_map]
  by_cases hlen : (hexDigits value).length = 12
  · rw [if_pos hlen]
    by_cases hvalid : canonicalMac (hexDigits value) ∉ invalidMacs
    · rw [if_pos ⟨hlen, hvalid⟩]
      exact Option.filter_some_pos (decide_eq_true hvalid)
    · rw [if_neg fun h ↦ hvalid h.2]
      exact Option.filter_some_neg (decide_eq_false hvalid)
  · rw [if_neg hlen, if_neg fun h ↦ hlen h.1]

theorem leaseMac_eq (value : String) :
    leaseMac value =
      if isPaired 5 (PyText.strip value).toList = true then some (canonicalMac (hexDigits value))
      else none := by
  rw [leaseMac]
  simp only [matchesMacRe_map]
  split
  next h => rw [(isPaired_spec h).1, hexDigits_strip, canonicalMac]
  · rfl

theorem ite_eq_ite_iff {α : Type} (a : α) {p q : Prop} [Decidable p] [Decidable q] :
    ((if p then some a else none) = if q then some a else none) ↔ (p ↔ q) := by
  by_cases hp : p
  · simp [hp]
  · simp [hp]

/-- The answers agree when all conditions hold, or none beyond the digits. -/
theorem agree_iff {digits short lower banned paired : Prop} (h : paired → digits ∧ short) :
    ((digits ∧ lower ↔ digits ∧ short) ∧ (digits ∧ ¬ banned ↔ digits ∧ short) ∧
      (paired ↔ digits ∧ short)) ↔
    ¬ digits ∨ (short ∧ lower ∧ ¬ banned ∧ paired) ∨ (¬ short ∧ ¬ lower ∧ banned) := by
  by_cases hdigits : digits
  · by_cases hshort : short
    · simp only [hdigits, hshort, true_and, and_true, not_true, false_and, or_false, false_or,
        iff_true]
    · have hpaired : ¬ paired := fun hp ↦ hshort (h hp).2
      simp only [hdigits, hshort, hpaired, true_and, and_false, iff_false, not_true, not_not,
        false_or, not_false_iff, and_true]
  · have hpaired : ¬ paired := fun hp ↦ hdigits (h hp).1
    simp only [hdigits, hpaired, false_and, iff_self, not_false_iff, true_or, and_self]

/-- **The texts that all four modules read in the same way.** -/
theorem macs_agree_iff (value : String) : MacsAgree value ↔ SameReading value := by
  rw [MacsAgree, resolutionMac_eq, clientMac_eq, leaseMac_eq, normaliseMac_eq, ite_eq_ite_iff,
    ite_eq_ite_iff, ite_eq_ite_iff, SameReading, ← Bool.not_eq_true, ← not_le]
  have hpaired : isPaired 5 (PyText.strip value).toList = true →
      (hexDigits value).length = 12 ∧ (PyText.strip value).length ≤ 255 := by
    intro h
    obtain ⟨-, hdigits, hlen⟩ := isPaired_spec h
    rw [hexDigits_strip] at hdigits
    refine ⟨hdigits, ?_⟩
    rw [← String.length_toList, hlen]
    omega
  exact agree_iff hpaired

/-- A capital letter is lost on the way from the evidence to its lookup. -/
theorem macs_disagree : ¬ ∀ value, MacsAgree value := by
  intro hagree
  have hlookup := (hagree "02:00:5E:10:00:0A").1
  revert hlookup
  decide +kernel

example : normaliseMac "02:00:5E:10:00:0A" = some "02:00:5e:10:00:0a" ∧
    resolutionMac "02:00:5E:10:00:0A" = none ∧ leaseMac "02005e10000a" = none := by
  decide +kernel

end Kaya.Assets
