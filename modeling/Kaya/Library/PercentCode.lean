import Kaya.Library.UTF8

/-!
# Percent encoding

`quote_from_bytes` and `unquote_to_bytes` of `urllib.parse`. What is quoted has letters, digits, the
characters that are said to be safe and escapes; it is unquoted to the bytes it was made from
(`unquote_quote`).
-/

namespace Kaya.PercentCode

open List

/-- A hexadecimal digit. -/
def isHex (c : Char) : Bool :=
  c.isDigit || ('a' ≤ c && c ≤ 'f') || ('A' ≤ c && c ≤ 'F')

/-- The value of a hexadecimal digit. -/
def hexValue (c : Char) : ℕ :=
  if c.isDigit then c.toNat - 48 else if 'a' ≤ c then c.toNat - 87 else c.toNat - 55

/-- A digit of `%02X`. -/
def hexDigit (n : ℕ) : Char := Char.ofNat (if n < 10 then 48 + n else 55 + n)

/-- `re.search(r"%(?![0-9A-Fa-f]{2})", text)`. -/
def badEscape : List Char → Bool
  | [] => false
  | c :: rest => (c = '%' && !(2 ≤ rest.length && (rest.take 2).all isHex)) || badEscape rest

/-- `unquote_to_bytes`. -/
def unquote : List Char → List UInt8
  | [] => []
  | '%' :: a :: b :: rest =>
    if isHex a && isHex b then UInt8.ofNat (16 * hexValue a + hexValue b) :: unquote rest
    else UTF8.encode ['%'] ++ unquote (a :: b :: rest)
  | c :: rest => UTF8.encode [c] ++ unquote rest

/-- One byte of `quote_from_bytes`. -/
def quoteByte (safe : List Char) (b : UInt8) : List Char :=
  let c := Char.ofNat b.toNat
  if c.isAlphanum || c ∈ safe then [c] else ['%', hexDigit (b.toNat / 16), hexDigit (b.toNat % 16)]

/-- `quote_from_bytes`. -/
def quote (safe : List Char) (bytes : List UInt8) : List Char := bytes.flatMap (quoteByte safe)

variable {safe text : List Char} {bytes : List UInt8} {c : Char}

theorem quote_cons (b : UInt8) (bytes : List UInt8) :
    quote safe (b :: bytes) = quoteByte safe b ++ quote safe bytes := flatMap_cons

theorem isHex_hexDigit : ∀ n < 16, isHex (hexDigit n) = true := by decide

theorem hexValue_hexDigit : ∀ n < 16, hexValue (hexDigit n) = n := by decide

theorem hexDigit_ne : ∀ n < 16, hexDigit n ≠ '%' := by decide

theorem toNat_ofNat : ∀ n < 2 ^ 8, (Char.ofNat n).toNat = n := by decide +kernel

theorem unquote_cons (h : c ≠ '%') (rest : List Char) :
    unquote (c :: rest) = UTF8.encode [c] ++ unquote rest := by
  rw [unquote]
  exact fun a b rest heq ↦ absurd heq h

theorem unquote_eq_encode (h : '%' ∉ text) : unquote text = UTF8.encode text := by
  induction text with
  | nil => rfl
  | cons c text ih =>
    rw [unquote_cons (fun heq ↦ h (heq ▸ mem_cons_self)),
      ih fun hmem ↦ h (mem_cons_of_mem _ hmem), ← UTF8.encode_append]
    rfl

theorem badEscape_of_notMem (h : '%' ∉ text) : badEscape text = false := by
  induction text with
  | nil => rfl
  | cons c text ih =>
    rw [badEscape, ih fun hmem ↦ h (mem_cons_of_mem _ hmem)]
    have hc : c ≠ '%' := fun heq ↦ h (heq ▸ mem_cons_self)
    simp [hc]

theorem unquote_ne_nil (h : text ≠ []) : unquote text ≠ [] := by
  have hencode : ∀ (c : Char) (bytes : List UInt8), UTF8.encode [c] ++ bytes ≠ [] := by
    intro c bytes hnil
    exact absurd (UTF8.encode_eq_nil.1 (append_eq_nil_iff.1 hnil).1) (by simp)
  fun_cases unquote text with
  | case1 => exact absurd rfl h
  | case2 a b rest hhex => simp
  | case3 a b rest hhex => exact hencode '%' _
  | case4 c rest => exact hencode c _

/-! ### Quoted texts -/

theorem isAlphanum_bounds (h : c.isAlphanum = true) : c.toNat < 128 ∧ c ≠ '%' := by
  refine ⟨?_, by rintro rfl; exact absurd h (by decide)⟩
  have hbound : ∀ {x : UInt32}, c.val ≤ x → x.toNat < 128 → c.toNat < 128 := fun hle hx ↦
    (UInt32.le_iff_toNat_le.1 hle).trans_lt hx
  rcases Bool.or_eq_true_iff.1 h with halpha | hdigit
  · rcases Bool.or_eq_true_iff.1 halpha with hupper | hlower
    · have hle : c.val ≥ 'A'.val ∧ c.val ≤ 'Z'.val := of_decide_eq_true hupper
      exact hbound hle.2 (by decide)
    · exact hbound (of_decide_eq_true (Bool.and_eq_true_iff.1 hlower).2) (by decide)
  · exact hbound (of_decide_eq_true (Bool.and_eq_true_iff.1 hdigit).2) (by decide)

/-- The characters that are said to be safe are ASCII, and not the percent sign. -/
def Safe (safe : List Char) : Prop := ∀ c ∈ safe, c.toNat < 128 ∧ c ≠ '%'

section

variable (hsafe : Safe safe)

include hsafe

/-- A byte is quoted by its character or by an escape. -/
theorem quoteByte_cases (b : UInt8) :
    (∃ c : Char, quoteByte safe b = [c] ∧ (c.isAlphanum = true ∨ c ∈ safe) ∧ c.toNat < 128 ∧
      c ≠ '%' ∧ UInt8.ofNat c.toNat = b) ∨
    quoteByte safe b = ['%', hexDigit (b.toNat / 16), hexDigit (b.toNat % 16)] := by
  rw [quoteByte]
  by_cases hkept : ((Char.ofNat b.toNat).isAlphanum || Char.ofNat b.toNat ∈ safe) = true
  · left
    refine ⟨Char.ofNat b.toNat, if_pos hkept, ?_⟩
    have hboth : (Char.ofNat b.toNat).isAlphanum = true ∨ Char.ofNat b.toNat ∈ safe := by
      simpa using hkept
    have hbounds : (Char.ofNat b.toNat).toNat < 128 ∧ Char.ofNat b.toNat ≠ '%' :=
      hboth.elim isAlphanum_bounds (hsafe _)
    refine ⟨hboth, hbounds.1, hbounds.2, ?_⟩
    rw [toNat_ofNat _ b.toNat_lt, UInt8.ofNat_toNat]
  · exact .inr (if_neg hkept)

theorem unquote_quoteByte (b : UInt8) (rest : List Char) :
    unquote (quoteByte safe b ++ rest) = b :: unquote rest := by
  have hlt := b.toNat_lt
  rcases quoteByte_cases hsafe b with ⟨c, hquote, -, hascii, hne, rfl⟩ | hquote
  · rw [hquote, singleton_append, unquote_cons hne, UTF8.encode_singleton hascii]
    rfl
  · rw [hquote, cons_append, cons_append, cons_append, nil_append, unquote,
      isHex_hexDigit _ (by omega), isHex_hexDigit _ (by omega), hexValue_hexDigit _ (by omega),
      hexValue_hexDigit _ (by omega), Nat.div_add_mod, UInt8.ofNat_toNat]
    rfl

theorem unquote_quote (bytes : List UInt8) :
    unquote (quote safe bytes) = bytes := by
  induction bytes with
  | nil => rfl
  | cons b bytes ih => rw [quote_cons, unquote_quoteByte hsafe, ih]

theorem quote_injective : Function.Injective (quote safe) := by
  intro bytes bytes' h
  rw [← unquote_quote hsafe bytes, h, unquote_quote hsafe]

theorem quote_eq_nil : quote safe bytes = [] ↔ bytes = [] :=
  ⟨fun h ↦ quote_injective hsafe h, fun h ↦ h ▸ rfl⟩

theorem badEscape_quote (bytes : List UInt8) :
    badEscape (quote safe bytes) = false := by
  induction bytes with
  | nil => rfl
  | cons b bytes ih =>
    have hlt := b.toNat_lt
    rcases quoteByte_cases hsafe b with ⟨c, hquote, -, -, hne, -⟩ | hquote
    · rw [quote_cons, hquote, singleton_append, badEscape, ih]
      simp [hne]
    · rw [quote_cons, hquote, cons_append, cons_append, cons_append, nil_append,
        badEscape, badEscape, badEscape, ih]
      simp [isHex_hexDigit, hexDigit_ne, show b.toNat / 16 < 16 by omega,
        show b.toNat % 16 < 16 by omega]

/-- What is quoted has letters, digits, percent signs and the characters that are safe. -/
theorem of_mem_quote (h : c ∈ quote safe bytes) :
    c.isAlphanum = true ∨ c ∈ safe ∨ c = '%' := by
  have hhex : ∀ n < 16, (hexDigit n).isAlphanum = true := by decide
  rw [quote, mem_flatMap] at h
  obtain ⟨b, -, hc⟩ := h
  have hlt := b.toNat_lt
  rcases quoteByte_cases hsafe b with ⟨d, hquote, hkept, -⟩ | hquote
  · rw [hquote, mem_singleton] at hc
    subst hc
    exact hkept.imp_right .inl
  · rw [hquote] at hc
    simp only [mem_cons, not_mem_nil, or_false] at hc
    rcases hc with rfl | rfl | rfl
    · exact .inr (.inr rfl)
    · exact .inl (hhex _ (by omega))
    · exact .inl (hhex _ (by omega))

end

end Kaya.PercentCode
