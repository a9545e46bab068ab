import Kaya.Library.PrefixCode

/-!
# Fields of bytes

A field is a tag, the length of its value in eight bytes, and the value (`TaggedField.bytes`). Where
the tags are a prefix code, the bytes of a list of fields tell the list (`flatMap_bytes_injective`).
A value whose length does not fit makes no `TaggedField`.
-/

namespace Kaya

open List

variable {τ : Type*}

/-- `n.to_bytes(width, "big")`, of the last `width` bytes. -/
def toBytesBig : ℕ → ℕ → List UInt8
  | 0, _ => []
  | width + 1, n => toBytesBig width (n / 256) ++ [UInt8.ofNat (n % 256)]

theorem length_toBytesBig (width n : ℕ) : (toBytesBig width n).length = width := by
  induction width generalizing n with
  | zero => rfl
  | succ width ih => rw [toBytesBig, length_append, ih, length_singleton]

theorem toBytesBig_inj {width m n : ℕ} (hm : m < 256 ^ width) (hn : n < 256 ^ width)
    (h : toBytesBig width m = toBytesBig width n) : m = n := by
  induction width generalizing m n with
  | zero =>
    rw [pow_zero, Nat.lt_one_iff] at hm hn
    exact hm.trans hn.symm
  | succ width ih =>
    rw [pow_succ, mul_comm] at hm hn
    obtain ⟨hhigh, hlow⟩ := append_inj h
      ((length_toBytesBig _ _).trans (length_toBytesBig _ _).symm)
    have hdiv : m / 256 = n / 256 :=
      ih (Nat.div_lt_of_lt_mul hm) (Nat.div_lt_of_lt_mul hn) hhigh
    have hmod : m % 256 = n % 256 := by
      have hbyte := congrArg UInt8.toNat (singleton_inj.1 hlow)
      rwa [UInt8.toNat_ofNat_of_lt' (Nat.mod_lt m (by decide)),
        UInt8.toNat_ofNat_of_lt' (Nat.mod_lt n (by decide))] at hbyte
    rw [← Nat.div_add_mod m 256, ← Nat.div_add_mod n 256, hdiv, hmod]

/-- `bytes.hex()`. -/
def hexText (bytes : List UInt8) : List Char :=
  bytes.flatMap fun byte ↦ fixedDigits 16 2 byte.toNat

theorem hexText_injective : Function.Injective hexText := by
  have hbyte : IsPrefixCode fun byte : UInt8 ↦ fixedDigits 16 2 byte.toNat := by
    refine isPrefixCode_of_length (fun a b h ↦ UInt8.toNat_inj.1 ?_)
      fun byte ↦ fixedDigits_length 16 2 byte.toNat
    exact fixedDigits_inj (by decide) (by decide) (lt_of_lt_of_eq a.toNat_lt (by decide))
      (lt_of_lt_of_eq b.toNat_lt (by decide)) h
  exact hbyte.flatMap_injective fun byte h ↦
    absurd (congrArg length h) (by rw [fixedDigits_length]; decide)

/-- A field. -/
structure TaggedField (τ : Type*) where
  tag : τ
  value : List UInt8
  /-- Eight bytes hold the length. -/
  short : value.length < 256 ^ 8

namespace TaggedField

/-- The tag, the length and the value. -/
def bytes (tagBytes : τ → List UInt8) (field : TaggedField τ) : List UInt8 :=
  tagBytes field.tag ++ (toBytesBig 8 field.value.length ++ field.value)

variable {tagBytes : τ → List UInt8}

theorem isPrefixCode_bytes (htag : IsPrefixCode tagBytes) : IsPrefixCode (bytes tagBytes) := by
  rintro ⟨tag, value, hshort⟩ ⟨tag', value', hshort'⟩ rest rest' - - heq
  replace heq : tagBytes tag ++ (toBytesBig 8 value.length ++ (value ++ rest)) =
      tagBytes tag' ++ (toBytesBig 8 value'.length ++ (value' ++ rest')) := by
    simpa only [bytes, append_assoc] using heq
  obtain ⟨rfl, hafter⟩ := htag _ _ _ _ trivial trivial heq
  obtain ⟨hlen, hvalues⟩ := append_inj hafter
    ((length_toBytesBig _ _).trans (length_toBytesBig _ _).symm)
  obtain ⟨rfl, hrest⟩ := append_inj hvalues (toBytesBig_inj hshort hshort' hlen)
  exact ⟨rfl, hrest⟩

theorem bytes_ne_nil (field : TaggedField τ) : bytes tagBytes field ≠ [] := by
  intro h
  have hlen := (append_eq_nil_iff.1 (append_eq_nil_iff.1 h).2).1
  have hzero := congrArg length hlen
  rw [length_toBytesBig] at hzero
  exact absurd hzero (by decide)

/-- **The bytes of a list of fields tell the fields.** -/
theorem flatMap_bytes_injective (htag : IsPrefixCode tagBytes) :
    Function.Injective fun fields : List (TaggedField τ) ↦ fields.flatMap (bytes tagBytes) :=
  (isPrefixCode_bytes htag).flatMap_injective bytes_ne_nil

end TaggedField

end Kaya
