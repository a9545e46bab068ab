import Mathlib.Data.List.Basic
import Mathlib.Data.Nat.Bitwise

/-!
# UTF-8

What Lean has for `ByteArray`, for lists of bytes: `decode` undoes `encode`, and encodes back to
what it was given. An ASCII byte stands for its character only (`mem_encode_iff`).
-/

namespace Kaya.UTF8

open List

variable {text : List Char} {bytes : List UInt8} {c : Char}

/-- `.encode("utf-8")`. -/
def encode (text : List Char) : List UInt8 := text.flatMap String.utf8EncodeChar

/-- `.decode("utf-8")`. -/
def decode (bytes : List UInt8) : Option (List Char) :=
  (String.fromUTF8? bytes.toByteArray).map String.toList

theorem encode_nil : encode [] = [] := rfl

theorem encode_append (text text' : List Char) :
    encode (text ++ text') = encode text ++ encode text' := flatMap_append

theorem toByteArray_encode (text : List Char) :
    (encode text).toByteArray = (String.ofList text).toByteArray := rfl

theorem decode_encode (text : List Char) : decode (encode text) = some text := by
  rw [decode, toByteArray_encode, String.fromUTF8?, dif_pos (String.ofList text).isValidUTF8]
  exact congrArg some String.toList_ofList

theorem encode_of_decode (h : decode bytes = some text) : encode text = bytes := by
  rw [decode, String.fromUTF8?] at h
  split at h
  next hvalid =>
    obtain rfl := Option.some.inj h
    have heq : (encode (String.fromUTF8 bytes.toByteArray hvalid).toList).toByteArray =
        bytes.toByteArray := by
      rw [toByteArray_encode, String.ofList_toList]
      rfl
    have hlist := congrArg (fun b : ByteArray ↦ b.data.toList) heq
    simpa using hlist
  next => exact absurd h (by simp)

theorem encode_injective : Function.Injective encode := by
  intro text text' h
  have hdecode := congrArg decode h
  rw [decode_encode, decode_encode] at hdecode
  exact Option.some.inj hdecode

theorem encode_eq_nil : encode text = [] ↔ text = [] :=
  ⟨fun h ↦ encode_injective h, fun h ↦ h ▸ rfl⟩

theorem encode_singleton (h : c.toNat < 128) : encode [c] = [UInt8.ofNat c.toNat] := by
  have hle : c.val.toNat ≤ 0x7f := Nat.le_of_lt_succ h
  rw [encode, flatMap_singleton, String.utf8EncodeChar, if_pos hle]
  rfl

/-- A byte of a character that is not ASCII is not ASCII. -/
theorem le_of_mem_utf8EncodeChar {b : UInt8} (h : 128 ≤ c.toNat)
    (hb : b ∈ String.utf8EncodeChar c) : 128 ≤ b.toNat := by
  have hle : ¬ c.val.toNat ≤ 0x7f := not_le.2 h
  have hbyte : ∀ n, 128 ≤ n → n < 256 → 128 ≤ (UInt8.ofNat n).toNat := by
    intro n hn hlt
    rwa [UInt8.toNat_ofNat_of_lt' hlt]
  simp only [String.utf8EncodeChar, hle, if_false] at hb
  split at hb
  · simp only [mem_cons, not_mem_nil, or_false] at hb
    rcases hb with rfl | rfl
    · exact hbyte _ (by omega) (by omega)
    · exact hbyte _ (by omega) (by omega)
  · split at hb
    · simp only [mem_cons, not_mem_nil, or_false] at hb
      rcases hb with rfl | rfl | rfl
      · exact hbyte _ (by omega) (by omega)
      · exact hbyte _ (by omega) (by omega)
      · exact hbyte _ (by omega) (by omega)
    · simp only [mem_cons, not_mem_nil, or_false] at hb
      rcases hb with rfl | rfl | rfl | rfl
      · exact hbyte _ (by omega) (by omega)
      · exact hbyte _ (by omega) (by omega)
      · exact hbyte _ (by omega) (by omega)
      · exact hbyte _ (by omega) (by omega)

theorem mem_encode_iff (h : c.toNat < 128) : UInt8.ofNat c.toNat ∈ encode text ↔ c ∈ text := by
  have hself : (UInt8.ofNat c.toNat).toNat = c.toNat :=
    UInt8.toNat_ofNat_of_lt' (h.trans (by decide))
  rw [encode, mem_flatMap]
  constructor
  · rintro ⟨d, hd, hmem⟩
    have hascii : d.toNat < 128 := by
      by_contra hle
      have hbyte := le_of_mem_utf8EncodeChar (not_lt.1 hle) hmem
      omega
    have hsingle := encode_singleton hascii
    rw [encode, flatMap_singleton] at hsingle
    rw [hsingle, mem_singleton] at hmem
    have hnat : c.toNat = d.toNat := by
      rw [← hself, hmem, UInt8.toNat_ofNat_of_lt' (hascii.trans (by decide))]
    rwa [Char.toNat_inj.1 hnat]
  · intro hc
    have hsingle := encode_singleton h
    rw [encode, flatMap_singleton] at hsingle
    exact ⟨c, hc, hsingle ▸ mem_singleton_self _⟩

end Kaya.UTF8
