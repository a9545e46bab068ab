import Mathlib.Algebra.Group.Nat.Defs
import Mathlib.Data.List.Basic

/-!
# IPv4 addresses as text

The part of Python's `ipaddress` module that configuration code relies on: the strict dotted-quad
parser, the text of an address, and the network of an address with a prefix length. An address is
the natural number it denotes. The parser accepts four decimal octets without leading zeros and
nothing else, so that every address has exactly one text (`address_render`).
-/

namespace Kaya.IPv4

open List

/-- One octet: one to three ASCII digits, no leading zero, at most 255. -/
def octet (cs : List Char) : Option ℕ :=
  let value := cs.foldl (fun n c ↦ n * 10 + (c.toNat - 48)) 0
  if cs ≠ [] ∧ cs.length ≤ 3 ∧ cs.all Char.isDigit ∧ (cs = ['0'] ∨ cs.head? ≠ some '0') ∧
      value ≤ 255 then some value
  else none

/-- `IPv4Address(text)`, `none` where Python raises `ValueError`. -/
def address (text : String) : Option ℕ :=
  match (text.toList.splitOn '.').mapM octet with
  | some [a, b, c, d] => some (((a * 256 + b) * 256 + c) * 256 + d)
  | _ => none

/-- A prefix length in decimal digits, at most 32. -/
def prefixDigits (cs : List Char) : Option ℕ :=
  let value := Nat.ofDigitChars 10 cs 0
  if cs ≠ [] ∧ cs.all Char.isDigit ∧ value ≤ 32 then some value else none

/-- `IPv4Interface(text)` as its address and prefix length, `none` where Python raises `ValueError`.
A mask in place of the prefix length is not accepted here. -/
def interface (text : String) : Option (ℕ × ℕ) :=
  match text.toList.splitOn '/' with
  | [ip] => (address (String.ofList ip)).map (·, 32)
  | [ip, len] => (address (String.ofList ip)).bind fun ip ↦ (prefixDigits len).map (ip, ·)
  | _ => none

/-- The four octets of an address. -/
def octets (ip : ℕ) : List ℕ :=
  [ip / 256 / 256 / 256 % 256, ip / 256 / 256 % 256, ip / 256 % 256, ip % 256]

/-- `str(IPv4Address(ip))`. -/
def render (ip : ℕ) : String :=
  String.ofList (['.'].intercalate ((octets ip).map (Nat.toDigits 10)))

/-- The number of addresses in a network of a prefix length. -/
def networkSize (prefixLength : ℕ) : ℕ := 2 ^ (32 - prefixLength)

/-- The first address of the network an address lies in. -/
def networkAddress (ip prefixLength : ℕ) : ℕ := ip - ip % networkSize prefixLength

/-- The last address of the network an address lies in. -/
def broadcastAddress (ip prefixLength : ℕ) : ℕ :=
  networkAddress ip prefixLength + networkSize prefixLength - 1

/-- Two addresses lie in the same network. -/
def sameNetwork (ip other prefixLength : ℕ) : Bool :=
  networkAddress ip prefixLength = networkAddress other prefixLength

example : address "192.168.1.10" = some 3232235786 := by decide

example : address "192.168.01.10" = none := by decide

/-! ### The text of an address -/

variable {cs : List Char} {n : ℕ} {ns : List ℕ}

theorem octet_le (h : octet cs = some n) : n ≤ 255 := by
  unfold octet at h
  dsimp only at h
  split at h
  · cases h
    tauto
  · cases h

variable {parts : List (List Char)} {text : String} {ip : ℕ}

theorem forall₂_of_mapM_octet
    (h : parts.mapM octet = some ns) : List.Forall₂ (fun cs n ↦ octet cs = some n) parts ns := by
  induction parts generalizing ns with
  | nil =>
    cases h
    exact .nil
  | cons cs parts ih =>
    simp only [mapM_cons, Option.bind_eq_bind, Option.bind_eq_some_iff] at h
    obtain ⟨a, ha, rest, hrest, hns⟩ := h
    cases hns
    exact .cons ha (ih hrest)

theorem le_of_mapM_octet (h : parts.mapM octet = some ns) : ∀ n ∈ ns, n ≤ 255 := by
  have hparts := forall₂_of_mapM_octet h
  clear h
  induction hparts with
  | nil => exact fun n hn ↦ absurd hn not_mem_nil
  | cons ha _ ih =>
    intro n hn
    rcases mem_cons.1 hn with rfl | hn
    · exact octet_le ha
    · exact ih n hn

/-- An address has thirty-two bits. -/
theorem address_lt (h : address text = some ip) : ip < 256 ^ 4 := by
  unfold address at h
  split at h
  · rename_i a b c d hoctets
    cases h
    have hle := le_of_mapM_octet hoctets
    simp only [mem_cons, not_mem_nil, or_false, forall_eq_or_imp, forall_eq] at hle
    omega
  · cases h

theorem octet_toDigits : ∀ n < 256, octet (Nat.toDigits 10 n) = some n := by decide +kernel

/-- **Round trip.** The text of an address denotes it. -/
theorem address_render (h : ip < 256 ^ 4) : address (render ip) = some ip := by
  have hdot : ∀ cs ∈ (octets ip).map (Nat.toDigits 10), '.' ∉ cs := by
    intro cs hcs hmem
    obtain ⟨n, -, rfl⟩ := mem_map.1 hcs
    exact absurd (Nat.isDigit_of_mem_toDigits (by decide) (by decide) hmem) (by decide)
  have hsplit : (render ip).toList.splitOn '.' = (octets ip).map (Nat.toDigits 10) := by
    rw [render, String.toList_ofList]
    exact splitOn_intercalate _ hdot (by simp [octets])
  have hoctets : (octets ip).mapM (octet ∘ Nat.toDigits 10) = some (octets ip) := by
    simp [octets, octet_toDigits, Nat.mod_lt]
  unfold address
  rw [hsplit, mapM_map, hoctets]
  simp only [octets]
  congr 1
  omega

/-- The text of an address is made of digits and dots. -/
theorem mem_render {c : Char} (hc : c ∈ (render ip).toList) : c.isDigit = true ∨ c = '.' := by
  have hdigit (n : ℕ) : c ∈ Nat.toDigits 10 n → c.isDigit = true :=
    Nat.isDigit_of_mem_toDigits (by decide) (by decide)
  simp only [render, octets, String.toList_ofList, map_cons, map_nil,
    intercalate_cons_cons, intercalate_singleton, mem_append, mem_singleton] at hc
  grind

theorem octet_eq_some (h : octet cs = some n) :
    cs ≠ [] ∧ cs.length ≤ 3 ∧ ∀ c ∈ cs, c.isDigit = true := by
  unfold octet at h
  dsimp only at h
  split at h <;> rename_i hcs
  · exact ⟨hcs.1, hcs.2.1, all_eq_true.mp hcs.2.2.1⟩
  · cases h

theorem exists_of_mapM_octet {n₁ n₂ n₃ n₄ : ℕ}
    (h : parts.mapM octet = some [n₁, n₂, n₃, n₄]) : ∃ a b c d, parts = [a, b, c, d] ∧
      octet a = some n₁ ∧ octet b = some n₂ ∧ octet c = some n₃ ∧ octet d = some n₄ := by
  obtain _ | ⟨ha, _ | ⟨hb, _ | ⟨hc, _ | ⟨hd, _ | _⟩⟩⟩⟩ := forall₂_of_mapM_octet h
  exact ⟨_, _, _, _, rfl, ha, hb, hc, hd⟩

/-- **Inversion** of the parser: an accepted text is four octets with dots between them. -/
theorem address_eq_some (h : address text = some ip) :
    ∃ a b c d : List Char, text.toList = a ++ '.' :: (b ++ '.' :: (c ++ '.' :: d)) ∧
      ∀ part ∈ [a, b, c, d], part ≠ [] ∧ part.length ≤ 3 ∧ ∀ x ∈ part, x.isDigit = true := by
  unfold address at h
  split at h
  · rename_i n₁ n₂ n₃ n₄ hoctets
    obtain ⟨a, b, c, d, hparts, ha, hb, hc, hd⟩ := exists_of_mapM_octet hoctets
    refine ⟨a, b, c, d, ?_, ?_⟩
    · have hjoin := @intercalate_splitOn _ text.toList _ _ '.'
      rw [hparts] at hjoin
      rw [← hjoin]
      simp
    · simp only [mem_cons, not_mem_nil, or_false, forall_eq_or_imp, forall_eq]
      exact ⟨octet_eq_some ha, octet_eq_some hb, octet_eq_some hc, octet_eq_some hd⟩
  · cases h

theorem mem_of_address {x : Char} (h : address text = some ip)
    (hx : x ∈ text.toList) : x.isDigit = true ∨ x = '.' := by
  obtain ⟨a, b, c, d, htext, hparts⟩ := address_eq_some h
  simp only [mem_cons, not_mem_nil, or_false, forall_eq_or_imp, forall_eq] at hparts
  rw [htext] at hx
  simp only [mem_append, mem_cons] at hx
  obtain ⟨ha, hb, hc, hd⟩ := hparts
  rcases hx with hx | rfl | hx | rfl | hx | rfl | hx
  · exact .inl (ha.2.2 x hx)
  · exact .inr rfl
  · exact .inl (hb.2.2 x hx)
  · exact .inr rfl
  · exact .inl (hc.2.2 x hx)
  · exact .inr rfl
  · exact .inl (hd.2.2 x hx)

/-- **The text of an interface.** An accepted address and a prefix length of one to 32. -/
theorem interface_of_address {len : ℕ} (h : address text = some ip) (hlen : len ≤ 32) :
    interface (String.ofList (text.toList ++ '/' :: Nat.toDigits 10 len)) = some (ip, len) := by
  have hdigits : ∀ c ∈ Nat.toDigits 10 len, c.isDigit = true := fun c ↦
    Nat.isDigit_of_mem_toDigits (by decide) (by decide)
  have hslash : ∀ part ∈ [text.toList, Nat.toDigits 10 len], '/' ∉ part := by
    simp only [mem_cons, not_mem_nil, or_false, forall_eq_or_imp, forall_eq]
    exact ⟨fun hmem ↦ absurd (mem_of_address h hmem) (by decide), fun hmem ↦
      absurd (hdigits _ hmem) (by decide)⟩
  have hsplit : (text.toList ++ '/' :: Nat.toDigits 10 len).splitOn '/' =
      [text.toList, Nat.toDigits 10 len] := by
    have hjoin := splitOn_intercalate '/' hslash (by simp)
    simpa using hjoin
  have hprefix : prefixDigits (Nat.toDigits 10 len) = some len := by
    rw [prefixDigits]
    simp only [Nat.ofDigitChars_ten_toDigits]
    exact if_pos ⟨Nat.toDigits_ne_nil, all_eq_true.mpr hdigits, hlen⟩
  rw [interface, String.toList_ofList, hsplit]
  simp only [String.ofList_toList, h, hprefix, Option.bind_some, Option.map_some]

end Kaya.IPv4
