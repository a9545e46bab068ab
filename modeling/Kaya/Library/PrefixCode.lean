import Mathlib.Algebra.Group.Nat.Defs
import Mathlib.Logic.Function.Basic

/-!
# Prefix codes

A code whose words tell where they end (`IsPrefixCode`): two texts that begin with words of it begin
with the same word, and go on alike. A number is no such word, since another digit may follow, but
it is one before everything that does not begin with a digit. Hence the condition `P` on what comes
after a word: `IsCode P`.

Codes are put together from codes: `IsCode.append` for a pair, `IsCode.flatMap` for a list that is
closed by a text with which no word begins, `IsCode.flatMap_endsBefore` for a list that ends where
something else begins. The last sections have words of a fixed width and numbers.
-/

namespace Kaya

open List

variable {α β χ : Type*} {P Q : List χ → Prop} {f : α → List χ} {g : β → List χ}
  {text : List χ} {start : χ → Prop} {c : Char} {n : ℕ}

/-! ### Codes -/

/-- Before texts with `P`, a word tells where it ends. -/
def IsCode (P : List χ → Prop) (f : α → List χ) : Prop :=
  ∀ a a' rest rest', P rest → P rest' → f a ++ rest = f a' ++ rest' → a = a' ∧ rest = rest'

/-- A word tells where it ends. -/
abbrev IsPrefixCode (f : α → List χ) : Prop := IsCode (fun _ ↦ True) f

theorem IsCode.mono (h : IsCode P f) (hP : ∀ rest, Q rest → P rest) : IsCode Q f :=
  fun a a' rest rest' hrest hrest' ↦ h a a' rest rest' (hP rest hrest) (hP rest' hrest')

theorem IsPrefixCode.isCode (h : IsPrefixCode f) : IsCode P f := h.mono fun _ _ ↦ trivial

theorem IsPrefixCode.injective (h : IsPrefixCode f) : Function.Injective f := fun a a' heq ↦
  (h a a' [] [] trivial trivial (by rw [heq])).1

theorem IsCode.comp (h : IsCode P f) {u : β → α} (hu : Function.Injective u) :
    IsCode P fun b ↦ f (u b) := by
  intro b b' rest rest' hrest hrest' heq
  obtain ⟨hword, hrest⟩ := h _ _ rest rest' hrest hrest' heq
  exact ⟨hu hword, hrest⟩

/-- A text before every word. -/
theorem IsCode.const_append (text : List χ) (h : IsCode P f) : IsCode P fun a ↦ text ++ f a := by
  intro a a' rest rest' hrest hrest' heq
  rw [append_assoc, append_assoc] at heq
  exact h a a' rest rest' hrest hrest' (append_cancel_left heq)

/-- A text after every word. -/
theorem IsCode.append_const (h : IsCode P f)
    (hP : ∀ rest, Q rest → P (text ++ rest)) : IsCode Q fun a ↦ f a ++ text := by
  intro a a' rest rest' hrest hrest' heq
  rw [append_assoc, append_assoc] at heq
  obtain ⟨rfl, hrest⟩ := h a a' _ _ (hP rest hrest) (hP rest' hrest') heq
  exact ⟨rfl, append_cancel_left hrest⟩

/-- One word and then another one. -/
theorem IsCode.append (hf : IsCode P f) (hg : IsCode Q g)
    (hP : ∀ b rest, Q rest → P (g b ++ rest)) : IsCode Q fun p : α × β ↦ f p.1 ++ g p.2 := by
  rintro ⟨a, b⟩ ⟨a', b'⟩ rest rest' hrest hrest' heq
  replace heq : f a ++ (g b ++ rest) = f a' ++ (g b' ++ rest') := by
    rwa [← append_assoc, ← append_assoc]
  obtain ⟨rfl, hsecond⟩ := hf a a' _ _ (hP b rest hrest) (hP b' rest' hrest') heq
  obtain ⟨rfl, hrests⟩ := hg b b' rest rest' hrest hrest' hsecond
  exact ⟨rfl, hrests⟩

/-- Words, closed by a text with which no word begins. -/
theorem IsCode.flatMap (h : IsCode P f) {close : List χ}
    (hclose : ∀ a rest rest', f a ++ rest ≠ close ++ rest') (hP : ∀ rest, P (close ++ rest))
    (hword : ∀ a rest, P (f a ++ rest)) : IsPrefixCode fun l : List α ↦ l.flatMap f ++ close := by
  intro l l' rest rest' _ _ heq
  replace heq : l.flatMap f ++ close ++ rest = l'.flatMap f ++ close ++ rest' := heq
  induction l generalizing l' with
  | nil =>
    cases l' with
    | nil => exact ⟨rfl, append_cancel_left heq⟩
    | cons a' l' =>
      replace heq : close ++ rest = f a' ++ (l'.flatMap f ++ (close ++ rest')) := by
        simpa only [flatMap_nil, flatMap_cons, nil_append, append_assoc]
          using heq
      exact absurd heq.symm (hclose a' _ _)
  | cons a l ih =>
    cases l' with
    | nil =>
      replace heq : f a ++ (l.flatMap f ++ (close ++ rest)) = close ++ rest' := by
        simpa only [flatMap_nil, flatMap_cons, nil_append, append_assoc]
          using heq
      exact absurd heq (hclose a _ _)
    | cons a' l' =>
      have hrest : ∀ (l : List α) rest, P (l.flatMap f ++ close ++ rest) := by
        intro l rest
        cases l with
        | nil => exact hP rest
        | cons a l =>
          rw [flatMap_cons, append_assoc, append_assoc]
          exact hword a _
      replace heq : f a ++ (l.flatMap f ++ close ++ rest) =
          f a' ++ (l'.flatMap f ++ close ++ rest') := by
        simpa only [flatMap_cons, append_assoc] using heq
      obtain ⟨rfl, hlists⟩ := h a a' _ _ (hrest l rest) (hrest l' rest') heq
      obtain ⟨rfl, hrests⟩ := ih l' hlists
      exact ⟨rfl, hrests⟩

/-- Words that are not empty tell apart the lists that they make up. -/
theorem IsPrefixCode.flatMap_injective (h : IsPrefixCode f) (hne : ∀ a, f a ≠ []) :
    Function.Injective fun l : List α ↦ l.flatMap f := by
  intro l l' heq
  induction l generalizing l' with
  | nil =>
    cases l' with
    | nil => rfl
    | cons a' l' =>
      have hnil : f a' ++ l'.flatMap f = [] := heq.symm
      exact absurd (append_eq_nil_iff.1 hnil).1 (hne a')
  | cons a l ih =>
    cases l' with
    | nil =>
      have hnil : f a ++ l.flatMap f = [] := heq
      exact absurd (append_eq_nil_iff.1 hnil).1 (hne a)
    | cons a' l' =>
      have heq' : f a ++ l.flatMap f = f a' ++ l'.flatMap f := heq
      obtain ⟨rfl, hrest⟩ := h a a' _ _ trivial trivial heq'
      rw [ih hrest]

/-! ### Words that begin with certain characters -/

/-- The text does not begin with such a character. -/
def EndsBefore (start : χ → Prop) (text : List χ) : Prop := ∀ c ∈ text.head?, ¬start c

theorem EndsBefore.mono {start' : χ → Prop} (h : EndsBefore start text)
    (hstart : ∀ c, start' c → start c) : EndsBefore start' text :=
  fun c hc hc' ↦ h c hc (hstart c hc')

theorem endsBefore_nil : EndsBefore start [] :=
  fun _ hc ↦ absurd hc (by simp)

theorem endsBefore_cons {c : χ} : EndsBefore start (c :: text) ↔ ¬start c :=
  ⟨fun h ↦ h c rfl, fun h _ hc ↦ Option.some.inj hc ▸ h⟩

/-- Words that begin with such a character, before what does not. -/
theorem IsCode.flatMap_endsBefore (h : IsCode P f)
    (hstart : ∀ a, ∃ c text, f a = c :: text ∧ start c)
    (hP : ∀ rest, EndsBefore start rest → P rest) (hword : ∀ a rest, P (f a ++ rest)) :
    IsCode (EndsBefore start) fun l : List α ↦ l.flatMap f := by
  have hwords : ∀ (a : α) (l : List α) (rest rest' : List χ), EndsBefore start rest' →
      f a ++ (l.flatMap f ++ rest) ≠ rest' := by
    rintro a l rest _ hrest' rfl
    obtain ⟨c, text, hword, hc⟩ := hstart a
    rw [hword] at hrest'
    exact endsBefore_cons.1 hrest' hc
  have hafter : ∀ (l : List α) (rest : List χ), EndsBefore start rest →
      P (l.flatMap f ++ rest) := by
    intro l rest hrest
    cases l with
    | nil => exact hP rest hrest
    | cons a l =>
      rw [flatMap_cons, append_assoc]
      exact hword a _
  intro l l' rest rest' hrest hrest' heq
  dsimp only at heq
  induction l generalizing l' with
  | nil =>
    cases l' with
    | nil => exact ⟨rfl, heq⟩
    | cons a' l' =>
      rw [flatMap_cons, append_assoc] at heq
      exact absurd heq.symm (hwords a' l' rest' rest hrest)
  | cons a l ih =>
    cases l' with
    | nil =>
      rw [flatMap_cons, append_assoc] at heq
      exact absurd heq (hwords a l rest rest' hrest')
    | cons a' l' =>
      rw [flatMap_cons, flatMap_cons, append_assoc, append_assoc] at heq
      obtain ⟨rfl, hlists⟩ := h a a' _ _ (hafter l rest hrest) (hafter l' rest' hrest') heq
      obtain ⟨rfl, hrests⟩ := ih l' hlists
      exact ⟨rfl, hrests⟩

/-! ### Words without certain characters -/

/-- The text begins with a character of this kind. -/
def StartsIn (stop : χ → Prop) (text : List χ) : Prop := ∃ c ∈ text.head?, stop c

theorem startsIn_cons {stop : χ → Prop} {c : χ} {rest : List χ} :
    StartsIn stop (c :: rest) ↔ stop c :=
  ⟨fun ⟨_, hc, h⟩ ↦ Option.some.inj hc ▸ h, fun h ↦ ⟨c, rfl, h⟩⟩

/-- Different words without stop characters, before a stop character. -/
theorem isCode_startsIn {stop : χ → Prop} (hinjective : Function.Injective f)
    (hf : ∀ a, ∀ c ∈ f a, ¬stop c) : IsCode (StartsIn stop) f := by
  have hwords : ∀ (w w' rest rest' : List χ), (∀ c ∈ w, ¬stop c) → (∀ c ∈ w', ¬stop c) →
      StartsIn stop rest → StartsIn stop rest' → w ++ rest = w' ++ rest' →
        w = w' ∧ rest = rest' := by
    intro w
    induction w with
    | nil =>
      rintro (_ | ⟨c, w'⟩) rest rest' - hw' hrest - heq
      · exact ⟨rfl, heq⟩
      · have heq' : rest = c :: (w' ++ rest') := heq
        rw [heq', startsIn_cons] at hrest
        exact absurd hrest (hw' c mem_cons_self)
    | cons c w ih =>
      rintro (_ | ⟨c', w'⟩) rest rest' hw hw' hrest hrest' heq
      · have heq' : rest' = c :: (w ++ rest) := heq.symm
        rw [heq', startsIn_cons] at hrest'
        exact absurd hrest' (hw c mem_cons_self)
      · obtain ⟨rfl, htails⟩ := cons.inj heq
        obtain ⟨rfl, hrests⟩ := ih w' rest rest'
          (fun c hc ↦ hw c (mem_cons_of_mem _ hc))
          (fun c hc ↦ hw' c (mem_cons_of_mem _ hc)) hrest hrest' htails
        exact ⟨rfl, hrests⟩
  intro a a' rest rest' hrest hrest' heq
  obtain ⟨hword, hrest⟩ := hwords _ _ rest rest' (hf a) (hf a') hrest hrest' heq
  exact ⟨hinjective hword, hrest⟩

/-! ### Words of a fixed width -/

/-- Different words of one length. -/
theorem isPrefixCode_of_length (hinjective : Function.Injective f)
    (hlen : ∀ a, (f a).length = n) : IsPrefixCode f := by
  intro a a' rest rest' _ _ heq
  obtain ⟨hword, hrest⟩ := append_inj heq ((hlen a).trans (hlen a').symm)
  exact ⟨hinjective hword, hrest⟩

/-- The last `width` digits. -/
def fixedDigits (base : ℕ) : ℕ → ℕ → List Char
  | 0, _ => []
  | width + 1, n => fixedDigits base width (n / base) ++ [(n % base).digitChar]

theorem fixedDigits_length (base width n : ℕ) : (fixedDigits base width n).length = width := by
  induction width generalizing n with
  | zero => rfl
  | succ width ih => rw [fixedDigits, length_append, ih, length_singleton]

theorem digitChar_inj : ∀ m < 16, ∀ n < 16, m.digitChar = n.digitChar → m = n := by decide

theorem fixedDigits_inj {base width m : ℕ} (hbase : 0 < base) (hdigits : base ≤ 16)
    (hm : m < base ^ width) (hn : n < base ^ width)
    (h : fixedDigits base width m = fixedDigits base width n) : m = n := by
  induction width generalizing m n with
  | zero =>
    rw [pow_zero, Nat.lt_one_iff] at hm hn
    exact hm.trans hn.symm
  | succ width ih =>
    obtain ⟨hhigh, hlow⟩ := append_inj h
      ((fixedDigits_length _ _ _).trans (fixedDigits_length _ _ _).symm)
    have hdiv := ih (Nat.div_lt_of_lt_mul (by rwa [pow_succ, mul_comm] at hm))
      (Nat.div_lt_of_lt_mul (by rwa [pow_succ, mul_comm] at hn)) hhigh
    have hmod := digitChar_inj _ (Nat.lt_of_lt_of_le (Nat.mod_lt m hbase) hdigits) _
      (Nat.lt_of_lt_of_le (Nat.mod_lt n hbase) hdigits) (singleton_inj.1 hlow)
    rw [← Nat.div_add_mod m base, ← Nat.div_add_mod n base, hdiv, hmod]

/-- Numbers of a fixed width. -/
theorem isPrefixCode_fixedDigits (width : ℕ) {base : ℕ} (hbase : 0 < base)
    (hdigits : base ≤ 16) : IsPrefixCode fun n : Fin (base ^ width) ↦ fixedDigits base width n :=
  isPrefixCode_of_length (fun m n h ↦ Fin.ext (fixedDigits_inj hbase hdigits m.2 n.2 h))
    fun n ↦ fixedDigits_length base width n

/-! ### Numbers -/

theorem toDigits_injective : Function.Injective (Nat.toDigits 10) := fun m n h ↦ by
  rw [← Nat.ofDigitChars_toDigits (b := 10) (n := m) (by decide) (by decide), h,
    Nat.ofDigitChars_toDigits (by decide) (by decide)]

theorem isDigit_toDigits (h : c ∈ Nat.toDigits 10 n) : c.isDigit = true :=
  Nat.isDigit_of_mem_toDigits (by decide) (by decide) h

theorem toDigits_ne_cons {text : List Char} (hc : c.isDigit = false) :
    Nat.toDigits 10 n ≠ c :: text := by
  intro h
  have hmem : c ∈ Nat.toDigits 10 n := h ▸ mem_cons_self
  exact Bool.false_ne_true (hc.symm.trans (isDigit_toDigits hmem))

theorem toDigits_append_ne {rest text : List Char} (hc : c.isDigit = false) :
    Nat.toDigits 10 n ++ rest ≠ c :: text := by
  intro h
  cases hdigits : Nat.toDigits 10 n with
  | nil => exact Nat.toDigits_ne_nil hdigits
  | cons d digits =>
    rw [hdigits] at h
    exact toDigits_ne_cons hc ((cons.inj h).1 ▸ hdigits)

/-- `str(n)`. -/
def intText : ℤ → List Char
  | .ofNat n => Nat.toDigits 10 n
  | .negSucc n => '-' :: Nat.toDigits 10 (n + 1)

theorem intText_injective : Function.Injective intText := by
  intro m n h
  cases m with
  | ofNat m =>
    cases n with
    | ofNat n => rw [toDigits_injective h]
    | negSucc n => exact absurd h (toDigits_ne_cons (by decide))
  | negSucc m =>
    cases n with
    | ofNat n => exact absurd h.symm (toDigits_ne_cons (by decide))
    | negSucc n =>
      obtain ⟨-, htext⟩ := cons.inj h
      rw [Nat.succ.inj (toDigits_injective htext)]

theorem mem_intText {n : ℤ} (h : c ∈ intText n) : c.isDigit = true ∨ c = '-' := by
  cases n with
  | ofNat n => exact .inl (isDigit_toDigits h)
  | negSucc n => exact (mem_cons.1 h).symm.imp_left isDigit_toDigits

/-- A number ends where there is no digit. -/
theorem isCode_toDigits {stop : Char → Prop} (hstop : ∀ c, stop c → c.isDigit = false) :
    IsCode (StartsIn stop) (Nat.toDigits 10) := by
  refine isCode_startsIn toDigits_injective fun n c hc hc' ↦ ?_
  exact Bool.false_ne_true ((hstop c hc').symm.trans (isDigit_toDigits hc))

end Kaya
