import Mathlib.Data.List.Infix
import Mathlib.Data.List.TakeWhile

/-!
# Python text operations

The handful of `str` operations a service written in Python leans on, with Python's own meaning
rather than Lean's: `strip` removes Unicode white space as `str.isspace` has it, slicing never
fails, `int` accepts a sign, surrounding white space and single underscores between digits, and `or`
takes the default for the empty string as well as for a missing value. Decimal digits are the ASCII
ones. `splitlines` ends a line at every Unicode line boundary and `count` counts occurrences that do
not overlap.
-/

namespace Kaya.PyText

open List

/-- Texts are compared by their characters. -/
instance lawfulBEqText : LawfulBEq (List Char) := inferInstance

/-- `str.isspace` on one character. -/
def isSpace (c : Char) : Bool :=
  let n := c.toNat
  (9 ≤ n && n ≤ 13) || (28 ≤ n && n ≤ 32) || n == 0x85 || n == 0xa0 || n == 0x1680 ||
    (0x2000 ≤ n && n ≤ 0x200a) || n == 0x2028 || n == 0x2029 || n == 0x202f || n == 0x205f ||
    n == 0x3000

/-- `str.strip()` on characters. -/
def stripChars (cs : List Char) : List Char :=
  ((cs.dropWhile isSpace).reverse.dropWhile isSpace).reverse

/-- `s.strip()`. -/
def strip (s : String) : String := String.ofList (stripChars s.toList)

/-- `s[:n]`. -/
def take (n : ℕ) (s : String) : String := String.ofList (s.toList.take n)

/-- The characters at which `str.splitlines` ends a line. -/
def isLineBreak (c : Char) : Bool :=
  let n := c.toNat
  (10 ≤ n && n ≤ 13) || (28 ≤ n && n ≤ 30) || n == 0x85 || n == 0x2028 || n == 0x2029

/-- What reading a file as text makes of its line ends: `\r\n` and `\r` become `\n`. -/
def universalNewlines : List Char → List Char
  | [] => []
  | '\r' :: '\n' :: cs => '\n' :: universalNewlines cs
  | '\r' :: cs => '\n' :: universalNewlines cs
  | c :: cs => c :: universalNewlines cs

/-- The lines of a text whose first line began with the characters of `line`, last one first. -/
def linesFrom : List Char → List Char → List (List Char)
  | line, [] => if line = [] then [] else [line.reverse]
  | line, c :: cs =>
    if c = '\r' ∧ cs.head? = some '\n' then linesFrom line cs
    else if isLineBreak c then line.reverse :: linesFrom [] cs
    else linesFrom (c :: line) cs

/-- `str.splitlines()` on characters. A carriage return before a line feed ends no line of its
own. -/
def splitLines (cs : List Char) : List (List Char) := linesFrom [] cs

/-- `[line.strip() for line in text.splitlines() if line.strip()]`. -/
def strippedLines (cs : List Char) : List (List Char) :=
  ((splitLines cs).map stripChars).filter (· ≠ [])

/-- Occurrences of a nonempty needle after the next `skip` characters. -/
def countFrom (needle : List Char) : ℕ → List Char → ℕ
  | _, [] => 0
  | skip + 1, _ :: cs => countFrom needle skip cs
  | 0, c :: cs =>
    if needle <+: c :: cs then countFrom needle (needle.length - 1) cs + 1
    else countFrom needle 0 cs

/-- `text.count(needle)` on characters, for a nonempty needle. -/
def count (needle text : List Char) : ℕ := countFrom needle 0 text

/-- `value or default`: the default also replaces an empty string. -/
def orDefault (value : Option String) (default : String) : String :=
  match value with
  | none => default
  | some s => if s = "" then default else s

/-- `needle in s.lower()`, for an ASCII needle. -/
def lowerContains (s needle : String) : Bool :=
  decide (needle.toList <:+: s.toList.map Char.toLower)

/-- The digits of an `int` literal after its first digit, underscores allowed singly between
digits. -/
def digits : ℕ → List Char → Option ℕ
  | acc, [] => some acc
  | acc, '_' :: c :: cs => if c.isDigit then digits (acc * 10 + (c.toNat - 48)) cs else none
  | acc, c :: cs => if c.isDigit then digits (acc * 10 + (c.toNat - 48)) cs else none

/-- An unsigned `int` literal. -/
def natural : List Char → Option ℕ
  | [] => none
  | c :: cs => if c.isDigit then digits (c.toNat - 48) cs else none

/-- `int(part)`, `none` where Python raises `ValueError`. -/
def int (cs : List Char) : Option ℤ :=
  match stripChars cs with
  | '-' :: cs => (natural cs).map fun n ↦ -(n : ℤ)
  | '+' :: cs => (natural cs).map fun n ↦ (n : ℤ)
  | cs => (natural cs).map fun n ↦ (n : ℤ)

/-- `[int(part) for part in s.split(".")]`, `none` where some part is no integer. -/
def dottedInts (s : String) : Option (List ℤ) :=
  (s.toList.splitOn '.').mapM int

example : dottedInts "0.2.14" = some [0, 2, 14] := by decide

example : dottedInts "0.2.x" = none := by decide

/-! ### Line ends -/

/-- No carriage return is left. -/
theorem not_mem_universalNewlines : ∀ cs : List Char, '\r' ∉ universalNewlines cs := by
  intro cs
  fun_induction universalNewlines cs with
  | case1 => exact not_mem_nil
  | case2 cs ih => exact not_mem_cons_of_ne_of_not_mem (by decide) ih
  | case3 cs _ ih => exact not_mem_cons_of_ne_of_not_mem (by decide) ih
  | case4 c cs _ hreturn ih => exact not_mem_cons_of_ne_of_not_mem (fun h ↦ hreturn h.symm) ih

variable {cs right : List Char} {c : Char}

/-- A text reads back as it is when it has no carriage return. -/
theorem universalNewlines_eq_self_iff : universalNewlines cs = cs ↔ '\r' ∉ cs := by
  refine ⟨fun h ↦ h ▸ not_mem_universalNewlines cs, fun h ↦ ?_⟩
  fun_induction universalNewlines cs with
  | case1 => rfl
  | case2 cs ih => exact absurd mem_cons_self h
  | case3 cs _ ih => exact absurd mem_cons_self h
  | case4 c cs _ _ ih => rw [ih (not_mem_of_not_mem_cons h)]

/-! ### Stripping -/

variable {text needle : List Char} {sep : Char}

theorem dropWhile_isSpace_of_head
    (h : ∀ c ∈ text.head?, isSpace c = false) : text.dropWhile isSpace = text := by
  cases text with
  | nil => rfl
  | cons c text => rw [dropWhile_cons_of_neg (by rw [h c rfl]; decide)]

/-- An indented text is stripped to itself when it neither starts nor ends with white space. -/
theorem stripChars_replicate_append (hhead : ∀ c ∈ text.head?, isSpace c = false)
    (hlast : ∀ c ∈ text.getLast?, isSpace c = false) (indent : ℕ) :
    stripChars (List.replicate indent ' ' ++ text) = text := by
  have hdrop : (replicate indent ' ' ++ text).dropWhile isSpace = text := by
    induction indent with
    | zero => exact dropWhile_isSpace_of_head hhead
    | succ indent ih =>
      rw [replicate_succ, cons_append, dropWhile_cons_of_pos (by decide), ih]
  rw [← head?_reverse] at hlast
  rw [stripChars, hdrop, dropWhile_isSpace_of_head hlast, reverse_reverse]

theorem stripChars_append_left {left : List Char} (h : ∀ c ∈ left, isSpace c = true)
    (text : List Char) : stripChars (left ++ text) = stripChars text := by
  rw [stripChars, dropWhile_append_of_pos h, stripChars]

theorem stripChars_append_right (h : ∀ c ∈ right, isSpace c = true)
    (text : List Char) : stripChars (text ++ right) = stripChars text := by
  have hright : right.dropWhile isSpace = [] := dropWhile_eq_nil_iff.2 h
  rw [stripChars, stripChars, dropWhile_append]
  split
  next hempty => rw [hright, isEmpty_iff.1 hempty]
  next =>
    rw [reverse_append, dropWhile_append_of_pos fun c hc ↦ h c (mem_reverse.1 hc)]

/-- What `strip` removes. -/
theorem exists_stripChars (text : List Char) : ∃ left right,
    text = left ++ stripChars text ++ right ∧ (∀ c ∈ left, isSpace c = true) ∧
      ∀ c ∈ right, isSpace c = true := by
  refine ⟨text.takeWhile isSpace, ((text.dropWhile isSpace).reverse.takeWhile isSpace).reverse, ?_,
    fun c ↦ mem_takeWhile_imp, fun c hc ↦ mem_takeWhile_imp (mem_reverse.1 hc)⟩
  rw [stripChars, append_assoc, ← reverse_append, takeWhile_append_dropWhile,
    reverse_reverse, takeWhile_append_dropWhile]

theorem stripChars_stripChars (text : List Char) :
    stripChars (stripChars text) = stripChars text := by
  obtain ⟨left, right, htext, hl, hr⟩ := exists_stripChars text
  conv_rhs => rw [htext, stripChars_append_right hr, stripChars_append_left hl]

/-! ### Splitting -/

/-- Parts without a separator can be told from what they are joined to. -/
theorem intercalate_inj {parts parts' : List (List Char)} (h : ∀ part ∈ parts, sep ∉ part)
    (h' : ∀ part ∈ parts', sep ∉ part) (hne : parts ≠ []) (hne' : parts' ≠ []) :
    [sep].intercalate parts = [sep].intercalate parts' ↔ parts = parts' := by
  refine ⟨fun heq ↦ ?_, fun heq ↦ heq ▸ rfl⟩
  rw [← splitOn_intercalate sep h hne, heq, splitOn_intercalate sep h' hne']

theorem mem_intercalate {c : Char} {parts : List (List Char)} (h : c ∈ [sep].intercalate parts) :
    c = sep ∨ ∃ part ∈ parts, c ∈ part := by
  induction parts with
  | nil => exact absurd h not_mem_nil
  | cons part parts ih =>
    rcases parts with - | ⟨part', parts⟩
    · rw [intercalate_singleton] at h
      exact .inr ⟨part, mem_singleton_self part, h⟩
    · rw [intercalate_cons_cons, mem_append, mem_append, mem_singleton] at h
      rcases h with (h | h) | h
      · exact .inr ⟨part, mem_cons_self, h⟩
      · exact .inl h
      · rcases ih h with h | ⟨other, hother, hc⟩
        · exact .inl h
        · exact .inr ⟨other, mem_cons_of_mem _ hother, hc⟩

/-- What follows without a separator belongs to the last part. -/
theorem exists_splitOn_append (h : sep ∉ right)
    (text : List Char) : ∃ init last, text.splitOn sep = init ++ [last] ∧
      (text ++ right).splitOn sep = init ++ [last ++ right] := by
  induction text with
  | nil => exact ⟨[], [], splitOn_nil _, splitOn_eq_singleton h⟩
  | cons c text ih =>
    obtain ⟨init, last, htext, hright⟩ := ih
    rw [cons_append, splitOn_cons_eq_if_modifyHead, splitOn_cons_eq_if_modifyHead, htext, hright]
    split
    · exact ⟨[] :: init, last, rfl, rfl⟩
    · cases init with
      | nil => exact ⟨[], c :: last, rfl, rfl⟩
      | cons part init => exact ⟨(c :: part) :: init, last, rfl, rfl⟩

/-- White space at the ends does not matter to parts that are stripped. -/
theorem filterMap_splitOn_stripChars {β : Type} {f : List Char → Option β}
    (hf : ∀ text, f (stripChars text) = f text) (hsep : isSpace sep = false) (text : List Char) :
    ((stripChars text).splitOn sep).filterMap f = (text.splitOn sep).filterMap f := by
  have hnot : ∀ {cs : List Char}, (∀ c ∈ cs, isSpace c = true) → sep ∉ cs :=
    fun hcs hmem ↦ absurd (hcs sep hmem) (by simp [hsep])
  have hleft : ∀ (left text : List Char), (∀ c ∈ left, isSpace c = true) →
      ((left ++ text).splitOn sep).filterMap f = (text.splitOn sep).filterMap f := by
    intro left text h
    obtain ⟨part, parts, hparts⟩ := exists_cons_of_ne_nil (splitOn_ne_nil sep text)
    have hsplit : (left ++ text).splitOn sep = (left ++ part) :: parts := by
      induction left with
      | nil => exact hparts
      | cons c left ih =>
        have hc : ¬ (c == sep) = true := fun heq ↦
          hnot h (beq_iff_eq.1 heq ▸ mem_cons_self)
        rw [cons_append, splitOn_cons_eq_if_modifyHead, if_neg hc,
          ih fun c hc ↦ h c (mem_cons_of_mem _ hc)]
        rfl
    have hpart : f (left ++ part) = f part := by
      rw [← hf, stripChars_append_left h, hf]
    rw [hsplit, hparts, filterMap_cons, filterMap_cons, hpart]
  have hright : ∀ (text right : List Char), (∀ c ∈ right, isSpace c = true) →
      ((text ++ right).splitOn sep).filterMap f = (text.splitOn sep).filterMap f := by
    intro text right h
    obtain ⟨init, last, htext, hsplit⟩ := exists_splitOn_append (hnot h) text
    have hlast : f (last ++ right) = f last := by
      rw [← hf, stripChars_append_right h, hf]
    rw [hsplit, htext, filterMap_append, filterMap_append, filterMap_cons, filterMap_cons, hlast]
  obtain ⟨left, right, htext, hl, hr⟩ := exists_stripChars text
  conv_rhs => rw [htext, hright _ _ hr, hleft _ _ hl]

theorem isSpace_of_isLineBreak (h : isLineBreak c = true) : isSpace c = true := by
  simp only [isLineBreak, isSpace, Bool.or_eq_true, Bool.and_eq_true, decide_eq_true_eq,
    beq_iff_eq] at h ⊢
  omega

/-! ### Lines -/

/-- What stands before a line feed is one line, when it holds no line boundary itself. -/
theorem linesFrom_append_newline (h : ∀ c ∈ text, isLineBreak c = false) (line rest : List Char) :
    linesFrom line (text ++ '\n' :: rest) = (line.reverse ++ text) :: linesFrom [] rest := by
  induction text generalizing line with
  | nil =>
    rw [nil_append, append_nil, linesFrom, if_neg (by simp), if_pos (by decide)]
  | cons c text ih =>
    have hc : isLineBreak c = false := h c (mem_cons_self ..)
    have hcr : c ≠ '\r' := by
      rintro rfl
      exact absurd hc (by decide)
    rw [cons_append, linesFrom, if_neg fun hand ↦ hcr hand.1, if_neg (by rw [hc]; decide),
      ih fun x hx ↦ h x (mem_cons_of_mem _ hx), reverse_cons, append_assoc, singleton_append]

theorem splitLines_append_newline (h : ∀ c ∈ text, isLineBreak c = false)
    (rest : List Char) : splitLines (text ++ '\n' :: rest) = text :: splitLines rest :=
  linesFrom_append_newline h [] rest

/-! ### Occurrences -/

theorem countFrom_append_of_length_eq (needle : List Char) {skipped : List Char} {skip : ℕ}
    (h : skipped.length = skip) (rest : List Char) :
    countFrom needle skip (skipped ++ rest) = countFrom needle 0 rest := by
  induction skipped generalizing skip with
  | nil =>
    subst h
    rfl
  | cons c skipped ih =>
    subst h
    rw [cons_append, length_cons, countFrom, ih rfl]

/-- An occurrence at the front is counted, and the rest is counted after it. -/
theorem count_self_append (h : needle ≠ []) (rest : List Char) :
    count needle (needle ++ rest) = count needle rest + 1 := by
  obtain ⟨c, cs, rfl⟩ := exists_cons_of_ne_nil h
  have hfront : c :: cs <+: c :: (cs ++ rest) := prefix_append (c :: cs) rest
  rw [count, cons_append, countFrom, if_pos hfront, length_cons, Nat.add_sub_cancel,
    countFrom_append_of_length_eq (c :: cs) rfl, count]

theorem count_cons_of_not_front (h : ¬needle <+: c :: cs) :
    count needle (c :: cs) = count needle cs := by
  rw [count, countFrom, if_neg h, count]

theorem count_eq_zero (h : ¬needle <:+: text) : count needle text = 0 := by
  induction text with
  | nil => rfl
  | cons c cs ih =>
    rw [infix_cons_iff, not_or] at h
    rw [count_cons_of_not_front h.1, ih h.2]

example : count "ana".toList "banana".toList = 1 := by decide

end Kaya.PyText
