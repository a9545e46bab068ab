import Kaya.Library.PyText

/-!
# Texts known up to their variable parts

A rendered document is a fixed text with holes. What can be said of every such document whatever
stands in the holes is decided on its *pattern*: a list of characters and of bounded runs over an
alphabet. `residuals` is what may follow after one character has been read, and from it come the
three questions a reader of the document asks: may it start with a needle (`canStart`), may it
contain one (`canContain`), does it contain it exactly once (`occursOnce`). The first two answer
`false` only when no text of the pattern does; the last answers `true` only when every one does.
-/

namespace Kaya

open PyText List

/-- One item of a pattern. -/
inductive PatternItem
  | lit (c : Char)
  /-- At most `bound` characters of an alphabet. -/
  | run (alphabet : Char → Bool) (bound : ℕ)

/-- A text known up to its variable parts. -/
abbrev Pattern := List PatternItem

namespace Pattern

open PatternItem

/-- A text is one of the pattern's. -/
def Matches : Pattern → List Char → Prop
  | [], text => text = []
  | lit c :: p, text => ∃ rest, text = c :: rest ∧ Matches p rest
  | run alphabet bound :: p, text => ∃ taken rest, text = taken ++ rest ∧
      taken.length ≤ bound ∧ (∀ c ∈ taken, alphabet c = true) ∧ Matches p rest

/-- The patterns of what may follow the character `c`. -/
def residuals (c : Char) : Pattern → List Pattern
  | [] => []
  | lit d :: p => if c = d then [p] else []
  | run _ 0 :: p => residuals c p
  | run alphabet (bound + 1) :: p =>
    if alphabet c then (run alphabet bound :: p) :: residuals c p else residuals c p

/-- Some text of the pattern may start with the needle. -/
def canStart : List Char → Pattern → Bool
  | [], _ => true
  | c :: needle, p => (residuals c p).any (canStart needle)

/-- Some text of the pattern may contain the needle. -/
def canContain (needle : List Char) : Pattern → Bool
  | [] => needle.isEmpty
  | item :: p => canStart needle (item :: p) || canContain needle p

/-- What follows the needle, when the pattern begins with its characters one by one. -/
def dropLits : List Char → Pattern → Option Pattern
  | [], p => some p
  | c :: needle, lit d :: p => if c = d then dropLits needle p else none
  | _ :: _, _ => none

/-- The needle stands in every text of the pattern at one place and at no other. -/
def occursOnce (needle : List Char) : Pattern → Bool
  | [] => false
  | item :: p => match dropLits needle (item :: p) with
    | some rest => !canContain needle rest
    | none => !canStart needle (item :: p) && occursOnce needle p

/-- The length of the pattern's longest text. -/
def maxLength : Pattern → ℕ
  | [] => 0
  | lit _ :: p => maxLength p + 1
  | run _ bound :: p => bound + maxLength p

section Soundness

variable {p q : Pattern} {text needle rest taken : List Char} {c : Char} {alphabet : Char → Bool}
  {bound : ℕ}

@[simp]
theorem matches_nil : Matches [] text ↔ text = [] := Iff.rfl

/-- What is left of a run after its first character is a text of the same run. -/
theorem Matches.of_cons_run
    (hlen : (c :: taken).length ≤ bound + 1) (halphabet : ∀ x ∈ c :: taken, alphabet x = true)
    (hrest : Matches p rest) : Matches (run alphabet bound :: p) (taken ++ rest) :=
  ⟨taken, rest, rfl, Nat.le_of_succ_le_succ hlen,
    fun x hx ↦ halphabet x (mem_cons_of_mem _ hx), hrest⟩

theorem exists_residual (h : Matches p (c :: text)) : ∃ p' ∈ residuals c p, Matches p' text := by
  induction p with
  | nil => exact absurd h (by simp)
  | cons item p ih =>
    cases item with
    | lit d =>
      obtain ⟨rest, hcons, hrest⟩ := h
      obtain ⟨rfl, rfl⟩ := cons.inj hcons
      exact ⟨p, by simp [residuals], hrest⟩
    | run alphabet bound =>
      obtain ⟨taken, rest, htext, hlen, halphabet, hrest⟩ := h
      cases taken with
      | nil =>
        -- Nothing was taken from the run: the character belongs to what follows it.
        rw [nil_append] at htext
        obtain ⟨p', hmem, hmatch⟩ := ih (htext ▸ hrest)
        refine ⟨p', ?_, hmatch⟩
        cases bound with
        | zero => exact hmem
        | succ bound =>
          rw [residuals]
          split
          · exact mem_cons_of_mem _ hmem
          · exact hmem
      | cons d taken =>
        obtain ⟨rfl, rfl⟩ := cons.inj htext
        cases bound with
        | zero => exact absurd hlen (by simp)
        | succ bound =>
          have hc : alphabet c = true := halphabet c (mem_cons_self ..)
          refine ⟨run alphabet bound :: p, ?_, .of_cons_run hlen halphabet hrest⟩
          rw [residuals, if_pos hc]
          exact mem_cons_self ..

theorem canStart_of_front (h : Matches p text) (hneedle : needle <+: text) :
    canStart needle p = true := by
  induction needle generalizing p text with
  | nil => rfl
  | cons c needle ih =>
    obtain ⟨tail, rfl⟩ := hneedle
    obtain ⟨p', hmem, hmatch⟩ := exists_residual h
    exact any_eq_true.mpr ⟨p', hmem, ih hmatch (prefix_append ..)⟩

theorem not_prefix_of_canStart (h : Matches p text) (hstart : canStart needle p = false) :
    ¬needle <+: text := fun hneedle ↦ by
  rw [canStart_of_front h hneedle] at hstart
  exact absurd hstart (by decide)

/-- Read off a run character by character: every place inside it is a place of the same run. -/
theorem Matches.run_append {motive : List Char → Prop} (hlen : taken.length ≤ bound)
    (halphabet : ∀ x ∈ taken, alphabet x = true) (hrest : Matches p rest) (hdone : motive rest)
    (hstep : ∀ c tail, Matches (run alphabet bound :: p) (c :: tail) → motive tail →
      motive (c :: tail)) : motive (taken ++ rest) := by
  induction taken with
  | nil => exact hdone
  | cons c taken ih =>
    have hshorter : taken.length ≤ bound := Nat.le_of_succ_le hlen
    exact hstep c (taken ++ rest) ⟨c :: taken, rest, rfl, hlen, halphabet, hrest⟩
      (ih hshorter fun x hx ↦ halphabet x (mem_cons_of_mem _ hx))

section

variable (h : Matches p text)

include h

theorem canContain_of_occurrence (hneedle : needle <:+: text) :
    canContain needle p = true := by
  induction p generalizing text with
  | nil =>
    rw [matches_nil.mp h, infix_nil] at hneedle
    rw [hneedle]
    rfl
  | cons item p ih =>
    rw [canContain, Bool.or_eq_true]
    cases item with
    | lit c =>
      obtain ⟨rest, rfl, hrest⟩ := h
      rcases infix_cons_iff.mp hneedle with hfront | hlater
      · exact .inl (canStart_of_front ⟨rest, rfl, hrest⟩ hfront)
      · exact .inr (ih hrest hlater)
    | run alphabet bound =>
      obtain ⟨taken, rest, rfl, hlen, halphabet, hrest⟩ := h
      refine Matches.run_append
        (motive := fun tail ↦ needle <:+: tail →
          canStart needle (run alphabet bound :: p) = true ∨ canContain needle p = true)
        hlen halphabet hrest (fun hin ↦ .inr (ih hrest hin)) ?_ hneedle
      intro c tail hmatch hnext hin
      rcases infix_cons_iff.mp hin with hfront | hlater
      · exact .inl (canStart_of_front hmatch hfront)
      · exact hnext hlater

theorem not_infix_of_canContain (hcontain : canContain needle p = false) :
    ¬needle <:+: text := fun hneedle ↦ by
  rw [canContain_of_occurrence h hneedle] at hcontain
  exact absurd hcontain (by decide)

theorem exists_of_dropLits (hdrop : dropLits needle p = some q) :
    ∃ rest, text = needle ++ rest ∧ Matches q rest := by
  induction needle generalizing p text with
  | nil => exact ⟨text, rfl, Option.some.inj hdrop ▸ h⟩
  | cons c needle ih =>
    rcases p with _ | ⟨item, p⟩
    · exact absurd hdrop (by simp [dropLits])
    cases item with
    | run alphabet bound => exact absurd hdrop (by simp [dropLits])
    | lit d =>
      rw [dropLits] at hdrop
      split at hdrop
      · rename_i hcd
        obtain ⟨tail, rfl, htail⟩ := h
        obtain ⟨rest, rfl, hrest⟩ := ih htail hdrop
        exact ⟨rest, by rw [hcd]; rfl, hrest⟩
      · cases hdrop

/-- **A needle that occurs once in the pattern is counted once in each of its texts.** -/
theorem count_eq_one (hneedle : needle ≠ [])
    (honce : occursOnce needle p = true) : count needle text = 1 := by
  induction p generalizing text with
  | nil => exact absurd honce Bool.false_ne_true
  | cons item p ih =>
    rw [occursOnce] at honce
    split at honce
    · rename_i hdrop
      obtain ⟨rest, rfl, hrest⟩ := exists_of_dropLits h hdrop
      have habsent : ¬needle <:+: rest := not_infix_of_canContain hrest (by simpa using honce)
      rw [count_self_append hneedle, count_eq_zero habsent]
    · rw [Bool.and_eq_true, Bool.not_eq_true'] at honce
      cases item with
      | lit c =>
        have hfront := not_prefix_of_canStart h honce.1
        obtain ⟨rest, rfl, hrest⟩ := h
        rw [count_cons_of_not_front hfront, ih hrest honce.2]
      | run alphabet bound =>
        obtain ⟨taken, rest, rfl, hlen, halphabet, hrest⟩ := h
        refine Matches.run_append (motive := fun tail ↦ count needle tail = 1)
          hlen halphabet hrest (ih hrest honce.2) fun c tail hmatch hnext ↦ ?_
        rw [count_cons_of_not_front (not_prefix_of_canStart hmatch honce.1), hnext]

theorem Matches.length_le : text.length ≤ maxLength p := by
  induction p generalizing text with
  | nil =>
    rw [matches_nil.mp h]
    exact Nat.le_refl 0
  | cons item p ih =>
    cases item with
    | lit c =>
      obtain ⟨rest, rfl, hrest⟩ := h
      exact Nat.succ_le_succ (ih hrest)
    | run alphabet bound =>
      obtain ⟨taken, rest, rfl, hlen, -, hrest⟩ := h
      rw [length_append]
      exact Nat.add_le_add hlen (ih hrest)

end

end Soundness

end Pattern

/-! ### Templates -/

/-- A fixed text with named holes. -/
abbrev Template (F : Type*) := List (Char ⊕ F)

namespace Template

variable {F : Type*} {value : F → List Char} {T : Template F}

/-- The fixed text. -/
def text (s : String) : Template F := s.toList.map .inl

/-- A hole. -/
def hole (f : F) : Template F := [.inr f]

/-- The text that results from filling the holes. -/
def fill (value : F → List Char) (T : Template F) : List Char :=
  T.flatMap (Sum.elim (fun c ↦ [c]) value)

/-- The pattern of all fillings with bounded runs over the holes' alphabets. -/
def pattern (alphabet : F → Char → Bool) (bound : F → ℕ) (T : Template F) : Pattern :=
  T.map (Sum.elim .lit fun f ↦ .run (alphabet f) (bound f))

@[simp]
theorem fill_nil : fill value ([] : Template F) = [] := rfl

@[simp]
theorem fill_append (T T' : Template F) : fill value (T ++ T') = fill value T ++ fill value T' :=
  flatMap_append

@[simp]
theorem fill_inl_cons (c : Char) (T : Template F) :
    fill value (.inl c :: T) = c :: fill value T := rfl

@[simp]
theorem fill_inr_cons (f : F) (T : Template F) :
    fill value (.inr f :: T) = value f ++ fill value T := rfl

@[simp]
theorem fill_text (s : String) : fill value (text s : Template F) = s.toList := by
  rw [fill, text, flatMap_map]
  exact flatMap_singleton' s.toList

@[simp]
theorem fill_hole (f : F) : fill value (hole f) = value f := by
  rw [hole, fill_inr_cons, fill_nil, append_nil]

theorem matches_pattern {alphabet : F → Char → Bool} {bound : F → ℕ}
    (hlen : ∀ f, (value f).length ≤ bound f)
    (halphabet : ∀ f, ∀ c ∈ value f, alphabet f c = true) (T : Template F) :
    (pattern alphabet bound T).Matches (fill value T) := by
  induction T with
  | nil => rfl
  | cons piece T ih =>
    cases piece with
    | inl c => exact ⟨fill value T, rfl, ih⟩
    | inr f => exact ⟨value f, fill value T, rfl, hlen f, halphabet f, ih⟩

/-- A property of characters that the fixed ones and all values have. -/
theorem forall_mem_fill {P : Char → Prop} (hlit : ∀ c, Sum.inl c ∈ T → P c)
    (hvalue : ∀ f, ∀ c ∈ value f, P c) : ∀ c ∈ fill value T, P c := by
  intro c hc
  obtain ⟨piece, hpiece, hmem⟩ := mem_flatMap.mp hc
  cases piece with
  | inl d =>
    rw [Sum.elim_inl, mem_singleton] at hmem
    exact hmem ▸ hlit d hpiece
  | inr f => exact hvalue f c hmem

/-! ### Laid out lines -/

/-- Lines with their indentation, each ended by a line feed. -/
def layout (lines : List (ℕ × Template F)) : Template F :=
  lines.flatMap fun line ↦ List.replicate line.1 (.inl ' ') ++ line.2 ++ [.inl '\n']

theorem layout_cons (line : ℕ × Template F) (lines : List (ℕ × Template F)) :
    layout (line :: lines) =
      List.replicate line.1 (.inl ' ') ++ line.2 ++ [.inl '\n'] ++ layout lines :=
  flatMap_cons

theorem fill_replicate (n : ℕ) (c : Char) :
    fill value (List.replicate n (.inl c)) = List.replicate n c := by
  induction n with
  | zero => rfl
  | succ n ih => rw [replicate_succ, fill_inl_cons, ih, replicate_succ]

/-- No white space at the piece. -/
def solidPiece : Char ⊕ F → Bool
  | .inl c => !isSpace c
  | .inr _ => true

/-- The line neither starts nor ends with white space and holds no line boundary. -/
def tidy (T : Template F) : Bool :=
  T.head?.all solidPiece && T.getLast?.all solidPiece &&
    T.all (Sum.elim (fun c ↦ !isLineBreak c) fun _ ↦ true)

/-- The values of the holes are words: not empty and without white space. -/
def Words (value : F → List Char) : Prop :=
  ∀ f, value f ≠ [] ∧ ∀ c ∈ value f, isSpace c = false

variable {lines : List (ℕ × Template F)}

section

variable (hvalue : Words value)

include hvalue

theorem head?_fill (hhead : T.head?.all solidPiece = true) :
    ∀ c ∈ (fill value T).head?, isSpace c = false := by
  intro c hc
  cases T with
  | nil => cases hc
  | cons piece T =>
    cases piece with
    | inl d =>
      rw [fill_inl_cons, head?_cons, Option.mem_some_iff] at hc
      simpa [solidPiece, hc] using hhead
    | inr f =>
      have hmem : c ∈ value f := by
        rw [fill_inr_cons, head?_append_of_ne_nil _ (hvalue f).1] at hc
        exact mem_of_mem_head? hc
      exact (hvalue f).2 c hmem

theorem getLast?_fill (hlast : T.getLast?.all solidPiece = true) :
    ∀ c ∈ (fill value T).getLast?, isSpace c = false := by
  intro c hc
  rcases eq_nil_or_concat T with rfl | ⟨T, piece, rfl⟩
  · cases hc
  rw [concat_eq_append] at hc hlast
  rw [getLast?_concat] at hlast
  cases piece with
  | inl d =>
    rw [fill_append, fill_inl_cons, fill_nil, getLast?_concat, Option.mem_some_iff] at hc
    simpa [solidPiece, hc] using hlast
  | inr f =>
    have hmem : c ∈ value f := by
      rw [fill_append, fill_inr_cons, fill_nil, append_nil,
        getLast?_append_of_ne_nil _ (hvalue f).1] at hc
      exact mem_of_mem_getLast? hc
    exact (hvalue f).2 c hmem

theorem fill_eq_nil_iff : fill value T = [] ↔ T = [] := by
  constructor
  · intro hnil
    cases T with
    | nil => rfl
    | cons piece T =>
      cases piece with
      | inl c => cases hnil
      | inr f => exact absurd (append_eq_nil_iff.mp hnil).1 (hvalue f).1
  · rintro rfl
    rfl

/-- No line boundary stands inside a filled line. -/
theorem isLineBreak_fill (htidy : tidy T = true) :
    ∀ c ∈ fill value T, isLineBreak c = false := by
  rw [tidy, Bool.and_eq_true, all_eq_true] at htidy
  refine forall_mem_fill (fun c hc ↦ ?_) fun f c hc ↦ ?_
  · simpa using htidy.2 _ hc
  · by_contra hbreak
    rw [Bool.not_eq_false] at hbreak
    exact absurd ((hvalue f).2 c hc) (by rw [isSpace_of_isLineBreak hbreak]; decide)

/-- **The lines of a laid out document are its filled lines.** -/
theorem strippedLines_layout
    (htidy : lines.all (fun line ↦ tidy line.2) = true) :
    strippedLines (fill value (layout lines)) =
      ((lines.map Prod.snd).filter (· ≠ [])).map (fill value) := by
  have hnil : (fun T : Template F ↦ decide (fill value T ≠ [])) = fun T ↦ decide (T ≠ []) := by
    funext T
    exact decide_eq_decide.mpr (not_congr (fill_eq_nil_iff hvalue))
  rw [strippedLines, ← hnil]
  refine Eq.trans (congrArg (filter _) ?_) filter_map
  induction lines with
  | nil => rfl
  | cons line lines ih =>
    rw [all_cons, Bool.and_eq_true] at htidy
    have hbreaks : ∀ c ∈ replicate line.1 ' ' ++ fill value line.2, isLineBreak c = false := by
      intro c hc
      rcases mem_append.mp hc with hindent | hbody
      · rw [eq_of_mem_replicate hindent]
        decide
      · exact isLineBreak_fill hvalue htidy.1 c hbody
    have hfill : fill value (layout (line :: lines)) =
        replicate line.1 ' ' ++ fill value line.2 ++ '\n' :: fill value (layout lines) := by
      rw [layout_cons, fill_append, fill_append, fill_append, fill_replicate, fill_inl_cons, fill_nil,
        append_assoc _ ['\n'], singleton_append]
    have hends := htidy.1
    rw [tidy, Bool.and_eq_true, Bool.and_eq_true] at hends
    rw [hfill, splitLines_append_newline hbreaks, map_cons, map_cons, map_cons,
      ih htidy.2, stripChars_replicate_append (head?_fill hvalue hends.1.1)
        (getLast?_fill hvalue hends.1.2)]

end

end Template

end Kaya
