import Kaya.Migration.Values

/-!
# The text determines the row

Every piece of the text of a row tells where it ends: a quoted text by its escapes, a number by the
delimiter after it, a dictionary by its closing brace. A dictionary determines its value, unless it
is a `Decimal`, which is rounded to the precision of the context. So the text of a stream of rows
determines the rows (`streamText_inj`).
-/

namespace Kaya.Migration

open List
open Function (Injective)

/-! ### Texts of values -/

theorem isPrefixCode_decimal (width : ℕ) :
    IsPrefixCode fun n : Fin (10 ^ width) ↦ fixedDigits 10 width n :=
  isPrefixCode_fixedDigits width (by decide) (by decide)

theorem isPrefixCode_isoformat : IsPrefixCode PyDate.isoformat := by
  rintro ⟨y, m, d⟩ ⟨y', m', d'⟩ rest rest' - - h
  rw [PyDate.isoformat, PyDate.isoformat, append_assoc, append_assoc, cons_append,
    cons_append, append_assoc, append_assoc, cons_append, cons_append] at h
  obtain ⟨rfl, hmonth⟩ := isPrefixCode_decimal 4 y y' _ _ trivial trivial h
  obtain ⟨rfl, hday⟩ := isPrefixCode_decimal 2 m m' _ _ trivial trivial (cons.inj hmonth).2
  obtain ⟨rfl, hrest⟩ := isPrefixCode_decimal 2 d d' _ _ trivial trivial (cons.inj hday).2
  exact ⟨rfl, hrest⟩

theorem datetime_isoformat_injective : Injective PyDateTime.isoformat := by
  rintro ⟨date, h, m, s, us⟩ ⟨date', h', m', s', us'⟩ heq
  obtain ⟨rfl, hhour⟩ := isPrefixCode_isoformat date date' _ _ trivial trivial heq
  obtain ⟨rfl, hminute⟩ := isPrefixCode_decimal 2 h h' _ _ trivial trivial (cons.inj hhour).2
  obtain ⟨rfl, hsecond⟩ :=
    isPrefixCode_decimal 2 m m' _ _ trivial trivial (cons.inj hminute).2
  obtain ⟨rfl, hmicro⟩ := isPrefixCode_decimal 2 s s' _ _ trivial trivial (cons.inj hsecond).2
  obtain rfl : us = us' := (isPrefixCode_decimal 6).injective (cons.inj hmicro).2
  rfl

/-- A sign before a text that has none. -/
theorem sign_append_inj {n m : Bool} {text text' : List Char} (h : text.head? ≠ some '-')
    (h' : text'.head? ≠ some '-')
    (heq : (if n then ['-'] else []) ++ text = (if m then ['-'] else []) ++ text') :
    n = m ∧ text = text' := by
  cases n <;> cases m
  · exact ⟨rfl, heq⟩
  · have heq' : text = '-' :: text' := heq
    exact absurd (by rw [heq']; rfl) h
  · have heq' : text' = '-' :: text := heq.symm
    exact absurd (by rw [heq']; rfl) h'
  · exact ⟨rfl, (cons.inj heq).2⟩

theorem head_magnitude (exponent : Fin 2047) (fraction : Fin (16 ^ 13)) :
    (magnitude exponent fraction).head? = some '0' := by
  rw [magnitude]
  split
  · split
    · rfl
    · rfl
  · rfl

variable {e e' : Fin 2047} {α : Type*} {v v' : Value}

theorem exponent_inj
    (h : (if 1023 ≤ e.val then '+' :: Nat.toDigits 10 (e - 1023)
        else '-' :: Nat.toDigits 10 (1023 - e)) =
      if 1023 ≤ e'.val then '+' :: Nat.toDigits 10 (e' - 1023)
        else '-' :: Nat.toDigits 10 (1023 - e')) : e = e' := by
  refine Fin.ext ?_
  split at h
  · split at h
    · have hdigits := toDigits_injective (cons.inj h).2
      omega
    · exact absurd (cons.inj h).1 (by decide)
  · split at h
    · exact absurd (cons.inj h).1 (by decide)
    · have hdigits := toDigits_injective (cons.inj h).2
      omega

/-- The digit before the point. -/
theorem magnitude_lead (e : Fin 2047) (f : Fin (16 ^ 13)) :
    (magnitude e f)[2]? = some (if e = 0 then '0' else '1') := by
  rw [magnitude]
  split
  · split
    · rfl
    · rfl
  · rfl

theorem magnitude_inj {f f' : Fin (16 ^ 13)} (h : magnitude e f = magnitude e' f') :
    e = e' ∧ f = f' := by
  have hfraction : IsPrefixCode fun n : Fin (16 ^ 13) ↦ fixedDigits 16 13 n :=
    isPrefixCode_fixedDigits 13 (by decide) (by decide)
  have hlead := congrArg (·[2]?) h
  simp only [magnitude_lead, Option.some.injEq] at hlead
  rw [magnitude, magnitude] at h
  split at h
  next he =>
    rw [if_pos he] at hlead
    split at hlead
    next he' =>
      rw [if_pos he'] at h
      refine ⟨he.trans he'.symm, ?_⟩
      split at h
      next hf =>
        split at h
        next hf' => exact hf.trans hf'.symm
        next => exact absurd (congrArg length h) (by simp [fixedDigits_length])
      next =>
        split at h
        next => exact absurd (congrArg length h) (by simp [fixedDigits_length])
        next =>
          rw [append_assoc, append_assoc] at h
          exact (hfraction f f' _ _ trivial trivial (append_cancel_left h)).1
    next => exact absurd hlead (by decide)
  next he =>
    rw [if_neg he] at hlead
    split at hlead
    next => exact absurd hlead (by decide)
    next he' =>
      rw [if_neg he', append_assoc, append_assoc] at h
      obtain ⟨hf, hexponent⟩ := hfraction f f' _ _ trivial trivial (append_cancel_left h)
      exact ⟨exponent_inj (cons.inj hexponent).2, hf⟩

theorem hex_injective : Injective PyFloat.hex := by
  have hinf : ("inf".toList).head? ≠ some '-' := by decide
  have hfinite : ∀ e f, (magnitude e f).head? ≠ some '-' := fun e f ↦ by
    rw [head_magnitude]
    decide
  intro x x' h
  cases x with
  | nan =>
    cases x' with
    | nan => rfl
    | infinite n => cases n <;> exact absurd h (by decide)
    | finite n e f =>
      have hn := sign_append_inj (n := false) (by decide) (hfinite e f) h
      exact absurd (congrArg head? hn.2) (by rw [head_magnitude]; decide)
  | infinite n =>
    cases x' with
    | nan => cases n <;> exact absurd h (by decide)
    | infinite n' => rw [(sign_append_inj hinf hinf h).1]
    | finite n' e f =>
      have hn := sign_append_inj hinf (hfinite e f) h
      exact absurd (congrArg head? hn.2) (by rw [head_magnitude]; decide)
  | finite n e f =>
    cases x' with
    | nan =>
      have hn := sign_append_inj (m := false) (hfinite e f) (by decide) h
      exact absurd (congrArg head? hn.2) (by rw [head_magnitude]; decide)
    | infinite n' =>
      have hn := sign_append_inj (hfinite e f) hinf h
      exact absurd (congrArg head? hn.2) (by rw [head_magnitude]; decide)
    | finite n' e' f' =>
      obtain ⟨rfl, htext⟩ := sign_append_inj (hfinite e f) (hfinite e' f') h
      obtain ⟨rfl, rfl⟩ := magnitude_inj htext
      rfl

/-! ### Quoted texts -/

theorem shortEscapes_inj : ∀ p ∈ shortEscapes, ∀ q ∈ shortEscapes, p.2 = q.2 → p = q := by decide

theorem shortEscapes_ne : ∀ p ∈ shortEscapes, p.2 ≠ 'u' := by decide

/-- A character is written as itself, or begins with a backslash. -/
theorem escape_cases (c : Char) :
    (∃ p ∈ shortEscapes, p.1 = c ∧ escape c = ['\\', p.2]) ∨
      (c.toNat < 32 ∧ escape c = '\\' :: 'u' :: fixedDigits 16 4 c.toNat) ∨
      (escape c = [c] ∧ c ≠ '\\' ∧ c ≠ '"') := by
  rw [escape]
  cases h : shortEscapes.find? (·.1 = c) with
  | some p =>
    have hp := find?_some h
    exact .inl ⟨p, mem_of_find?_eq_some h, of_decide_eq_true hp, rfl⟩
  | none =>
    have hne : ∀ p ∈ shortEscapes, p.1 ≠ c := fun p hp ↦ by
      simpa using find?_eq_none.1 h p hp
    rcases lt_or_ge c.toNat 32 with hc | hc
    · exact .inr (.inl ⟨hc, if_pos hc⟩)
    · exact .inr (.inr ⟨if_neg (not_lt.2 hc), Ne.symm (hne ('\\', '\\') (by decide)),
        Ne.symm (hne ('"', '"') (by decide))⟩)

theorem isPrefixCode_escape : IsPrefixCode escape := by
  intro c c' rest rest' _ _ h
  rcases escape_cases c with ⟨p, hp, rfl, hc⟩ | ⟨hlt, hc⟩ | ⟨hc, hslash, hquote⟩
  · rcases escape_cases c' with ⟨p', hp', rfl, hc'⟩ | ⟨hlt', hc'⟩ | ⟨hc', hslash', hquote'⟩
    all_goals rw [hc, hc'] at h
    · obtain ⟨hsecond, hrest⟩ := cons.inj (cons.inj h).2
      exact ⟨congrArg Prod.fst (shortEscapes_inj p hp p' hp' hsecond), hrest⟩
    · exact absurd (cons.inj (cons.inj h).2).1 (shortEscapes_ne p hp)
    · exact absurd (cons.inj h).1.symm hslash'
  · rcases escape_cases c' with ⟨p', hp', rfl, hc'⟩ | ⟨hlt', hc'⟩ | ⟨hc', hslash', hquote'⟩
    all_goals rw [hc, hc'] at h
    · exact absurd (cons.inj (cons.inj h).2).1.symm (shortEscapes_ne p' hp')
    · have hdigits := (cons.inj (cons.inj h).2).2
      obtain ⟨hword, hrest⟩ := append_inj hdigits
        ((fixedDigits_length _ _ _).trans (fixedDigits_length _ _ _).symm)
      have hnat := fixedDigits_inj (by decide) (by decide) (hlt.trans (by decide))
        (hlt'.trans (by decide)) hword
      exact ⟨Char.ext (UInt32.toNat_inj.1 hnat), hrest⟩
    · exact absurd (cons.inj h).1.symm hslash'
  · rcases escape_cases c' with ⟨p', hp', rfl, hc'⟩ | ⟨hlt', hc'⟩ | ⟨hc', hslash', hquote'⟩
    all_goals rw [hc, hc'] at h
    · exact absurd (cons.inj h).1 hslash
    · exact absurd (cons.inj h).1 hslash
    · exact cons.inj h

theorem escape_append_ne (c : Char) (rest rest' : List Char) : escape c ++ rest ≠ '"' :: rest' := by
  intro h
  rcases escape_cases c with ⟨p, -, -, hc⟩ | ⟨-, hc⟩ | ⟨hc, -, hquote⟩
  · rw [hc] at h
    exact absurd (cons.inj h).1 (by decide)
  · rw [hc] at h
    exact absurd (cons.inj h).1 (by decide)
  · rw [hc] at h
    exact hquote (cons.inj h).1

theorem isPrefixCode_stringText : IsPrefixCode stringText := by
  have hchars : IsPrefixCode fun s : List Char ↦ s.flatMap escape ++ ['"'] :=
    isPrefixCode_escape.flatMap (fun c rest rest' ↦ escape_append_ne c rest rest')
      (fun _ ↦ trivial) fun _ _ ↦ trivial
  exact hchars.const_append ['"']

/-! ### Dictionaries -/

/-- A value of a dictionary is followed by a comma or a brace. -/
def IsDelimiter (c : Char) : Prop := c = ',' ∨ c = '}'

theorem isCode_scalarText : IsCode (StartsIn IsDelimiter) scalarText := by
  have hdigits : IsCode (StartsIn IsDelimiter) (Nat.toDigits 10) := by
    refine isCode_toDigits fun c hstop ↦ ?_
    rcases hstop with rfl | rfl <;> decide
  have hquote : ∀ b rest text, scalarText (.bool b) ++ rest ≠ '"' :: text := by
    intro b rest text h
    cases b <;> exact absurd (cons.inj h).1 (by decide)
  have hbool : ∀ b n rest rest', scalarText (.bool b) ++ rest ≠ scalarText (.int n) ++ rest' := by
    intro b n rest rest' h
    cases b <;> exact toDigits_append_ne (by decide) h.symm
  intro a a' rest rest' hrest hrest' h
  cases a with
  | bool b =>
    cases a' with
    | bool b' =>
      cases b <;> cases b'
      · exact ⟨rfl, append_cancel_left h⟩
      · exact absurd (cons.inj h).1 (by decide)
      · exact absurd (cons.inj h).1 (by decide)
      · exact ⟨rfl, append_cancel_left h⟩
    | int n => exact absurd h (hbool b n _ _)
    | str s => exact absurd h (hquote b _ _)
  | int n =>
    cases a' with
    | bool b => exact absurd h.symm (hbool b n _ _)
    | int n' =>
      obtain ⟨rfl, hrests⟩ := hdigits n n' rest rest' hrest hrest' h
      exact ⟨rfl, hrests⟩
    | str s => exact absurd h (toDigits_append_ne (by decide))
  | str s =>
    cases a' with
    | bool b => exact absurd h.symm (hquote b _ _)
    | int n => exact absurd h.symm (toDigits_append_ne (by decide))
    | str s' =>
      obtain ⟨rfl, hrests⟩ := isPrefixCode_stringText s s' rest rest' trivial trivial h
      exact ⟨rfl, hrests⟩

section Objects

variable {α : Type*} {valueText : α → List Char}

theorem isCode_fieldText (h : IsCode (StartsIn IsDelimiter) valueText) :
    IsCode (StartsIn IsDelimiter) (fieldText valueText) := by
  have hkey : IsPrefixCode fun key : String ↦ stringText key.toList :=
    isPrefixCode_stringText.comp fun _ _ h ↦ String.toList_injective h
  have hfield := hkey.append (h.const_append ": ".toList) fun _ _ _ ↦ trivial
  exact hfield

/-- A dictionary tells where it ends, whatever its fields. -/
theorem isPrefixCode_fieldsText (h : IsCode (StartsIn IsDelimiter) valueText) :
    IsPrefixCode (fieldsText valueText) := by
  have hfields : IsPrefixCode fun fields : List (String × α) ↦
      fields.flatMap (fun field ↦ ", ".toList ++ fieldText valueText field) ++ ['}'] := by
    refine ((isCode_fieldText h).const_append ", ".toList).flatMap (fun field rest rest' heq ↦ ?_)
      (fun _ ↦ startsIn_cons.2 (.inr rfl)) fun _ _ ↦ startsIn_cons.2 (.inl rfl)
    exact absurd (cons.inj heq).1 (by decide)
  have hdelimited : ∀ (fields : List (String × α)) rest, StartsIn IsDelimiter
      (fields.flatMap (fun field ↦ ", ".toList ++ fieldText valueText field) ++ ['}'] ++ rest) := by
    rintro (_ | ⟨field, fields⟩) rest
    · exact startsIn_cons.2 (.inr rfl)
    · exact startsIn_cons.2 (.inl rfl)
  have hcons := ((isCode_fieldText h).append hfields fun fields rest _ ↦
    hdelimited fields rest).const_append ['{']
  intro fields fields' rest rest' _ _ heq
  cases fields with
  | nil =>
    cases fields' with
    | nil => exact ⟨rfl, append_cancel_left heq⟩
    | cons field' fields' =>
      exact absurd (cons.inj (cons.inj heq).2).1 (by decide)
  | cons field fields =>
    cases fields' with
    | nil => exact absurd (cons.inj (cons.inj heq).2).1 (by decide)
    | cons field' fields' =>
      obtain ⟨hpair, hrests⟩ :=
        hcons (field, fields) (field', fields') rest rest' trivial trivial heq
      obtain ⟨rfl, rfl⟩ := Prod.mk.inj hpair
      exact ⟨rfl, hrests⟩

end Objects

/-! ### Rows -/

theorem sortKeys_perm (fields : List (String × α)) : (sortKeys fields).Perm fields :=
  perm_insertionSort _ _

theorem fieldsText_comp {β : Type*} (valueText : β → List Char) (f : α → β)
    (fields : List (String × α)) :
    fieldsText (fun a ↦ valueText (f a)) fields =
      fieldsText valueText (fields.map (Prod.map id f)) := by
  cases fields with
  | nil => rfl
  | cons field fields =>
    rw [map_cons, fieldsText, fieldsText, flatMap_map]
    rfl

variable {lib : Parsing} {sha256 : List UInt8 → List Char}

/-- The `type` of a cell. -/
def tag : Value → String
  | .none => "null"
  | .bool _ => "boolean"
  | .int _ => "integer"
  | .float _ => "float"
  | .decimal _ => "numeric"
  | .datetime _ => "datetime"
  | .date _ => "date"
  | .bytes _ => "binary"
  | .str _ => "text"

/-- The rest of a cell. -/
def payload (lib : Parsing) (sha256 : List UInt8 → List Char) (v : Value) :
    List (String × Scalar) :=
  (canonical lib sha256 v).tail

theorem canonical_eq (v : Value) :
    canonical lib sha256 v = ("type", .str (tag v).toList) :: payload lib sha256 v := by
  cases v <;> rfl

theorem type_not_mem_payload (v : Value) (a : Scalar) : ("type", a) ∉ payload lib sha256 v := by
  cases v <;> simp [payload, canonical]

/-- Values with one tag and one payload are equal, unless they are a `Decimal`. -/
theorem payload_inj (hsha : Injective sha256) (hv : ∀ d, v ≠ .decimal d) (htag : tag v = tag v')
    (h : (payload lib sha256 v).Perm (payload lib sha256 v')) : v = v' := by
  have hvalue : ∀ {a a' : Scalar}, [("value", a)].Perm [("value", a')] → a = a' := fun hperm ↦
    (Prod.mk.inj (singleton_perm_singleton.1 hperm)).2
  have htext : ∀ {s s' : List Char}, [("value", Scalar.str s)].Perm [("value", .str s')] →
      s = s' := fun hperm ↦ Scalar.str.inj (hvalue hperm)
  cases v <;> cases v' <;> simp only [tag, String.reduceEq] at htag
  case none.none => rfl
  case bool.bool => rw [Scalar.bool.inj (hvalue h)]
  case int.int => rw [intText_injective (htext h)]
  case float.float => rw [hex_injective (htext h)]
  case decimal.decimal d _ => exact absurd rfl (hv d)
  case datetime.datetime => rw [datetime_isoformat_injective (htext h)]
  case date.date => rw [isPrefixCode_isoformat.injective (htext h)]
  case bytes.bytes b b' =>
    have hmem : ("sha256", Scalar.str (sha256 b)) ∈ payload lib sha256 (.bytes b') :=
      h.mem_iff.1 mem_cons_self
    have heq : sha256 b = sha256 b' := by simpa [payload, canonical] using hmem
    rw [hsha heq]
  case str.str => rw [String.toList_injective (htext h)]

/-- The dictionary of a cell determines its value, if this is no `Decimal`. -/
theorem canonical_inj (hsha : Injective sha256) (hv : ∀ d, v ≠ .decimal d)
    (h : (canonical lib sha256 v).Perm (canonical lib sha256 v')) : v = v' := by
  rw [canonical_eq, canonical_eq] at h
  have hmem := h.mem_iff.1 mem_cons_self
  have htag : tag v = tag v' := by
    rcases mem_cons.1 hmem with heq | hmem
    · exact String.toList_injective (Scalar.str.inj (Prod.mk.inj heq).2)
    · exact absurd hmem (type_not_mem_payload v' _)
  rw [htag] at h
  exact payload_inj hsha hv htag h.cons_inv

/-- Values under the same different names, in any order. -/
theorem zip_inj {names : List String} (hnames : names.Nodup) {values values' : List α}
    (hlen : values.length = names.length) (hlen' : values'.length = names.length)
    (h : (names.zip values).Perm (names.zip values')) : values = values' := by
  induction names generalizing values values' with
  | nil =>
    rw [length_eq_zero_iff.1 hlen, length_eq_zero_iff.1 hlen']
  | cons name names ih =>
    obtain ⟨hmem, hnames⟩ := nodup_cons.1 hnames
    obtain ⟨a, values, rfl⟩ := exists_of_length_succ values hlen
    obtain ⟨a', values', rfl⟩ := exists_of_length_succ values' hlen'
    rw [zip_cons_cons, zip_cons_cons] at h
    have ha : a = a' := by
      rcases mem_cons.1 (h.mem_iff.1 mem_cons_self) with heq | hzip
      · exact (Prod.mk.inj heq).2
      · exact absurd (of_mem_zip hzip).1 hmem
    subst ha
    rw [ih hnames (Nat.succ_injective hlen) (Nat.succ_injective hlen') h.cons_inv]

variable {columns : List Column}

/-- The sorted fields of a row. -/
def rowFields (lib : Parsing) (sha256 : List UInt8 → List Char) (columns : List Column)
    (row : List Value) : List (String × List (String × Scalar)) :=
  (sortKeys ((columns.map (·.name)).zip (row.map (canonical lib sha256)))).map
    (Prod.map id sortKeys)

theorem rowText_eq (row : List Value) : rowText lib sha256 columns row =
    fieldsText (fieldsText scalarText) (rowFields lib sha256 columns row) :=
  fieldsText_comp (fieldsText scalarText) sortKeys _

theorem rowFields_perm (row : List Value) : (rowFields lib sha256 columns row).Perm
    ((columns.map (·.name)).zip (row.map fun v ↦ sortKeys (canonical lib sha256 v))) := by
  have hperm := (sortKeys_perm ((columns.map (·.name)).zip
    (row.map (canonical lib sha256)))).map (Prod.map id sortKeys)
  rwa [← zip_map, map_id, map_map] at hperm

/-- A row of cells that PostgreSQL stores. -/
structure IsStored (columns : List Column) (row : List Value) : Prop where
  length : row.length = columns.length
  noDecimal : ∀ v ∈ row, ∀ d, v ≠ .decimal d

theorem rowFields_inj (hsha : Injective sha256) (hcolumns : (columns.map (·.name)).Nodup)
    {row row' : List Value} (hrow : IsStored columns row) (hlen : row'.length = columns.length)
    (h : rowFields lib sha256 columns row = rowFields lib sha256 columns row') : row = row' := by
  have hperm := (rowFields_perm row).symm.trans (h ▸ rowFields_perm row')
  have hvalues := zip_inj hcolumns (by simpa using hrow.length) (by simpa using hlen) hperm
  have hcells : ∀ row' : List Value, (row.map fun v ↦ sortKeys (canonical lib sha256 v)) =
      (row'.map fun v ↦ sortKeys (canonical lib sha256 v)) → row = row' := by
    have hdecimal := hrow.noDecimal
    clear hrow hperm hvalues h
    induction row with
    | nil => exact fun row' h ↦ (map_eq_nil_iff.1 h.symm).symm
    | cons v row ih =>
      rintro (_ | ⟨v', row'⟩) h
      · exact absurd h (by simp)
      · obtain ⟨hcell, hrest⟩ := cons.inj h
        replace hcell : sortKeys (canonical lib sha256 v) = sortKeys (canonical lib sha256 v') :=
          hcell
        have hdict : (canonical lib sha256 v).Perm (canonical lib sha256 v') :=
          (sortKeys_perm _).symm.trans (hcell ▸ sortKeys_perm _)
        rw [canonical_inj hsha (hdecimal v mem_cons_self) hdict,
          ih (fun v hv ↦ hdecimal v (mem_cons_of_mem _ hv)) row' hrest]
  exact hcells row' hvalues

/-- The text of a row tells where it ends. -/
theorem isPrefixCode_rowFields : IsPrefixCode fun fields ↦
    fieldsText (fieldsText scalarText) fields ++ ['\n'] := by
  have hcell : IsPrefixCode (fieldsText scalarText) := isPrefixCode_fieldsText isCode_scalarText
  exact (isPrefixCode_fieldsText hcell.isCode).append_const fun _ _ ↦ trivial

/-- The rows that are hashed, one on a line. -/
def streamText (lib : Parsing) (sha256 : List UInt8 → List Char) (columns : List Column)
    (rows : List (List Value)) : List Char :=
  rows.flatMap fun row ↦ rowText lib sha256 columns row ++ ['\n']

theorem streamText_cons (cells : List Value) (rest : List (List Value)) :
    streamText lib sha256 columns (cells :: rest) =
      (rowText lib sha256 columns cells ++ ['\n']) ++ streamText lib sha256 columns rest :=
  flatMap_cons

theorem streamText_inj (hsha : Injective sha256) (hcolumns : (columns.map (·.name)).Nodup)
    {rows rows' : List (List Value)} (hrows : ∀ row ∈ rows, IsStored columns row)
    (hlen : ∀ row ∈ rows', row.length = columns.length)
    (h : streamText lib sha256 columns rows = streamText lib sha256 columns rows') :
    rows = rows' := by
  have hstream : ∀ rows, streamText lib sha256 columns rows =
      (rows.map (rowFields lib sha256 columns)).flatMap fun fields ↦
        fieldsText (fieldsText scalarText) fields ++ ['\n'] := by
    intro rows
    simp only [streamText, rowText_eq, flatMap_map]
  rw [hstream, hstream] at h
  have hfields := isPrefixCode_rowFields.flatMap_injective (fun _ ↦ by simp) h
  clear h
  induction rows generalizing rows' with
  | nil => exact (map_eq_nil_iff.1 hfields.symm).symm
  | cons row rows ih =>
    obtain _ | ⟨row', rows'⟩ := rows'
    · exact absurd hfields (by simp)
    · obtain ⟨hrow, hrest⟩ := cons.inj hfields
      rw [rowFields_inj hsha hcolumns (hrows row mem_cons_self)
          (hlen row' mem_cons_self) hrow, ih (fun row hrow ↦ hrows row (mem_cons_of_mem _ hrow))
          (fun row hrow ↦ hlen row (mem_cons_of_mem _ hrow)) hrest]

end Kaya.Migration
