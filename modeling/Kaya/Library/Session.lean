import Kaya.Library.Ledger

/-!
# A table under an object session that does not flush by itself

An object-relational session with automatic flushing turned off. A table is written in three ways
and they do not see each other in the same way.

* SQL statements (`upsert`, `deleteWhere`) act on the rows of the transaction at once.
* An object that was loaded from a row (`first?`) is edited in memory (`edit`). A later query
  selects the row by its **stored** columns and returns the object with its edits.
* A new object (`add`) is pending. **No query sees it** before a flush.

`flush` writes the edits back and inserts the pending objects one after another. It fails when a
pending object repeats a unique key, and when the row of an edited object is no longer there because
a statement deleted it.
-/

namespace Kaya

open List

/-- A row of the transaction, with the unflushed edit of the object loaded from it, if any. -/
structure Tracked (ρ : Type*) where
  stored : ρ
  edit : Option ρ := none

/-- The row as its object shows it. -/
def Tracked.value {ρ : Type*} (t : Tracked ρ) : ρ := t.edit.getD t.stored

/-- A table as one session sees it. -/
structure SessionTable (ρ : Type*) where
  /-- The rows of the transaction. -/
  rows : List (Tracked ρ)
  /-- New objects that no flush has written. -/
  pending : List ρ := []
  /-- A statement deleted the row of an edited object. -/
  lost : Bool := false

namespace SessionTable

variable {ρ κ : Type*}

/-- A session that begins on committed rows. -/
def ofRows (rows : List ρ) : SessionTable ρ := { rows := rows.map fun r ↦ { stored := r } }

variable (t : SessionTable ρ) {unique : ρ → Option κ} {row : Tracked ρ}

/-- What a flush would leave: the rows with their edits, then the new objects. -/
def values : List ρ := t.rows.map Tracked.value ++ t.pending

/-- `query.filter(p).first()`. -/
def first? (p : ρ → Bool) : Option ρ := (t.rows.find? fun row ↦ p row.stored).map Tracked.value

/-- Edit the object of the first row that satisfies `p`. -/
def edit (p : ρ → Bool) (f : ρ → ρ) : SessionTable ρ :=
  { t with rows := go t.rows }
where
  /-- Edit in a list of rows. -/
  go : List (Tracked ρ) → List (Tracked ρ)
    | [] => []
    | row :: rows =>
      if p row.stored then { row with edit := some (f row.value) } :: rows else row :: go rows

/-- `session.add`. -/
def add (r : ρ) : SessionTable ρ := { t with pending := t.pending ++ [r] }

/-- `INSERT … ON CONFLICT DO UPDATE`, executed on the stored rows. -/
def upsert (conflict : ρ → Bool) (merge : ρ → ρ) (r : ρ) : SessionTable ρ :=
  { t with rows := go t.rows }
where
  /-- Upsert in a list of rows. -/
  go : List (Tracked ρ) → List (Tracked ρ)
    | [] => [{ stored := r }]
    | row :: rows =>
      if conflict row.stored then { row with stored := merge row.stored } :: rows
      else row :: go rows

/-- A bulk `DELETE` that does not synchronise the session. -/
def deleteWhere (p : ρ → Bool) : SessionTable ρ :=
  { t with
    rows := t.rows.filter fun row ↦ !p row.stored
    lost := t.lost || t.rows.any fun row ↦ p row.stored && row.edit.isSome }

/-- Insert objects one after another; a unique key may be absent (a `NULL` column). -/
def insertAll [DecidableEq κ] (unique : ρ → Option κ) (rows : List ρ) : List ρ → Option (List ρ)
  | [] => some rows
  | r :: rs =>
    if (unique r).isSome ∧ ∃ row ∈ rows, unique row = unique r then none
    else insertAll unique (rows ++ [r]) rs

/-- Write the session's changes. -/
def flush [DecidableEq κ] (unique : ρ → Option κ) : Option (List ρ) :=
  if t.lost then none else insertAll unique (t.rows.map Tracked.value) t.pending

/-! ### What a flush leaves -/

@[simp] theorem values_ofRows (rows : List ρ) : (ofRows rows).values = rows := by
  have hvalue : (Tracked.value ∘ fun r : ρ ↦ ({ stored := r } : Tracked ρ)) = id := rfl
  rw [values, ofRows, map_map, hvalue, map_id, append_nil]

theorem values_add (r : ρ) : (t.add r).values = t.values ++ [r] := by
  rw [values, values, add, append_assoc]

theorem insertAll_eq_some [DecidableEq κ] {unique : ρ → Option κ} :
    ∀ {pending rows result : List ρ}, insertAll unique rows pending = some result →
      result = rows ++ pending
  | [], rows, result, h => by rw [append_nil]; exact (Option.some.inj h).symm
  | r :: pending, rows, result, h => by
    rw [insertAll] at h
    split at h
    · cases h
    · rw [insertAll_eq_some h, append_assoc, singleton_append]

/-- **A flush that succeeds writes the values.** -/
theorem flush_eq_some [DecidableEq κ] {result : List ρ}
    (h : t.flush unique = some result) : t.lost = false ∧ result = t.values := by
  rw [flush] at h
  split at h
  · cases h
  · rename_i hlost
    exact ⟨by simpa using hlost, insertAll_eq_some h⟩

/-- Objects with pairwise different keys that no row has can all be inserted, and no others. -/
theorem insertAll_isSome_iff [DecidableEq κ] {key : ρ → κ} {pending rows : List ρ} :
    (insertAll (fun r ↦ some (key r)) rows pending).isSome ↔ (pending.map key).Nodup ∧
      ∀ r ∈ pending, ∀ row ∈ rows, key row ≠ key r := by
  induction pending generalizing rows with
  | nil => simp [insertAll]
  | cons r pending ih =>
    rw [insertAll, map_cons, nodup_cons, forall_mem_cons]
    by_cases hr : ∃ row ∈ rows, key row = key r
    · have hconflict : (some (key r)).isSome = true ∧
          ∃ row ∈ rows, some (key row) = some (key r) := by
        simpa using hr
      rw [if_pos hconflict]
      obtain ⟨row, hrow, hkey⟩ := hr
      exact ⟨(nomatch ·), fun h ↦ absurd hkey (h.2.1 row hrow)⟩
    · have hfree : ¬ ((some (key r)).isSome = true ∧
          ∃ row ∈ rows, some (key row) = some (key r)) := by simpa using hr
      rw [if_neg hfree, ih]
      have hrow : ∀ row ∈ rows, key row ≠ key r := fun row hrow h ↦ hr ⟨row, hrow, h⟩
      constructor
      · rintro ⟨hnodup, happart⟩
        refine ⟨⟨fun hmem ↦ ?_, hnodup⟩, hrow, fun r' hr' row hrow ↦ ?_⟩
        · obtain ⟨r', hr', hkey⟩ := mem_map.1 hmem
          exact happart r' hr' r (mem_append_right _ (mem_singleton_self r)) hkey.symm
        · exact happart r' hr' row (mem_append_left _ hrow)
      · rintro ⟨⟨hnotmem, hnodup⟩, -, happart⟩
        refine ⟨hnodup, fun r' hr' row hmem ↦ ?_⟩
        rcases mem_append.1 hmem with hmem | hmem
        · exact happart r' hr' row hmem
        · rw [mem_singleton.1 hmem]
          exact fun h ↦ hnotmem (h ▸ mem_map_of_mem hr')

/-- Objects without a unique key can always be inserted. -/
theorem insertAll_of_forall_none [DecidableEq κ] {pending rows : List ρ}
    (h : ∀ r ∈ pending, unique r = none) :
    insertAll unique rows pending = some (rows ++ pending) := by
  induction pending generalizing rows with
  | nil => rw [insertAll, append_nil]
  | cons r pending ih =>
    obtain ⟨hr, hrest⟩ := forall_mem_cons.1 h
    rw [insertAll, if_neg (fun h ↦ by rw [hr] at h; cases h.1), ih hrest, append_assoc,
      singleton_append]

/-! ### The rows after a write -/

/-- The rows of an edited table: the old rows, one of them with its object increased. -/
theorem mem_edit_rows {t : SessionTable ρ} {find : ρ → Bool} {f : ρ → ρ}
    (h : row ∈ (t.edit find f).rows) :
    row ∈ t.rows ∨ ∃ old ∈ t.rows, find old.stored = true ∧ row.stored = old.stored ∧
      row.edit = some (f old.value) := by
  have hgo : ∀ rows : List (Tracked ρ), row ∈ edit.go find f rows →
      row ∈ rows ∨ ∃ old ∈ rows, find old.stored = true ∧ row.stored = old.stored ∧
        row.edit = some (f old.value) := by
    intro rows
    induction rows with
    | nil => intro h; exact .inl h
    | cons first rows ih =>
      intro h
      rw [edit.go] at h
      split at h
      · rename_i hfirst
        rcases mem_cons.1 h with rfl | h
        · exact .inr ⟨first, mem_cons_self, hfirst, rfl, rfl⟩
        · exact .inl (mem_cons_of_mem _ h)
      · rcases mem_cons.1 h with rfl | h
        · exact .inl mem_cons_self
        · rcases ih h with h | ⟨old, hold, hrest⟩
          · exact .inl (mem_cons_of_mem _ h)
          · exact .inr ⟨old, mem_cons_of_mem _ hold, hrest⟩
  exact hgo t.rows h

/-- An edit changes no stored column. -/
theorem map_stored_edit (find : ρ → Bool) (f : ρ → ρ) :
    (t.edit find f).rows.map (·.stored) = t.rows.map (·.stored) := by
  have hgo : ∀ rows : List (Tracked ρ),
      (edit.go find f rows).map (·.stored) = rows.map (·.stored) := by
    intro rows
    induction rows with
    | nil => rfl
    | cons row rows ih =>
      rw [edit.go]
      split
      · rfl
      · rw [map_cons, ih, map_cons]
  exact hgo t.rows

/-- The rows of a table after an upsert: the old rows, one of them merged, or the new row. -/
theorem mem_upsert_rows {t : SessionTable ρ} {conflict : ρ → Bool} {merge : ρ → ρ}
    {r : ρ} (h : row ∈ (t.upsert conflict merge r).rows) :
    row ∈ t.rows ∨ row = { stored := r } ∨ ∃ old ∈ t.rows, conflict old.stored = true ∧
      row.stored = merge old.stored ∧ row.edit = old.edit := by
  have hgo : ∀ rows : List (Tracked ρ), row ∈ upsert.go conflict merge r rows →
      row ∈ rows ∨ row = { stored := r } ∨ ∃ old ∈ rows, conflict old.stored = true ∧
        row.stored = merge old.stored ∧ row.edit = old.edit := by
    intro rows
    induction rows with
    | nil => intro h; exact .inr (.inl (mem_singleton.1 h))
    | cons first rows ih =>
      intro h
      rw [upsert.go] at h
      split at h
      · rename_i hfirst
        rcases mem_cons.1 h with rfl | h
        · exact .inr (.inr ⟨first, mem_cons_self, hfirst, rfl, rfl⟩)
        · exact .inl (mem_cons_of_mem _ h)
      · rcases mem_cons.1 h with rfl | h
        · exact .inl mem_cons_self
        · rcases ih h with h | h | ⟨old, hold, hrest⟩
          · exact .inl (mem_cons_of_mem _ h)
          · exact .inr (.inl h)
          · exact .inr (.inr ⟨old, mem_cons_of_mem _ hold, hrest⟩)
  exact hgo t.rows h

/-! ### Totals of the values -/

section Total

variable {t} {M : Type*} [AddCommMonoid M] {p : ρ → Bool} {amount : ρ → M}

theorem total_values_add (r : ρ) : Ledger.total p amount (t.add r).values =
    Ledger.total p amount t.values + if p r then amount r else 0 := by
  rw [values_add, Ledger.total_append, Ledger.total_singleton]

theorem total_values :
    Ledger.total p amount t.values = Ledger.total p amount (t.rows.map Tracked.value) +
      Ledger.total p amount t.pending :=
  Ledger.total_append _ _

/-- An edit that adds `d` to the object of a row adds `d` to the group of that row. -/
theorem total_values_edit {find : ρ → Bool} {f : ρ → ρ} {d : M} {q : Bool}
    (hfound : (t.first? find).isSome) (hamount : ∀ v, amount (f v) = amount v + d)
    (hgroup : ∀ v, p (f v) = p v) (hq : ∀ row ∈ t.rows, find row.stored = true → p row.value = q) :
    Ledger.total p amount (t.edit find f).values =
      Ledger.total p amount t.values + if q then d else 0 := by
  have hgo : ∀ rows : List (Tracked ρ), (rows.find? fun row ↦ find row.stored).isSome →
      (∀ row ∈ rows, find row.stored = true → p row.value = q) →
      Ledger.total p amount ((edit.go find f rows).map Tracked.value) =
        Ledger.total p amount (rows.map Tracked.value) + if q then d else 0 := by
    intro rows
    induction rows with
    | nil => intro hsome; cases hsome
    | cons row rows ih =>
      intro hsome hrows
      by_cases hrow : find row.stored = true
      · have hvalue : ({ row with edit := some (f row.value) } : Tracked ρ).value = f row.value :=
          rfl
        rw [edit.go, if_pos hrow, map_cons, map_cons, Ledger.total_cons,
          Ledger.total_cons, hvalue, hgroup, hamount, hrows row mem_cons_self hrow]
        split
        · rw [add_right_comm]
        · rw [zero_add, add_zero]
      · have hskip : (row :: rows).find? (fun row ↦ find row.stored) =
            rows.find? fun row ↦ find row.stored := find?_cons_of_neg hrow
        rw [hskip] at hsome
        have ih := ih hsome fun r hr ↦ hrows r (mem_cons_of_mem _ hr)
        rw [edit.go, if_neg hrow, map_cons, map_cons, Ledger.total_cons,
          Ledger.total_cons, ih, add_assoc]
  rw [first?, Option.isSome_map] at hfound
  rw [total_values, total_values, edit, hgo t.rows hfound hq, add_right_comm]

/-- An upsert adds its amount to its group, when the row it meets carries no edit. -/
theorem total_values_upsert {conflict : ρ → Bool} {merge : ρ → ρ} {r : ρ}
    (hclean : ∀ row ∈ t.rows, conflict row.stored = true → row.edit = none)
    (hamount : ∀ v, amount (merge v) = amount v + amount r) (hgroup : ∀ v, p (merge v) = p v)
    (hq : ∀ row ∈ t.rows, conflict row.stored = true → p row.stored = p r) :
    Ledger.total p amount (t.upsert conflict merge r).values =
      Ledger.total p amount t.values + if p r then amount r else 0 := by
  have hgo : ∀ rows : List (Tracked ρ),
      (∀ row ∈ rows, conflict row.stored = true → row.edit = none) →
      (∀ row ∈ rows, conflict row.stored = true → p row.stored = p r) →
      Ledger.total p amount ((upsert.go conflict merge r rows).map Tracked.value) =
        Ledger.total p amount (rows.map Tracked.value) + if p r then amount r else 0 := by
    intro rows
    induction rows with
    | nil =>
      intro _ _
      show Ledger.total p amount [r] = _
      rw [Ledger.total_singleton, map_nil, Ledger.total_nil, zero_add]
    | cons row rows ih =>
      intro hclean hrows
      by_cases hrow : conflict row.stored = true
      · have hedit := hclean row mem_cons_self hrow
        have hold : row.value = row.stored := by rw [Tracked.value, hedit, Option.getD_none]
        have hnew : ({ row with stored := merge row.stored } : Tracked ρ).value =
            merge row.stored := by rw [Tracked.value, hedit, Option.getD_none]
        rw [upsert.go, if_pos hrow, map_cons, map_cons, Ledger.total_cons,
          Ledger.total_cons, hnew, hold, hgroup, hamount, hrows row mem_cons_self hrow]
        split
        · rw [add_right_comm]
        · rw [zero_add, add_zero]
      · have ih := ih (fun r hr ↦ hclean r (mem_cons_of_mem _ hr))
          fun r hr ↦ hrows r (mem_cons_of_mem _ hr)
        rw [upsert.go, if_neg hrow, map_cons, map_cons, Ledger.total_cons,
          Ledger.total_cons, ih, add_assoc]
  rw [total_values, total_values, upsert, hgo t.rows hclean hq, add_right_comm]

end Total

/-! ### Tables with a key

A program that looks an object up by its key and edits it, or adds a new one when the query finds
none. The two lookups of the session then disagree only about the pending objects. -/

section Keyed

/-- Replace the first element that satisfies `p`. -/
def editFirst (p : ρ → Bool) (f : ρ → ρ) : List ρ → List ρ
  | [] => []
  | r :: rs => if p r then f r :: rs else r :: editFirst p f rs

/-- The elements that satisfy `p` after an edit that keeps them so. -/
theorem filter_editFirst {p : ρ → Bool} {f : ρ → ρ} (hf : ∀ r, p (f r) = p r) (rs : List ρ) :
    (editFirst p f rs).filter p = match rs.filter p with | [] => [] | r :: rest => f r :: rest := by
  induction rs with
  | nil => rfl
  | cons r rs ih =>
    rw [editFirst]
    split
    · rename_i hr
      rw [filter_cons_of_pos ((hf r).trans hr), filter_cons_of_pos hr]
    · rename_i hr
      rw [filter_cons_of_neg hr, filter_cons_of_neg hr, ih]

variable {p q : ρ → Bool} {f : ρ → ρ}

/-- An edit outside a group leaves the group alone. -/
theorem filter_editFirst_of_disjoint (h : ∀ r, p r = true → q r = false ∧ q (f r) = false)
    (rs : List ρ) : (editFirst p f rs).filter q = rs.filter q := by
  induction rs with
  | nil => rfl
  | cons r rs ih =>
    rw [editFirst]
    split
    · rename_i hr
      rw [filter_cons_of_neg (by simp [(h r hr).2]),
        filter_cons_of_neg (by simp [(h r hr).1])]
    · rw [filter_cons, filter_cons, ih]

/-- An edit among the elements that satisfy `q` is the same edit, when the first element to edit
satisfies `q`. -/
theorem editFirst_filter_append {rs : List ρ} (rest : List ρ)
    (hq : ∀ r ∈ rs, p r = true → q r = true) (hf : ∀ r, p r = true → q (f r) = true)
    (h : ∃ r ∈ rs, p r = true) :
    editFirst p f (rs.filter q ++ rest) = (editFirst p f rs).filter q ++ rest := by
  induction rs with
  | nil => obtain ⟨r, hr, -⟩ := h; cases hr
  | cons r rs ih =>
    obtain ⟨hr, hrs⟩ := forall_mem_cons.1 hq
    by_cases hp : p r = true
    · rw [filter_cons_of_pos (hr hp), cons_append, editFirst, if_pos hp, editFirst,
        if_pos hp, filter_cons_of_pos (hf r hp), cons_append]
    · have hrest : ∃ r ∈ rs, p r = true := by
        obtain ⟨r', hr', hp'⟩ := h
        rcases mem_cons.1 hr' with rfl | hr'
        · exact absurd hp' hp
        · exact ⟨r', hr', hp'⟩
      have ih := ih hrs hrest
      have hskip : editFirst p f (r :: rs) = r :: editFirst p f rs := by rw [editFirst, if_neg hp]
      rw [hskip]
      by_cases hqr : q r = true
      · rw [filter_cons_of_pos hqr, filter_cons_of_pos hqr, cons_append, editFirst,
          if_neg hp, ih, cons_append]
      · rw [filter_cons_of_neg hqr, filter_cons_of_neg hqr, ih]

variable {κ : Type*} [DecidableEq κ] {key : ρ → κ} {t : SessionTable ρ} {k : κ}

/-- An object keeps the key of the row it was loaded from. -/
def Aligned (key : ρ → κ) (t : SessionTable ρ) : Prop :=
  ∀ row ∈ t.rows, key row.value = key row.stored

omit [DecidableEq κ] in
theorem aligned_ofRows (rows : List ρ) : Aligned key (ofRows rows) := by
  intro row hrow
  obtain ⟨r, -, rfl⟩ := mem_map.1 hrow
  rfl

omit [DecidableEq κ] in
theorem Aligned.edit (h : Aligned key t) {find : ρ → Bool}
    (hf : ∀ r, key (f r) = key r) : Aligned key (t.edit find f) := by
  intro row hrow
  rcases mem_edit_rows hrow with hold | ⟨old, hold, -, hsto, hedit⟩
  · exact h row hold
  · rw [Tracked.value, hedit, Option.getD_some, hf, hsto, h old hold]

/-- A query by key finds the first object with that key. -/
theorem Aligned.first? (h : Aligned key t) :
    t.first? (fun r ↦ key r = k) = ((t.rows.map Tracked.value).filter fun r ↦ key r = k).head? := by
  rw [SessionTable.first?, head?_filter]
  have hgo : ∀ rows : List (Tracked ρ), (∀ row ∈ rows, key row.value = key row.stored) →
      (rows.find? fun row ↦ key row.stored = k).map Tracked.value =
        (rows.map Tracked.value).find? fun r ↦ key r = k := by
    intro rows
    induction rows with
    | nil => intro _; rfl
    | cons row rows ih =>
      intro hrows
      obtain ⟨hrow, hrows⟩ := forall_mem_cons.1 hrows
      rw [map_cons, find?_cons, find?_cons, hrow, ← ih hrows]
      split
      · rfl
      · rfl
  exact hgo t.rows h

/-- An edit by key edits the first object with that key. -/
theorem Aligned.rows_edit (h : Aligned key t) :
    (t.edit (fun r ↦ key r = k) f).rows.map Tracked.value =
      editFirst (fun r ↦ key r = k) f (t.rows.map Tracked.value) := by
  have hgo : ∀ rows : List (Tracked ρ), (∀ row ∈ rows, key row.value = key row.stored) →
      (edit.go (fun r ↦ key r = k) f rows).map Tracked.value =
        editFirst (fun r ↦ key r = k) f (rows.map Tracked.value) := by
    intro rows
    induction rows with
    | nil => intro _; rfl
    | cons row rows ih =>
      intro hrows
      obtain ⟨hrow, hrows⟩ := forall_mem_cons.1 hrows
      rw [edit.go, map_cons, editFirst, hrow]
      split
      · rfl
      · rw [map_cons, ih hrows]
  exact hgo t.rows h

/-- A bulk delete removes values and adds none. -/
theorem values_deleteWhere_sublist (p : ρ → Bool) : (t.deleteWhere p).values.Sublist t.values :=
  (filter_sublist.map _).append_right _

end Keyed

end SessionTable

end Kaya
