import Kaya.Library.Session
import Kaya.Library.Table

/-!
# The objects of a table, and their flush

A table of rows with the objects that a session has loaded from them. An object is changed in memory
(`edit`); the stored row follows when the object is written. Unique constraints are a relation
`clash` between rows. Objects are written one after another, each against what is stored by then, so
`flush` fails where one of them clashes with a row that is still to be changed or deleted.

`Wrote` is all that a flush does: it changes no object, each stored row is what it was or what its
object shows, and where no two stored rows clash before, none do after (`Apart`).
-/

namespace Kaya.Table

open List Option

variable {ρ : Type*} (clash : ρ → ρ → Bool) {t t' : Table (Tracked ρ)} {i k : ℕ}
  {row : ρ} {ids : List ℕ}

/-! ### Objects -/

/-- The object of a row is changed. -/
def edit (t : Table (Tracked ρ)) (k : ℕ) (f : ρ → ρ) : Table (Tracked ρ) :=
  t.modify k fun row ↦ { row with edit := some (f row.value) }

theorem edit_value_self (t : Table (Tracked ρ)) (k : ℕ) (f : ρ → ρ) :
    ((t.edit k f).row k).value = f (t.row k).value := by
  rw [edit, t.modify_row_self]
  rfl

theorem edit_row_of_ne (t : Table (Tracked ρ)) (f : ρ → ρ) (hne : i ≠ k) :
    (t.edit k f).row i = t.row i :=
  t.modify_row_of_ne hne _

theorem edit_stored (t : Table (Tracked ρ)) (k : ℕ) (f : ρ → ρ) (i : ℕ) :
    ((t.edit k f).row i).stored = (t.row i).stored := by
  rcases eq_or_ne i k with rfl | hne
  · rw [edit, t.modify_row_self]
  · rw [t.edit_row_of_ne f hne]

/-! ### Flushes -/

/-- A stored row other than `k` clashes with this one. -/
def isTaken (t : Table (Tracked ρ)) (k : ℕ) (row : ρ) : Bool :=
  t.ids.any fun j ↦ j ≠ k ∧ clash (t.row j).stored row = true

/-- An object is written. -/
def write (t : Table (Tracked ρ)) (k : ℕ) : Option (Table (Tracked ρ)) :=
  match (t.row k).edit with
  | none => some t
  | some row =>
    if t.isTaken clash k row then none else some (t.modify k fun _ ↦ { stored := row })

/-- The objects of these rows are written. -/
def flush (t : Table (Tracked ρ)) (ids : List ℕ) : Option (Table (Tracked ρ)) :=
  ids.foldlM (write clash) t

/-- No two stored rows clash. -/
def Apart (t : Table (Tracked ρ)) : Prop :=
  ∀ i ∈ t.ids, ∀ j ∈ t.ids, clash (t.row i).stored (t.row j).stored = true → i = j

/-- Some objects are written. -/
structure Wrote (t t' : Table (Tracked ρ)) : Prop where
  ids : t'.ids = t.ids
  value : ∀ i, (t'.row i).value = (t.row i).value
  stored : ∀ i, (t'.row i).stored = (t.row i).stored ∨ (t'.row i).stored = (t.row i).value
  edit : ∀ i, (t.row i).edit = none → (t'.row i).edit = none
  apart : (∀ a b, clash a b = clash b a) → t.Apart clash → t'.Apart clash

variable {clash}

theorem Wrote.refl (t : Table (Tracked ρ)) : Wrote clash t t :=
  ⟨rfl, fun _ ↦ rfl, fun _ ↦ .inl rfl, fun _ h ↦ h, fun _ h ↦ h⟩

theorem Wrote.trans {t'' : Table (Tracked ρ)} (h : Wrote clash t t') (h' : Wrote clash t' t'') :
    Wrote clash t t'' where
  ids := h'.ids.trans h.ids
  value i := (h'.value i).trans (h.value i)
  stored i := by
    rcases h'.stored i with hsto | hvalue
    · exact (h.stored i).imp hsto.trans hsto.trans
    · exact .inr (hvalue.trans (h.value i))
  edit i hi := h'.edit i (h.edit i hi)
  apart hcomm hapart := h'.apart hcomm (h.apart hcomm hapart)

/-- A row that is not taken clashes with no other one. -/
theorem clash_eq_false_of_not_isTaken (h : t.isTaken clash k row = false) {j : ℕ}
    (hj : j ∈ t.ids) (hne : j ≠ k) : clash (t.row j).stored row = false := by
  have hany := any_eq_false.1 h j hj
  cases hclash : clash (t.row j).stored row with
  | false => rfl
  | true => exact absurd (decide_eq_true ⟨hne, hclash⟩) hany

theorem Apart.modify (ht : t.Apart clash) (hcomm : ∀ a b, clash a b = clash b a)
    (h : t.isTaken clash k row = false) :
    (t.modify k fun _ ↦ ({ stored := row } : Tracked ρ)).Apart clash := by
  intro i hi j hj hclash
  by_contra hne
  rcases eq_or_ne i k with rfl | hik
  · rw [t.modify_row_self, t.modify_row_of_ne (Ne.symm hne), hcomm,
      clash_eq_false_of_not_isTaken h hj (Ne.symm hne)] at hclash
    cases hclash
  · rw [t.modify_row_of_ne hik] at hclash
    rcases eq_or_ne j k with rfl | hjk
    · rw [t.modify_row_self, clash_eq_false_of_not_isTaken h hi hik] at hclash
      cases hclash
    · rw [t.modify_row_of_ne hjk] at hclash
      exact hne (ht i hi j hj hclash)

theorem Apart.insert (ht : t.Apart clash) (hcomm : ∀ a b, clash a b = clash b a)
    (h : t.isTaken clash t.freshKey row = false) : (t.insert { stored := row }).Apart clash := by
  have hold : ∀ i ∈ (t.insert ({ stored := row } : Tracked ρ)).ids, i ≠ t.freshKey → i ∈ t.ids :=
    fun i hi hne ↦ (mem_append.1 hi).resolve_right fun h ↦ hne (mem_singleton.1 h)
  intro i hi j hj hclash
  by_contra hne
  rcases eq_or_ne i t.freshKey with rfl | hik
  · have hj' := hold j hj (Ne.symm hne)
    rw [t.insert_row_fresh, t.insert_row_of_mem _ hj', hcomm,
      clash_eq_false_of_not_isTaken h hj' (Ne.symm hne)] at hclash
    cases hclash
  · rw [t.insert_row_of_mem _ (hold i hi hik)] at hclash
    rcases eq_or_ne j t.freshKey with rfl | hjk
    · rw [t.insert_row_fresh, clash_eq_false_of_not_isTaken h (hold i hi hik) hik] at hclash
      cases hclash
    · rw [t.insert_row_of_mem _ (hold j hj hjk)] at hclash
      exact hne (ht i (hold i hi hik) j (hold j hj hjk) hclash)

theorem wrote_of_write (h : t.write clash k = some t') :
    Wrote clash t t' ∧ (t'.row k).edit = none := by
  rw [write] at h
  split at h
  next hedit =>
    obtain rfl := some.inj h
    exact ⟨.refl t, hedit⟩
  next row hedit =>
    split at h
    · cases h
    next htaken =>
      obtain rfl := some.inj h
      have hvalue : (t.row k).value = row := by rw [Tracked.value, hedit, getD_some]
      have hrow := t.modify_row_self k fun _ ↦ ({ stored := row } : Tracked ρ)
      refine ⟨⟨rfl, fun i ↦ ?_, fun i ↦ ?_, fun i hi ↦ ?_, fun hcomm hapart ↦ ?_⟩, ?_⟩
      · rcases eq_or_ne i k with rfl | hne
        · rw [hrow]
          exact hvalue.symm
        · rw [t.modify_row_of_ne hne]
      · rcases eq_or_ne i k with rfl | hne
        · rw [hrow]
          exact .inr hvalue.symm
        · rw [t.modify_row_of_ne hne]
          exact .inl rfl
      · rcases eq_or_ne i k with rfl | hne
        · rw [hrow]
        · rw [t.modify_row_of_ne hne]
          exact hi
      · exact hapart.modify hcomm (Bool.not_eq_true _ ▸ htaken)
      · rw [hrow]

/-- A flush changes no object, and stores what the objects show. -/
theorem wrote_of_flush (h : t.flush clash ids = some t') :
    Wrote clash t t' ∧ ∀ i ∈ ids, (t'.row i).stored = (t.row i).value := by
  have hedits : ∀ (ids : List ℕ) (t : Table (Tracked ρ)), t.flush clash ids = some t' →
      Wrote clash t t' ∧ ∀ i ∈ ids, (t'.row i).edit = none := by
    intro ids
    induction ids with
    | nil =>
      intro t h
      obtain rfl := some.inj h
      exact ⟨.refl t, fun _ hi ↦ absurd hi not_mem_nil⟩
    | cons k ids ih =>
      intro t h
      rw [flush, foldlM_cons] at h
      obtain ⟨t₁, hfirst, hrest⟩ := bind_eq_some_iff.1 h
      obtain ⟨hwrote, hedit⟩ := wrote_of_write hfirst
      obtain ⟨hwrote', hedits⟩ := ih t₁ hrest
      refine ⟨hwrote.trans hwrote', fun i hi ↦ ?_⟩
      rcases mem_cons.1 hi with rfl | hi
      · exact hwrote'.edit i hedit
      · exact hedits i hi
  obtain ⟨hwrote, hedit⟩ := hedits ids t h
  refine ⟨hwrote, fun i hi ↦ ?_⟩
  have hvalue : (t'.row i).value = (t'.row i).stored := by
    rw [Tracked.value, hedit i hi, getD_none]
  exact hvalue.symm.trans (hwrote.value i)

/-- Objects whose change is none to the constraints can be written. -/
theorem flush_isSome (hcomm : ∀ a b, clash a b = clash b a) (ht : t.Apart clash)
    (hids : ∀ i ∈ ids, i ∈ t.ids)
    (hsame : ∀ i ∈ ids, ∀ row, clash row (t.row i).value = clash row (t.row i).stored) :
    (t.flush clash ids).isSome = true := by
  induction ids generalizing t with
  | nil => rfl
  | cons k ids ih =>
    have hwrite : ∃ t₁, t.write clash k = some t₁ := by
      rw [write]
      split
      · exact ⟨t, rfl⟩
      next row hedit =>
        have hvalue : (t.row k).value = row := by rw [Tracked.value, hedit, getD_some]
        rw [if_neg]
        · exact ⟨_, rfl⟩
        · intro htaken
          obtain ⟨j, hj, hclash⟩ := any_eq_true.1 htaken
          obtain ⟨hne, hclash⟩ := of_decide_eq_true hclash
          rw [← hvalue, hsame k mem_cons_self] at hclash
          exact hne (ht j hj k (hids k mem_cons_self) hclash)
    obtain ⟨t₁, hwrite⟩ := hwrite
    have hwrote := (wrote_of_write hwrite).1
    rw [flush, foldlM_cons, hwrite, bind_eq_bind, bind_some]
    refine ih (hwrote.apart hcomm ht)
      (fun i hi ↦ hwrote.ids ▸ hids i (mem_cons_of_mem _ hi)) fun i hi row ↦ ?_
    have hrow := hsame i (mem_cons_of_mem _ hi) row
    rw [hwrote.value]
    rcases hwrote.stored i with hsto | hsto
    · rw [hsto, hrow]
    · rw [hsto]

end Kaya.Table
