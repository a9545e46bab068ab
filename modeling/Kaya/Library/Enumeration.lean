import Kaya.Library.Sorting

/-!
# Reading in the order of a key

A collection is read in the order of a key, where elements with one key come in any order
(`IsRead`). Two collections with the same data, each in the order of its own key, give the same data
one after another in all readings exactly when the two orders agree on the data
(`OrdersAgree.map_eq`, `ordersAgree_of_map_eq`).
-/

namespace Kaya

open List

variable {α β γ κ κ' : Type*} [LinearOrder κ] [LinearOrder κ'] {key : α → κ} {key' : β → κ'}

/-- A reading of a collection. -/
structure IsRead (key : α → κ) (table rows : List α) : Prop where
  perm : rows.Perm table
  sorted : rows.Pairwise fun a b ↦ key a ≤ key b

theorem exists_isRead (key : α → κ) (table : List α) : ∃ rows, IsRead key table rows :=
  ⟨sortedBy key table, perm_sortedBy key table, pairwise_sortedBy key table⟩

theorem sublist_orderedInsert {a b : α} {rows : List α} (hb : b ∈ rows) (h : key a ≤ key b) :
    [a, b].Sublist (rows.orderedInsert (fun a b ↦ key a ≤ key b) a) := by
  induction rows with
  | nil => exact absurd hb not_mem_nil
  | cons c rows ih =>
    rw [orderedInsert_cons]
    split
    next => exact (singleton_sublist.2 hb).cons_cons a
    next hlt =>
      have hmem : b ∈ rows := (mem_cons.1 hb).resolve_left fun heq ↦ hlt (heq ▸ h)
      exact (ih hmem).cons c

/-- Two elements are read one after the other if their keys allow it. -/
theorem exists_isRead_sublist {table : List α} {a b : α} (ha : a ∈ table) (hb : b ∈ table)
    (hne : a ≠ b) (h : key a ≤ key b) : ∃ rows, IsRead key table rows ∧ [a, b].Sublist rows := by
  classical
  have hmem : b ∈ table.erase a := (mem_erase_of_ne hne.symm).2 hb
  have hread : IsRead key table
      (((table.erase a).insertionSort fun a b ↦ key a ≤ key b).orderedInsert
        (fun a b ↦ key a ≤ key b) a) := by
    refine ⟨?_, pairwise_sortedBy key (a :: table.erase a)⟩
    exact ((perm_orderedInsert _ _ _).trans ((perm_insertionSort _ _).cons a)).trans
      (perm_cons_erase ha).symm
  exact ⟨_, hread, sublist_orderedInsert ((mem_insertionSort _).2 hmem) h⟩

/-- Lists with the same elements are equal if their orders never contradict each other. -/
theorem eq_of_perm_of_pairwise {r r' : γ → γ → Prop} {l l' : List γ}
    (hagree : ∀ x y, r x y → r' y x → x = y) (hl : l.Pairwise r) (hl' : l'.Pairwise r')
    (hperm : l.Perm l') : l = l' := by
  induction l generalizing l' with
  | nil => exact hperm.nil_eq
  | cons x l ih =>
    cases l' with
    | nil => exact hperm.eq_nil
    | cons y l' =>
      obtain ⟨hx, hrest⟩ := pairwise_cons.1 hl
      obtain ⟨hy, hrest'⟩ := pairwise_cons.1 hl'
      have hxy : x = y := by
        rcases mem_cons.1 (hperm.mem_iff.1 mem_cons_self) with heq | hmem
        · exact heq
        · rcases mem_cons.1 (hperm.mem_iff.2 mem_cons_self) with heq | hmem'
          · exact heq.symm
          · exact hagree x y (hx y hmem') (hy x hmem)
      subst hxy
      rw [ih hrest hrest' hperm.cons_inv]

/-- Different data is in one order in both collections. -/
def OrdersAgree (key : α → κ) (key' : β → κ') (u : α → γ) (u' : β → γ) (table : List α)
    (table' : List β) : Prop :=
  ∀ a ∈ table, ∀ b ∈ table, ∀ a' ∈ table', ∀ b' ∈ table', u a = u' a' → u b = u' b' →
    u a ≠ u b → key a ≤ key b → key' a' < key' b'

section Reading

variable {u : α → γ} {u' : β → γ} {table rows : List α} {table' rows' : List β}

theorem OrdersAgree.map_eq (h : OrdersAgree key key' u u' table table')
    (hperm : (table.map u).Perm (table'.map u')) (hrows : IsRead key table rows)
    (hrows' : IsRead key' table' rows') : rows.map u = rows'.map u' := by
  have hsrc : (rows.map u).Pairwise fun x y ↦
      ∃ a ∈ table, ∃ b ∈ table, u a = x ∧ u b = y ∧ key a ≤ key b := by
    refine pairwise_map.2 (hrows.sorted.imp_of_mem fun {a b} ha hb hle ↦ ?_)
    exact ⟨a, hrows.perm.mem_iff.1 ha, b, hrows.perm.mem_iff.1 hb, rfl, rfl, hle⟩
  have htgt : (rows'.map u').Pairwise fun x y ↦
      ∃ a ∈ table', ∃ b ∈ table', u' a = x ∧ u' b = y ∧ key' a ≤ key' b := by
    refine pairwise_map.2 (hrows'.sorted.imp_of_mem fun {a b} ha hb hle ↦ ?_)
    exact ⟨a, hrows'.perm.mem_iff.1 ha, b, hrows'.perm.mem_iff.1 hb, rfl, rfl, hle⟩
  refine eq_of_perm_of_pairwise ?_ hsrc htgt
    (((hrows.perm.map u).trans hperm).trans (hrows'.perm.map u').symm)
  rintro _ _ ⟨a, ha, b, hb, rfl, rfl, hle⟩ ⟨b', hb', a', ha', hub, hua, hle'⟩
  by_contra hne
  exact absurd (h a ha b hb a' ha' b' hb' hua.symm hub.symm hne hle) (not_lt.2 hle')

/-- Here elements of the second collection with one key have the same data, and conversely. -/
theorem ordersAgree_of_map_eq
    (hkey : ∀ a ∈ table', ∀ b ∈ table', key' a = key' b ↔ u' a = u' b)
    (h : ∀ rows rows', IsRead key table rows → IsRead key' table' rows' →
      rows.map u = rows'.map u') : OrdersAgree key key' u u' table table' := by
  intro a ha b hb a' ha' b' hb' hua hub hne hle
  obtain ⟨rows, hrows, hsublist⟩ :=
    exists_isRead_sublist ha hb (fun heq ↦ hne (congrArg u heq)) hle
  obtain ⟨rows', hrows'⟩ := exists_isRead key' table'
  have hmap : [u a, u b].Sublist (rows'.map u') := by
    rw [← h rows rows' hrows hrows']
    exact hsublist.map u
  obtain ⟨pair, hpair, hdata⟩ := sublist_map_iff.1 hmap
  obtain _ | ⟨a₁, _ | ⟨b₁, _ | ⟨c, pair⟩⟩⟩ := pair
  · exact absurd hdata (by simp)
  · exact absurd hdata (by simp)
  · obtain ⟨hua₁, htail⟩ := cons.inj hdata
    have hub₁ := (cons.inj htail).1
    have hle₁ : key' a₁ ≤ key' b₁ := by
      have hpairwise := hrows'.sorted.sublist hpair
      simpa using hpairwise
    have hmem : ∀ c ∈ [a₁, b₁], c ∈ table' := fun c hc ↦ hrows'.perm.mem_iff.1 (hpair.subset hc)
    have ha₁ := (hkey a₁ (hmem a₁ (by simp)) a' ha').2 (hua₁.symm.trans hua)
    have hb₁ := (hkey b₁ (hmem b₁ (by simp)) b' hb').2 (hub₁.symm.trans hub)
    rw [ha₁, hb₁] at hle₁
    refine lt_of_le_of_ne hle₁ fun heq ↦ hne ?_
    exact (hua.trans ((hkey a' ha' b' hb').1 heq)).trans hub.symm
  · exact absurd hdata (by simp)

end Reading

end Kaya
