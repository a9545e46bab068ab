import Mathlib.Data.List.Sort
import Mathlib.Data.Multiset.MapFold

/-!
# Sorted collections and collections up to order

`sortedBy` sorts a collection by a key. Where elements with one key are equal, the result depends on
the elements alone (`sortedBy_eq_of_perm`), and in any case it determines them (`perm_of_sortedBy`).

The last section compares two collections up to order and up to a map of their elements.
-/

namespace Kaya

variable {α β γ κ : Type*}

section SortedBy

variable [LinearOrder κ] {key : α → κ} {l l' : List α}

/-- `sorted(l, key=key)`. -/
def sortedBy (key : α → κ) (l : List α) : List α := l.insertionSort fun a b ↦ key a ≤ key b

theorem perm_sortedBy (key : α → κ) (l : List α) : (sortedBy key l).Perm l :=
  List.perm_insertionSort _ _

theorem pairwise_sortedBy (key : α → κ) (l : List α) :
    (sortedBy key l).Pairwise fun a b ↦ key a ≤ key b := by
  have htotal : Std.Total fun a b : α ↦ key a ≤ key b := ⟨fun a b ↦ le_total _ _⟩
  have htrans : IsTrans α fun a b ↦ key a ≤ key b := ⟨fun _ _ _ ↦ le_trans⟩
  exact List.pairwise_insertionSort _ _

/-- Equal results have the same elements. -/
theorem perm_of_sortedBy (h : sortedBy key l = sortedBy key l') : l.Perm l' :=
  ((perm_sortedBy key l).symm.trans (.of_eq h)).trans (perm_sortedBy key l')

/-- **The order does not matter** where no two elements tie. -/
theorem sortedBy_eq_of_perm (hperm : l.Perm l')
    (hkey : ∀ a ∈ l, ∀ b ∈ l, key a = key b → a = b) : sortedBy key l = sortedBy key l' := by
  refine List.Perm.eq_of_pairwise ?_ (pairwise_sortedBy key l) (pairwise_sortedBy key l') ?_
  · intro a b ha hb hab hba
    have hmem : a ∈ l := (perm_sortedBy key l).mem_iff.1 ha
    have hmem' : b ∈ l := hperm.mem_iff.2 ((perm_sortedBy key l').mem_iff.1 hb)
    exact hkey a hmem b hmem' (le_antisymm hab hba)
  · exact ((perm_sortedBy key l).trans hperm).trans (perm_sortedBy key l').symm

end SortedBy

/-! ### Up to order -/

/-- Two collections have the same images exactly if their elements can be matched so. -/
theorem rel_iff_map_perm {f : α → γ} {g : β → γ} {l : List α} {l' : List β} :
    Multiset.Rel (fun a b ↦ f a = g b) (l : Multiset α) (l' : Multiset β) ↔
      (l.map f).Perm (l'.map g) := by
  rw [← Multiset.rel_map (p := fun x y ↦ x = y), Multiset.rel_eq, Multiset.map_coe,
    Multiset.map_coe, Multiset.coe_eq_coe]

/-- A map that is injective on two collections reflects their being equal up to order. -/
theorem perm_of_map_perm {g : α → β} {l l' : List α}
    (hinj : ∀ a b, (a ∈ l ∨ a ∈ l') → (b ∈ l ∨ b ∈ l') → g a = g b → a = b)
    (h : (l.map g).Perm (l'.map g)) : l.Perm l' := by
  have hrel : Multiset.Rel (fun a b ↦ a = b) (l : Multiset α) (l' : Multiset α) :=
    (rel_iff_map_perm.2 h).mono fun a ha b hb ↦
      hinj a b (.inl (Multiset.mem_coe.1 ha)) (.inr (Multiset.mem_coe.1 hb))
  exact Multiset.coe_eq_coe.1 (Multiset.rel_eq.1 hrel)

end Kaya
