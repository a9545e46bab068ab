import Mathlib.Data.Finset.Card

/-!
# Insertion-ordered dictionaries

Python's `dict`: keys are unique and iterated in the order of their first insertion. Assigning to a
key in use keeps its place; `pop` of a missing key does nothing. Uniqueness is a field, so that
a dictionary is determined by the list of its keys and the value at each of them (`ext_get?`).
-/

namespace Kaya

open List

/-- A dictionary from `κ` to `α`. -/
structure Dict (κ α : Type*) where
  /-- The items, in iteration order. -/
  items : List (κ × α)
  /-- Keys are unique. -/
  nodup : (items.map Prod.fst).Nodup

namespace Dict

variable {κ α : Type*}

/-- `d.keys()`. -/
def keys (d : Dict κ α) : List κ := d.items.map Prod.fst

/-- `len(d)`. -/
def size (d : Dict κ α) : ℕ := d.items.length

/-- `{}`. -/
def empty : Dict κ α := ⟨[], List.nodup_nil⟩

/-- The items a predicate keeps. -/
def filter (p : κ × α → Bool) (d : Dict κ α) : Dict κ α :=
  ⟨d.items.filter p, d.nodup.sublist (List.filter_sublist.map _)⟩

instance [DecidableEq κ] [DecidableEq α] : DecidableEq (Dict κ α) := fun d d' ↦
  decidable_of_iff (d.items = d'.items) ⟨fun h ↦ by cases d; cases d'; cases h; rfl, fun h ↦ by rw [h]⟩

variable [DecidableEq κ]

/-- The items after `d[k] = v`. -/
def setItems (k : κ) (v : α) : List (κ × α) → List (κ × α)
  | [] => [(k, v)]
  | item :: items => if item.1 = k then (k, v) :: items else item :: setItems k v items

theorem keys_setItems (k : κ) (v : α) (items : List (κ × α)) :
    (setItems k v items).map Prod.fst =
      if k ∈ items.map Prod.fst then items.map Prod.fst else items.map Prod.fst ++ [k] := by
  induction items with
  | nil => rfl
  | cons item items ih =>
    rw [setItems]
    split
    · rename_i hk
      rw [map_cons, map_cons, if_pos (by rw [hk]; exact mem_cons_self ..), hk]
    · rename_i hk
      rw [map_cons, ih, map_cons]
      by_cases hmem : k ∈ items.map Prod.fst
      · rw [if_pos hmem, if_pos (mem_cons_of_mem _ hmem)]
      · rw [if_neg hmem, if_neg (by simpa [Ne.symm hk] using hmem), cons_append]

/-- `d[k] = v`. -/
def set (d : Dict κ α) (k : κ) (v : α) : Dict κ α where
  items := setItems k v d.items
  nodup := by
    rw [keys_setItems]
    split
    · exact d.nodup
    · rename_i hk
      exact d.nodup.append (List.nodup_singleton k) (by simpa using hk)

/-- `d.get(k)`. -/
def get? (d : Dict κ α) (k : κ) : Option α := (d.items.find? (·.1 = k)).map Prod.snd

/-- `d.pop(k, None)`. -/
def pop (d : Dict κ α) (k : κ) : Dict κ α := d.filter (·.1 ≠ k)

/-- Assign the items of a list, one after the other. -/
def setAll (d : Dict κ α) (items : List (κ × α)) : Dict κ α :=
  items.foldl (fun d item ↦ d.set item.1 item.2) d

/-- Pop the keys of a list, one after the other. -/
def popAll (d : Dict κ α) (ks : List κ) : Dict κ α := ks.foldl pop d

section Lemmas

variable {d d' : Dict κ α} {k k' : κ} {v : α} {items : List (κ × α)}

theorem keys_set (d : Dict κ α) (k : κ) (v : α) :
    (d.set k v).keys = if k ∈ d.keys then d.keys else d.keys ++ [k] :=
  keys_setItems k v d.items

theorem mem_keys_set : k' ∈ (d.set k v).keys ↔ k' = k ∨ k' ∈ d.keys := by
  rw [keys_set]
  split
  · rename_i hk
    exact ⟨.inr, fun h ↦ h.elim (fun h ↦ h ▸ hk) id⟩
  · rw [mem_append, mem_singleton, or_comm]

theorem find?_setItems (items : List (κ × α)) :
    (setItems k v items).find? (·.1 = k') =
      if k' = k then some (k, v) else items.find? (·.1 = k') := by
  induction items with
  | nil =>
    rw [setItems, find?_cons, find?_nil]
    by_cases hk : k' = k
    · rw [if_pos hk, decide_eq_true hk.symm]
    · rw [if_neg hk, decide_eq_false (Ne.symm hk)]
  | cons item items ih =>
    rw [setItems]
    by_cases hitem : item.1 = k
    · rw [if_pos hitem, find?_cons, find?_cons, hitem]
      by_cases hk : k' = k
      · rw [if_pos hk, decide_eq_true hk.symm]
      · rw [if_neg hk, decide_eq_false (Ne.symm hk)]
    · rw [if_neg hitem, find?_cons, find?_cons, ih]
      by_cases hk : k' = k
      · rw [if_pos hk, if_pos hk, hk, decide_eq_false hitem]
      · rw [if_neg hk, if_neg hk]

theorem get?_set (d : Dict κ α) (k k' : κ) (v : α) :
    (d.set k v).get? k' = if k' = k then some v else d.get? k' := by
  rw [get?, set, find?_setItems]
  split
  · rfl
  · rfl

@[simp]
theorem get?_set_self (d : Dict κ α) (k : κ) (v : α) : (d.set k v).get? k = some v := by
  rw [get?_set, if_pos rfl]

theorem get?_isSome_iff : (d.get? k).isSome = true ↔ k ∈ d.keys := by
  rw [get?, Option.isSome_map, find?_isSome, keys, mem_map]
  simp

theorem get?_eq_some_iff : d.get? k = some v ↔ (k, v) ∈ d.items := by
  rw [get?]
  constructor
  · intro h
    obtain ⟨item, hfind, rfl⟩ := Option.map_eq_some_iff.mp h
    have hk : item.1 = k := by simpa using find?_some hfind
    exact hk ▸ mem_of_find?_eq_some hfind
  · intro hmem
    have hnodup := d.nodup
    generalize d.items = items at hmem hnodup
    induction items with
    | nil => cases hmem
    | cons item items ih =>
      rw [map_cons, nodup_cons] at hnodup
      rw [find?_cons]
      rcases mem_cons.mp hmem with rfl | hlater
      · rw [decide_eq_true rfl]
        rfl
      · have hne : item.1 ≠ k := fun hk ↦
          hnodup.1 (hk ▸ mem_map.mpr ⟨(k, v), hlater, rfl⟩)
        rw [decide_eq_false hne]
        exact ih hlater hnodup.2

/-- The items are read off the keys. -/
theorem items_eq_filterMap (d : Dict κ α) :
    d.items = d.keys.filterMap fun k ↦ (d.get? k).map (k, ·) := by
  rw [keys, filterMap_map]
  have hitem : ∀ item ∈ d.items,
      ((fun k ↦ (d.get? k).map (k, ·)) ∘ Prod.fst) item = some item := by
    intro item hitem
    rw [Function.comp_apply, get?_eq_some_iff.mpr hitem, Option.map_some]
  rw [filterMap_congr hitem, filterMap_some]

/-- **Extensionality.** The keys in order and the value at each of them determine a dictionary. -/
theorem ext_get? (hkeys : d.keys = d'.keys) (hget : ∀ k, d.get? k = d'.get? k) : d = d' := by
  have hitems : d.items = d'.items := by
    rw [items_eq_filterMap, items_eq_filterMap, hkeys, funext hget]
  cases d
  cases d'
  cases hitems
  rfl

/-! ### Popping -/

theorem size_eq_card (d : Dict κ α) : d.size = d.keys.toFinset.card := by
  rw [keys, toFinset_card_of_nodup d.nodup, length_map, size]

theorem keys_pop (d : Dict κ α) (k : κ) : (d.pop k).keys = d.keys.filter (· ≠ k) := by
  rw [keys, pop, filter, keys, filter_map]
  rfl

theorem keys_popAll (d : Dict κ α) (ks : List κ) : (d.popAll ks).keys = d.keys.filter (· ∉ ks) := by
  induction ks generalizing d with
  | nil => simp [popAll]
  | cons k ks ih =>
    rw [popAll, foldl_cons, ← popAll, ih, keys_pop, filter_filter]
    refine filter_congr fun x _ ↦ ?_
    rw [Bool.eq_iff_iff, Bool.and_eq_true]
    simp only [decide_eq_true_eq, mem_cons, not_or, and_comm]

/-- Popping distinct keys in use makes room for each. -/
theorem size_popAll {ks : List κ} (hks : ks.Nodup) (hsub : ks ⊆ d.keys) :
    (d.popAll ks).size = d.size - ks.length := by
  have hfinset : ks.toFinset ⊆ d.keys.toFinset := by
    intro k hk
    rw [mem_toFinset] at hk ⊢
    exact hsub hk
  rw [size_eq_card, size_eq_card, keys_popAll, ← toFinset_card_of_nodup hks,
    ← Finset.card_sdiff_of_subset hfinset]
  congr 1
  ext x
  simp

/-! ### Assigning many -/

theorem get?_setAll (d : Dict κ α) (items : List (κ × α)) (k : κ) :
    (d.setAll items).get? k = ((items.reverse.find? (·.1 = k)).map Prod.snd).or (d.get? k) := by
  induction items generalizing d with
  | nil => rfl
  | cons item items ih =>
    rw [setAll, foldl_cons, ← setAll, ih, reverse_cons, find?_append, get?_set]
    cases hlater : items.reverse.find? (·.1 = k) with
    | some found => rfl
    | none =>
      rw [Option.none_or, find?_cons, find?_nil]
      by_cases hk : k = item.1
      · rw [if_pos hk, decide_eq_true hk.symm]
        rfl
      · rw [if_neg hk, decide_eq_false (Ne.symm hk)]

theorem mem_keys_setAll : k ∈ (d.setAll items).keys ↔ k ∈ d.keys ∨ k ∈ items.map Prod.fst := by
  induction items generalizing d with
  | nil => simp [setAll]
  | cons item items ih =>
    rw [setAll, foldl_cons, ← setAll, ih, mem_keys_set, map_cons, mem_cons]
    tauto

/-- The size after assigning: the keys in use and the assigned ones, each counted once. -/
theorem size_setAll (d : Dict κ α) (items : List (κ × α)) :
    (d.setAll items).size = (d.keys ++ items.map Prod.fst).toFinset.card := by
  rw [size_eq_card]
  congr 1
  ext k
  rw [mem_toFinset, mem_toFinset, mem_keys_setAll, mem_append]

/-- Different keys, each with its own value. -/
theorem get?_setAll_of_mem (d : Dict κ α) (hnodup : (items.map Prod.fst).Nodup) {item : κ × α}
    (hitem : item ∈ items) : (d.setAll items).get? item.1 = some item.2 := by
  have hfind : items.reverse.find? (·.1 = item.1) = some item := by
    cases hsome : items.reverse.find? (·.1 = item.1) with
    | none =>
      exact absurd (decide_eq_true rfl)
        (find?_eq_none.1 hsome item (mem_reverse.2 hitem))
    | some other =>
      have hmem := mem_reverse.1 (mem_of_find?_eq_some hsome)
      have hkey : other.1 = item.1 := by simpa using find?_some hsome
      exact congrArg some (inj_on_of_nodup_map hnodup hmem hitem hkey)
  rw [get?_setAll, hfind]
  rfl

theorem keys_setAll_of_used (hused : ∀ item ∈ items, item.1 ∈ d.keys) :
    (d.setAll items).keys = d.keys := by
  induction items generalizing d with
  | nil => rfl
  | cons item items ih =>
    have hkeys : (d.set item.1 item.2).keys = d.keys := by
      rw [keys_set, if_pos (hused item (mem_cons_self ..))]
    rw [setAll, foldl_cons, ← setAll, ih, hkeys]
    intro later hlater
    rw [hkeys]
    exact hused later (mem_cons_of_mem _ hlater)

/-- Assigning changes nothing exactly when the last value of each key is already there. -/
theorem setAll_eq_self_iff : d.setAll items = d ↔
    ∀ k v, (items.reverse.find? (·.1 = k)).map Prod.snd = some v → d.get? k = some v := by
  constructor
  · intro hsame k v hlast
    rw [← hsame, get?_setAll, hlast, Option.some_or]
  · intro hall
    have hused : ∀ item ∈ items, item.1 ∈ d.keys := by
      intro item hitem
      have hfound : (items.reverse.find? (·.1 = item.1)).isSome = true :=
        find?_isSome.mpr ⟨item, mem_reverse.mpr hitem, by simp⟩
      obtain ⟨last, hlast⟩ := Option.isSome_iff_exists.mp hfound
      rw [← get?_isSome_iff, hall item.1 last.2 (by rw [hlast]; rfl)]
      rfl
    refine ext_get? (keys_setAll_of_used hused) fun k ↦ ?_
    rw [get?_setAll]
    cases hlast : (items.reverse.find? (·.1 = k)).map Prod.snd with
    | none => rfl
    | some v => exact (hall k v hlast).symm

theorem set_eq_self_iff : d.set k v = d ↔ d.get? k = some v := by
  have hone : d.setAll [(k, v)] = d.set k v := rfl
  rw [← hone, setAll_eq_self_iff]
  constructor
  · intro hall
    exact hall k v (by simp)
  · intro hget k' v' hlast
    simp only [reverse_singleton, find?_singleton, decide_eq_true_eq] at hlast
    split at hlast
    · rename_i hk
      cases hlast
      exact hk ▸ hget
    · cases hlast

end Lemmas

end Dict

end Kaya
