import Mathlib.Data.Finset.Card

/-!
# Tarjan's algorithm

The recursive form over arbitrary nodes, with the stack as a list that begins with its top. The fuel
is the depth of the recursion that is allowed. What it finds are the strongly connected components,
each after those it leads to (`isComponents_of_visitAll`), and it finds them with as much fuel as
there are nodes (`exists_visitAll`). Where a path is longer than the fuel it fails
(`visit_eq_none`).

The argument is about one visit, of a node that all nodes on the stack lead to. What the visit
leaves on the stack leads to something below, and an edge from there to something below lowers the
lowlink of the node (`Visited`). So where the lowlink is the index, nothing above the node leads
below it, and everything above leads to the node.
-/

namespace Kaya.Tarjan

open List Option Function

variable {α : Type*}

/-- The variables of the algorithm. What is on the stack is `on_stack`. -/
structure State (α : Type*) where
  index : ℕ := 0
  indices : α → Option ℕ := fun _ ↦ none
  lowlinks : α → ℕ := fun _ ↦ 0
  stack : List α := []
  components : List (List α) := []

section Algorithm

variable [DecidableEq α]

namespace State

/-- A node is pushed. -/
def push (s : State α) (node : α) : State α where
  index := s.index + 1
  indices := Function.update s.indices node (some s.index)
  lowlinks := Function.update s.lowlinks node s.index
  stack := node :: s.stack
  components := s.components

/-- A lowlink is lowered. -/
def lower (s : State α) (node : α) (value : ℕ) : State α :=
  { s with lowlinks := Function.update s.lowlinks node (min (s.lowlinks node) value) }

/-- The stack is popped down to a node. -/
def pop (s : State α) (node : α) : State α :=
  { s with
    stack := (s.stack.dropWhile (· ≠ node)).tail
    components := s.components ++ [s.stack.takeWhile (· ≠ node) ++ [node]] }

/-- A node has been visited. -/
def close (s : State α) (node : α) : State α :=
  if s.indices node = some (s.lowlinks node) then s.pop node else s

end State

/-- The visit of a node. -/
def visit (adjacency : α → List α) : ℕ → State α → α → Option (State α)
  | 0, _, _ => none
  | fuel + 1, s, node => do
    let s ← (adjacency node).foldlM (fun s child ↦
      match s.indices child with
      | none => (visit adjacency fuel s child).map fun s ↦ s.lower node (s.lowlinks child)
      | some index => some (if child ∈ s.stack then s.lower node index else s)) (s.push node)
    return s.close node

/-- The visit of all nodes. -/
def visitAll (adjacency : α → List α) (fuel : ℕ) (nodes : List α) : Option (State α) :=
  nodes.foldlM (fun s node ↦
    if s.indices node = none then visit adjacency fuel s node else some s) {}

end Algorithm

/-! ### Components -/

/-- One node leads to another. -/
abbrev Reach (adjacency : α → List α) : α → α → Prop :=
  Relation.ReflTransGen fun x y ↦ y ∈ adjacency x

/-- Components, each after those it leads to. -/
structure IsComponents (adjacency : α → List α) (components : List (List α)) : Prop where
  nodup : components.flatten.Nodup
  connected : ∀ component ∈ components, ∀ x ∈ component, ∀ y ∈ component, Reach adjacency x y
  closed : ∀ earlier component later, components = earlier ++ component :: later →
    ∀ x ∈ component, ∀ y ∈ adjacency x, y ∈ component ∨ y ∈ earlier.flatten

variable {adjacency : α → List α} {fuel : ℕ} {node child x y : α} {s s' : State α}
  {components : List (List α)} {component : List α}

/-- The component of a node. -/
theorem IsComponents.snoc (h : IsComponents adjacency components)
    (hnodup : (components.flatten ++ component).Nodup)
    (hconnected : ∀ x ∈ component, ∀ y ∈ component, Reach adjacency x y)
    (hclosed : ∀ x ∈ component, ∀ y ∈ adjacency x, y ∈ component ∨ y ∈ components.flatten) :
    IsComponents adjacency (components ++ [component]) where
  nodup := by
    rwa [flatten_append, flatten_singleton]
  connected component' hmem := by
    rcases mem_append.1 hmem with hmem | hmem
    · exact h.connected component' hmem
    · obtain rfl := mem_singleton.1 hmem
      exact hconnected
  closed earlier component' later heq := by
    rcases eq_nil_or_concat' later with rfl | ⟨later, last, rfl⟩
    · obtain ⟨rfl, hlast⟩ := append_inj' heq rfl
      obtain rfl := singleton_inj.1 hlast
      exact hclosed
    · rw [← cons_append, ← append_assoc] at heq
      obtain ⟨heq, -⟩ := append_inj' heq rfl
      exact h.closed earlier component' later heq

/-- What the first components lead to is among them. -/
theorem IsComponents.mem_of_reach {earlier later : List (List α)}
    (h : IsComponents adjacency components) (heq : components = earlier ++ later)
    (hx : x ∈ earlier.flatten) (hreach : Reach adjacency x y) : y ∈ earlier.flatten := by
  induction hreach with
  | refl => exact hx
  | tail _ hedge ih =>
    obtain ⟨component, hcomp, hmem⟩ := mem_flatten.1 ih
    obtain ⟨before, after, rfl⟩ := append_of_mem hcomp
    rw [flatten_append, flatten_cons, mem_append, mem_append]
    rcases h.closed before component (after ++ later) (by simp [heq]) _ hmem _ hedge with hy | hy
    · exact .inr (.inl hy)
    · exact .inl hy

/-- A component is a class of nodes that lead to each other. -/
theorem IsComponents.mem_iff (h : IsComponents adjacency components)
    (hcomp : component ∈ components) (hx : x ∈ component) :
    y ∈ component ↔ Reach adjacency x y ∧ Reach adjacency y x := by
  constructor
  · intro hy
    exact ⟨h.connected component hcomp x hx y hy, h.connected component hcomp y hy x hx⟩
  · rintro ⟨hxy, hyx⟩
    obtain ⟨earlier, later, heq⟩ := append_of_mem hcomp
    have hsplit : components = (earlier ++ [component]) ++ later := by
      rw [heq, append_assoc]
      rfl
    have hmem : y ∈ (earlier ++ [component]).flatten := by
      refine h.mem_of_reach hsplit ?_ hxy
      rw [flatten_append, flatten_singleton]
      exact mem_append_right _ hx
    rw [flatten_append, flatten_singleton, mem_append] at hmem
    refine hmem.resolve_left fun hy ↦ ?_
    have hx' := h.mem_of_reach heq hy hyx
    have hnodup := h.nodup
    rw [heq, flatten_append, flatten_cons] at hnodup
    exact (nodup_append.1 hnodup).2.2 x hx' x (mem_append_left _ hx) rfl

/-! ### What holds between the steps -/

/-- Every node with an index is on the stack or in a component. -/
structure Sound (adjacency : α → List α) (s : State α) : Prop where
  components : IsComponents adjacency s.components
  nodup : (s.components.flatten ++ s.stack).Nodup
  indexed : ∀ x, s.indices x ≠ none ↔ x ∈ s.components.flatten ++ s.stack
  index_lt : ∀ x, ∀ i ∈ s.indices x, i < s.index

/-- What a visit leaves alone, where it may lower one lowlink. -/
structure Grows (except : Option α) (s s' : State α) : Prop where
  index_le : s.index ≤ s'.index
  indices : ∀ x, ∀ i ∈ s.indices x, s'.indices x = some i
  lowlinks : ∀ x, some x ≠ except → s.indices x ≠ none → s'.lowlinks x = s.lowlinks x

theorem Grows.refl (except : Option α) (s : State α) : Grows except s s :=
  ⟨le_rfl, fun _ _ h ↦ h, fun _ _ _ ↦ rfl⟩

theorem Grows.indexed {except : Option α} (h : Grows except s s') (hx : s.indices x ≠ none) :
    s'.indices x ≠ none := by
  obtain ⟨i, hi⟩ := ne_none_iff_exists'.1 hx
  rw [h.indices x i hi]
  simp

theorem Sound.indexed_of_mem_stack (h : Sound adjacency s) (hx : x ∈ s.stack) :
    s.indices x ≠ none :=
  (h.indexed x).2 (mem_append_right _ hx)

/-- An edge from a node that a visit leaves on the stack. -/
def Seen (node : α) (s s' : State α) (child : α) : Prop :=
  s'.indices child ≠ none ∧ (child ∈ s.stack → ∀ i ∈ s.indices child, s'.lowlinks node ≤ i)

/-- A node above another one that is being visited. -/
structure Above (adjacency : α → List α) (node : α) (s s' : State α) (x : α) : Prop where
  index_lt : ∀ i ∈ s'.indices x, s.index < i
  reached : Reach adjacency node x
  reaches : Reach adjacency x node
  seen : ∀ child ∈ adjacency x, Seen node s s' child

/-- A node is being visited. -/
structure Visiting (adjacency : α → List α) (node : α) (s s' : State α) : Prop where
  sound : Sound adjacency s'
  grows : Grows none s s'
  index_lt : s.index < s'.index
  index : s'.indices node = some s.index
  low_le : s'.lowlinks node ≤ s.index
  low : ∃ x ∈ s'.stack, s'.indices x = some (s'.lowlinks node) ∧ Reach adjacency node x
  stack : ∃ above, s'.stack = above ++ node :: s.stack ∧ ∀ x ∈ above, Above adjacency node s s' x

/-- A node that a visit leaves on the stack. -/
structure Left (adjacency : α → List α) (node : α) (s s' : State α) (x : α) : Prop where
  index_le : ∀ i ∈ s'.indices x, s.index ≤ i
  reached : Reach adjacency node x
  reaches : ∃ y ∈ s.stack, Reach adjacency x y
  seen : ∀ child ∈ adjacency x, Seen node s s' child

/-- A node has been visited. -/
structure Visited (adjacency : α → List α) (node : α) (s s' : State α) : Prop where
  sound : Sound adjacency s'
  grows : Grows none s s'
  index : s'.indices node = some s.index
  low_le : s'.lowlinks node ≤ s.index
  low : s'.lowlinks node < s.index → ∃ x ∈ s.stack, s'.indices x = some (s'.lowlinks node) ∧
    Reach adjacency node x
  stack : ∃ pushed, s'.stack = pushed ++ s.stack ∧ ∀ x ∈ pushed, Left adjacency node s s' x

theorem sound_start : Sound adjacency ({} : State α) where
  components := ⟨nodup_nil, fun _ h ↦ absurd h not_mem_nil,
    fun earlier component later h ↦ absurd h (by simp)⟩
  nodup := nodup_nil
  indexed x := by simp
  index_lt x i hi := absurd hi (by simp)

/-- Everything on the stack leads to a node that is being visited. -/
theorem Visiting.reach (h : Visiting adjacency node s s')
    (hreach : ∀ x ∈ s.stack, Reach adjacency x node) : ∀ x ∈ s'.stack, Reach adjacency x node := by
  obtain ⟨above, hstack, habove⟩ := h.stack
  intro x hx
  rw [hstack] at hx
  rcases mem_append.1 hx with hx | hx
  · exact (habove x hx).reaches
  · rcases mem_cons.1 hx with rfl | hx
    · exact .refl
    · exact hreach x hx

theorem Visiting.mem_stack (h : Visiting adjacency node s s') (hx : x ∈ s.stack) :
    x ∈ s'.stack := by
  obtain ⟨above, hstack, -⟩ := h.stack
  rw [hstack]
  exact mem_append_right _ (mem_cons_of_mem _ hx)

/-- Nodes without an index. -/
def fresh (nodes : Finset α) (s : State α) : Finset α := nodes.filter (s.indices · = none)

variable {nodes : Finset α} {pushed rest : List α} {s₁ : State α}

theorem fresh_subset (h : ∀ x, s.indices x ≠ none → s'.indices x ≠ none) :
    fresh nodes s' ⊆ fresh nodes s :=
  Finset.monotone_filter_right _ fun x _ hx ↦ not_not.1 fun hs ↦ h x hs hx

variable [DecidableEq α]

/-! ### Single steps -/

theorem push_indices_self : (s.push node).indices node = some s.index := update_self ..

theorem push_indices_of_ne (h : x ≠ node) : (s.push node).indices x = s.indices x :=
  update_of_ne h ..

theorem push_lowlinks_self : (s.push node).lowlinks node = s.index := update_self ..

theorem push_lowlinks_of_ne (h : x ≠ node) : (s.push node).lowlinks x = s.lowlinks x :=
  update_of_ne h ..

theorem lower_lowlinks_self (value : ℕ) :
    (s.lower node value).lowlinks node = min (s.lowlinks node) value := update_self ..

theorem lower_lowlinks_of_ne (value : ℕ) (h : x ≠ node) :
    (s.lower node value).lowlinks x = s.lowlinks x := update_of_ne h ..

theorem dropWhile_append_node (h : node ∉ pushed) :
    (pushed ++ node :: rest).dropWhile (· ≠ node) = node :: rest := by
  rw [dropWhile_append_of_pos fun x hx ↦ by
    simpa using fun heq : x = node ↦ h (heq ▸ hx)]
  exact dropWhile_cons_of_neg (by simp)

theorem takeWhile_append_node (h : node ∉ pushed) :
    (pushed ++ node :: rest).takeWhile (· ≠ node) = pushed := by
  rw [takeWhile_append_of_pos fun x hx ↦ by
    simpa using fun heq : x = node ↦ h (heq ▸ hx)]
  rw [takeWhile_cons_of_neg (by simp), append_nil]

theorem close_same (s : State α) (node : α) : (s.close node).index = s.index ∧
    (s.close node).indices = s.indices ∧ (s.close node).lowlinks = s.lowlinks := by
  rw [State.close]
  split
  · exact ⟨rfl, rfl, rfl⟩
  · exact ⟨rfl, rfl, rfl⟩

/-- One child of a node. -/
def visitChild (adjacency : α → List α) (fuel : ℕ) (node : α) (s : State α) (child : α) :
    Option (State α) :=
  match s.indices child with
  | none => (visit adjacency fuel s child).map fun s ↦ s.lower node (s.lowlinks child)
  | some index => some (if child ∈ s.stack then s.lower node index else s)

theorem visit_succ (s : State α) (node : α) : visit adjacency (fuel + 1) s node =
    ((adjacency node).foldlM (visitChild adjacency fuel node) (s.push node)).map
      (·.close node) := by
  rw [visit, map_eq_bind]
  rfl

theorem Sound.push (h : Sound adjacency s) (hnode : s.indices node = none) :
    Sound adjacency (s.push node) where
  components := h.components
  nodup := by
    show (s.components.flatten ++ node :: s.stack).Nodup
    rw [nodup_middle]
    exact nodup_cons.2 ⟨fun hmem ↦ (h.indexed node).2 hmem hnode, h.nodup⟩
  indexed x := by
    show _ ↔ x ∈ s.components.flatten ++ node :: s.stack
    rw [perm_middle.mem_iff, mem_cons]
    rcases eq_or_ne x node with rfl | hx
    · simp [push_indices_self]
    · rw [push_indices_of_ne hx, h.indexed x]
      exact ⟨.inr, fun hmem ↦ hmem.resolve_left hx⟩
  index_lt x i hi := by
    rcases eq_or_ne x node with rfl | hx
    · rw [push_indices_self, mem_some_iff] at hi
      exact hi ▸ Nat.lt_succ_self _
    · rw [push_indices_of_ne hx] at hi
      exact (h.index_lt x i hi).trans (Nat.lt_succ_self _)

theorem Sound.lower (h : Sound adjacency s) (node : α) (value : ℕ) :
    Sound adjacency (s.lower node value) :=
  ⟨h.components, h.nodup, h.indexed, h.index_lt⟩

theorem Sound.visiting (h : Sound adjacency s) (hnode : s.indices node = none) :
    Visiting adjacency node s (s.push node) := by
  have hne : ∀ x, s.indices x ≠ none → x ≠ node := fun x hx heq ↦ hx (heq ▸ hnode)
  refine ⟨h.push hnode, ⟨Nat.le_succ _, fun x i hi ↦ ?_, fun x _ hx ↦ ?_⟩, Nat.lt_succ_self _,
    push_indices_self, push_lowlinks_self.le, ⟨node, mem_cons_self, ?_, .refl⟩,
    [], rfl, fun x hx ↦ absurd hx not_mem_nil⟩
  · rw [push_indices_of_ne (hne x (by rw [hi]; simp))]
    exact hi
  · exact push_lowlinks_of_ne (hne x hx)
  · rw [push_indices_self, push_lowlinks_self]

/-! ### The children of a node -/

/-- The lowlink is lowered, after a visit that left more on the stack. -/
theorem Visiting.lower (value : ℕ) (h : Visiting adjacency node s s')
    (hnode : s.indices node = none) (hsound : Sound adjacency s₁) (hgrows : Grows none s' s₁)
    (hpushed : ∃ pushed, s₁.stack = pushed ++ s'.stack ∧ ∀ x ∈ pushed,
      (∀ i ∈ s₁.indices x, s.index < i) ∧ Reach adjacency node x ∧ Reach adjacency x node ∧
        ∀ child ∈ adjacency x, s₁.indices child ≠ none ∧
          (child ∈ s.stack → ∀ i ∈ s.indices child, value ≤ i))
    (hvalue : value < s'.lowlinks node →
      ∃ x ∈ s'.stack, s'.indices x = some value ∧ Reach adjacency node x) :
    Visiting adjacency node s (s₁.lower node value) ∧
      ∀ x, Seen node s s' x → Seen node s (s₁.lower node value) x := by
  have hlow : (s₁.lower node value).lowlinks node = min (s'.lowlinks node) value := by
    rw [lower_lowlinks_self, hgrows.lowlinks node (by simp) (by rw [h.index]; simp)]
  have hseen : ∀ x, Seen node s s' x → Seen node s (s₁.lower node value) x := by
    refine fun x hx ↦ ⟨hgrows.indexed hx.1, fun hmem i hi ↦ ?_⟩
    rw [hlow]
    exact (min_le_left _ _).trans (hx.2 hmem i hi)
  obtain ⟨above, hstack, habove⟩ := h.stack
  obtain ⟨pushed, hstack', hpushed⟩ := hpushed
  refine ⟨⟨hsound.lower node value, ⟨h.grows.index_le.trans hgrows.index_le, fun x i hi ↦ ?_,
    fun x _ hx ↦ ?_⟩, h.index_lt.trans_le hgrows.index_le, hgrows.indices node _ h.index, ?_, ?_,
    pushed ++ above, ?_, fun x hx ↦ ?_⟩, hseen⟩
  · exact hgrows.indices x i (h.grows.indices x i hi)
  · have hne : x ≠ node := fun heq ↦ hx (heq ▸ hnode)
    rw [lower_lowlinks_of_ne value hne, hgrows.lowlinks x (by simp) (h.grows.indexed hx),
      h.grows.lowlinks x (by simp) hx]
  · rw [hlow]
    exact (min_le_left _ _).trans h.low_le
  · rw [hlow]
    have hkept : ∀ i, (∃ x ∈ s'.stack, s'.indices x = some i ∧ Reach adjacency node x) →
        ∃ x ∈ s₁.stack, s₁.indices x = some i ∧ Reach adjacency node x := by
      rintro i ⟨x, hx, hi, hreach⟩
      exact ⟨x, hstack' ▸ mem_append_right _ hx, hgrows.indices x i hi, hreach⟩
    rcases lt_or_ge value (s'.lowlinks node) with hlt | hge
    · rw [min_eq_right hlt.le]
      exact hkept value (hvalue hlt)
    · rw [min_eq_left hge]
      exact hkept _ h.low
  · show s₁.stack = _
    rw [hstack', hstack, append_assoc]
  · rcases mem_append.1 hx with hx | hx
    · obtain ⟨hindex, hreached, hreaches, hchildren⟩ := hpushed x hx
      refine ⟨hindex, hreached, hreaches, fun child hchild ↦ ?_⟩
      refine ⟨(hchildren child hchild).1, fun hmem i hi ↦ ?_⟩
      rw [hlow]
      exact (min_le_right _ _).trans ((hchildren child hchild).2 hmem i hi)
    · obtain ⟨hindex, hreached, hreaches, hchildren⟩ := habove x hx
      refine ⟨fun i hi ↦ ?_, hreached, hreaches, fun child hchild ↦ hseen _ (hchildren _ hchild)⟩
      have hmem : x ∈ s'.stack := hstack ▸ mem_append_left _ hx
      obtain ⟨j, hj⟩ := ne_none_iff_exists'.1 (h.sound.indexed_of_mem_stack hmem)
      obtain rfl : j = i := some.inj ((hgrows.indices x j hj).symm.trans hi)
      exact hindex j hj

variable {children : List α}

/-- The visits of nodes that everything on the stack leads to. -/
def VisitSpec (adjacency : α → List α) (fuel : ℕ) : Prop :=
  ∀ s s' node, Sound adjacency s → s.indices node = none →
    (∀ x ∈ s.stack, Reach adjacency x node) → visit adjacency fuel s node = some s' →
      Visited adjacency node s s'

/-- A child is visited, or it was seen before. -/
theorem Visiting.visitChild (hvisit : VisitSpec adjacency fuel) (hsound : Sound adjacency s)
    (hnode : s.indices node = none) (hreach : ∀ x ∈ s.stack, Reach adjacency x node)
    (h : Visiting adjacency node s s') (hchild : child ∈ adjacency node)
    (hs₁ : Tarjan.visitChild adjacency fuel node s' child = some s₁) :
    Visiting adjacency node s s₁ ∧ Seen node s s₁ child ∧
      ∀ x, Seen node s s' x → Seen node s s₁ x := by
  rw [Tarjan.visitChild] at hs₁
  cases hindex : s'.indices child with
  | none =>
    rw [hindex] at hs₁
    obtain ⟨s₂, hs₂, rfl⟩ := map_eq_some_iff.1 hs₁
    have hvisited := hvisit s' s₂ child h.sound hindex
      (fun x hx ↦ (h.reach hreach x hx).tail hchild) hs₂
    obtain ⟨pushed, hstack, hpushed⟩ := hvisited.stack
    have hnew : child ∉ s.stack := fun hmem ↦
      h.grows.indexed (hsound.indexed_of_mem_stack hmem) hindex
    have hlower := h.lower (s₂.lowlinks child) hnode hvisited.sound hvisited.grows
      ⟨pushed, hstack, fun x hx ↦ ?_⟩ fun hlt ↦ ?_
    · refine ⟨hlower.1, ⟨?_, fun hmem ↦ absurd hmem hnew⟩, hlower.2⟩
      show s₂.indices child ≠ none
      rw [hvisited.index]
      simp
    · obtain ⟨hindex', hreached, ⟨y, hy, hxy⟩, hseen⟩ := hpushed x hx
      refine ⟨fun i hi ↦ h.index_lt.trans_le (hindex' i hi), .head hchild hreached,
        hxy.trans (h.reach hreach y hy), fun y hy ↦ ⟨(hseen y hy).1, fun hmem i hi ↦ ?_⟩⟩
      exact (hseen y hy).2 (h.mem_stack hmem) i (h.grows.indices y i hi)
    · have hlt' : s₂.lowlinks child < s'.index := hlt.trans_le (h.low_le.trans h.index_lt.le)
      obtain ⟨y, hy, hi, hreached⟩ := hvisited.low hlt'
      refine ⟨y, hy, ?_, .head hchild hreached⟩
      obtain ⟨j, hj⟩ := ne_none_iff_exists'.1 (h.sound.indexed_of_mem_stack hy)
      rw [← hi, hvisited.grows.indices y j hj, hj]
  | some index =>
    rw [hindex] at hs₁
    obtain rfl := some.inj hs₁
    have hindexed : s'.indices child ≠ none := by
      rw [hindex]
      simp
    split
    next hmem =>
      have hlower := h.lower index hnode h.sound (.refl none s')
        ⟨[], rfl, fun x hx ↦ absurd hx not_mem_nil⟩
        fun _ ↦ ⟨child, hmem, hindex, .single hchild⟩
      refine ⟨hlower.1, ⟨hindexed, fun _ i hi ↦ ?_⟩, hlower.2⟩
      have hi' := h.grows.indices child i hi
      rw [lower_lowlinks_self, some.inj (hi'.symm.trans hindex)]
      exact min_le_right _ _
    next hmem =>
      exact ⟨h, ⟨hindexed, fun hmem' ↦ absurd (h.mem_stack hmem') hmem⟩, fun _ hx ↦ hx⟩

theorem Visiting.foldlM (hvisit : VisitSpec adjacency fuel) (hsound : Sound adjacency s)
    (hnode : s.indices node = none) (hreach : ∀ x ∈ s.stack, Reach adjacency x node)
    (h : Visiting adjacency node s s') (hchildren : children ⊆ adjacency node)
    (hs₁ : children.foldlM (Tarjan.visitChild adjacency fuel node) s' = some s₁) :
    Visiting adjacency node s s₁ ∧ (∀ child ∈ children, Seen node s s₁ child) ∧
      ∀ x, Seen node s s' x → Seen node s s₁ x := by
  induction children generalizing s' with
  | nil =>
    obtain rfl := some.inj hs₁
    exact ⟨h, fun _ hx ↦ absurd hx not_mem_nil, fun _ hx ↦ hx⟩
  | cons child children ih =>
    rw [foldlM_cons] at hs₁
    obtain ⟨s₂, hstep, hrest⟩ := bind_eq_some_iff.1 hs₁
    obtain ⟨hone, hchild, hkept⟩ :=
      h.visitChild hvisit hsound hnode hreach (hchildren mem_cons_self) hstep
    obtain ⟨hmore, hseen, hkept'⟩ :=
      ih hone (fun _ hx ↦ hchildren (mem_cons_of_mem _ hx)) hrest
    refine ⟨hmore, fun x hx ↦ ?_, fun x hx ↦ hkept' x (hkept x hx)⟩
    rcases mem_cons.1 hx with rfl | hx
    · exact hkept' x hchild
    · exact hseen x hx

/-! ### The end of a visit -/

/-- A node is on top of what was on the stack before, and its lowlink is its index. -/
theorem Visiting.pop (h : Visiting adjacency node s s') (hroot : s'.lowlinks node = s.index)
    (hsound : Sound adjacency s) (hseen : ∀ child ∈ adjacency node, Seen node s s' child) :
    Sound adjacency (s'.pop node) ∧ (s'.pop node).stack = s.stack := by
  obtain ⟨above, hstack, habove⟩ := h.stack
  have hnodup := h.sound.nodup
  rw [hstack] at hnodup
  have hnode : node ∉ above := fun hmem ↦
    (nodup_append.1 (nodup_append.1 hnodup).2.1).2.2 node hmem node
      mem_cons_self rfl
  have hsplit : above ++ node :: s.stack = (above ++ [node]) ++ s.stack := by
    rw [append_assoc]
    rfl
  have hrest : (s'.pop node).stack = s.stack := by
    show (s'.stack.dropWhile (· ≠ node)).tail = s.stack
    rw [hstack]
    exact congrArg tail (dropWhile_append_node hnode)
  have hcomps : (s'.pop node).components = s'.components ++ [above ++ [node]] := by
    show s'.components ++ [s'.stack.takeWhile (· ≠ node) ++ [node]] = _
    rw [hstack, takeWhile_append_node hnode]
  have hboth : ∀ x ∈ above ++ [node], Reach adjacency node x ∧ Reach adjacency x node ∧
      ∀ child ∈ adjacency x, Seen node s s' child := by
    intro x hx
    rcases mem_append.1 hx with hx | hx
    · exact ⟨(habove x hx).reached, (habove x hx).reaches, (habove x hx).seen⟩
    · obtain rfl := mem_singleton.1 hx
      exact ⟨.refl, .refl, hseen⟩
  have hflat : (s'.pop node).components.flatten ++ (s'.pop node).stack =
      s'.components.flatten ++ s'.stack := by
    rw [hcomps, hrest, hstack, flatten_append, flatten_singleton, append_assoc, hsplit]
  refine ⟨⟨?_, ?_, fun x ↦ ?_, h.sound.index_lt⟩, hrest⟩
  · rw [hcomps]
    refine h.sound.components.snoc ?_ (fun x hx y hy ↦ (hboth x hx).2.1.trans (hboth y hy).1) ?_
    · rw [hsplit, ← append_assoc] at hnodup
      exact (nodup_append.1 hnodup).1
    · intro x hx child hchild
      obtain ⟨hindexed, hlow⟩ := (hboth x hx).2.2 child hchild
      rw [h.sound.indexed, hstack, hsplit, mem_append, mem_append] at hindexed
      rcases hindexed with hmem | hmem | hmem
      · exact .inr hmem
      · exact .inl hmem
      -- an edge to something below would have lowered the lowlink
      · obtain ⟨i, hi⟩ := ne_none_iff_exists'.1 (hsound.indexed_of_mem_stack hmem)
        have hlt := hsound.index_lt child i hi
        have hle := hlow hmem i hi
        omega
  · rw [hflat]
    exact h.sound.nodup
  · rw [hflat]
    exact h.sound.indexed x

theorem Visiting.close (h : Visiting adjacency node s s') (hsound : Sound adjacency s)
    (hreach : ∀ x ∈ s.stack, Reach adjacency x node)
    (hseen : ∀ child ∈ adjacency node, Seen node s s' child) :
    Visited adjacency node s (s'.close node) := by
  rw [State.close]
  split
  next hroot =>
    have hlow : s'.lowlinks node = s.index := some.inj (hroot.symm.trans h.index)
    obtain ⟨hpop, hstack⟩ := h.pop hlow hsound hseen
    exact ⟨hpop, ⟨h.grows.index_le, h.grows.indices, h.grows.lowlinks⟩, h.index, h.low_le,
      fun hlt ↦ absurd hlow hlt.ne, [], hstack, fun x hx ↦ absurd hx not_mem_nil⟩
  next hroot =>
    obtain ⟨above, hstack, habove⟩ := h.stack
    have hlt : s'.lowlinks node < s.index :=
      lt_of_le_of_ne h.low_le fun heq ↦ hroot (heq ▸ h.index)
    -- what the lowlink stands for is below the node
    have hbelow : ∃ x ∈ s.stack, s'.indices x = some (s'.lowlinks node) ∧
        Reach adjacency node x := by
      obtain ⟨x, hx, hi, hreached⟩ := h.low
      rw [hstack] at hx
      rcases mem_append.1 hx with hx | hx
      · exact absurd ((habove x hx).index_lt _ hi) hlt.not_gt
      · rcases mem_cons.1 hx with rfl | hx
        · exact absurd (some.inj (h.index.symm.trans hi)) hlt.ne'
        · exact ⟨x, hx, hi, hreached⟩
    refine ⟨h.sound, h.grows, h.index, h.low_le, fun _ ↦ hbelow, above ++ [node], ?_, fun x hx ↦ ?_⟩
    · rw [hstack, append_assoc]
      rfl
    · obtain ⟨y, hy, -, hreached⟩ := hbelow
      rcases mem_append.1 hx with hx | hx
      · exact ⟨fun i hi ↦ ((habove x hx).index_lt i hi).le, (habove x hx).reached,
          ⟨y, hy, (habove x hx).reaches.trans hreached⟩, (habove x hx).seen⟩
      · obtain rfl := mem_singleton.1 hx
        exact ⟨fun i hi ↦ (some.inj (h.index.symm.trans hi)).le, .refl, ⟨y, hy, hreached⟩, hseen⟩

theorem visitSpec : ∀ fuel, VisitSpec adjacency fuel := by
  intro fuel
  induction fuel with
  | zero => exact fun s s' node _ _ _ hs' ↦ absurd hs' (by simp [visit])
  | succ fuel ih =>
    intro s s' node hsound hnode hreach hs'
    rw [visit_succ] at hs'
    obtain ⟨s₁, hfold, rfl⟩ := map_eq_some_iff.1 hs'
    obtain ⟨hvisiting, hseen, -⟩ := (hsound.visiting hnode).foldlM ih hsound hnode hreach
      (fun _ hx ↦ hx) hfold
    exact hvisiting.close hsound hreach hseen

/-! ### All nodes -/

theorem foldlM_visit {nodes : List α} (hsound : Sound adjacency s) (hstack : s.stack = [])
    (hs' : nodes.foldlM (fun s node ↦
      if s.indices node = none then visit adjacency fuel s node else some s) s = some s') :
    Sound adjacency s' ∧ s'.stack = [] ∧ (∀ x, s.indices x ≠ none → s'.indices x ≠ none) ∧
      ∀ node ∈ nodes, s'.indices node ≠ none := by
  induction nodes generalizing s with
  | nil =>
    obtain rfl := some.inj hs'
    exact ⟨hsound, hstack, fun _ h ↦ h, fun _ h ↦ absurd h not_mem_nil⟩
  | cons node nodes ih =>
    rw [foldlM_cons] at hs'
    obtain ⟨s₁, hstep, hrest⟩ := bind_eq_some_iff.1 hs'
    have hone : Sound adjacency s₁ ∧ s₁.stack = [] ∧
        (∀ x, s.indices x ≠ none → s₁.indices x ≠ none) ∧ s₁.indices node ≠ none := by
      split at hstep
      next hnode =>
        have hvisited := visitSpec fuel s s₁ node hsound hnode
          (fun x hx ↦ absurd (hstack ▸ hx) not_mem_nil) hstep
        obtain ⟨pushed, hpushed, hleft⟩ := hvisited.stack
        rw [hstack, append_nil] at hpushed
        refine ⟨hvisited.sound, ?_, fun x ↦ hvisited.grows.indexed, by simp [hvisited.index]⟩
        -- nothing is below a root
        rw [hpushed, eq_nil_iff_forall_not_mem]
        intro x hx
        obtain ⟨y, hy, -⟩ := (hleft x hx).reaches
        exact absurd (hstack ▸ hy) not_mem_nil
      next hnode =>
        obtain rfl := some.inj hstep
        exact ⟨hsound, hstack, fun _ h ↦ h, hnode⟩
    obtain ⟨hsound', hstack', hindexed, hnode⟩ := hone
    obtain ⟨hsound'', hstack'', hindexed', hnodes⟩ := ih hsound' hstack' hrest
    refine ⟨hsound'', hstack'', fun x hx ↦ hindexed' x (hindexed x hx), fun x hx ↦ ?_⟩
    rcases mem_cons.1 hx with rfl | hx
    · exact hindexed' x hnode
    · exact hnodes x hx

theorem isComponents_of_visitAll {nodes : List α} (h : visitAll adjacency fuel nodes = some s) :
    IsComponents adjacency s.components ∧ ∀ node ∈ nodes, node ∈ s.components.flatten := by
  obtain ⟨hsound, hstack, -, hnodes⟩ := foldlM_visit sound_start rfl h
  refine ⟨hsound.components, fun node hnode ↦ ?_⟩
  have hmem := (hsound.indexed node).1 (hnodes node hnode)
  rwa [hstack, append_nil] at hmem

/-! ### The depth of the recursion -/

/-- **What every step keeps** is kept by a visit of nodes that lead to each other only. -/
theorem visit_preserves {P : State α → Prop} {N : α → Prop}
    (hclosed : ∀ x, N x → ∀ child ∈ adjacency x, N child)
    (hpush : ∀ s node, N node → P s → P (s.push node))
    (hlower : ∀ s node value, P s → P (s.lower node value))
    (hclose : ∀ s node, P s → P (s.close node)) (hnode : N node)
    (hs' : visit adjacency fuel s node = some s') (hs : P s) : P s' := by
  induction fuel generalizing s s' node with
  | zero => exact absurd hs' (by simp [visit])
  | succ fuel ih =>
    have hfold : ∀ (children : List α) (s s' : State α), (∀ child ∈ children, N child) →
        children.foldlM (visitChild adjacency fuel node) s = some s' → P s → P s' := by
      intro children
      induction children with
      | nil =>
        intro s s' _ hs' hs
        obtain rfl := some.inj hs'
        exact hs
      | cons child children ihc =>
        intro s s' hchildren hs' hs
        rw [foldlM_cons] at hs'
        obtain ⟨s₁, hstep, hrest⟩ := bind_eq_some_iff.1 hs'
        refine ihc s₁ s' (fun x hx ↦ hchildren x (mem_cons_of_mem _ hx)) hrest ?_
        rw [visitChild] at hstep
        split at hstep
        · obtain ⟨s₂, hs₂, rfl⟩ := map_eq_some_iff.1 hstep
          exact hlower _ _ _ (ih (hchildren child mem_cons_self) hs₂ hs)
        · obtain rfl := some.inj hstep
          split
          · exact hlower _ _ _ hs
          · exact hs
    rw [visit_succ] at hs'
    obtain ⟨s₁, hs₁, rfl⟩ := map_eq_some_iff.1 hs'
    exact hclose _ _ (hfold _ _ s₁ (hclosed node hnode) hs₁ (hpush s node hnode hs))

theorem visit_indexed (hs' : visit adjacency fuel s node = some s') (hx : s.indices x ≠ none) :
    s'.indices x ≠ none := by
  refine visit_preserves (P := fun s ↦ s.indices x ≠ none) (N := fun _ ↦ True)
    (fun _ _ _ _ ↦ trivial) (fun s node _ hx ↦ ?_) (fun _ _ _ hx ↦ hx) (fun s node hx ↦ ?_) trivial
    hs' hx
  · rcases eq_or_ne x node with rfl | hne
    · simp [push_indices_self]
    · rwa [push_indices_of_ne hne]
  · rwa [(close_same s node).2.1]

/-- The nodes with an index are among some, and no component is empty. -/
structure Among (nodes : List α) (s : State α) : Prop where
  indexed : ∀ x, s.indices x ≠ none → x ∈ nodes
  nonempty : ∀ component ∈ s.components, component ≠ []

theorem Among.close {nodes : List α} (h : Among nodes s) (node : α) :
    Among nodes (s.close node) where
  indexed := (close_same s node).2.1 ▸ h.indexed
  nonempty := by
    rw [State.close]
    split
    · intro component hmem
      rcases mem_append.1 hmem with hmem | hmem
      · exact h.nonempty component hmem
      · rw [mem_singleton.1 hmem]
        exact append_ne_nil_of_right_ne_nil _ (cons_ne_nil _ _)
    · exact h.nonempty

theorem among_of_visitAll {nodes : List α} (hclosed : ∀ x ∈ nodes, adjacency x ⊆ nodes)
    (h : visitAll adjacency fuel nodes = some s) : Among nodes s := by
  have hrun : ∀ (rest : List α) (s s' : State α), rest ⊆ nodes → Among nodes s →
      rest.foldlM (fun s node ↦
        if s.indices node = none then visit adjacency fuel s node else some s) s = some s' →
      Among nodes s' := by
    intro rest
    induction rest with
    | nil => exact fun s s' _ hs hs' ↦ some.inj hs' ▸ hs
    | cons node rest ih =>
      intro s s' hrest hs hs'
      obtain ⟨hnode, hrest⟩ := cons_subset.1 hrest
      rw [foldlM_cons] at hs'
      obtain ⟨s₁, hstep, hs'⟩ := bind_eq_some_iff.1 hs'
      refine ih s₁ s' hrest ?_ hs'
      split at hstep
      · refine visit_preserves hclosed (fun s node hnode hs ↦ ⟨fun x hx ↦ ?_, hs.nonempty⟩)
          (fun _ _ _ hs ↦ ⟨hs.indexed, hs.nonempty⟩) (fun _ node hs ↦ hs.close node) hnode hstep hs
        rcases eq_or_ne x node with rfl | hne
        · exact hnode
        · exact hs.indexed x (push_indices_of_ne hne ▸ hx)
      · exact some.inj hstep ▸ hs
  refine hrun nodes {} s (Subset.refl _) ⟨fun x hx ↦ absurd rfl hx, fun _ h ↦ ?_⟩ h
  exact absurd h not_mem_nil

/-- **The components are a partition** of the nodes. -/
theorem perm_of_visitAll {nodes : List α} (hnodup : nodes.Nodup)
    (hclosed : ∀ x ∈ nodes, adjacency x ⊆ nodes) (h : visitAll adjacency fuel nodes = some s) :
    s.components.flatten.Perm nodes := by
  obtain ⟨hsound, hstack, -, -⟩ := foldlM_visit sound_start rfl h
  obtain ⟨hcomps, hall⟩ := isComponents_of_visitAll h
  refine (perm_ext_iff_of_nodup hcomps.nodup hnodup).2 fun x ↦ ⟨fun hx ↦ ?_, hall x⟩
  refine (among_of_visitAll hclosed h).indexed x ((hsound.indexed x).2 ?_)
  exact mem_append_left _ hx

theorem fresh_push (hnode : node ∈ nodes) (hnew : s.indices node = none) :
    (fresh nodes (s.push node)).card < (fresh nodes s).card := by
  refine Finset.card_lt_card ((Finset.ssubset_iff_of_subset (fresh_subset fun x hx ↦ ?_)).2
    ⟨node, Finset.mem_filter.2 ⟨hnode, hnew⟩, fun hmem ↦ ?_⟩)
  · rwa [push_indices_of_ne (by rintro rfl; exact hx hnew)]
  · exact absurd (Finset.mem_filter.1 hmem).2 (by simp [push_indices_self])

/-- A visit goes no deeper than there are nodes without an index. -/
theorem exists_visit (nodes : Finset α)
    (hclosed : ∀ x ∈ nodes, ∀ child ∈ adjacency x, child ∈ nodes)
    (hnode : node ∈ nodes) (hnew : s.indices node = none)
    (hfuel : (fresh nodes s).card ≤ fuel) : ∃ s', visit adjacency fuel s node = some s' := by
  induction fuel generalizing s node with
  | zero =>
    have hmem : node ∈ fresh nodes s := Finset.mem_filter.2 ⟨hnode, hnew⟩
    exact absurd (Finset.card_pos.2 ⟨node, hmem⟩) (by omega)
  | succ fuel ih =>
    have hfold : ∀ (children : List α) (s : State α), (∀ child ∈ children, child ∈ nodes) →
        (fresh nodes s).card ≤ fuel →
          ∃ s', children.foldlM (visitChild adjacency fuel node) s = some s' := by
      intro children
      induction children with
      | nil => exact fun s _ _ ↦ ⟨s, rfl⟩
      | cons child children ihc =>
        intro s hchildren hle
        have hrest := fun x hx ↦ hchildren x (mem_cons_of_mem _ hx)
        rw [foldlM_cons, visitChild]
        split
        next hchild =>
          obtain ⟨s₁, hs₁⟩ := ih (hchildren child mem_cons_self) hchild hle
          rw [hs₁]
          refine ihc (s₁.lower node (s₁.lowlinks child)) hrest ?_
          exact (Finset.card_le_card (fresh_subset fun x ↦ visit_indexed hs₁)).trans hle
        next index _ =>
          refine ihc (if child ∈ s.stack then s.lower node index else s) hrest ?_
          split
          · exact hle
          · exact hle
    obtain ⟨s₁, hs₁⟩ := hfold (adjacency node) (s.push node) (hclosed node hnode)
      (Nat.le_of_lt_succ ((fresh_push hnode hnew).trans_le hfuel))
    exact ⟨s₁.close node, by rw [visit_succ, hs₁]; rfl⟩

theorem exists_visitAll {nodes : List α} (hclosed : ∀ x ∈ nodes, adjacency x ⊆ nodes)
    (hfuel : nodes.length ≤ fuel) : ∃ s, visitAll adjacency fuel nodes = some s := by
  have hrun : ∀ (rest : List α) (s : State α), rest ⊆ nodes →
      ∃ s', rest.foldlM (fun s node ↦
        if s.indices node = none then visit adjacency fuel s node else some s) s = some s' := by
    intro rest
    induction rest with
    | nil => exact fun s _ ↦ ⟨s, rfl⟩
    | cons node rest ih =>
      intro s hrest
      obtain ⟨hnode, hrest⟩ := cons_subset.1 hrest
      rw [foldlM_cons]
      split
      next hnew =>
        obtain ⟨s₁, hs₁⟩ := exists_visit nodes.toFinset
          (fun x hx child hchild ↦ mem_toFinset.2 (hclosed x (mem_toFinset.1 hx) hchild))
          (mem_toFinset.2 hnode) hnew
          (((Finset.card_le_card (Finset.filter_subset _ _)).trans
            (toFinset_card_le nodes)).trans hfuel)
        rw [hs₁]
        exact ih s₁ hrest
      next => exact ih s hrest
  exact hrun nodes {} (Subset.refl _)

/-- A visit fails where a path goes deeper. -/
theorem visit_eq_none {path : ℕ → α} {i : ℕ} (hpath : ∀ j, adjacency (path j) = [path (j + 1)])
    (hdist : ∀ j k, i ≤ j → j < k → k ≤ i + fuel → path j ≠ path k)
    (hnew : ∀ j, i ≤ j → j ≤ i + fuel → s.indices (path j) = none) :
    visit adjacency fuel s (path i) = none := by
  induction fuel generalizing i s with
  | zero => rfl
  | succ fuel ih =>
    have hpush : ∀ j, i + 1 ≤ j → j ≤ i + 1 + fuel → (s.push (path i)).indices (path j) = none := by
      intro j hij hj
      rw [push_indices_of_ne (hdist i j le_rfl (by omega) (by omega)).symm]
      exact hnew j (by omega) (by omega)
    have hchild := ih (i := i + 1) (fun j k hj hjk hk ↦ hdist j k (by omega) hjk (by omega))
      hpush
    rw [visit_succ, hpath i, foldlM_cons, visitChild, hpush (i + 1) le_rfl (by omega)]
    simp [hchild]

end Kaya.Tarjan
