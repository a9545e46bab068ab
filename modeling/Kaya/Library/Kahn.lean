import Mathlib.Data.Set.Finite.Basic
import Mathlib.Order.WellFounded

/-!
# Kahn's algorithm

An order in which every node comes after its parents: a node is ready when no parent is left, and a
node that is taken is discarded from the parents of its children. What has been taken so far is in
order (`Inv.ordered`), and it is all nodes as soon as it is as many (`Inv.perm`). Without a cycle
it is as many (`Inv.run_length`).
-/

namespace Kaya.Kahn

open List

variable {α : Type*}

/-- The variables of the algorithm. -/
structure State (α : Type*) where
  parents : α → List α
  ready : List α
  ordered : List α := []

/-- Every node comes after its parents. -/
def Ordered (parents : α → List α) (order : List α) : Prop :=
  ∀ earlier node later, order = earlier ++ node :: later → ∀ parent ∈ parents node, parent ∈ earlier

theorem Ordered.snoc {parents : α → List α} {order : List α} {node : α} (h : Ordered parents order)
    (hnode : ∀ parent ∈ parents node, parent ∈ order) : Ordered parents (order ++ [node]) := by
  intro earlier node' later heq
  rcases eq_nil_or_concat later with rfl | ⟨later, last, rfl⟩
  · obtain ⟨rfl, hlast⟩ := append_inj' heq rfl
    obtain rfl : node = node' := singleton_inj.1 hlast
    exact hnode
  · rw [concat_eq_append, ← cons_append, ← append_assoc] at heq
    obtain ⟨heq, -⟩ := append_inj' heq rfl
    exact h earlier node' later heq

variable [DecidableEq α]

/-- A node is discarded from the parents of a child. -/
def discard (node : α) (s : State α) (child : α) : State α where
  parents := Function.update s.parents child ((s.parents child).filter (· ≠ node))
  ready :=
    if (s.parents child).filter (· ≠ node) = [] then s.ready ++ [child] else s.ready
  ordered := s.ordered

/-- The next node is taken, if one is ready. -/
def step (children : α → List α) (s : State α) : State α :=
  match s.ready with
  | [] => s
  | node :: ready =>
    (children node).foldl (discard node) { s with ready, ordered := s.ordered ++ [node] }

/-- So many nodes are taken. -/
def run (children : α → List α) (fuel : ℕ) (s : State α) : State α := (step children)^[fuel] s

/-! ### What is taken -/

variable {children parents : α → List α} {nodes : List α} {s : State α} {node : α}

/-- The children of a node after it has been discarded. -/
theorem foldl_discard (cs : List α) (hcs : cs.Nodup) (s : State α) :
    (∀ c, (cs.foldl (discard node) s).parents c =
      if c ∈ cs then (s.parents c).filter (· ≠ node) else s.parents c) ∧
    (cs.foldl (discard node) s).ready =
      s.ready ++ cs.filter (fun c ↦ (s.parents c).filter (· ≠ node) = []) ∧
    (cs.foldl (discard node) s).ordered = s.ordered := by
  induction cs generalizing s with
  | nil => exact ⟨fun _ ↦ rfl, (append_nil _).symm, rfl⟩
  | cons c cs ih =>
    obtain ⟨hc, hcs⟩ := nodup_cons.1 hcs
    obtain ⟨hparents, hrdy, hordered⟩ := ih hcs (discard node s c)
    have hself : (discard node s c).parents c = (s.parents c).filter (· ≠ node) :=
      Function.update_self ..
    have hothers : ∀ c', c' ≠ c → (discard node s c).parents c' = s.parents c' :=
      fun c' hne ↦ Function.update_of_ne hne ..
    refine ⟨fun c' ↦ ?_, ?_, hordered⟩
    · rw [foldl_cons, hparents]
      rcases eq_or_ne c' c with rfl | hne
      · rw [if_neg hc, if_pos mem_cons_self, hself]
      · rw [hothers c' hne]
        simp only [mem_cons, hne, false_or]
    · have hrest : cs.filter (fun c' ↦ ((discard node s c).parents c').filter (· ≠ node) = []) =
          cs.filter (fun c' ↦ (s.parents c').filter (· ≠ node) = []) := by
        refine filter_congr fun c' hc' ↦ ?_
        rw [hothers c' fun heq ↦ hc (heq ▸ hc')]
      rw [foldl_cons, hrdy, hrest]
      by_cases hnil : (s.parents c).filter (· ≠ node) = []
      · rw [filter_cons_of_pos (by simpa using hnil)]
        show (if _ then _ else _) ++ _ = _
        rw [if_pos hnil, append_assoc]
        rfl
      · rw [filter_cons_of_neg (by simpa using hnil)]
        show (if _ then _ else _) ++ _ = _
        rw [if_neg hnil]

/-- The state while nodes are taken. -/
structure Inv (parents : α → List α) (nodes : List α) (s : State α) : Prop where
  rest : ∀ c, s.parents c = (parents c).filter (· ∉ s.ordered)
  nodup : (s.ordered ++ s.ready).Nodup
  mem : ∀ c ∈ s.ordered ++ s.ready, c ∈ nodes
  free : ∀ c ∈ nodes, s.parents c = [] ↔ c ∈ s.ordered ++ s.ready
  ordered : Ordered parents s.ordered

theorem inv_start (hnodes : nodes.Nodup) {ready : List α}
    (hrdy : ready.Perm (nodes.filter fun c ↦ parents c = [])) :
    Inv parents nodes ⟨parents, ready, []⟩ where
  rest c := by simp
  nodup := hrdy.nodup_iff.2 (hnodes.filter _)
  mem c hc := mem_of_mem_filter (hrdy.mem_iff.1 hc)
  free c hc := by
    show parents c = [] ↔ c ∈ ready
    rw [hrdy.mem_iff]
    simp [hc]
  ordered earlier node later heq := absurd heq (by simp)

/-- A step keeps the invariant of Kahn's algorithm. -/
theorem Inv.step (hchildren : ∀ p c, c ∈ children p ↔ p ∈ parents c)
    (hnodup : ∀ p, (children p).Nodup) (hnodes : ∀ p c, c ∈ children p → c ∈ nodes)
    (h : Inv parents nodes s) : Inv parents nodes (step children s) := by
  rw [Kahn.step]
  split
  · exact h
  next node ready hrdy =>
    obtain ⟨hparents, hrdy', hordered⟩ := foldl_discard (children node) (hnodup node)
      { s with ready, ordered := s.ordered ++ [node] }
    generalize (children node).foldl (discard node)
      { s with ready, ordered := s.ordered ++ [node] } = s' at hparents hrdy' hordered ⊢
    have hold : s.ordered ++ s.ready = s.ordered ++ [node] ++ ready := by
      rw [hrdy, append_assoc]
      rfl
    have hnode : node ∈ s.ordered ++ s.ready := by
      rw [hrdy]
      exact mem_append_right _ mem_cons_self
    have hnew : node ∉ s.ordered := fun hmem ↦
      (nodup_append.1 h.nodup).2.2 node hmem node (hrdy ▸ mem_cons_self) rfl
    have hdiscarded : ∀ c, s'.parents c = (s.parents c).filter (· ≠ node) := by
      intro c
      rw [hparents]
      split
      · rfl
      next hc =>
        refine (filter_eq_self.2 fun p hp ↦ ?_).symm
        rw [h.rest, mem_filter] at hp
        refine decide_eq_true fun heq ↦ hc ((hchildren node c).2 ?_)
        exact heq ▸ hp.1
    have hall : s'.ordered ++ s'.ready = (s.ordered ++ s.ready) ++
        (children node).filter (fun c ↦ (s.parents c).filter (· ≠ node) = []) := by
      rw [hordered, hrdy', hold, append_assoc, append_assoc, append_assoc]
    refine ⟨fun c ↦ ?_, ?_, fun c hc ↦ ?_, fun c hc ↦ ?_, ?_⟩
    · rw [hdiscarded, h.rest, hordered, filter_filter]
      refine filter_congr fun p _ ↦ ?_
      simp [and_comm]
    · rw [hall, nodup_append]
      refine ⟨h.nodup, (hnodup node).filter _, ?_⟩
      rintro c hc _ hc' rfl
      have hfree := (h.free c (h.mem c hc)).2 hc
      have hparent := (hchildren node c).1 (mem_of_mem_filter hc')
      have hmem : node ∈ s.parents c := by
        rw [h.rest]
        exact mem_filter.2 ⟨hparent, decide_eq_true hnew⟩
      exact absurd (hfree ▸ hmem) not_mem_nil
    · rw [hall, mem_append] at hc
      rcases hc with hc | hc
      · exact h.mem c hc
      · exact hnodes node c (mem_of_mem_filter hc)
    · rw [hall, mem_append, mem_filter, decide_eq_true_eq, hdiscarded, ← h.free c hc]
      constructor
      · intro hnil
        by_cases hmem : node ∈ s.parents c
        · rw [h.rest, mem_filter] at hmem
          exact .inr ⟨(hchildren node c).2 hmem.1, hnil⟩
        · have hself : (s.parents c).filter (· ≠ node) = s.parents c :=
            filter_eq_self.2 fun p hp ↦ decide_eq_true fun heq : p = node ↦ hmem (heq ▸ hp)
          exact .inl (hself ▸ hnil)
      · rintro (hnil | ⟨-, hnil⟩)
        · rw [hnil]
          rfl
        · exact hnil
    · rw [hordered]
      refine h.ordered.snoc fun p hp ↦ ?_
      have hfree := (h.free node (h.mem node hnode)).2 hnode
      rw [h.rest, filter_eq_nil_iff] at hfree
      simpa using hfree p hp

/-- The state after so many nodes. -/
theorem Inv.run (hchildren : ∀ p c, c ∈ children p ↔ p ∈ parents c)
    (hnodup : ∀ p, (children p).Nodup) (hnodes : ∀ p c, c ∈ children p → c ∈ nodes)
    (h : Inv parents nodes s) (fuel : ℕ) : Inv parents nodes (run children fuel s) := by
  induction fuel generalizing s with
  | zero => exact h
  | succ fuel ih => exact ih (h.step hchildren hnodup hnodes)

theorem step_ordered_length (h : s.ready ≠ []) (hnodup : ∀ p, (children p).Nodup) :
    (step children s).ordered.length = s.ordered.length + 1 := by
  rw [step]
  split
  next hnil => exact absurd hnil h
  next node ready _ =>
    rw [(foldl_discard (children node) (hnodup node) _).2.2, length_append, length_singleton]

/-- No node is ready after as many steps as there are nodes. -/
theorem Inv.run_ready (hchildren : ∀ p c, c ∈ children p ↔ p ∈ parents c)
    (hnodup : ∀ p, (children p).Nodup) (hnodes : ∀ p c, c ∈ children p → c ∈ nodes)
    (h : Inv parents nodes s) : (Kahn.run children nodes.length s).ready = [] := by
  have hcount : ∀ fuel, (Kahn.run children fuel s).ready = [] ∨
      fuel ≤ (Kahn.run children fuel s).ordered.length := by
    intro fuel
    induction fuel with
    | zero => exact .inr (Nat.zero_le _)
    | succ fuel ih =>
      rw [Kahn.run, Function.iterate_succ_apply', ← Kahn.run]
      rcases em ((Kahn.run children fuel s).ready = []) with hnil | hrdy
      · left
        rw [Kahn.step, hnil]
        exact hnil
      · rw [step_ordered_length hrdy hnodup]
        exact .inr (Nat.succ_le_succ (ih.resolve_left hrdy))
  refine (hcount nodes.length).elim id fun hlen ↦ ?_
  have hinv := h.run hchildren hnodup hnodes nodes.length
  have hle := (subperm_of_subset hinv.nodup hinv.mem).length_le
  rw [length_append] at hle
  exact length_eq_zero_iff.1 (by omega)

/-- As many nodes as there are. -/
theorem Inv.perm (h : Inv parents nodes s) (hlen : s.ordered.length = nodes.length) :
    s.ordered.Perm nodes := by
  have hsubset : s.ordered ⊆ nodes := fun c hc ↦ h.mem c (mem_append_left _ hc)
  have hsubperm := (subperm_of_subset (nodup_append.1 h.nodup).1 hsubset)
  exact hsubperm.perm_of_length_le (Nat.le_of_eq hlen.symm)

omit [DecidableEq α] in
/-- Where each of some nodes has a parent among them, there is a cycle. -/
theorem exists_cycle (parents : α → List α) {rest : List α} (hne : rest ≠ [])
    (hparent : ∀ c ∈ rest, ∃ p ∈ parents c, p ∈ rest) :
    ∃ c ∈ rest, Relation.TransGen (fun p c ↦ p ∈ parents c) c c := by
  by_contra hnone
  let before : {c // c ∈ rest} → {c // c ∈ rest} → Prop :=
    fun a b ↦ Relation.TransGen (fun p c ↦ p ∈ parents c) a.1 b.1
  have htrans : IsTrans _ before := ⟨fun _ _ _ hab hbc ↦ hab.trans hbc⟩
  have hirrefl : Std.Irrefl before := ⟨fun c hc ↦ hnone ⟨c.1, c.2, hc⟩⟩
  have hfinite : Finite {c // c ∈ rest} := finite_toSet rest
  have hwf : WellFounded before := Finite.wellFounded_of_trans_of_irrefl before
  obtain ⟨c, hc⟩ := exists_mem_of_ne_nil rest hne
  obtain ⟨least, -, hleast⟩ := hwf.has_min Set.univ ⟨⟨c, hc⟩, trivial⟩
  obtain ⟨p, hp, hmem⟩ := hparent least.1 least.2
  exact hleast ⟨p, hmem⟩ trivial (.single hp)

/-- Without a cycle all nodes are taken. -/
theorem Inv.run_length (hnodes : nodes.Nodup) (hchildren : ∀ p c, c ∈ children p ↔ p ∈ parents c)
    (hnodup : ∀ p, (children p).Nodup) (hmem : ∀ p c, c ∈ children p → c ∈ nodes)
    (hparents : ∀ c ∈ nodes, parents c ⊆ nodes)
    (hacyclic : ∀ c, ¬ Relation.TransGen (fun p c ↦ p ∈ parents c) c c) (h : Inv parents nodes s) :
    (Kahn.run children nodes.length s).ordered.length = nodes.length := by
  have hinv := h.run hchildren hnodup hmem nodes.length
  have hrdy := h.run_ready hchildren hnodup hmem
  generalize Kahn.run children nodes.length s = s' at hinv hrdy ⊢
  have hfree : ∀ c ∈ nodes, s'.parents c = [] ↔ c ∈ s'.ordered := by
    intro c hc
    rw [hinv.free c hc, hrdy, append_nil]
  have hleft : ∀ c ∈ nodes.filter (· ∉ s'.ordered),
      ∃ p ∈ parents c, p ∈ nodes.filter (· ∉ s'.ordered) := by
    intro c hc
    obtain ⟨hc, hleft⟩ := mem_filter.1 hc
    have hsome : s'.parents c ≠ [] := fun hnil ↦
      absurd ((hfree c hc).1 hnil) (of_decide_eq_true hleft)
    obtain ⟨p, hp⟩ := exists_mem_of_ne_nil _ hsome
    rw [hinv.rest, mem_filter] at hp
    exact ⟨p, hp.1, mem_filter.2 ⟨hparents c hc hp.1, hp.2⟩⟩
  have hrest : nodes.filter (· ∉ s'.ordered) = [] := by
    by_contra hne
    obtain ⟨c, -, hcycle⟩ := exists_cycle parents hne hleft
    exact hacyclic c hcycle
  have htaken : nodes ⊆ s'.ordered := by
    intro c hc
    simpa using filter_eq_nil_iff.1 hrest c hc
  refine le_antisymm ?_ (subperm_of_subset hnodes htaken).length_le
  exact (subperm_of_subset (nodup_append.1 hinv.nodup).1
    fun c hc ↦ hinv.mem c (mem_append_left _ hc)).length_le

end Kaya.Kahn
