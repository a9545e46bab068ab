import Kaya.Migration.Plan
import Mathlib.Data.Nat.ModEq

/-!
# When there is a plan

`_dependency_plan` over any tables and foreign keys. A component that Tarjan's algorithm finds is a
class of tables that refer to each other (`components_of_tables`), so that a foreign key within it
lies on a cycle, and where none within it is nullable the others have a cycle of their own. Without
a cycle Kahn's algorithm takes every table. So there is a plan just where the foreign keys that are
not nullable have no cycle (`dependencyPlan_yields`), unless Python's recursion limit is reached
before: the search for the components may go as deep as there are tables.
-/

namespace Kaya.Migration

open List

variable {depth rounds n : ℕ} {tables component : List String} {components : List (List String)}
  {active deferred edges removed edges' : List ForeignKeyDependency} {edge : ForeignKeyDependency}
  {x y : String}

/-! ### Cycles -/

/-- A foreign key leads from its parent to its child. -/
def Leads (edges : List ForeignKeyDependency) (parent child : String) : Prop :=
  ∃ edge ∈ edges, edge.parentTable = parent ∧ edge.childTable = child

/-- There is a cycle. A table that refers to itself is one. -/
def Cyclic (edges : List ForeignKeyDependency) : Prop :=
  ∃ table, Relation.TransGen (Leads edges) table table

/-- A foreign key lies on a cycle: its child leads back to its parent. -/
def OnCycle (edges : List ForeignKeyDependency) (edge : ForeignKeyDependency) : Prop :=
  edge ∈ edges ∧ Relation.ReflTransGen (Leads edges) edge.childTable edge.parentTable

/-- The foreign keys that cannot be deferred. -/
def required (edges : List ForeignKeyDependency) : List ForeignKeyDependency :=
  edges.filter (! ·.nullable)

/-- Foreign keys are removed one after another, nullable ones that lie on a cycle of the rest. -/
def Deferrable : List ForeignKeyDependency → List ForeignKeyDependency → Prop
  | _, [] => True
  | edges, edge :: removed =>
    (edge.nullable ∧ OnCycle edges edge) ∧ Deferrable (edges.erase edge) removed

theorem Leads.mono (hsubset : edges ⊆ edges') (h : Leads edges x y) : Leads edges' x y := by
  obtain ⟨edge, hedge, hends⟩ := h
  exact ⟨edge, hsubset hedge, hends⟩

theorem Cyclic.mono (hsubset : edges ⊆ edges') (h : Cyclic edges) : Cyclic edges' := by
  obtain ⟨table, hcycle⟩ := h
  exact ⟨table, Relation.TransGen.mono (fun _ _ ↦ Leads.mono hsubset) _ _ hcycle⟩

/-- What can be deferred leaves the rest. -/
theorem Deferrable.required_subset (h : Deferrable edges removed) :
    required edges ⊆ edges.diff removed := by
  induction removed generalizing edges with
  | nil => exact fun edge hedge ↦ mem_of_mem_filter hedge
  | cons candidate removed ih =>
    obtain ⟨⟨hnullable, -⟩, hrest⟩ := h
    intro edge hedge
    rw [diff_cons]
    refine ih hrest (mem_filter.2 ⟨?_, (mem_filter.1 hedge).2⟩)
    have hne : edge ≠ candidate := by
      rintro rfl
      exact absurd (mem_filter.1 hedge).2 (by simp [hnullable])
    exact (mem_erase_of_ne hne).2 (mem_of_mem_filter hedge)

theorem mem_adjacency : y ∈ adjacency active x ↔ Leads active x y := by
  simp only [adjacency, mem_insertionSort, mem_dedup, mem_map, mem_filter,
    decide_eq_true_eq, Leads, and_assoc]

theorem reach_iff :
    Tarjan.Reach (adjacency active) x y ↔ Relation.ReflTransGen (Leads active) x y := by
  have heq : (fun x y ↦ y ∈ adjacency active x) = Leads active :=
    funext fun _ ↦ funext fun _ ↦ propext mem_adjacency
  rw [Tarjan.Reach, heq]

/-- A cycle through a table passes tables that it leads to and that lead to it. -/
theorem transGen_between {r : String → String → Prop} {z : String}
    (h : Relation.TransGen r x y) (hx : Relation.ReflTransGen r z x)
    (hy : Relation.ReflTransGen r y z) : Relation.TransGen (fun u v ↦ r u v ∧
      (Relation.ReflTransGen r z u ∧ Relation.ReflTransGen r u z) ∧
      Relation.ReflTransGen r z v ∧ Relation.ReflTransGen r v z) x y := by
  induction h with
  | single hedge => exact .single ⟨hedge, ⟨hx, .head hedge hy⟩, hx.tail hedge, hy⟩
  | tail hpath hedge ih =>
    have hback := hy.head hedge
    have hthere := hx.trans hpath.to_reflTransGen
    exact .tail (ih hback) ⟨hedge, ⟨hthere, hback⟩, hthere.tail hedge, hy⟩

/-! ### The components -/

/-- The tables of a cycle, with all that lead to them and that they lead to. -/
structure IsCycle (edges : List ForeignKeyDependency) (component : List String) : Prop where
  mem_iff : ∀ x ∈ component, ∀ y, y ∈ component ↔
    Relation.ReflTransGen (Leads edges) x y ∧ Relation.ReflTransGen (Leads edges) y x
  cycle : ∃ x ∈ component, Relation.TransGen (Leads edges) x x

/-- The foreign keys are between the tables. -/
def Between (tables : List String) (edges : List ForeignKeyDependency) : Prop :=
  ∀ edge ∈ edges, edge.childTable ∈ tables ∧ edge.parentTable ∈ tables

theorem Between.mono (hsubset : edges ⊆ edges') (h : Between tables edges') :
    Between tables edges :=
  fun edge hedge ↦ h edge (hsubset hedge)

/-- A foreign key within a cycle lies on it. -/
theorem IsCycle.onCycle (h : IsCycle edges component) (hedge : edge ∈ edges)
    (hchild : edge.childTable ∈ component) (hparent : edge.parentTable ∈ component) :
    OnCycle edges edge :=
  ⟨hedge, ((h.mem_iff edge.childTable hchild edge.parentTable).1 hparent).1⟩

/-- Where no foreign key of a cycle is nullable, the required ones are cyclic. -/
theorem IsCycle.cyclic_required (h : IsCycle edges component)
    (hnone : candidates edges component = []) : Cyclic (required edges) := by
  obtain ⟨x, hx, hcycle⟩ := h.cycle
  refine ⟨x, Relation.TransGen.mono ?_ _ _ (transGen_between hcycle .refl .refl)⟩
  rintro u v ⟨⟨edge, hedge, rfl, rfl⟩, hu, hv⟩
  refine ⟨edge, mem_filter.2 ⟨hedge, ?_⟩, rfl, rfl⟩
  have hchild := (h.mem_iff x hx edge.childTable).2 hv
  have hparent := (h.mem_iff x hx edge.parentTable).2 hu
  by_contra hnullable
  rw [Bool.not_eq_true', Bool.not_eq_false] at hnullable
  have hmem : edge ∈ candidates edges component := mem_sortByLabel.2
    (mem_filter.2 ⟨hedge, decide_eq_true ⟨hchild, hparent, hnullable⟩⟩)
  exact absurd (hnone ▸ hmem) not_mem_nil

theorem stronglyConnectedComponents_eq_ok
    (h : stronglyConnectedComponents depth tables active = .ok components) :
    (∀ component ∈ components, component.Nodup ∧ ∀ x ∈ component, ∀ y, y ∈ component ↔
      Relation.ReflTransGen (Leads active) x y ∧ Relation.ReflTransGen (Leads active) y x) ∧
    ∀ table ∈ tables, ∃ component ∈ components, table ∈ component := by
  rw [stronglyConnectedComponents, map_eq_ok] at h
  obtain ⟨s, hs, rfl⟩ := h
  obtain ⟨hcomps, hall⟩ := Tarjan.isComponents_of_visitAll (found_eq_ok.1 hs)
  constructor
  · intro component hmem
    rw [mem_insertionSort, mem_map] at hmem
    obtain ⟨found, hfound, rfl⟩ := hmem
    refine ⟨(perm_insertionSort _ _).nodup_iff.2
      ((nodup_flatten.1 hcomps.nodup).1 found hfound), fun x hx y ↦ ?_⟩
    rw [mem_insertionSort] at hx ⊢
    rw [hcomps.mem_iff hfound hx, reach_iff, reach_iff]
  · intro table htable
    obtain ⟨found, hfound, hmem⟩ := mem_flatten.1 (hall table htable)
    exact ⟨found.insertionSort (· ≤ ·), (mem_insertionSort _).2 (mem_map_of_mem hfound),
      (mem_insertionSort _).2 hmem⟩

/-- **A component is found cyclic** exactly where it contains a cycle. -/
theorem cyclic_iff (hnodup : component.Nodup) (hiff : ∀ x ∈ component, ∀ y, y ∈ component ↔
      Relation.ReflTransGen (Leads active) x y ∧ Relation.ReflTransGen (Leads active) y x) :
    (1 < component.length ∨ ∃ edge ∈ active, edge.childTable = edge.parentTable ∧
        component.head? = some edge.childTable) ↔
      ∃ x ∈ component, Relation.TransGen (Leads active) x x := by
  constructor
  · rintro (hlen | ⟨edge, hedge, hself, hhead⟩)
    · obtain ⟨x, y, rest, rfl⟩ : ∃ x y rest, component = x :: y :: rest := by
        obtain _ | ⟨x, _ | ⟨y, rest⟩⟩ := component
        · exact absurd hlen (by simp)
        · exact absurd hlen (by simp)
        · exact ⟨x, y, rest, rfl⟩
      have hne : x ≠ y := by
        rintro rfl
        exact (nodup_cons.1 hnodup).1 mem_cons_self
      have hy : y ∈ x :: y :: rest := mem_cons_of_mem _ mem_cons_self
      obtain ⟨hthere, hback⟩ := (hiff x mem_cons_self y).1 hy
      rcases Relation.reflTransGen_iff_eq_or_transGen.1 hthere with heq | hpath
      · exact absurd heq.symm hne
      · exact ⟨x, mem_cons_self, hpath.trans_left hback⟩
    · exact ⟨edge.childTable, mem_of_mem_head? (hhead ▸ rfl),
        .single ⟨edge, hedge, hself.symm, rfl⟩⟩
  · rintro ⟨x, hx, hcycle⟩
    obtain ⟨y, ⟨edge, hedge, rfl, rfl⟩, hback⟩ := Relation.TransGen.head'_iff.1 hcycle
    have hchild : edge.childTable ∈ component :=
      (hiff _ hx _).2 ⟨.single ⟨edge, hedge, rfl, rfl⟩, hback⟩
    refine or_iff_not_imp_left.2 fun hlen ↦ ?_
    obtain ⟨a, rfl⟩ := length_eq_one_iff.1
      (le_antisymm (not_lt.1 hlen) (length_pos_of_mem hchild))
    have hparent' := mem_singleton.1 hx
    have hchild' := mem_singleton.1 hchild
    exact ⟨edge, hedge, hchild'.trans hparent'.symm, congrArg some hchild'.symm⟩

theorem isCycle_of_cyclicComponents (h : cyclicComponents depth tables active = .ok components)
    (hcomp : component ∈ components) : IsCycle active component := by
  rw [cyclicComponents, map_eq_ok] at h
  obtain ⟨all, hall, rfl⟩ := h
  obtain ⟨hmem, hcyclic⟩ := mem_filter.1 hcomp
  obtain ⟨hnodup, hiff⟩ := (stronglyConnectedComponents_eq_ok hall).1 component hmem
  exact ⟨hiff, (cyclic_iff hnodup hiff).1 (of_decide_eq_true hcyclic)⟩

section

variable (hbetween : Between tables active)

include hbetween

/-- Where no cycle is found, there is none. -/
theorem not_cyclic_of_cyclicComponents
    (h : cyclicComponents depth tables active = .ok []) : ¬ Cyclic active := by
  rintro ⟨x, hcycle⟩
  rw [cyclicComponents, map_eq_ok] at h
  obtain ⟨all, hall, hnil⟩ := h
  obtain ⟨hclass, hcovers⟩ := stronglyConnectedComponents_eq_ok hall
  obtain ⟨_, ⟨edge, hedge, rfl, -⟩, -⟩ := Relation.TransGen.head'_iff.1 hcycle
  obtain ⟨component, hmem, hparent⟩ := hcovers edge.parentTable (hbetween edge hedge).2
  obtain ⟨hnodup, hiff⟩ := hclass component hmem
  have hnot := filter_eq_nil_iff.1 hnil component hmem
  rw [decide_eq_true_eq] at hnot
  exact hnot ((cyclic_iff hnodup hiff).2 ⟨_, hparent, hcycle⟩)

theorem adjacency_subset :
    ∀ x ∈ tables, adjacency active x ⊆ tables := by
  intro x _ y hy
  obtain ⟨edge, hedge, -, rfl⟩ := mem_adjacency.1 hy
  exact (hbetween edge hedge).1

theorem stronglyConnectedComponents_eq_error {e : MigrationError}
    (h : stronglyConnectedComponents depth tables active = .error e) :
    e = .recursionError ∧ depth < tables.length := by
  cases hvisit : Tarjan.visitAll (adjacency active) depth tables with
  | none =>
    rw [stronglyConnectedComponents, hvisit] at h
    refine ⟨(Except.error.inj h).symm, not_le.1 fun hle ↦ ?_⟩
    obtain ⟨s, hs⟩ := Tarjan.exists_visitAll (adjacency_subset hbetween) hle
    exact absurd (hvisit.symm.trans hs) (by simp)
  | some s =>
    rw [stronglyConnectedComponents, hvisit] at h
    exact absurd h (by simp [found, Except.map])

theorem cyclicComponents_eq_error {e : MigrationError}
    (h : cyclicComponents depth tables active = .error e) :
    e = .recursionError ∧ depth < tables.length := by
  cases hall : stronglyConnectedComponents depth tables active with
  | error e' =>
    rw [cyclicComponents, hall] at h
    exact Except.error.inj h ▸ stronglyConnectedComponents_eq_error hbetween hall
  | ok components =>
    rw [cyclicComponents, hall] at h
    exact absurd h (by simp [Except.map])

end

/-- The strongly connected components of the tables: every table is in one, and two tables are in
the same one just where each leads to the other. -/
structure AreComponents (tables : List String) (edges : List ForeignKeyDependency)
    (components : List (List String)) : Prop where
  perm : components.flatten.Perm tables
  nonempty : ∀ component ∈ components, component ≠ []
  mem_iff : ∀ component ∈ components, ∀ x ∈ component, ∀ y, y ∈ component ↔
    Relation.ReflTransGen (Leads edges) x y ∧ Relation.ReflTransGen (Leads edges) y x

/-- The components that contain a cycle, in their order. -/
structure AreCyclic (edges : List ForeignKeyDependency) (components cyclic : List (List String)) :
    Prop where
  sublist : cyclic.Sublist components
  mem_iff : ∀ component ∈ components,
    component ∈ cyclic ↔ ∃ x ∈ component, Relation.TransGen (Leads edges) x x

/-- **Tarjan's algorithm finds the components** of any tables and foreign keys, and those with a
cycle, unless it goes deeper than Python's recursion does. -/
theorem components_of_tables (depth : ℕ) (htables : tables.Nodup) (hbetween : Between tables edges) :
    (∃ components cyclic, stronglyConnectedComponents depth tables edges = .ok components ∧
      cyclicComponents depth tables edges = .ok cyclic ∧
      AreComponents tables edges components ∧ AreCyclic edges components cyclic) ∨
    (depth < tables.length ∧
      stronglyConnectedComponents depth tables edges = .error .recursionError ∧
      cyclicComponents depth tables edges = .error .recursionError) := by
  cases hall : stronglyConnectedComponents depth tables edges with
  | error e =>
    obtain ⟨rfl, hdepth⟩ := stronglyConnectedComponents_eq_error hbetween hall
    exact .inr ⟨hdepth, rfl, by rw [cyclicComponents, hall]; rfl⟩
  | ok components =>
    obtain ⟨hclass, -⟩ := stronglyConnectedComponents_eq_ok hall
    refine .inl ⟨components, _, rfl, by rw [cyclicComponents, hall]; rfl, ?_,
      filter_sublist, fun component hmem ↦ ?_⟩
    · rw [stronglyConnectedComponents, map_eq_ok] at hall
      obtain ⟨s, hs, rfl⟩ := hall
      have hvisit := found_eq_ok.1 hs
      have hclosed := adjacency_subset hbetween
      refine ⟨?_, fun component hmem ↦ ?_, fun component hmem ↦ (hclass component hmem).2⟩
      · refine ((perm_insertionSort _ _).flatten.trans ?_).trans
          (Tarjan.perm_of_visitAll htables hclosed hvisit)
        refine Perm.flatten_congr (forall₂_map_left_iff.2 ?_)
        exact forall₂_same.2 fun _ _ ↦ perm_insertionSort _ _
      · rw [mem_insertionSort, mem_map] at hmem
        obtain ⟨found, hfound, rfl⟩ := hmem
        have hne := (Tarjan.among_of_visitAll hclosed hvisit).nonempty found hfound
        exact fun hnil ↦ hne (perm_nil.1 (hnil ▸ (perm_insertionSort _ _).symm))
    · obtain ⟨hnodup, hiff⟩ := hclass component hmem
      rw [mem_filter, decide_eq_true_eq, cyclic_iff hnodup hiff]
      exact and_iff_right hmem

/-! ### The loop over the cycles -/

/-- What the loop raises: the recursion was not deep enough, or the required foreign keys are
cyclic. -/
def Raises (depth : ℕ) (tables : List String) (edges : List ForeignKeyDependency)
    (e : MigrationError) : Prop :=
  (e = .recursionError ∧ depth < tables.length) ∨
    (Cyclic (required edges) ∧ ∃ message, e = .sqliteToPostgres message)

theorem nextDeferred_yields (hbetween : Between tables active) :
    Yields (Raises depth tables active) (fun next ↦ match next with
      | none => ¬ Cyclic active
      | some edge => edge.nullable = true ∧ OnCycle active edge)
      (nextDeferred depth tables active) := by
  rw [nextDeferred]
  cases hcomps : cyclicComponents depth tables active with
  | error e => exact .inl (cyclicComponents_eq_error hbetween hcomps)
  | ok components =>
    cases components with
    | nil => exact not_cyclic_of_cyclicComponents hbetween hcomps
    | cons component components =>
      have hcycle := isCycle_of_cyclicComponents hcomps mem_cons_self
      show Yields _ _ (found (candidates active component).head? _ >>= fun candidate ↦ _)
      cases hcandidates : candidates active component with
      | nil => exact .inr ⟨hcycle.cyclic_required hcandidates, _, rfl⟩
      | cons edge rest =>
        have hmem : edge ∈ candidates active component := hcandidates ▸ mem_cons_self
        obtain ⟨hedge, hends⟩ := mem_filter.1 (mem_sortByLabel.1 hmem)
        obtain ⟨hchild, hparent, hnullable⟩ := of_decide_eq_true hends
        exact ⟨hnullable, hcycle.onCycle hedge hchild hparent⟩

/-- Enough rounds leave no cycle, or the recursion limit is met. -/
theorem breakCycles_yields (depth : ℕ) (deferred : List ForeignKeyDependency)
    (hbetween : Between tables active) (hrounds : active.length ≤ rounds) :
    Yields (Raises depth tables active) (fun result ↦ ∃ removed, Deferrable active removed ∧
      result = (active.diff removed, deferred ++ removed) ∧ ¬ Cyclic (active.diff removed))
      (breakCycles depth tables rounds active deferred) := by
  induction rounds generalizing active deferred with
  | zero =>
    rw [breakCycles]
    refine (nextDeferred_yields hbetween).bind fun next hnext ↦ ?_
    cases next with
    | none => exact ⟨[], trivial, by simp, hnext⟩
    | some edge =>
      have hnil : active = [] := length_eq_zero_iff.1 (Nat.le_zero.1 hrounds)
      exact absurd (hnil ▸ hnext.2.1) not_mem_nil
  | succ rounds ih =>
    rw [breakCycles]
    refine (nextDeferred_yields hbetween).bind fun next hnext ↦ ?_
    cases next with
    | none => exact ⟨[], trivial, by simp, hnext⟩
    | some edge =>
      have hlen : (active.erase edge).length ≤ rounds := by
        rw [length_erase_of_mem hnext.2.1]
        omega
      have hrest := ih (deferred ++ [edge]) (hbetween.mono erase_subset) hlen
      refine hrest.mono (fun e he ↦ ?_) fun result hresult ↦ ?_
      · refine he.imp_right fun hraise ↦ ⟨hraise.1.mono ?_, hraise.2⟩
        exact fun edge hedge ↦ mem_filter.2
          ⟨mem_of_mem_erase (mem_of_mem_filter hedge), (mem_filter.1 hedge).2⟩
      · obtain ⟨removed, hdeferrable, rfl, hacyclic⟩ := hresult
        refine ⟨edge :: removed, ⟨hnext, hdeferrable⟩, ?_, ?_⟩
        · rw [diff_cons, append_assoc]
          rfl
        · rwa [diff_cons]

/-! ### The plan -/

/-- A plan after the removal of foreign keys. -/
structure IsPlanWithout (schema : List TargetTable) (removed : List ForeignKeyDependency)
    (plan : DependencyPlan) : Prop where
  perm : plan.order.Perm (schema.map (·.name))
  deferred : plan.deferred = sortByLabel removed
  deferrable : Deferrable (dependencyEdges schema) removed
  before : ∀ edge ∈ (dependencyEdges schema).diff removed, ∀ earlier later,
    plan.order = earlier ++ edge.childTable :: later → edge.parentTable ∈ earlier

theorem between_dependencyEdges (schema : List TargetTable) :
    Between (tableNames schema) (dependencyEdges schema) := by
  intro edge hedge
  obtain ⟨table, htable, key, -, ⟨hreferred, -⟩, rfl⟩ := mem_dependencyEdges.1 hedge
  exact ⟨(tableNames_perm schema).mem_iff.2 (mem_map_of_mem htable),
    (tableNames_perm schema).mem_iff.2 hreferred⟩

/-- Without a cycle the order has every table. -/
theorem orderOf_length (htables : tables.Nodup) (hbetween : Between tables active)
    (hacyclic : ¬ Cyclic active) : (orderOf tables active).length = tables.length := by
  have hchildren : ∀ parent child, child ∈ childrenOf active parent → child ∈ tables := by
    intro parent child h
    obtain ⟨edge, hedge, rfl, -⟩ := mem_parentsOf.1 (mem_childrenOf.1 h)
    exact (hbetween edge hedge).1
  refine (Kahn.inv_start htables (perm_insertionSort _ _)).run_length htables
    (fun _ _ ↦ mem_childrenOf) childrenOf_nodup hchildren (fun c _ p hp ↦ ?_) fun c hcycle ↦ ?_
  · obtain ⟨edge, hedge, -, rfl, -⟩ := mem_parentsOf.1 hp
    exact (hbetween edge hedge).2
  · refine hacyclic ⟨c, Relation.TransGen.mono (fun p c hp ↦ ?_) _ _ hcycle⟩
    obtain ⟨edge, hedge, hchild, hparent, -⟩ := mem_parentsOf.1 hp
    exact ⟨edge, hedge, hparent, hchild⟩

theorem dependencyPlan_yields (depth : ℕ) (schema : List TargetTable)
    (hnames : (schema.map (·.name)).Nodup) :
    Yields
      (fun e ↦ (e = .recursionError ∧ depth < schema.length) ∨
        (Cyclic (required (dependencyEdges schema)) ∧ ∃ message, e = .sqliteToPostgres message))
      (fun plan ↦ ¬ Cyclic (required (dependencyEdges schema)) ∧
        ∃ removed, IsPlanWithout schema removed plan)
      (dependencyPlan depth schema) := by
  have hbetween := between_dependencyEdges schema
  have htables := (tableNames_perm schema).nodup_iff.2 hnames
  have hlen : (tableNames schema).length = schema.length := by
    rw [(tableNames_perm schema).length_eq, length_map]
  have hloop := breakCycles_yields depth [] hbetween le_rfl
  rw [dependencyPlan]
  refine (hloop.mono (fun e he ↦ ?_) fun _ h ↦ h).bind ?_
  · rwa [Raises, hlen] at he
  · rintro _ ⟨removed, hdeferrable, rfl, hacyclic⟩
    have hsubset : (dependencyEdges schema).diff removed ⊆ dependencyEdges schema :=
      (diff_sublist _ _).subset
    have horder := orderOf_length htables (hbetween.mono hsubset) hacyclic
    refine (Yields.require horder).bind fun _ _ ↦ ?_
    refine ⟨fun hcyclic ↦ hacyclic (hcyclic.mono hdeferrable.required_subset), removed, ?_⟩
    have hinv := inv_orderOf htables fun edge hedge ↦ (hbetween edge (hsubset hedge)).1
    refine ⟨(hinv.perm horder).trans (tableNames_perm schema), rfl, hdeferrable,
      fun edge hedge earlier later heq ↦ ?_⟩
    refine hinv.ordered earlier edge.childTable later heq _ (mem_parentsOf.2 ?_)
    refine ⟨edge, hedge, rfl, rfl, fun hself ↦ hacyclic ⟨edge.childTable, .single ?_⟩⟩
    exact ⟨edge, hedge, hself, rfl⟩

/-! ### A ring of tables -/

/-- The name of a table of a ring. -/
def ringName (i : ℕ) : String := String.ofList (List.replicate i 'a')

theorem nodup_id : ["id", "parent_id"].Nodup := by decide

/-- A table of a ring, with a nullable foreign key to the table before it. -/
def ringTable (n i : ℕ) : TargetTable where
  name := ringName i
  columns := [⟨"id", .integer⟩, ⟨"parent_id", .integer⟩]
  nodup := nodup_id
  nullable name := name = "parent_id"
  primaryKey := ["id"]
  foreignKeys := [⟨["parent_id"], ringName ((i + (n - 1)) % n), ["id"]⟩]

/-- So many tables. -/
def ring (n : ℕ) : List TargetTable := (List.range n).map (ringTable n)

theorem dependencyPlan_yields_example :
    Yields
      (fun e ↦ (e = .recursionError ∧ 1000 < (ring 2).length) ∨
        (Cyclic (required (dependencyEdges (ring 2))) ∧ ∃ message, e = .sqliteToPostgres message))
      (fun plan ↦ ¬ Cyclic (required (dependencyEdges (ring 2))) ∧
        ∃ removed, IsPlanWithout (ring 2) removed plan)
      (dependencyPlan 1000 (ring 2)) :=
  dependencyPlan_yields 1000 (ring 2) (by decide)

theorem ringName_injective : Function.Injective ringName := by
  intro i j h
  have hlen := congrArg length (String.ofList_injective h)
  rwa [length_replicate, length_replicate] at hlen

theorem ring_names (n : ℕ) : (ring n).map (·.name) = (List.range n).map ringName := by
  rw [ring, map_map]
  rfl

theorem ring_names_nodup (n : ℕ) : ((ring n).map (·.name)).Nodup := by
  rw [ring_names]
  exact nodup_range.map ringName_injective

theorem mem_dependencyEdges_ring : edge ∈ dependencyEdges (ring n) ↔
    ∃ i < n, (ringTable n i).dependency ⟨["parent_id"], ringName ((i + (n - 1)) % n), ["id"]⟩ =
      edge := by
  rw [mem_dependencyEdges]
  constructor
  · rintro ⟨table, htable, key, hkey, -, rfl⟩
    obtain ⟨i, hi, rfl⟩ := mem_map.1 htable
    obtain rfl := mem_singleton.1 hkey
    exact ⟨i, mem_range.1 hi, rfl⟩
  · rintro ⟨i, hi, rfl⟩
    refine ⟨ringTable n i, mem_map_of_mem (mem_range.2 hi), _, mem_cons_self,
      ⟨?_, by simp, rfl⟩, rfl⟩
    rw [ring_names]
    exact mem_map_of_mem (mem_range.2 (Nat.mod_lt _ (Nat.zero_lt_of_lt hi)))

/-- Every table leads to the next one only. -/
theorem adjacency_ring {i : ℕ} (hn : 0 < n) :
    adjacency (dependencyEdges (ring n)) (ringName (i % n)) = [ringName ((i + 1) % n)] := by
  have hnext : ∀ j < n, (j + (n - 1)) % n = i % n ↔ j = (i + 1) % n := by
    intro j hj
    rw [← Nat.ModEq, ← Nat.ModEq.add_iff_right (c := 1) rfl, add_assoc, Nat.sub_add_cancel hn,
      Nat.ModEq, Nat.add_mod_right, Nat.mod_eq_of_lt hj]
  have hnodup : (adjacency (dependencyEdges (ring n)) (ringName (i % n))).Nodup :=
    (perm_insertionSort _ _).nodup_iff.2 (nodup_dedup _)
  refine perm_singleton.1 ((perm_ext_iff_of_nodup hnodup (nodup_singleton _)).2
    fun table ↦ ?_)
  rw [mem_adjacency, mem_singleton, Leads]
  constructor
  · rintro ⟨edge, hedge, hparent, rfl⟩
    obtain ⟨j, hj, rfl⟩ := mem_dependencyEdges_ring.1 hedge
    exact congrArg ringName ((hnext j hj).1 (ringName_injective hparent))
  · rintro rfl
    refine ⟨_, mem_dependencyEdges_ring.2 ⟨(i + 1) % n, Nat.mod_lt _ hn, rfl⟩, ?_, rfl⟩
    exact congrArg ringName ((hnext _ (Nat.mod_lt _ hn)).2 rfl)

/-- The recursion goes around the ring. -/
theorem stronglyConnectedComponents_ring (hn : depth < n) : stronglyConnectedComponents depth
    (tableNames (ring n)) (dependencyEdges (ring n)) = .error .recursionError := by
  have hpos : 0 < n := Nat.zero_lt_of_lt hn
  suffices hvisit : Tarjan.visitAll (adjacency (dependencyEdges (ring n))) depth
      (tableNames (ring n)) = none by
    rw [stronglyConnectedComponents, hvisit]
    rfl
  obtain ⟨table, rest, htables⟩ : ∃ table rest, tableNames (ring n) = table :: rest := by
    refine exists_cons_of_length_pos ?_
    rw [(tableNames_perm (ring n)).length_eq, ring_names, length_map, length_range]
    exact hpos
  have hmem : table ∈ (ring n).map (·.name) :=
    (tableNames_perm (ring n)).mem_iff.1 (htables ▸ mem_cons_self)
  rw [ring_names, mem_map] at hmem
  obtain ⟨i, hi, rfl⟩ := hmem
  let path : ℕ → String := fun j ↦ ringName ((i + j) % n)
  have hfail : Tarjan.visit (adjacency (dependencyEdges (ring n))) depth {} (path 0) = none := by
    refine Tarjan.visit_eq_none (fun j ↦ adjacency_ring hpos) (fun j k _ hjk hk heq ↦ ?_)
      fun _ _ _ ↦ rfl
    have hmod : Nat.ModEq n (i + j) (i + k) := ringName_injective heq
    have hmod' := Nat.ModEq.add_left_cancel' i hmod
    rw [Nat.ModEq, Nat.mod_eq_of_lt (by omega), Nat.mod_eq_of_lt (by omega)] at hmod'
    omega
  have hstart : path 0 = ringName i := congrArg ringName (Nat.mod_eq_of_lt (mem_range.1 hi))
  rw [htables, Tarjan.visitAll, foldlM_cons, if_pos rfl, ← hstart, hfail]
  rfl

theorem dependencyPlan_ring (hn : depth < n) :
    dependencyPlan depth (ring n) = .error .recursionError := by
  have hcomps : cyclicComponents depth (tableNames (ring n)) (dependencyEdges (ring n)) =
      .error .recursionError := by
    rw [cyclicComponents, stronglyConnectedComponents_ring hn]
    rfl
  have hbreak : ∀ rounds, breakCycles depth (tableNames (ring n)) rounds
      (dependencyEdges (ring n)) [] = .error .recursionError := by
    intro rounds
    cases rounds with
    | zero => rw [breakCycles, nextDeferred, hcomps]; rfl
    | succ rounds => rw [breakCycles, nextDeferred, hcomps]; rfl
  rw [dependencyPlan, hbreak]
  rfl

/-- With Python's recursion limit there is no plan for a ring of 1001 tables, though each of its
foreign keys can be deferred. -/
theorem not_dependencyPlan : ¬ ∀ schema : List TargetTable, (schema.map (·.name)).Nodup →
    ((∃ e, dependencyPlan 1000 schema = .error e) ↔
      Cyclic (required (dependencyEdges schema))) := by
  intro h
  obtain ⟨table, hcycle⟩ := (h (ring 1001) (ring_names_nodup 1001)).1
    ⟨_, dependencyPlan_ring (by omega)⟩
  obtain ⟨_, ⟨edge, hedge, -⟩, -⟩ := Relation.TransGen.head'_iff.1 hcycle
  obtain ⟨hmem, hrequired⟩ := mem_filter.1 hedge
  obtain ⟨i, -, rfl⟩ := mem_dependencyEdges_ring.1 hmem
  exact absurd hrequired (by simp [TargetTable.dependency, ringTable])

/-- The two tables of a ring are one component, which is cyclic. -/
theorem components_of_tables_example :
    ∃ components cyclic,
      stronglyConnectedComponents 1000 (tableNames (ring 2)) (dependencyEdges (ring 2)) =
        .ok components ∧
      cyclicComponents 1000 (tableNames (ring 2)) (dependencyEdges (ring 2)) = .ok cyclic ∧
      AreComponents (tableNames (ring 2)) (dependencyEdges (ring 2)) components ∧
      AreCyclic (dependencyEdges (ring 2)) components cyclic := by
  refine (components_of_tables 1000 ((tableNames_perm (ring 2)).nodup_iff.2 (ring_names_nodup 2))
    (between_dependencyEdges (ring 2))).resolve_right fun hdeep ↦ ?_
  rw [(tableNames_perm (ring 2)).length_eq] at hdeep
  exact absurd hdeep.1 (by decide)

/-- With Python's recursion limit nothing is returned for a ring of 1001 tables. -/
theorem not_components_of_tables : ¬ ∀ (tables : List String) (edges : List ForeignKeyDependency),
    tables.Nodup → Between tables edges →
      ∃ components, stronglyConnectedComponents 1000 tables edges = .ok components := by
  intro h
  obtain ⟨components, hok⟩ := h (tableNames (ring 1001)) (dependencyEdges (ring 1001))
    ((tableNames_perm (ring 1001)).nodup_iff.2 (ring_names_nodup 1001))
    (between_dependencyEdges (ring 1001))
  exact absurd ((stronglyConnectedComponents_ring (by omega)).symm.trans hok) (by simp)

end Kaya.Migration
