import Kaya.Library.Kahn
import Kaya.Library.Tarjan
import Kaya.Migration.Values

/-!
# The order of the tables

`_dependency_plan`: foreign keys within a cycle are deferred one after another, the first nullable
one of the first cycle, until there is no cycle; then the tables are ordered by Kahn's algorithm.
Cycles are found by Tarjan's algorithm, which Python runs to a limited depth.

What a plan says is `IsPlan`: it has every table once, it defers nullable foreign keys only, and the
parent of every other foreign key is another table that comes before. The cycles that go to the
report are left out.
-/

namespace Kaya.Migration

open List

/-! ### Dependencies -/

/-- A foreign key, as the inspector reflects it. -/
structure ForeignKey where
  constrainedColumns : List String
  referredTable : String
  referredColumns : List String

/-- A table of the target. -/
structure TargetTable extends TableSchema where
  nullable : String → Bool
  primaryKey : List String
  foreignKeys : List ForeignKey

/-- `ForeignKeyDependency`. -/
structure ForeignKeyDependency where
  childTable : String
  childColumns : List String
  parentTable : String
  parentColumns : List String
  nullable : Bool
  deriving DecidableEq

/-- `label`. -/
def ForeignKeyDependency.label (edge : ForeignKeyDependency) : String :=
  edge.childTable ++ "." ++ ",".intercalate edge.childColumns ++ "->" ++ edge.parentTable ++ "." ++
    ",".intercalate edge.parentColumns

/-- `sorted(edges, key=lambda edge: edge.label)`. -/
def sortByLabel (edges : List ForeignKeyDependency) : List ForeignKeyDependency :=
  edges.insertionSort fun edge edge' ↦ edge.label ≤ edge'.label

/-- The dependency of a foreign key. -/
def TargetTable.dependency (table : TargetTable) (key : ForeignKey) : ForeignKeyDependency where
  childTable := table.name
  childColumns := key.constrainedColumns
  parentTable := key.referredTable
  parentColumns := key.referredColumns
  nullable := key.constrainedColumns.all table.nullable

/-- The names of the tables, sorted. -/
def tableNames (schema : List TargetTable) : List String :=
  (schema.map (·.name)).insertionSort (· ≤ ·)

/-- The edges of `_dependency_edges`. -/
def dependencyEdges (schema : List TargetTable) : List ForeignKeyDependency :=
  sortByLabel <| schema.flatMap fun table ↦
    (table.foreignKeys.filter fun key ↦ key.referredTable ∈ tableNames schema ∧
      key.constrainedColumns ≠ [] ∧
      key.constrainedColumns.length = key.referredColumns.length).map table.dependency

/-! ### The plan -/

/-- `adjacency`, sorted. -/
def adjacency (edges : List ForeignKeyDependency) (table : String) : List String :=
  ((edges.filter (·.parentTable = table)).map (·.childTable)).dedup.insertionSort (· ≤ ·)

/-- `_strongly_connected_components`, where the recursion goes no deeper than `depth`. -/
def stronglyConnectedComponents (depth : ℕ) (tables : List String)
    (edges : List ForeignKeyDependency) : Except MigrationError (List (List String)) :=
  (found (Tarjan.visitAll (adjacency edges) depth tables) .recursionError).map fun s ↦
    (s.components.map (List.insertionSort (· ≤ ·))).insertionSort (· ≤ ·)

/-- `_cyclic_components`. -/
def cyclicComponents (depth : ℕ) (tables : List String) (edges : List ForeignKeyDependency) :
    Except MigrationError (List (List String)) :=
  (stronglyConnectedComponents depth tables edges).map fun components ↦
    components.filter fun component ↦ 1 < component.length ∨
      ∃ edge ∈ edges, edge.childTable = edge.parentTable ∧ component.head? = some edge.childTable

/-- The edges of a cycle that can be deferred. -/
def candidates (edges : List ForeignKeyDependency) (component : List String) :
    List ForeignKeyDependency :=
  sortByLabel <| edges.filter fun edge ↦
    edge.childTable ∈ component ∧ edge.parentTable ∈ component ∧ edge.nullable

/-- One round of the loop over `cycles`: the edge to defer, if there is a cycle. -/
def nextDeferred (depth : ℕ) (tables : List String) (active : List ForeignKeyDependency) :
    Except MigrationError (Option ForeignKeyDependency) := do
  match ← cyclicComponents depth tables active with
  | [] => return none
  | component :: _ =>
    let candidate ← found (candidates active component).head? (.sqliteToPostgres
      ("Foreign-key cycle has no nullable edge that can be safely deferred: " ++
        ", ".intercalate component ++ "."))
    return some candidate

/-- The loop over `cycles`, with `active_edges` and `deferred`. Every round takes an edge, so that
there are no more rounds than edges. -/
def breakCycles (depth : ℕ) (tables : List String) :
    ℕ → List ForeignKeyDependency → List ForeignKeyDependency →
      Except MigrationError (List ForeignKeyDependency × List ForeignKeyDependency)
  | rounds, active, deferred => do
    match ← nextDeferred depth tables active with
    | none => return (active, deferred)
    | some candidate =>
      match rounds with
      | 0 => .error .recursionError
      | rounds + 1 =>
        breakCycles depth tables rounds (active.erase candidate) (deferred ++ [candidate])

/-- `parents`. -/
def parentsOf (active : List ForeignKeyDependency) (table : String) : List String :=
  ((active.filter fun edge ↦ edge.childTable = table ∧ edge.parentTable ≠ table).map
    (·.parentTable)).dedup

/-- `children`, sorted. -/
def childrenOf (active : List ForeignKeyDependency) (table : String) : List String :=
  ((active.filter fun edge ↦ edge.parentTable = table ∧ edge.childTable ≠ table).map
    (·.childTable)).dedup.insertionSort (· ≤ ·)

/-- `ordered`. -/
def orderOf (tables : List String) (active : List ForeignKeyDependency) : List String :=
  (Kahn.run (childrenOf active) tables.length
    { parents := parentsOf active
      ready := (tables.filter fun table ↦ parentsOf active table = []).insertionSort (· ≤ ·) }
  ).ordered

/-- `DependencyPlan`. -/
structure DependencyPlan where
  order : List String
  deferred : List ForeignKeyDependency
  deriving DecidableEq

/-- `_dependency_plan`. -/
def dependencyPlan (depth : ℕ) (schema : List TargetTable) :
    Except MigrationError DependencyPlan := do
  let tables := tableNames schema
  let edges := dependencyEdges schema
  let (active, deferred) ← breakCycles depth tables edges.length edges []
  require ((orderOf tables active).length = tables.length)
    (.sqliteToPostgres "Unable to produce a complete foreign-key-safe table order.")
  return { order := orderOf tables active, deferred := sortByLabel deferred }

/-! ### What a plan says -/

variable {depth rounds : ℕ} {tables : List String} {active deferred : List ForeignKeyDependency}
  {edge : ForeignKeyDependency}

theorem mem_sortByLabel {edges : List ForeignKeyDependency} :
    edge ∈ sortByLabel edges ↔ edge ∈ edges :=
  mem_insertionSort _

/-- Where there is no cycle, no table refers to itself. -/
theorem ne_of_cyclicComponents (h : cyclicComponents depth tables active = .ok [])
    (hedge : edge ∈ active) (htable : edge.childTable ∈ tables) :
    edge.parentTable ≠ edge.childTable := by
  intro heq
  rw [cyclicComponents, map_eq_ok] at h
  obtain ⟨components, hcomps, hnil⟩ := h
  rw [stronglyConnectedComponents, map_eq_ok] at hcomps
  obtain ⟨s, hs, rfl⟩ := hcomps
  obtain ⟨component, hmem, htable'⟩ := mem_flatten.1
    ((Tarjan.isComponents_of_visitAll (found_eq_ok.1 hs)).2 edge.childTable htable)
  have hsorted : edge.childTable ∈ component.insertionSort (· ≤ ·) :=
    (mem_insertionSort _).2 htable'
  have hacyclic := filter_eq_nil_iff.1 hnil (component.insertionSort (· ≤ ·))
    ((mem_insertionSort _).2 (mem_map_of_mem hmem))
  rw [decide_eq_true_eq, not_or] at hacyclic
  obtain ⟨hlen, hself⟩ := hacyclic
  obtain ⟨a, ha⟩ := length_eq_one_iff.1
    (le_antisymm (not_lt.1 hlen) (length_pos_of_mem hsorted))
  rw [ha] at hsorted hself
  exact hself ⟨edge, hedge, heq.symm, congrArg some (mem_singleton.1 hsorted).symm⟩

theorem nextDeferred_eq_none (h : nextDeferred depth tables active = .ok none) :
    cyclicComponents depth tables active = .ok [] := by
  rw [nextDeferred, bind_eq_ok] at h
  obtain ⟨components, hcomps, h⟩ := h
  cases components with
  | nil => exact hcomps
  | cons component components =>
    obtain ⟨candidate, -, h⟩ := bind_eq_ok.1 h
    exact absurd (pure_eq_ok.1 h) (by simp)

theorem nextDeferred_eq_some (h : nextDeferred depth tables active = .ok (some edge)) :
    edge ∈ active ∧ edge.nullable = true := by
  rw [nextDeferred, bind_eq_ok] at h
  obtain ⟨components, hcomps, h⟩ := h
  cases components with
  | nil => exact absurd (pure_eq_ok.1 h) (by simp)
  | cons component components =>
    obtain ⟨candidate, hcand, h⟩ := bind_eq_ok.1 h
    obtain rfl := Option.some.inj (pure_eq_ok.1 h)
    have hmem := mem_sortByLabel.1 (mem_of_head? (found_eq_ok.1 hcand))
    obtain ⟨hlive, hnullable⟩ := mem_filter.1 hmem
    exact ⟨hlive, (of_decide_eq_true hnullable).2.2⟩

/-- What the loop over the cycles leaves. -/
structure Broken (depth : ℕ) (tables : List String) (active deferred : List ForeignKeyDependency)
    (result : List ForeignKeyDependency × List ForeignKeyDependency) : Prop where
  acyclic : cyclicComponents depth tables result.1 = .ok []
  mem : ∀ edge ∈ result.1, edge ∈ active
  nullable : ∀ edge ∈ result.2, edge ∈ deferred ∨ (edge ∈ active ∧ edge.nullable = true)
  kept : ∀ edge ∈ deferred, edge ∈ result.2
  all : ∀ edge ∈ active, edge ∈ result.1 ∨ edge ∈ result.2

/-- What the rounds that break cycles have deferred. -/
theorem broken_of_breakCycles {result : List ForeignKeyDependency × List ForeignKeyDependency}
    (h : breakCycles depth tables rounds active deferred = .ok result) :
    Broken depth tables active deferred result := by
  induction rounds generalizing active deferred with
  | zero =>
    rw [breakCycles, bind_eq_ok] at h
    obtain ⟨next, hnext, h⟩ := h
    cases next with
    | none =>
      obtain rfl := pure_eq_ok.1 h
      exact ⟨nextDeferred_eq_none hnext, fun _ h ↦ h, fun _ h ↦ .inl h, fun _ h ↦ h,
        fun _ h ↦ .inl h⟩
    | some candidate => exact absurd h (by simp)
  | succ rounds ih =>
    rw [breakCycles, bind_eq_ok] at h
    obtain ⟨next, hnext, h⟩ := h
    cases next with
    | none =>
      obtain rfl := pure_eq_ok.1 h
      exact ⟨nextDeferred_eq_none hnext, fun _ h ↦ h, fun _ h ↦ .inl h, fun _ h ↦ h,
        fun _ h ↦ .inl h⟩
    | some candidate =>
      obtain ⟨hmem, hnullable⟩ := nextDeferred_eq_some hnext
      have hrest := ih h
      refine ⟨hrest.acyclic, fun edge hedge ↦ mem_of_mem_erase (hrest.mem edge hedge),
        fun edge hedge ↦ ?_, fun edge hedge ↦ hrest.kept edge (mem_append_left _ hedge),
        fun edge hedge ↦ ?_⟩
      · rcases hrest.nullable edge hedge with hdeferred | ⟨hlive, hnull⟩
        · rcases mem_append.1 hdeferred with hdeferred | hnew
          · exact .inl hdeferred
          · obtain rfl := mem_singleton.1 hnew
            exact .inr ⟨hmem, hnullable⟩
        · exact .inr ⟨mem_of_mem_erase hlive, hnull⟩
      · rcases eq_or_ne edge candidate with rfl | hne
        · exact .inr (hrest.kept edge (mem_append_right _ mem_cons_self))
        · exact hrest.all edge ((mem_erase_of_ne hne).2 hedge)

theorem mem_parentsOf {parent table : String} : parent ∈ parentsOf active table ↔
    ∃ edge ∈ active, edge.childTable = table ∧ edge.parentTable = parent ∧ parent ≠ table := by
  simp only [parentsOf, mem_dedup, mem_map, mem_filter, decide_eq_true_eq]
  constructor
  · rintro ⟨edge, ⟨hmem, hchild, hne⟩, rfl⟩
    exact ⟨edge, hmem, hchild, rfl, hne⟩
  · rintro ⟨edge, hmem, hchild, rfl, hne⟩
    exact ⟨edge, ⟨hmem, hchild, hne⟩, rfl⟩

theorem mem_childrenOf {table child : String} :
    child ∈ childrenOf active table ↔ table ∈ parentsOf active child := by
  simp only [childrenOf, mem_insertionSort, mem_dedup, mem_map, mem_filter,
    decide_eq_true_eq, mem_parentsOf]
  constructor
  · rintro ⟨edge, ⟨hmem, rfl, hne⟩, rfl⟩
    exact ⟨edge, hmem, rfl, rfl, hne.symm⟩
  · rintro ⟨edge, hmem, rfl, rfl, hne⟩
    exact ⟨edge, ⟨hmem, rfl, hne.symm⟩, rfl⟩

theorem childrenOf_nodup (table : String) : (childrenOf active table).Nodup :=
  (perm_insertionSort _ _).nodup_iff.2 (nodup_dedup _)

/-- The order, for edges between the tables. -/
theorem inv_orderOf (htables : tables.Nodup) (hlive : ∀ edge ∈ active, edge.childTable ∈ tables) :
    Kahn.Inv (parentsOf active) tables (Kahn.run (childrenOf active) tables.length
      { parents := parentsOf active
        ready := (tables.filter fun table ↦ parentsOf active table = []).insertionSort (· ≤ ·) }) :=
  by
  have hchildren : ∀ parent child, child ∈ childrenOf active parent → child ∈ tables := by
    intro parent child h
    obtain ⟨edge, hedge, rfl, -⟩ := mem_parentsOf.1 (mem_childrenOf.1 h)
    exact hlive edge hedge
  exact (Kahn.inv_start htables (perm_insertionSort _ _)).run (fun _ _ ↦ mem_childrenOf)
    childrenOf_nodup hchildren tables.length

/-- What a plan says. -/
structure IsPlan (schema : List TargetTable) (plan : DependencyPlan) : Prop where
  perm : plan.order.Perm (schema.map (·.name))
  nullable : ∀ edge ∈ plan.deferred, edge ∈ dependencyEdges schema ∧ edge.nullable = true
  before : ∀ edge ∈ dependencyEdges schema, edge ∈ plan.deferred ∨
    ∀ earlier later, plan.order = earlier ++ edge.childTable :: later → edge.parentTable ∈ earlier

theorem tableNames_perm (schema : List TargetTable) :
    (tableNames schema).Perm (schema.map (·.name)) :=
  perm_insertionSort _ _

theorem mem_dependencyEdges {schema : List TargetTable} : edge ∈ dependencyEdges schema ↔
    ∃ table ∈ schema, ∃ key ∈ table.foreignKeys, (key.referredTable ∈ schema.map (·.name) ∧
      key.constrainedColumns ≠ [] ∧ key.constrainedColumns.length = key.referredColumns.length) ∧
        table.dependency key = edge := by
  rw [dependencyEdges, mem_sortByLabel]
  simp only [mem_flatMap, mem_map, mem_filter, decide_eq_true_eq,
    (tableNames_perm schema).mem_iff, and_assoc]

theorem isPlan_of_dependencyPlan {schema : List TargetTable} {plan : DependencyPlan}
    (hnames : (schema.map (·.name)).Nodup) (h : dependencyPlan depth schema = .ok plan) :
    IsPlan schema plan := by
  rw [dependencyPlan, bind_eq_ok] at h
  obtain ⟨⟨active, deferred⟩, hresult, h⟩ := h
  obtain ⟨_, hlen, h⟩ := bind_eq_ok.1 h
  obtain rfl := pure_eq_ok.1 h
  have hbroken := broken_of_breakCycles hresult
  have hchild : ∀ edge ∈ dependencyEdges schema, edge.childTable ∈ tableNames schema := by
    intro edge hedge
    obtain ⟨table, htable, key, -, -, rfl⟩ := mem_dependencyEdges.1 hedge
    exact (tableNames_perm schema).mem_iff.2 (mem_map_of_mem htable)
  have hinv := inv_orderOf ((tableNames_perm schema).nodup_iff.2 hnames)
    fun edge hedge ↦ hchild edge (hbroken.mem edge hedge)
  have hperm : (orderOf (tableNames schema) active).Perm (tableNames schema) :=
    hinv.perm (require_eq_ok.1 hlen)
  refine ⟨hperm.trans (tableNames_perm schema), fun edge hedge ↦ ?_, fun edge hedge ↦ ?_⟩
  · exact (hbroken.nullable edge (mem_sortByLabel.1 hedge)).resolve_left not_mem_nil
  · rcases hbroken.all edge hedge with hlive | hdeferred
    · refine .inr fun earlier later horder ↦ ?_
      refine hinv.ordered earlier edge.childTable later horder _ (mem_parentsOf.2 ?_)
      exact ⟨edge, hlive, rfl, rfl,
        ne_of_cyclicComponents hbroken.acyclic hlive (hchild edge hedge)⟩
    · exact .inl (mem_sortByLabel.2 hdeferred)

end Kaya.Migration
