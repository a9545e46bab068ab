import Kaya.Flow.Steps

/-!
# Accounting in another order

The datagrams of an exporter arrive in any order, and `_accounting_aggregate` folds each record into
the row of its bucket and class. Sums, extremes and the two `partial` and `mixed` markers do not mind
the order; the confidence is the one of the class. The reason of an unresolved attribution does: a
row without a reason takes over the one of the next record, but a row with a reason becomes `mixed`
on meeting a record without one. `orderFree_iff` says which records can be told apart by their order.
-/

namespace Kaya.Flow

open List

variable {clock : HostClock} {inv : Inventory}

/-! ### The row of a bucket -/

/-- The unique key of a classified row. -/
abbrev AccountingKey := ℕ × String × DateTime × ℕ × TrafficClass

/-- The posting is counted in the row of this bucket and class. -/
def CountsIn (clock : HostClock) (inv : Inventory) (k : AccountingKey) (p : Posting) : Prop :=
  ∃ row ∈ accountingRows clock inv p, row.key = k

instance (clock : HostClock) (inv : Inventory) (k : AccountingKey) (p : Posting) :
    Decidable (CountsIn clock inv k p) :=
  inferInstanceAs (Decidable (∃ row ∈ accountingRows clock inv p, row.key = k))

/-- `_accounting_aggregate` on one record after another. -/
def accountAll (clock : HostClock) (s : Session) (ps : List Posting) : Session :=
  ps.foldl (accountingAggregate clock) s

/-- The stored row of a bucket and class. -/
def accountingRowAt (k : AccountingKey) (s : Session) : Option TrafficFlowAccountingAggregate :=
  Ledger.rowAt TrafficFlowAccountingAggregate.key k s.accountingAggregates

/-- Any other order of the records leaves the same row. -/
def OrderFree (clock : HostClock) (s : Session) (k : AccountingKey) (ps : List Posting) : Prop :=
  ∀ qs : List Posting, qs.Perm ps →
    accountingRowAt k (accountAll clock s qs) = accountingRowAt k (accountAll clock s ps)

/-- Why the record of a posting is unresolved, if it is. -/
def Posting.unresolvedReason (inv : Inventory) (p : Posting) : Option UnresolvedReason :=
  (resolveFlowAttribution inv p.record).unresolvedReason

/-- Resolved records are among unresolved ones that all have the same reason. -/
def ReasonsMixed (inv : Inventory) (ps : List Posting) : Prop :=
  (∃ p ∈ ps, p.unresolvedReason inv = none) ∧
    ∃ reason, (∃ p ∈ ps, p.unresolvedReason inv = some reason) ∧
      ∀ p ∈ ps, ∀ reason' ∈ p.unresolvedReason inv, reason' = reason

/-! ### Reasons -/

/-- What `_accounting_aggregate` makes of a stored and of a new reason. -/
def mergeReason (stored new : Option UnresolvedReason) : Option UnresolvedReason :=
  match stored with
  | none => new
  | some reason => if new = some reason then some reason else some .mixed

section Reasons

variable {reasons : List (Option UnresolvedReason)} {reason : UnresolvedReason}

/-- From a reason on, only records with the same one keep it. -/
theorem foldl_mergeReason_some (reason : UnresolvedReason) (l : List (Option UnresolvedReason)) :
    l.foldl mergeReason (some reason) =
      if ∀ new ∈ l, new = some reason then some reason else some .mixed := by
  induction l generalizing reason with
  | nil => rw [foldl_nil, if_pos (forall_mem_nil _)]
  | cons new l ih =>
    rw [foldl_cons, mergeReason]
    by_cases h : new = some reason
    · rw [if_pos h, ih]
      simp only [forall_mem_cons, h, true_and]
    · rw [if_neg h, ih, ite_self, if_neg fun hall ↦ h (hall new mem_cons_self)]

theorem foldl_mergeReason_none (h : ∀ new ∈ reasons, new = none) :
    reasons.foldl mergeReason none = none := by
  induction reasons with
  | nil => rfl
  | cons new l ih =>
    obtain ⟨rfl, hl⟩ := forall_mem_cons.1 h
    exact ih hl

theorem foldl_mergeReason_of_same (hne : reasons ≠ []) (h : ∀ new ∈ reasons, new = some reason) :
    reasons.foldl mergeReason none = some reason := by
  obtain ⟨new, l, rfl⟩ := exists_cons_of_ne_nil hne
  obtain ⟨rfl, hl⟩ := forall_mem_cons.1 h
  rw [foldl_cons, mergeReason, foldl_mergeReason_some, if_pos hl]

/-- Two reasons that differ leave `mixed`, whatever else there is and in which order. -/
theorem foldl_mergeReason_of_ne {reason' : UnresolvedReason} (hne : reason ≠ reason')
    (h : some reason ∈ reasons) (h' : some reason' ∈ reasons) :
    reasons.foldl mergeReason none = some .mixed := by
  induction reasons with
  | nil => exact absurd h not_mem_nil
  | cons new l ih =>
    cases new with
    | none =>
      have hl := (mem_cons.1 h).resolve_left (Option.some_ne_none reason)
      exact ih hl ((mem_cons.1 h').resolve_left (Option.some_ne_none reason'))
    | some first =>
      have hother : ∃ new ∈ l, new ≠ some first := by
        by_cases hfirst : reason = first
        · subst hfirst
          have hdiff : some reason' ≠ some reason := fun he ↦ hne (Option.some.inj he).symm
          exact ⟨_, (mem_cons.1 h').resolve_left hdiff, hdiff⟩
        · have hdiff : some reason ≠ some first := fun he ↦ hfirst (Option.some.inj he)
          exact ⟨_, (mem_cons.1 h).resolve_left hdiff, hdiff⟩
      obtain ⟨new, hnew, hdiff⟩ := hother
      rw [foldl_cons, mergeReason, foldl_mergeReason_some, if_neg fun hall ↦ hdiff (hall new hnew)]

/-- The reasons of some records are settled by their order only when missing ones are among equal
ones. -/
theorem foldl_mergeReason_perm {reasons' : List (Option UnresolvedReason)}
    (hperm : reasons'.Perm reasons)
    (h : none ∈ reasons → (∃ reason, some reason ∈ reasons) →
      ∃ reason reason', reason ≠ reason' ∧ some reason ∈ reasons ∧ some reason' ∈ reasons) :
    reasons'.foldl mergeReason none = reasons.foldl mergeReason none := by
  by_cases hdiff : ∃ reason reason', reason ≠ reason' ∧ some reason ∈ reasons ∧
      some reason' ∈ reasons
  · obtain ⟨reason, reason', hne, hmem, hmem'⟩ := hdiff
    rw [foldl_mergeReason_of_ne hne hmem hmem',
      foldl_mergeReason_of_ne hne (hperm.mem_iff.2 hmem) (hperm.mem_iff.2 hmem')]
  by_cases hsome : ∃ reason, some reason ∈ reasons
  · obtain ⟨reason, hreason⟩ := hsome
    have hnone : none ∉ reasons := fun hnone ↦ hdiff (h hnone ⟨reason, hreason⟩)
    have hsame : ∀ new ∈ reasons, new = some reason := by
      intro new hnew
      cases new with
      | none => exact absurd hnew hnone
      | some reason' =>
        by_contra hne
        exact hdiff ⟨reason', reason, fun he ↦ hne (congrArg some he), hnew, hreason⟩
    rw [foldl_mergeReason_of_same (ne_nil_of_mem hreason) hsame,
      foldl_mergeReason_of_same (ne_nil_of_mem (hperm.mem_iff.2 hreason))
        fun new hnew ↦ hsame new (hperm.mem_iff.1 hnew)]
  · have hnone : ∀ new ∈ reasons, new = none := by
      intro new hnew
      cases new with
      | none => rfl
      | some reason => exact absurd ⟨reason, hnew⟩ hsome
    rw [foldl_mergeReason_none hnone,
      foldl_mergeReason_none fun new hnew ↦ hnone new (hperm.mem_iff.1 hnew)]

end Reasons

/-! ### The row a record adds -/

/-- The confidence of a classification is the one of its class. -/
def classConfidence : TrafficClass → Confidence
  | .wanInbound | .wanOutbound | .internalLan => .high
  | .internetDownload | .internetUpload => .medium
  | .vpnTunnel => .low
  | .unknown => .unknown

theorem classifyFlow_confidence (record : NormalizedFlowRecord) (interfaces : List TrafficInterface)
    (networks : List IPNet) : (classifyFlow record interfaces networks).confidence =
      classConfidence (classifyFlow record interfaces networks).trafficClass := by
  unfold classifyFlow
  dsimp only
  split_ifs <;> rfl

/-- An attribution is resolved, or it says why not. -/
theorem resolveFlowAttribution_cases (inv : Inventory) (record : NormalizedFlowRecord)
    (address : Option IPAddr) :
    ((resolveFlowAttribution inv record address).state = .resolved ∧
      (resolveFlowAttribution inv record address).unresolvedReason = none) ∨
    ∃ reason, reason ≠ UnresolvedReason.mixed ∧
      (resolveFlowAttribution inv record address).state = .unresolved ∧
      (resolveFlowAttribution inv record address).unresolvedReason = some reason := by
  unfold resolveFlowAttribution
  dsimp only
  split
  · exact .inr ⟨_, by decide, rfl, rfl⟩
  · split
    · exact .inl ⟨rfl, rfl⟩
    · exact .inr ⟨_, by decide, rfl, rfl⟩
    · split
      · by_cases hdynamic : (‹IPAddress›.assignmentType.toLower != "dynamic") = true
        · rw [if_pos hdynamic]
          exact .inl ⟨rfl, rfl⟩
        · rw [if_neg hdynamic]
          split
          · exact .inr ⟨_, by decide, rfl, rfl⟩
          · exact .inl ⟨rfl, rfl⟩
          · exact .inr ⟨_, by decide, rfl, rfl⟩
      · split
        · exact .inr ⟨_, by decide, rfl, rfl⟩
        · exact .inl ⟨rfl, rfl⟩
        · exact .inr ⟨_, by decide, rfl, rfl⟩

/-- The row a posting adds to a bucket and class, if any. -/
def postingRow (clock : HostClock) (inv : Inventory) (k : AccountingKey) (p : Posting) :
    Option TrafficFlowAccountingAggregate :=
  Ledger.rowAt TrafficFlowAccountingAggregate.key k (accountingRows clock inv p)

/-- What the row of a posting says. -/
structure RowOf (inv : Inventory) (k : AccountingKey) (p : Posting)
    (row : TrafficFlowAccountingAggregate) : Prop where
  key : row.key = k
  confidence : row.classificationConfidence = classConfidence k.2.2.2.2
  reason : row.unresolvedReason = p.unresolvedReason inv
  state : row.attributionState = if (p.unresolvedReason inv).isSome then .unresolved else .resolved

variable {k : AccountingKey} {p : Posting} {row : TrafficFlowAccountingAggregate}

theorem rowOf_accountingRow {source : TrafficSource} {seconds : ℕ}
    (h : (accountingRow clock inv source p seconds).key = k) :
    RowOf inv k p (accountingRow clock inv source p seconds) := by
  subst h
  refine ⟨rfl, classifyFlow_confidence _ _ _, rfl, ?_⟩
  rw [Posting.unresolvedReason]
  obtain ⟨hst, hreason⟩ | ⟨reason, -, hst, hreason⟩ :=
    resolveFlowAttribution_cases inv p.record none
  · rw [hreason]
    exact hst
  · rw [hreason]
    exact hst

theorem rowOf_of_mem (hrow : row ∈ accountingRows clock inv p) (hkey : row.key = k) :
    RowOf inv k p row := by
  rw [accountingRows] at hrow
  cases hsrc : inv.source p.sourceId with
  | none =>
    rw [hsrc] at hrow
    exact absurd hrow not_mem_nil
  | some source =>
    rw [hsrc] at hrow
    obtain ⟨seconds, -, rfl⟩ := mem_map.1 hrow
    exact rowOf_accountingRow hkey

theorem rowOf_of_postingRow (h : postingRow clock inv k p = some row) : RowOf inv k p row := by
  have hkey : decide (row.key = k) = true :=
    find?_some (p := fun row : TrafficFlowAccountingAggregate ↦ decide (row.key = k)) h
  exact rowOf_of_mem (mem_of_find?_eq_some h) (of_decide_eq_true hkey)

theorem CountsIn.postingRow_isSome (h : CountsIn clock inv k p) :
    ∃ row, postingRow clock inv k p = some row := by
  obtain ⟨row, hrow, hkey⟩ := h
  exact Option.isSome_iff_exists.1 (find?_isSome.2 ⟨row, hrow, decide_eq_true hkey⟩)

/-- The three rows of a posting differ in their resolution. -/
theorem nodup_accountingRows (clock : HostClock) (inv : Inventory) (p : Posting) :
    ((accountingRows clock inv p).map TrafficFlowAccountingAggregate.key).Nodup := by
  rw [accountingRows]
  cases inv.source p.sourceId with
  | none => exact .nil
  | some source =>
    have hsecs : resolutions.Nodup := by decide
    refine .of_map (fun k : AccountingKey ↦ k.2.2.2.1) ?_
    rw [Option.elim_some, map_map, map_map]
    exact (map_id _).symm ▸ hsecs

/-! ### Records in any order -/

theorem inventory_accountingAggregate (clock : HostClock) (s : Session) (p : Posting) :
    (accountingAggregate clock s p).inventory = s.inventory := by
  rw [accountingAggregate]
  split
  · rfl
  · rfl

theorem accountingRowAt_accountingAggregate (k : AccountingKey) (s : Session) (p : Posting) :
    accountingRowAt k (accountingAggregate clock s p) =
      (postingRow clock s.inventory k p).toList.foldl
        (Ledger.absorb TrafficFlowAccountingAggregate.merge) (accountingRowAt k s) := by
  rw [postingRow, ← Ledger.filter_eq_rowAt (nodup_accountingRows clock s.inventory p),
    accountingRows, accountingAggregate]
  cases s.inventory.source p.sourceId with
  | none => rfl
  | some source =>
    have hkeep : ∀ row row' : TrafficFlowAccountingAggregate, row.key = row'.key →
        (row.merge row').key = row.key := fun _ _ _ ↦ rfl
    exact Ledger.rowAt_upsertAll hkeep k _ _

/-- **A row absorbs the rows of the records, in their order.** -/
theorem accountingRowAt_accountAll (k : AccountingKey) (s : Session) (ps : List Posting) :
    accountingRowAt k (accountAll clock s ps) =
      (ps.filterMap (postingRow clock s.inventory k)).foldl
        (Ledger.absorb TrafficFlowAccountingAggregate.merge) (accountingRowAt k s) := by
  induction ps generalizing s with
  | nil => rfl
  | cons p ps ih =>
    have hcons : accountAll clock s (p :: ps) =
        accountAll clock (accountingAggregate clock s p) ps := rfl
    rw [hcons, ih, inventory_accountingAggregate, accountingRowAt_accountingAggregate]
    cases h : postingRow clock s.inventory k p with
    | none => rw [filterMap_cons_none h, Option.toList_none, foldl_nil]
    | some row => rw [filterMap_cons_some h, Option.toList_some, foldl_cons, foldl_nil, foldl_cons]

/-! ### Everything but the reason -/

/-- The row without its reason. -/
def TrafficFlowAccountingAggregate.withoutReason (row : TrafficFlowAccountingAggregate) :
    TrafficFlowAccountingAggregate :=
  { row with unresolvedReason := none }

theorem eq_of_withoutReason {row row' : TrafficFlowAccountingAggregate}
    (h : row.withoutReason = row'.withoutReason)
    (hreason : row.unresolvedReason = row'.unresolvedReason) : row = row' := by
  have hrow : ∀ r : TrafficFlowAccountingAggregate,
      r = { r.withoutReason with unresolvedReason := r.unresolvedReason } := fun _ ↦ rfl
  rw [hrow row, hrow row', h, hreason]

/-- Absorbing a row, as far as the other fields go. -/
def absorbWithoutReason (stored : Option TrafficFlowAccountingAggregate)
    (row : TrafficFlowAccountingAggregate) : Option TrafficFlowAccountingAggregate :=
  (Ledger.absorb TrafficFlowAccountingAggregate.merge stored row).map
    TrafficFlowAccountingAggregate.withoutReason

theorem DataQuality.merge_right_comm (a b c : DataQuality) :
    (a.merge b).merge c = (a.merge c).merge b := by
  cases a <;> cases b <;> cases c <;> rfl

theorem DataQuality.merge_comm (a b : DataQuality) : a.merge b = b.merge a := by
  cases a <;> cases b <;> rfl

/-- How `_accounting_aggregate` merges attribution states. -/
def mergeState (stored new : AttributionState) : AttributionState :=
  if stored = new then stored else if stored = .unknown then new else .mixed

/-- No record has an unknown or a mixed attribution. -/
theorem mergeState_right_comm {a b : AttributionState} (ha : a = .resolved ∨ a = .unresolved)
    (hb : b = .resolved ∨ b = .unresolved) (stored : AttributionState) :
    mergeState (mergeState stored a) b = mergeState (mergeState stored b) a := by
  rcases ha with rfl | rfl <;> rcases hb with rfl | rfl <;> cases stored <;> rfl

theorem RowOf.state_cases (h : RowOf inv k p row) :
    row.attributionState = .resolved ∨ row.attributionState = .unresolved := by
  rw [h.state]
  split_ifs
  · exact .inr rfl
  · exact .inl rfl

theorem absorbWithoutReason_right_comm {p' : Posting} {row' : TrafficFlowAccountingAggregate}
    (h : RowOf inv k p row) (h' : RowOf inv k p' row')
    (stored : Option TrafficFlowAccountingAggregate) :
    absorbWithoutReason (absorbWithoutReason stored row) row' =
      absorbWithoutReason (absorbWithoutReason stored row') row := by
  have hconfidence := h.confidence.trans h'.confidence.symm
  have hst := mergeState_right_comm h.state_cases h'.state_cases
  cases stored with
  | none =>
    have hkey := h.key.trans h'.key.symm
    simp only [TrafficFlowAccountingAggregate.key, Prod.mk.injEq] at hkey
    obtain ⟨hsrc, hexporter, hstart, hsecs, hclass⟩ := hkey
    have hfirst : mergeState row.attributionState row'.attributionState =
        mergeState row'.attributionState row.attributionState := by
      rcases h.state_cases with hs | hs <;> rcases h'.state_cases with hs' | hs' <;>
        rw [hs, hs'] <;> rfl
    simp only [absorbWithoutReason, Ledger.absorb, Option.elim_none, Option.elim_some,
      Option.map_some, TrafficFlowAccountingAggregate.withoutReason,
      TrafficFlowAccountingAggregate.merge, Option.some.injEq,
      TrafficFlowAccountingAggregate.mk.injEq]
    simp only [earliest_eq_min, latest_eq_max]
    exact ⟨hsrc, hexporter, hstart, hsecs, hclass, add_comm _ _, add_comm _ _,
      add_comm _ _, DataQuality.merge_comm _ _, by rw [hconfidence], hfirst, trivial,
      min_comm _ _, max_comm _ _⟩
  | some stored =>
    simp only [absorbWithoutReason, Ledger.absorb, Option.elim_some, Option.map_some,
      TrafficFlowAccountingAggregate.withoutReason, TrafficFlowAccountingAggregate.merge,
      Option.some.injEq, TrafficFlowAccountingAggregate.mk.injEq]
    simp only [earliest_eq_min, latest_eq_max]
    exact ⟨trivial, trivial, trivial, trivial, trivial, add_right_comm _ _ _,
      add_right_comm _ _ _, add_right_comm _ _ _, DataQuality.merge_right_comm _ _ _,
      by rw [hconfidence], hst _, trivial, min_right_comm _ _ _, max_right_comm _ _ _⟩

variable {rows rows' : List TrafficFlowAccountingAggregate}

/-- **The other fields do not depend on the order.** -/
theorem foldl_withoutReason_perm (hperm : rows'.Perm rows)
    (h : ∀ row ∈ rows, ∃ p, RowOf inv k p row) (stored : Option TrafficFlowAccountingAggregate) :
    (rows'.foldl (Ledger.absorb TrafficFlowAccountingAggregate.merge) stored).map
        TrafficFlowAccountingAggregate.withoutReason =
      (rows.foldl (Ledger.absorb TrafficFlowAccountingAggregate.merge) stored).map
        TrafficFlowAccountingAggregate.withoutReason := by
  have hmap : ∀ l : List TrafficFlowAccountingAggregate,
      (l.foldl (Ledger.absorb TrafficFlowAccountingAggregate.merge) stored).map
          TrafficFlowAccountingAggregate.withoutReason =
        l.foldl absorbWithoutReason (stored.map TrafficFlowAccountingAggregate.withoutReason) := by
    intro l
    refine (foldl_hom _ fun row new ↦ ?_).symm
    cases row with
    | none => rfl
    | some row => rfl
  rw [hmap, hmap]
  refine hperm.foldl_eq' (fun row hrow row' hrow' z ↦ ?_) _
  obtain ⟨p, hp⟩ := h row (hperm.mem_iff.1 hrow)
  obtain ⟨p', hp'⟩ := h row' (hperm.mem_iff.1 hrow')
  exact absorbWithoutReason_right_comm hp hp' z

/-! ### The reason -/

/-- The reason of a stored row; a row that is not there yet is one without a reason. -/
def storedReason (stored : Option TrafficFlowAccountingAggregate) : Option UnresolvedReason :=
  stored.bind (·.unresolvedReason)

/-- **The reason folds on its own.** -/
theorem storedReason_foldl (stored : Option TrafficFlowAccountingAggregate)
    (rows : List TrafficFlowAccountingAggregate) :
    storedReason (rows.foldl (Ledger.absorb TrafficFlowAccountingAggregate.merge) stored) =
      (rows.map (·.unresolvedReason)).foldl mergeReason (storedReason stored) := by
  rw [foldl_map]
  refine (foldl_hom _ fun row new ↦ ?_).symm
  cases row with
  | none => rfl
  | some row => rfl

theorem map_unresolvedReason {ps : List Posting} (h : ∀ p ∈ ps, CountsIn clock inv k p) :
    (ps.filterMap (postingRow clock inv k)).map (·.unresolvedReason) =
      ps.map (Posting.unresolvedReason inv) := by
  induction ps with
  | nil => rfl
  | cons p ps ih =>
    obtain ⟨hp, hps⟩ := forall_mem_cons.1 h
    obtain ⟨row, hrow⟩ := hp.postingRow_isSome
    rw [filterMap_cons_some hrow, map_cons, map_cons, ih hps, (rowOf_of_postingRow hrow).reason]

/-- Rows are equal when their reasons are, and nothing else depends on the order. -/
theorem accountingRowAt_perm_iff {s : Session} {ps qs : List Posting} (hperm : qs.Perm ps)
    (h : ∀ p ∈ ps, CountsIn clock s.inventory k p) :
    accountingRowAt k (accountAll clock s qs) = accountingRowAt k (accountAll clock s ps) ↔
      (qs.map (Posting.unresolvedReason s.inventory)).foldl mergeReason
          (storedReason (accountingRowAt k s)) =
        (ps.map (Posting.unresolvedReason s.inventory)).foldl mergeReason
          (storedReason (accountingRowAt k s)) := by
  have hreason : ∀ l : List Posting, (∀ p ∈ l, CountsIn clock s.inventory k p) →
      storedReason (accountingRowAt k (accountAll clock s l)) =
        (l.map (Posting.unresolvedReason s.inventory)).foldl mergeReason
          (storedReason (accountingRowAt k s)) := by
    intro l hl
    rw [accountingRowAt_accountAll, storedReason_foldl, map_unresolvedReason hl]
  rw [← hreason qs fun q hq ↦ h q (hperm.mem_iff.1 hq), ← hreason ps h]
  refine ⟨congrArg storedReason, fun hsto ↦ ?_⟩
  have hother : (accountingRowAt k (accountAll clock s qs)).map
      TrafficFlowAccountingAggregate.withoutReason = (accountingRowAt k (accountAll clock s ps)).map
          TrafficFlowAccountingAggregate.withoutReason := by
    have hrows : ∀ row ∈ ps.filterMap (postingRow clock s.inventory k),
        ∃ p, RowOf s.inventory k p row := by
      intro row hrow
      obtain ⟨p, -, hp⟩ := mem_filterMap.1 hrow
      exact ⟨p, rowOf_of_postingRow hp⟩
    rw [accountingRowAt_accountAll, accountingRowAt_accountAll]
    exact foldl_withoutReason_perm (hperm.filterMap _) hrows _
  revert hsto hother
  cases accountingRowAt k (accountAll clock s qs) with
  | none =>
    cases accountingRowAt k (accountAll clock s ps) with
    | none => exact fun _ _ ↦ rfl
    | some row => exact fun _ hother ↦ absurd hother (by simp)
  | some row =>
    cases accountingRowAt k (accountAll clock s ps) with
    | none => exact fun _ hother ↦ absurd hother (by simp)
    | some row' =>
      exact fun hsto hother ↦
        congrArg some (eq_of_withoutReason (Option.some.inj hother) hsto)

/-! ### Which orders can be told apart -/

section Orders

variable {s : Session} {ps : List Posting}

/-- Resolved records before and after equally unresolved ones make a difference. -/
theorem not_orderFree (h : ∀ p ∈ ps, CountsIn clock s.inventory k p)
    (hsto : storedReason (accountingRowAt k s) = none) (hmixed : ReasonsMixed s.inventory ps) :
    ¬ OrderFree clock s k ps := by
  obtain ⟨⟨p, hp, hres⟩, reason, ⟨p', hp', hreason⟩, hsame⟩ := hmixed
  have hreal : reason ≠ .mixed := by
    obtain ⟨-, hnone⟩ | ⟨reason', hne, -, hsome⟩ :=
      resolveFlowAttribution_cases s.inventory p'.record none
    · exact absurd (hreason.symm.trans hnone) (by simp)
    · rw [Posting.unresolvedReason, hsome] at hreason
      rwa [← Option.some.inj hreason]
  intro hfree
  have hfold : ∀ qs : List Posting, qs.Perm ps →
      (qs.map (Posting.unresolvedReason s.inventory)).foldl mergeReason none =
        (ps.map (Posting.unresolvedReason s.inventory)).foldl mergeReason none := by
    intro qs hperm
    have heq := (accountingRowAt_perm_iff hperm h).1 (hfree qs hperm)
    rwa [hsto] at heq
  -- The resolved records first, and last.
  let resolved := ps.filter fun p ↦ p.unresolvedReason s.inventory = none
  let unresolved := ps.filter fun p ↦ !decide (p.unresolvedReason s.inventory = none)
  have hfirst : (resolved ++ unresolved).Perm ps := filter_append_perm _ ps
  have hlast : (unresolved ++ resolved).Perm ps := perm_append_comm.trans hfirst
  have hnone : ∀ new ∈ resolved.map (Posting.unresolvedReason s.inventory), new = none := by
    intro new hnew
    obtain ⟨q, hq, rfl⟩ := mem_map.1 hnew
    exact of_decide_eq_true (mem_filter.1 hq).2
  have hsome : ∀ new ∈ unresolved.map (Posting.unresolvedReason s.inventory),
      new = some reason := by
    intro new hnew
    obtain ⟨q, hq, rfl⟩ := mem_map.1 hnew
    obtain ⟨hmem, hne⟩ := mem_filter.1 hq
    cases hvalue : q.unresolvedReason s.inventory with
    | none => rw [hvalue] at hne; exact absurd hne (by decide)
    | some reason' => rw [hsame q hmem reason' hvalue]
  have hmem : p' ∈ unresolved := mem_filter.2 ⟨hp', by rw [hreason]; rfl⟩
  have hne : unresolved.map (Posting.unresolvedReason s.inventory) ≠ [] := by
    simp only [ne_eq, map_eq_nil_iff]
    exact ne_nil_of_mem hmem
  have hlate : ¬ ∀ new ∈ resolved.map (Posting.unresolvedReason s.inventory), new = some reason :=
    fun hall ↦ absurd (hall none (mem_map.2
      ⟨p, mem_filter.2 ⟨hp, decide_eq_true hres⟩, hres⟩)) (by simp)
  have heq := (hfold _ hfirst).trans (hfold _ hlast).symm
  rw [map_append, map_append, foldl_append, foldl_append,
    foldl_mergeReason_none hnone, foldl_mergeReason_of_same hne hsome, foldl_mergeReason_some,
    if_neg hlate] at heq
  exact hreal (Option.some.inj heq)

/-- **The row does not depend on the order exactly** when it already has a reason, or the reasons of
the records do not mix. -/
theorem orderFree_iff (h : ∀ p ∈ ps, CountsIn clock s.inventory k p) :
    OrderFree clock s k ps ↔ (accountingRowAt k s).any (·.unresolvedReason.isSome) = true ∨
        ¬ ReasonsMixed s.inventory ps := by
  have hany : (accountingRowAt k s).any (·.unresolvedReason.isSome) =
      (storedReason (accountingRowAt k s)).isSome := by
    cases accountingRowAt k s with
    | none => rfl
    | some row => rfl
  rw [hany]
  constructor
  · intro hfree
    by_contra hnot
    rw [not_or, not_not, Option.not_isSome_iff_eq_none] at hnot
    exact not_orderFree h hnot.1 hnot.2 hfree
  · intro hcondition qs hperm
    rw [accountingRowAt_perm_iff hperm h]
    have hmap := hperm.map (Posting.unresolvedReason s.inventory)
    cases hsto : storedReason (accountingRowAt k s) with
    | some reason =>
      rw [foldl_mergeReason_some, foldl_mergeReason_some]
      simp only [hmap.mem_iff]
    | none =>
      rw [hsto] at hcondition
      have hnot := hcondition.resolve_left (by decide)
      refine foldl_mergeReason_perm hmap fun hnone ⟨reason, hreason⟩ ↦ ?_
      by_contra hsame
      obtain ⟨p, hp, hres⟩ := mem_map.1 hnone
      obtain ⟨p', hp', hunresolved⟩ := mem_map.1 hreason
      refine hnot ⟨⟨p, hp, hres⟩, reason, ⟨p', hp', hunresolved⟩, fun q hq reason' hq' ↦ ?_⟩
      by_contra hne
      exact hsame ⟨reason', reason, hne, mem_map.2 ⟨q, hq, hq'⟩, hreason⟩

end Orders

/-! ### A record that is late -/

/-- An exporter whose client `10.0.0.1` has had its address from DHCP since the epoch. -/
def leasedSession : Session :=
  Database.session
    { inventory :=
        { sources := [{ id := 1 }]
          leases := [{ id := 1, ipAddress := .v4 167772161, leaseStartedAt := 0 }] } }

/-- The first five minutes of the epoch, unclassified. -/
def epochKey : AccountingKey := (1, "fw", 0, 300, .unknown)

@[inherit_doc leasedSession]
def leasedPosting : Posting where
  record :=
    { exporterIdentity := "fw", sourceId := 0, sequence := 1, recordIndex := 0, observedAt := 1
      sourceIp := some (.v4 167772161) }
  sourceId := 1
  bytes := 1000
  packets := 1
  quality := .complete

/-- A record without endpoints. -/
def namelessPosting : Posting where
  record :=
    { exporterIdentity := "fw", sourceId := 0, sequence := 2, recordIndex := 0, observedAt := 2 }
  sourceId := 1
  bytes := 500
  packets := 1
  quality := .complete

/-- A record of an address that nobody has. -/
def strangePosting : Posting where
  record :=
    { exporterIdentity := "fw", sourceId := 0, sequence := 3, recordIndex := 0, observedAt := 3
      sourceIp := some (.v4 134744072) }
  sourceId := 1
  bytes := 200
  packets := 1
  quality := .partialData

/-- With two different reasons the order of the records does not matter. -/
theorem orderFree_two_reasons :
    OrderFree utcClock leasedSession epochKey [leasedPosting, namelessPosting, strangePosting] := by
  have hcount : ∀ p ∈ [leasedPosting, namelessPosting, strangePosting],
      CountsIn utcClock leasedSession.inventory epochKey p := by decide +kernel
  refine (orderFree_iff hcount).2 (.inr fun hmixed ↦ ?_)
  obtain ⟨-, reason, -, hsame⟩ := hmixed
  have hnameless := hsame namelessPosting (by decide) .missingEndpoint (by decide +kernel)
  have hstrange := hsame strangePosting (by decide) .noTimeBoundedIdentity (by decide +kernel)
  exact absurd (hnameless.trans hstrange.symm) (by decide)

/-- An unresolved record leaves its reason when it comes last, and `mixed` when it comes first. -/
theorem reason_depends_on_order :
    ¬ OrderFree utcClock leasedSession epochKey [leasedPosting, namelessPosting] := by
  intro h
  have hswap := h [namelessPosting, leasedPosting] (.swap _ _ _)
  revert hswap
  decide +kernel

end Kaya.Flow
