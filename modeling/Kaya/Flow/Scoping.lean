import Kaya.Flow.Collector

/-!
# Source scoping of asset assignments

Two identifiers are called `source_id` in the flow pipeline: the observation domain an exporter puts
into its packet header, which `_normalise` copies into the record, and the `TrafficSource` row the
packet was received for, which `process_records` is called with. `_assignment_for_record` is given
the record alone and compares the first of them with `AssetNetworkAssignment.source_id`, a key of
the second kind.

`SourceScoped` is what scoping to a source means; `sourceScoped_iff` says exactly when the lookup
has it. That the lookup never chooses between assets is a separate matter: with more than one
candidate it does not depend on the scope (`assignmentForRecord_eq_some`).
-/

namespace Kaya.Flow

open List

variable {inv : Inventory} {record : NormalizedFlowRecord} {address : Option IPAddr}
  {row : AssetNetworkAssignment}

/-! ### What the lookup considers -/

/-- The assignment fits the record at this endpoint, whatever its source. -/
def ValidFor (inv : Inventory) (record : NormalizedFlowRecord) (address : Option IPAddr)
    (row : AssetNetworkAssignment) : Prop :=
  ∃ a, address = some a ∧ assignmentValid inv record a row = true

/-- The assignments that satisfy the candidate query, before its limit. -/
def considered (inv : Inventory) (record : NormalizedFlowRecord) (address : Option IPAddr) :
    List AssetNetworkAssignment :=
  address.elim [] fun a ↦ inv.assignments.filter (assignmentCandidate inv record a)

theorem mem_considered :
    row ∈ considered inv record address ↔ row ∈ inv.assignments ∧ ValidFor inv record address row ∧
        (row.sourceId = none ∨ row.sourceId = some record.sourceId) := by
  cases address with
  | none => simp [considered, ValidFor]
  | some a =>
    have hscope : row.sourceId.all (· = record.sourceId) = true ↔
        row.sourceId = none ∨ row.sourceId = some record.sourceId := by
      cases row.sourceId <;> simp
    simp only [considered, Option.elim_some, mem_filter, assignmentCandidate,
      Bool.and_eq_true, hscope, ValidFor, Option.some.injEq, exists_eq_left']

/-- A lookup that finds an assignment has looked at every candidate. -/
theorem perm_considered_of_length_le {a : IPAddr}
    (h : (assignmentRows inv record a).length ≤ assignmentCandidateLimit) :
    (assignmentRows inv record a).Perm (considered inv record (some a)) := by
  have hlen : ((inv.assignments.filter (assignmentCandidate inv record a)).insertionSort
      fun x y ↦ x.id ≤ y.id).length ≤ assignmentCandidateLimit + 1 := by
    rw [assignmentRows, length_take] at h
    omega
  rw [assignmentRows, take_of_length_le hlen]
  exact perm_insertionSort _ _

/-- What a successful lookup has seen: a single candidate, or candidates that all belong to one
asset, the found one among them. -/
theorem assignmentForRecord_eq_some (h : assignmentForRecord inv record address = some row) :
    considered inv record address = [row] ∨ row ∈ considered inv record address ∧
        ∃ asset, ∀ c ∈ considered inv record address, c.assetId = some asset := by
  cases address with
  | none => simp [assignmentForRecord] at h
  | some a =>
    simp only [assignmentForRecord, Option.bind_eq_bind, Option.bind_some] at h
    split at h
    · cases h
    · rename_i hlimit
      have hperm := @perm_considered_of_length_le inv record a (not_lt.1 hlimit)
      revert h
      cases hrows : assignmentRows inv record a with
      | nil => intro h; cases h
      | cons first rest =>
        rw [hrows] at hperm
        cases rest with
        | nil =>
          intro h
          obtain rfl : first = row := Option.some.inj h
          exact .inl (perm_singleton.1 hperm.symm)
        | cons second rest =>
          intro h
          dsimp only at h
          split at h
          · rename_i hasset
            split at h
            · rename_i chosen hchosen
              obtain rfl : chosen = row := Option.some.inj h
              rw [Bool.and_eq_true, all_eq_true] at hasset
              obtain ⟨asset, hfirst⟩ := Option.isSome_iff_exists.1 hasset.1
              have hmem : chosen ∈ first :: second :: rest :=
                mem_of_mem_filter (hchosen ▸ mem_singleton_self _)
              refine .inr ⟨hperm.mem_iff.1 hmem, asset, fun c hc ↦ ?_⟩
              have hsame := hasset.2 c (hperm.mem_iff.2 hc)
              rw [of_decide_eq_true hsame, hfirst]
            · cases h
          · cases h

/-! ### The scope -/

/-- **Scoping to the source `sourceId`.** Only assignments that are valid for the record and bound
to no source or to this one are considered, all those bound to this one are, and an assignment is
found only when every considered one belongs to its asset. -/
structure SourceScoped (inv : Inventory) (record : NormalizedFlowRecord) (address : Option IPAddr)
    (sourceId : ℕ) : Prop where
  /-- Nothing else is considered. -/
  only : ∀ row ∈ considered inv record address, ValidFor inv record address row ∧
    (row.sourceId = none ∨ row.sourceId = some sourceId)
  /-- What is bound to the source is considered. -/
  all : ∀ row ∈ inv.assignments, ValidFor inv record address row →
    row.sourceId = some sourceId → row ∈ considered inv record address
  /-- A found assignment speaks for all. -/
  oneAsset : ∀ row, assignmentForRecord inv record address = some row →
    ∃ asset, row.assetId = some asset ∧ ∀ c ∈ considered inv record address, c.assetId = some asset

/-- The header's observation domain makes no difference: it is the source's key, or no assignment
that fits the record is bound to either of the two. -/
def HeaderAgrees (inv : Inventory) (record : NormalizedFlowRecord) (address : Option IPAddr)
    (sourceId : ℕ) : Prop :=
  record.sourceId = sourceId ∨ ∀ row ∈ inv.assignments, ValidFor inv record address row →
    row.sourceId ≠ some record.sourceId ∧ row.sourceId ≠ some sourceId

/-- The only candidate is an assignment whose asset was deleted. -/
def OrphanOnly (inv : Inventory) (record : NormalizedFlowRecord) (address : Option IPAddr) : Prop :=
  ∃ row, considered inv record address = [row] ∧ row.assetId = none

/-- A single candidate is found, whether it has an asset or not. -/
theorem assignmentForRecord_of_considered_eq (h : considered inv record address = [row]) :
    assignmentForRecord inv record address = some row := by
  cases address with
  | none => cases h
  | some a =>
    have hfilter : inv.assignments.filter (assignmentCandidate inv record a) = [row] := h
    have hrows : assignmentRows inv record a = [row] := by
      rw [assignmentRows, hfilter]
      rfl
    show (if (assignmentRows inv record a).length > assignmentCandidateLimit then none
      else _) = some row
    rw [hrows]
    rfl

theorem sourceScoped_iff (inv : Inventory) (record : NormalizedFlowRecord)
    (address : Option IPAddr) (sourceId : ℕ) :
    SourceScoped inv record address sourceId ↔
      HeaderAgrees inv record address sourceId ∧ ¬ OrphanOnly inv record address := by
  constructor
  · intro h
    refine ⟨?_, ?_⟩
    · by_cases hid : record.sourceId = sourceId
      · exact .inl hid
      · refine .inr fun row hrow hvalid ↦ ⟨fun hheader ↦ ?_, fun hsrc ↦ ?_⟩
        · rcases (h.only row (mem_considered.2 ⟨hrow, hvalid, .inr hheader⟩)).2 with hn | hs
          · rw [hheader] at hn
            cases hn
          · rw [hheader] at hs
            exact hid (Option.some.inj hs)
        · rcases (mem_considered.1 (h.all row hrow hvalid hsrc)).2.2 with hn | hs
          · rw [hsrc] at hn
            cases hn
          · rw [hsrc] at hs
            exact hid (Option.some.inj hs).symm
    · rintro ⟨row, hone, hnone⟩
      obtain ⟨asset, hasset, -⟩ := h.oneAsset row (assignmentForRecord_of_considered_eq hone)
      rw [hnone] at hasset
      cases hasset
  · rintro ⟨hagree, horphan⟩
    refine ⟨fun row hrow ↦ ?_, fun row hrow hvalid hsrc ↦ ?_, fun row hrow ↦ ?_⟩
    · obtain ⟨hmem, hvalid, hscope⟩ := mem_considered.1 hrow
      refine ⟨hvalid, hscope.imp_right fun hheader ↦ ?_⟩
      rcases hagree with hid | hno
      · rw [hheader, hid]
      · exact absurd hheader (hno row hmem hvalid).1
    · rcases hagree with hid | hno
      · exact mem_considered.2 ⟨hrow, hvalid, .inr (hid ▸ hsrc)⟩
      · exact absurd hsrc (hno row hrow hvalid).2
    · rcases assignmentForRecord_eq_some hrow with hone | ⟨hmem, asset, hall⟩
      · -- the uniqueness test is skipped for a single candidate
        cases hasset : row.assetId with
        | none => exact absurd ⟨row, hone, hasset⟩ horphan
        | some asset =>
          refine ⟨asset, rfl, fun c hc ↦ ?_⟩
          rw [hone, mem_singleton] at hc
          rw [hc, hasset]
      · exact ⟨asset, hall row hmem, hall⟩

/-- One source with an assignment bound to it, and a record received for that source from an
exporter that puts 0 into its header. -/
def scopedInventory : Inventory where
  sources := [{ id := 1 }]
  assignments := [{ id := 5, assetId := some 9, address := .v4 3232235786, sourceId := some 1,
                    startedAt := 0 }]

@[inherit_doc scopedInventory]
def scopedRecord : NormalizedFlowRecord where
  exporterIdentity := "192.0.2.1"
  sourceId := 0
  sequence := 1
  recordIndex := 0
  observedAt := 1000000
  sourceIp := some (.v4 3232235786)

/-- The assignment bound to source 1 is valid for the record and is not considered. -/
theorem scopedRecord_not_sourceScoped :
    ¬ SourceScoped scopedInventory scopedRecord scopedRecord.sourceIp 1 := by
  intro h
  have hmem := h.all _ (mem_singleton_self _) ⟨_, rfl, by decide⟩ rfl
  have hnil : considered scopedInventory scopedRecord scopedRecord.sourceIp = [] := by decide
  rw [hnil] at hmem
  exact not_mem_nil hmem

end Kaya.Flow
