import Kaya.Flow.Usage

/-!
# Batches of endpoint usage

An `EndpointUsageBatch` merges the contributions of a datagram in memory and writes its rows in
slices, each of them one `INSERT … ON CONFLICT DO UPDATE`. The merge in memory and the conflict
clause are the same operation (`accumulate_eq_merge`), and that operation is associative and
commutative on the rows of a key; so the table depends neither on how contributions are spread over
batches nor on the slices (`flushAll_perm`).
-/

namespace Kaya.Flow

open List Option

/-! ### The batch -/

/-- The rows of an `EndpointUsageBatch` to which the contributions were added. -/
def batchRows (contributions : List TrafficEndpointAggregate) : List TrafficEndpointAggregate :=
  Ledger.upsertAll TrafficEndpointAggregate.key TrafficEndpointAggregate.accumulate contributions []

/-- `values[index:index + chunk] for index in range(0, len(values), chunk)`. -/
def slices {α : Type*} (chunk : ℕ) (values : List α) : List (List α) :=
  (List.range ((values.length + chunk - 1) / chunk)).map fun i ↦
    (values.drop (i * chunk)).take chunk

/-- One `INSERT … ON CONFLICT DO UPDATE`; a statement that names a key twice fails. -/
def insertSlice (table slice : List TrafficEndpointAggregate) :
    Option (List TrafficEndpointAggregate) :=
  if (slice.map TrafficEndpointAggregate.key).Nodup then
    some (Ledger.upsertAll TrafficEndpointAggregate.key TrafficEndpointAggregate.merge slice table)
  else none

/-- An `EndpointUsageBatch` that is about to be flushed: what was added to it, and its rows in the
order in which `flush` sorts them. -/
structure EndpointUsageBatch where
  contributions : List TrafficEndpointAggregate
  values : List TrafficEndpointAggregate
  upsertChunk : ℕ
  values_perm : values.Perm (batchRows contributions)
  upsertChunk_pos : 0 < upsertChunk

/-- `flush`. -/
def EndpointUsageBatch.flush (table : List TrafficEndpointAggregate) (batch : EndpointUsageBatch) :
    Option (List TrafficEndpointAggregate) :=
  (slices batch.upsertChunk batch.values).foldlM insertSlice table

/-- The batches of one datagram after another. -/
def flushAll (batches : List EndpointUsageBatch) (table : List TrafficEndpointAggregate) :
    Option (List TrafficEndpointAggregate) :=
  batches.foldlM EndpointUsageBatch.flush table

/-- Each contribution in an upsert of its own. -/
def upsertContributions (contributions table : List TrafficEndpointAggregate) :
    List TrafficEndpointAggregate :=
  Ledger.upsertAll TrafficEndpointAggregate.key TrafficEndpointAggregate.merge contributions table

/-! ### One operation -/

/-- The merge in memory is the conflict clause. -/
theorem accumulate_eq_merge :
    TrafficEndpointAggregate.accumulate = TrafficEndpointAggregate.merge := by
  funext row new
  have hquality : (if new.dataQuality = .complete then row.dataQuality else .partialData) =
      if new.dataQuality = .partialData then .partialData else row.dataQuality := by
    cases new.dataQuality with
    | complete => rfl
    | partialData => rfl
  rw [TrafficEndpointAggregate.accumulate, TrafficEndpointAggregate.merge, hquality, latest_eq_max]

/-- The conflict clause is associative, and commutative on the rows of a key. -/
theorem mergeable_endpoint :
    Ledger.Mergeable TrafficEndpointAggregate.key TrafficEndpointAggregate.merge where
  key_merge _ _ _ := rfl
  assoc row row' row'' := by
    have hquality : (if row''.dataQuality = .partialData then .partialData
        else if row'.dataQuality = .partialData then .partialData else row.dataQuality) =
        if (if row''.dataQuality = .partialData then .partialData else row'.dataQuality) =
          .partialData then .partialData else row.dataQuality := by
      cases row'.dataQuality <;> cases row''.dataQuality <;> rfl
    simp only [TrafficEndpointAggregate.merge, TrafficEndpointAggregate.mk.injEq, latest_eq_max]
    exact ⟨trivial, trivial, trivial, trivial, trivial, trivial, add_assoc _ _ _, add_assoc _ _ _,
      add_assoc _ _ _, hquality, max_assoc _ _ _⟩
  comm row row' hkey := by
    have hquality : (if row'.dataQuality = .partialData then .partialData else row.dataQuality) =
        if row.dataQuality = .partialData then .partialData else row'.dataQuality := by
      cases row.dataQuality <;> cases row'.dataQuality <;> rfl
    simp only [TrafficEndpointAggregate.key, Prod.mk.injEq] at hkey
    obtain ⟨hip, hsecs, hstart, hsrc, hexporter, hdirection⟩ := hkey
    simp only [TrafficEndpointAggregate.merge, TrafficEndpointAggregate.mk.injEq, latest_eq_max]
    exact ⟨hip, hsecs, hstart, hsrc, hexporter, hdirection, add_comm _ _, add_comm _ _,
      add_comm _ _, hquality, max_comm _ _⟩

theorem batchRows_eq (contributions : List TrafficEndpointAggregate) :
    batchRows contributions = upsertContributions contributions [] := by
  rw [batchRows, accumulate_eq_merge, upsertContributions]

/-! ### Slices -/

section Slices

variable {α : Type*} {chunk : ℕ}

theorem flatten_slices_upto (values : List α) (chunk n : ℕ) :
    ((List.range n).map fun i ↦ (values.drop (i * chunk)).take chunk).flatten =
      values.take (n * chunk) := by
  induction n with
  | zero => rw [zero_mul, take_zero]; rfl
  | succ n ih =>
    rw [range_succ, map_append, flatten_append, ih, Nat.succ_mul, take_add,
      map_singleton, flatten_singleton]

/-- **The slices are the values.** -/
theorem flatten_slices (hchunk : 0 < chunk) (values : List α) :
    (slices chunk values).flatten = values := by
  have hcover : values.length ≤ (values.length + chunk - 1) / chunk * chunk := by
    have hdiv := Nat.div_add_mod (values.length + chunk - 1) chunk
    have hmod := Nat.mod_lt (values.length + chunk - 1) hchunk
    rw [mul_comm]
    omega
  rw [slices, flatten_slices_upto, take_of_length_le hcover]

end Slices

/-! ### Writing -/

variable {table stored : List TrafficEndpointAggregate}

/-- The unique key of an endpoint row. -/
abbrev EndpointRowKey := IPAddr × ℕ × DateTime × ℕ × String × UsageDirection

theorem nodup_upsertContributions (contributions : List TrafficEndpointAggregate)
    (htable : (table.map TrafficEndpointAggregate.key).Nodup) :
    ((upsertContributions contributions table).map TrafficEndpointAggregate.key).Nodup :=
  Ledger.nodup_upsertAll mergeable_endpoint.key_merge contributions htable

theorem rowAt_upsertContributions (contributions : List TrafficEndpointAggregate)
    (k : EndpointRowKey) :
    Ledger.rowAt TrafficEndpointAggregate.key k (upsertContributions contributions table) =
      (contributions.filter fun row ↦ row.key = k).foldl
        (Ledger.absorb TrafficEndpointAggregate.merge)
        (Ledger.rowAt TrafficEndpointAggregate.key k table) :=
  Ledger.rowAt_upsertAll mergeable_endpoint.key_merge k contributions table

/-- Slices without a repeated key are written like their rows. -/
theorem foldlM_insertSlice {parts : List (List TrafficEndpointAggregate)}
    (h : ((parts.flatten).map TrafficEndpointAggregate.key).Nodup) :
    parts.foldlM insertSlice table = some (upsertContributions parts.flatten table) := by
  induction parts generalizing table with
  | nil => rfl
  | cons slice parts ih =>
    rw [flatten_cons, map_append] at h
    obtain ⟨hslice, hparts, -⟩ := nodup_append.1 h
    rw [foldlM_cons, insertSlice, if_pos hslice, bind_eq_bind, bind_some,
      ih hparts, flatten_cons, upsertContributions, upsertContributions, Ledger.upsertAll,
      Ledger.upsertAll, Ledger.upsertAll, foldl_append]

theorem flush_eq (batch : EndpointUsageBatch) (table : List TrafficEndpointAggregate) :
    batch.flush table = some (upsertContributions batch.values table) := by
  have hnodup : ((batchRows batch.contributions).map TrafficEndpointAggregate.key).Nodup := by
    rw [batchRows_eq]
    exact nodup_upsertContributions _ nodup_nil
  have hslices := flatten_slices batch.upsertChunk_pos batch.values
  rw [EndpointUsageBatch.flush, slices, foldlM_insertSlice]
  · rw [← slices, hslices]
  · rw [← slices, hslices]
    exact (batch.values_perm.map _).nodup_iff.2 hnodup

/-- A flush absorbs the contributions into the rows. -/
theorem rowAt_flush (batch : EndpointUsageBatch) (k : EndpointRowKey)
    (h : batch.flush table = some stored) :
    Ledger.rowAt TrafficEndpointAggregate.key k stored =
      (batch.contributions.filter fun row ↦ row.key = k).foldl
        (Ledger.absorb TrafficEndpointAggregate.merge)
        (Ledger.rowAt TrafficEndpointAggregate.key k table) := by
  rw [flush_eq] at h
  rw [← some.inj h, upsertContributions]
  refine mergeable_endpoint.rowAt_batch ?_ k table
  rw [← accumulate_eq_merge]
  exact batch.values_perm

/-- What is preserved from batch to batch: the flush succeeds, the keys stay distinct, and every row
absorbs what was added for it. -/
theorem flushAll_eq (batches : List EndpointUsageBatch)
    (htable : (table.map TrafficEndpointAggregate.key).Nodup) :
    ∃ stored, flushAll batches table = some stored ∧
      (stored.map TrafficEndpointAggregate.key).Nodup ∧
      ∀ k, Ledger.rowAt TrafficEndpointAggregate.key k stored =
        ((batches.flatMap (·.contributions)).filter fun row ↦ row.key = k).foldl
          (Ledger.absorb TrafficEndpointAggregate.merge)
          (Ledger.rowAt TrafficEndpointAggregate.key k table) := by
  induction batches generalizing table with
  | nil => exact ⟨table, rfl, htable, fun _ ↦ rfl⟩
  | cons batch batches ih =>
    have hflush := flush_eq batch table
    obtain ⟨stored, hsto, hdist, hrows⟩ :=
      ih (nodup_upsertContributions batch.values htable)
    refine ⟨stored, ?_, hdist, fun k ↦ ?_⟩
    · rw [flushAll, foldlM_cons, hflush, bind_eq_bind, bind_some]
      exact hsto
    · rw [hrows, rowAt_flush batch k hflush, flatMap_cons, filter_append, foldl_append]

/-- The contributions of the batches are written as if each had an upsert of its own. -/
theorem exists_flushAll_perm {contributions : List TrafficEndpointAggregate}
    (htable : (table.map TrafficEndpointAggregate.key).Nodup) {batches : List EndpointUsageBatch}
    (hbatches : (batches.flatMap (·.contributions)).Perm contributions) :
    ∃ stored, flushAll batches table = some stored ∧
      stored.Perm (upsertContributions contributions table) := by
  obtain ⟨stored, hsto, hdist, hrows⟩ := flushAll_eq batches htable
  refine ⟨stored, hsto, Ledger.perm_of_rowAt_eq hdist
    (nodup_upsertContributions contributions htable) fun k ↦ ?_⟩
  rw [hrows, rowAt_upsertContributions, mergeable_endpoint.foldl_absorb_perm hbatches]

/-- **Batched accounting is direct accounting**: however the contributions are spread over batches,
and however these are ordered and sliced. -/
theorem flushAll_perm (table contributions : List TrafficEndpointAggregate)
    (htable : (table.map TrafficEndpointAggregate.key).Nodup) (batches : List EndpointUsageBatch)
    (hbatches : (batches.flatMap (·.contributions)).Perm contributions) :
    ∃ stored, flushAll batches table = some stored ∧
      stored.Perm (upsertContributions contributions table) :=
  exists_flushAll_perm htable hbatches

/-! ### Two batches of one upload -/

/-- A contribution of the endpoint `10.0.0.1` to its first five minutes. -/
def uploadContribution (bytes : ℕ) (quality : DataQuality) (observedAt : DateTime) :
    TrafficEndpointAggregate where
  endpointIp := .v4 167772161
  bucketSeconds := 300
  bucketStart := 0
  sourceId := 1
  exporterIdentity := "fw"
  direction := .upload
  bytesTotal := bytes
  packetsTotal := 1
  dataQuality := quality
  lastObservedAt := observedAt

@[inherit_doc uploadContribution]
def uploadBatch (contributions : List TrafficEndpointAggregate) : EndpointUsageBatch :=
  ⟨contributions, batchRows contributions, 1, .refl _, Nat.one_pos⟩

theorem flushAll_two_uploads :
    ∃ stored, flushAll [uploadBatch [uploadContribution 3 .complete 5],
        uploadBatch [uploadContribution 1 .complete 7, uploadContribution 2 .partialData 6]] [] =
          some stored ∧ stored.Perm (upsertContributions [uploadContribution 1 .complete 7,
        uploadContribution 2 .partialData 6, uploadContribution 3 .complete 5] []) :=
  flushAll_perm [] _ nodup_nil _ (by decide)

end Kaya.Flow
