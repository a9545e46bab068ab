import Kaya.Dns.Consolidation
import Mathlib.Order.Bounds.Basic

/-!
# The histories of duplicates

The merge of one duplicate after another is followed along the list of pairs (survivor, duplicate)
that have been merged (`MergedHistories`): a history of a survivor has taken over the histories of
its duplicates with the same value (`absorbed`), every history of a duplicate is deleted, and
nothing else has changed. A history whose value the survivor does not have is moved as an object
only, and then deleted with the duplicate. The commit violates no constraint.
-/

namespace Kaya.Dns

open List
open Kaya.HA (DateTime seconds)

variable {T : Histories} {h h' : HistorySession} {survivor duplicate e i j : ℕ} {ids : List ℕ}

/-! ### Histories of one pair -/

/-- No client has a value twice. -/
def ValuesApart (t : Histories) : Prop :=
  ∀ i ∈ t.ids, ∀ j ∈ t.ids, (t.row i).dnsClientId = (t.row j).dnsClientId →
    (t.row i).value = (t.row j).value → i = j

/-- The session has not flushed. -/
structure IsSessionOf (T : Histories) (h : HistorySession) : Prop where
  ids : h.rows.ids = T.ids
  stored : ∀ i, (h.rows.row i).stored = T.row i

theorem isSessionOf_start (T : Histories) : IsSessionOf T (.start T) := ⟨rfl, fun _ ↦ rfl⟩

theorem IsSessionOf.mem_ofClient (hT : IsSessionOf T h) {client : ℕ} :
    i ∈ h.ofClient client ↔ i ∈ T.ids ∧ (T.row i).dnsClientId = client := by
  rw [HistorySession.ofClient, Table.mem_select, hT.ids, hT.stored, decide_eq_true_eq]

theorem IsSessionOf.ofClient_eq (hT : IsSessionOf T h) (client : ℕ) :
    h.ofClient client = T.select fun row ↦ row.dnsClientId = client := by
  simp only [HistorySession.ofClient, Table.select, hT.ids, hT.stored]

theorem IsSessionOf.edit (hT : IsSessionOf T h) (k : ℕ) (f : DNSClientHistory → DNSClientHistory)
    (deleted : List ℕ) : IsSessionOf T { rows := h.rows.edit k f, deleted } :=
  ⟨hT.ids, fun i ↦ (h.rows.edit_stored k f i).trans (hT.stored i)⟩

/-- What the merge of some histories of one client leaves. -/
structure MergesHistories (T : Histories) (survivor : ℕ) (ids : List ℕ) (h h' : HistorySession) :
    Prop where
  session : IsSessionOf T h'
  deleted : ∀ i ∈ h'.deleted, i ∈ h.deleted ∨ i ∈ ids
  kept : ∀ i ∈ h.deleted, i ∈ h'.deleted
  own : ∀ e ∈ T.ids, (T.row e).dnsClientId = survivor → (h'.rows.row e).value =
    ((ids.filter fun i ↦ (T.row i).value = (T.row e).value).map T.row).foldl absorb
      (h.rows.row e).value
  others : ∀ e, (T.row e).dnsClientId ≠ survivor → e ∉ ids →
    (h'.rows.row e).value = (h.rows.row e).value

theorem existing_eq_some (hT : IsSessionOf T h) {value : String}
    (he : h.existing survivor value = some e) :
    e ∈ T.ids ∧ (T.row e).dnsClientId = survivor ∧ (T.row e).value = value := by
  obtain ⟨hmem, hrow⟩ := h.rows.mem_select.1 (mem_of_head? he)
  rw [hT.stored] at hrow
  exact ⟨hT.ids ▸ hmem, of_decide_eq_true hrow⟩

theorem existing_eq_none (hT : IsSessionOf T h) {value : String}
    (hnone : h.existing survivor value = none) (he : e ∈ T.ids)
    (hclient : (T.row e).dnsClientId = survivor) : (T.row e).value ≠ value := by
  intro hvalue
  have hmem : e ∈ h.rows.select fun row ↦
      row.stored.dnsClientId = survivor ∧ row.stored.value = value := by
    refine h.rows.mem_select.2 ⟨hT.ids ▸ he, ?_⟩
    rw [hT.stored]
    exact decide_eq_true ⟨hclient, hvalue⟩
  exact absurd (head?_eq_none_iff.1 hnone ▸ hmem) not_mem_nil

/-- One history. -/
theorem mergesHistories_one (hT : IsSessionOf T h) (hapart : ValuesApart T)
    (hvalue : (h.rows.row i).value = T.row i) (hclient : (T.row i).dnsClientId ≠ survivor) :
    MergesHistories T survivor [i] h (h.mergeHistory survivor i) := by
  have hfilter : ∀ e, (T.row i).value ≠ (T.row e).value →
      ([i].filter fun j ↦ (T.row j).value = (T.row e).value) = [] := fun e hne ↦
    filter_cons_of_neg (by simpa using hne)
  simp only [HistorySession.mergeHistory, hvalue]
  split
  next existing hexisting =>
    obtain ⟨hmem, hsurv, hsame⟩ := existing_eq_some hT hexisting
    refine ⟨hT.edit _ _ _, fun j hj ↦ mem_append.1 hj, fun j hj ↦ mem_append_left _ hj,
      fun e he hclient' ↦ ?_, fun e hne _ ↦ ?_⟩
    · rcases eq_or_ne e existing with rfl | hne
      · rw [h.rows.edit_value_self, filter_cons_of_pos (by simpa using hsame.symm)]
        rfl
      · have hvalues : (T.row i).value ≠ (T.row e).value := fun heq ↦
          hne (hapart e he existing hmem (hclient'.trans hsurv.symm)
            (heq.symm.trans hsame.symm))
        rw [h.rows.edit_row_of_ne _ hne, hfilter e hvalues]
        rfl
    · have hne' : e ≠ existing := fun heq ↦ hne (heq ▸ hsurv)
      rw [h.rows.edit_row_of_ne _ hne']
  next hnone =>
    refine ⟨hT.edit _ _ _, fun j hj ↦ .inl hj, fun j hj ↦ hj, fun e he hclient' ↦ ?_,
      fun e _ hmem ↦ ?_⟩
    · have hne : e ≠ i := fun heq ↦ hclient (heq ▸ hclient')
      rw [h.rows.edit_row_of_ne _ hne, hfilter e (Ne.symm (existing_eq_none hT hnone he hclient'))]
      rfl
    · rw [h.rows.edit_row_of_ne _ fun heq ↦ hmem (mem_singleton.2 heq)]

theorem MergesHistories.trans {h'' : HistorySession} {ids' : List ℕ}
    (hfirst : MergesHistories T survivor ids h h')
    (hrest : MergesHistories T survivor ids' h' h'') :
    MergesHistories T survivor (ids ++ ids') h h'' where
  session := hrest.session
  deleted i hi := by
    rcases hrest.deleted i hi with hdeleted | hmem
    · exact (hfirst.deleted i hdeleted).imp_right (mem_append_left _)
    · exact .inr (mem_append_right _ hmem)
  kept i hi := hrest.kept i (hfirst.kept i hi)
  own e he hclient := by
    rw [hrest.own e he hclient, hfirst.own e he hclient, filter_append, map_append, foldl_append]
  others e hne hmem := by
    obtain ⟨hmem', hmem''⟩ := not_or.1 (mt mem_append.2 hmem)
    rw [hrest.others e hne hmem'', hfirst.others e hne hmem']

theorem mergesHistories_foldl (ids : List ℕ) (hT : IsSessionOf T h) (hapart : ValuesApart T)
    (hnodup : ids.Nodup) (hvalue : ∀ i ∈ ids, (h.rows.row i).value = T.row i)
    (hclient : ∀ i ∈ ids, (T.row i).dnsClientId ≠ survivor) :
    MergesHistories T survivor ids h (ids.foldl (fun h id ↦ h.mergeHistory survivor id) h) := by
  induction ids generalizing h with
  | nil =>
    exact ⟨hT, fun i hi ↦ .inl hi, fun i hi ↦ hi, fun e _ _ ↦ rfl, fun e _ _ ↦ rfl⟩
  | cons i ids ih =>
    have hfirst := mergesHistories_one hT hapart (hvalue i mem_cons_self)
      (hclient i mem_cons_self)
    obtain ⟨hmem, hnodup⟩ := nodup_cons.1 hnodup
    refine hfirst.trans (ih hfirst.session hnodup (fun j hj ↦ ?_)
      fun j hj ↦ hclient j (mem_cons_of_mem _ hj))
    rw [hfirst.others j (hclient j (mem_cons_of_mem _ hj))]
    · exact hvalue j (mem_cons_of_mem _ hj)
    · exact fun heq ↦ hmem (mem_singleton.1 heq ▸ hj)

/-! ### Histories of many pairs -/

/-- The histories that a history of a survivor takes over. -/
def takenOver (T : Histories) (pairs : List (ℕ × ℕ)) (e : ℕ) : List ℕ :=
  (pairs.filter fun pair ↦ pair.1 = (T.row e).dnsClientId).flatMap fun pair ↦
    (T.select fun row ↦ row.dnsClientId = pair.2).filter fun i ↦ (T.row i).value = (T.row e).value

/-- A history after the pairs have been merged. -/
def absorbed (T : Histories) (pairs : List (ℕ × ℕ)) (e : ℕ) : DNSClientHistory :=
  ((takenOver T pairs e).map T.row).foldl absorb (T.row e)

/-- What the merge of the pairs leaves of the histories. -/
structure MergedHistories (T : Histories) (pairs : List (ℕ × ℕ)) (h : HistorySession) : Prop where
  session : IsSessionOf T h
  deleted : ∀ i, i ∈ h.deleted ↔ i ∈ T.ids ∧ (T.row i).dnsClientId ∈ pairs.map Prod.snd
  value : ∀ e ∈ T.ids, (T.row e).dnsClientId ∉ pairs.map Prod.snd →
    (h.rows.row e).value = absorbed T pairs e

variable {pairs : List (ℕ × ℕ)}

theorem takenOver_append (e : ℕ) : takenOver T (pairs ++ [(survivor, duplicate)]) e =
    takenOver T pairs e ++ if survivor = (T.row e).dnsClientId then
      (T.select fun row ↦ row.dnsClientId = duplicate).filter fun i ↦
        (T.row i).value = (T.row e).value
    else [] := by
  rw [takenOver, filter_append, flatMap_append, ← takenOver]
  split
  next hsurv =>
    rw [filter_cons_of_pos (by simpa using hsurv), filter_nil, flatMap_cons,
      flatMap_nil, append_nil]
  next hsurv =>
    rw [filter_cons_of_neg (by simpa using hsurv), filter_nil, flatMap_nil]

theorem mergedHistories_start (T : Histories) : MergedHistories T [] (.start T) where
  session := isSessionOf_start T
  deleted _ := ⟨fun h ↦ absurd h not_mem_nil, fun h ↦ absurd h.2 not_mem_nil⟩
  value _ _ _ := rfl

/-- The histories of one more duplicate are merged. -/
theorem MergedHistories.merge (hT : MergedHistories T pairs h) (hapart : ValuesApart T)
    (hsnd : duplicate ∉ pairs.map Prod.snd) (hfst : duplicate ∉ pairs.map Prod.fst)
    (hne : duplicate ≠ survivor) :
    MergedHistories T (pairs ++ [(survivor, duplicate)])
      ((h.mergeHistories survivor duplicate).cascade duplicate) := by
  have hids : ∀ i ∈ h.ofClient duplicate, i ∈ T.ids ∧ (T.row i).dnsClientId = duplicate :=
    fun i hi ↦ hT.session.mem_ofClient.1 hi
  have hfresh : ∀ i ∈ h.ofClient duplicate, (h.rows.row i).value = T.row i := by
    intro i hi
    obtain ⟨hmem, hclient⟩ := hids i hi
    have hnone : pairs.filter (fun pair ↦ pair.1 = (T.row i).dnsClientId) = [] := by
      refine filter_eq_nil_iff.2 fun pair hpair heq ↦ hfst ?_
      rw [← hclient, ← of_decide_eq_true heq]
      exact mem_map_of_mem hpair
    rw [hT.value i hmem (hclient ▸ hsnd), absorbed, takenOver, hnone]
    rfl
  have hmerges : MergesHistories T survivor (h.ofClient duplicate) h
      (h.mergeHistories survivor duplicate) :=
    mergesHistories_foldl _ hT.session hapart (h.rows.nodup.filter _) hfresh fun i hi ↦
      (hids i hi).2 ▸ hne
  have hmem : ∀ i, i ∈ (h.mergeHistories survivor duplicate).ofClient duplicate ↔
      i ∈ T.ids ∧ (T.row i).dnsClientId = duplicate := fun i ↦ hmerges.session.mem_ofClient
  refine ⟨⟨hmerges.session.ids, hmerges.session.stored⟩, fun i ↦ ?_, fun e he hclient ↦ ?_⟩
  · rw [map_append, mem_append, HistorySession.cascade, mem_append, hmem]
    constructor
    · rintro (hdeleted | ⟨hi, hclient⟩)
      · rcases hmerges.deleted i hdeleted with hold | hnew
        · exact ⟨((hT.deleted i).1 hold).1, .inl ((hT.deleted i).1 hold).2⟩
        · exact ⟨(hids i hnew).1, .inr (mem_singleton.2 (hids i hnew).2)⟩
      · exact ⟨hi, .inr (mem_singleton.2 hclient)⟩
    · rintro ⟨hi, hclient | hclient⟩
      · exact .inl (hmerges.kept i ((hT.deleted i).2 ⟨hi, hclient⟩))
      · exact .inr ⟨hi, mem_singleton.1 hclient⟩
  · rw [map_append, mem_append, not_or] at hclient
    have hne' : (T.row e).dnsClientId ≠ duplicate := fun h ↦ hclient.2 (mem_singleton.2 h)
    have hold := hT.value e he hclient.1
    show ((h.mergeHistories survivor duplicate).rows.row e).value = _
    rw [absorbed, takenOver_append]
    split
    next hsurv =>
      rw [hmerges.own e he hsurv.symm, hold, absorbed, hT.session.ofClient_eq,
        map_append, foldl_append]
    next hsurv =>
      rw [append_nil, ← absorbed, ← hold]
      exact hmerges.others e (Ne.symm hsurv) fun hmem' ↦ hne' (hids e hmem').2

/-! ### The commit of histories -/

theorem foldl_absorb (rows : List DNSClientHistory) (row : DNSClientHistory) :
    (rows.foldl absorb row).dnsClientId = row.dnsClientId ∧
      (rows.foldl absorb row).value = row.value := by
  induction rows generalizing row with
  | nil => exact ⟨rfl, rfl⟩
  | cons r rows ih => exact ih (absorb row r)

theorem sameHistory_comm (row row' : DNSClientHistory) :
    sameHistory row row' = sameHistory row' row :=
  decide_eq_decide.2 ⟨fun h ↦ ⟨h.1.symm, h.2.symm⟩, fun h ↦ ⟨h.1.symm, h.2.symm⟩⟩

/-- No constraint is violated, and the histories of the duplicates are gone. -/
theorem MergedHistories.commit (hT : MergedHistories T pairs h) (hapart : ValuesApart T) :
    ∃ T', h.commit = some T' ∧
      (∀ i, i ∈ T'.ids ↔ i ∈ T.ids ∧ (T.row i).dnsClientId ∉ pairs.map Prod.snd) ∧
      ∀ i ∈ T'.ids, T'.row i = absorbed T pairs i := by
  have hkept : ∀ i ∈ h.rows.ids.filter (· ∉ h.deleted),
      i ∈ T.ids ∧ (T.row i).dnsClientId ∉ pairs.map Prod.snd := by
    intro i hi
    obtain ⟨hmem, hdeleted⟩ := mem_filter.1 hi
    rw [hT.session.ids] at hmem
    exact ⟨hmem, fun hclient ↦ of_decide_eq_true hdeleted ((hT.deleted i).2 ⟨hmem, hclient⟩)⟩
  have hsto : h.rows.Apart sameHistory := by
    intro i hi j hj hclash
    rw [hT.session.stored, hT.session.stored] at hclash
    obtain ⟨hclient, hvalue⟩ := of_decide_eq_true hclash
    exact hapart i (hT.session.ids ▸ hi) j (hT.session.ids ▸ hj) hclient hvalue
  have hflush : (h.rows.flush sameHistory (h.rows.ids.filter (· ∉ h.deleted))).isSome = true := by
    refine Table.flush_isSome sameHistory_comm hsto (fun i hi ↦ (mem_filter.1 hi).1)
      fun i hi row ↦ ?_
    obtain ⟨hmem, hclient⟩ := hkept i hi
    obtain ⟨hclient', hvalue⟩ := foldl_absorb ((takenOver T pairs i).map T.row) (T.row i)
    rw [hT.value i hmem hclient, hT.session.stored, absorbed, sameHistory, sameHistory, hclient',
      hvalue]
  obtain ⟨rows, hrows⟩ := Option.isSome_iff_exists.1 hflush
  obtain ⟨hwrote, hvalues⟩ := Table.wrote_of_flush hrows
  refine ⟨(rows.delete h.deleted).map (·.stored), ?_, fun i ↦ ?_, fun i hi ↦ ?_⟩
  · rw [HistorySession.commit, hrows, Option.map_some]
  · rw [Table.map_ids, Table.mem_delete, hwrote.ids, hT.session.ids, hT.deleted]
    exact and_congr_right fun hmem ↦ not_congr (and_iff_right hmem)
  · rw [Table.map_ids, Table.mem_delete, hwrote.ids] at hi
    have hmem : i ∈ h.rows.ids.filter (· ∉ h.deleted) :=
      mem_filter.2 ⟨hi.1, decide_eq_true hi.2⟩
    rw [Table.map_row, Table.delete_row, hvalues i hmem]
    exact hT.value i (hkept i hmem).1 (hkept i hmem).2

/-- The history is what these histories are together. -/
structure IsMergeOf (rows : List DNSClientHistory) (row : DNSClientHistory) : Prop where
  count : row.observationCount = (rows.map (·.observationCount)).sum
  first : IsLeast {time | ∃ r ∈ rows, r.firstSeenAt = time} row.firstSeenAt
  last : IsGreatest {time | ∃ r ∈ rows, r.lastSeenAt = time} row.lastSeenAt

/-- A row that absorbs others is a merge of them all. -/
theorem isMergeOf_foldl (rows : List DNSClientHistory) (row : DNSClientHistory) :
    IsMergeOf (row :: rows) (rows.foldl absorb row) := by
  induction rows using reverseRecOn with
  | nil =>
    refine ⟨(add_zero _).symm, ⟨⟨row, mem_cons_self, rfl⟩, ?_⟩, ⟨row, mem_cons_self, rfl⟩, ?_⟩
    all_goals
      rintro _ ⟨r, hr, rfl⟩
      rw [mem_singleton.1 hr]
      exact le_rfl
  | append_singleton rows r ih =>
    rw [foldl_append, foldl_cons, foldl_nil]
    obtain ⟨hcount, ⟨⟨f, hf, hfirst⟩, hle⟩, ⟨l, hl, hlast⟩, hge⟩ := ih
    have hmem : ∀ r' ∈ row :: (rows ++ [r]), r' ∈ row :: rows ∨ r' = r := by
      intro r' hr'
      rw [← cons_append, mem_append, mem_singleton] at hr'
      exact hr'
    have hold : ∀ r' ∈ row :: rows, r' ∈ row :: (rows ++ [r]) := fun r' hr' ↦ by
      rw [← cons_append]
      exact mem_append_left _ hr'
    have hnew : r ∈ row :: (rows ++ [r]) := by
      rw [← cons_append]
      exact mem_append_right _ mem_cons_self
    refine ⟨?_, ⟨?_, ?_⟩, ?_, ?_⟩
    · rw [← cons_append, map_append, sum_append, ← hcount]
      rfl
    · show ∃ r' ∈ row :: (rows ++ [r]), r'.firstSeenAt = min _ r.firstSeenAt
      rcases min_choice (rows.foldl absorb row).firstSeenAt r.firstSeenAt with hmin | hmin
      · exact ⟨f, hold f hf, hfirst.trans hmin.symm⟩
      · exact ⟨r, hnew, hmin.symm⟩
    · rintro _ ⟨r', hr', rfl⟩
      show min _ r.firstSeenAt ≤ _
      rcases hmem r' hr' with hr' | rfl
      · exact (min_le_left _ _).trans (hle ⟨r', hr', rfl⟩)
      · exact min_le_right _ _
    · show ∃ r' ∈ row :: (rows ++ [r]), r'.lastSeenAt = max _ r.lastSeenAt
      rcases max_choice (rows.foldl absorb row).lastSeenAt r.lastSeenAt with hmax | hmax
      · exact ⟨l, hold l hl, hlast.trans hmax.symm⟩
      · exact ⟨r, hnew, hmax.symm⟩
    · rintro _ ⟨r', hr', rfl⟩
      show _ ≤ max _ r.lastSeenAt
      rcases hmem r' hr' with hr' | rfl
      · exact (hge ⟨r', hr', rfl⟩).trans (le_max_left _ _)
      · exact le_max_right _ _

theorem IsMergeOf.perm {rows rows' : List DNSClientHistory} {row : DNSClientHistory}
    (h : IsMergeOf rows row) (hperm : rows.Perm rows') : IsMergeOf rows' row where
  count := h.count.trans (hperm.map _).sum_eq
  first := by simpa only [hperm.mem_iff] using h.first
  last := by simpa only [hperm.mem_iff] using h.last

end Kaya.Dns
