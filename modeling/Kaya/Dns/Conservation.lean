import Kaya.Dns.ConsolidationTotals

/-!
# What a consolidation conserves

The clients of an identity are to become one of them, the survivor, that has one history for each
value, which is all histories of the value together, and the managed link and the asset of the
identity (`Conserves`). Three things stand against it: clients whose links contradict each other are
left as they are, the asset of a duplicate is taken over by no line of the merge, and a value that
the survivor did not have is lost. `conserves_iff` says that this is all.
-/

namespace Kaya.Dns

open List
open Kaya.HA (DateTime seconds)

variable {t t' : ClientTables} {s : MergeSession} {pairs : List (ℕ × ℕ)}
  {survivor duplicate i j c : ℕ} {candidates : List ℕ} {clients : Table DNSRecognisedDevice}

/-! ### Pairs -/

/-- What the merge of the pairs leaves. -/
structure Merged (t : ClientTables) (pairs : List (ℕ × ℕ)) (s : MergeSession) : Prop where
  nodup : (pairs.map Prod.snd).Nodup
  ids : s.clients.ids = t.clients.ids
  removed : s.removed = pairs.map Prod.snd
  row : ∀ i, i ∉ pairs.map Prod.fst → s.clients.row i = t.clients.row i
  identity : ∀ i, strongIdentity (s.clients.row i) = strongIdentity (t.clients.row i)
  asset : ∀ i, (s.clients.row i).hardwareAssetId = (t.clients.row i).hardwareAssetId
  link : ∀ i, ∀ link ∈ (s.clients.row i).linkedIpRecordId,
    ∃ c, (c = i ∨ (i, c) ∈ pairs) ∧ (t.clients.row c).linkedIpRecordId = some link
  linked : ∀ i, (s.clients.row i).linkedIpRecordId = none →
    ∀ c, c = i ∨ (i, c) ∈ pairs → (t.clients.row c).linkedIpRecordId = none
  ipHistory : MergedHistories t.ipHistory pairs s.ipHistory
  hostnameHistory : MergedHistories t.hostnameHistory pairs s.hostnameHistory

theorem merged_start (t : ClientTables) : Merged t [] (.start t) where
  nodup := nodup_nil
  ids := rfl
  removed := rfl
  row _ _ := rfl
  identity _ := rfl
  asset _ := rfl
  link i link h := ⟨i, .inl rfl, h⟩
  linked i h c hc := by
    obtain rfl := hc.resolve_right not_mem_nil
    exact h
  ipHistory := mergedHistories_start _
  hostnameHistory := mergedHistories_start _

/-- The histories of a client have different values. -/
structure Stored (t : ClientTables) : Prop where
  ipHistory : ValuesApart t.ipHistory
  hostnameHistory : ValuesApart t.hostnameHistory

/-- One more duplicate is merged. -/
theorem Merged.merge (h : Merged t pairs s) (ht : Stored t) (hsnd : duplicate ∉ pairs.map Prod.snd)
    (hfst : duplicate ∉ pairs.map Prod.fst) (hne : duplicate ≠ survivor) :
    Merged t (pairs ++ [(survivor, duplicate)]) (mergeDuplicate survivor s duplicate) := by
  have hself : (mergeDuplicate survivor s duplicate).clients.row survivor =
      mergedClient (s.clients.row survivor) (s.clients.row duplicate) :=
    s.clients.modify_row_self survivor fun row ↦ mergedClient row (s.clients.row duplicate)
  have hothers : ∀ i, i ≠ survivor →
      (mergeDuplicate survivor s duplicate).clients.row i = s.clients.row i :=
    fun i hi ↦ s.clients.modify_row_of_ne hi fun row ↦ mergedClient row (s.clients.row duplicate)
  have hpair : ∀ i c, i ≠ survivor → ((i, c) ∈ pairs ++ [(survivor, duplicate)] ↔
      (i, c) ∈ pairs) := by
    intro i c hi
    simp [hi]
  refine
    { nodup := ?_
      ids := h.ids
      removed := ?_
      row := fun i hi ↦ ?_
      identity := fun i ↦ ?_
      asset := fun i ↦ ?_
      link := fun i link hlink ↦ ?_
      linked := fun i hnone c hc ↦ ?_
      ipHistory := h.ipHistory.merge ht.ipHistory hsnd hfst hne
      hostnameHistory := h.hostnameHistory.merge ht.hostnameHistory hsnd hfst hne }
  · rw [map_append, nodup_append]
    refine ⟨h.nodup, nodup_singleton _, ?_⟩
    rintro a ha b hb rfl
    have hab : a = duplicate := mem_singleton.1 hb
    exact hsnd (hab ▸ ha)
  · rw [map_append, ← h.removed]
    rfl
  · rw [map_append, mem_append, not_or] at hi
    have hi' : i ≠ survivor := fun heq ↦ hi.2 (mem_singleton.2 heq)
    rw [hothers i hi']
    exact h.row i hi.1
  · rcases eq_or_ne i survivor with rfl | hi
    · rw [hself, ← h.identity i]
      rfl
    · rw [hothers i hi]
      exact h.identity i
  · rcases eq_or_ne i survivor with rfl | hi
    · rw [hself, ← h.asset i]
      rfl
    · rw [hothers i hi]
      exact h.asset i
  · rcases eq_or_ne i survivor with rfl | hi
    · rw [hself] at hlink
      have hlink' : ((s.clients.row i).linkedIpRecordId <|>
          (s.clients.row duplicate).linkedIpRecordId) = some link := hlink
      rcases (Option.orElse_eq_some _ _ _).1 hlink' with hold | ⟨-, hnew⟩
      · obtain ⟨c, hc, hlinked⟩ := h.link i link hold
        exact ⟨c, hc.imp_right (mem_append_left _), hlinked⟩
      · rw [h.row duplicate hfst] at hnew
        exact ⟨duplicate, .inr (mem_append_right _ mem_cons_self), hnew⟩
    · rw [hothers i hi] at hlink
      obtain ⟨c, hc, hlinked⟩ := h.link i link hlink
      exact ⟨c, hc.imp_right (mem_append_left _), hlinked⟩
  · rcases eq_or_ne i survivor with rfl | hi
    · rw [hself] at hnone
      have hnone' : ((s.clients.row i).linkedIpRecordId <|>
          (s.clients.row duplicate).linkedIpRecordId) = none := hnone
      obtain ⟨hold, hnew⟩ := (Option.orElse_eq_none _ _).1 hnone'
      rw [mem_append, mem_singleton, Prod.mk.injEq] at hc
      rcases hc with hc | hc | ⟨-, rfl⟩
      · exact h.linked i hold c (.inl hc)
      · exact h.linked i hold c (.inr hc)
      · rw [h.row c hfst] at hnew
        exact hnew
    · rw [hothers i hi] at hnone
      exact h.linked i hnone c (hc.imp_right (hpair i c hi).1)

/-! ### Groups -/

/-- The pairs of a group. -/
def pairsOf (clients : Table DNSRecognisedDevice) (candidates : List ℕ) : List (ℕ × ℕ) :=
  if isUnambiguousLink clients candidates then
    match survivorOf clients candidates with
    | none => []
    | some survivor => (candidates.filter (· ≠ survivor)).map fun duplicate ↦ (survivor, duplicate)
  else []

theorem mem_of_survivorOf
    (h : survivorOf clients candidates = some survivor) : survivor ∈ candidates :=
  (mem_insertionSort _).1 (mem_of_head? h)

theorem exists_survivorOf (h : candidates ≠ []) :
    ∃ survivor, survivorOf clients candidates = some survivor := by
  refine Option.isSome_iff_exists.1 ?_
  rw [survivorOf, isSome_head?]
  exact fun hnil ↦ h (length_eq_zero_iff.1 ((length_insertionSort _ _).symm.trans
    (congrArg length hnil)))

theorem mem_pairsOf {pair : ℕ × ℕ} :
    pair ∈ pairsOf clients candidates ↔ isUnambiguousLink clients candidates = true ∧
      survivorOf clients candidates = some pair.1 ∧ pair.2 ∈ candidates ∧ pair.2 ≠ pair.1 := by
  rw [pairsOf]
  split
  next hlink =>
    rw [and_iff_right hlink]
    cases hsurv : survivorOf clients candidates with
    | none => simp
    | some survivor =>
      simp only [mem_map, mem_filter, decide_eq_true_eq, Option.some.injEq]
      constructor
      · rintro ⟨duplicate, ⟨hmem, hne⟩, rfl⟩
        exact ⟨rfl, hmem, hne⟩
      · rintro ⟨rfl, hmem, hne⟩
        exact ⟨pair.2, ⟨hmem, hne⟩, rfl⟩
  next hlink => simp [hlink]

/-- The loop over the duplicates of a group. -/
theorem mergeGroup_eq : mergeGroup s candidates =
    (pairsOf s.clients candidates).foldl (fun s pair ↦ mergeDuplicate pair.1 s pair.2) s := by
  rw [mergeGroup, pairsOf]
  split
  next hskip =>
    split
    next hlink =>
      have hlen : candidates.length < 2 :=
        hskip.resolve_right fun h ↦ Bool.false_ne_true (h.symm.trans hlink)
      cases hsurv : survivorOf s.clients candidates with
      | none => rfl
      | some survivor =>
        have hnil : candidates.filter (· ≠ survivor) = [] := by
          refine filter_eq_nil_iff.2 fun c hc ↦ ?_
          have hmem := mem_of_survivorOf hsurv
          obtain ⟨a, ha⟩ := length_eq_one_iff.1
            (le_antisymm (Nat.lt_succ_iff.1 hlen) (length_pos_of_mem hc))
          rw [ha] at hc hmem
          simp [mem_singleton.1 hc, mem_singleton.1 hmem]
        simp only [hnil]
        rfl
    · rfl
  next hskip =>
    rw [if_pos (by simpa using (not_or.1 hskip).2)]
    cases survivorOf s.clients candidates with
    | none => rfl
    | some survivor =>
      show foldl (mergeDuplicate survivor) s _ = foldl _ s (map _ _)
      rw [foldl_map]

theorem insertionSort_congr {α : Type*} {r r' : α → α → Prop} [DecidableRel r] [DecidableRel r']
    {l : List α} (h : ∀ a ∈ l, ∀ b ∈ l, r a b ↔ r' a b) :
    l.insertionSort r = l.insertionSort r' := by
  have hmap := map_insertionSort r r' id l h
  rwa [map_id, map_id] at hmap

/-- The pairs of a group depend on its own clients only. -/
theorem pairsOf_congr {clients' : Table DNSRecognisedDevice}
    (h : ∀ c ∈ candidates, clients.row c = clients'.row c) :
    pairsOf clients candidates = pairsOf clients' candidates := by
  have hlink : isUnambiguousLink clients candidates = isUnambiguousLink clients' candidates := by
    rw [isUnambiguousLink, isUnambiguousLink, filterMap_congr fun c hc ↦ by rw [h c hc]]
  have hsurv : survivorOf clients candidates = survivorOf clients' candidates := by
    rw [survivorOf, survivorOf]
    refine congrArg head? (insertionSort_congr fun i hi j hj ↦ ?_)
    rw [h i hi, h j hj]
  rw [pairsOf, pairsOf, hlink, hsurv]

theorem Merged.foldl (duplicates : List ℕ) (h : Merged t pairs s) (ht : Stored t)
    (hnodup : duplicates.Nodup) (hne : ∀ d ∈ duplicates, d ≠ survivor)
    (hfresh : ∀ d ∈ duplicates, d ∉ pairs.map Prod.fst ∧ d ∉ pairs.map Prod.snd) :
    Merged t (pairs ++ duplicates.map fun d ↦ (survivor, d))
      ((duplicates.map fun d ↦ (survivor, d)).foldl
        (fun s pair ↦ mergeDuplicate pair.1 s pair.2) s) := by
  induction duplicates generalizing pairs s with
  | nil => simpa using h
  | cons d duplicates ih =>
    obtain ⟨hmem, hnodup⟩ := nodup_cons.1 hnodup
    obtain ⟨hfst, hsnd⟩ := hfresh d mem_cons_self
    have hnext := h.merge ht hsnd hfst (hne d mem_cons_self)
    have hfresh' : ∀ d' ∈ duplicates, d' ∉ (pairs ++ [(survivor, d)]).map Prod.fst ∧
        d' ∉ (pairs ++ [(survivor, d)]).map Prod.snd := by
      intro d' hd'
      obtain ⟨hfst', hsnd'⟩ := hfresh d' (mem_cons_of_mem _ hd')
      have hsurv : d' ≠ survivor := hne d' (mem_cons_of_mem _ hd')
      have hd : d' ≠ d := fun heq ↦ hmem (heq ▸ hd')
      rw [map_append, map_append, mem_append, mem_append, not_or, not_or]
      exact ⟨⟨hfst', fun heq ↦ hsurv (mem_singleton.1 heq)⟩,
        hsnd', fun heq ↦ hd (mem_singleton.1 heq)⟩
    have hrest := ih hnext hnodup (fun d' hd' ↦ hne d' (mem_cons_of_mem _ hd')) hfresh'
    rwa [append_assoc] at hrest

theorem Merged.group (h : Merged t pairs s) (ht : Stored t) (hnodup : candidates.Nodup)
    (hfresh : ∀ c ∈ candidates, c ∉ pairs.map Prod.fst ∧ c ∉ pairs.map Prod.snd) :
    Merged t (pairs ++ pairsOf t.clients candidates) (mergeGroup s candidates) := by
  rw [mergeGroup_eq, pairsOf_congr fun c hc ↦ h.row c (hfresh c hc).1, pairsOf]
  split
  · split
    · simpa using h
    next survivor _ =>
      refine h.foldl _ ht (hnodup.filter _) (fun d hd ↦ ?_) fun d hd ↦ ?_
      · exact of_decide_eq_true (mem_filter.1 hd).2
      · exact hfresh d (mem_filter.1 hd).1
  · simpa using h

theorem Merged.groups (items : List (Option (String × String) × List ℕ)) (h : Merged t pairs s)
    (ht : Stored t) (hkeys : (items.map Prod.fst).Nodup)
    (hitems : ∀ item ∈ items, item.2.Nodup ∧
      ∀ c ∈ item.2, strongIdentity (t.clients.row c) = item.1)
    (hfresh : ∀ pair ∈ pairs, ∀ item ∈ items, strongIdentity (t.clients.row pair.1) ≠ item.1 ∧
      strongIdentity (t.clients.row pair.2) ≠ item.1) :
    Merged t (pairs ++ items.flatMap fun item ↦ pairsOf t.clients item.2)
      ((items.map Prod.snd).foldl mergeGroup s) := by
  induction items generalizing pairs s with
  | nil => simpa using h
  | cons item items ih =>
    obtain ⟨hmem, hkeys⟩ := nodup_cons.1 hkeys
    obtain ⟨hnodup, hkey⟩ := hitems item mem_cons_self
    have hnext := h.group ht hnodup fun c hc ↦ by
      constructor
      · intro hc'
        obtain ⟨pair, hpair, rfl⟩ := mem_map.1 hc'
        exact (hfresh pair hpair item mem_cons_self).1 (hkey _ hc)
      · intro hc'
        obtain ⟨pair, hpair, rfl⟩ := mem_map.1 hc'
        exact (hfresh pair hpair item mem_cons_self).2 (hkey _ hc)
    have hrest := ih hnext hkeys (fun item' h ↦ hitems item' (mem_cons_of_mem _ h))
      fun pair hpair item' hitem' ↦ by
        have hne : item.1 ≠ item'.1 := fun heq ↦ hmem (heq ▸ mem_map_of_mem hitem')
        rcases mem_append.1 hpair with hold | hnew
        · exact hfresh pair hold item' (mem_cons_of_mem _ hitem')
        · obtain ⟨-, hsurv, hmem', -⟩ := mem_pairsOf.1 hnew
          rw [hkey _ (mem_of_survivorOf hsurv), hkey _ hmem']
          exact ⟨hne, hne⟩
    rwa [append_assoc] at hrest

/-- The pairs of the whole merge. -/
def allPairs (clients : Table DNSRecognisedDevice) : List (ℕ × ℕ) :=
  (identityGroups clients).items.flatMap fun item ↦ pairsOf clients item.2

/-- The clients of an identity, in the order of their ids. -/
def candidatesOf (clients : Table DNSRecognisedDevice) (key : String × String) : List ℕ :=
  ((clients.select fun row ↦ row.normalisedMac.isSome).insertionSort (· ≤ ·)).filter fun id ↦
    strongIdentity (clients.row id) = some key

/-- A client of the identity. -/
def isCandidate (t : ClientTables) (key : String × String) (c : ℕ) : Bool :=
  c ∈ t.clients.ids ∧ strongIdentity (t.clients.row c) = some key

theorem isCandidate_iff {key : String × String} :
    isCandidate t key c = true ↔ c ∈ t.clients.ids ∧ strongIdentity (t.clients.row c) = some key :=
  decide_eq_true_iff

theorem mem_candidatesOf {key : String × String} :
    c ∈ candidatesOf t.clients key ↔ isCandidate t key c = true := by
  rw [candidatesOf, mem_filter, mem_insertionSort, Table.mem_select, decide_eq_true_eq,
    isCandidate_iff, and_assoc]
  refine and_congr_right fun _ ↦ and_iff_right_of_imp fun hkey ↦ ?_
  rw [strongIdentity, Option.map_eq_some_iff] at hkey
  obtain ⟨mac, hmac, -⟩ := hkey
  rw [hmac, Option.isSome_some]

theorem item_eq {item : Option (String × String) × List ℕ}
    (h : item ∈ (identityGroups t.clients).items) : item.2.Nodup ∧
      ∀ c ∈ item.2, strongIdentity (t.clients.row c) = item.1 := by
  refine ⟨?_, fun c hc ↦ (Dict.mem_groupBy h hc).2⟩
  rw [Dict.groupBy_eq_filter h]
  refine Nodup.filter _ ?_
  exact (perm_insertionSort _ _).nodup_iff.2 (t.clients.nodup.filter _)

theorem merged_allPairs (ht : Stored t) : Merged t (allPairs t.clients)
    (((identityGroups t.clients).items.map Prod.snd).foldl mergeGroup (.start t)) := by
  have hmerged := (merged_start t).groups (identityGroups t.clients).items ht
    (identityGroups t.clients).nodup (fun item hitem ↦ item_eq hitem)
    fun pair hpair ↦ absurd hpair not_mem_nil
  rwa [nil_append] at hmerged

/-- The pairs of an identity are those of its clients. -/
theorem mem_allPairs_iff {key : String × String} {pair : ℕ × ℕ}
    (h : isCandidate t key pair.1 = true ∨ isCandidate t key pair.2 = true) :
    pair ∈ allPairs t.clients ↔ pair ∈ pairsOf t.clients (candidatesOf t.clients key) := by
  rw [allPairs, mem_flatMap]
  constructor
  · rintro ⟨⟨key', group⟩, hitem, hpair⟩
    obtain ⟨-, hsurv, hmem, -⟩ := mem_pairsOf.1 hpair
    obtain ⟨-, hkey⟩ := item_eq hitem
    have hkey' : key' = some key := by
      rcases h with h | h
      · exact (hkey _ (mem_of_survivorOf hsurv)).symm.trans (isCandidate_iff.1 h).2
      · exact (hkey _ hmem).symm.trans (isCandidate_iff.1 h).2
    have hgroup : group = candidatesOf t.clients key := by
      rw [Dict.groupBy_eq_filter hitem, hkey']
      rfl
    exact hgroup ▸ hpair
  · intro hpair
    obtain ⟨-, hsurv, hmem, -⟩ := mem_pairsOf.1 hpair
    have hcand := mem_of_survivorOf hsurv
    have hkey := (isCandidate_iff.1 (mem_candidatesOf.1 hcand)).2
    have hitem : (strongIdentity (t.clients.row pair.1), _) ∈ (identityGroups t.clients).items :=
      Dict.mem_groupBy_of_mem (mem_of_mem_filter hcand)
    rw [hkey] at hitem
    exact ⟨_, hitem, hpair⟩

/-! ### Conservation -/

variable {key : String × String}

/-- The histories of an identity with a value. -/
def historiesOf (t : ClientTables) (key : String × String) (T : Histories) (value : String) :
    List ℕ :=
  T.select fun row ↦ isCandidate t key row.dnsClientId ∧ row.value = value

theorem mem_historiesOf {T : Histories} {value : String} : i ∈ historiesOf t key T value ↔
    i ∈ T.ids ∧ isCandidate t key (T.row i).dnsClientId = true ∧ (T.row i).value = value := by
  rw [historiesOf, Table.mem_select, decide_eq_true_eq]

/-- The survivor has one history for each value of the identity, which is all of them together. -/
structure ConservesHistories (t : ClientTables) (key : String × String) (T T' : Histories)
    (survivor : ℕ) : Prop where
  one : ∀ i ∈ T'.ids, ∀ j ∈ T'.ids, (T'.row i).dnsClientId = survivor →
    (T'.row j).dnsClientId = survivor → (T'.row i).value = (T'.row j).value → i = j
  merged : ∀ value, historiesOf t key T value ≠ [] → ∃ i ∈ T'.ids,
    (T'.row i).dnsClientId = survivor ∧ (T'.row i).value = value ∧
      IsMergeOf ((historiesOf t key T value).map T.row) (T'.row i)

/-- A column that some clients of the identity have, without contradiction. -/
def IsColumnOf {α : Type*} (t : ClientTables) (key : String × String)
    (column : DNSRecognisedDevice → Option α) (a : α) : Prop :=
  (∃ c, isCandidate t key c = true ∧ column (t.clients.row c) = some a) ∧
    ∀ c, isCandidate t key c = true → column (t.clients.row c) = none ∨
      column (t.clients.row c) = some a

/-- The clients of an identity are merged into this one. -/
structure Conserves (t t' : ClientTables) (key : String × String) (survivor : ℕ) : Prop where
  remains : isCandidate t' key survivor = true
  unique : ∀ c, isCandidate t' key c = true → c = survivor
  ipHistory : ConservesHistories t key t.ipHistory t'.ipHistory survivor
  hostnameHistory : ConservesHistories t key t.hostnameHistory t'.hostnameHistory survivor
  link : ∀ link, IsColumnOf t key (·.linkedIpRecordId) link →
    (t'.clients.row survivor).linkedIpRecordId = some link
  asset : ∀ asset, IsColumnOf t key (·.hardwareAssetId) asset →
    (t'.clients.row survivor).hardwareAssetId = some asset

/-- The client has every value of the identity. -/
def HasValues (t : ClientTables) (key : String × String) (T : Histories) (survivor : ℕ) : Prop :=
  ∀ i ∈ T.ids, isCandidate t key (T.row i).dnsClientId = true →
    ∃ e ∈ T.ids, (T.row e).dnsClientId = survivor ∧ (T.row e).value = (T.row i).value

/-- The survivor has the values and the asset of the identity. -/
structure HasAll (t : ClientTables) (key : String × String) (survivor : ℕ) : Prop where
  ipHistory : HasValues t key t.ipHistory survivor
  hostnameHistory : HasValues t key t.hostnameHistory survivor
  asset : ∀ asset, IsColumnOf t key (·.hardwareAssetId) asset →
    (t.clients.row survivor).hardwareAssetId = some asset

/-- The pairs of an identity that is merged. -/
theorem mem_allPairs_survivor
    (hlink : isUnambiguousLink t.clients (candidatesOf t.clients key) = true)
    (hsurv : survivorOf t.clients (candidatesOf t.clients key) = some survivor) :
    (survivor, c) ∈ allPairs t.clients ↔ isCandidate t key c = true ∧ c ≠ survivor := by
  have hcand := mem_candidatesOf.1 (mem_of_survivorOf hsurv)
  rw [mem_allPairs_iff (.inl hcand), mem_pairsOf, and_iff_right hlink,
    and_iff_right hsurv, mem_candidatesOf]

/-- Of the clients of an identity all but the survivor are duplicates. -/
theorem mem_duplicates_iff (hlink : isUnambiguousLink t.clients (candidatesOf t.clients key) = true)
    (hsurv : survivorOf t.clients (candidatesOf t.clients key) = some survivor)
    (hc : isCandidate t key c = true) : c ∈ (allPairs t.clients).map Prod.snd ↔ c ≠ survivor := by
  constructor
  · intro h
    obtain ⟨pair, hpair, rfl⟩ := mem_map.1 h
    obtain ⟨-, hsurv', -, hne⟩ := mem_pairsOf.1 ((mem_allPairs_iff (.inr hc)).1 hpair)
    rwa [Option.some.inj (hsurv.symm.trans hsurv')]
  · exact fun hne ↦ mem_map.2 ⟨_, (mem_allPairs_survivor hlink hsurv).2 ⟨hc, hne⟩, rfl⟩

section Histories

variable {T T' : Histories} {e : ℕ}

/-- The histories of a value are those of the survivor and those that it takes over. -/
theorem perm_historiesOf (hapart : ValuesApart T)
    (hnodup : ((allPairs t.clients).map Prod.snd).Nodup)
    (hlink : isUnambiguousLink t.clients (candidatesOf t.clients key) = true)
    (hsurv : survivorOf t.clients (candidatesOf t.clients key) = some survivor)
    (he : e ∈ T.ids) (hclient : (T.row e).dnsClientId = survivor) :
    (e :: takenOver T (allPairs t.clients) e).Perm (historiesOf t key T (T.row e).value) := by
  have hcand := mem_candidatesOf.1 (mem_of_survivorOf hsurv)
  have hmem : ∀ i, i ∈ takenOver T (allPairs t.clients) e ↔ i ∈ T.ids ∧
      (isCandidate t key (T.row i).dnsClientId = true ∧ (T.row i).dnsClientId ≠ survivor) ∧
        (T.row i).value = (T.row e).value := by
    intro i
    simp only [takenOver, mem_flatMap, mem_filter, Table.mem_select, decide_eq_true_eq, hclient]
    constructor
    · rintro ⟨⟨s, d⟩, ⟨hpair, rfl⟩, ⟨hi, rfl⟩, hvalue⟩
      exact ⟨hi, (mem_allPairs_survivor hlink hsurv).1 hpair, hvalue⟩
    · rintro ⟨hi, hpair, hvalue⟩
      exact ⟨(survivor, (T.row i).dnsClientId),
        ⟨(mem_allPairs_survivor hlink hsurv).2 hpair, rfl⟩, ⟨hi, rfl⟩, hvalue⟩
  have htaken : (takenOver T (allPairs t.clients) e).Nodup := by
    refine nodup_flatMap.2 ⟨fun pair _ ↦ (T.nodup.filter _).filter _, ?_⟩
    have hpairs : (allPairs t.clients).Pairwise fun pair pair' ↦ pair.2 ≠ pair'.2 :=
      pairwise_map.1 hnodup
    refine (hpairs.filter _).imp fun hne ↦ ?_
    refine disjoint_left.2 fun i hi hi' ↦ hne ?_
    have hfst := (T.mem_select.1 (mem_of_mem_filter hi)).2
    have hsnd := (T.mem_select.1 (mem_of_mem_filter hi')).2
    exact (of_decide_eq_true hfst).symm.trans (of_decide_eq_true hsnd)
  refine (perm_ext_iff_of_nodup (nodup_cons.2 ⟨fun h ↦ ?_, htaken⟩)
    (T.nodup.filter _)).2 fun i ↦ ?_
  · exact ((hmem e).1 h).2.1.2 hclient
  · rw [mem_cons, hmem]
    show _ ↔ i ∈ historiesOf t key T (T.row e).value
    rw [mem_historiesOf]
    constructor
    · rintro (rfl | ⟨hi, ⟨hcand', -⟩, hvalue⟩)
      · exact ⟨he, hclient ▸ hcand, rfl⟩
      · exact ⟨hi, hcand', hvalue⟩
    · rintro ⟨hi, hcand', hvalue⟩
      by_cases hsame : (T.row i).dnsClientId = survivor
      · exact .inl (hapart i hi e he (hsame.trans hclient.symm) hvalue)
      · exact .inr ⟨hi, ⟨hcand', hsame⟩, hvalue⟩

theorem conservesHistories_iff (hapart : ValuesApart T)
    (hnodup : ((allPairs t.clients).map Prod.snd).Nodup)
    (hlink : isUnambiguousLink t.clients (candidatesOf t.clients key) = true)
    (hsurv : survivorOf t.clients (candidatesOf t.clients key) = some survivor)
    (hids : ∀ i, i ∈ T'.ids ↔ i ∈ T.ids ∧ (T.row i).dnsClientId ∉ (allPairs t.clients).map Prod.snd)
    (hrow : ∀ i ∈ T'.ids, T'.row i = absorbed T (allPairs t.clients) i) :
    ConservesHistories t key T T' survivor ↔ HasValues t key T survivor := by
  have hcand := mem_candidatesOf.1 (mem_of_survivorOf hsurv)
  have hfields : ∀ i ∈ T'.ids, (T'.row i).dnsClientId = (T.row i).dnsClientId ∧
      (T'.row i).value = (T.row i).value := by
    intro i hi
    rw [hrow i hi]
    exact foldl_absorb _ _
  constructor
  · intro h i hi hclient
    have hmem : i ∈ historiesOf t key T (T.row i).value := mem_historiesOf.2 ⟨hi, hclient, rfl⟩
    obtain ⟨e, he, hsame, hvalue, -⟩ := h.merged _ (ne_nil_of_mem hmem)
    rw [(hfields e he).1] at hsame
    rw [(hfields e he).2] at hvalue
    exact ⟨e, ((hids e).1 he).1, hsame, hvalue⟩
  · intro h
    refine ⟨fun i hi j hj hclient hclient' hvalue ↦ ?_, fun value hne ↦ ?_⟩
    · rw [(hfields i hi).1] at hclient
      rw [(hfields j hj).1] at hclient'
      rw [(hfields i hi).2, (hfields j hj).2] at hvalue
      exact hapart i ((hids i).1 hi).1 j ((hids j).1 hj).1 (hclient.trans hclient'.symm) hvalue
    · obtain ⟨i, hmem⟩ := exists_mem_of_ne_nil _ hne
      obtain ⟨hi, hclient, rfl⟩ := mem_historiesOf.1 hmem
      obtain ⟨e, he, hsame, hvalue⟩ := h i hi hclient
      have hkept : e ∈ T'.ids := (hids e).2 ⟨he, fun hmem ↦
        (mem_duplicates_iff hlink hsurv (hsame ▸ hcand)).1 hmem hsame⟩
      refine ⟨e, hkept, (hfields e hkept).1.trans hsame, (hfields e hkept).2.trans hvalue, ?_⟩
      have hperm := perm_historiesOf hapart hnodup hlink hsurv he hsame
      rw [hvalue] at hperm
      rw [hrow e hkept]
      exact (isMergeOf_foldl _ _).perm (hperm.map T.row)

end Histories

/-- The merge is committed. -/
theorem Merged.commit (hs : Merged t (allPairs t.clients) s) (ht : Stored t) :
    ∃ t', s.commit = some t' ∧ t'.clients = s.clients.delete s.removed ∧
      ((∀ i, i ∈ t'.ipHistory.ids ↔ i ∈ t.ipHistory.ids ∧
          (t.ipHistory.row i).dnsClientId ∉ (allPairs t.clients).map Prod.snd) ∧
        ∀ i ∈ t'.ipHistory.ids, t'.ipHistory.row i = absorbed t.ipHistory (allPairs t.clients) i) ∧
      (∀ i, i ∈ t'.hostnameHistory.ids ↔ i ∈ t.hostnameHistory.ids ∧
          (t.hostnameHistory.row i).dnsClientId ∉ (allPairs t.clients).map Prod.snd) ∧
        ∀ i ∈ t'.hostnameHistory.ids,
          t'.hostnameHistory.row i = absorbed t.hostnameHistory (allPairs t.clients) i := by
  obtain ⟨ip, hip, hipRows⟩ := hs.ipHistory.commit ht.ipHistory
  obtain ⟨hostname, hhostname, hhostnameRows⟩ := hs.hostnameHistory.commit ht.hostnameHistory
  refine ⟨⟨s.clients.delete s.removed, ip, hostname, s.observations, s.events, s.traffic,
    s.leases⟩, ?_, rfl, hipRows, hhostnameRows⟩
  rw [MergeSession.commit, hip, hhostname]
  rfl

/-- The links of an identity do not contradict each other. -/
def IsMergeable (t : ClientTables) (key : String × String) : Prop :=
  ∀ c, isCandidate t key c = true → ∀ c', isCandidate t key c' = true →
    ∀ link ∈ (t.clients.row c).linkedIpRecordId, ∀ link' ∈ (t.clients.row c').linkedIpRecordId,
      link = link'

theorem isUnambiguousLink_iff :
    isUnambiguousLink t.clients (candidatesOf t.clients key) = true ↔ IsMergeable t key := by
  rw [isUnambiguousLink, decide_eq_true_eq, ← card_toFinset, Finset.card_le_one]
  simp only [mem_toFinset, mem_filterMap, mem_candidatesOf]
  constructor
  · intro h c hc c' hc' link hlink link' hlink'
    exact h link ⟨c, hc, hlink⟩ link' ⟨c', hc', hlink'⟩
  · rintro h link ⟨c, hc, hlink⟩ link' ⟨c', hc', hlink'⟩
    exact h c hc c' hc' link hlink link' hlink'

/-- The clients of an identity after the merge. -/
theorem Merged.isCandidate_iff (hs : Merged t (allPairs t.clients) s)
    (hclients : t'.clients = s.clients.delete s.removed) : isCandidate t' key c = true ↔
      isCandidate t key c = true ∧ c ∉ (allPairs t.clients).map Prod.snd := by
  rw [Dns.isCandidate_iff, Dns.isCandidate_iff, hclients, Table.mem_delete, Table.delete_row,
    hs.identity, hs.ids, hs.removed]
  exact and_right_comm

/-- Clients with contradicting links all remain. -/
theorem Merged.isMergeable (hs : Merged t (allPairs t.clients) s)
    (hclients : t'.clients = s.clients.delete s.removed)
    (hunique : ∀ c, isCandidate t' key c = true → c = survivor) : IsMergeable t key := by
  rw [← isUnambiguousLink_iff]
  by_contra hlink
  have hkept : ∀ c, isCandidate t key c = true → c = survivor := by
    intro c hc
    refine hunique c ((hs.isCandidate_iff hclients).2 ⟨hc, fun hmem ↦ ?_⟩)
    obtain ⟨pair, hpair, rfl⟩ := mem_map.1 hmem
    exact hlink (mem_pairsOf.1 ((mem_allPairs_iff (.inr hc)).1 hpair)).1
  refine hlink (isUnambiguousLink_iff.2 fun c hc c' hc' link hcolumn link' hcolumn' ↦ ?_)
  rw [hkept c' hc', ← hkept c hc] at hcolumn'
  exact Option.mem_unique hcolumn hcolumn'

/-- The survivor has the link of its identity. -/
theorem Merged.linkedIpRecordId (hs : Merged t (allPairs t.clients) s)
    (hmembers : ∀ c, c = survivor ∨ (survivor, c) ∈ allPairs t.clients ↔ isCandidate t key c = true)
    {link : ℕ} (hlink : IsColumnOf t key (·.linkedIpRecordId) link) :
    (s.clients.row survivor).linkedIpRecordId = some link := by
  obtain ⟨⟨c, hc, hcolumn⟩, hcolumns⟩ := hlink
  cases hfinal : (s.clients.row survivor).linkedIpRecordId with
  | none =>
    have hnone := hs.linked survivor hfinal c ((hmembers c).2 hc)
    exact absurd (hnone.symm.trans hcolumn) (by simp)
  | some link' =>
    obtain ⟨c', hc', hcolumn'⟩ := hs.link survivor link' hfinal
    rcases hcolumns c' ((hmembers c').1 hc') with hnone | hsome
    · exact absurd (hnone.symm.trans hcolumn') (by simp)
    · exact hcolumn'.symm.trans hsome

/-- The clients of an identity are conserved exactly where their links do not contradict each other
and the survivor has the values and the asset of all. -/
theorem conserves_iff (ht : Stored t) (hsome : ∃ c, isCandidate t key c = true) :
    ∃ t', consolidate t = some t' ∧ ((∃ survivor, Conserves t t' key survivor) ↔ IsMergeable t key ∧
        ∃ survivor ∈ survivorOf t.clients (candidatesOf t.clients key), HasAll t key survivor) := by
  have hs := merged_allPairs ht
  obtain ⟨c, hc⟩ := hsome
  obtain ⟨survivor, hsurv⟩ :=
    exists_survivorOf (ne_nil_of_mem (mem_candidatesOf.2 hc))
  have hcand := mem_candidatesOf.1 (mem_of_survivorOf hsurv)
  obtain ⟨t', ht', hclients, hip, hhostname⟩ := hs.commit ht
  have hasset : (t'.clients.row survivor).hardwareAssetId =
      (t.clients.row survivor).hardwareAssetId := by
    rw [hclients, Table.delete_row, hs.asset]
  refine ⟨t', ht', ?_⟩
  rcases em (IsMergeable t key) with hmergeable | hmergeable
  · have hlink := isUnambiguousLink_iff.2 hmergeable
    have hkept : ∀ c, isCandidate t' key c = true ↔ c = survivor := by
      intro c
      rw [hs.isCandidate_iff hclients]
      constructor
      · rintro ⟨hc, hmem⟩
        exact not_ne_iff.1 fun hne ↦ hmem ((mem_duplicates_iff hlink hsurv hc).2 hne)
      · rintro rfl
        exact ⟨hcand, fun h ↦ (mem_duplicates_iff hlink hsurv hcand).1 h rfl⟩
    have hmembers : ∀ c, c = survivor ∨ (survivor, c) ∈ allPairs t.clients ↔
        isCandidate t key c = true := by
      intro c
      rw [mem_allPairs_survivor hlink hsurv]
      constructor
      · rintro (rfl | ⟨hc, -⟩)
        · exact hcand
        · exact hc
      · exact fun hc ↦ or_iff_not_imp_left.2 fun hne ↦ ⟨hc, hne⟩
    have hiff := conservesHistories_iff ht.ipHistory hs.nodup hlink hsurv hip.1 hip.2
    have hiff' :=
      conservesHistories_iff ht.hostnameHistory hs.nodup hlink hsurv hhostname.1 hhostname.2
    rw [and_iff_right hmergeable]
    constructor
    · rintro ⟨survivor', h⟩
      obtain rfl := (hkept survivor').1 h.remains
      refine ⟨survivor', hsurv, hiff.1 h.ipHistory, hiff'.1 h.hostnameHistory, ?_⟩
      exact fun asset hcolumn ↦ hasset ▸ h.asset asset hcolumn
    · rintro ⟨survivor', hsurv', h⟩
      obtain rfl : survivor = survivor' := Option.some.inj (hsurv.symm.trans hsurv')
      exact ⟨survivor,
        { remains := (hkept survivor).2 rfl
          unique := fun c hc ↦ (hkept c).1 hc
          ipHistory := hiff.2 h.ipHistory
          hostnameHistory := hiff'.2 h.hostnameHistory
          link := fun link hcolumn ↦ by
            rw [hclients, Table.delete_row]
            exact hs.linkedIpRecordId hmembers hcolumn
          asset := fun asset hcolumn ↦ hasset.trans (h.asset asset hcolumn) }⟩
  · refine iff_of_false ?_ fun h ↦ hmergeable h.1
    rintro ⟨survivor', h⟩
    exact hmergeable (hs.isMergeable hclients h.unique)

/-! ### Two clients with one MAC -/

/-- A client that two providers of one logical provider know by its MAC. -/
def sharedClient : DNSRecognisedDevice where
  providerId := 1
  logicalProviderKey := "pihole:primary"
  identityKey := none
  identityType := .mac
  identityValue := "02:00:5e:10:00:01"
  normalisedMac := some "02:00:5e:10:00:01"
  firstSeenAt := 0
  lastSeenAt := 0

/-- The first client had one address, and the second one another. -/
def sharedMac (address : ℕ → String) : ClientTables where
  clients := ⟨[1, 2], fun i ↦ { sharedClient with providerId := i }, HA.nodup_pair⟩
  ipHistory := ⟨[1, 2], fun i ↦ { dnsClientId := i, value := address i, firstSeenAt := 0
                                  lastSeenAt := 0 }, HA.nodup_pair⟩
  hostnameHistory := ⟨[], fun _ ↦ { dnsClientId := 0, value := "", firstSeenAt := 0
                                    lastSeenAt := 0 }, List.nodup_nil⟩
  observations := ⟨[], fun _ ↦ none, List.nodup_nil⟩
  events := ⟨[], fun _ ↦ none, List.nodup_nil⟩
  traffic := ⟨[], fun _ ↦ none, List.nodup_nil⟩
  leases := ⟨[], fun _ ↦ none, List.nodup_nil⟩

/-- The identity of both. -/
def sharedKey : String × String := ("pihole:primary", "02:00:5e:10:00:01")

theorem stored_sharedMac (address : ℕ → String) : Stored (sharedMac address) :=
  ⟨fun _ _ _ _ h _ ↦ h, fun _ h _ _ _ _ ↦ absurd h not_mem_nil⟩

/-- Both clients had the same address. -/
theorem conserves_iff_example :
    ∃ t' ∈ consolidate (sharedMac fun _ ↦ "192.168.1.10"),
      ∃ survivor, Conserves (sharedMac fun _ ↦ "192.168.1.10") t' sharedKey survivor := by
  have hsome : ∃ c, isCandidate (sharedMac fun _ ↦ "192.168.1.10") sharedKey c = true :=
    ⟨1, by decide⟩
  obtain ⟨t', ht', hiff⟩ := conserves_iff (stored_sharedMac fun _ ↦ "192.168.1.10") hsome
  refine ⟨t', ht', hiff.2 ⟨fun c _ c' _ link h ↦ absurd h (by simp [sharedMac, sharedClient]),
    1, by decide, ?_⟩⟩
  exact
    { ipHistory := fun _ _ _ ↦ ⟨1, by decide, rfl, rfl⟩
      hostnameHistory := fun i hi _ ↦ absurd hi not_mem_nil
      asset := fun asset h ↦ by
        obtain ⟨⟨c, -, hcolumn⟩, -⟩ := h
        exact absurd hcolumn (by simp [sharedMac, sharedClient]) }

/-- The address of the second client is lost. -/
def lostAddress : ClientTables :=
  sharedMac fun i ↦ if i = 1 then "192.168.1.10" else "192.168.1.11"

theorem not_conserves : ¬ ∀ t key, Stored t → (∃ c, isCandidate t key c = true) →
    ∃ t' ∈ consolidate t, ∃ survivor, Conserves t t' key survivor := by
  intro h
  obtain ⟨t', ht', survivor, hconserves⟩ :=
    h lostAddress sharedKey (stored_sharedMac _) ⟨1, by decide⟩
  obtain ⟨i, hi, -, hvalue, -⟩ := hconserves.ipHistory.merged "192.168.1.11" (by decide)
  have hall : ∀ t'' ∈ consolidate lostAddress, ∀ i ∈ t''.ipHistory.ids,
      (t''.ipHistory.row i).value ≠ "192.168.1.11" := by decide +kernel
  exact hall t' ht' i hi hvalue

end Kaya.Dns
