import Kaya.Assets.Evidence

/-!
# A MAC names one asset

Whoever confirms a MAC holds its lock from before the check until the commit. So what the check saw
still holds at the commit: no other asset holds the MAC (`Mine`), since those who could have changed
that hold the lock themselves, and a revocation only takes evidence away. `Grows` is what a commit
does to the evidence; `mac_names_one_asset` is the law.
-/

namespace Kaya.Assets

open Function Option List
open Kaya.HA (DateTime)

variable {s t : EvidenceState} {p q assetId owner id : ℕ} {mac : String} {c c' : Confirmation}
  {evidence evidence' evidence'' : Evidence} {mine : String → Prop} {value : EvidenceValue}
  {user : User} {change : Change} {assets : ℕ → Bool} {now : DateTime}

/-! ### What a commit does to the evidence -/

/-- Rows stay what they are about, and a MAC gets no holder but one asset, where that is allowed. -/
structure Grows (mine : String → Prop) (owner : ℕ) (evidence evidence' : Evidence) : Prop where
  ids : ∀ id ∈ evidence.ids, id ∈ evidence'.ids
  kept : ∀ id ∈ evidence.ids, (evidence'.row id).assetId = (evidence.row id).assetId ∧
    (evidence'.row id).evidenceType = (evidence.row id).evidenceType ∧
    (evidence'.row id).normalisedValue = (evidence.row id).normalisedValue
  holds : ∀ mac assetId, Holds evidence' mac assetId →
    Holds evidence mac assetId ∨ assetId = owner ∧ mine mac

theorem Grows.refl (evidence : Evidence) : Grows mine owner evidence evidence :=
  ⟨fun _ h ↦ h, fun _ _ ↦ ⟨rfl, rfl, rfl⟩, fun _ _ h ↦ .inl h⟩

theorem Grows.trans (h : Grows mine owner evidence evidence')
    (h' : Grows mine owner evidence' evidence'') : Grows mine owner evidence evidence'' where
  ids id hid := h'.ids id (h.ids id hid)
  kept id hid := by
    obtain ⟨hasset, htype, hvalue⟩ := h'.kept id (h.ids id hid)
    obtain ⟨hasset', htype', hvalue'⟩ := h.kept id hid
    exact ⟨hasset.trans hasset', htype.trans htype', hvalue.trans hvalue'⟩
  holds mac assetId hholds := by
    rcases h'.holds mac assetId hholds with hold | hnew
    · exact h.holds mac assetId hold
    · exact .inr hnew

/-- Where the new holders are the only ones, each MAC still names one asset. -/
theorem MacUnique.grows (hunique : MacUnique evidence) (h : Grows mine owner evidence evidence')
    (hmine : ∀ mac, mine mac → ∀ assetId, Holds evidence mac assetId → assetId = owner) :
    MacUnique evidence' := by
  intro mac assetId assetId' hholds hholds'
  rcases h.holds mac assetId hholds with hold | ⟨rfl, hnew⟩
  · rcases h.holds mac assetId' hholds' with hold' | ⟨rfl, hnew'⟩
    · exact hunique mac assetId assetId' hold hold'
    · exact hmine mac hnew' assetId hold
  · rcases h.holds mac assetId' hholds' with hold' | ⟨rfl, -⟩
    · exact (hmine mac hnew assetId' hold').symm
    · rfl

/-- A write to the evidence of an asset, which may hold the MACs in question. -/
def Change.Allowed (mine : String → Prop) (owner : ℕ) (evidence : Evidence) : Change → Prop
  | .insert row => row.assetId = some owner ∧ (row.evidenceType = .mac → mine row.normalisedValue)
  | .update id _ _ => id ∈ evidence.ids ∧ (evidence.row id).assetId = some owner ∧
    ((evidence.row id).evidenceType = .mac → mine (evidence.row id).normalisedValue)

theorem Change.Allowed.grows (h : change.Allowed mine owner evidence)
    (hgrows : Grows mine owner evidence evidence') : change.Allowed mine owner evidence' := by
  cases change with
  | insert row => exact h
  | update id loaded current =>
    obtain ⟨hid, hasset, hmac⟩ := h
    obtain ⟨hasset', htype, hvalue⟩ := hgrows.kept id hid
    refine ⟨hgrows.ids id hid, hasset'.trans hasset, ?_⟩
    rw [htype, hvalue]
    exact hmac

theorem holdsMac_iff {row : AssetIdentityEvidence} : row.holdsMac mac = true ↔
    row.evidenceType = .mac ∧ row.normalisedValue = mac ∧ row.status = .confirmed ∧
      row.revokedAt = none ∧ row.assetId.isSome = true := by
  simp only [AssetIdentityEvidence.holdsMac, AssetIdentityEvidence.holds, decide_eq_true_eq]

/-- The rows but for one keep what they say. -/
theorem grows_modify {f : AssetIdentityEvidence → AssetIdentityEvidence}
    (hasset : ∀ row, (f row).assetId = row.assetId)
    (htype : ∀ row, (f row).evidenceType = row.evidenceType)
    (hvalue : ∀ row, (f row).normalisedValue = row.normalisedValue)
    (hholds : ∀ mac, id ∈ evidence.ids → (f (evidence.row id)).holdsMac mac = true →
      (evidence.row id).holdsMac mac = true ∨ (evidence.row id).assetId = some owner ∧ mine mac) :
    Grows mine owner evidence (evidence.modify id f) where
  ids _ h := h
  kept j _ := by
    rw [Table.modify_row]
    split
    · exact ⟨hasset _, htype _, hvalue _⟩
    · exact ⟨rfl, rfl, rfl⟩
  holds mac assetId := by
    rintro ⟨j, hj, hrow, howner⟩
    rw [Table.modify_row] at hrow howner
    split at hrow
    next hji =>
      subst hji
      rw [if_pos rfl, hasset] at howner
      rcases hholds mac hj hrow with hold | ⟨hmine, hmac⟩
      · exact .inl ⟨j, hj, hold, howner⟩
      · exact .inr ⟨some.inj (howner.symm.trans hmine), hmac⟩
    next hji =>
      rw [if_neg hji] at howner
      exact .inl ⟨j, hj, hrow, howner⟩

theorem Change.Allowed.commit {change : Change} (h : change.Allowed mine owner evidence) :
    Grows mine owner evidence (change.commit evidence) := by
  cases change with
  | insert row =>
    obtain ⟨hasset, hmac⟩ := h
    refine ⟨fun id hid ↦ mem_append_left _ hid, fun id hid ↦ ?_, ?_⟩
    · rw [Change.commit, Table.insert_row_of_mem _ row hid]
      exact ⟨rfl, rfl, rfl⟩
    · rintro mac assetId ⟨id, hid, hholds, howner⟩
      rcases mem_append.1 hid with hmem | hnew
      · rw [Change.commit, Table.insert_row_of_mem _ row hmem] at hholds howner
        exact .inl ⟨id, hmem, hholds, howner⟩
      · obtain rfl := mem_singleton.1 hnew
        rw [Change.commit, Table.insert_row_fresh] at hholds howner
        obtain ⟨htype, hvalue, -⟩ := holdsMac_iff.1 hholds
        exact .inr ⟨some.inj (howner.symm.trans hasset), hvalue ▸ hmac htype⟩
  | update id loaded current =>
    obtain ⟨hid, hasset, hmac⟩ := h
    refine grows_modify (fun _ ↦ rfl) (fun _ ↦ rfl) (fun _ ↦ rfl) fun mac _ hholds ↦ ?_
    obtain ⟨htype, hvalue, -⟩ := holdsMac_iff.1 hholds
    exact .inr ⟨hasset, hvalue ▸ hmac htype⟩

/-- The writes of a commit. -/
theorem grows_changes {changes : List Change}
    (h : ∀ change ∈ changes, change.Allowed mine owner evidence) :
    Grows mine owner evidence (changes.foldl Change.commit evidence) := by
  induction changes generalizing evidence with
  | nil => exact .refl evidence
  | cons change changes ih =>
    have hfirst := (h change mem_cons_self).commit
    refine hfirst.trans (ih fun change' hmem ↦ ?_)
    exact (h change' (mem_cons_of_mem _ hmem)).grows hfirst

/-- A revocation takes evidence away, whatever the row has become since it was loaded. -/
theorem grows_revoke {loaded : AssetIdentityEvidence} {revokedAt : DateTime} :
    Grows mine owner evidence (evidence.modify id (loaded.flush (revokedBy loaded revokedAt))) := by
  refine grows_modify (fun _ ↦ rfl) (fun _ ↦ rfl) (fun _ ↦ rfl) fun mac _ hholds ↦ .inl ?_
  obtain ⟨htype, hvalue, hstat, hrevoked, hasset⟩ := holdsMac_iff.1 hholds
  exact holdsMac_iff.2 ⟨htype, hvalue, stored_of_flushed hstat (by simp [revokedBy]),
    stored_of_flushed hrevoked (by simp [revokedBy]), hasset⟩

/-! ### Locks -/

/-- The transaction has the lock of the MAC, and nobody but its asset holds the MAC. -/
def Mine (s : EvidenceState) (p owner : ℕ) (mac : String) : Prop :=
  s.locks mac = some p ∧ ∀ assetId, Holds s.evidence mac assetId → assetId = owner

/-- What a confirmation has locked, checked and prepared. -/
structure Confirmation.Sound (s : EvidenceState) (p : ℕ) (c : Confirmation) : Prop where
  locked : ∀ mac ∈ macsOf c.values, mac ∈ c.locks ∨ s.locks mac = some p
  checked : c.checked = true → ∀ value ∈ c.values.head?, value.evidenceType = .mac →
    Mine s p c.assetId value.normalisedValue
  changes : ∀ change ∈ c.changes, change.Allowed (Mine s p c.assetId) c.assetId s.evidence

/-- What holds in every state. -/
structure EvidenceInvariant (s : EvidenceState) : Prop where
  unique : MacUnique s.evidence
  sound : ∀ p c, s.processes p = some (.confirming c) → c.Sound s p

/-- What another transaction does leaves the MACs alone that this one has locked. -/
structure Spares (s : EvidenceState) (p : ℕ) (t : EvidenceState) : Prop where
  locks : ∀ mac, s.locks mac = some p → t.locks mac = some p
  grows : ∃ (owner : ℕ) (mine : String → Prop), Grows mine owner s.evidence t.evidence ∧
    ∀ mac, mine mac → s.locks mac ≠ some p

theorem Mine.spares (h : Mine s p owner mac) (hspares : Spares s p t) : Mine t p owner mac := by
  obtain ⟨owner', mine, hgrows, hmine⟩ := hspares.grows
  refine ⟨hspares.locks mac h.1, fun assetId hholds ↦ ?_⟩
  rcases hgrows.holds mac assetId hholds with hold | ⟨-, hnew⟩
  · exact h.2 assetId hold
  · exact absurd h.1 (hmine mac hnew)

theorem Change.Allowed.spares (hspares : Spares s p t)
    (h : change.Allowed (Mine s p owner) owner s.evidence) :
    change.Allowed (Mine t p owner) owner t.evidence := by
  obtain ⟨owner', mine, hgrows, -⟩ := hspares.grows
  cases change with
  | insert row => exact ⟨h.1, fun htype ↦ (h.2 htype).spares hspares⟩
  | update id loaded current =>
    obtain ⟨hid, hasset, hmac⟩ := h
    obtain ⟨hasset', htype, hvalue⟩ := hgrows.kept id hid
    refine ⟨hgrows.ids id hid, hasset'.trans hasset, ?_⟩
    rw [htype, hvalue]
    exact fun hmacType ↦ (hmac hmacType).spares hspares

theorem Confirmation.Sound.spares (h : c.Sound s p) (hspares : Spares s p t) : c.Sound t p where
  locked mac hmac := (h.locked mac hmac).imp_right (hspares.locks mac)
  checked hchecked value hvalue htype := (h.checked hchecked value hvalue htype).spares hspares
  changes change hchange := Change.Allowed.spares hspares (h.changes change hchange)

theorem Spares.of_eq (hlocks : ∀ mac, s.locks mac = some p → t.locks mac = some p)
    (hevidence : t.evidence = s.evidence) : Spares s p t :=
  ⟨hlocks, 0, fun _ ↦ False, hevidence ▸ .refl _, fun _ h ↦ h.elim⟩

/-! ### Steps -/

theorem spares_goes : Spares s q (s.goes p c') :=
  .of_eq (fun _ h ↦ h) rfl

theorem spares_finish (hqp : q ≠ p) (hgrows : Grows (Mine s p owner) owner s.evidence evidence) :
    Spares s q (s.finish p evidence) where
  locks mac hmac := by
    simp only [EvidenceState.finish, hmac, filter_some, ne_eq, hqp, not_false_eq_true,
      decide_true, if_true]
  grows := ⟨owner, Mine s p owner, hgrows, fun mac hmine hmac ↦
    hqp (some.inj (hmac.symm.trans hmine.1))⟩

/-- The other transactions after one has gone on. -/
theorem EvidenceInvariant.of_goes (hs : EvidenceInvariant s)
    (hspares : ∀ q, q ≠ p → Spares s q (t.goes p c')) (ht : t.processes = s.processes)
    (hevidence : t.evidence = s.evidence) (hc' : c'.Sound (t.goes p c') p) :
    EvidenceInvariant (t.goes p c') where
  unique := by
    rw [EvidenceState.goes, hevidence]
    exact hs.unique
  sound q d hd := by
    rcases update_eq_some_iff.1 hd with ⟨rfl, hsome⟩ | ⟨hqp, hold⟩
    · obtain rfl := Process.confirming.inj (some.inj hsome)
      exact hc'
    · exact (hs.sound q d (ht ▸ hold)).spares (hspares q hqp)

/-- A transaction ends. -/
theorem EvidenceInvariant.finish (owner : ℕ) (hs : EvidenceInvariant s)
    (hgrows : Grows (Mine s p owner) owner s.evidence evidence) :
    EvidenceInvariant (s.finish p evidence) where
  unique := hs.unique.grows hgrows fun _ hmine ↦ hmine.2
  sound q d hd := by
    obtain ⟨hqp, hold⟩ := of_update_none hd
    exact (hs.sound q d hold).spares (spares_finish hqp hgrows)

theorem mem_macsOf {values : List EvidenceValue} (hmem : value ∈ values)
    (htype : value.evidenceType = .mac) : value.normalisedValue ∈ macsOf values :=
  mem_map_of_mem (mem_filter.2 ⟨hmem, decide_eq_true htype⟩)

/-- The check of a MAC, under its lock. -/
theorem mine_of_checkValue (hlock : s.locks value.normalisedValue = some p)
    (htype : value.evidenceType = .mac) (hcheck : checkValue s.evidence c value = true) :
    Mine s p c.assetId value.normalisedValue := by
  refine ⟨hlock, fun assetId hholds ↦ ?_⟩
  obtain ⟨id, hid, hmac, hasset⟩ := hholds
  simp only [checkValue, decide_eq_true_eq] at hcheck
  have hfree := hcheck.1.resolve_left fun hne ↦ hne htype
  have hrow := s.evidence.exists?_eq_false.1 hfree id hid
  by_contra hne
  simp [hmac, hasset, hne] at hrow

/-- What a lookup prepares is allowed. -/
theorem change_allowed
    (hmine : value.evidenceType = .mac → Mine s p c.assetId value.normalisedValue) :
    (c.change s.evidence value).Allowed (Mine s p c.assetId) c.assetId s.evidence := by
  simp only [Confirmation.change]
  split
  next id hid =>
    obtain ⟨hmem, habout⟩ := s.evidence.mem_select.1 (mem_of_head? hid)
    simp only [AssetIdentityEvidence.isAbout, decide_eq_true_eq] at habout
    obtain ⟨hasset, htype, hvalue, -⟩ := habout
    exact ⟨hmem, hasset, fun hmac ↦ hvalue ▸ hmine (htype.symm.trans hmac)⟩
  · exact ⟨rfl, hmine⟩

/-- A confirmation takes its next step. -/
theorem advance_invariant (hs : EvidenceInvariant s)
    (hp : s.processes p = some (.confirming c)) : EvidenceInvariant (s.advance p c) := by
  have hc := hs.sound p c hp
  simp only [EvidenceState.advance]
  split
  next mac rest hlocks =>
    split
    next hfree =>
      have hkeeps : ∀ q mac', s.locks mac' = some q →
          update s.locks mac (some p) mac' = some q := by
        intro q mac' hmac'
        by_cases hsame : mac' = mac
        · subst hsame
          rw [hmac', all_some, decide_eq_true_eq] at hfree
          rw [update_self, hfree]
        · rw [update_of_ne hsame, hmac']
      refine hs.of_goes (fun q _ ↦ .of_eq (hkeeps q) rfl) rfl rfl ⟨fun mac' hmac' ↦ ?_, ?_, ?_⟩
      · rcases hc.locked mac' hmac' with hmem | hheld
        · rcases mem_cons.1 (hlocks ▸ hmem) with rfl | hrest
          · exact .inr (update_self ..)
          · exact .inl hrest
        · exact .inr (hkeeps p mac' hheld)
      · exact fun hchecked value hvalue htype ↦ (hc.checked hchecked value hvalue htype).spares
          (.of_eq (hkeeps p) rfl)
      · exact fun change hchange ↦ Change.Allowed.spares (.of_eq (hkeeps p) rfl)
          (hc.changes change hchange)
    · exact hs
  next hlocks =>
    have hlocked : ∀ mac ∈ macsOf c.values, s.locks mac = some p := fun mac hmac ↦
      (hc.locked mac hmac).resolve_left (by simp [hlocks])
    split
    next value rest hvalues =>
      split
      next hchecked =>
        have hmine := hc.checked hchecked value (by simp [hvalues])
        refine hs.of_goes (fun _ _ ↦ spares_goes) rfl rfl
          ⟨fun mac hmac ↦ .inr ?_, fun h ↦ absurd h (by simp), fun change hchange ↦ ?_⟩
        · refine hlocked mac ?_
          obtain ⟨value', hvalue', rfl⟩ := mem_map.1 hmac
          obtain ⟨hmem, htype⟩ := mem_filter.1 hvalue'
          exact mem_macsOf (hvalues ▸ mem_cons_of_mem _ hmem) (of_decide_eq_true htype)
        · rcases mem_append.1 hchange with hold | hnew
          · exact Change.Allowed.spares spares_goes (hc.changes change hold)
          · obtain rfl := mem_singleton.1 hnew
            exact Change.Allowed.spares spares_goes (change_allowed hmine)
      · split
        next hcheck =>
          refine hs.of_goes (fun _ _ ↦ spares_goes) rfl rfl
            ⟨fun mac hmac ↦ .inr (hlocked mac hmac), fun _ value' hvalue' htype ↦ ?_,
              fun change hchange ↦ Change.Allowed.spares spares_goes (hc.changes change hchange)⟩
          obtain rfl : value = value' := by simpa [hvalues] using hvalue'
          have hmac := mem_macsOf (hvalues ▸ mem_cons_self) htype
          exact (mine_of_checkValue (hlocked _ hmac) htype hcheck).spares spares_goes
        · exact hs.finish c.assetId (.refl _)
    next hvalues => exact hs.finish _ (grows_changes hc.changes)

theorem begin_invariant (hs : EvidenceInvariant s) {process : Except String Process}
    (hproc : ∀ c, process = .ok (.confirming c) →
      c.checked = false ∧ c.changes = [] ∧ ∀ mac ∈ macsOf c.values, mac ∈ c.locks) :
    EvidenceInvariant (s.begin p process) := by
  simp only [EvidenceState.begin]
  split
  next process' hnone hok =>
    refine ⟨hs.unique, fun q d hd ↦ ?_⟩
    rcases update_eq_some_iff.1 hd with ⟨rfl, hsome⟩ | ⟨-, hold⟩
    · obtain rfl := some.inj hsome
      obtain ⟨hchecked, hchanges, hlocks⟩ := hproc d rfl
      exact ⟨fun mac hmac ↦ .inl (hlocks mac hmac), fun h ↦ absurd h (by simp [hchecked]),
        fun change hchange ↦ absurd hchange (by simp [hchanges])⟩
    · exact (hs.sound q d hold).spares (.of_eq (fun _ h ↦ h) rfl)
  · exact hs

theorem confirmIdentityEvidence_ok {request : ConfirmRequest}
    {loaded : Option (ℕ × AssetIdentityEvidence)}
    (h : confirmIdentityEvidence assets user request loaded = .ok c) :
    c.checked = false ∧ c.changes = [] ∧ ∀ mac ∈ macsOf c.values, mac ∈ c.locks := by
  simp only [confirmIdentityEvidence, require_bind_eq_ok] at h
  obtain ⟨-, -, -, -, h⟩ := h
  obtain ⟨normalised, -, h⟩ := bind_eq_ok.1 h
  rw [pure_eq_ok] at h
  subst h
  exact ⟨rfl, rfl, fun _ h ↦ h⟩

theorem confirmExistingIdentityEvidence_ok {folded : String} {confirmedAt : Option DateTime}
    (h : confirmExistingIdentityEvidence assets evidence user id folded confirmedAt now = .ok c) :
    c.checked = false ∧ c.changes = [] ∧ ∀ mac ∈ macsOf c.values, mac ∈ c.locks := by
  simp only [confirmExistingIdentityEvidence, require_bind_eq_ok, found_bind_eq_ok] at h
  obtain ⟨-, row, -, assetId, -, h⟩ := h
  exact confirmIdentityEvidence_ok h

theorem adoptDiscoveredDevice_ok {candidate : Candidate}
    (h : adoptDiscoveredDevice user candidate assetId now = .ok c) :
    c.checked = false ∧ c.changes = [] ∧ ∀ mac ∈ macsOf c.values, mac ∈ c.locks := by
  simp only [adoptDiscoveredDevice, require_bind_eq_ok] at h
  obtain ⟨-, -, h⟩ := h
  obtain ⟨values, -, h⟩ := bind_eq_ok.1 h
  rw [pure_eq_ok] at h
  subst h
  refine ⟨rfl, rfl, fun mac hmac ↦ ?_⟩
  dsimp only at hmac ⊢
  split at hmac
  · exact absurd hmac not_mem_nil
  · exact hmac

theorem evidenceStep_invariant (hs : EvidenceInvariant s) (e : EvidenceEvent) :
    EvidenceInvariant (evidenceStep s e) := by
  cases e with
  | confirm p assets user request =>
    refine begin_invariant hs fun c hc ↦ ?_
    obtain ⟨c', hok, hcc⟩ := map_eq_ok.1 hc
    exact Process.confirming.inj hcc ▸ confirmIdentityEvidence_ok hok
  | confirmExisting p assets user evidenceId folded confirmedAt now =>
    refine begin_invariant hs fun c hc ↦ ?_
    obtain ⟨c', hok, hcc⟩ := map_eq_ok.1 hc
    exact Process.confirming.inj hcc ▸ confirmExistingIdentityEvidence_ok hok
  | adopt p user candidate assetId now =>
    refine begin_invariant hs fun c hc ↦ ?_
    obtain ⟨c', hok, hcc⟩ := map_eq_ok.1 hc
    exact Process.confirming.inj hcc ▸ adoptDiscoveredDevice_ok hok
  | revoke p user evidenceId revokedAt =>
    refine begin_invariant hs fun c hc ↦ ?_
    simp only [revokeIdentityEvidence, require_bind_eq_ok, found_bind_eq_ok, pure_eq_ok] at hc
    obtain ⟨-, row, -, hrow⟩ := hc
    exact absurd hrow (by simp)
  | next p =>
    simp only [evidenceStep]
    split
    next c hc => exact advance_invariant hs hc
    · exact hs.finish 0 grows_revoke
    · exact hs
  | abort p => exact hs.finish 0 (.refl _)

/-- **A MAC names one asset**, in every state that concurrent transactions reach. -/
theorem mac_names_one_asset (hs : evidenceMachine.Reachable s) : MacUnique s.evidence := by
  have hinv : EvidenceInvariant s := by
    refine Machine.Reachable.invariant (fun s hinit ↦ ?_) (fun s e hs ↦ ?_) hs
    · exact ⟨hinit.unique, fun p c hc ↦ absurd hc (by simp [hinit.processes p])⟩
    · exact evidenceStep_invariant hs e
  exact hinv.unique

/-- No evidence. -/
def noEvidence : EvidenceState where
  evidence := ⟨[], fun _ ↦
    { assetId := none, evidenceType := .mac, normalisedValue := "", source := "" }, List.nodup_nil⟩
  locks _ := none
  processes _ := none

/-- A confirmation of one MAC for an asset. -/
def confirmMac (p assetId : ℕ) : EvidenceEvent :=
  .confirm p (fun _ ↦ true) ⟨1, true, true⟩
    { assetId, evidenceType := .mac, value := ⟨"02-00-5E-10-00-02", "02-00-5e-10-00-02"⟩
      source := "manual", now := 0 }

/-- Two confirmations of one MAC at the same time: the second one waits, and is refused. -/
def twoConfirmations : List EvidenceEvent :=
  [confirmMac 1 1, confirmMac 2 2, .next 1, .next 2, .next 1, .next 2, .next 1, .next 1, .next 2,
    .next 2, .next 2, .next 2]

theorem mac_names_one_asset_example :
    evidenceMachine.Reachable (evidenceMachine.run noEvidence twoConfirmations) ∧
      (evidenceMachine.run noEvidence twoConfirmations).evidence.ids = [1] ∧
      MacUnique (evidenceMachine.run noEvidence twoConfirmations).evidence := by
  have hinit : EvidenceInitial noEvidence :=
    ⟨fun _ _ _ ⟨_, h, _⟩ ↦ absurd h not_mem_nil, fun _ ↦ rfl, fun _ ↦ rfl⟩
  have hs : evidenceMachine.Reachable (evidenceMachine.run noEvidence twoConfirmations) :=
    .run _ (.start hinit)
  exact ⟨hs, by decide +kernel, mac_names_one_asset hs⟩

end Kaya.Assets
