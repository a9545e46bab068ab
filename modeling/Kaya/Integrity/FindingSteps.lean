import Kaya.Integrity.RunSteps

/-!
# What one step does to the findings

A detection does not undo what was decided after its run began; otherwise it makes a finding active,
unless the finding is ignored for that evidence. An administrator's action and a page of a run
decide a finding now (`Finding.Evolves`). A batch does to a finding what its own detections do, in
their order (`foldl_persist_row`).

What a run has detected stays so: every later step keeps the finding active, decided since the run
began, or ignored for the evidence that was detected (`Finding.Holds`, `Execution.Sound`).
-/

namespace Kaya.Integrity

open List
open Kaya.HA (DateTime)

/-! ### One finding -/

namespace Finding

variable {finding finding' : Finding} {d : Detection} {run : Option (ℕ × Option DateTime)}
  {now start : DateTime} {status : ActiveStatus} {result : CheckResult}

theorem applyDetection_of_decided (h : (run.bind Prod.snd).any finding.decidedSince = true) :
    finding.applyDetection d run now = (finding, none) := if_pos h

theorem not_decidedSince_of_active (h : finding.status = .active status) :
    finding.decidedSince start = false := by
  simp [decidedSince, h]

theorem applyDetection_of_active (h : finding.status = .active status) :
    (finding.applyDetection d run now).1.status = .active d.initial := by
  have hnot : ¬ (run.bind Prod.snd).any finding.decidedSince = true := by
    simp [Option.any_eq_true, not_decidedSince_of_active h]
  rw [applyDetection, if_neg hnot]
  simp only [h]

theorem applyDetection_of_resolved (h : finding.status = .resolved)
    (hnot : (run.bind Prod.snd).any finding.decidedSince = false) :
    (finding.applyDetection d run now).1.status = .active d.initial := by
  rw [applyDetection, if_neg (Bool.eq_false_iff.1 hnot)]
  simp only [h]

/-- A detection with other evidence than what the finding is ignored for. -/
theorem applyDetection_of_other (now : DateTime) (h : finding.status = .ignored)
    (hnot : (run.bind Prod.snd).any finding.decidedSince = false)
    (hother : finding.ignoredFingerprint ≠ some d.fingerprint) :
    (finding.applyDetection d run now).1.status = .active .needsReview := by
  rw [applyDetection, if_neg (Bool.eq_false_iff.1 hnot)]
  simp only [h, if_pos hother]

/-- A detection with the evidence that the finding is ignored for. -/
theorem applyDetection_of_same (run : Option (ℕ × Option DateTime)) (now : DateTime)
    (h : finding.status = .ignored) (hsame : finding.ignoredFingerprint = some d.fingerprint) :
    (finding.applyDetection d run now).1.status = .ignored ∧
      (finding.applyDetection d run now).1.ignoredFingerprint = finding.ignoredFingerprint ∧
      (finding.applyDetection d run now).1.ignoredAt = finding.ignoredAt := by
  rw [applyDetection]
  split
  · exact ⟨h, rfl, rfl⟩
  · simp only [h, hsame, ne_eq, not_true_eq_false, if_false]
    exact ⟨h, hsame, rfl⟩

theorem resolvedAt_applyDetection_of_ignored (h : finding.status = .ignored) :
    (finding.applyDetection d run now).1.resolvedAt = finding.resolvedAt := by
  rw [applyDetection]
  split
  · rfl
  · simp only [h]
    split
    · rfl
    · rfl

/-- The finding is active. -/
def isActive (finding : Finding) : Prop := ∃ status, finding.status = .active status

/-- What a detection leaves: the finding is active, was decided since, or is ignored for what was
detected. -/
def Holds (finding : Finding) (start : DateTime) (d : Detection) : Prop :=
  finding.isActive ∨ finding.decidedSince start = true ∨
    finding.status = .ignored ∧ finding.ignoredFingerprint = some d.fingerprint

theorem decidedSince_mono {start' : DateTime} (h : finding.decidedSince start = true)
    (hle : start' ≤ start) : finding.decidedSince start' = true := by
  simp only [decidedSince] at h ⊢
  split at h
  · obtain ⟨t, ht, hstart⟩ := (Option.any_eq_true _ _).1 h
    exact (Option.any_eq_true _ _).2 ⟨t, ht, decide_eq_true (hle.trans (of_decide_eq_true hstart))⟩
  · obtain ⟨t, ht, hstart⟩ := (Option.any_eq_true _ _).1 h
    exact (Option.any_eq_true _ _).2 ⟨t, ht, decide_eq_true (hle.trans (of_decide_eq_true hstart))⟩
  · exact absurd h (by simp)

/-- What a change does to a finding: it touches neither the status nor a decision, or the finding
becomes active, or it is decided now. -/
inductive Evolves (now : DateTime) (finding finding' : Finding) : Prop
  | same (key : finding'.key = finding.key) (status : finding'.status = finding.status)
      (resolvedAt : finding'.resolvedAt = finding.resolvedAt)
      (ignoredAt : finding'.ignoredAt = finding.ignoredAt)
      (ignoredFingerprint : finding'.ignoredFingerprint = finding.ignoredFingerprint)
  | active (key : finding'.key = finding.key) (h : finding'.isActive)
  | decided (key : finding'.key = finding.key) (h : finding'.decidedSince now = true)

theorem Evolves.refl (finding : Finding) : Evolves now finding finding := .same rfl rfl rfl rfl rfl

theorem Evolves.key {finding' : Finding} (h : Evolves now finding finding') :
    finding'.key = finding.key := by
  cases h with
  | same key => exact key
  | active key => exact key
  | decided key => exact key

theorem Evolves.trans {finding'' : Finding} (h : Evolves now finding finding')
    (h' : Evolves now finding' finding'') : Evolves now finding finding'' := by
  have hkey := h'.key.trans h.key
  cases h' with
  | active _ hlive => exact .active hkey hlive
  | decided _ hdec => exact .decided hkey hdec
  | same _ hstat hres hignored hprint =>
    cases h with
    | same _ hstat' hres' hignored' hprint' =>
      exact .same hkey (hstat.trans hstat') (hres.trans hres')
        (hignored.trans hignored') (hprint.trans hprint')
    | active _ hlive => exact .active hkey (hlive.imp fun _ h ↦ hstat.trans h)
    | decided _ hdec =>
      refine .decided hkey ?_
      simpa only [decidedSince, hstat, hres, hignored] using hdec

theorem Evolves.holds (h : Evolves now finding finding')
    (hle : start ≤ now) (hd : finding.Holds start d) : finding'.Holds start d := by
  cases h with
  | same _ hstat hres hignored hprint =>
    simpa only [Holds, isActive, decidedSince, hstat, hres, hignored, hprint] using hd
  | active _ hlive => exact .inl hlive
  | decided _ hdec => exact .inr (.inl (decidedSince_mono hdec hle))

/-- What is newly resolved or ignored is decided now. -/
theorem Evolves.decides (h : Evolves now finding finding')
    (hne : finding'.status ≠ finding.status ∨
      finding'.ignoredFingerprint ≠ finding.ignoredFingerprint)
    (hnot : ¬ finding'.isActive) : finding'.decidedSince now = true := by
  cases h with
  | same _ hstat _ _ hprint => exact absurd hne (by simp [hstat, hprint])
  | active _ hlive => exact absurd hlive hnot
  | decided _ hdec => exact hdec

theorem evolves_applyDetection (d : Detection) (run : Option (ℕ × Option DateTime))
    (detected : DateTime) : Evolves now finding (finding.applyDetection d run detected).1 := by
  have hkey := finding.applyDetection_key d run detected
  cases hdec : (run.bind Prod.snd).any finding.decidedSince with
  | true =>
    rw [applyDetection_of_decided hdec]
    exact .refl finding
  | false =>
    cases hstat : finding.status with
    | active status => exact .active hkey ⟨_, applyDetection_of_active hstat⟩
    | resolved => exact .active hkey ⟨_, applyDetection_of_resolved hstat hdec⟩
    | ignored =>
      by_cases hsame : finding.ignoredFingerprint = some d.fingerprint
      · obtain ⟨hignored, hprint, hat⟩ := applyDetection_of_same _ _ hstat hsame
        exact .same hkey (hignored.trans hstat.symm)
          (resolvedAt_applyDetection_of_ignored hstat) hat hprint
      · exact .active hkey ⟨_, applyDetection_of_other _ hstat hdec hsame⟩

/-- What a detection in a run leaves. -/
theorem holds_applyDetection (id : ℕ) :
    (finding.applyDetection d (some (id, some start)) now).1.Holds start d := by
  cases hdec : ((some (id, some start)).bind Prod.snd).any finding.decidedSince with
  | true =>
    rw [applyDetection_of_decided hdec]
    exact .inr (.inl hdec)
  | false =>
    cases hstat : finding.status with
    | active status => exact .inl ⟨_, applyDetection_of_active hstat⟩
    | resolved => exact .inl ⟨_, applyDetection_of_resolved hstat hdec⟩
    | ignored =>
      by_cases hsame : finding.ignoredFingerprint = some d.fingerprint
      · obtain ⟨hignored, hprint, -⟩ := applyDetection_of_same _ _ hstat hsame
        exact .inr (.inr ⟨hignored, hprint.trans hsame⟩)
      · exact .inl ⟨_, applyDetection_of_other _ hstat hdec hsame⟩

theorem evolves_resolve (resolution : String) (runId : Option ℕ) :
    Evolves now finding (finding.resolve now resolution runId) := by
  rw [resolve]
  split
  · exact .refl finding
  · exact .decided rfl (by simp [decidedSince])

theorem evolves_revalidate (result : CheckResult) :
    Evolves now finding (finding.revalidate result now).1 := by
  rw [revalidate]
  split
  · exact evolves_resolve ..
  · exact evolves_applyDetection ..

theorem evolves_ignore {reason : String}
    (h : finding.ignore reason result now = .ok finding') : Evolves now finding finding' := by
  obtain ⟨text, -, h⟩ := bind_eq_ok.1 h
  have hcur : Evolves now finding (finding.revalidate result now).1 := evolves_revalidate result
  revert h hcur
  generalize finding.revalidate result now = revalidated
  obtain ⟨current, detected⟩ := revalidated
  intro h hcur
  obtain rfl := Except.ok.inj h
  split
  · exact hcur
  · split
    · exact .refl finding
    · exact .decided hcur.key (by simp [decidedSince])

theorem evolves_reopen (h : finding.reopen result now = .ok finding') :
    Evolves now finding finding' := by
  rw [reopen, require_bind_eq_ok] at h
  obtain ⟨-, h⟩ := h
  obtain rfl := Except.ok.inj h
  rw [revalidate]
  split
  · exact .decided (resolve_key ..) (by simp [resolve, decidedSince])
  · exact .active (applyDetection_key ..) ⟨_, applyDetection_of_active rfl⟩

end Finding

/-! ### The findings -/

variable {s : Audits} {t t' t'' : Table Finding} {now : DateTime} {i p q : ℕ} {x : Execution}
  {d : Detection}

/-- There is one finding for a key. -/
def UniqueKeys (t : Table Finding) : Prop :=
  ∀ i ∈ t.ids, ∀ j ∈ t.ids, (t.row i).key = (t.row j).key → i = j

/-- What a step does to the findings. -/
structure EvolvesAll (now : DateTime) (t t' : Table Finding) : Prop where
  ids : ∀ i ∈ t.ids, i ∈ t'.ids
  rows : ∀ i ∈ t.ids, (t.row i).Evolves now (t'.row i)
  unique : UniqueKeys t → UniqueKeys t'

theorem EvolvesAll.refl (t : Table Finding) : EvolvesAll now t t :=
  ⟨fun _ h ↦ h, fun _ _ ↦ .refl _, id⟩

theorem EvolvesAll.trans (h : EvolvesAll now t t') (h' : EvolvesAll now t' t'') :
    EvolvesAll now t t'' :=
  ⟨fun i hi ↦ h'.ids i (h.ids i hi), fun i hi ↦ (h.rows i hi).trans (h'.rows i (h.ids i hi)),
    fun hunique ↦ h'.unique (h.unique hunique)⟩

/-- A step that changes rows in place. -/
theorem EvolvesAll.of_rows (hids : t'.ids = t.ids)
    (hrows : ∀ i ∈ t.ids, (t.row i).Evolves now (t'.row i)) : EvolvesAll now t t' := by
  refine ⟨fun i hi ↦ hids ▸ hi, hrows, fun hunique i hi j hj hkey ↦ ?_⟩
  rw [hids] at hi hj
  rw [(hrows i hi).key, (hrows j hj).key] at hkey
  exact hunique i hi j hj hkey

theorem EvolvesAll.modify {f : Finding → Finding} (hf : (t.row i).Evolves now (f (t.row i))) :
    EvolvesAll now t (t.modify i f) := by
  refine .of_rows rfl fun j _ ↦ ?_
  rw [Table.modify_row]
  split
  next h => exact h ▸ hf
  · exact .refl _

theorem EvolvesAll.mapRows {f : ℕ → Finding → Finding}
    (hf : ∀ i ∈ t.ids, (t.row i).Evolves now (f i (t.row i))) : EvolvesAll now t (t.mapRows f) := by
  refine .of_rows rfl fun j hj ↦ ?_
  rw [Table.mapRows_row, if_pos hj]
  exact hf j hj

/-! ### A batch -/

/-- The finding that the lookup of a batch comes to. -/
theorem find?_key_eq_some {id : ℕ} (h : (t.ids.find? fun id ↦ (t.row id).key = d.key) = some id) :
    id ∈ t.ids ∧ (t.row id).key = d.key :=
  ⟨mem_of_find?_eq_some h,
    of_decide_eq_true (find?_some (p := fun id ↦ decide ((t.row id).key = d.key)) h)⟩

theorem key_ne_of_find?
    (h : (t.ids.find? fun id ↦ (t.row id).key = d.key) = none) (hi : i ∈ t.ids) :
    (t.row i).key ≠ d.key := by
  simpa using find?_eq_none.1 h i hi

theorem evolvesAll_persist (d : Detection) : EvolvesAll now t (s.persist x t d) := by
  rw [Audits.persist]
  split
  next h =>
    have hrow := fun i (hi : i ∈ t.ids) ↦
      t.insert_row_of_mem (d.finding (some x.runId) x.now) hi
    refine ⟨fun i hi ↦ mem_append_left _ hi, fun i hi ↦ ?_, fun hunique i hi j hj hkey ↦ ?_⟩
    · rw [hrow i hi]
      exact .refl _
    · rw [Table.insert_ids, mem_append, mem_singleton] at hi hj
      obtain hi | rfl := hi
      · obtain hj | rfl := hj
        · rw [hrow i hi, hrow j hj] at hkey
          exact hunique i hi j hj hkey
        · rw [hrow i hi, Table.insert_row_fresh] at hkey
          exact absurd hkey (key_ne_of_find? h hi)
      · obtain hj | rfl := hj
        · rw [hrow j hj, Table.insert_row_fresh] at hkey
          exact absurd hkey.symm (key_ne_of_find? h hj)
        · rfl
  next id h => exact .modify (Finding.evolves_applyDetection ..)

/-- One detection of a batch, as one finding sees it. -/
theorem persist_row (hunique : UniqueKeys t) (hi : i ∈ t.ids) (d : Detection) :
    (s.persist x t d).row i =
      if d.key = (t.row i).key then
        ((t.row i).applyDetection d (some (x.runId, (s.runs.row x.runId).startedAt)) x.now).1
      else t.row i := by
  rw [Audits.persist]
  split
  next h => rw [if_neg (key_ne_of_find? h hi).symm, Table.insert_row_of_mem _ _ hi]
  next id h =>
    obtain ⟨hid, hkey⟩ := find?_key_eq_some h
    rw [Table.modify_row]
    by_cases hsame : i = id
    · rw [if_pos hsame, if_pos (hsame ▸ hkey.symm)]
    · rw [if_neg hsame, if_neg fun hd ↦ hsame (hunique i hi id hid (hd.symm.trans hkey.symm))]

/-- What the detections of a batch do to one finding. -/
def applyAll (run : ℕ × Option DateTime) (now : DateTime) (finding : Finding)
    (ds : List Detection) : Finding :=
  ds.foldl (fun finding d ↦ (finding.applyDetection d (some run) now).1) finding

theorem evolvesAll_foldl_persist (ds : List Detection) :
    EvolvesAll now t (ds.foldl (s.persist x) t) := by
  induction ds generalizing t with
  | nil => exact .refl t
  | cons d ds ih => exact (evolvesAll_persist d).trans ih

/-- **A batch**, as one finding sees it: its own detections, in their order. -/
theorem foldl_persist_row (hunique : UniqueKeys t) (hi : i ∈ t.ids) (ds : List Detection) :
    (ds.foldl (s.persist x) t).row i =
      applyAll (x.runId, (s.runs.row x.runId).startedAt) x.now (t.row i)
        (ds.filter (·.key = (t.row i).key)) := by
  induction ds generalizing t with
  | nil => rfl
  | cons d ds ih =>
    have hd : EvolvesAll x.now t (s.persist x t d) := evolvesAll_persist d
    have hkey : ((s.persist x t d).row i).key = (t.row i).key := (hd.rows i hi).key
    rw [foldl_cons, ih (hd.unique hunique) (hd.ids i hi), hkey, persist_row hunique hi]
    rw [filter_cons]
    split
    next hsame => simp only [hsame, decide_true, if_true, applyAll, foldl_cons]
    next hsame => simp only [hsame, decide_false, Bool.false_eq_true, if_false]

/-! ### What a run has detected -/

/-- A detection has its finding. -/
def Detected (t : Table Finding) (start : DateTime) (d : Detection) : Prop :=
  ∃ i ∈ t.ids, (t.row i).key = d.key ∧ (t.row i).Holds start d

theorem Detected.evolves {start : DateTime} (hd : Detected t start d)
    (h : EvolvesAll now t t') (hle : start ≤ now) : Detected t' start d := by
  obtain ⟨i, hi, hkey, hholds⟩ := hd
  exact ⟨i, h.ids i hi, (h.rows i hi).key.trans hkey, (h.rows i hi).holds hle hholds⟩

theorem detected_persist (hnow : (s.runs.row x.runId).startedAt = some x.now) (d : Detection) :
    Detected (s.persist x t d) x.now d := by
  rw [Audits.persist]
  split
  · refine ⟨t.freshKey, by simp, ?_, ?_⟩
    · rw [Table.insert_row_fresh, Detection.finding]
    · rw [Table.insert_row_fresh]
      exact .inl ⟨d.initial, rfl⟩
  next id h =>
    obtain ⟨hid, hkey⟩ := find?_key_eq_some h
    refine ⟨id, hid, ?_, ?_⟩
    · rw [Table.modify_row_self, Finding.applyDetection_key, hkey]
    · rw [Table.modify_row_self, hnow]
      exact Finding.holds_applyDetection x.runId

theorem detected_foldl_persist (hnow : (s.runs.row x.runId).startedAt = some x.now)
    (ds : List Detection) : ∀ d ∈ ds, Detected (ds.foldl (s.persist x) t) x.now d := by
  induction ds generalizing t with
  | nil => exact fun d hd ↦ absurd hd not_mem_nil
  | cons d ds ih =>
    intro d' hd'
    rcases mem_cons.1 hd' with rfl | hd'
    · exact (detected_persist hnow d').evolves (evolvesAll_foldl_persist ds) le_rfl
    · exact ih d' hd'

/-- What `execute_run` has done when it is in a phase. -/
def Execution.Sound (t : Table Finding) (x : Execution) : Prop :=
  match x.phase with
  | .checking _ | .beating _ => True
  | .persisting rest => ∃ done, x.detections = done ++ rest ∧ ∀ d ∈ done, Detected t x.now d
  | .resolving rest _ =>
    (∀ findingType ∈ rest, findingType ∈ x.completeTypes) ∧ ∀ d ∈ x.detections, Detected t x.now d

theorem Execution.Sound.evolves (hx : x.Sound t) (h : EvolvesAll now t t') (hle : x.now ≤ now) :
    x.Sound t' := by
  simp only [Execution.Sound] at hx ⊢
  split
  · trivial
  · trivial
  next hph =>
    simp only [hph] at hx
    obtain ⟨done, hdone, hdetected⟩ := hx
    exact ⟨done, hdone, fun d hd ↦ (hdetected d hd).evolves h hle⟩
  next hph =>
    simp only [hph] at hx
    exact ⟨hx.1, fun d hd ↦ (hx.2 d hd).evolves h hle⟩

/-! ### Every event -/

theorem evolvesAll_resolvePage (findingType : FindingType) (rest : List FindingType) (lastId : ℕ) :
    EvolvesAll s.clock s.findings (s.resolvePage p x findingType rest lastId).findings := by
  simp only [Audits.resolvePage]
  split
  · exact .refl _
  · refine .mapRows fun i _ ↦ ?_
    split
    · rw [Audits.resolveStale]
      split
      · exact .refl _
      · exact Finding.evolves_resolve ..
    · exact .refl _

theorem evolvesAll_finish (notify : Bool) :
    EvolvesAll now s.findings (s.finish p x notify).findings := by
  refine .mapRows fun i _ ↦ ?_
  split
  · exact .same rfl rfl rfl rfl rfl
  · exact .refl _

theorem evolvesAll_advance (notify : Bool) (x : Process) :
    EvolvesAll s.clock s.findings (s.advance p notify x).findings := by
  cases x with
  | idle => exact .refl _
  | claimed id =>
    simp only [Audits.advance, Audits.begin]
    split
    · exact .refl _
    · exact .refl _
  | executing x =>
    simp only [Audits.advance]
    split
    · simp only [Audits.begins]
      split
      · exact .refl _
      · exact .refl _
    · exact .refl _
    · simp only [Audits.heartbeat]
      split
      · exact .refl _
      · exact .refl _
    · exact .refl _
    · exact evolvesAll_foldl_persist _
    · exact evolvesAll_resolvePage ..
    · exact evolvesAll_finish notify

theorem evolvesAll_act {action : Finding → Except String Finding}
    (h : ∀ finding finding', action finding = .ok finding' → finding.Evolves now finding') (i : ℕ) :
    EvolvesAll now s.findings (s.act i action).findings := by
  rw [Audits.act]
  split
  · split
    next finding' h' => exact .modify (f := fun _ ↦ finding') (h _ _ h')
    · exact .refl _
  · exact .refl _

/-- Every event, as the findings see it. -/
theorem evolvesAll_step (s : Audits) (e : AuditEvent) :
    EvolvesAll s.clock s.findings (auditStep s e).findings := by
  cases e with
  | queue audited =>
    simp only [auditStep, Audits.queueAudit]
    split
    · exact .refl _
    · exact .refl _
  | claim p =>
    simp only [auditStep]
    split
    · simp only [Audits.claimQueuedRun]
      split
      · exact .refl _
      · exact .refl _
    · exact .refl _
  | check p result =>
    simp only [auditStep]
    split
    · split
      · cases result with
        | some result => exact .refl _
        | none => exact .refl _
      · exact .refl _
    · exact .refl _
  | next p notify =>
    simp only [auditStep]
    cases s.processes[p]? with
    | none => exact .refl _
    | some x => exact evolvesAll_advance notify x
  | fail p =>
    simp only [auditStep]
    split
    · exact .refl _
    · exact .refl _
  | ignore i reason result =>
    simp only [auditStep]
    exact evolvesAll_act (fun _ _ h ↦ Finding.evolves_ignore h) i
  | reopen i result =>
    simp only [auditStep]
    exact evolvesAll_act (fun _ _ h ↦ Finding.evolves_reopen h) i
  | revalidate i result =>
    simp only [auditStep]
    exact evolvesAll_act (fun _ _ h ↦ Except.ok.inj h ▸ Finding.evolves_revalidate result) i
  | _ => exact .refl _

/-! ### Invariants -/

/-- What holds in every reachable state. -/
structure FindingInvariant (s : Audits) : Prop extends RunInvariant s where
  keys : UniqueKeys s.findings
  sound : ∀ (p : ℕ) (x : Execution), s.processes[p]? = some (.executing x) → x.Sound s.findings

theorem of_getElem?_set {l : List Process} {a b : Process} (h : (l.set p a)[q]? = some b) :
    b = a ∨ l[q]? = some b := by
  rw [getElem?_set] at h
  split at h
  · split at h
    · exact .inl (Option.some.inj h).symm
    · exact absurd h (by simp)
  · exact .inr h

/-- The step of `execute_run`. -/
theorem FindingInvariant.sound_advance (hs : FindingInvariant s) {y : Process}
    (hy : s.processes[p]? = some y) {notify : Bool} {x : Execution}
    (hx : (s.advance p notify y).processes[q]? = some (.executing x)) :
    x.Sound (s.advance p notify y).findings ∨ s.processes[q]? = some (.executing x) := by
  cases y with
  | idle => exact .inr hx
  | claimed id =>
    simp only [Audits.advance, Audits.begin] at hx ⊢
    split at hx
    next hrun =>
      refine (of_getElem?_set hx).imp_left fun h ↦ ?_
      rw [if_pos hrun, Process.executing.inj h]
      trivial
    · exact (of_getElem?_set hx).imp_left fun h ↦ absurd h (by simp)
  | executing y =>
    have hsound := hs.sound p y hy
    have hnow := hs.now p y hy
    simp only [Audits.advance] at hx ⊢
    split at hx
    · simp only [Audits.begins] at hx ⊢
      split at hx
      next hrun =>
        refine (of_getElem?_set hx).imp_left fun h ↦ ?_
        rw [if_pos hrun, Process.executing.inj h]
        exact ⟨[], rfl, fun d hd ↦ absurd hd not_mem_nil⟩
      · exact (of_getElem?_set hx).imp_left fun h ↦ absurd h (by simp)
    · exact .inr hx
    · simp only [Audits.heartbeat] at hx ⊢
      split at hx
      next hrun =>
        refine (of_getElem?_set hx).imp_left fun h ↦ ?_
        rw [if_pos hrun, Process.executing.inj h]
        trivial
      · exact (of_getElem?_set hx).imp_left fun h ↦ absurd h (by simp)
    next hph =>
      refine (of_getElem?_set hx).imp_left fun h ↦ ?_
      rw [Process.executing.inj h]
      simp only [Execution.Sound, hph] at hsound ⊢
      obtain ⟨done, hdone, hdetected⟩ := hsound
      refine ⟨fun _ h ↦ h, fun d hd ↦ hdetected d ?_⟩
      exact append_nil done ▸ hdone ▸ hd
    next d rest hph =>
      refine (of_getElem?_set hx).imp_left fun h ↦ ?_
      rw [Process.executing.inj h]
      simp only [Execution.Sound, hph] at hsound ⊢
      obtain ⟨done, hdone, hdetected⟩ := hsound
      refine ⟨done ++ (d :: rest).take Audits.persistBatch, ?_, fun d' hd' ↦ ?_⟩
      · rw [append_assoc, take_append_drop]
        exact hdone
      · rcases mem_append.1 hd' with hd' | hd'
        · exact (hdetected d' hd').evolves (evolvesAll_foldl_persist _) le_rfl
        · exact detected_foldl_persist hnow _ d' hd'
    next findingType rest lastId hph =>
      have hpage : EvolvesAll s.clock s.findings
          (s.resolvePage p y findingType rest lastId).findings := evolvesAll_resolvePage ..
      have hle := hs.toRunInvariant.now_le hy
      simp only [Execution.Sound, hph] at hsound
      obtain ⟨htypes, hdetected⟩ := hsound
      simp only [Audits.resolvePage] at hx hpage ⊢
      split at hx
      · refine (of_getElem?_set hx).imp_left fun h ↦ ?_
        rw [Process.executing.inj h]
        exact ⟨fun _ h ↦ htypes _ (mem_cons_of_mem _ h), hdetected⟩
      next hlast =>
        refine (of_getElem?_set hx).imp_left fun h ↦ ?_
        simp only [hlast] at hpage
        rw [Process.executing.inj h]
        exact ⟨htypes, fun d hd ↦ (hdetected d hd).evolves hpage hle⟩
    · exact (of_getElem?_set hx).imp_left fun h ↦ absurd h (by simp)

/-- Every step of an audit or of an operator keeps it. -/
theorem FindingInvariant.step (hs : FindingInvariant s) (e : AuditEvent) :
    FindingInvariant (auditStep s e) := by
  have hevolves := evolvesAll_step s e
  refine ⟨hs.toRunInvariant.step e, hevolves.unique hs.keys, fun q x hx ↦ ?_⟩
  have hkept : s.processes[q]? = some (.executing x) → x.Sound (auditStep s e).findings :=
    fun hold ↦ (hs.sound q x hold).evolves hevolves (hs.toRunInvariant.now_le hold)
  cases e with
  | tick microseconds => exact hkept hx
  | queue audited =>
    refine hkept ?_
    simp only [auditStep, Audits.queueAudit] at hx
    split at hx
    · exact hx
    · exact hx
  | recover => exact hkept hx
  | claim p =>
    refine hkept ?_
    simp only [auditStep] at hx
    split at hx
    · simp only [Audits.claimQueuedRun] at hx
      split at hx
      · exact hx
      · exact (of_getElem?_set hx).resolve_left (by simp)
    · exact hx
  | check p result =>
    simp only [auditStep] at hx ⊢
    split at hx
    next y hy =>
      split at hx
      next hph =>
        cases result with
        | some result =>
          obtain h | h := of_getElem?_set hx
          · rw [Process.executing.inj h]
            trivial
          · exact hs.sound q x h
        | none =>
          obtain h | h := of_getElem?_set hx
          · rw [Process.executing.inj h]
            trivial
          · exact hs.sound q x h
      · exact hs.sound q x hx
    · exact hs.sound q x hx
  | next p notify =>
    simp only [auditStep] at hx hkept ⊢
    cases hy : s.processes[p]? with
    | none =>
      rw [hy] at hx
      exact hs.sound q x hx
    | some y =>
      rw [hy] at hx hkept
      exact (hs.sound_advance hy hx).elim id hkept
  | fail p =>
    refine hkept ?_
    simp only [auditStep] at hx
    split at hx
    · exact (of_getElem?_set hx).resolve_left (by simp)
    · exact hx
  | crash p => exact hkept ((of_getElem?_set hx).resolve_left (by simp))
  | _ =>
    simp only [auditStep, processes_act] at hx
    exact hkept hx

theorem findingInvariant (hs : auditMachine.Reachable s) : FindingInvariant s :=
  Machine.Reachable.invariant
    (fun _ hinit ↦ ⟨runInvariant (.start hinit), hinit.2.2, fun _ _ hx ↦
      absurd (hinit.2.1 _ (mem_of_getElem? hx)) (by simp)⟩)
    (fun _ e hs ↦ hs.step e) hs

end Kaya.Integrity
