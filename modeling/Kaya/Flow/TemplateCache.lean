import Kaya.Flow.Datagrams
import Kaya.Library.Machine

/-!
# The template cache

What a call of `decode` leaves in the decoder. A call that returns prunes the cache to its capacity;
one that raises leaves what it had written by then: the sequence bookkeeping, and the templates of
the flowsets before the rejected one.
-/

namespace Kaya.Flow.FlowDecoder

open List

/-! ### What a flowset installs -/

/-- The parsed templates as items of the cache. -/
def templateItems (exporter : String) (sourceId : ℕ) (isOptions : Bool) (now : ℤ)
    (parsed : List (ℕ × List TemplateField)) : List (TemplateKey × FlowTemplate) :=
  parsed.map fun template ↦
    ((exporter, sourceId, template.1), ⟨template.1, template.2, isOptions, now⟩)

/-- The templates of a well-formed template flowset. -/
def flowsetItems (exporter : String) (sourceId : ℕ) (now : ℤ) (isOptions : Bool)
    (body : List UInt8) : List (TemplateKey × FlowTemplate) :=
  match flowsetTemplates isOptions body with
  | .ok parsed => templateItems exporter sourceId isOptions now parsed
  | .error _ => []

/-- The templates a flowset announces. -/
def announced (exporter : String) (sourceId : ℕ) (now : ℤ) (flowset : Flowset) :
    List (TemplateKey × FlowTemplate) :=
  if flowset.1 = 0 then flowsetItems exporter sourceId now false flowset.2
  else if flowset.1 = 1 then flowsetItems exporter sourceId now true flowset.2
  else []

/-- The templates announced before the flowset at which the datagram is rejected, `none` when it is
not rejected. -/
def announcedBeforeRejection (exporter : String) (header : DatagramHeader)
    (framing : Option DecodeCategory) (now : ℤ) :
    List Flowset → FlowDecoder → DecodeResult → Option (List (TemplateKey × FlowTemplate))
  | [], _, _ => framing.map fun _ ↦ []
  | flowset :: flowsets, d, result =>
    match d.decodeFlowset exporter header flowset result now with
    | .error _ => some []
    | .ok (d, result) =>
      (announcedBeforeRejection exporter header framing now flowsets d result).map
        (announced exporter header.sourceId now flowset ++ ·)

section Steps

variable {d d' : FlowDecoder} {exporter : String} {header : DatagramHeader} {flowset : Flowset}
  {result result' : DecodeResult} {now : ℤ} {framing : Option DecodeCategory}
  {flowsets : List Flowset} {failure : DecodeFailure}

theorem install_fst (exporter : String) (sourceId : ℕ) (isOptions : Bool) (now : ℤ)
    (parsed : List (ℕ × List TemplateField)) (templates : Dict TemplateKey FlowTemplate)
    (events : List TemplateEvent) :
    (install exporter sourceId isOptions now parsed (templates, events)).1 =
      templates.setAll (templateItems exporter sourceId isOptions now parsed) := by
  induction parsed generalizing templates events with
  | nil => rfl
  | cons template parsed ih =>
    rw [install, ih]
    rfl

theorem decodeTemplates_eq_ok {isOptions : Bool} {body : List UInt8} {sourceId : ℕ}
    (h : d.decodeTemplates exporter sourceId isOptions body result now = .ok (d', result')) :
    d' = { d with
      templates := d.templates.setAll (flowsetItems exporter sourceId now isOptions body) } := by
  unfold decodeTemplates at h
  split at h
  · cases h
  · rename_i parsed hparsed
    cases h
    rw [flowsetItems, hparsed, install_fst]

/-- **Inversion** of a decoded flowset: it installs the templates it announces. -/
theorem decodeFlowset_eq_ok
    (h : d.decodeFlowset exporter header flowset result now = .ok (d', result')) :
    d' = { d with
      templates := d.templates.setAll (announced exporter header.sourceId now flowset) } := by
  unfold decodeFlowset at h
  rw [announced]
  split at h <;> rename_i htemplates
  · rw [if_pos htemplates]
    exact decodeTemplates_eq_ok h
  rw [if_neg htemplates]
  split at h <;> rename_i hoptions
  · rw [if_pos hoptions]
    exact decodeTemplates_eq_ok h
  rw [if_neg hoptions]
  split at h
  · cases hdata : d.decodeData exporter header flowset.1 flowset.2 result now with
    | error failure =>
      rw [hdata] at h
      cases h
    | ok r =>
      rw [hdata] at h
      cases h
      rfl
  · cases h
    rfl

/-- **The cache after a rejected datagram** holds the templates announced before the rejection. -/
theorem decodeFlowsets_eq_error
    (h : decodeFlowsets exporter header framing now flowsets d result = (d', .error failure)) :
    ∃ items, announcedBeforeRejection exporter header framing now flowsets d result = some items ∧
      d' = { d with templates := d.templates.setAll items } := by
  induction flowsets generalizing d result with
  | nil =>
    unfold decodeFlowsets at h
    split at h
    · cases h
    · cases h
      exact ⟨[], rfl, rfl⟩
  | cons flowset flowsets ih =>
    unfold decodeFlowsets at h
    unfold announcedBeforeRejection
    rcases hflowset : d.decodeFlowset exporter header flowset result now with
      rejection | ⟨d₁, result₁⟩
    · rw [hflowset] at h
      cases h
      exact ⟨[], rfl, rfl⟩
    · rw [hflowset] at h
      obtain ⟨items, hitems, rfl⟩ := ih h
      refine ⟨announced exporter header.sourceId now flowset ++ items, ?_, ?_⟩
      · show (announcedBeforeRejection exporter header framing now flowsets d₁ result₁).map _ = _
        rw [hitems]
        rfl
      · rw [decodeFlowset_eq_ok hflowset, Dict.setAll, Dict.setAll, Dict.setAll, foldl_append]

theorem decodeFlowsets_eq_ok
    (h : decodeFlowsets exporter header framing now flowsets d result = (d', .ok result')) :
    announcedBeforeRejection exporter header framing now flowsets d result = none ∧
      d'.maxTemplates = d.maxTemplates := by
  induction flowsets generalizing d result with
  | nil =>
    unfold decodeFlowsets at h
    split at h
    · cases h
      exact ⟨rfl, rfl⟩
    · cases h
  | cons flowset flowsets ih =>
    unfold decodeFlowsets at h
    unfold announcedBeforeRejection
    rcases hflowset : d.decodeFlowset exporter header flowset result now with
      rejection | ⟨d₁, result₁⟩
    · rw [hflowset] at h
      cases h
    · rw [hflowset] at h
      obtain ⟨hnone, hmax⟩ := ih h
      constructor
      · show (announcedBeforeRejection exporter header framing now flowsets d₁ result₁).map _ = _
        rw [hnone]
        rfl
      · rw [hmax, decodeFlowset_eq_ok hflowset]

end Steps

/-! ### Pruning -/

theorem nodup_victims (d : FlowDecoder) : d.victims.Nodup := by
  have hperm := perm_insertionSort (fun a b : TemplateKey × FlowTemplate ↦
    a.2.refreshedAt ≤ b.2.refreshedAt) d.templates.items
  exact ((hperm.map Prod.fst).nodup_iff.mpr d.templates.nodup).sublist
    ((take_sublist _ _).map Prod.fst)

theorem victims_subset (d : FlowDecoder) : d.victims ⊆ d.templates.keys := by
  intro key hkey
  obtain ⟨item, hitem, rfl⟩ := mem_map.mp hkey
  have hmem := (perm_insertionSort _ _).mem_iff.mp (mem_of_mem_take hitem)
  exact mem_map_of_mem hmem

theorem length_victims (d : FlowDecoder) :
    d.victims.length = d.templates.size - d.maxTemplates := by
  rw [victims, length_map, length_take, length_insertionSort]
  exact min_eq_left (Nat.sub_le ..)

theorem size_popAll_victims (d : FlowDecoder) :
    (d.templates.popAll d.victims).size ≤ d.maxTemplates := by
  rw [Dict.size_popAll (nodup_victims d) (victims_subset d), length_victims]
  omega

/-- **A pruned cache is within its capacity.** -/
theorem size_prune_le (d : FlowDecoder) (now : ℤ) :
    (d.prune now).1.templates.size ≤ d.maxTemplates := by
  simp only [prune]
  split <;> rename_i hsize
  · exact size_popAll_victims { d with templates := d.templates.popAll (d.expiredKeys now) }
  · exact Nat.le_of_not_gt hsize

/-! ### One datagram -/

section Calls

variable {identify : String → Option String} {d : FlowDecoder} {datagram : List UInt8}
  {identity : String} {now : ℤ}

/-- The templates of a datagram's flowsets before the one at which it is rejected, `none` when the
datagram is not rejected or is rejected by its header. -/
def rejectedAfter (identify : String → Option String) (d : FlowDecoder) (datagram : List UInt8)
    (identity : String) (now : ℤ) : Option (List (TemplateKey × FlowTemplate)) :=
  match checkHeader identify datagram identity with
  | .error _ => none
  | .ok exporter =>
    let header := readHeader datagram
    let key := (exporter, header.sourceId)
    announcedBeforeRejection exporter header (flowsets datagram).2 now (flowsets datagram).1
      (d.observe key header)
      { sequenceGap := d.sequenceGap key header
        exporterRestart := d.restarted key header.sysUptime }

/-- The templates that survive the bookkeeping at the start of a call. -/
def keptTemplates (identify : String → Option String) (d : FlowDecoder) (datagram : List UInt8)
    (identity : String) : Dict TemplateKey FlowTemplate :=
  match checkHeader identify datagram identity with
  | .error _ => d.templates
  | .ok exporter =>
    (d.observe (exporter, (readHeader datagram).sourceId) (readHeader datagram)).templates

/-- The datagram fits: if it is rejected at some flowset, the templates in use and those of the
flowsets before it are within the capacity. -/
def Fits (identify : String → Option String) (d : FlowDecoder) (datagram : List UInt8)
    (identity : String) (now : ℤ) : Prop :=
  ∀ items, d.rejectedAfter identify datagram identity now = some items →
    ((d.keptTemplates identify datagram identity).keys ++ items.map Prod.fst).toFinset.card ≤
      d.maxTemplates

/-- **What a call can do**: refuse by the header, reject at a flowset, or return. -/
theorem decode_cases (identify : String → Option String) (d : FlowDecoder) (datagram : List UInt8)
    (identity : String) (now : ℤ) :
    (∃ category, checkHeader identify datagram identity = .error category ∧
      d.rejectedAfter identify datagram identity now = none ∧
      d.decode identify datagram identity now = (d, .error (.flowDecodeError ⟨category, none⟩))) ∨
    (∃ exporter items failure, checkHeader identify datagram identity = .ok exporter ∧
      d.rejectedAfter identify datagram identity now = some items ∧
      d.decode identify datagram identity now =
        ({ d.observe (exporter, (readHeader datagram).sourceId) (readHeader datagram) with
            templates := (d.keptTemplates identify datagram identity).setAll items },
          .error failure)) ∨
    (∃ (d' : FlowDecoder) (result : DecodeResult),
      d.rejectedAfter identify datagram identity now = none ∧
      d'.maxTemplates = d.maxTemplates ∧
      d.decode identify datagram identity now = ((d'.prune now).1, .ok result)) := by
  unfold decode rejectedAfter keptTemplates
  cases hheader : checkHeader identify datagram identity with
  | error category => exact .inl ⟨category, rfl, rfl, rfl⟩
  | ok exporter =>
    refine .inr ?_
    dsimp only
    split <;> rename_i d' outcome hloop
    · obtain ⟨items, hitems, rfl⟩ := decodeFlowsets_eq_error hloop
      exact .inl ⟨exporter, items, _, rfl, hitems, rfl⟩
    · obtain ⟨hnone, hmax⟩ := decodeFlowsets_eq_ok hloop
      exact .inr ⟨d', _, hnone, hmax, rfl⟩

/-- **One call keeps the cache within its capacity exactly when its datagram fits.** -/
theorem size_decode_le_iff (h : d.templates.size ≤ d.maxTemplates) :
    (d.decode identify datagram identity now).1.templates.size ≤
        (d.decode identify datagram identity now).1.maxTemplates ↔
      d.Fits identify datagram identity now := by
  obtain ⟨category, -, hnone, hdecode⟩ | ⟨exporter, items, failure, -, hitems, hdecode⟩ |
    ⟨d', result, hnone, hmax, hdecode⟩ := decode_cases identify d datagram identity now
  · rw [hdecode, Fits, hnone]
    exact ⟨fun _ _ hsome ↦ (nomatch hsome), fun _ ↦ h⟩
  · rw [hdecode, Fits, hitems]
    show ((d.keptTemplates identify datagram identity).setAll items).size ≤ d.maxTemplates ↔ _
    rw [Dict.size_setAll]
    exact ⟨fun hle items' hsome ↦ Option.some.inj hsome ▸ hle, fun hfits ↦ hfits items rfl⟩
  · rw [hdecode, Fits, hnone]
    exact ⟨fun _ _ hsome ↦ (nomatch hsome), fun _ ↦ size_prune_le d' now⟩

end Calls

/-! ### Rejected datagrams -/

/-- A datagram as it is received. -/
structure Datagram where
  bytes : List UInt8
  identity : String
  now : ℤ

/-- The header of a sample datagram: version 9, one record, uptime, time, sequence and source 1. -/
def sampleHeader (sysUptime unixSecs sequence : List UInt8) : List UInt8 :=
  [0, 9, 0, 1] ++ sysUptime ++ unixSecs ++ sequence ++ [0, 0, 0, 1]

/-- A flowset that announces templates 256 and 257, of one four-byte field each. -/
def sampleTemplates : List UInt8 :=
  [0, 0, 0, 20, 1, 0, 0, 1, 0, 1, 0, 4, 1, 1, 0, 1, 0, 1, 0, 4]

/-- A datagram that announces two templates and is cut off in its second flowset. -/
def truncatedDatagram : Datagram where
  bytes := sampleHeader [0, 0, 3, 232] [101, 0, 0, 0] [0, 0, 0, 7] ++ sampleTemplates ++ [0]
  identity := "192.0.2.1"
  now := 0

section Rejections

variable {identify : String → Option String} {d : FlowDecoder} {datagram : List UInt8}
  {identity : String} {now : ℤ}

/-- A rejection that has nothing to leave behind: it is by the header, or the bookkeeping and the
templates announced before the rejected flowset are what the decoder already holds. -/
def Traceless (identify : String → Option String) (d : FlowDecoder) (datagram : List UInt8)
    (identity : String) (now : ℤ) : Prop :=
  (∃ category, checkHeader identify datagram identity = .error category) ∨
  ∃ exporter items, checkHeader identify datagram identity = .ok exporter ∧
    d.rejectedAfter identify datagram identity now = some items ∧
    d.lastSequence.get? (exporter, (readHeader datagram).sourceId) =
      some (readHeader datagram).sequence ∧
    d.lastUptime.get? (exporter, (readHeader datagram).sourceId) =
      some (readHeader datagram).sysUptime ∧
    ∀ key template, (items.reverse.find? (·.1 = key)).map Prod.snd = some template →
      d.templates.get? key = some template

/-- An uptime seen again is no restart. -/
theorem observe_templates_of_uptime {key : String × ℕ} {header : DatagramHeader}
    (h : d.lastUptime.get? key = some header.sysUptime) :
    (d.observe key header).templates = d.templates := by
  have hrun : d.restarted key header.sysUptime = false := by
    rw [restarted, h, Option.any_some]
    exact decide_eq_false (by omega)
  rw [observe, hrun]
  rfl

/-- **A rejected datagram leaves no trace exactly when it has none to leave.** -/
theorem rejected_unchanged_iff {error : FlowDecodeError}
    (h : (d.decode identify datagram identity now).2 = .error (.flowDecodeError error)) :
    (d.decode identify datagram identity now).1 = d ↔
      d.Traceless identify datagram identity now := by
  obtain ⟨category, hheader, -, hdecode⟩ | ⟨exporter, items, failure, hheader, hitems, hdecode⟩ |
    ⟨d', result, -, -, hdecode⟩ := decode_cases identify d datagram identity now
  · rw [hdecode]
    exact ⟨fun _ ↦ .inl ⟨category, hheader⟩, fun _ ↦ rfl⟩
  · have hkept : d.keptTemplates identify datagram identity =
        (d.observe (exporter, (readHeader datagram).sourceId) (readHeader datagram)).templates := by
      rw [keptTemplates, hheader]
    rw [hdecode, hkept]
    constructor
    · intro hsame
      have hseq := Dict.set_eq_self_iff.mp (congrArg lastSequence hsame)
      have huptime := Dict.set_eq_self_iff.mp (congrArg lastUptime hsame)
      have htemplates := congrArg templates hsame
      dsimp only at htemplates
      rw [observe_templates_of_uptime huptime, Dict.setAll_eq_self_iff] at htemplates
      exact .inr ⟨exporter, items, hheader, hitems, hseq, huptime, htemplates⟩
    · rintro (⟨category, herror⟩ | ⟨exporter', items', hheader', hitems', hseq, huptime, hall⟩)
      · cases hheader.symm.trans herror
      cases hheader.symm.trans hheader'
      cases hitems.symm.trans hitems'
      rw [observe_templates_of_uptime huptime, Dict.setAll_eq_self_iff.mpr hall, observe,
        Dict.set_eq_self_iff.mpr hseq, Dict.set_eq_self_iff.mpr huptime]
  · rw [hdecode] at h
    cases h

/-- The decoder after the datagram that was cut off. -/
def truncatedDecoder : FlowDecoder :=
  ((FlowDecoder.new 16 60).decode some truncatedDatagram.bytes truncatedDatagram.identity 0).1

/-- The same datagram once more: it announces what is cached. -/
theorem rejected_unchanged_again : (truncatedDecoder.decode some truncatedDatagram.bytes
    truncatedDatagram.identity 0).1 = truncatedDecoder := by
  have hrej : (truncatedDecoder.decode some truncatedDatagram.bytes
      truncatedDatagram.identity 0).2 = .error (.flowDecodeError ⟨.truncatedFlowset, none⟩) := by
    decide +kernel
  have hitems : truncatedDecoder.rejectedAfter some truncatedDatagram.bytes
      truncatedDatagram.identity 0 = some truncatedDecoder.templates.items := by decide +kernel
  have hsame : truncatedDecoder.templates.setAll truncatedDecoder.templates.items =
      truncatedDecoder.templates := by decide +kernel
  exact (rejected_unchanged_iff hrej).mpr (.inr ⟨"192.0.2.1", _, by decide +kernel, hitems,
    by decide +kernel, by decide +kernel, Dict.setAll_eq_self_iff.mp hsame⟩)

/-- A datagram that is cut off leaves its templates and its sequence number behind. -/
theorem truncated_leaves_trace :
    ((FlowDecoder.new 16 60).decode some truncatedDatagram.bytes truncatedDatagram.identity 0).2 =
        .error (.flowDecodeError ⟨.truncatedFlowset, none⟩) ∧
      ((FlowDecoder.new 16 60).decode some truncatedDatagram.bytes truncatedDatagram.identity 0).1 ≠
        .new 16 60 := by
  refine ⟨by decide +kernel, fun hsame ↦ ?_⟩
  have hsize := congrArg (fun d : FlowDecoder ↦ (d.templates.size, d.lastSequence.size)) hsame
  exact absurd hsize (by decide +kernel)

end Rejections

/-! ### Runs -/

/-- A new decoder, and one datagram after the other. -/
def machine (identify : String → Option String) : Machine FlowDecoder Datagram where
  init d := ∃ maxTemplates ttl, d = .new maxTemplates ttl
  step d e := (d.decode identify e.bytes e.identity e.now).1

/-- **Bounded template cache.** While every datagram fits, the cache stays within its capacity. -/
theorem templates_bounded {identify : String → Option String} {d : FlowDecoder}
    (h : (machine identify).ReachableBy (fun d e ↦ d.Fits identify e.bytes e.identity e.now) d) :
    d.templates.size ≤ d.maxTemplates := by
  refine Machine.ReachableBy.invariant (P := fun d ↦ d.templates.size ≤ d.maxTemplates) ?_ ?_ h
  · rintro _ ⟨maxTemplates, ttl, rfl⟩
    exact Nat.zero_le _
  · intro d e hd hfits
    exact (size_decode_le_iff hd).mpr hfits

/-- A datagram that announces two templates. -/
def templateDatagram : Datagram where
  bytes := sampleHeader [0, 0, 3, 232] [101, 0, 0, 0] [0, 0, 0, 6] ++ sampleTemplates
  identity := "192.0.2.1"
  now := 0

/-- Two templates are cached, and the datagram that announces them again is cut off. -/
theorem templates_bounded_again :
    ((machine some).run (.new 2 60) [templateDatagram, truncatedDatagram]).templates.size ≤ 2 := by
  have hreach : (machine some).ReachableBy
      (fun d e ↦ d.Fits some e.bytes e.identity e.now) (.new 2 60) := .start ⟨2, 60, rfl⟩
  have hnone : (FlowDecoder.new 2 60).rejectedAfter some templateDatagram.bytes
      templateDatagram.identity templateDatagram.now = none := by decide +kernel
  have hfits : ∀ items ∈ ((machine some).step (.new 2 60) templateDatagram).rejectedAfter some
      truncatedDatagram.bytes truncatedDatagram.identity truncatedDatagram.now,
      ((((machine some).step (.new 2 60) templateDatagram).keptTemplates some
        truncatedDatagram.bytes truncatedDatagram.identity).keys ++
          items.map Prod.fst).toFinset.card ≤ 2 := by decide +kernel
  exact templates_bounded (hreach.run
    ⟨fun items hitems ↦ absurd (hnone.symm.trans hitems) (by simp), fun items ↦ hfits items, trivial⟩)

/-- A decoder for one template caches two after a rejected datagram. -/
theorem truncated_overfills :
    (machine some).Reachable ((machine some).run (.new 1 60) [truncatedDatagram]) ∧
      ¬((machine some).run (.new 1 60) [truncatedDatagram]).templates.size ≤
        ((machine some).run (.new 1 60) [truncatedDatagram]).maxTemplates :=
  ⟨.run _ (.start ⟨1, 60, rfl⟩), by decide +kernel⟩

end Kaya.Flow.FlowDecoder
