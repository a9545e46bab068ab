import Kaya.HA.KeepalivedDocuments
import Kaya.HA.SystemSteps

/-!
# Rendered documents are accepted

Every document the renderer can produce passes the agent's checks and the root helper's. What does
not depend on the values in the document's holes is decided on the lines with their holes
(`AgentAccepts`, `HelperCounts`); what does is proved line by line against the helper's grammar
(`safeLine_documentLines`).
-/

namespace Kaya.HA

open PyText Regex List

section Grammar

open Template DocumentField

variable {c : HACluster} {node : HANode}

/-- The grammar has a pattern for the filled line. -/
def SafeLine (value : DocumentField → List Char) (T : Template DocumentField) : Prop :=
  safeLines.any (fullmatch · (fill value T)) = true

theorem SafeLine.of_getElem? {value : DocumentField → List Char} {T : Template DocumentField}
    {r : Re} (i : ℕ) (hi : safeLines[i]? = some r) (h : fullmatch r (fill value T) = true) :
    SafeLine value T :=
  any_eq_true.mpr ⟨r, mem_of_getElem? hi, h⟩

theorem SafeLine.of_text {value : DocumentField → List Char} (i : ℕ) {s : String}
    (hi : safeLines[i]? = some (lit s)) : SafeLine value (text s) :=
  .of_getElem? i hi (by rw [fill_text]; exact fullmatch_lit s)

/-- The keywords that take a number. -/
def numberKeywords : List String :=
  ["interval", "timeout", "fall", "rise", "advert_int", "preempt_delay"]

theorem SafeLine.of_number {value : DocumentField → List Char} {s keyword : String} {n : ℕ}
    (hkeyword : keyword ∈ numberKeywords) (hn : 1 ≤ n)
    (hs : s.toList = keyword.toList ++ (" ".toList ++ Nat.toDigits 10 n)) :
    SafeLine value (text s) := by
  refine .of_getElem? 8 rfl ?_
  rw [fill_text, hs]
  refine fullmatch_mul (fullmatch_anyOf (r := lit keyword) ?_ (fullmatch_lit keyword))
    (fullmatch_mul (fullmatch_lit " ") (fullmatch_positive hn))
  exact mem_map_of_mem (f := lit) hkeyword

section

variable (h : DocumentValues c node)

include h

theorem fullmatch_tag : fullmatch tagRe (value c node tag) = true := by
  obtain ⟨hlength, hchars⟩ := tag_of_isUuid h.uuid
  refine fullmatch_repeated hlength.ge hlength.le fun x hx ↦ ?_
  rcases hchars x hx with hdigit | hletter
  · exact mem_append_right _ (mem_charRange_of_isDigit hdigit)
  · exact mem_append_left _ (mem_charRange hletter.1 hletter.2)

theorem fullmatch_generation :
    fullmatch positive (value c node generation) = true := by
  rw [value, toList_toString]
  exact fullmatch_positive h.generation_pos

theorem safeLine_cluster : SafeLine (value c node)
    (text "# cluster=" ++ hole cluster ++ text " generation=" ++ hole generation) := by
  refine .of_getElem? 1 rfl ?_
  rw [fill_append, fill_append, fill_append, fill_text, fill_text, fill_hole, fill_hole,
    append_assoc _ " generation=".toList, append_assoc "# cluster=".toList]
  obtain ⟨hlength, hchars⟩ := cluster_of_isUuid h.uuid
  refine fullmatch_mul (fullmatch_lit _) (fullmatch_mul (fullmatch_repeated hlength.ge hlength.le
    fun x hx ↦ ?_) (fullmatch_mul (fullmatch_lit _) (fullmatch_generation h)))
  rcases hchars x hx with hdigit | hletter | rfl
  · exact mem_append_left _ (mem_append_left _ (mem_charRange_of_isDigit hdigit))
  · exact mem_append_left _ (mem_append_right _ (mem_charRange hletter.1 hletter.2))
  · exact mem_append_right _ (mem_singleton_self _)

theorem safeLine_script :
    SafeLine (value c node) (text "vrrp_script KAYA_DNS_" ++ hole tag ++ text " \x7b") := by
  refine .of_getElem? 5 rfl ?_
  rw [fill_append, fill_append, fill_text, fill_text, fill_hole, append_assoc]
  exact fullmatch_mul (fullmatch_lit _) (fullmatch_mul (fullmatch_tag h) (fullmatch_lit _))

theorem safeLine_instance :
    SafeLine (value c node) (text "vrrp_instance KAYA_HA_" ++ hole tag ++ text " \x7b") := by
  refine .of_getElem? 6 rfl ?_
  rw [fill_append, fill_append, fill_text, fill_text, fill_hole, append_assoc]
  exact fullmatch_mul (fullmatch_lit _) (fullmatch_mul (fullmatch_tag h) (fullmatch_lit _))

theorem safeLine_interface :
    SafeLine (value c node) (text "interface " ++ hole interface) := by
  refine .of_getElem? 11 rfl ?_
  rw [fill_append, fill_text, fill_hole]
  obtain ⟨hne, hchars⟩ := interface_chars h
  refine fullmatch_mul (fullmatch_lit _) (fullmatch_repeated (Nat.pos_of_ne_zero hne)
    (le_trans h.interface_le (by decide)) fun x hx ↦ ?_)
  rcases hchars x hx with halnum | hmark
  · refine mem_append_left _ ?_
    obtain hupper | hlower | hdigit := isAlphanum_cases halnum
    · exact mem_append_left _ (mem_append_left _ (mem_charRange hupper.1 hupper.2))
    · exact mem_append_left _ (mem_append_right _ (mem_charRange hlower.1 hlower.2))
    · exact mem_append_right _ (mem_charRange_of_isDigit hdigit)
  · exact mem_append_right _ hmark

theorem safeLine_router :
    SafeLine (value c node) (text "virtual_router_id " ++ hole router) := by
  refine .of_getElem? 12 rfl ?_
  rw [fill_append, fill_text, fill_hole, value, toList_toString]
  exact fullmatch_mul (fullmatch_lit _)
    (fullmatch_byteRe (byteDigits_router _ h.router.2 h.router.1))

theorem safeLine_priority :
    SafeLine (value c node) (text "priority " ++ hole priority) := by
  refine .of_getElem? 13 rfl ?_
  rw [fill_append, fill_text, fill_hole, value, toList_toString]
  exact fullmatch_mul (fullmatch_lit _)
    (fullmatch_byteRe (byteDigits_priority _ h.priority.2 h.priority.1))

end

/-- Prefix lengths as the grammar has them. -/
theorem fullmatch_prefixLength : ∀ n < 33, 1 ≤ n → fullmatch (anyOf [cls (charRange '1' '9'),
    cls ['1', '2'] * digit, lit "3" * cls (charRange '0' '2')]) (Nat.toDigits 10 n) = true := by
  decide +kernel

theorem fullmatch_octet {part : List Char}
    (h : part ≠ [] ∧ part.length ≤ 3 ∧ ∀ x ∈ part, x.isDigit = true) :
    fullmatch (repeated digit 1 3) part = true :=
  fullmatch_repeated (length_pos_of_ne_nil h.1) h.2.1
    fun x hx ↦ mem_charRange_of_isDigit (h.2.2 x hx)

section

variable (h : DocumentValues c node)

include h

theorem safeLine_vip :
    SafeLine (value c node) (hole address ++ text "/" ++ hole prefixLength) := by
  refine .of_getElem? 15 rfl ?_
  obtain ⟨ip, hip, -⟩ := h.vip
  obtain ⟨p, q, r, s, htext, hparts⟩ := IPv4.address_eq_some hip
  simp only [mem_cons, not_mem_nil, or_false, forall_eq_or_imp, forall_eq] at hparts
  obtain ⟨hp, hq, hr, hs⟩ := hparts
  have hdot {part : List Char} (hpart : fullmatch (repeated digit 1 3) part = true) :
      fullmatch (lit "." * repeated digit 1 3) ('.' :: part) = true :=
    fullmatch_mul (fullmatch_lit ".") hpart
  have hrest : fullmatch ((lit "." * repeated digit 1 3) ^ 3)
      ['.' :: q, '.' :: r, '.' :: s].flatten = true := by
    refine fullmatch_pow rfl ?_
    simp only [mem_cons, not_mem_nil, or_false, forall_eq_or_imp, forall_eq]
    exact ⟨hdot (fullmatch_octet hq), hdot (fullmatch_octet hr), hdot (fullmatch_octet hs)⟩
  have hsplit : fill (value c node) (hole address ++ text "/" ++ hole prefixLength) =
      p ++ (['.' :: q, '.' :: r, '.' :: s].flatten ++
        ("/".toList ++ Nat.toDigits 10 (c.prefixLength.getD 0))) := by
    rw [fill_append, fill_append, fill_text, fill_hole, fill_hole, value, value, htext,
      toList_toString]
    simp
  rw [hsplit]
  exact fullmatch_mul (fullmatch_octet hp) (fullmatch_mul hrest (fullmatch_mul (fullmatch_lit "/")
    (fullmatch_prefixLength _ (Nat.lt_succ_of_le h.prefixLength.2) h.prefixLength.1)))

theorem safeLine_track :
    SafeLine (value c node) (text "KAYA_DNS_" ++ hole tag) := by
  refine .of_getElem? 16 rfl ?_
  rw [fill_append, fill_text, fill_hole]
  exact fullmatch_mul (fullmatch_lit _) (fullmatch_tag h)

theorem safeLine_hook {role : String}
    (hrole : role ∈ ["master", "backup", "fault"]) : SafeLine (value c node) (hookLine role) := by
  refine .of_getElem? 17 rfl ?_
  have hre : fullmatch roleRe role.toList = true :=
    fullmatch_anyOf (r := lit role) (mem_map_of_mem (f := lit) hrole) (fullmatch_lit role)
  have hsplit : fill (value c node) (hookLine role) = "notify_".toList ++ (role.toList ++
        (" \"/usr/lib/kaya-ha-agent/kaya_ha_transition.py ".toList ++ (role.toList ++
          (" ".toList ++ (value c node generation ++ "\"".toList))))) := by
    unfold hookLine
    simp only [fill_append, fill_text, fill_hole, String.toList_append, append_assoc,
      -String.reduceToList]
  rw [hsplit]
  exact fullmatch_mul (fullmatch_lit _) (fullmatch_mul hre (fullmatch_mul (fullmatch_lit _)
    (fullmatch_mul hre (fullmatch_mul (fullmatch_lit _) (fullmatch_mul (fullmatch_generation h)
      (fullmatch_lit _))))))

/-- **Every line of a rendered document is a safe one.** -/
theorem safeLine_documentLines (allowPreemption : Bool) :
    ∀ line ∈ documentLines allowPreemption, line.2 ≠ [] → SafeLine (value c node) line.2 := by
  have hpolicy : SafeLine (value c node)
      (text (if allowPreemption then "preempt_delay 3" else "nopreempt")) := by
    cases allowPreemption
    · exact .of_text 10 rfl
    · exact @SafeLine.of_number _ _ "preempt_delay" 3 (by decide) (by decide) (by decide)
  have hopen (s : String) (keyword : String)
      (hs : s.toList = keyword.toList ++ " \x7b".toList)
      (hmem : keyword ∈ ["virtual_ipaddress", "track_script"]) :
      SafeLine (value c node) (text s) := by
    refine .of_getElem? 14 rfl ?_
    rw [fill_text, hs]
    exact fullmatch_mul (fullmatch_anyOf (r := lit keyword) (mem_map_of_mem (f := lit) hmem)
      (fullmatch_lit keyword)) (fullmatch_lit _)
  have hnumber (s keyword : String) (n : ℕ) (hkeyword : keyword ∈ numberKeywords) (hn : 1 ≤ n)
      (hs : s.toList = keyword.toList ++ (" ".toList ++ Nat.toDigits 10 n)) :
      SafeLine (value c node) (text s) := .of_number hkeyword hn hs
  unfold documentLines
  simp only [mem_cons, not_mem_nil, or_false, forall_eq_or_imp, forall_eq, ne_eq,
    not_true_eq_false, false_implies, true_and, -String.reduceToList]
  refine ⟨fun _ ↦ .of_text 0 rfl, fun _ ↦ safeLine_cluster h, fun _ ↦ .of_text 2 rfl,
    fun _ ↦ .of_text 3 rfl, fun _ ↦ .of_text 4 rfl, fun _ ↦ .of_text 18 rfl,
    fun _ ↦ safeLine_script h, fun _ ↦ .of_text 7 rfl,
    fun _ ↦ hnumber _ "interval" 2 (by decide) (by decide) (by decide),
    fun _ ↦ hnumber _ "timeout" 2 (by decide) (by decide) (by decide),
    fun _ ↦ hnumber _ "fall" 3 (by decide) (by decide) (by decide),
    fun _ ↦ hnumber _ "rise" 3 (by decide) (by decide) (by decide), fun _ ↦ .of_text 18 rfl,
    fun _ ↦ safeLine_instance h, fun _ ↦ .of_text 9 rfl, fun _ ↦ safeLine_interface h,
    fun _ ↦ safeLine_router h, fun _ ↦ safeLine_priority h,
    fun _ ↦ hnumber _ "advert_int" 1 (by decide) (by decide) (by decide), fun _ ↦ hpolicy,
    fun _ ↦ hopen _ "virtual_ipaddress" (by decide) (by decide), fun _ ↦ safeLine_vip h,
    fun _ ↦ .of_text 18 rfl, fun _ ↦ hopen _ "track_script" (by decide) (by decide),
    fun _ ↦ safeLine_track h, fun _ ↦ .of_text 18 rfl, fun _ ↦ safeLine_hook h (by decide),
    fun _ ↦ safeLine_hook h (by decide), fun _ ↦ safeLine_hook h (by decide),
    fun _ ↦ .of_text 18 rfl⟩

end

end Grammar

section Acceptance

open Template DocumentField

/-- The line as a pattern. -/
def linePattern (T : Template DocumentField) : Pattern := pattern alphabet bound T

/-- The line starts with the text, whatever its values. -/
def starts (s : String) (T : Template DocumentField) : Bool :=
  ((linePattern T).dropLits s.toList).isSome

/-- Whether the line starts with the text does not depend on its values. -/
def startsDecided (s : String) (T : Template DocumentField) : Bool :=
  starts s T || !(linePattern T).canStart s.toList

/-- The line names the Virtual IP, whatever its values. -/
def namesVip (T : Template DocumentField) : Bool :=
  T.any (· = .inl '/') && !(starts "script " T || starts "notify_" T)

/-- What the helper counts, decided on the lines with holes. -/
def HelperCounts (bodies : List (Template DocumentField)) : Bool :=
  ["vrrp_instance ", "vrrp_script ", "notify_master ", "notify_backup ", "notify_fault "].all
      (fun s ↦ bodies.all (startsDecided s) && bodies.countP (starts s) == 1) &&
    ["global_defs \x7b", "script_user kaya-ha kaya-ha", "enable_script_security"].all
      (fun s ↦ bodies.all (fun T ↦ decide (T = text s) || !(linePattern T).canStart s.toList) &&
        bodies.countP (· = text s) == 1) &&
    bodies.all (fun T ↦ (T.any (· = .inl '/') || !(linePattern T).canContain ['/']) &&
      startsDecided "script " T && startsDecided "notify_" T) &&
    decide (bodies.filter namesVip = [hole address ++ text "/" ++ hole prefixLength])

/-- The lines that are not empty. -/
def documentBodies (allowPreemption : Bool) : List (Template DocumentField) :=
  ((documentLines allowPreemption).map Prod.snd).filter (· ≠ [])

/-- What the agent asks of a document, decided on its pattern. -/
def AgentAccepts (header : List Char) (forbidden required : List (List Char)) (p : Pattern) :
    Bool :=
  (p.dropLits header).isSome && decide (p.maxLength ≤ 32 * 1024) &&
    forbidden.all (fun marker ↦ !p.canContain marker) &&
    required.all fun marker ↦ p.occursOnce marker

/-- No line of the document holds white space at its ends or a character outside ASCII. -/
def PlainLines (lines : List (ℕ × Template DocumentField)) : Bool :=
  lines.all (fun line ↦ tidy line.2) &&
    (layout lines).all (Sum.elim (fun x ↦ decide (x.toNat ≤ 127)) fun _ ↦ true)

-- The kernel is slow to decode string literals, so the next three turn them into characters first.
theorem plainLines_documentLines (allowPreemption : Bool) :
    PlainLines (documentLines allowPreemption) = true := by
  unfold documentLines
  simp only [text, hookLine, String.reduceAppend, -String.reduceToList]
  cases allowPreemption
  all_goals
    simp only [Bool.false_eq_true, if_false, if_true, -String.reduceToList]
    repeat rw [String.toList_ofList]
    decide +kernel

theorem helperCounts_documentBodies (allowPreemption : Bool) :
    HelperCounts (documentBodies allowPreemption) = true := by
  unfold documentBodies documentLines
  simp only [text, hookLine, String.reduceAppend, -String.reduceToList]
  cases allowPreemption
  all_goals
    simp only [Bool.false_eq_true, if_false, if_true, -String.reduceToList]
    repeat rw [String.toList_ofList]
    decide +kernel

theorem agentAccepts_documentPattern (allowPreemption : Bool) :
    AgentAccepts managedHeader.toList (forbiddenConfigMarkers.map String.toList)
      (requiredMarkers.map String.toList) (documentPattern allowPreemption) = true := by
  unfold managedHeader forbiddenConfigMarkers requiredMarkers documentPattern documentLines
  simp only [map_cons, map_nil, text, hookLine, String.reduceAppend, -String.reduceToList]
  cases allowPreemption
  all_goals
    simp only [Bool.false_eq_true, if_false, if_true, -String.reduceToList]
    repeat rw [String.toList_ofList]
    decide +kernel

variable {c : HACluster} {node : HANode} {s : String} {T : Template DocumentField}
  {bodies : List (Template DocumentField)}

section

variable (h : DocumentValues c node)

include h

theorem matches_linePattern (T : Template DocumentField) :
    (linePattern T).Matches (fill (value c node) T) :=
  matches_pattern (length_value_le h) (alphabet_value h) T

theorem startsWith_fill (hs : startsDecided s T = true) :
    startsWith s (fill (value c node) T) = starts s T := by
  have hmatch := matches_linePattern h T
  rw [startsWith]
  cases hstarts : starts s T with
  | true =>
    obtain ⟨q, hq⟩ := Option.isSome_iff_exists.mp hstarts
    obtain ⟨rest, hrest, -⟩ := Pattern.exists_of_dropLits hmatch hq
    rw [hrest]
    exact decide_eq_true (prefix_append ..)
  | false =>
    rw [startsDecided, hstarts, Bool.false_or, Bool.not_eq_true'] at hs
    exact decide_eq_false (Pattern.not_prefix_of_canStart hmatch hs)

theorem countP_startsWith (hs : bodies.all (startsDecided s) = true) :
    (bodies.map (fill (value c node))).countP (startsWith s) = bodies.countP (starts s) := by
  rw [List.countP_map]
  refine countP_congr fun T hT ↦ ?_
  rw [Function.comp_apply, startsWith_fill h (all_eq_true.mp hs T hT)]

theorem count_fill
    (hs : bodies.all (fun T ↦ decide (T = text s) || !(linePattern T).canStart s.toList) = true) :
    (bodies.map (fill (value c node))).count s.toList = bodies.countP (· = text s) := by
  rw [List.count, List.countP_map]
  refine countP_congr fun T hT ↦ ?_
  have hT := all_eq_true.mp hs T hT
  rw [Bool.or_eq_true, decide_eq_true_eq, Bool.not_eq_true'] at hT
  rw [Function.comp_apply, beq_iff_eq, decide_eq_true_eq]
  constructor
  · intro hfill
    rcases hT with htext | hstart
    · exact htext
    · have hfront : s.toList <+: fill (value c node) T := hfill ▸ prefix_refl _
      exact absurd hfront (Pattern.not_prefix_of_canStart (matches_linePattern h T) hstart)
  · rintro rfl
    exact fill_text s

theorem vipLines_fill
    (hs : bodies.all (fun T ↦ (T.any (· = .inl '/') || !(linePattern T).canContain ['/']) &&
      startsDecided "script " T && startsDecided "notify_" T) = true) :
    vipLines (bodies.map (fill (value c node))) =
      (bodies.filter namesVip).map (fill (value c node)) := by
  rw [vipLines, filter_map]
  refine congrArg (map _) (filter_congr fun T hT ↦ ?_)
  have hT := all_eq_true.mp hs T hT
  rw [Bool.and_eq_true, Bool.and_eq_true] at hT
  obtain ⟨⟨hslash, hscript⟩, hnotify⟩ := hT
  have hmem : decide ('/' ∈ fill (value c node) T) = T.any (· = .inl '/') := by
    rw [Bool.eq_iff_iff, decide_eq_true_eq]
    refine ⟨fun hmem ↦ ?_, fun hmem ↦ ?_⟩
    · rcases Bool.or_eq_true .. ▸ hslash with hany | hcontain
      · exact hany
      · obtain ⟨before, after, hfill⟩ := append_of_mem hmem
        have hinfix : ['/'] <:+: fill (value c node) T := ⟨before, after, by rw [hfill]; simp⟩
        exact absurd hinfix
          (Pattern.not_infix_of_canContain (matches_linePattern h T) (by simpa using hcontain))
    · obtain ⟨piece, hpiece, hslash⟩ := any_eq_true.mp hmem
      rw [decide_eq_true_eq] at hslash
      exact mem_flatMap.mpr ⟨piece, hpiece, hslash ▸ mem_singleton_self _⟩
  rw [Function.comp_apply, hmem, startsWith_fill h hscript, startsWith_fill h hnotify, namesVip]

/-- The lines the helper reads. -/
theorem strippedLines_keepalivedContent (allowPreemption : Bool) :
    strippedLines (keepalivedContent c node allowPreemption).toList =
      (documentBodies allowPreemption).map (fill (value c node)) := by
  have hplain := plainLines_documentLines allowPreemption
  rw [PlainLines, Bool.and_eq_true] at hplain
  rw [toList_keepalivedContent, keepalivedTemplate_eq, strippedLines_layout (words_value h) hplain.1]
  rfl

end

theorem fromUTF8?_toUTF8 (s : String) : String.fromUTF8? s.toUTF8 = some s := by
  rw [String.toUTF8_eq_toByteArray, String.fromUTF8?, dif_pos s.isValidUTF8]
  rfl

/-- The helper accepts the document that Kaya renders. -/
theorem validateManagedDocument_keepalivedContent (h : DocumentValues c node)
    (allowPreemption : Bool) :
    validateManagedDocument (keepalivedContent c node allowPreemption).toUTF8 = true := by
  have hcounts := helperCounts_documentBodies allowPreemption
  simp only [HelperCounts, all_cons, all_nil, Bool.and_true, Bool.and_eq_true,
    beq_iff_eq, decide_eq_true_eq, -String.reduceToList] at hcounts
  obtain ⟨⟨⟨⟨hinstance, hscript, hmaster, hbackup, hfault⟩, hglobal, huser, hsecurity⟩, hvip⟩,
    hvipLine⟩ := hcounts
  have hsafe : ∀ line ∈ (documentBodies allowPreemption).map (fill (value c node)),
      safeLines.any (fullmatch · line) = true := by
    intro line hline
    obtain ⟨T, hT, rfl⟩ := mem_map.mp hline
    obtain ⟨hmem, hne⟩ := mem_filter.mp hT
    obtain ⟨entry, hentry, rfl⟩ := mem_map.mp hmem
    exact safeLine_documentLines h allowPreemption entry hentry (of_decide_eq_true hne)
  have hnotify : ∀ role ∈ ["master", "backup", "fault"],
      (documentBodies allowPreemption).countP (starts ("notify_" ++ role ++ " ")) = 1 ∧
        (documentBodies allowPreemption).all (startsDecided ("notify_" ++ role ++ " ")) = true := by
    simp only [mem_cons, not_mem_nil, or_false, forall_eq_or_imp, forall_eq,
      String.reduceAppend, -String.reduceToList]
    exact ⟨⟨hmaster.2, hmaster.1⟩, ⟨hbackup.2, hbackup.1⟩, ⟨hfault.2, hfault.1⟩⟩
  obtain ⟨ip, hip, hnet, hbroadcast⟩ := h.vip
  have hiface : IPv4.interface (String.ofList (fill (value c node)
      (hole address ++ text "/" ++ hole prefixLength))) = some (ip, c.prefixLength.getD 0) := by
    rw [← IPv4.interface_of_address hip h.prefixLength.2, ← toList_toString, fill_append,
      fill_append, fill_text, fill_hole, fill_hole, append_assoc]
    rfl
  rw [validateManagedDocument, fromUTF8?_toUTF8]
  simp only [strippedLines_keepalivedContent h]
  rw [if_neg, if_neg, if_neg, if_neg, vipLines_fill h hvip, hvipLine, map_cons, map_nil]
  · simp only [hiface, Option.any_some]
    exact decide_eq_true ⟨hnet, hbroadcast⟩
  · simp only [any_eq_true, decide_eq_true_eq, not_exists, not_and, not_not]
    intro role hrole
    rw [countP_startsWith h (hnotify role hrole).2, (hnotify role hrole).1]
  · rw [count_fill h hglobal.1, count_fill h huser.1, count_fill h hsecurity.1, hglobal.2,
      huser.2, hsecurity.2]
    decide
  · rw [countP_startsWith h hinstance.1, countP_startsWith h hscript.1, hinstance.2, hscript.2]
    decide
  · rw [not_or]
    refine ⟨?_, ?_⟩
    · rw [map_eq_nil_iff]
      intro hnil
      rw [hnil] at hvipLine
      cases hvipLine
    · rw [any_eq_true]
      rintro ⟨line, hline, hunsafe⟩
      rw [hsafe line hline] at hunsafe
      cases hunsafe

theorem utf8ByteSize_of_ascii {s : String} (h : ∀ x ∈ s.toList, x.toNat ≤ 127) :
    s.utf8ByteSize = s.toList.length := by
  have hofList (cs : List Char) (hcs : ∀ x ∈ cs, x.toNat ≤ 127) :
      (String.ofList cs).utf8ByteSize = cs.length := by
    induction cs with
    | nil => rfl
    | cons x cs ih =>
      have hx : x.utf8Size = 1 := Char.utf8Size_eq_one_iff.mpr (hcs x (mem_cons_self ..))
      have hcons : String.ofList (x :: cs) = String.singleton x ++ String.ofList cs := by
        rw [← singleton_append, String.ofList_append]
        rfl
      rw [hcons, String.utf8ByteSize_append, String.utf8ByteSize_singleton, hx,
        ih fun y hy ↦ hcs y (mem_cons_of_mem _ hy), length_cons, Nat.add_comm]
  have hs := hofList s.toList h
  rwa [String.ofList_toList] at hs

theorem ascii_keepalivedContent (h : DocumentValues c node) (allowPreemption : Bool) :
    ∀ x ∈ (keepalivedContent c node allowPreemption).toList, x.toNat ≤ 127 := by
  have hplain := plainLines_documentLines allowPreemption
  rw [PlainLines, Bool.and_eq_true] at hplain
  rw [toList_keepalivedContent, keepalivedTemplate_eq]
  refine forall_mem_fill (fun x hx ↦ ?_) fun f x hx ↦ ?_
  · exact of_decide_eq_true (all_eq_true.mp hplain.2 _ hx)
  · exact le_trans (visible_of_alphabet (alphabet_value h f x hx)).2 (by decide)

/-- The action a rendered document is offered in. -/
def keepalivedAction (content : String) : DesiredAction where
  actionType := some "KEEPALIVED_APPLY"
  dhcpTransition := some "DISABLED"
  configuration := some content
  checksum := some (.keepalivedConfig content)

theorem requiredMarkers_ne_nil : ∀ marker ∈ requiredMarkers, marker.toList ≠ [] := by
  intro marker hmarker hnil
  have hempty : marker = "" := String.toList_inj.mp (hnil.trans rfl)
  rw [hempty] at hmarker
  exact absurd hmarker (by decide)

theorem validateDesiredConfiguration_eq_ok {content : String}
    (hfront : managedHeader.toList <+: content.toList) (hsize : content.utf8ByteSize ≤ 32 * 1024)
    (hclean : ∀ marker ∈ forbiddenConfigMarkers, ¬marker.toList <:+: content.toList)
    (honce : ∀ marker ∈ requiredMarkers, count marker.toList content.toList = 1) :
    validateDesiredConfiguration (keepalivedAction content) = .ok content.toUTF8 := by
  rw [validateDesiredConfiguration, keepalivedAction, if_neg (by simp)]
  dsimp only
  rw [if_neg, if_neg, if_neg, if_neg (not_not.mpr rfl)]
  · simp only [any_eq_true, decide_eq_true_eq, not_exists, not_and, not_not]
    exact honce
  · simp only [any_eq_true, decide_eq_true_eq, not_exists, not_and]
    exact hclean
  · rw [not_or, not_not, not_lt]
    exact ⟨hfront, hsize⟩

theorem validateDesiredConfiguration_keepalivedContent (h : DocumentValues c node)
    (allowPreemption : Bool) :
    validateDesiredConfiguration (keepalivedAction (keepalivedContent c node allowPreemption)) =
      .ok (keepalivedContent c node allowPreemption).toUTF8 := by
  have haccepts := agentAccepts_documentPattern allowPreemption
  simp only [AgentAccepts, Bool.and_eq_true, decide_eq_true_eq, all_eq_true,
    Bool.not_eq_true', forall_mem_map] at haccepts
  obtain ⟨⟨⟨hheader, hlength⟩, hforbidden⟩, hrequired⟩ := haccepts
  have hmatch : (documentPattern allowPreemption).Matches
      (keepalivedContent c node allowPreemption).toList := by
    rw [toList_keepalivedContent, keepalivedTemplate_eq]
    exact matches_pattern (length_value_le h) (alphabet_value h) _
  have hsize : (keepalivedContent c node allowPreemption).utf8ByteSize ≤ 32 * 1024 := by
    rw [utf8ByteSize_of_ascii (ascii_keepalivedContent h allowPreemption)]
    exact le_trans hmatch.length_le hlength
  have hfront : managedHeader.toList <+: (keepalivedContent c node allowPreemption).toList := by
    obtain ⟨q, hq⟩ := Option.isSome_iff_exists.mp hheader
    obtain ⟨rest, hrest, -⟩ := Pattern.exists_of_dropLits hmatch hq
    exact ⟨rest, hrest.symm⟩
  have hclean : ∀ marker ∈ forbiddenConfigMarkers,
      ¬marker.toList <:+: (keepalivedContent c node allowPreemption).toList :=
    fun marker hmarker ↦ Pattern.not_infix_of_canContain hmatch (hforbidden marker hmarker)
  have honce : ∀ marker ∈ requiredMarkers,
      count marker.toList (keepalivedContent c node allowPreemption).toList = 1 :=
    fun marker hmarker ↦ Pattern.count_eq_one hmatch (requiredMarkers_ne_nil marker hmarker)
      (hrequired marker hmarker)
  exact validateDesiredConfiguration_eq_ok hfront hsize hclean honce

/-- **Inversion** of an accepted network. -/
theorem validateNetwork_eq_ok {c : HACluster} (h : validateNetwork c = .ok ()) :
    (∃ vip len, virtualInterface c = .ok (vip, len) ∧ vip ≠ IPv4.networkAddress vip len ∧
      vip ≠ IPv4.broadcastAddress vip len) ∧
    (∀ n ∈ c.nodes.ids, validInterface (c.node n).networkInterface = true) ∧
    ∃ id, c.vrrpRouterId = some id ∧ 1 ≤ id ∧ id ≤ 255 := by
  simp only [validateNetwork, bind, Except.bind, pure, Except.pure] at h
  split at h
  · cases h
  split at h
  · cases h
  rename_i vip hvip
  split at h
  · cases h
  rename_i hends
  rw [not_or] at hends
  split at h
  · cases h
  split at h
  · cases h
  split at h
  · cases h
  split at h
  · cases h
  rename_i hinterfaces
  split at h
  · rename_i id hid
    split at h
    · rename_i hrange
      refine ⟨⟨vip.1, vip.2, hvip, hends.1, hends.2⟩, fun n hn ↦ ?_, id, hid, hrange⟩
      simpa using find?_eq_none.mp hinterfaces n hn
    · cases h
  · cases h

theorem virtualInterface_eq_ok {c : HACluster} {vip len : ℕ}
    (h : virtualInterface c = .ok (vip, len)) :
    IPv4.address (c.virtualIp.getD "") = some vip ∧ c.prefixLength.getD 0 = len ∧
      1 ≤ len ∧ len ≤ 32 := by
  unfold virtualInterface at h
  split at h
  · rename_i text n htext hn
    rw [htext, hn, Option.getD_some, Option.getD_some]
    split at h
    · cases h
    rename_i hset
    rw [not_or] at hset
    split at h
    · rename_i ip hip
      split at h
      · cases h
        exact ⟨hip, rfl, Nat.pos_of_ne_zero hset.2, ‹_›⟩
      · cases h
    · cases h
  · cases h

theorem documentValues_of_network {c : HACluster} {n : NodeId}
    (hnet : validateNetwork c = .ok ()) (hn : n ∈ c.nodes.ids)
    (huuid : isUuid c.publicId = true)
    (hpriority : ∃ priority, (c.node n).vrrpPriority = some priority ∧ 1 ≤ priority ∧
      priority ≤ 254) (hgen : 1 ≤ c.keepalivedGeneration)
    (hdigits : c.keepalivedGeneration < 10 ^ maxStrDigits)
    (hiface : ∀ name, (c.node n).networkInterface = some name → name.length ≤ 15) :
    DocumentValues c (c.node n) := by
  obtain ⟨⟨vip, len, hvip, hends⟩, hinterfaces, id, hid, hrange⟩ := validateNetwork_eq_ok hnet
  obtain ⟨hip, rfl, hlen⟩ := virtualInterface_eq_ok hvip
  obtain ⟨priority, hset, hpriority⟩ := hpriority
  refine ⟨huuid, hgen, hdigits, hinterfaces n hn, ?_, ?_, ?_, ⟨vip, hip, hends⟩, hlen⟩
  · cases hname : (c.node n).networkInterface with
    | none => exact Nat.zero_le _
    | some name =>
      rw [Option.getD_some, String.length_toList]
      exact hiface name hname
  · rw [hid, Option.getD_some]
    exact ⟨hrange.1, Nat.lt_succ_of_le hrange.2⟩
  · rw [hset, Option.getD_some]
    exact ⟨hpriority.1, Nat.lt_succ_of_le hpriority.2⟩

/-- **Three levels agree.** What the server renders for a node of a valid network is accepted by the
agent and by the root helper, whether or not the node may preempt. The bound on the generation is
that it can be written as decimal digits at all. -/
theorem rendered_accepted {c : HACluster} {n : NodeId} (hnet : validateNetwork c = .ok ())
    (hn : n ∈ c.nodes.ids) (huuid : isUuid c.publicId = true)
    (hpriority : ∃ priority, (c.node n).vrrpPriority = some priority ∧ 1 ≤ priority ∧
      priority ≤ 254) (hgen : 1 ≤ c.keepalivedGeneration)
    (hdigits : c.keepalivedGeneration < 10 ^ maxStrDigits)
    (hiface : ∀ name, (c.node n).networkInterface = some name → name.length ≤ 15)
    (allowPreemption : Bool) :
    ∃ content, renderKeepalivedConfig c n allowPreemption = .ok content ∧
      validateDesiredConfiguration (keepalivedAction content) = .ok content.toUTF8 ∧
      validateManagedDocument content.toUTF8 = true := by
  have hvalues := documentValues_of_network hnet hn huuid hpriority hgen hdigits
    hiface
  refine ⟨keepalivedContent c (c.node n) allowPreemption, ?_,
    validateDesiredConfiguration_keepalivedContent hvalues allowPreemption,
    validateManagedDocument_keepalivedContent hvalues allowPreemption⟩
  obtain ⟨priority, hset, hrange⟩ := hpriority
  have hallow : ¬(n ∉ c.nodes.ids ∨
      (!(c.node n).vrrpPriority.any fun p ↦ 1 ≤ p ∧ p < 255) = true) := by
    rw [hset, Option.any_some]
    simp only [not_or, not_not, Bool.not_eq_true', decide_eq_false_iff_not]
    exact ⟨hn, hrange.1, Nat.lt_succ_of_le hrange.2⟩
  rw [renderKeepalivedConfig, hnet]
  simp only [bind, Except.bind, pure, Except.pure]
  rw [if_neg hallow]

/-- The sample cluster in one subnet, with a Virtual IP and a generation of a hundred. -/
def officePair : HACluster :=
  { sampleCluster with
    publicId := "0f8fad5b-d9cb-469f-a165-70867728950e"
    virtualIp := some "192.168.1.53", prefixLength := some 24, vrrpRouterId := some 51
    keepalivedGeneration := 100
    nodes := sampleCluster.nodes.mapRows fun n node ↦
      if n = 1 then
        { node with managementHost := some "192.168.1.10", networkInterface := some "eth0"
                    vrrpPriority := some 150 }
      else
        { node with managementHost := some "192.168.1.11", networkInterface := some "enp0s31f6"
                    vrrpPriority := some 100 } }

theorem rendered_accepted_office :
    ∃ content, renderKeepalivedConfig officePair 2 true = .ok content ∧
      validateDesiredConfiguration (keepalivedAction content) = .ok content.toUTF8 ∧
      validateManagedDocument content.toUTF8 = true := by
  have hdigits : officePair.keepalivedGeneration < 10 ^ maxStrDigits :=
    Nat.lt_of_lt_of_le (by decide : 100 < 10 ^ 3) (Nat.pow_le_pow_right (by decide) (by decide))
  have hnet : validateNetwork officePair = .ok () := by decide +kernel
  have hname : (officePair.node 2).networkInterface = some "enp0s31f6" := rfl
  exact rendered_accepted hnet (by decide) (by decide +kernel) ⟨100, rfl, by decide, by decide⟩
    (by decide) hdigits (fun name h ↦ by cases hname.symm.trans h; decide) true

end Acceptance

end Kaya.HA
