import Kaya.HA.Keepalived
import Kaya.Library.Regex
import Kaya.Library.TextPattern

/-!
# Keepalived documents, from the renderer to the root helper

A rendered configuration is read twice more before it takes effect: by the agent
(`validate_desired_configuration` in `ha_agent/keepalived_runtime.py`, by markers) and by the helper
that runs as root (`validate_managed_document` in `ha_agent/kaya_ha_keepalived_helper.py`, by a line
grammar). The three were written separately.
-/

namespace Kaya.HA

open PyText Regex List

/-! ### The agent -/

/-- `FORBIDDEN_CONFIG_MARKERS`. -/
def forbiddenConfigMarkers : List String := [";", "`", "$", "|", "&&", ">", "<", "include "]

/-- The markers of the fixed structure, each expected once. -/
def requiredMarkers : List String :=
  ["global_defs \x7b", "script_user kaya-ha kaya-ha", "enable_script_security",
    "vrrp_script KAYA_DNS_", "vrrp_instance KAYA_HA_", "state BACKUP", "virtual_router_id ",
    "virtual_ipaddress \x7b",
    "notify_master \"/usr/lib/kaya-ha-agent/kaya_ha_transition.py master ",
    "notify_backup \"/usr/lib/kaya-ha-agent/kaya_ha_transition.py backup ",
    "notify_fault \"/usr/lib/kaya-ha-agent/kaya_ha_transition.py fault "]

/-- First line of a managed document. -/
def managedHeader : String := "# Managed by Kaya High Availability. Do not edit.\n"

/-- What the agent reads of a `KEEPALIVED_APPLY` action. A configuration that is no string is
`none`. -/
structure DesiredAction where
  actionType : Option String
  dhcpTransition : Option String
  configuration : Option String
  checksum : Option Digest

/-- `validate_desired_configuration`. -/
def validateDesiredConfiguration (action : DesiredAction) : Except String ByteArray :=
  if action.actionType ≠ some "KEEPALIVED_APPLY" ∨ action.dhcpTransition ≠ some "DISABLED" then
    .error "Unsupported or unsafe desired action."
  else match action.configuration with
  | none => .error "Keepalived configuration is not a valid Kaya-managed document."
  | some content =>
    if ¬managedHeader.toList <+: content.toList ∨ content.utf8ByteSize > 32 * 1024 then
      .error "Keepalived configuration is not a valid Kaya-managed document."
    else if forbiddenConfigMarkers.any fun marker ↦ marker.toList <:+: content.toList then
      .error "Keepalived configuration contains a forbidden directive or shell marker."
    else if requiredMarkers.any fun marker ↦ count marker.toList content.toList ≠ 1 then
      .error "Keepalived configuration does not match the fixed Kaya structure."
    else if some (Digest.keepalivedConfig content) ≠ action.checksum then
      .error "Keepalived configuration checksum verification failed."
    else .ok content.toUTF8

/-! ### The root helper -/

/-- `[0-9]`. -/
def digit : Re := cls (charRange '0' '9')

/-- `[1-9][0-9]*`. -/
def positive : Re := cls (charRange '1' '9') * digit.star

/-- `[A-F0-9]{8}`. -/
def tagRe : Re := repeated (cls (charRange 'A' 'F' ++ charRange '0' '9')) 8 8

/-- `(?:master|backup|fault)`. -/
def roleRe : Re := anyOf [lit "master", lit "backup", lit "fault"]

/-- `(?:[1-9]|[1-9][0-9]|1[0-9]{2}|2[0-4][0-9]|25[0-x])`, the last digit up to `last`. -/
def byteRe (last : Char) : Re :=
  anyOf [cls (charRange '1' '9'), cls (charRange '1' '9') * digit, lit "1" * repeated digit 2 2,
    lit "2" * (cls (charRange '0' '4') * digit), lit "25" * cls (charRange '0' last)]

/-- `SAFE_LINES`. -/
def safeLines : List Re :=
  [lit "# Managed by Kaya High Availability. Do not edit.",
    lit "# cluster=" * (repeated (cls (charRange '0' '9' ++ charRange 'a' 'f' ++ ['-'])) 36 36 *
      (lit " generation=" * positive)), lit "global_defs \x7b", lit "script_user kaya-ha kaya-ha",
    lit "enable_script_security", lit "vrrp_script KAYA_DNS_" * (tagRe * lit " \x7b"),
    lit "vrrp_instance KAYA_HA_" * (tagRe * lit " \x7b"),
    lit "script \"/usr/lib/kaya-ha-agent/check-pihole-dns\"",
    anyOf [lit "interval", lit "timeout", lit "fall", lit "rise", lit "advert_int",
      lit "preempt_delay"] * (lit " " * positive), lit "state BACKUP", lit "nopreempt",
    lit "interface " * repeated (cls (charRange 'A' 'Z' ++ charRange 'a' 'z' ++
      charRange '0' '9' ++ ['_', '.', ':', '-'])) 1 80, lit "virtual_router_id " * byteRe '5',
    lit "priority " * byteRe '4', anyOf [lit "virtual_ipaddress", lit "track_script"] * lit " \x7b",
    repeated digit 1 3 * ((lit "." * repeated digit 1 3) ^ 3 * (lit "/" *
      anyOf [cls (charRange '1' '9'), cls ['1', '2'] * digit, lit "3" * cls (charRange '0' '2')])),
    lit "KAYA_DNS_" * tagRe,
    lit "notify_" * (roleRe * (lit " \"/usr/lib/kaya-ha-agent/kaya_ha_transition.py " *
      (roleRe * (lit " " * (positive * lit "\""))))), lit "\x7d"]

/-- `line.startswith(text)`. -/
def startsWith (text : String) (line : List Char) : Bool := text.toList <+: line

/-- The lines that name the Virtual IP. -/
def vipLines (lines : List (List Char)) : List (List Char) :=
  lines.filter fun line ↦
    decide ('/' ∈ line) && !(startsWith "script " line || startsWith "notify_" line)

/-- `validate_managed_document`. -/
def validateManagedDocument (content : ByteArray) : Bool :=
  match String.fromUTF8? content with
  | none => false
  | some text =>
    let lines := strippedLines text.toList
    if lines = [] ∨ lines.any (fun line ↦ !safeLines.any (fullmatch · line)) then false
    else if lines.countP (startsWith "vrrp_instance ") ≠ 1 ∨
        lines.countP (startsWith "vrrp_script ") ≠ 1 then false
    else if lines.count "global_defs \x7b".toList ≠ 1 ∨
        lines.count "script_user kaya-ha kaya-ha".toList ≠ 1 ∨
        lines.count "enable_script_security".toList ≠ 1 then false
    else if ["master", "backup", "fault"].any fun role ↦
        lines.countP (startsWith ("notify_" ++ role ++ " ")) ≠ 1 then false
    else match vipLines lines with
    | [line] => (IPv4.interface (String.ofList line)).any fun (ip, len) ↦
        ip ≠ IPv4.networkAddress ip len ∧ ip ≠ IPv4.broadcastAddress ip len
    | _ => false

/-! ### The rendered document as lines with holes -/

/-- The variable parts of a rendered document. -/
inductive DocumentField
  | cluster
  | generation
  | tag
  | interface
  | router
  | priority
  | address
  | prefixLength
  deriving DecidableEq

namespace DocumentField

/-- The values `keepalivedContent` puts in. -/
def value (c : HACluster) (node : HANode) : DocumentField → List Char
  | cluster => c.publicId.toList
  | generation => (toString c.keepalivedGeneration).toList
  | tag => (clusterTag c).toList
  | interface => (node.networkInterface.getD "").toList
  | router => (toString (c.vrrpRouterId.getD 0)).toList
  | priority => (toString (node.vrrpPriority.getD 0)).toList
  | address => (c.virtualIp.getD "").toList
  | prefixLength => (toString (c.prefixLength.getD 0)).toList

/-- The characters a value is made of. -/
def alphabet : DocumentField → Char → Bool
  | cluster, c => c.isDigit || ('a' ≤ c && c ≤ 'f') || c == '-'
  | tag, c => c.isDigit || ('A' ≤ c && c ≤ 'F')
  | interface, c => c.isAlphanum || ['_', '.', ':', '-'].contains c
  | address, c => c.isDigit || c == '.'
  | _, c => c.isDigit

/-- CPython writes an integer of at most this many digits. -/
def maxStrDigits : ℕ := 4300

/-- The length of the longest value. -/
def bound : DocumentField → ℕ
  | cluster => 36
  | generation => maxStrDigits
  | tag => 8
  | interface => 15
  | router => 3
  | priority => 3
  | address => 15
  | prefixLength => 2

end DocumentField

section Layout

open Template DocumentField

/-- A line of the document that calls the transition hook. -/
def hookLine (role : String) : Template DocumentField :=
  text ("notify_" ++ role ++ " \"/usr/lib/kaya-ha-agent/kaya_ha_transition.py " ++ role ++ " ") ++
    hole generation ++ text "\""

/-- The lines of a rendered document, with their indentation. -/
def documentLines (allowPreemption : Bool) : List (ℕ × Template DocumentField) :=
  [(0, text "# Managed by Kaya High Availability. Do not edit."),
    (0, text "# cluster=" ++ hole cluster ++ text " generation=" ++ hole generation),
    (0, text "global_defs \x7b"), (4, text "script_user kaya-ha kaya-ha"),
    (4, text "enable_script_security"), (0, text "\x7d"), (0, []),
    (0, text "vrrp_script KAYA_DNS_" ++ hole tag ++ text " \x7b"),
    (4, text "script \"/usr/lib/kaya-ha-agent/check-pihole-dns\""), (4, text "interval 2"),
    (4, text "timeout 2"), (4, text "fall 3"), (4, text "rise 3"), (0, text "\x7d"), (0, []),
    (0, text "vrrp_instance KAYA_HA_" ++ hole tag ++ text " \x7b"), (4, text "state BACKUP"),
    (4, text "interface " ++ hole interface), (4, text "virtual_router_id " ++ hole router),
    (4, text "priority " ++ hole priority), (4, text "advert_int 1"),
    (4, text (if allowPreemption then "preempt_delay 3" else "nopreempt")), (0, []),
    (4, text "virtual_ipaddress \x7b"), (8, hole address ++ text "/" ++ hole prefixLength),
    (4, text "\x7d"), (0, []), (4, text "track_script \x7b"), (8, text "KAYA_DNS_" ++ hole tag),
    (4, text "\x7d"), (0, []), (4, hookLine "master"), (4, hookLine "backup"),
    (4, hookLine "fault"), (0, text "\x7d")]

/-- The rendered text as the source assembles it, with its holes. -/
def keepalivedTemplate (allowPreemption : Bool) : Template DocumentField :=
  text "# Managed by Kaya High Availability. Do not edit.\n" ++
  (text "# cluster=" ++ hole cluster ++ text " generation=" ++ hole generation ++ text "\n") ++
  text "global_defs \x7b\n    script_user kaya-ha kaya-ha\n    enable_script_security\n\x7d\n\n" ++
  (text "vrrp_script KAYA_DNS_" ++ hole tag ++ text " \x7b\n") ++
  text "    script \"/usr/lib/kaya-ha-agent/check-pihole-dns\"\n" ++
  text "    interval 2\n    timeout 2\n    fall 3\n    rise 3\n\x7d\n\n" ++
  (text "vrrp_instance KAYA_HA_" ++ hole tag ++ text " \x7b\n") ++ text "    state BACKUP\n" ++
  (text "    interface " ++ hole interface ++ text "\n") ++
  (text "    virtual_router_id " ++ hole router ++ text "\n") ++
  (text "    priority " ++ hole priority ++ text "\n") ++ (text "    advert_int 1\n" ++
    text (if allowPreemption then "    preempt_delay 3\n" else "    nopreempt\n") ++ text "\n") ++
  text "    virtual_ipaddress \x7b\n" ++
  (text "        " ++ hole address ++ text "/" ++ hole prefixLength ++ text "\n") ++
  text "    \x7d\n\n    track_script \x7b\n" ++
  (text "        KAYA_DNS_" ++ hole tag ++ text "\n") ++ text "    \x7d\n\n" ++
  (text "    notify_master \"" ++ text "/usr/lib/kaya-ha-agent/kaya_ha_transition.py" ++
    text " master " ++ hole generation ++ text "\"\n") ++
  (text "    notify_backup \"" ++ text "/usr/lib/kaya-ha-agent/kaya_ha_transition.py" ++
    text " backup " ++ hole generation ++ text "\"\n") ++
  (text "    notify_fault \"" ++ text "/usr/lib/kaya-ha-agent/kaya_ha_transition.py" ++
    text " fault " ++ hole generation ++ text "\"\n") ++ text "\x7d\n"

theorem keepalivedTemplate_eq (allowPreemption : Bool) :
    keepalivedTemplate allowPreemption = layout (documentLines allowPreemption) := by
  unfold keepalivedTemplate documentLines
  simp only [hookLine, text, String.reduceAppend, -String.reduceToList]
  cases allowPreemption
  all_goals
    simp only [Bool.false_eq_true, if_false, if_true, -String.reduceToList]
    repeat rw [String.toList_ofList]
    decide +kernel

theorem toList_keepalivedContent (c : HACluster) (node : HANode) (allowPreemption : Bool) :
    (keepalivedContent c node allowPreemption).toList =
      fill (value c node) (keepalivedTemplate allowPreemption) := by
  have hstring (s : String) : toString s = s := rfl
  unfold keepalivedContent keepalivedTemplate
  simp only [fill_append, fill_text, fill_hole, value, hstring, String.toList_append,
    -String.reduceToList, -String.reduceAppend]

/-- The document up to its variable parts. -/
def documentPattern (allowPreemption : Bool) : Pattern :=
  pattern alphabet bound (layout (documentLines allowPreemption))

end Layout

/-! ### The values -/

section Fields

open Template DocumentField

/-- `str(uuid.uuid4())`: groups of lower-case hexadecimal digits, joined by hyphens. -/
def isUuid (text : String) : Bool :=
  let parts := text.toList.splitOn '-'
  parts.map List.length == [8, 4, 4, 4, 12] &&
    parts.all fun part ↦ part.all fun c ↦ c.isDigit || ('a' ≤ c && c ≤ 'f')

/-- What the cluster and the node have to say for the document to be read back. -/
structure DocumentValues (c : HACluster) (node : HANode) : Prop where
  uuid : isUuid c.publicId = true
  generation_pos : 1 ≤ c.keepalivedGeneration
  generation_lt : c.keepalivedGeneration < 10 ^ maxStrDigits
  interface : validInterface node.networkInterface = true
  interface_le : (node.networkInterface.getD "").toList.length ≤ 15
  router : 1 ≤ c.vrrpRouterId.getD 0 ∧ c.vrrpRouterId.getD 0 < 256
  priority : 1 ≤ node.vrrpPriority.getD 0 ∧ node.vrrpPriority.getD 0 < 255
  vip : ∃ ip, IPv4.address (c.virtualIp.getD "") = some ip ∧
    ip ≠ IPv4.networkAddress ip (c.prefixLength.getD 0) ∧
    ip ≠ IPv4.broadcastAddress ip (c.prefixLength.getD 0)
  prefixLength : 1 ≤ c.prefixLength.getD 0 ∧ c.prefixLength.getD 0 ≤ 32

variable {text : String} {x : Char}

theorem exists_of_isUuid (h : isUuid text = true) :
    ∃ a b c d e : List Char, text.toList = a ++ '-' :: (b ++ '-' :: (c ++ '-' :: (d ++ '-' :: e))) ∧
      [a, b, c, d, e].map List.length = [8, 4, 4, 4, 12] ∧
      ∀ part ∈ [a, b, c, d, e], ∀ x ∈ part, x.isDigit = true ∨ 'a' ≤ x ∧ x ≤ 'f' := by
  simp only [isUuid, Bool.and_eq_true, beq_iff_eq] at h
  obtain ⟨hlens, hchars⟩ := h
  have hjoin := @intercalate_splitOn _ text.toList _ _ '-'
  generalize text.toList.splitOn '-' = parts at hlens hchars hjoin
  rcases parts with _ | ⟨a, _ | ⟨b, _ | ⟨c, _ | ⟨d, _ | ⟨e, _ | ⟨f, rest⟩⟩⟩⟩⟩⟩ <;>
    simp only [map_cons, map_nil, cons.injEq, reduceCtorEq, and_false, nil_eq] at hlens
  refine ⟨a, b, c, d, e, by simpa using hjoin.symm, ?_, fun part hpart x hx ↦ ?_⟩
  · simpa using hlens
  · have hx := all_eq_true.mp (all_eq_true.mp hchars part hpart) x hx
    simpa only [Bool.or_eq_true, Bool.and_eq_true, decide_eq_true_eq] using hx

/-- The upper-case form of a lower-case hexadecimal digit. -/
theorem toUpper_hex (h : x.isDigit = true ∨ 'a' ≤ x ∧ x ≤ 'f') :
    x.toUpper.isDigit = true ∨ 'A' ≤ x.toUpper ∧ x.toUpper ≤ 'F' := by
  have hmem : x ∈ charRange '0' '9' ++ charRange 'a' 'f' := by
    rcases h with hdigit | ⟨ha, hf⟩
    · exact mem_append_left _ (mem_charRange_of_isDigit hdigit)
    · exact mem_append_right _ (mem_charRange ha hf)
  -- the sixteen digits are run through, and not every character
  have hall : (charRange '0' '9' ++ charRange 'a' 'f').all (fun y ↦
      y.toUpper.isDigit || decide ('A' ≤ y.toUpper) && decide (y.toUpper ≤ 'F')) = true := by
    decide
  have hx := all_eq_true.mp hall x hmem
  simpa only [Bool.or_eq_true, Bool.and_eq_true, decide_eq_true_eq] using hx

theorem cluster_of_isUuid (h : isUuid text = true) :
    text.toList.length = 36 ∧
      ∀ x ∈ text.toList, x.isDigit = true ∨ ('a' ≤ x ∧ x ≤ 'f') ∨ x = '-' := by
  obtain ⟨a, b, c, d, e, htext, hlens, hchars⟩ := exists_of_isUuid h
  simp only [map_cons, map_nil, cons.injEq, and_true] at hlens
  simp only [mem_cons, not_mem_nil, or_false, forall_eq_or_imp, forall_eq] at hchars
  rw [htext]
  constructor
  · simp only [length_append, length_cons]
    omega
  · simp only [mem_append, mem_cons]
    grind

theorem tag_of_isUuid {c : HACluster} (h : isUuid c.publicId = true) :
    (clusterTag c).toList.length = 8 ∧
      ∀ x ∈ (clusterTag c).toList, x.isDigit = true ∨ 'A' ≤ x ∧ x ≤ 'F' := by
  obtain ⟨a, b, _, _, _, htext, hlens, hchars⟩ := exists_of_isUuid h
  have ha : a.length = 8 := (cons.inj hlens).1
  have hhex := hchars a (mem_cons_self ..)
  have hhyphen : ∀ x ∈ a, decide (x ≠ '-') = true := by
    intro x hx
    refine decide_eq_true ?_
    rintro rfl
    exact absurd (hhex _ hx) (by decide)
  have htake : (c.publicId.toList.filter (· ≠ '-')).take 8 = a := by
    rw [htext, filter_append, filter_eq_self.mpr hhyphen, take_append_of_le_length
      (Nat.le_of_eq ha.symm), take_of_length_le (Nat.le_of_eq ha)]
  rw [clusterTag, htake, String.toList_ofList, length_map]
  refine ⟨ha, fun x hx ↦ ?_⟩
  obtain ⟨y, hy, rfl⟩ := mem_map.mp hx
  exact toUpper_hex (hhex y hy)

theorem toList_toString (n : ℕ) : (toString n).toList = Nat.toDigits 10 n := Nat.toList_repr

theorem isDigit_toString {n : ℕ} (hx : x ∈ (toString n).toList) : x.isDigit = true :=
  Nat.isDigit_of_mem_toDigits (by decide) (by decide) (toList_toString n ▸ hx)

theorem length_toString_le {n k : ℕ} (hk : 0 < k) (h : n < 10 ^ k) :
    (toString n).toList.length ≤ k := by
  rw [toList_toString]
  exact (Nat.length_toDigits_le_iff (by decide) hk).mpr h

theorem isSpace_of_visible (hx : 33 ≤ x.toNat ∧ x.toNat ≤ 126) : isSpace x = false := by
  simp only [isSpace, Bool.or_eq_false_iff, Bool.and_eq_false_iff, decide_eq_false_iff_not,
    beq_eq_false_iff_ne]
  omega

/-- The values are made of visible ASCII characters. -/
theorem visible_of_alphabet {f : DocumentField} (hx : alphabet f x = true) :
    33 ≤ x.toNat ∧ x.toNat ≤ 126 := by
  have hdigit (h : x.isDigit = true) : 33 ≤ x.toNat ∧ x.toNat ≤ 126 := by
    have hrange := Char.isDigit_iff_toNat.mp h
    exact ⟨le_trans (by decide) hrange.1, le_trans hrange.2 (by decide)⟩
  have hletter {first last : Char} (hle : first ≤ x ∧ x ≤ last) (hfirst : 33 ≤ first.toNat)
      (hlast : last.toNat ≤ 126) : 33 ≤ x.toNat ∧ x.toNat ≤ 126 :=
    ⟨le_trans hfirst hle.1, le_trans hle.2 hlast⟩
  cases f <;> simp only [alphabet, Bool.or_eq_true, Bool.and_eq_true, decide_eq_true_eq,
    beq_iff_eq] at hx
  case cluster =>
    obtain (hx | hx) | rfl := hx
    · exact hdigit hx
    · exact hletter hx (by decide) (by decide)
    · decide
  case tag =>
    obtain hx | hx := hx
    · exact hdigit hx
    · exact hletter hx (by decide) (by decide)
  case interface =>
    obtain hx | hx := hx
    · obtain hx | hx | hx := isAlphanum_cases hx
      · exact @hletter 'A' 'Z' hx (by decide) (by decide)
      · exact @hletter 'a' 'z' hx (by decide) (by decide)
      · exact hdigit hx
    · have hx := contains_iff_mem.mp hx
      simp only [mem_cons, not_mem_nil, or_false] at hx
      obtain rfl | rfl | rfl | rfl := hx <;> decide
  case address =>
    obtain hx | rfl := hx
    · exact hdigit hx
    · decide
  all_goals exact hdigit hx

section Values

variable {c : HACluster} {node : HANode} (h : DocumentValues c node)
include h

theorem interface_chars : (value c node interface).length ≠ 0 ∧
    ∀ x ∈ value c node interface, x.isAlphanum = true ∨ x ∈ ['_', '.', ':', '-'] := by
  have hvalid := h.interface
  rw [value]
  cases hname : node.networkInterface with
  | none =>
    rw [hname] at hvalid
    cases hvalid
  | some text =>
    rw [hname] at hvalid
    simp only [validInterface, decide_eq_true_eq] at hvalid
    refine ⟨Nat.ne_of_gt hvalid.1, fun x hx ↦ ?_⟩
    have hx := all_eq_true.mp hvalid.2.2 x hx
    rw [Bool.or_eq_true, contains_iff_mem] at hx
    exact hx

theorem alphabet_value (f : DocumentField) : ∀ x ∈ value c node f, alphabet f x = true := by
  intro x hx
  cases f with
  | cluster =>
    have hx := (cluster_of_isUuid h.uuid).2 x hx
    simpa [alphabet, or_assoc] using hx
  | tag =>
    have hx := (tag_of_isUuid h.uuid).2 x hx
    simpa [alphabet] using hx
  | interface =>
    have hx := (interface_chars h).2 x hx
    simpa [alphabet] using hx
  | address =>
    obtain ⟨ip, hip, -⟩ := h.vip
    have hx := IPv4.mem_of_address hip hx
    simpa [alphabet] using hx
  | _ => exact isDigit_toString hx

theorem length_value_le (f : DocumentField) : (value c node f).length ≤ bound f := by
  cases f with
  | cluster => exact (cluster_of_isUuid h.uuid).1.le
  | tag => exact (tag_of_isUuid h.uuid).1.le
  | interface => exact h.interface_le
  | address =>
    obtain ⟨ip, hip, -⟩ := h.vip
    obtain ⟨p, q, r, s, htext, hparts⟩ := IPv4.address_eq_some hip
    simp only [mem_cons, not_mem_nil, or_false, forall_eq_or_imp, forall_eq] at hparts
    rw [value, htext, bound]
    simp only [length_append, length_cons]
    omega
  | generation =>
    have hle := @length_toString_le _ maxStrDigits (by decide) h.generation_lt
    exact hle
  | router => exact length_toString_le (by decide) (Nat.lt_of_lt_of_le h.router.2 (by decide))
  | priority => exact length_toString_le (by decide) (Nat.lt_of_lt_of_le h.priority.2 (by decide))
  | prefixLength =>
    exact length_toString_le (by decide) (Nat.lt_of_le_of_lt h.prefixLength.2 (by decide))

theorem words_value : Words (value c node) := by
  intro f
  constructor
  · intro hnil
    have hlen : (value c node f).length = 0 := by rw [hnil]; rfl
    cases f with
    | cluster => exact absurd hlen (by rw [value, (cluster_of_isUuid h.uuid).1]; decide)
    | tag => exact absurd hlen (by rw [value, (tag_of_isUuid h.uuid).1]; decide)
    | interface => exact (interface_chars h).1 hlen
    | address =>
      obtain ⟨ip, hip, -⟩ := h.vip
      obtain ⟨p, q, r, s, htext, -⟩ := IPv4.address_eq_some hip
      rw [value, htext] at hlen
      simp at hlen
    | _ => exact Nat.toDigits_ne_nil ((toList_toString _).symm.trans hnil)
  · intro x hx
    exact isSpace_of_visible (visible_of_alphabet (alphabet_value h f x hx))

end Values

end Fields

/-! ### The lines against the grammar -/

section Grammar

theorem fullmatch_positive {n : ℕ} (h : 1 ≤ n) : fullmatch positive (Nat.toDigits 10 n) = true := by
  obtain ⟨c, cs, hcons, hc, hcs⟩ := toDigits_eq_cons h
  rw [hcons]
  exact fullmatch_mul (fullmatch_cls hc) (fullmatch_star hcs)

/-- The alternatives of `byteRe` by the number of digits. -/
def byteDigits (last : Char) : List Char → Bool
  | [a] => (charRange '1' '9').contains a
  | [a, b] => (charRange '1' '9').contains a && (charRange '0' '9').contains b
  | [a, b, c] => ((a == '1' && (charRange '0' '9').contains b ||
      a == '2' && (charRange '0' '4').contains b) && (charRange '0' '9').contains c) ||
      a == '2' && b == '5' && (charRange '0' last).contains c
  | _ => false

theorem fullmatch_byteRe {last : Char} {cs : List Char} (h : byteDigits last cs = true) :
    fullmatch (byteRe last) cs = true := by
  rcases cs with _ | ⟨a, _ | ⟨b, _ | ⟨c, _ | ⟨d, cs⟩⟩⟩⟩
  · cases h
  · rw [byteDigits, contains_iff_mem] at h
    exact fullmatch_anyOf (mem_of_getElem? (i := 0) rfl) (fullmatch_cls h)
  · rw [byteDigits, Bool.and_eq_true, contains_iff_mem, contains_iff_mem] at h
    exact fullmatch_anyOf (mem_of_getElem? (i := 1) rfl)
      (fullmatch_mul (fullmatch_cls h.1) (fullmatch_cls h.2))
  · simp only [byteDigits, Bool.or_eq_true, Bool.and_eq_true, beq_iff_eq, contains_iff_mem] at h
    rcases h with ⟨⟨rfl, hb⟩ | ⟨rfl, hb⟩, hc⟩ | ⟨⟨rfl, rfl⟩, hc⟩
    · refine fullmatch_anyOf (mem_of_getElem? (i := 2) rfl)
        (fullmatch_mul (fullmatch_lit "1") (fullmatch_repeated (le_refl 2) (le_refl 2) ?_))
      intro x hx
      rcases mem_cons.mp hx with rfl | hx
      · exact hb
      · rwa [mem_singleton.mp hx]
    · exact fullmatch_anyOf (mem_of_getElem? (i := 3) rfl) (fullmatch_mul (fullmatch_lit "2")
        (fullmatch_mul (fullmatch_cls hb) (fullmatch_cls hc)))
    · exact fullmatch_anyOf (mem_of_getElem? (i := 4) rfl)
        (fullmatch_mul (fullmatch_lit "25") (fullmatch_cls hc))
  · cases h

theorem byteDigits_router : ∀ n < 256, 1 ≤ n → byteDigits '5' (Nat.toDigits 10 n) = true := by
  decide +kernel

theorem byteDigits_priority : ∀ n < 255, 1 ≤ n → byteDigits '4' (Nat.toDigits 10 n) = true := by
  decide +kernel

end Grammar

end Kaya.HA
