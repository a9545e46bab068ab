import Kaya.HA.FailoverHelper

/-!
# What a failed promotion leaves behind

A promotion that fails after its backup cleans up in two steps: DHCP is disabled, and the old leases
are written back. The steps stand in one block, so an error of the first one skips the second.

`RestoresLeases` is when that makes no difference to the lease file. Disabling is the first step, so
`dhcp.active` is true afterwards only where the disable command was not carried out.
-/

namespace Kaya.HA

open Option

/-! ### One call of `_set_dhcp` -/

section SetDhcp

variable {enabled : Bool} {call : SetDhcpCall} {node : HelperNode}

/-- A command of the look raises. -/
def Look.Raises (look : Look) : Prop := look.config = .raises ∨ look.service = none

instance (look : Look) : Decidable look.Raises :=
  inferInstanceAs (Decidable (look.config = .raises ∨ look.service = none))

/-- `_set_dhcp(enabled)` returns: the status can be asked for, the command succeeds, the setting reads
back, and the service settles within twenty looks. -/
structure SetDhcpCall.Returns (call : SetDhcpCall) (enabled : Bool) : Prop where
  before : ¬ call.before.Raises
  returncode : call.returncode = some 0
  immediate : call.immediate = .readable
  leaves : call.leaves = enabled
  settles : (waitForDhcp enabled enabled call.looks 20).toBool = true

instance (call : SetDhcpCall) (enabled : Bool) : Decidable (call.Returns enabled) :=
  decidable_of_iff (¬ call.before.Raises ∧ call.returncode = some 0 ∧ call.immediate = .readable ∧
      call.leaves = enabled ∧ (waitForDhcp enabled enabled call.looks 20).toBool = true)
    ⟨fun ⟨h₁, h₂, h₃, h₄, h₅⟩ ↦ ⟨h₁, h₂, h₃, h₄, h₅⟩, fun ⟨h₁, h₂, h₃, h₄, h₅⟩ ↦ ⟨h₁, h₂, h₃, h₄, h₅⟩⟩

/-- The disable command is carried out. -/
structure SetDhcpCall.Disables (call : SetDhcpCall) : Prop where
  before : ¬ call.before.Raises
  returncode : call.returncode = some 0
  leaves : call.leaves = false

theorem dhcpStatus_eq_ok {look : Look} (h : ¬ look.Raises) (active : Bool) :
    ∃ status, dhcpStatus active look = .ok status := by
  obtain ⟨hconfig, hservice⟩ := not_or.1 h
  obtain ⟨returncode, hreturncode⟩ := ne_none_iff_exists'.1 hservice
  unfold dhcpStatus
  rw [hreturncode]
  cases hread : look.config with
  | raises => exact absurd hread hconfig
  | unreadable => exact ⟨_, rfl⟩
  | readable => exact ⟨_, rfl⟩

theorem dhcpStatus_eq_error {look : Look} (h : look.Raises) (active : Bool) :
    ∃ message, dhcpStatus active look = .error message := by
  unfold dhcpStatus
  rcases h with hconfig | hservice
  · rw [hconfig]
    exact ⟨_, rfl⟩
  · rw [hservice]
    cases look.config with
    | raises => exact ⟨_, rfl⟩
    | unreadable => exact ⟨_, rfl⟩
    | readable => exact ⟨_, rfl⟩

/-- What a call leaves: the setting of its command, unless the command is never run. -/
theorem setDhcp_node : (setDhcp enabled call node).2 =
    if call.before.Raises then node else { node with dhcpActive := call.leaves } := by
  by_cases hbef : call.before.Raises
  · obtain ⟨message, hstat⟩ := dhcpStatus_eq_error hbef node.dhcpActive
    rw [setDhcp, hstat, if_pos hbef]
  · obtain ⟨status, hstat⟩ := dhcpStatus_eq_ok hbef node.dhcpActive
    rw [setDhcp, hstat, if_neg hbef]
    dsimp only
    cases call.returncode with
    | none => rfl
    | some returncode =>
      cases call.immediate with
      | raises => rfl
      | unreadable =>
        dsimp only [dhcpActiveRead]
        split
        · rfl
        · rfl
      | readable =>
        dsimp only [dhcpActiveRead]
        split
        · rfl
        · split
          · rfl
          · rfl

@[simp] theorem setDhcp_leases : (setDhcp enabled call node).2.leases = node.leases := by
  rw [setDhcp_node]
  split
  · rfl
  · rfl

/-- When a call returns. -/
theorem setDhcp_toBool_iff :
    (setDhcp enabled call node).1.toBool = true ↔ call.Returns enabled := by
  by_cases hbef : call.before.Raises
  · obtain ⟨message, hstat⟩ := dhcpStatus_eq_error hbef node.dhcpActive
    rw [setDhcp, hstat]
    exact ⟨nofun, fun h ↦ absurd hbef h.before⟩
  · obtain ⟨status, hstat⟩ := dhcpStatus_eq_ok hbef node.dhcpActive
    rw [setDhcp, hstat]
    dsimp only
    cases hreturncode : call.returncode with
    | none => exact ⟨nofun, fun h ↦ nomatch hreturncode.symm.trans h.returncode⟩
    | some returncode =>
      cases himmediate : call.immediate with
      | raises => exact ⟨nofun, fun h ↦ nomatch himmediate.symm.trans h.immediate⟩
      | unreadable =>
        refine ⟨fun h ↦ ?_, fun h ↦ nomatch himmediate.symm.trans h.immediate⟩
        dsimp only [dhcpActiveRead] at h
        split at h
        · cases h
        · rw [if_pos nofun] at h
          cases h
      | readable =>
        dsimp only [dhcpActiveRead]
        by_cases hzero : returncode = 0
        · rw [if_neg (not_not.2 hzero)]
          by_cases hleaves : call.leaves = enabled
          · rw [if_neg (by rw [hleaves]; exact not_not.2 rfl), hleaves]
            exact ⟨fun h ↦ ⟨hbef, hzero ▸ hreturncode, himmediate, hleaves, h⟩,
              fun h ↦ h.settles⟩
          · rw [if_pos (fun h ↦ hleaves (some.inj h))]
            exact ⟨nofun, fun h ↦ absurd h.leaves hleaves⟩
        · rw [if_pos hzero]
          exact ⟨nofun, fun h ↦ absurd (some.inj (hreturncode.symm.trans h.returncode)) hzero⟩

end SetDhcp

/-! ### The backup -/

/-- A lease file that is read back as it is: UTF-8 text without carriage returns. -/
def ReadsBack (content : ByteArray) : Prop :=
  ∃ text, String.fromUTF8? content = some text ∧ '\r' ∉ text.toList

theorem toUTF8_of_fromUTF8? {content : ByteArray} {text : String}
    (h : String.fromUTF8? content = some text) : text.toUTF8 = content := by
  rw [String.fromUTF8?] at h
  split at h
  · rw [← some.inj h]
    rfl
  · cases h

theorem backupText_eq_self_iff {content : ByteArray} :
    backupText content = some content ↔ ReadsBack content := by
  rw [backupText, map_eq_some_iff]
  refine exists_congr fun text ↦ and_congr_right fun htext ↦ ?_
  have hcont := toUTF8_of_fromUTF8? htext
  rw [← PyText.universalNewlines_eq_self_iff]
  constructor
  · intro h
    have hsame : String.ofList (PyText.universalNewlines text.toList) = text := by
      rw [← hcont] at h
      exact String.toByteArray_inj.1 h
    rw [← String.toList_ofList (l := PyText.universalNewlines text.toList), hsame]
  · intro h
    rw [h, String.ofList_toList, hcont]

/-! ### The attempt and the clean-up -/

section Promotion

variable {calls : HelperCalls} {generation : ℕ} {automatic : Bool} {node : HelperNode}

/-- The new leases, if the attempt gets so far as to write them. -/
def writtenLeases (calls : HelperCalls) (automatic : Bool) (node : HelperNode) :
    Option ByteArray :=
  match newLeases calls automatic node with
  | .ok (some content) => if calls.write then some content else none
  | _ => none

theorem stageLeases_leases :
    (stageLeases calls automatic node).2.leases =
      (writtenLeases calls automatic node).getD node.leases := by
  unfold stageLeases writtenLeases
  rcases newLeases calls automatic node with message | - | content
  · rfl
  · rfl
  · dsimp only [writeLeases]
    split
    · rfl
    · rfl

theorem activate_leases : (activate calls generation automatic node).2.leases = node.leases := by
  have hset : (setDhcp true calls.set node).2.leases = node.leases := setDhcp_leases
  unfold activate
  rcases hcall : setDhcp true calls.set node with ⟨message | status, after⟩
  · rw [hcall] at hset
    exact hset
  · rw [hcall] at hset
    dsimp only
    cases waitForDns calls.probes 10 with
    | error message => exact hset
    | ok _ =>
      rcases fenceHolds generation automatic calls.fenceAfter with message | - | -
      · exact hset
      · have hdisable : (setDhcp false calls.fenceDisable after).2.leases = after.leases :=
          setDhcp_leases
        rcases hfence : setDhcp false calls.fenceDisable after with ⟨message | status, disabled⟩
        · rw [hfence] at hdisable
          exact hdisable.trans hset
        · rw [hfence] at hdisable
          exact hdisable.trans hset
      · exact hset

/-- The lease file after the attempt. -/
theorem attemptPromotion_leases :
    (attemptPromotion calls generation automatic node).2.leases =
      (writtenLeases calls automatic node).getD node.leases := by
  have hstage := @stageLeases_leases calls automatic node
  unfold attemptPromotion
  rcases hstg : stageLeases calls automatic node with ⟨message | done, staged⟩
  · rw [hstg] at hstage
    exact hstage
  · rw [hstg] at hstage
    exact activate_leases.trans hstage

/-- The lease file after the clean-up. -/
theorem cleanUp_leases {backup : ByteArray} (hrestore : calls.restore = true) :
    (cleanUp calls backup node).leases =
      if calls.disable.Returns false ∧ calls.readBack = true then
        (backupText backup).getD node.leases
      else node.leases := by
  have hset : (setDhcp false calls.disable node).2.leases = node.leases := setDhcp_leases
  have hreturns := @setDhcp_toBool_iff false calls.disable node
  unfold cleanUp
  rcases hcall : setDhcp false calls.disable node with ⟨message | status, after⟩
  · rw [hcall] at hset hreturns
    have hfails : ¬ (calls.disable.Returns false ∧ calls.readBack = true) :=
      fun h ↦ nomatch hreturns.2 h.1
    rw [if_neg hfails]
    exact hset
  · rw [hcall] at hset hreturns
    have hdone : calls.disable.Returns false := hreturns.1 rfl
    by_cases hread : calls.readBack = true
    · have hboth : calls.disable.Returns false ∧ calls.readBack = true := ⟨hdone, hread⟩
      rw [if_pos hboth, if_pos hread]
      cases backupText backup with
      | none => exact hset
      | some content =>
        show (writeLeases calls.restore content after).2.leases = content
        rw [hrestore]
        rfl
    · have hneither : ¬ (calls.disable.Returns false ∧ calls.readBack = true) :=
        fun h ↦ hread h.2
      rw [if_neg hneither, if_neg hread]
      exact hset

/-- After the clean-up DHCP is configured only if the disable command was not carried out. -/
theorem cleanUp_dhcpActive {backup : ByteArray}
    (h : (cleanUp calls backup node).dhcpActive = true) : ¬ calls.disable.Disables := by
  intro hdisables
  have hset : (setDhcp false calls.disable node).2.dhcpActive = false := by
    rw [setDhcp_node, if_neg hdisables.before]
    exact hdisables.leaves
  refine absurd h (Bool.eq_false_iff.1 ?_)
  unfold cleanUp
  rcases hcall : setDhcp false calls.disable node with ⟨message | status, after⟩
  · rw [hcall] at hset
    exact hset
  · rw [hcall] at hset
    dsimp only
    split
    · exact hset
    · unfold writeLeases
      split
      · exact hset
      · exact hset

end Promotion

/-! ### The whole helper -/

/-- A promotion has failed without a trace: the leases are the old ones unless they could not be
written, and `dhcp.active` is not true unless the disable command was not carried out. -/
structure CleanStandby (calls : HelperCalls) (before after : HelperNode) : Prop where
  leases : calls.restore = true → after.leases = before.leases
  released : after.dhcpActive = true → ¬ calls.disable.Disables

/-- Where the old leases can be written, they are: either the clean-up's `_set_dhcp(False)` returns
and the backup can be read, and then it reads back as it is; or the attempt had written nothing
else. -/
def RestoresLeases (calls : HelperCalls) (automatic : Bool) (node : HelperNode) : Prop :=
  calls.restore = true →
    if calls.disable.Returns false ∧ calls.readBack = true ∧ (backupText node.leases).isSome then
      ReadsBack node.leases
    else ∀ content, writtenLeases calls automatic node = some content → content = node.leases

/-- An error after the backup is the error of an attempt, and is followed by the clean-up. -/
theorem helperMain_backedUp {calls : HelperCalls} {command : HelperCommand} {generation : ℕ}
    {node : HelperNode} {error : HelperError}
    (h : (helperMain calls command generation node).1 = .error error)
    (hbacked : error.backedUp = true) :
    (helperMain calls command generation node).2 = cleanUp calls node.leases
      (attemptPromotion calls generation command.automatic node).2 := by
  have hunbacked : ∀ {message : String},
      (Except.error { message } : Except HelperError DhcpStatus) ≠ .error error := by
    rintro message heq
    rw [← Except.error.inj heq] at hbacked
    cases hbacked
  have hplain : ∀ {outcome : Except String DhcpStatus}, unbacked outcome ≠ .error error := by
    rintro (message | status) heq
    · exact hunbacked heq
    · cases heq
  have htransition : helperMain calls command generation node =
      transition calls command generation node := by
    unfold helperMain at h ⊢
    cases hcheck : checkGeneration calls command generation with
    | error message =>
      rw [hcheck] at h
      exact absurd h hunbacked
    | ok _ => rfl
  rw [htransition] at h ⊢
  unfold transition at h ⊢
  by_cases hdemotes : command.demotes = true
  · rw [if_pos hdemotes] at h
    exact absurd h hplain
  rw [if_neg hdemotes] at h ⊢
  rcases hfence : fenceHolds generation command.automatic calls.fenceBefore with message | held
  · rw [hfence] at h
    exact absurd h hunbacked
  cases held with
  | false =>
    rw [hfence] at h
    exact absurd h hunbacked
  | true =>
    rw [hfence] at h
    rcases hscope : configurationOnly calls command with message | only
    · rw [hscope] at h
      exact absurd h hunbacked
    cases only with
    | true =>
      rw [hscope] at h
      exact absurd h hplain
    | false =>
      rw [hscope] at h
      dsimp only [promote] at h ⊢
      by_cases hbackUp : (!calls.backUp) = true
      · rw [if_pos hbackUp] at h
        exact absurd h hunbacked
      rw [if_neg hbackUp] at h ⊢
      rcases hattempt : attemptPromotion calls generation command.automatic node with
        ⟨message | status, attempted⟩
      · rfl
      · rw [hattempt] at h
        cases h

/-- **When a failed promotion leaves a clean standby.** -/
theorem failed_promotion_clean_iff {calls : HelperCalls} {command : HelperCommand} {generation : ℕ}
    {node : HelperNode} {error : HelperError}
    (h : (helperMain calls command generation node).1 = .error error)
    (hbacked : error.backedUp = true) :
    CleanStandby calls node (helperMain calls command generation node).2 ↔
      RestoresLeases calls command.automatic node := by
  rw [helperMain_backedUp h hbacked]
  have hrel := @cleanUp_dhcpActive calls
    (attemptPromotion calls generation command.automatic node).2 node.leases
  have hleases : RestoresLeases calls command.automatic node ↔ (calls.restore = true →
      (cleanUp calls node.leases
        (attemptPromotion calls generation command.automatic node).2).leases = node.leases) := by
    refine forall_congr' fun hrestore ↦ ?_
    rw [cleanUp_leases hrestore, attemptPromotion_leases]
    have hkept : ((writtenLeases calls command.automatic node).getD node.leases = node.leases) ↔
        ∀ content, writtenLeases calls command.automatic node = some content →
          content = node.leases := by
      cases writtenLeases calls command.automatic node with
      | none => simp
      | some content => simp
    by_cases hdone : calls.disable.Returns false ∧ calls.readBack = true
    · rw [if_pos hdone, ← backupText_eq_self_iff]
      cases hbackup : backupText node.leases with
      | none => rw [if_neg (fun h ↦ nomatch h.2.2), getD_none, hkept]
      | some content => rw [if_pos ⟨hdone.1, hdone.2, rfl⟩, getD_some, some_inj]
    · rw [if_neg hdone, if_neg (fun h ↦ hdone ⟨h.1, h.2.1⟩), hkept]
  rw [hleases]
  exact ⟨fun hclean ↦ hclean.leases, fun hleases ↦ ⟨hleases, hrel⟩⟩

/-! ### A promotion that does not start serving -/

/-- A look at a node whose service runs, with UDP port 67 bound or free. -/
def lookAt (listening : Bool) : Look := ⟨.readable, some 0, some listening⟩

/-- A command that succeeds, and what the port shows from then on. -/
def commandThen (leaves listening : Bool) : SetDhcpCall :=
  ⟨lookAt false, some 0, leaves, .readable, fun _ ↦ lookAt listening⟩

/-- The state of a node that is asked to serve from the first staged snapshot. -/
def servingState : HelperState :=
  { failoverGeneration := 1, observedRole := some .active, vipOwned := true, dnsHealthy := true
    desiredVirtualIp := "192.0.2.53/24", failoverLeaseGeneration := 1 }

/-- DHCP is enabled but the port stays free, so the promotion fails; `stuck` says whether the port is
bound when the clean-up waits for it to be free. -/
def idleCalls (stuck : Bool) : HelperCalls where
  early := some servingState
  locked := some servingState
  scope := some servingState
  settings := some servingState
  fenceBefore := ⟨some servingState, some (some ["192.0.2.53"])⟩
  fenceAfter := ⟨some servingState, some (some ["192.0.2.53"])⟩
  backUp := true
  write := true
  set := commandThen true false
  probes _ := some true
  fenceDisable := commandThen false false
  disable := commandThen false stuck
  readBack := true
  restore := true

/-- A standby without leases of its own, and a staged snapshot with one. -/
def stagedNode : HelperNode :=
  ⟨false, none, some ⟨1, [⟨4102444800, "02:00:00:00:00:0a", "192.0.2.20", "laptop", ""⟩]⟩⟩

theorem idle_fails (stuck : Bool) : ∃ error, error.backedUp = true ∧
    (helperMain (idleCalls stuck) .promote 1 stagedNode).1 = .error error := by
  cases stuck with
  | false => exact ⟨⟨_, true⟩, rfl, rfl⟩
  | true => exact ⟨⟨_, true⟩, rfl, rfl⟩

theorem failed_promotion_clean_idle :
    CleanStandby (idleCalls false) stagedNode
        (helperMain (idleCalls false) .promote 1 stagedNode).2 ↔
      RestoresLeases (idleCalls false) false stagedNode := by
  obtain ⟨error, hbacked, herror⟩ := idle_fails false
  exact failed_promotion_clean_iff herror hbacked

/-- **A port that stays bound keeps the old leases from being written back.** -/
theorem failed_promotion_keeps_new_leases :
    ¬ ∀ (calls : HelperCalls) (command : HelperCommand) (generation : ℕ) (node : HelperNode)
      (error : HelperError), (helperMain calls command generation node).1 = .error error →
        error.backedUp = true →
          CleanStandby calls node (helperMain calls command generation node).2 := by
  intro hall
  obtain ⟨error, hbacked, herror⟩ := idle_fails true
  have hclean := (hall _ _ _ _ error herror hbacked).leases rfl
  have hwritten : writtenLeases (idleCalls true) false stagedNode =
      some "4102444800 02:00:00:00:00:0a 192.0.2.20 laptop *\n".toUTF8 := by
    have hlines : stagedLines stagedNode 1 =
        .ok "4102444800 02:00:00:00:00:0a 192.0.2.20 laptop *\n" := by decide +kernel
    have hnew : newLeases (idleCalls true) false stagedNode =
        (stagedLines stagedNode 1).map fun lines ↦ some lines.toUTF8 := rfl
    rw [writtenLeases, hnew, hlines]
    rfl
  have hraises : ¬ ((idleCalls true).disable.Returns false ∧ (idleCalls true).readBack = true) :=
    fun h ↦ absurd h.1.settles (by decide)
  rw [helperMain_backedUp herror hbacked, cleanUp_leases rfl, if_neg hraises,
    attemptPromotion_leases, HelperCommand.automatic, hwritten, getD_some] at hclean
  exact absurd (congrArg ByteArray.size hclean) (by decide +kernel)

end Kaya.HA
