import Kaya.HA.AgentRequests
import Mathlib.Tactic.Linarith

/-!
# No signed request is executed twice

The history of a day outlasts the window of a few minutes by far, so a request whose row is pruned can
no longer pass the window. That settles every handler that **checks** after the row was pruned. A
handler that has checked before is stopped by the row alone, at its own commit, and the row must still
be there: `Punctual` is that.
-/

namespace Kaya.HA

open List

/-! ### The signed text -/

variable {a a' b b' : List Char} {body : List UInt8}

/-- What stands before the first line feed, and what stands after it. -/
theorem append_newline_inj (ha : '\n' ∉ a) (ha' : '\n' ∉ a')
    (h : a ++ '\n' :: b = a' ++ '\n' :: b') : a = a' ∧ b = b' := by
  induction a generalizing a' with
  | nil =>
    cases a' with
    | nil => exact ⟨rfl, (cons.inj h).2⟩
    | cons c a' =>
      obtain ⟨rfl, -⟩ := cons.inj h
      exact absurd mem_cons_self ha'
  | cons c a ih =>
    cases a' with
    | nil =>
      obtain ⟨rfl, -⟩ := cons.inj h
      exact absurd mem_cons_self ha
    | cons c' a' =>
      obtain ⟨rfl, htail⟩ := cons.inj h
      obtain ⟨rfl, hb⟩ := ih (not_mem_of_not_mem_cons ha) (not_mem_of_not_mem_cons ha') htail
      exact ⟨rfl, hb⟩

/-- What stands after the last line feed, and what stands before it. -/
theorem newline_append_inj (hb : '\n' ∉ b) (hb' : '\n' ∉ b')
    (h : a ++ '\n' :: b = a' ++ '\n' :: b') : a = a' ∧ b = b' := by
  have hreverse : b.reverse ++ '\n' :: a.reverse = b'.reverse ++ '\n' :: a'.reverse := by
    simpa using congrArg reverse h
  obtain ⟨hb, ha⟩ := append_newline_inj (by simpa using hb) (by simpa using hb') hreverse
  exact ⟨reverse_injective ha, reverse_injective hb⟩

/-- The fields of an accepted request except its path have no line feed. -/
structure AcceptedRequest.Plain (a : AcceptedRequest) : Prop where
  method : '\n' ∉ a.method.toList
  requestId : '\n' ∉ a.requestId.toList
  timestamp : '\n' ∉ a.timestamp.toList
  bodyHash : '\n' ∉ a.bodyHash.toList

/-- **The signed text binds every field** but the agent, whose key it is signed with. -/
theorem AcceptedRequest.Plain.canonical_inj {a b : AcceptedRequest} (ha : a.Plain) (hb : b.Plain)
    (hagent : a.agentId = b.agentId) (h : a.canonical = b.canonical) : a = b := by
  obtain ⟨agent, request, timestamp, method, path, bodyHash⟩ := a
  obtain ⟨agent', request', timestamp', method', path', bodyHash'⟩ := b
  have hsplit : ∀ m p r t d : List Char, ['\n'].intercalate [m, p, r, t, d] =
      m ++ '\n' :: (((p ++ '\n' :: r) ++ '\n' :: t) ++ '\n' :: d) := by
    intro m p r t d
    simp [intercalate, intersperse]
  simp only [canonical, canonicalText, hsplit] at h
  obtain ⟨hmethod, h⟩ := append_newline_inj ha.method hb.method h
  obtain ⟨h, hbody⟩ := newline_append_inj ha.bodyHash hb.bodyHash h
  obtain ⟨h, htime⟩ := newline_append_inj ha.timestamp hb.timestamp h
  obtain ⟨hpath, hreq⟩ := newline_append_inj ha.requestId hb.requestId h
  simp only [String.toList_inj] at hmethod hbody htime hpath hreq
  simp only [AcceptedRequest.mk.injEq]
  exact ⟨hagent, hreq, htime, hmethod, hpath, hbody⟩

theorem not_mem_of_isRequestId {text : String} (h : isRequestId text = true) :
    '\n' ∉ text.toList := by
  intro hmem
  rw [isRequestId, Bool.and_eq_true, all_eq_true] at h
  exact absurd (h.2 _ hmem) (by decide)

variable {crypto : RequestCrypto} {s : RequestGate} {now : DateTime} {row : HAAgentRequestRow}
  {h : RequestHandler}

/-! ### The two moments of a handler -/

/-- What a check that passes has read. -/
structure Checked (s : RequestGate) (now : DateTime) (h : RequestHandler) : Prop where
  checkedAt : h.checkedAt = now
  time : requestTime h.request.timestamp = some h.requestTime
  window : withinRequestWindow now h.requestTime = true
  identifier : isRequestId h.request.requestId = true
  fresh : ∀ row ∈ s.history, row.agentId = h.request.agentId → row.requestId ≠ h.request.requestId

/-- What is known of a request that has passed its checks. -/
theorem checkRequest_eq_ok {request : AgentRequest} (hcheck : checkRequest s request now = .ok h) :
    Checked s now h := by
  unfold checkRequest at hcheck
  split at hcheck
  · cases hcheck
  split at hcheck
  · cases hcheck
  split at hcheck
  · cases hcheck
  rename_i hid
  cases hkey : usableKey (s.credentials request.agentId) with
  | none =>
    rw [hkey] at hcheck
    cases hcheck
  | some publicKey =>
    rw [hkey] at hcheck
    cases htime : requestTime request.timestamp with
    | none =>
      rw [htime] at hcheck
      cases hcheck
    | some t =>
      rw [htime] at hcheck
      dsimp only at hcheck
      split at hcheck
      · cases hcheck
      rename_i hwindow
      split at hcheck
      · cases hcheck
      rename_i hreplay
      split at hcheck
      · cases hcheck
      obtain rfl := Except.ok.inj hcheck
      refine ⟨rfl, htime, by simpa using hwindow, by simpa using hid, fun row hrow hagent heq ↦ ?_⟩
      exact hreplay (any_eq_true.2 ⟨row, hrow, decide_eq_true ⟨hagent, heq⟩⟩)

/-- What a handler that lets its request through has found and written. -/
theorem finishRequest_eq_ok (hfinish : finishRequest crypto s h body now = .ok row) :
    row = ⟨h.request.agentId, h.request.requestId, h.requestTime, now⟩ ∧
      ∀ old ∈ s.history, old.agentId = h.request.agentId → old.requestId ≠ h.request.requestId := by
  unfold finishRequest at hfinish
  split at hfinish
  · cases hfinish
  split at hfinish
  · cases hfinish
  split at hfinish
  · cases hfinish
  rename_i hconflict
  refine ⟨(Except.ok.inj hfinish).symm, fun old hold hagent heq ↦ ?_⟩
  exact hconflict (any_eq_true.2 ⟨old, hold, decide_eq_true ⟨hagent, heq⟩⟩)

/-! ### The invariant -/

/-- A row of the same request as a handler's: its identifiers and its time. -/
def RequestHandler.Owns (h : RequestHandler) (row : HAAgentRequestRow) : Prop :=
  row.agentId = h.request.agentId ∧ row.requestId = h.request.requestId ∧
    row.requestTimestamp = h.requestTime

/-- A row of an accepted request. -/
def AcceptedRequest.Left (a : AcceptedRequest) (row : HAAgentRequestRow) : Prop :=
  row.agentId = a.agentId ∧ row.requestId = a.requestId ∧
    requestTime a.timestamp = some row.requestTimestamp

/-- What holds of the server. Every accepted request has left a row, a row that is gone was received
more than a day ago, and a handler in flight has checked before any row of its request was
received. -/
structure GateInvariant (s : RequestGate) : Prop where
  left : ∀ a ∈ s.accepted, ∃ row ∈ s.history ++ s.pruned, a.Left row
  received : ∀ row ∈ s.history ++ s.pruned, row.receivedAt ≤ s.clock
  signed : ∀ row ∈ s.history ++ s.pruned, row.requestTimestamp ≤ row.receivedAt + seconds 300
  old : ∀ row ∈ s.pruned, row.receivedAt + seconds 86400 < s.clock
  checked : ∀ id h, s.handlers id = some h → h.checkedAt ≤ s.clock ∧
    requestTime h.request.timestamp = some h.requestTime ∧
      withinRequestWindow h.checkedAt h.requestTime = true
  later : ∀ id h, s.handlers id = some h → ∀ row ∈ s.history ++ s.pruned, h.Owns row →
    h.checkedAt ≤ row.receivedAt
  identified : ∀ id h, s.handlers id = some h → isRequestId h.request.requestId = true
  plain : ∀ a ∈ s.accepted, a.Plain
  once : s.accepted.Nodup

theorem withinRequestWindow_iff {a b : DateTime} :
    withinRequestWindow a b = true ↔ a - b ≤ seconds 300 ∧ b - a ≤ seconds 300 := by
  rw [withinRequestWindow, decide_eq_true_eq]

section

variable (hs : GateInvariant s)

include hs

/-- **A pruned request is outside the window**, now and at any later time. -/
theorem GateInvariant.expired (hrow : row ∈ s.pruned) (hnow : s.clock ≤ now) :
    withinRequestWindow now row.requestTimestamp = false := by
  have hold := hs.old row hrow
  have hsigned := hs.signed row (mem_append_right _ hrow)
  rw [Bool.eq_false_iff, Ne, withinRequestWindow_iff]
  rintro ⟨hwindow, -⟩
  simp only [seconds] at hold hsigned hwindow
  push_cast at hold hsigned hwindow
  linarith

/-- The clock moves and handlers end. -/
theorem GateInvariant.mono {s' : RequestGate} (hclock : s.clock ≤ s'.clock)
    (hhistory : s'.history = s.history) (hpruned : s'.pruned = s.pruned)
    (hacc : s'.accepted = s.accepted)
    (hhandlers : ∀ id h, s'.handlers id = some h → s.handlers id = some h) : GateInvariant s' where
  left a ha := by
    rw [hhistory, hpruned]
    exact hs.left a (hacc ▸ ha)
  received row hrow := by
    rw [hhistory, hpruned] at hrow
    exact (hs.received row hrow).trans hclock
  signed row hrow := by
    rw [hhistory, hpruned] at hrow
    exact hs.signed row hrow
  old row hrow := by
    rw [hpruned] at hrow
    exact (hs.old row hrow).trans_le hclock
  checked id h hh := by
    obtain ⟨hchecked, hrest⟩ := hs.checked id h (hhandlers id h hh)
    exact ⟨hchecked.trans hclock, hrest⟩
  later id h hh row hrow := by
    rw [hhistory, hpruned] at hrow
    exact hs.later id h (hhandlers id h hh) row hrow
  identified id h hh := hs.identified id h (hhandlers id h hh)
  plain := hacc ▸ hs.plain
  once := hacc ▸ hs.once

/-- A handler that ends. -/
theorem GateInvariant.ended (id : ℕ) :
    GateInvariant { s with handlers := Function.update s.handlers id none } := by
  exact hs.mono le_rfl rfl rfl rfl fun _ _ hh' ↦ (of_update_none hh').2

theorem GateInvariant.check (hclock : s.clock = now)
    (hchecked : Checked s now h) (id : ℕ) :
    GateInvariant { s with handlers := Function.update s.handlers id (some h) } where
  left := hs.left
  received := hs.received
  signed := hs.signed
  old := hs.old
  checked id' h' hh' := by
    rcases update_eq_some_iff.1 hh' with ⟨-, heq⟩ | ⟨-, hold⟩
    · obtain rfl := Option.some.inj heq
      exact ⟨(hchecked.checkedAt.trans hclock.symm).le, hchecked.time,
        hchecked.checkedAt ▸ hchecked.window⟩
    · exact hs.checked id' h' hold
  later id' h' hh' row hrow howns := by
    rcases update_eq_some_iff.1 hh' with ⟨-, heq⟩ | ⟨-, hold⟩
    · obtain rfl := Option.some.inj heq
      obtain ⟨hagent, hreq, htime⟩ := howns
      -- The row is no longer there, and then the window has rejected the request.
      rcases mem_append.1 hrow with hrow | hrow
      · exact absurd hreq (hchecked.fresh row hrow hagent)
      · have hexpired := hs.expired hrow hclock.le
        rw [htime, hchecked.window] at hexpired
        cases hexpired
    · exact hs.later id' h' hold row hrow howns
  identified id' h' hh' := by
    rcases update_eq_some_iff.1 hh' with ⟨-, heq⟩ | ⟨-, hold⟩
    · obtain rfl := Option.some.inj heq
      exact hchecked.identifier
    · exact hs.identified id' h' hold
  plain := hs.plain
  once := hs.once

theorem GateInvariant.prune {pruneAt : DateTime} (hpast : pruneAt ≤ s.clock) :
    GateInvariant { s with
      history := s.history.filter fun row ↦ !isPruned pruneAt row
      pruned := s.history.filter (isPruned pruneAt) ++ s.pruned } := by
  have hmem : ∀ row, row ∈ s.history.filter (fun row ↦ !isPruned pruneAt row) ++
      (s.history.filter (isPruned pruneAt) ++ s.pruned) ↔ row ∈ s.history ++ s.pruned := by
    intro row
    simp only [mem_append, mem_filter, Bool.not_eq_true']
    cases isPruned pruneAt row with
    | false => simp
    | true => simp
  refine ⟨fun a ha ↦ ?_, fun row hrow ↦ hs.received row ((hmem row).1 hrow),
    fun row hrow ↦ hs.signed row ((hmem row).1 hrow), fun row hrow ↦ ?_, hs.checked,
    fun id h hh row hrow ↦ hs.later id h hh row ((hmem row).1 hrow), hs.identified, hs.plain,
    hs.once⟩
  · obtain ⟨row, hrow, hleft⟩ := hs.left a ha
    exact ⟨row, (hmem row).2 hrow, hleft⟩
  · rcases mem_append.1 hrow with hrow | hrow
    · have hold := (mem_filter.1 hrow).2
      rw [isPruned, decide_eq_true_eq] at hold
      show row.receivedAt + seconds 86400 < s.clock
      linarith
    · exact hs.old row hrow

theorem GateInvariant.finish (hclock : s.clock = now) {id : ℕ} (hh : s.handlers id = some h)
    (hpunctual : now ≤ h.checkedAt + seconds 86400)
    (hfinish : finishRequest crypto s h body now = .ok row) :
    GateInvariant { s with
      handlers := Function.update s.handlers id none
      history := row :: s.history
      accepted := h.accepted crypto body :: s.accepted } := by
  obtain ⟨hrow, hfree⟩ := finishRequest_eq_ok hfinish
  obtain ⟨hpast, htime, hwindow⟩ := hs.checked id h hh
  have hended := hs.ended id
  have hreceived : row.receivedAt = s.clock := by rw [hrow, hclock]
  have hsigned : row.requestTimestamp ≤ row.receivedAt + seconds 300 := by
    have hbound := (withinRequestWindow_iff.1 hwindow).2
    rw [hrow, ← hclock]
    dsimp only
    linarith
  refine ⟨fun a ha ↦ ?_, fun r hr ↦ ?_, fun r hr ↦ ?_, hs.old, hended.checked,
    fun id' h' hh' r hr howns ↦ ?_, hended.identified, fun a ha ↦ ?_,
    nodup_cons.2 ⟨fun hmem ↦ ?_, hs.once⟩⟩
  · rcases mem_cons.1 ha with rfl | ha
    · exact ⟨row, mem_cons_self, by rw [hrow]; exact ⟨rfl, rfl, htime⟩⟩
    · obtain ⟨r, hr, hleft⟩ := hs.left a ha
      exact ⟨r, mem_cons_of_mem _ hr, hleft⟩
  · rcases mem_cons.1 hr with rfl | hr
    · exact hreceived.le
    · exact hs.received r hr
  · rcases mem_cons.1 hr with rfl | hr
    · exact hsigned
    · exact hs.signed r hr
  · rcases mem_cons.1 hr with rfl | hr
    · rw [hreceived]
      exact (hended.checked id' h' hh').1
    · exact hended.later id' h' hh' r hr howns
  · rcases mem_cons.1 ha with rfl | ha
    · exact ⟨h.request.method_line, not_mem_of_isRequestId (hs.identified id h hh),
        h.request.timestamp_line, crypto.digest_hex body⟩
    · exact hs.plain a ha
  · obtain ⟨old, hold, hagent, hreq, holdTime⟩ := hs.left _ hmem
    rcases mem_append.1 hold with hold | hold
    · exact hfree old hold hagent hreq
    -- The row of the first acceptance is gone: this handler has waited for more than a day.
    · have hsame : old.requestTimestamp = h.requestTime :=
        Option.some.inj (holdTime.symm.trans htime)
      have hlate := hs.later id h hh old (mem_append_right _ hold) ⟨hagent, hreq, hsame⟩
      have hgone := hs.old old hold
      rw [hclock] at hgone
      linarith

/-- Every punctual step keeps the invariant of the gate. -/
theorem GateInvariant.step {e : RequestEvent} (hok : Punctual s e) :
    GateInvariant (requestStep crypto s e) := by
  obtain ⟨now, action⟩ := e
  have htick : GateInvariant { s with clock := now } :=
    hs.mono hok.clock rfl rfl rfl fun _ _ ↦ id
  unfold requestStep requestAction
  cases action with
  | check id request =>
    dsimp only
    split
    · rename_i h hfree hcheck
      exact htick.check rfl (checkRequest_eq_ok hcheck) id
    · exact htick
  | finish id body =>
    dsimp only
    cases hh : s.handlers id with
    | none => exact htick
    | some h =>
      dsimp only
      split
      · exact htick.ended id
      · rename_i row hfinish
        exact htick.finish rfl hh (hok.finish id body rfl h hh) hfinish
  | drop id => exact htick.ended id
  | prune pruneAt =>
    dsimp only
    split
    · exact htick
    · rename_i hpast
      exact htick.prune (not_lt.1 hpast)
  | configure agentId credential => exact htick.mono le_rfl rfl rfl rfl fun _ _ ↦ id

end

theorem gateInvariant (hs : (requestMachine crypto).ReachableBy Punctual s) : GateInvariant s := by
  refine hs.invariant (fun s hinit ↦ ?_) fun s e hs hok ↦ hs.step hok
  obtain ⟨hhistory, hhandlers, hpruned, hacc⟩ := hinit
  refine ⟨?_, ?_, ?_, ?_, ?_, ?_, ?_, ?_, ?_⟩
  · simp [hacc]
  · simp [hhistory, hpruned]
  · simp [hhistory, hpruned]
  · simp [hpruned]
  · simp [hhandlers]
  · simp [hhandlers]
  · simp [hhandlers]
  · simp [hacc]
  · simp [hacc]

/-- Requests of one agent are told apart by what is signed. -/
theorem GateInvariant.signed_once (hs : GateInvariant s) :
    (s.accepted.map fun a ↦ (a.agentId, a.canonical)).Nodup := by
  refine Nodup.map_on (fun a ha b hb h ↦ ?_) hs.once
  obtain ⟨hagent, hcanon⟩ := Prod.mk.inj h
  exact (hs.plain a ha).canonical_inj (hs.plain b hb) hagent hcanon

/-- **While handlers end within a day, no signed request is let through twice**, and a pruned request
is rejected by the window for ever. -/
theorem requests_accepted_once (hs : (requestMachine crypto).ReachableBy Punctual s) :
    (s.accepted.Nodup ∧ (s.accepted.map fun a ↦ (a.agentId, a.canonical)).Nodup) ∧
      ∀ row ∈ s.pruned, ∀ now, s.clock ≤ now →
        withinRequestWindow now row.requestTimestamp = false :=
  ⟨⟨(gateInvariant hs).once, (gateInvariant hs).signed_once⟩,
    fun _ hrow _ hnow ↦ (gateInvariant hs).expired hrow hnow⟩

/-! ### A request that is kept open -/

section Sample

/-- The digest of the empty body, and signatures that are all good. -/
def sampleCrypto : RequestCrypto where
  digest _ := "e3b0c44298fc1c149afbf4c8996fb92427ae41e4649b934ca495991b7852b855"
  verify _ _ _ := true
  digest_hex _ := by decide +kernel

/-- A server with one agent. -/
def sampleGate : RequestGate where
  clock := 0
  credentials _ := some ⟨some "key", some 0, none, false⟩
  history := []
  handlers _ := none
  pruned := []
  accepted := []

theorem sampleGate_initial : GateInitial sampleGate := ⟨rfl, fun _ ↦ rfl, rfl, rfl⟩

/-- A signed request. -/
def sampleRequest : AgentRequest :=
  ⟨"agent", "0", "request-1", "signature", "1", "GET", "/api/ha/agent/v1/desired-state", by decide,
    by decide⟩

/-- The request is received twice and ends once. A day later its row is deleted. -/
def prunedRun : List RequestEvent :=
  [⟨0, .check 1 sampleRequest⟩, ⟨0, .check 2 sampleRequest⟩, ⟨0, .finish 1 []⟩,
    ⟨seconds 86401, .prune (seconds 86401)⟩]

theorem prunedRun_punctual :
    (requestMachine sampleCrypto).Admissible Punctual sampleGate prunedRun := by
  refine ⟨⟨le_rfl, nofun⟩, ⟨le_rfl, nofun⟩, ⟨le_rfl, fun id body hact h hh ↦ ?_⟩,
    ⟨by decide, nofun⟩, trivial⟩
  obtain ⟨rfl, rfl⟩ := RequestAction.finish.inj hact
  have hchecked : ((requestMachine sampleCrypto).run sampleGate
      [⟨0, .check 1 sampleRequest⟩, ⟨0, .check 2 sampleRequest⟩]).handlers 1 =
        some ⟨sampleRequest, 0, "key", 0⟩ := rfl
  obtain rfl := Option.some.inj (hchecked.symm.trans hh)
  decide

theorem requests_accepted_once_sample :
    (((requestMachine sampleCrypto).run sampleGate prunedRun).accepted.Nodup ∧
        (((requestMachine sampleCrypto).run sampleGate prunedRun).accepted.map fun a ↦
          (a.agentId, a.canonical)).Nodup) ∧
      ∀ row ∈ ((requestMachine sampleCrypto).run sampleGate prunedRun).pruned, ∀ now,
        ((requestMachine sampleCrypto).run sampleGate prunedRun).clock ≤ now →
          withinRequestWindow now row.requestTimestamp = false :=
  requests_accepted_once (.run (.start sampleGate_initial) prunedRun_punctual)

/-- **The copy that was kept open is let through a day later.** -/
theorem request_accepted_twice :
    ¬ ∀ (crypto : RequestCrypto) (s : RequestGate),
      (requestMachine crypto).ReachableBy (fun s e ↦ s.clock ≤ e.now) s → s.accepted.Nodup := by
  intro hall
  have hrun := hall sampleCrypto ((requestMachine sampleCrypto).run sampleGate
    (prunedRun ++ [⟨seconds 86401, .finish 2 []⟩]))
    (.run (.start sampleGate_initial) (by decide +kernel))
  exact absurd hrun (by decide +kernel)

end Sample

end Kaya.HA
