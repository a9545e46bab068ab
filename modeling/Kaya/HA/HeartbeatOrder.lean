import Kaya.HA.Reports
import Mathlib.Data.Int.ConditionallyCompleteOrder
import Mathlib.Order.ConditionallyCompleteLattice.Basic

/-!
# Heartbeats in any order

One agent's signed heartbeats reach `record_heartbeat` late, twice or out of order, between whatever
else the system does. The channel below is that traffic for one node: an agent has made a sequence of
heartbeats with increasing sequence numbers and increasing times, and an event delivers any one of
them, registers the agent anew, revokes it, or is a unit of work of the system.

**Keys.** `register` generates a key each time it is called, and the agent reads the key when it signs
a request. Keys are numbered by registration here, so the keys of the heartbeats increase with them,
and a delivery under another key than the registered one fails its signature check. This is what
orders the heartbeats across a registration, where the stored sequence number starts over at zero.

**The law.** A heartbeat that is accepted is newer than everything accepted before it
(`heartbeat_order`). Within a key the stored sequence number bounds the accepted ones, or the stored
time does; `Ordered` is that invariant.
-/

namespace Kaya.HA

open List

/-- A heartbeat with the number of the key that signs it. -/
structure SignedHeartbeat where
  key : ℕ
  heartbeat : HAAgentHeartbeat

/-- The heartbeats one agent makes, oldest first. -/
structure HeartbeatStream where
  sent : ℕ → SignedHeartbeat
  /-- `reported_at` of a heartbeat. -/
  reportedAt : ℕ → DateTime
  reportedAt_eq : ∀ i, (sent i).heartbeat.reportedAt = some (reportedAt i)
  sequence_ne_zero : ∀ i, (sent i).heartbeat.reportSequence ≠ 0
  sequence_strictMono : StrictMono fun i ↦ (sent i).heartbeat.reportSequence
  reportedAt_strictMono : StrictMono reportedAt
  key_mono : Monotone fun i ↦ (sent i).key

/-- The system with the key registered for the agent of one node. -/
structure Channel where
  sys : Sys
  key : ℕ

/-- What happens on the channel of a node. Heartbeats of the node are deliveries. -/
inductive ChannelAction (n : NodeId)
  | register (agentVersion : String)
  | revoke
  | deliver (i : ℕ)
  | work (action : Action) (hrewrites : ¬ action.Rewrites n)

/-- An event of the channel: an action and the clock it reads. -/
structure ChannelEvent (n : NodeId) where
  now : DateTime
  action : ChannelAction n

section Channel

variable (n : NodeId) (hbs : HeartbeatStream)

/-- The agent is registered and the heartbeat is signed with the registered key. -/
def authentic (s : Channel) (i : ℕ) : Bool :=
  (s.sys.cluster.node n).registered ∧ (hbs.sent i).key = s.key

/-- The delivery of a heartbeat is answered `accepted`. -/
def accepts (s : Channel) (i : ℕ) (now : DateTime) : Bool :=
  authentic n hbs s i ∧ heartbeatAccepted (s.sys.cluster.node n) (hbs.sent i).heartbeat now

/-- `sequence_rebased`: the sequence number of an accepted heartbeat is not new. -/
def rebases (s : Channel) (i : ℕ) : Bool :=
  (hbs.sent i).heartbeat.reportSequence ≤ (s.sys.cluster.node n).lastReportSequence

/-- The channel after an event. -/
def channelStep (s : Channel) (e : ChannelEvent n) : Channel :=
  match e.action with
  | .register agentVersion =>
    ⟨{ s.sys with cluster := registerAgent s.sys.cluster n agentVersion e.now }, s.key + 1⟩
  | .revoke => { s with sys := { s.sys with cluster := revokeAgent s.sys.cluster n } }
  | .deliver i =>
    if authentic n hbs s i then
      { s with sys := step s.sys ⟨e.now, .heartbeat n (hbs.sent i).heartbeat⟩ }
    else s
  | .work action _ => { s with sys := step s.sys ⟨e.now, action⟩ }

/-- The channel of a node, from any state of the system. -/
def channelMachine : Machine Channel (ChannelEvent n) where
  init := fun _ ↦ True
  step := channelStep n hbs

/-- The heartbeats accepted in a history, newest first. -/
def accepted : List (Channel × ChannelEvent n) → List ℕ
  | [] => []
  | (s, e) :: h =>
    match e.action with
    | .deliver i => if accepts n hbs s i e.now then i :: accepted h else accepted h
    | _ => accepted h

/-- The heartbeats accepted since the last registration or rebase, newest first. -/
def acceptedSince : List (Channel × ChannelEvent n) → List ℕ
  | [] => []
  | (s, e) :: h =>
    match e.action with
    | .register _ => []
    | .deliver i =>
      if accepts n hbs s i e.now then
        if rebases n hbs s i then [i] else i :: acceptedSince h
      else acceptedSince h
    | _ => acceptedSince h

end Channel

section Telemetry

variable {c : HACluster} {hb : HAAgentHeartbeat} {now : DateTime} {node : HANode}

theorem applyHeartbeat_lastReportSequence :
    (applyHeartbeat c hb now node).lastReportSequence =
      if hb.reportSequence = 0 then node.lastReportSequence else hb.reportSequence := by
  unfold applyHeartbeat applyDhcpReport
  dsimp only
  split <;> split <;> rfl

theorem applyHeartbeat_lastAgentReportedAt :
    (applyHeartbeat c hb now node).lastAgentReportedAt = some (hb.reportedAt.getD now) := by
  unfold applyHeartbeat applyDhcpReport
  dsimp only
  split <;> split <;> rfl

end Telemetry

namespace HeartbeatStream

variable (hbs : HeartbeatStream)

/-- The sequence number of a heartbeat. -/
def sequence (i : ℕ) : ℕ := (hbs.sent i).heartbeat.reportSequence

/-- The number of the key that signs a heartbeat. -/
def key (i : ℕ) : ℕ := (hbs.sent i).key

theorem lt_of_key_lt {i j : ℕ} (h : hbs.key j < hbs.key i) : j < i := by
  by_contra hle
  exact absurd (hbs.key_mono (Nat.le_of_not_lt hle)) (Nat.not_le.2 h)

theorem lt_of_sequence_lt {i j : ℕ} (h : hbs.sequence j < hbs.sequence i) : j < i :=
  hbs.sequence_strictMono.lt_iff_lt.1 h

theorem reportedAt_lt_iff {i j : ℕ} : hbs.reportedAt j < hbs.reportedAt i ↔ j < i :=
  hbs.reportedAt_strictMono.lt_iff_lt

end HeartbeatStream

section Order

variable {n : NodeId} {hbs : HeartbeatStream} {s : Channel} {i : ℕ} {now : DateTime}

theorem accepts_key (h : accepts n hbs s i now) : hbs.key i = s.key := by
  simp only [accepts, authentic, Bool.decide_and, Bool.decide_eq_true, Bool.and_eq_true,
    decide_eq_true_eq] at h
  exact h.1.2

/-- An accepted heartbeat has a new sequence number, or is a rebase of a stale observation. -/
theorem accepts_cases (h : accepts n hbs s i now) :
    (s.sys.cluster.node n).lastReportSequence < hbs.sequence i ∨ rebases n hbs s i ∧
        (∃ t, (s.sys.cluster.node n).lastHeartbeatAt = some t ∧ t < now - seconds 45) ∧
        ∀ t, (s.sys.cluster.node n).lastAgentReportedAt = some t → t < hbs.reportedAt i := by
  simp only [accepts, Bool.decide_and, Bool.decide_eq_true, Bool.and_eq_true] at h
  obtain ⟨-, hacc⟩ := h
  unfold heartbeatAccepted at hacc
  split at hacc
  · rename_i hold
    rw [hbs.reportedAt_eq] at hacc
    simp only [Bool.decide_and, Bool.decide_eq_true, Bool.and_eq_true, Option.any_some,
      Option.any_eq_true, decide_eq_true_eq, Option.all_eq_true] at hacc
    obtain ⟨hstale, -, hnewer⟩ := hacc
    exact .inr ⟨decide_eq_true hold.2, hstale, hnewer⟩
  · rename_i hnew
    have hne := hbs.sequence_ne_zero i
    exact .inl (Nat.lt_of_not_le fun hle ↦ hnew ⟨hne, hle⟩)

/-- What the stored columns of the node say about the heartbeats accepted so far. -/
structure Ordered (n : NodeId) (hbs : HeartbeatStream) (h : List (Channel × ChannelEvent n))
    (s : Channel) : Prop where
  key_le : ∀ j ∈ accepted n hbs h, hbs.key j ≤ s.key
  sequence_le : ∀ j ∈ accepted n hbs h, hbs.key j = s.key →
    hbs.sequence j ≤ (s.sys.cluster.node n).lastReportSequence
  reportedAt_le : ∀ j ∈ accepted n hbs h, hbs.key j = s.key →
    ∃ t, (s.sys.cluster.node n).lastAgentReportedAt = some t ∧ hbs.reportedAt j ≤ t
  since : ∀ j ∈ acceptedSince n hbs h, j ∈ accepted n hbs h ∧ hbs.key j = s.key

namespace Ordered

variable {h : List (Channel × ChannelEvent n)} {s' : Channel}

/-- **Newer than everything before.** Under an older key a heartbeat is older; under the same key the
new sequence number or, for a rebase, the newer time decides. -/
theorem lt_of_accepts (ho : Ordered n hbs h s) (hi : accepts n hbs s i now) :
    ∀ j ∈ accepted n hbs h, j < i := by
  intro j hj
  have hkey := accepts_key hi
  rcases Nat.lt_or_ge (hbs.key j) s.key with hlt | hge
  · exact hbs.lt_of_key_lt (hkey ▸ hlt)
  have heq : hbs.key j = s.key := Nat.le_antisymm (ho.key_le j hj) hge
  rcases accepts_cases hi with hnew | ⟨-, -, hnewer⟩
  · have hle := ho.sequence_le j hj heq
    exact hbs.lt_of_sequence_lt (by omega)
  · obtain ⟨t, hsto, hle⟩ := ho.reportedAt_le j hj heq
    exact hbs.reportedAt_lt_iff.1 (lt_of_le_of_lt hle (hnewer t hsto))

/-- What leaves the key and the two stored columns leaves the invariant. -/
theorem unchanged {e : ChannelEvent n} (ho : Ordered n hbs h s) (hkey : s'.key = s.key)
    (hseq : (s'.sys.cluster.node n).lastReportSequence = (s.sys.cluster.node n).lastReportSequence)
    (hrep : (s'.sys.cluster.node n).lastAgentReportedAt =
      (s.sys.cluster.node n).lastAgentReportedAt)
    (hacc : accepted n hbs ((s, e) :: h) = accepted n hbs h)
    (hsince : acceptedSince n hbs ((s, e) :: h) = acceptedSince n hbs h) :
    Ordered n hbs ((s, e) :: h) s' where
  key_le := by rw [hacc, hkey]; exact ho.key_le
  sequence_le := by rw [hacc, hkey, hseq]; exact ho.sequence_le
  reportedAt_le := by rw [hacc, hkey, hrep]; exact ho.reportedAt_le
  since := by rw [hacc, hsince, hkey]; exact ho.since

/-- A registration starts a new key, under which nothing has been accepted. -/
theorem register (ho : Ordered n hbs h s) (agentVersion : String) :
    Ordered n hbs ((s, ⟨now, .register agentVersion⟩) :: h)
      (channelStep n hbs s ⟨now, .register agentVersion⟩) where
  key_le j hj := by
    have hle := ho.key_le j hj
    show hbs.key j ≤ s.key + 1
    omega
  sequence_le j hj heq := by
    have hle := ho.key_le j hj
    have hnew : hbs.key j = s.key + 1 := heq
    omega
  reportedAt_le j hj heq := by
    have hle := ho.key_le j hj
    have hnew : hbs.key j = s.key + 1 := heq
    omega
  since j hj := absurd hj not_mem_nil

theorem node_of_accepts (hi : accepts n hbs s i now) :
    (channelStep n hbs s ⟨now, .deliver i⟩).sys.cluster.node n =
      applyHeartbeat s.sys.cluster (hbs.sent i).heartbeat now (s.sys.cluster.node n) := by
  simp only [accepts, Bool.decide_and, Bool.decide_eq_true, Bool.and_eq_true] at hi
  simp only [channelStep, if_pos hi.1, step_cluster, clusterStep, if_pos hi.2]
  exact node_of_modifyNode.trans (if_pos rfl)

theorem key_of_deliver : (channelStep n hbs s ⟨now, .deliver i⟩).key = s.key := by
  dsimp only [channelStep]
  split <;> rfl

/-- An accepted heartbeat becomes the bound of everything accepted, itself included. -/
theorem accept (ho : Ordered n hbs h s) (hi : accepts n hbs s i now) :
    Ordered n hbs ((s, ⟨now, .deliver i⟩) :: h) (channelStep n hbs s ⟨now, .deliver i⟩) := by
  have hacc : accepted n hbs ((s, ⟨now, .deliver i⟩) :: h) = i :: accepted n hbs h :=
    if_pos hi
  have hle : ∀ j ∈ accepted n hbs ((s, ⟨now, .deliver i⟩) :: h), j ≤ i := by
    intro j hj
    rw [hacc, mem_cons] at hj
    rcases hj with rfl | hj
    · exact le_rfl
    · exact (ho.lt_of_accepts hi j hj).le
  have hkey := accepts_key hi
  constructor
  · intro j hj
    rw [key_of_deliver, ← hkey]
    exact hbs.key_mono (hle j hj)
  · intro j hj _
    rw [node_of_accepts hi, applyHeartbeat_lastReportSequence, if_neg (hbs.sequence_ne_zero i)]
    exact hbs.sequence_strictMono.monotone (hle j hj)
  · intro j hj _
    rw [node_of_accepts hi, applyHeartbeat_lastAgentReportedAt, hbs.reportedAt_eq]
    exact ⟨_, rfl, hbs.reportedAt_strictMono.monotone (hle j hj)⟩
  · intro j hj
    rw [key_of_deliver, hacc]
    have hsince : acceptedSince n hbs ((s, ⟨now, .deliver i⟩) :: h) =
        if rebases n hbs s i then [i] else i :: acceptedSince n hbs h := if_pos hi
    rw [hsince] at hj
    split at hj
    · rw [mem_singleton] at hj
      exact ⟨hj ▸ mem_cons_self, hj ▸ hkey⟩
    · rcases mem_cons.1 hj with rfl | hj
      · exact ⟨mem_cons_self, hkey⟩
      · exact ⟨mem_cons_of_mem _ (ho.since j hj).1, (ho.since j hj).2⟩

/-- A heartbeat that is not accepted changes nothing. -/
theorem channelStep_of_rejected (hi : ¬ accepts n hbs s i now) :
    channelStep n hbs s ⟨now, .deliver i⟩ = s := by
  simp only [accepts, Bool.decide_and, Bool.decide_eq_true, Bool.and_eq_true, not_and] at hi
  dsimp only [channelStep]
  split
  · rename_i hauthentic
    simp only [step, environmentStep, clusterStep, if_neg (hi hauthentic)]
  · rfl

theorem step (ho : Ordered n hbs h s) (e : ChannelEvent n) :
    Ordered n hbs ((s, e) :: h) (channelStep n hbs s e) := by
  obtain ⟨now, a⟩ := e
  cases a with
  | register agentVersion => exact ho.register agentVersion
  | revoke =>
    have hnode : ((revokeAgent s.sys.cluster n).node n) =
        { s.sys.cluster.node n with registered := false } := node_of_modifyNode.trans (if_pos rfl)
    have hseq := congrArg HANode.lastReportSequence hnode
    have hrep := congrArg HANode.lastAgentReportedAt hnode
    exact ho.unchanged rfl hseq hrep rfl rfl
  | deliver i =>
    by_cases hi : accepts n hbs s i now
    · exact ho.accept hi
    · rw [channelStep_of_rejected hi]
      exact ho.unchanged rfl rfl rfl (if_neg hi) (if_neg hi)
  | work action hrewrites =>
    have hheard := @step_heard s.sys ⟨now, action⟩ n hrewrites
    have hseq := congrArg HANode.lastReportSequence hheard
    have hrep := congrArg HANode.lastAgentReportedAt hheard
    exact ho.unchanged rfl hseq hrep rfl rfl

end Ordered

theorem ordered_of_history {s₀ : Channel} {h : List (Channel × ChannelEvent n)}
    (hh : (channelMachine n hbs).History s₀ h s) : Ordered n hbs h s := by
  have hnil : Ordered n hbs [] s₀ := by
    constructor <;> exact fun j hj ↦ absurd hj not_mem_nil
  exact hh.invariant hnil fun _ _ e ho ↦ ho.step e

/-- **The order of heartbeats.** However the heartbeats of an agent arrive — late, twice, out of
order, across registrations — one that is answered `out_of_order` leaves the cluster as it was. One
that is accepted has a greater sequence number than every one accepted since the last registration
or rebase, or is a rebase: the stored observation is older than forty-five seconds and the heartbeat
is strictly newer than the last accepted one. And every heartbeat accepted before is older. -/
theorem heartbeat_order {s₀ : Channel} {h : List (Channel × ChannelEvent n)}
    (hh : (channelMachine n hbs).History s₀ h s) (i : ℕ) (now : DateTime) :
    (heartbeatAccepted (s.sys.cluster.node n) (hbs.sent i).heartbeat now = false →
      ∀ inputs, recordHeartbeat s.sys.cluster n (hbs.sent i).heartbeat inputs
        s.sys.processStartedAt now = s.sys.cluster) ∧ (accepts n hbs s i now →
      ((∀ j ∈ acceptedSince n hbs h, hbs.sequence j < hbs.sequence i) ∨ rebases n hbs s i ∧
          (∃ t, (s.sys.cluster.node n).lastHeartbeatAt = some t ∧ t < now - seconds 45) ∧
          ∀ j, (accepted n hbs h).head? = some j → hbs.reportedAt j < hbs.reportedAt i) ∧
      ∀ j ∈ accepted n hbs h, hbs.reportedAt j < hbs.reportedAt i) := by
  have ho := ordered_of_history hh
  refine ⟨fun hrej inputs ↦ ?_, fun hi ↦ ?_⟩
  · rw [recordHeartbeat, hrej]
    rfl
  have hnewer : ∀ j ∈ accepted n hbs h, hbs.reportedAt j < hbs.reportedAt i :=
    fun j hj ↦ hbs.reportedAt_lt_iff.2 (ho.lt_of_accepts hi j hj)
  refine ⟨?_, hnewer⟩
  rcases accepts_cases hi with hnew | ⟨hrebases, hstale, -⟩
  · refine .inl fun j hj ↦ ?_
    obtain ⟨hmem, hkey⟩ := ho.since j hj
    have hle := ho.sequence_le j hmem hkey
    omega
  · exact .inr ⟨hrebases, hstale, fun j hj ↦ hnewer j (mem_of_mem_head? hj)⟩

end Order

/-- Heartbeats of one agent, a second apart, under one key. -/
def sampleStream : HeartbeatStream where
  sent i := ⟨0, { sampleHeartbeat true true 0 with
    reportSequence := i + 1, reportedAt := some (i * 1000000) }⟩
  reportedAt i := i * 1000000
  reportedAt_eq _ := rfl
  sequence_ne_zero i := Nat.succ_ne_zero i
  sequence_strictMono := fun i j hij ↦ Nat.succ_lt_succ hij
  reportedAt_strictMono := fun i j hij ↦ by
    show (i : ℤ) * 1000000 < (j : ℤ) * 1000000
    omega
  key_mono := fun _ _ _ ↦ le_rfl

theorem heartbeat_order_late :
    accepted 1 sampleStream [(⟨sampleSys, 0⟩, ⟨2000000, .deliver 1⟩)] = [1] ∧
      (∀ inputs, recordHeartbeat
        (channelStep 1 sampleStream ⟨sampleSys, 0⟩ ⟨2000000, .deliver 1⟩).sys.cluster 1
          (sampleStream.sent 0).heartbeat inputs 0 2500000 =
        (channelStep 1 sampleStream ⟨sampleSys, 0⟩ ⟨2000000, .deliver 1⟩).sys.cluster) ∧
      ∀ j ∈ accepted 1 sampleStream [(⟨sampleSys, 0⟩, ⟨2000000, .deliver 1⟩)],
        sampleStream.reportedAt j < sampleStream.reportedAt 2 := by
  have hh : (channelMachine 1 sampleStream).History ⟨sampleSys, 0⟩
      [(⟨sampleSys, 0⟩, ⟨2000000, .deliver 1⟩)]
      (channelStep 1 sampleStream ⟨sampleSys, 0⟩ ⟨2000000, .deliver 1⟩) := .cons _ .nil
  exact ⟨by decide, (heartbeat_order hh 0 2500000).1 (by decide),
    ((heartbeat_order hh 2 2500000).2 (by decide)).2⟩

end Kaya.HA
