import Kaya.Snmp.Polling

/-!
# Counter increments are charged once

An observation accounts for what its counters have grown by since the observation it was computed
against, so an increment is charged once when every committed observation was computed against the
one committed before it. `Chain` says so of the committed rows, newest first.

The fence asks who owns the lease *now*. It does not ask whether the lease was owned all along: a
token that has lost the lease and taken it over again passes, whatever others have committed in the
meantime. `Disciplined` is what the fence leaves open: a token takes the lease over only while none of
its own polls is in flight, and no poll starts at the instant of an observation of its source.
-/

namespace Kaya.Snmp

open List
open Kaya.Flow (DateTime second)

/-- Every observation was computed against the one of its interface that was committed before it. -/
def Chain : List Observation → Prop
  | [] => True
  | o :: older =>
    (∃ interval snapshot, o = observationOf o.key.sourceId o.key.observedAt interval snapshot
      (older.find? (·.interface = o.interface))) ∧ Chain older

/-- A token that does not own the lease takes it over. -/
def TakesOver (s : Polling) (token : Token) (now : DateTime) : Prop :=
  s.lease.ownerToken ≠ some token ∧ (acquirePollingLease s.lease token now).ownerToken = some token

/-- The clock does not go back, a token takes the lease over only while none of its polls is in
flight, and no poll starts at the instant of an observation of its source. -/
structure Disciplined (s : Polling) (e : PollEvent) : Prop where
  clock : ClockAdvances s e
  acquire : ∀ token, e.action = .acquire token → TakesOver s token e.now →
    ∀ source, s.polls token source = none
  start : ∀ token source, e.action = .start token source →
    ∀ o ∈ s.observations, o.key.sourceId = source → o.key.observedAt ≠ e.now

/-! ### The rows -/

section Rows

variable {observations pending : List Observation} {previous : Option Observation}
  {interface : SourceId × ℕ} {source : SourceId} {now : DateTime}

/-- Newer rows of an interface were observed later. -/
def Ordered (observations : List Observation) : Prop :=
  observations.Pairwise fun o older ↦
    older.interface = o.interface → older.key.observedAt < o.key.observedAt

/-- Where commits and observations are in one order, the lookup finds the newest commit. -/
theorem find?_of_isPrevious (hordered : Ordered observations)
    (h : IsPrevious observations interface previous) :
    observations.find? (·.interface = interface) = previous := by
  cases previous with
  | none =>
    rw [find?_eq_none]
    intro o ho
    rw [decide_eq_true_eq]
    exact h o ho
  | some row =>
    obtain ⟨hrow, hiface, hnewest⟩ := h
    induction observations with
    | nil => cases hrow
    | cons o older ih =>
      obtain ⟨hfirst, hordered⟩ := pairwise_cons.1 hordered
      by_cases ho : o.interface = interface
      · simp only [find?_cons, decide_eq_true ho]
        rcases mem_cons.1 hrow with rfl | hrow
        · rfl
        -- An older row of the interface was not observed last.
        · have hlt := hfirst row hrow (hiface.trans ho.symm)
          have hle := hnewest o mem_cons_self ho
          exact absurd hlt (not_lt.2 hle)
      · simp only [find?_cons, decide_eq_false ho]
        refine ih hordered ?_ fun o' ho' ↦ hnewest o' (mem_cons_of_mem _ ho')
        rcases mem_cons.1 hrow with rfl | hrow
        · exact absurd hiface ho
        · exact hrow

/-- The observations a poll has made, all of different interfaces of its source and each against the
newest commit of its own. -/
structure Prepared (observations pending : List Observation) (source : SourceId) (now : DateTime) :
    Prop where
  computed : ∀ o ∈ pending, ∃ interval snapshot, o = observationOf source now interval snapshot
    (observations.find? (·.interface = o.interface))
  distinct : pending.Pairwise fun o o' ↦ o'.interface ≠ o.interface

section

variable (h : Prepared observations pending source now)

include h

theorem Prepared.key {o : Observation}
    (ho : o ∈ pending) : o.key.sourceId = source ∧ o.key.observedAt = now := by
  obtain ⟨interval, snapshot, hcomputed⟩ := h.computed o ho
  rw [hcomputed]
  exact ⟨rfl, rfl⟩

theorem Prepared.chain (hchain : Chain observations) :
    Chain (pending ++ observations) := by
  induction pending with
  | nil => exact hchain
  | cons o rest ih =>
    obtain ⟨hfirst, hdist⟩ := pairwise_cons.1 h.distinct
    obtain ⟨interval, snapshot, hcomputed⟩ := h.computed o mem_cons_self
    obtain ⟨hsrc, hnow⟩ := h.key mem_cons_self
    show Chain (o :: (rest ++ observations))
    refine ⟨⟨interval, snapshot, ?_⟩,
      ih ⟨fun o' ho' ↦ h.computed o' (mem_cons_of_mem _ ho'), hdist⟩⟩
    -- The other rows of the commit are of other interfaces.
    have hrest : rest.find? (·.interface = o.interface) = none := by
      rw [find?_eq_none]
      intro o' ho'
      rw [decide_eq_true_eq]
      exact hfirst o' ho'
    rw [hsrc, hnow, find?_append, hrest, Option.none_or]
    exact hcomputed

theorem Prepared.ordered
    (hordered : Ordered observations)
    (hearlier : ∀ o ∈ observations, o.key.sourceId = source → o.key.observedAt < now) :
    Ordered (pending ++ observations) := by
  refine pairwise_append.2 ⟨?_, hordered, fun o ho older holder hsame ↦ ?_⟩
  · exact h.distinct.imp fun hne hsame ↦ absurd hsame hne
  · obtain ⟨hsrc, hnow⟩ := h.key ho
    rw [hnow]
    exact hearlier older holder ((congrArg Prod.fst hsame).trans hsrc)

end

end Rows

/-! ### The polls -/

/-- What holds of a poll in flight. While its token owns the lease, nobody else has committed since it
started. -/
structure PollInvariant (s : Polling) (token : Token) (source : SourceId) (poll : Poll) : Prop where
  started : poll.startedAt ≤ s.clock
  seen : ∀ o ∈ poll.pending, o.key.interfaceIndex ∈ poll.seen
  distinct : poll.pending.Pairwise fun o o' ↦ o'.interface ≠ o.interface
  earlier : s.lease.ownerToken = some token →
    ∀ o ∈ s.observations, o.key.sourceId = source → o.key.observedAt < poll.startedAt
  prepared : s.lease.ownerToken = some token → ∀ o ∈ poll.pending, ∃ interval snapshot,
    o = observationOf source poll.startedAt interval snapshot
      (s.observations.find? (·.interface = o.interface))

/-- What holds of the pollers: the committed rows form a chain, in the order of their observations. -/
structure PollingInvariant (s : Polling) : Prop where
  chain : Chain s.observations
  ordered : Ordered s.observations
  past : ∀ o ∈ s.observations, o.key.observedAt ≤ s.clock
  polls : ∀ token source poll, s.polls token source = some poll → PollInvariant s token source poll

section Polls

variable {s s' : Polling} {token token' : Token} {source source' : SourceId} {poll : Poll}
  {now : DateTime}

theorem setPoll_polls (s : Polling) (token : Token) (source : SourceId) (poll : Option Poll)
    (token' : Token) (source' : SourceId) :
    (s.setPoll token source poll).polls token' source' =
      if token' = token ∧ source' = source then poll else s.polls token' source' := by
  unfold Polling.setPoll
  by_cases htoken : token' = token
  · subst htoken
    by_cases hsrc : source' = source
    · subst hsrc
      simp
    · simp [hsrc]
  · simp [htoken]

section

variable (h : PollingInvariant s)

include h

/-- Nothing is committed, no poll is started, and a token that becomes the owner has none. -/
theorem PollingInvariant.mono (hclock : s.clock ≤ s'.clock)
    (hobservations : s'.observations = s.observations)
    (hpolls : ∀ token source poll, s'.polls token source = some poll →
      s.polls token source = some poll ∧
        (s'.lease.ownerToken = some token → s.lease.ownerToken = some token)) :
    PollingInvariant s' := by
  refine ⟨?_, ?_, fun o ho ↦ ?_, fun token source poll hpoll ↦ ?_⟩
  · rw [hobservations]
    exact h.chain
  · rw [hobservations]
    exact h.ordered
  · rw [hobservations] at ho
    exact (h.past o ho).trans hclock
  · obtain ⟨hbef, howner⟩ := hpolls token source poll hpoll
    obtain ⟨hstarted, hseen, hdist, hearlier, hprep⟩ := h.polls token source poll hbef
    rw [← hobservations] at hearlier hprep
    exact ⟨hstarted.trans hclock, hseen, hdist, fun ho ↦ hearlier (howner ho),
      fun ho ↦ hprep (howner ho)⟩

/-- A poll that ends without a commit. -/
theorem PollingInvariant.ended :
    PollingInvariant (s.setPoll token source none) := by
  refine h.mono le_rfl rfl fun token' source' poll hpoll ↦ ⟨?_, id⟩
  rw [setPoll_polls] at hpoll
  split at hpoll
  · cases hpoll
  · exact hpoll

/-- A poll that is started or goes on. -/
theorem PollingInvariant.setPoll (hpoll : PollInvariant s token source poll) :
    PollingInvariant (s.setPoll token source (some poll)) := by
  refine ⟨h.chain, h.ordered, h.past, fun token' source' poll' hpoll' ↦ ?_⟩
  rw [setPoll_polls] at hpoll'
  split at hpoll' <;> rename_i hsame
  · obtain ⟨rfl, rfl⟩ := hsame
    cases hpoll'
    exact ⟨hpoll.started, hpoll.seen, hpoll.distinct, hpoll.earlier, hpoll.prepared⟩
  · have hother := h.polls token' source' poll' hpoll'
    exact ⟨hother.started, hother.seen, hother.distinct, hother.earlier, hother.prepared⟩

theorem PollingInvariant.startPoll (hclock : s.clock = now)
    (hdist : ∀ o ∈ s.observations, o.key.sourceId = source → o.key.observedAt ≠ now) :
    PollingInvariant (startPoll s token source now) := by
  unfold Snmp.startPoll
  dsimp only
  split
  · exact h
  · refine h.setPoll ⟨hclock.ge, ?_, .nil, fun _ o ho hsrc ↦ ?_, ?_⟩
    · intro o ho
      cases ho
    · exact lt_of_le_of_ne ((h.past o ho).trans hclock.le) (hdist o ho hsrc)
    · intro _ o ho
      cases ho

theorem PollingInvariant.observeInterface {snapshot : InterfaceSnapshot}
    {previous : Option Observation} :
    PollingInvariant (observeInterface s token source snapshot previous) := by
  unfold Snmp.observeInterface
  split <;> rename_i hpoll
  · exact h
  rename_i poll
  dsimp only
  split <;> rename_i hguard
  · exact h
  rw [not_or, not_not] at hguard
  obtain ⟨hnew, hprev⟩ := hguard
  have hbef := h.polls token source poll hpoll
  have hseen : ∀ o ∈ poll.pending, o.key.interfaceIndex ∈ snapshot.interfaceIndex :: poll.seen :=
    fun o ho ↦ mem_cons_of_mem _ (hbef.seen o ho)
  split
  · exact h.setPoll ⟨hbef.started, hseen, hbef.distinct, hbef.earlier, hbef.prepared⟩
  refine h.setPoll ⟨hbef.started, fun o ho ↦ ?_, pairwise_cons.2 ⟨fun o ho hsame ↦ ?_,
    hbef.distinct⟩, hbef.earlier, fun howner o ho ↦ ?_⟩
  · rcases mem_cons.1 ho with rfl | ho
    · exact mem_cons_self
    · exact hseen o ho
  · -- The device reports no interface twice.
    have hindex : o.key.interfaceIndex = snapshot.interfaceIndex := congrArg Prod.snd hsame
    exact hnew (hindex ▸ hbef.seen o ho)
  · rcases mem_cons.1 ho with rfl | ho
    · refine ⟨poll.pollingInterval, snapshot, ?_⟩
      show _ = observationOf source poll.startedAt poll.pollingInterval snapshot
        (s.observations.find? (·.interface = (source, snapshot.interfaceIndex)))
      rw [find?_of_isPrevious h.ordered hprev]
    · exact hbef.prepared howner o ho

end

theorem leaseIsOwned_ownerToken {lease : PollingLease} (h : leaseIsOwned lease token now = true) :
    lease.ownerToken = some token :=
  (of_decide_eq_true h).1

theorem pollIsAuthorized_owned (h : pollIsAuthorized s source token now = true) :
    leaseIsOwned s.lease token now = true :=
  (of_decide_eq_true h).2.2.2.2

/-- What a commit does: the token of the poll owns the lease, and the rows it prepared are put on
top. -/
theorem finishPoll_cases (s : Polling) (token : Token) (source : SourceId) (now : DateTime) :
    finishPoll s token source now = s ∨
      finishPoll s token source now = s.setPoll token source none ∨
      ∃ poll sources, s.polls token source = some poll ∧ leaseIsOwned s.lease token now = true ∧
        finishPoll s token source now =
          { s.setPoll token source none with
            sources := sources, observations := poll.pending ++ s.observations } := by
  unfold finishPoll
  split <;> rename_i hpoll
  · exact .inl rfl
  dsimp only
  split <;> rename_i hguard
  · exact .inr (.inl rfl)
  · rw [not_or, Bool.not_eq_true', Bool.not_eq_false] at hguard
    exact .inr (.inr ⟨_, _, hpoll, pollIsAuthorized_owned hguard.1, rfl⟩)

/-- A poll ends, as the holder of the lease or not. -/
theorem PollingInvariant.finishPoll (h : PollingInvariant s) :
    PollingInvariant (finishPoll s token source now) := by
  rcases finishPoll_cases s token source now with
    hsame | hended | ⟨poll, sources, hpoll, howned, hcommit⟩
  · rw [hsame]
    exact h
  · rw [hended]
    exact h.ended
  rw [hcommit]
  have howner := leaseIsOwned_ownerToken howned
  have hbef := h.polls token source poll hpoll
  have hprep : Prepared s.observations poll.pending source poll.startedAt :=
    ⟨hbef.prepared howner, hbef.distinct⟩
  refine ⟨hprep.chain h.chain, hprep.ordered h.ordered (hbef.earlier howner),
    fun o ho ↦ ?_, fun token' source' poll' hpoll' ↦ ?_⟩
  · rcases mem_append.1 ho with ho | ho
    · rw [(hprep.key ho).2]
      exact hbef.started
    · exact h.past o ho
  · -- Polls of other tokens have lost the lease, polls of this one are of other sources.
    dsimp only at hpoll'
    rw [setPoll_polls] at hpoll'
    split at hpoll' <;> rename_i hother
    · cases hpoll'
    obtain ⟨hstarted, hseen, hdist, hearlier, hprep'⟩ :=
      h.polls token' source' poll' hpoll'
    have hne (howner' : s.lease.ownerToken = some token') : source' ≠ source := by
      intro hsrc
      rw [howner] at howner'
      exact hother ⟨(Option.some.inj howner').symm, hsrc⟩
    refine ⟨hstarted, hseen, hdist, fun howner' o ho hsrc ↦ ?_, fun howner' o ho ↦ ?_⟩
    · rcases mem_append.1 ho with ho | ho
      · exact absurd (hsrc.symm.trans (hprep.key ho).1) (hne howner')
      · exact hearlier howner' o ho hsrc
    · obtain ⟨interval, snapshot, hcomputed⟩ := hprep' howner' o ho
      refine ⟨interval, snapshot, ?_⟩
      have hsrc : o.key.sourceId = source' := by
        rw [hcomputed]
        rfl
      have hnone : poll.pending.find? (·.interface = o.interface) = none := by
        rw [find?_eq_none]
        intro o' ho'
        rw [decide_eq_true_eq]
        intro hsame
        have hsame' : o'.key.sourceId = o.key.sourceId := congrArg Prod.fst hsame
        rw [(hprep.key ho').1, hsrc] at hsame'
        exact hne howner' hsame'.symm
      dsimp only
      rw [find?_append, hnone, Option.none_or]
      exact hcomputed

theorem PollingInvariant.failPoll (h : PollingInvariant s) :
    PollingInvariant (failPoll s token source now) := by
  unfold Snmp.failPoll
  split
  · exact h
  dsimp only
  split
  · exact h.ended
  · have hended : PollingInvariant (s.setPoll token source none) := h.ended
    exact hended.mono le_rfl rfl fun _ _ _ hpoll ↦ ⟨hpoll, id⟩

/-- A token that becomes the owner by acquiring has taken the lease over; renewing and releasing make
nobody the owner. -/
theorem PollingInvariant.lease (h : PollingInvariant s) {lease : PollingLease}
    (howner : ∀ token, lease.ownerToken = some token → s.lease.ownerToken = some token ∨
      ∀ source, s.polls token source = none) : PollingInvariant { s with lease := lease } := by
  refine h.mono le_rfl rfl fun token source poll hpoll ↦ ⟨hpoll, fun hnow ↦ ?_⟩
  rcases howner token hnow with hbef | hnone
  · exact hbef
  · rw [show s.polls token source = none from hnone source] at hpoll
    cases hpoll

theorem acquirePollingLease_ownerToken {lease : PollingLease}
    (h : (acquirePollingLease lease token now).ownerToken = some token') :
    lease.ownerToken = some token' ∨ token' = token := by
  unfold acquirePollingLease at h
  split at h
  · exact .inl h
  · exact .inr (Option.some.inj h).symm

theorem renewPollingLease_ownerToken (lease : PollingLease) :
    (renewPollingLease lease token now).ownerToken = lease.ownerToken := by
  unfold renewPollingLease
  split <;> rfl

theorem releasePollingLease_ownerToken {lease : PollingLease}
    (h : (releasePollingLease lease token).ownerToken = some token') :
    lease.ownerToken = some token' := by
  unfold releasePollingLease at h
  split at h
  · cases h
  · exact h

/-- **One moment.** -/
theorem PollingInvariant.step {e : PollEvent} (h : PollingInvariant s) (hok : Disciplined s e) :
    PollingInvariant (pollStep s e) := by
  have htick : PollingInvariant { s with clock := e.now } :=
    h.mono hok.clock rfl fun _ _ _ hpoll ↦ ⟨hpoll, id⟩
  unfold pollStep
  rcases hact : e.action with token | token | token | ⟨token, source⟩ |
    ⟨token, source, snapshot, previous⟩ | ⟨token, source⟩ | ⟨token, source⟩ | ⟨token, source⟩ |
    ⟨isEnabled, source, row⟩
  · refine htick.lease fun token' howner ↦ ?_
    rcases acquirePollingLease_ownerToken howner with hbef | rfl
    · exact .inl hbef
    · by_cases hbef : s.lease.ownerToken = some token'
      · exact .inl hbef
      · exact .inr (hok.acquire token' hact ⟨hbef, howner⟩)
  · refine htick.lease fun token' howner ↦ .inl ?_
    rwa [renewPollingLease_ownerToken] at howner
  · exact htick.lease fun token' howner ↦ .inl (releasePollingLease_ownerToken howner)
  · exact htick.startPoll rfl (hok.start token source hact)
  · exact htick.observeInterface
  · exact htick.finishPoll
  · exact htick.failPoll
  · exact htick.ended
  · exact htick.mono le_rfl rfl fun _ _ _ hpoll ↦ ⟨hpoll, id⟩

theorem pollingInvariant (hs : pollMachine.ReachableBy Disciplined s) : PollingInvariant s := by
  refine hs.invariant (fun s hinit ↦ ?_) fun _ _ h hok ↦ h.step hok
  refine ⟨?_, ?_, fun o ho ↦ ?_, fun token source poll hpoll ↦ ?_⟩
  · rw [hinit.observations]
    trivial
  · rw [hinit.observations]
    exact .nil
  · rw [hinit.observations] at ho
    cases ho
  · rw [hinit.polls] at hpoll
    cases hpoll

/-- Only a commit adds observations, and at its fence the lease is owned and has not expired. -/
theorem pollStep_observations {e : PollEvent} (h : (pollStep s e).observations ≠ s.observations) :
    ∃ token source, e.action = .finish token source ∧ leaseIsOwned s.lease token e.now = true := by
  unfold pollStep at h
  rcases hact : e.action with token | token | token | ⟨token, source⟩ |
    ⟨token, source, snapshot, previous⟩ | ⟨token, source⟩ | ⟨token, source⟩ | ⟨token, source⟩ |
    ⟨isEnabled, source, row⟩
  all_goals rw [hact] at h
  · exact absurd rfl h
  · exact absurd rfl h
  · exact absurd rfl h
  · refine absurd ?_ h
    unfold pollAction startPoll
    dsimp only
    split <;> rfl
  · refine absurd ?_ h
    unfold pollAction observeInterface
    dsimp only
    split
    · rfl
    · split <;> rfl
  · refine ⟨token, source, rfl, ?_⟩
    rcases finishPoll_cases { s with clock := e.now } token source e.now with
      hsame | hended | ⟨poll, sources, -, howned, -⟩
    · refine absurd ?_ h
      rw [pollAction, hsame]
    · refine absurd ?_ h
      rw [pollAction, hended]
      rfl
    · exact howned
  · refine absurd ?_ h
    unfold pollAction failPoll
    dsimp only
    split
    · rfl
    · split <;> rfl
  · exact absurd rfl h
  · exact absurd rfl h

/-- **Counter increments are charged once.** In every run in which a token takes the lease over only
between its polls, and no poll starts at the instant of an observation of its source, the committed
observations of an interface form one chain. In any state, whatever the run, an observation is
committed only under a lease that its token owns. -/
theorem polling_chain (s : Polling) :
    (pollMachine.ReachableBy Disciplined s → Chain s.observations) ∧
      ∀ e, (pollStep s e).observations ≠ s.observations →
        ∃ token source, e.action = .finish token source ∧ s.lease.ownerToken = some token ∧
          ∃ expiry, s.lease.leaseUntil = some expiry ∧ e.now < expiry := by
  refine ⟨fun hs ↦ (pollingInvariant hs).chain, fun e he ↦ ?_⟩
  obtain ⟨token, source, hact, howned⟩ := pollStep_observations he
  obtain ⟨howner, hexpiry⟩ := of_decide_eq_true howned
  obtain ⟨expiry, huntil, hlt⟩ := (Option.any_eq_true _ _).1 hexpiry
  exact ⟨token, source, hact, howner, expiry, huntil, of_decide_eq_true hlt⟩

end Polls

/-! ### Where the fence is not enough -/

/-- Every observation names the one that was committed before it. -/
def Linked : List Observation → Prop
  | [] => True
  | o :: older =>
    o.previous = (older.find? (·.interface = o.interface)).map (·.key) ∧ Linked older

instance instDecidableLinked : ∀ observations, Decidable (Linked observations)
  | [] => inferInstanceAs (Decidable True)
  | _ :: older =>
    have : Decidable (Linked older) := instDecidableLinked older
    inferInstanceAs (Decidable (_ ∧ Linked older))

theorem Chain.linked : ∀ {observations : List Observation}, Chain observations → Linked observations
  | [], _ => trivial
  | _ :: _, ⟨⟨_, _, hcomputed⟩, holder⟩ => ⟨congrArg Observation.previous hcomputed, holder.linked⟩

/-- An enabled source, and nobody has polled it. -/
def samplePolling : Polling where
  clock := 0
  isEnabled := true
  sources _ := { isSnmp := true, isEnabled := true, isDeleted := false }
  lease := {}
  polls _ _ := none
  observations := []

theorem samplePolling_initial : PollingInitial samplePolling := ⟨rfl, fun _ _ ↦ rfl, rfl⟩

/-- The counters of the first interface. -/
def sampleCounters (octets : ℤ) : InterfaceSnapshot :=
  ⟨1, none, some octets, some octets, 64, none, none⟩

/-- The first observation of it. -/
def firstObservation : Observation := observationOf 1 0 60 (sampleCounters 100) none

/-- The first token takes the lease and makes the first observation. -/
def firstPoll : List PollEvent :=
  [⟨0, .acquire 1⟩, ⟨0, .start 1 1⟩, ⟨0, .observe 1 1 (sampleCounters 100) none⟩, ⟨0, .finish 1 1⟩]

/-- A second poll at the time `t`. -/
def nextPoll (t : DateTime) : List PollEvent :=
  [⟨t, .start 1 1⟩, ⟨t, .observe 1 1 (sampleCounters 2000) (some firstObservation)⟩,
    ⟨t, .finish 1 1⟩]

theorem twoPolls_disciplined :
    pollMachine.Admissible Disciplined samplePolling (firstPoll ++ nextPoll (60 * second)) := by
  have hfirst : Disciplined samplePolling ⟨0, .acquire 1⟩ :=
    ⟨by decide, fun _ _ _ _ ↦ rfl, fun _ _ h ↦ (nomatch h)⟩
  have hstart (s : Polling) (t : DateTime) (hclock : s.clock ≤ t)
      (hobserved : ∀ o ∈ s.observations, o.key.observedAt ≠ t) :
      Disciplined s ⟨t, .start 1 1⟩ :=
    ⟨hclock, fun _ h ↦ (nomatch h), fun _ _ _ o ho _ ↦ hobserved o ho⟩
  have hobserve (s : Polling) (t : DateTime) (octets : ℤ) (previous : Option Observation)
      (hclock : s.clock ≤ t) :
      Disciplined s ⟨t, .observe 1 1 (sampleCounters octets) previous⟩ :=
    ⟨hclock, fun _ h ↦ (nomatch h), fun _ _ h ↦ (nomatch h)⟩
  have hfinish (s : Polling) (t : DateTime) (hclock : s.clock ≤ t) :
      Disciplined s ⟨t, .finish 1 1⟩ :=
    ⟨hclock, fun _ h ↦ (nomatch h), fun _ _ h ↦ (nomatch h)⟩
  exact ⟨hfirst, hstart _ _ (by decide) (by decide), hobserve _ _ _ _ (by decide +kernel),
    hfinish _ _ (by decide +kernel), hstart _ _ (by decide +kernel) (by decide +kernel),
    hobserve _ _ _ _ (by decide +kernel), hfinish _ _ (by decide +kernel), trivial⟩

theorem polling_chain_sample :
    (pollMachine.run samplePolling (firstPoll ++ nextPoll (60 * second))).observations.length = 2 ∧
      Chain (pollMachine.run samplePolling (firstPoll ++ nextPoll (60 * second))).observations :=
  ⟨by decide +kernel,
    (polling_chain _).1 (.run (.start samplePolling_initial) twoPolls_disciplined)⟩

/-- The second poll of the first token reads the first observation and loses the lease. The second
token polls against the same observation and releases the lease; the first takes it over and
commits. -/
def takenOverRun : List PollEvent :=
  firstPoll ++ [⟨10 * second, .start 1 1⟩,
    ⟨10 * second, .observe 1 1 (sampleCounters 1000) (some firstObservation)⟩,
    ⟨100 * second, .acquire 2⟩, ⟨100 * second, .start 2 1⟩,
    ⟨100 * second, .observe 2 1 (sampleCounters 2000) (some firstObservation)⟩,
    ⟨100 * second, .finish 2 1⟩, ⟨100 * second, .release 2⟩,
    ⟨100 * second, .acquire 1⟩, ⟨100 * second, .finish 1 1⟩]

/-- The second poll starts at the instant of the first, and the third finds the first observation. -/
def sameInstantRun : List PollEvent :=
  firstPoll ++ nextPoll 0 ++ [⟨60 * second, .start 1 1⟩,
    ⟨60 * second, .observe 1 1 (sampleCounters 3000) (some firstObservation)⟩,
    ⟨60 * second, .finish 1 1⟩]

/-- **The fence alone keeps no chain.** In both runs an observation is computed against another one
than the one committed before it, so that what was counted there is charged again. -/
theorem polling_chain_broken :
    (pollMachine.Admissible ClockAdvances samplePolling takenOverRun ∧
      ¬ Chain (pollMachine.run samplePolling takenOverRun).observations) ∧
    pollMachine.Admissible ClockAdvances samplePolling sameInstantRun ∧
      ¬ Chain (pollMachine.run samplePolling sameInstantRun).observations := by
  refine ⟨⟨by decide +kernel, fun h ↦ absurd h.linked ?_⟩, by decide +kernel,
    fun h ↦ absurd h.linked ?_⟩
  · decide +kernel
  · decide +kernel

end Kaya.Snmp
