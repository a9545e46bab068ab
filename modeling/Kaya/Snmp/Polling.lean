import Kaya.Flow.Model
import Kaya.Library.Double
import Kaya.Library.Machine

/-!
# SNMP polling under a lease

`app/services/network_traffic_poller.py`, with the counter arithmetic of `network_traffic_snmp.py`.
Several processes may run the scheduler. Each has a token of its own, and the polling lease names the
token that may commit. A poll reads the lease when it starts, waits for the device, looks up the
previous observation of every interface it was told about, and commits after it has read the lease
again. Only this second reading is a **fence**: it locks the lease row until the commit.

**Interleaving.** An event is one of the moments a poll and the rest of the system can be seen
between: the start up to the wait, the lookup of one interface, the fenced commit. A poll whose
session fails for any other reason ends without a trace (`cancel`).

**Unordered rows.** `order_by(observed_at.desc()).first()` does not say which of several newest rows
it returns, so the row is part of the event and any of them is admitted.

**Settings.** A source may be reconfigured between any two moments, so it makes no difference which
copy of its row a session sees.

**Columns.** The texts of an interface, its status columns and the health columns of a source are read
by nothing here. Aggregates are not part of the model. The observation key is the tuple that is
hashed.
-/

namespace Kaya.Snmp

open Kaya.Flow (DateTime second)

/-! ### Counter rates -/

/-- `InterfaceSnapshot`. Its key is made of the index alone. -/
structure InterfaceSnapshot where
  interfaceIndex : ℕ
  speedBps : Option ℤ
  inboundOctets : Option ℤ
  outboundOctets : Option ℤ
  counterBits : ℕ
  discontinuityTicks : Option ℤ
  deviceUptimeTicks : Option ℤ

/-- `RateResult`. -/
structure RateResult where
  bitsPerSecond : Option ℤ
  baseline : Bool := false
  reset : Bool := false
  wrapped : Bool := false
  rejected : Bool := false

/-- The product of an integer and a float, in doubles, as an integer. -/
def scaled (n : ℤ) (factor : ℚ) : ℤ := Double.trunc (Double.toDouble (Double.toDouble n * factor))

/-- `calculate_rate`. -/
def calculateRate (previous current : Option ℤ) (elapsedSeconds : ℚ) (counterBits : ℕ)
    (interfaceSpeedBps : Option ℤ) (resetDetected : Bool) : RateResult :=
  match previous, current with
  | some previous, some current =>
    if elapsedSeconds ≤ 0 ∨ previous < 0 ∨ current < 0 ∨ (counterBits ≠ 32 ∧ counterBits ≠ 64) then
      { bitsPerSecond := none, rejected := true }
    else if resetDetected then { bitsPerSecond := none, reset := true }
    else
      let maximum : ℤ := 2 ^ counterBits - 1
      let wrapped := decide (current < previous)
      if wrapped ∧ ¬ (scaled maximum (3 / 4) ≤ previous ∧ current ≤ scaled maximum (1 / 4)) then
        { bitsPerSecond := none, reset := true }
      else
        let delta := if wrapped then maximum - previous + current + 1 else current - previous
        let rate := Double.trunc (Double.toDouble (Double.toDouble (delta * 8 : ℤ) / elapsedSeconds))
        if interfaceSpeedBps.any fun speed ↦ 0 < speed ∧ scaled speed (5 / 4) < rate then
          { bitsPerSecond := none, wrapped, rejected := true }
        else { bitsPerSecond := some rate, wrapped }
  | _, _ => { bitsPerSecond := none, baseline := true }

/-- `calculate_counter_rates`: the inbound and the outbound rate. -/
def calculateCounterRates (previous : Option InterfaceSnapshot) (current : InterfaceSnapshot)
    (elapsedSeconds : ℚ) : RateResult × RateResult :=
  let restarted := match previous.bind (·.deviceUptimeTicks), current.deviceUptimeTicks with
    | some before, some now => decide (now < before)
    | _, _ => false
  let discontinuity := match previous.bind (·.discontinuityTicks), current.discontinuityTicks with
    | some before, some now => decide (now ≠ before)
    | _, _ => false
  let rate (before now : Option ℤ) : RateResult :=
    calculateRate before now elapsedSeconds current.counterBits current.speedBps
      (restarted || discontinuity)
  (rate (previous.bind (·.inboundOctets)) current.inboundOctets,
    rate (previous.bind (·.outboundOctets)) current.outboundOctets)

/-! ### Rows -/

/-- A row of `traffic_sources`. -/
abbrev SourceId := ℕ

/-- A non-empty lease token. -/
abbrev Token := ℕ

/-- What `_observation_key` hashes. -/
structure ObservationKey where
  sourceId : SourceId
  interfaceIndex : ℕ
  observedAt : DateTime
  inboundOctets : Option ℤ
  outboundOctets : Option ℤ
  deviceUptimeTicks : Option ℤ
  discontinuityTicks : Option ℤ
  deriving DecidableEq

/-- `TrafficCounterObservation`. An interface is named by its source and its index, which are unique.
`exporterEpoch` is the number its text prints. `previous` is not a column: it records the observation
the rates were computed against. -/
structure Observation where
  key : ObservationKey
  counterBits : ℕ
  resetDetected : Bool
  exporterEpoch : Option ℤ
  inboundBps : Option ℤ
  outboundBps : Option ℤ
  previous : Option ObservationKey
  deriving DecidableEq

/-- The interface of an observation. -/
def Observation.interface (o : Observation) : SourceId × ℕ := (o.key.sourceId, o.key.interfaceIndex)

/-- `previous_snapshot`. The text of a negative uptime is no number to `isdigit`. -/
def Observation.snapshot (o : Observation) (current : InterfaceSnapshot) : InterfaceSnapshot :=
  { current with
    inboundOctets := o.key.inboundOctets
    outboundOctets := o.key.outboundOctets
    counterBits := o.counterBits
    discontinuityTicks := o.key.discontinuityTicks
    deviceUptimeTicks := o.exporterEpoch.filter (0 ≤ ·) }

/-- `_observation_key`. -/
def observationKey (source : SourceId) (now : DateTime) (snapshot : InterfaceSnapshot) :
    ObservationKey where
  sourceId := source
  interfaceIndex := snapshot.interfaceIndex
  observedAt := now
  inboundOctets := snapshot.inboundOctets
  outboundOctets := snapshot.outboundOctets
  deviceUptimeTicks := snapshot.deviceUptimeTicks
  discontinuityTicks := snapshot.discontinuityTicks

/-- The observation a poll that started at `now` makes of a snapshot. -/
def observationOf (source : SourceId) (now : DateTime) (interval : ℕ) (snapshot : InterfaceSnapshot)
    (previous : Option Observation) : Observation :=
  let elapsed : ℚ := match previous with
    | some o => Double.toDouble ((now - o.key.observedAt : ℤ) / second)
    | none => max 1 interval
  let (inbound, outbound) :=
    calculateCounterRates (previous.map (·.snapshot snapshot)) snapshot elapsed
  { key := observationKey source now snapshot
    counterBits := snapshot.counterBits
    resetDetected := inbound.reset || outbound.reset
    exporterEpoch := snapshot.deviceUptimeTicks
    inboundBps := inbound.bitsPerSecond
    outboundBps := outbound.bitsPerSecond
    previous := previous.map (·.key) }

/-! ### The lease -/

/-- `TrafficPollingLease`, the row with the identifier 1. A row that is not there yet is one that
nobody owns. -/
structure PollingLease where
  ownerToken : Option Token := none
  leaseUntil : Option DateTime := none

/-- `LEASE_SECONDS`. -/
def leaseSeconds : ℤ := 90

/-- `_lease_is_owned`, for a token. -/
def leaseIsOwned (lease : PollingLease) (token : Token) (now : DateTime) : Bool :=
  lease.ownerToken = some token ∧ lease.leaseUntil.any (now < ·)

/-- `acquire_polling_lease`. -/
def acquirePollingLease (lease : PollingLease) (token : Token) (now : DateTime) : PollingLease :=
  if lease.ownerToken.any (· ≠ token) ∧ lease.leaseUntil.any (now < ·) then lease
  else ⟨some token, some (now + leaseSeconds * second)⟩

/-- `renew_polling_lease`. -/
def renewPollingLease (lease : PollingLease) (token : Token) (now : DateTime) : PollingLease :=
  if lease.ownerToken ≠ some token ∨ !lease.leaseUntil.any (now < ·) then lease
  else { lease with leaseUntil := some (now + leaseSeconds * second) }

/-- `release_polling_lease`. -/
def releasePollingLease (lease : PollingLease) (token : Token) : PollingLease :=
  if lease.ownerToken = some token then ⟨none, none⟩ else lease

/-! ### Polls -/

/-- `TrafficSource`. -/
structure PolledSource where
  isSnmp : Bool
  isEnabled : Bool
  isDeleted : Bool
  pollingIntervalSeconds : ℕ := 60
  consecutiveFailures : ℕ := 0
  backoffUntil : Option DateTime := none
  /-- The interfaces that are switched off. -/
  disabled : List ℕ := []

/-- A poll between its start and its commit: what it has read of its source, and the observations it
has added to its session. `seen` are the interfaces it has looked up; the device reports none
twice. -/
structure Poll where
  startedAt : DateTime
  pollingInterval : ℕ
  disabled : List ℕ
  seen : List ℕ := []
  pending : List Observation := []

/-- The database and the polls in flight. `polls` is keyed by process and source: the lock of a
process lets it poll a source once at a time. -/
structure Polling where
  clock : DateTime
  isEnabled : Bool
  sources : SourceId → PolledSource
  lease : PollingLease
  polls : Token → SourceId → Option Poll
  /-- The committed observations, newest commit first. -/
  observations : List Observation

/-- `_poll_is_authorized`. -/
def pollIsAuthorized (s : Polling) (source : SourceId) (token : Token) (now : DateTime) : Bool :=
  let row := s.sources source
  !row.isDeleted ∧ row.isSnmp ∧ row.isEnabled ∧ s.isEnabled ∧ leaseIsOwned s.lease token now

/-- Store or end the poll of a process. -/
def Polling.setPoll (s : Polling) (token : Token) (source : SourceId) (poll : Option Poll) :
    Polling :=
  { s with polls := Function.update s.polls token (Function.update (s.polls token) source poll) }

/-- The start of `poll_source_once`, up to the wait for the device. -/
def startPoll (s : Polling) (token : Token) (source : SourceId) (now : DateTime) : Polling :=
  let row := s.sources source
  if !pollIsAuthorized s source token now ∨ row.backoffUntil.any (now < ·) ∨
      (s.polls token source).isSome then s
  else
    let interval :=
      if row.pollingIntervalSeconds = 0 then 60 else row.pollingIntervalSeconds
    s.setPoll token source (some ⟨now, interval, row.disabled, [], []⟩)

/-- `previous` is a newest observation of the interface: what the lookup may return. -/
def IsPrevious (observations : List Observation) (interface : SourceId × ℕ)
    (previous : Option Observation) : Prop :=
  match previous with
  | none => ∀ o ∈ observations, o.interface ≠ interface
  | some row => row ∈ observations ∧ row.interface = interface ∧
      ∀ o ∈ observations, o.interface = interface → o.key.observedAt ≤ row.key.observedAt

instance (observations : List Observation) (interface : SourceId × ℕ)
    (previous : Option Observation) : Decidable (IsPrevious observations interface previous) :=
  match previous with
  | none => inferInstanceAs (Decidable (∀ o ∈ observations, o.interface ≠ interface))
  | some row => inferInstanceAs (Decidable (row ∈ observations ∧ row.interface = interface ∧
      ∀ o ∈ observations, o.interface = interface → o.key.observedAt ≤ row.key.observedAt))

/-- One snapshot of the device: the lookup of the previous observation, and the new one. -/
def observeInterface (s : Polling) (token : Token) (source : SourceId) (snapshot : InterfaceSnapshot)
    (previous : Option Observation) : Polling :=
  match s.polls token source with
  | none => s
  | some poll =>
    let interface := (source, snapshot.interfaceIndex)
    if snapshot.interfaceIndex ∈ poll.seen ∨ ¬ IsPrevious s.observations interface previous then s
    else
      let poll := { poll with seen := snapshot.interfaceIndex :: poll.seen }
      let o := observationOf source poll.startedAt poll.pollingInterval snapshot previous
      let skipped := snapshot.interfaceIndex ∈ poll.disabled ∨ s.observations.any (·.key = o.key)
      s.setPoll token source <| some <|
        if skipped then poll else { poll with pending := o :: poll.pending }

/-- The end of `poll_source_once`: the fence, and the commit. -/
def finishPoll (s : Polling) (token : Token) (source : SourceId) (now : DateTime) : Polling :=
  match s.polls token source with
  | none => s
  | some poll =>
    let ended := s.setPoll token source none
    -- The second condition is the unique constraint on the observation key.
    if !pollIsAuthorized s source token now ∨
        poll.pending.any (fun o ↦ s.observations.any (·.key = o.key)) then ended
    else
      let row := s.sources source
      { ended with
        sources := Function.update s.sources source
          { row with consecutiveFailures := 0, backoffUntil := none }
        observations := poll.pending ++ s.observations }

/-- The device did not answer: the fence, and `_record_failure`. -/
def failPoll (s : Polling) (token : Token) (source : SourceId) (now : DateTime) : Polling :=
  match s.polls token source with
  | none => s
  | some poll =>
    let ended := s.setPoll token source none
    if !pollIsAuthorized s source token now then ended
    else
      let row := s.sources source
      let failures := row.consecutiveFailures + 1
      let backoff : ℤ := min 900 (5 * 2 ^ min (failures - 1) 7)
      { ended with
        sources := Function.update s.sources source
          { row with
            consecutiveFailures := failures
            backoffUntil := some (poll.startedAt + backoff * second) } }

/-! ### The machine -/

/-- One moment of the system. -/
inductive PollAction
  | acquire (token : Token)
  | renew (token : Token)
  | release (token : Token)
  | start (token : Token) (source : SourceId)
  | observe (token : Token) (source : SourceId) (snapshot : InterfaceSnapshot)
      (previous : Option Observation)
  | finish (token : Token) (source : SourceId)
  | fail (token : Token) (source : SourceId)
  | cancel (token : Token) (source : SourceId)
  | configure (isEnabled : Bool) (source : SourceId) (row : PolledSource)

/-- An event: a moment and the clock it reads. -/
structure PollEvent where
  now : DateTime
  action : PollAction

/-- What a moment does, at the clock it reads. -/
def pollAction (s : Polling) (now : DateTime) : PollAction → Polling
  | .acquire token => { s with lease := acquirePollingLease s.lease token now }
  | .renew token => { s with lease := renewPollingLease s.lease token now }
  | .release token => { s with lease := releasePollingLease s.lease token }
  | .start token source => startPoll s token source now
  | .observe token source snapshot previous => observeInterface s token source snapshot previous
  | .finish token source => finishPoll s token source now
  | .fail token source => failPoll s token source now
  | .cancel token source => s.setPoll token source none
  | .configure isEnabled source row =>
    { s with isEnabled, sources := Function.update s.sources source row }

/-- The step function. -/
def pollStep (s : Polling) (e : PollEvent) : Polling :=
  pollAction { s with clock := e.now } e.now e.action

/-- Nothing has been polled and nobody owns the lease. -/
structure PollingInitial (s : Polling) : Prop where
  lease : s.lease = {}
  polls : ∀ token source, s.polls token source = none
  observations : s.observations = []

/-- The pollers of a database. -/
def pollMachine : Machine Polling PollEvent where
  init := PollingInitial
  step := pollStep

/-- The clock does not go back. -/
def ClockAdvances (s : Polling) (e : PollEvent) : Prop := s.clock ≤ e.now

instance (s : Polling) (e : PollEvent) : Decidable (ClockAdvances s e) :=
  inferInstanceAs (Decidable (s.clock ≤ e.now))

end Kaya.Snmp
