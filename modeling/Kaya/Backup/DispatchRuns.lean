import Kaya.Backup.Dispatches

/-!
# What holds of backup dispatches over runs

A dispatch that is over stays as it is, one that runs is never offered again, and two claims that
both receive an envelope carry the same claim id and receive the same envelope, or the grant of the
earlier one has expired in between: `DispatchRules`, along every run whose steps are `orderly`.

What is not orderly is a commit that lands on a row which has moved on: a report on a dispatch that
is over by then, a dispatch given back that is not waiting under an expired grant, and the answer to
a retry whose claim has been replaced. The second needs no race. A claim id is looked at before the
grant and the state is not looked at at all, so the agent that repeats its own claim gives a
**running** dispatch back: `running_offered_again`. And a claim under a fresh id never gets as far as
the grant, so an expired claim that its agent has lost keeps the job: `dispatch_rules` says that it
is refused in every such state.
-/

namespace Kaya.Backup

open Function Option
open Kaya.HA (DateTime seconds)

variable {s t : Server} {d i p : ℕ} {h : Handler} {row row' stored loaded : BackupAgentDispatch}
  {claimId agent : String} {prepared : Except HTTPException Prepared} {payload : StatusPayload}
  {e : Event} {f : BackupAgentDispatch → BackupAgentDispatch} {state : DispatchState}
  {reported : ReportedState} {now : DateTime} {r : Receipt} {ask : FreshClaim}

/-! ### Orderly steps -/

/-- What a handler writes or answers next suits the row of its dispatch. -/
def Handler.suits (h : Handler) (row : BackupAgentDispatch) (now : DateTime) : Bool :=
  match h.flow with
  | .recording _ _ _ => !row.state.isFinal
  | .requeueing => row.state = .offered ∨ row.state = .claimed ∧ row.grantExpired now
  | .rereading claimId => row.envelope = none ∨ row.claimId = some claimId
  | _ => true

/-- The condition on a step. -/
def orderly (s : Server) : Event → Bool
  | .next i => (s.handlers i).all fun h ↦ (s.dispatches h.dispatch).all (h.suits · s.clock)
  | _ => true

/-! ### What a step does to a dispatch -/

/-- What happens to a dispatch. -/
inductive Changes (s : Server) (d : ℕ) : Event → BackupAgentDispatch → BackupAgentDispatch → Prop
  | kept (e : Event) (row : BackupAgentDispatch) : Changes s d e row row
  | taken {i : ℕ} {h : Handler} {claimId : String} {envelope : Envelope}
      {artifactPath : Option String} {now : DateTime} {row : BackupAgentDispatch}
      (hh : s.handlers i = some h) (hd : h.dispatch = d)
      (hflow : h.flow = .sealing claimId envelope artifactPath now)
      (hfree : row.identityId = none) (hoffer : row.state = .offered) :
      Changes s d (.next i) row (row.claimedWith envelope now)
  | requeued {i : ℕ} {h : Handler} (row : BackupAgentDispatch) (hh : s.handlers i = some h)
      (hd : h.dispatch = d) (hflow : h.flow = .requeueing) :
      Changes s d (.next i) row (h.loaded.requeuedBy row)
  | recorded {i : ℕ} {h : Handler} {payload : StatusPayload} {reported : ReportedState}
      {now : DateTime} (row : BackupAgentDispatch) (hh : s.handlers i = some h)
      (hd : h.dispatch = d) (hflow : h.flow = .recording payload reported now) :
      Changes s d (.next i) row (h.loaded.recordedBy reported now row)
  | revoked (hostId : ℕ) (action : Lifecycle) (identity : String) (row : BackupAgentDispatch) :
      Changes s d (.lifecycle hostId action) row (row.revokedFor identity)

theorem write_dispatches (ht : t.dispatches = (s.write p f).dispatches)
    (hrow : s.dispatches d = some row) : t.dispatches d = some (if p = d then f row else row) := by
  rw [ht, Server.write]
  by_cases hp : p = d
  · subst hp
    simp [hrow]
  · rw [if_neg hp]
    exact (update_of_ne (Ne.symm hp) _ _).trans hrow

theorem decideClaim_dispatches :
    (decideClaim s i h claimId prepared).dispatches = s.dispatches := by
  simp only [decideClaim]
  split
  · split
    · rfl
    split
    · rfl
    split
    · rfl
    · rfl
  · split
    · rfl
    · rfl

theorem beginClaim_dispatches :
    (beginClaim s i d agent claimId prepared).dispatches = s.dispatches := by
  simp only [beginClaim]
  split
  · rfl
  split
  · rfl
  split
  · split
    · rfl
    · rfl
  · rfl

theorem beginStatus_dispatches : (beginStatus s i d agent payload).dispatches = s.dispatches := by
  simp only [beginStatus]
  split
  · rfl
  split
  · rfl
  · rfl

theorem arrive_dispatches (ht : t.dispatches = s.dispatches) :
    (s.arrive i t).dispatches = s.dispatches := by
  simp only [Server.arrive]
  split
  · exact ht
  · rfl

theorem answerReplay_dispatches : (answerReplay s i h claimId).dispatches = s.dispatches := by
  simp only [answerReplay]
  split
  · rfl
  · rfl

theorem answerConflict_dispatches : (answerConflict s i h claimId).dispatches = s.dispatches := by
  simp only [answerConflict]
  split
  · rfl
  · rfl

theorem advance_changes (hh : s.handlers i = some h) (hrow : s.dispatches d = some row) :
    ∃ row', (advance s i h).dispatches d = some row' ∧ Changes s d (.next i) row row' := by
  obtain ⟨p, identity, loaded, job, flow⟩ := h
  cases flow with
  | claiming claimId prepared =>
    exact ⟨row, (congrFun decideClaim_dispatches d).trans hrow, .kept _ row⟩
  | requeueing =>
    refine ⟨_, write_dispatches rfl hrow, ?_⟩
    split
    next hp => exact .requeued row hh hp rfl
    · exact .kept _ row
  | replaying claimId => exact ⟨row, hrow, .kept _ row⟩
  | rereading claimId => exact ⟨row, (congrFun answerReplay_dispatches d).trans hrow, .kept _ row⟩
  | sealing claimId envelope artifactPath now =>
    simp only [advance, commitClaim]
    split
    next hopen =>
      refine ⟨_, write_dispatches rfl hrow, ?_⟩
      split
      next hp =>
        subst hp
        simp only [hrow, any_some, decide_eq_true_eq] at hopen
        exact .taken hh rfl rfl hopen.1 hopen.2
      · exact .kept _ row
    · exact ⟨row, hrow, .kept _ row⟩
  | conflicted claimId =>
    exact ⟨row, (congrFun answerConflict_dispatches d).trans hrow, .kept _ row⟩
  | reporting payload =>
    simp only [advance]
    split
    · exact ⟨row, hrow, .kept _ row⟩
    · exact ⟨row, hrow, .kept _ row⟩
  | recording payload reported now =>
    refine ⟨_, write_dispatches rfl hrow, ?_⟩
    split
    next hp => exact .recorded row hh hp rfl
    · exact .kept _ row

/-- What a step of the server does to a dispatch. -/
theorem serverStep_changes (e : Event) (hrow : s.dispatches d = some row) :
    ∃ row', (serverStep s e).dispatches d = some row' ∧ Changes s d e row row' := by
  cases e with
  | tick microseconds => exact ⟨row, hrow, .kept _ row⟩
  | enrol agent hostId =>
    simp only [serverStep]
    split
    · exact ⟨row, hrow, .kept _ row⟩
    · exact ⟨row, hrow, .kept _ row⟩
  | queue p hostId =>
    simp only [serverStep]
    split
    · exact ⟨row, hrow, .kept _ row⟩
    · exact ⟨row, hrow, .kept _ row⟩
  | offers agent manifest =>
    refine ⟨row, ?_, .kept _ row⟩
    simp only [serverStep, offers]
    split
    · exact hrow
    split
    · exact hrow
    · show (if d ∈ _ ∧ s.dispatches d = none then some {} else s.dispatches d) = some row
      rw [if_neg (by simp [hrow]), hrow]
  | claim j p agent claimId prepared =>
    exact ⟨row, (congrFun (arrive_dispatches beginClaim_dispatches) d).trans hrow, .kept _ row⟩
  | status j p agent payload =>
    exact ⟨row, (congrFun (arrive_dispatches beginStatus_dispatches) d).trans hrow, .kept _ row⟩
  | lifecycle hostId action =>
    simp only [serverStep, lifecycle]
    split
    · exact ⟨row, hrow, .kept _ row⟩
    next identity _ =>
      exact ⟨_, congrArg (Option.map _) hrow, .revoked hostId action identity.id row⟩
  | next j =>
    simp only [serverStep]
    split
    · exact ⟨row, hrow, .kept _ row⟩
    next h hh => exact advance_changes hh hrow
  | lost j => exact ⟨row, hrow, .kept _ row⟩

theorem write_dispatches_none (ht : t.dispatches = (s.write p f).dispatches)
    (hnone : s.dispatches d = none) : t.dispatches d = none := by
  rw [ht, Server.write]
  by_cases hp : p = d
  · subst hp
    simp [hnone]
  · exact (update_of_ne (Ne.symm hp) _ _).trans hnone

theorem advance_none (hnone : s.dispatches d = none) : (advance s i h).dispatches d = none := by
  obtain ⟨p, identity, loaded, job, flow⟩ := h
  cases flow with
  | claiming claimId prepared => exact (congrFun decideClaim_dispatches d).trans hnone
  | requeueing => exact write_dispatches_none rfl hnone
  | replaying claimId => exact hnone
  | rereading claimId => exact (congrFun answerReplay_dispatches d).trans hnone
  | sealing claimId envelope artifactPath now =>
    simp only [advance, commitClaim]
    split
    · exact write_dispatches_none rfl hnone
    · exact hnone
  | conflicted claimId => exact (congrFun answerConflict_dispatches d).trans hnone
  | reporting payload =>
    simp only [advance]
    split
    · exact hnone
    · exact hnone
  | recording payload reported now => exact write_dispatches_none rfl hnone

/-- A dispatch that is new is offered. -/
theorem serverStep_created (e : Event) (hnone : s.dispatches d = none)
    (hrow : (serverStep s e).dispatches d = some row) : row = {} := by
  have habsurd : s.dispatches d = some row → row = {} := fun h ↦
    absurd (hnone.symm.trans h) (by simp)
  cases e with
  | tick microseconds => exact habsurd hrow
  | enrol agent hostId =>
    simp only [serverStep] at hrow
    split at hrow
    · exact habsurd hrow
    · exact habsurd hrow
  | queue p hostId =>
    simp only [serverStep] at hrow
    split at hrow
    · exact habsurd hrow
    · exact habsurd hrow
  | offers agent manifest =>
    simp only [serverStep, offers] at hrow
    split at hrow
    · exact habsurd hrow
    split at hrow
    · exact habsurd hrow
    · change (if d ∈ _ ∧ s.dispatches d = none then some {} else s.dispatches d) = some row at hrow
      split at hrow
      · exact (some.inj hrow).symm
      · exact habsurd hrow
  | claim j p agent claimId prepared =>
    exact habsurd ((congrFun (arrive_dispatches beginClaim_dispatches) d).symm.trans hrow)
  | status j p agent payload =>
    exact habsurd ((congrFun (arrive_dispatches beginStatus_dispatches) d).symm.trans hrow)
  | lifecycle hostId action =>
    simp only [serverStep, lifecycle] at hrow
    split at hrow
    · exact habsurd hrow
    · simp [hnone] at hrow
  | next j =>
    simp only [serverStep] at hrow
    split at hrow
    · exact habsurd hrow
    · exact absurd ((advance_none hnone).symm.trans hrow) (by simp)
  | lost j => exact habsurd hrow

/-! ### Dispatches that are over, and dispatches that run -/

/-- A dispatch that is over stays as it is, and one that runs goes on or is over. -/
structure KeepsOn (row row' : BackupAgentDispatch) : Prop where
  final : row.state.isFinal = true → row'.state = row.state
  running : row.state = .running → row'.state = .running ∨ row'.state.isFinal = true

theorem ReportedState.state_cases (reported : ReportedState) :
    reported.state = .running ∨ reported.state.isFinal = true := by
  cases reported with
  | running => exact .inl rfl
  | successful => exact .inr rfl
  | failed => exact .inr rfl

theorem recordedBy_state (loaded : BackupAgentDispatch) (reported : ReportedState)
    (now : DateTime) :
    (loaded.recordedBy reported now row).state = flushed loaded.state reported.state row.state := by
  simp only [BackupAgentDispatch.recordedBy]
  split
  · rfl
  · rfl

theorem isFinal_iff :
    state.isFinal = true ↔ state = .successful ∨ state = .failed ∨ state = .revoked := by
  cases state <;> simp [DispatchState.isFinal]

theorem KeepsOn.refl (row : BackupAgentDispatch) : KeepsOn row row := ⟨fun _ ↦ rfl, .inl⟩

theorem KeepsOn.trans {row'' : BackupAgentDispatch} (h : KeepsOn row row')
    (h' : KeepsOn row' row'') : KeepsOn row row'' where
  final hrow := by
    have hsame := h.final hrow
    exact (h'.final (hsame ▸ hrow)).trans hsame
  running hrow := by
    rcases h.running hrow with hruns | hover
    · exact h'.running hruns
    · exact .inr (h'.final hover ▸ hover)

theorem orderly_suits (hok : orderly s (.next i) = true) (hh : s.handlers i = some h)
    (hrow : s.dispatches h.dispatch = some row) : h.suits row s.clock = true := by
  simpa only [orderly, hh, hrow, all_some] using hok

theorem Changes.keepsOn (hchange : Changes s d e row row')
    (hrow : s.dispatches d = some row) (hok : orderly s e = true) : KeepsOn row row' := by
  cases hchange with
  | kept => exact .refl row
  | taken _ _ _ _ hoffer => constructor <;> simp [hoffer, DispatchState.isFinal]
  | requeued _ hh hd hflow =>
    subst hd
    have hsuits := orderly_suits hok hh hrow
    simp only [Handler.suits, hflow, decide_eq_true_eq] at hsuits
    rcases hsuits with hs | ⟨hs, -⟩
    · constructor <;> simp [hs, DispatchState.isFinal]
    · constructor <;> simp [hs, DispatchState.isFinal]
  | @recorded j k payload reported now _ hh hd hflow =>
    subst hd
    have hsuits := orderly_suits hok hh hrow
    simp only [Handler.suits, hflow, Bool.not_eq_true'] at hsuits
    refine ⟨fun hover ↦ absurd hover (by simp [hsuits]), fun hruns ↦ ?_⟩
    rw [recordedBy_state, flushed]
    split
    · exact .inl hruns
    · exact reported.state_cases
  | revoked _ _ identity =>
    rw [BackupAgentDispatch.revokedFor]
    split
    next hopen =>
      refine ⟨fun hover ↦ ?_, fun _ ↦ .inr rfl⟩
      rcases isFinal_iff.1 hover with hs | hs | hs
      · exact absurd hs hopen.2.1
      · exact absurd hs hopen.2.2
      · exact hs.symm
    · exact .refl row

theorem run_keepsOn : ∀ (es : List Event) {s : Server} {row : BackupAgentDispatch},
    s.dispatches d = some row → serverMachine.Admissible (orderly · · = true) s es →
      ∃ row', (serverMachine.run s es).dispatches d = some row' ∧ KeepsOn row row'
  | [], _, row, hrow, _ => ⟨row, hrow, .refl row⟩
  | e :: es, _, _, hrow, hes => by
    obtain ⟨next, hnext, hchange⟩ := serverStep_changes e hrow
    obtain ⟨last, hlast, hkeeps⟩ := run_keepsOn es hnext hes.2
    exact ⟨last, hlast, (hchange.keepsOn hrow hes.1).trans hkeeps⟩

/-! ### What the rows and the handlers say -/

/-- A row says what its state says. -/
structure Consistent (row : BackupAgentDispatch) : Prop where
  unbound : row.identityId = none → row.claimId = none ∧ row.envelope = none
  bound : row.identityId ≠ none → row.claimId ≠ none ∧ row.envelope ≠ none
  offered : row.state = .offered → row.identityId = none
  claimed : row.state = .claimed → row.identityId ≠ none ∧
    ∀ envelope, row.envelope = some envelope → row.grantExpiresAt = some envelope.expiresAt

/-- A handler has loaded such a row, and where it is says what it has seen there. -/
structure Sound (h : Handler) : Prop where
  loaded : Consistent h.loaded
  requeueing : h.flow = .requeueing → h.loaded.identityId ≠ none
  sealing : ∀ claimId envelope artifactPath now,
    h.flow = .sealing claimId envelope artifactPath now → envelope.claimId = claimId
  recording : ∀ payload reported now, h.flow = .recording payload reported now →
    reported ∈ allowed h.loaded.state

theorem consistent_new : Consistent {} where
  unbound _ := ⟨rfl, rfl⟩
  bound hbound := absurd rfl hbound
  offered _ := rfl
  claimed hs := nomatch hs

/-- Everything is given back. -/
theorem Consistent.requeuedBy (row : BackupAgentDispatch)
    (hloaded : Consistent loaded) (hbound : loaded.identityId ≠ none) :
    (loaded.requeuedBy row).identityId = none ∧ (loaded.requeuedBy row).claimId = none ∧
      (loaded.requeuedBy row).envelope = none ∧ (loaded.requeuedBy row).state = .offered := by
  obtain ⟨hclaim, henv⟩ := hloaded.bound hbound
  have hst : DispatchState.offered ≠ loaded.state := fun hs ↦ hbound (hloaded.offered hs.symm)
  exact ⟨flushed_of_ne hbound.symm, flushed_of_ne hclaim.symm, flushed_of_ne henv.symm,
    flushed_of_ne hst⟩

theorem state_ne_of_allowed (hmem : reported ∈ allowed state) : reported.state ≠ state := by
  rintro rfl
  cases reported <;> simp [allowed, ReportedState.state] at hmem

theorem recordedBy_claim (row loaded : BackupAgentDispatch) (reported : ReportedState)
    (now : DateTime) :
    (loaded.recordedBy reported now row).identityId = row.identityId ∧
      (loaded.recordedBy reported now row).claimId = row.claimId ∧
      (loaded.recordedBy reported now row).envelope = row.envelope := by
  simp only [BackupAgentDispatch.recordedBy]
  split
  · exact ⟨rfl, rfl, rfl⟩
  · exact ⟨rfl, rfl, rfl⟩

theorem revokedFor_claim (row : BackupAgentDispatch) (identity : String) :
    (row.revokedFor identity).identityId = row.identityId ∧
      (row.revokedFor identity).claimId = row.claimId ∧
      (row.revokedFor identity).envelope = row.envelope := by
  rw [BackupAgentDispatch.revokedFor]
  split
  · exact ⟨rfl, rfl, rfl⟩
  · exact ⟨rfl, rfl, rfl⟩

/-- Where only the state moves, and moves on. -/
theorem Consistent.of_claim (hrow : Consistent row) (hident : row'.identityId = row.identityId)
    (hclaim : row'.claimId = row.claimId) (henv : row'.envelope = row.envelope)
    (hoffer : row'.state ≠ .offered) (hclaimed : row'.state ≠ .claimed) : Consistent row' where
  unbound hnone := by
    rw [hclaim, henv]
    exact hrow.unbound (hident.symm.trans hnone)
  bound hbound := by
    rw [hclaim, henv]
    exact hrow.bound (hident ▸ hbound)
  offered hs := absurd hs hoffer
  claimed hs := absurd hs hclaimed

theorem Changes.consistent (hchange : Changes s d e row row')
    (hsound : ∀ i h, s.handlers i = some h → Sound h) (hrow : Consistent row) :
    Consistent row' := by
  cases hchange with
  | kept => exact hrow
  | taken =>
    refine ⟨fun hnone ↦ absurd hnone (by simp [BackupAgentDispatch.claimedWith]),
      fun _ ↦ ⟨by simp [BackupAgentDispatch.claimedWith], by simp [BackupAgentDispatch.claimedWith]⟩,
      fun hs ↦ absurd hs (by simp [BackupAgentDispatch.claimedWith]),
      fun _ ↦ ⟨by simp [BackupAgentDispatch.claimedWith], fun envelope henv ↦ ?_⟩⟩
    exact congrArg (Option.map Envelope.expiresAt) henv
  | @requeued j k _ hh _ hflow =>
    have hk := hsound j k hh
    obtain ⟨hident, hclaim, henv, hst⟩ :=
      hk.loaded.requeuedBy row (hk.requeueing hflow)
    refine ⟨fun _ ↦ ⟨hclaim, henv⟩, fun hbound ↦ absurd hident hbound, fun _ ↦ hident, fun hs ↦ ?_⟩
    exact nomatch hst.symm.trans hs
  | @recorded j k payload reported now _ hh _ hflow =>
    have hk := hsound j k hh
    have hne := state_ne_of_allowed (hk.recording payload reported now hflow)
    have hst : (k.loaded.recordedBy reported now row).state = reported.state :=
      (recordedBy_state k.loaded reported now).trans (flushed_of_ne hne)
    obtain ⟨hident, hclaim, henv⟩ := recordedBy_claim row k.loaded reported now
    refine hrow.of_claim hident hclaim henv ?_ ?_
    · cases reported <;> simp [hst, ReportedState.state]
    · cases reported <;> simp [hst, ReportedState.state]
  | revoked _ _ identity =>
    rw [BackupAgentDispatch.revokedFor]
    split
    · exact hrow.of_claim rfl rfl rfl (fun hs ↦ nomatch hs) fun hs ↦ nomatch hs
    · exact hrow

/-- A step that a handler takes with what it has loaded. -/
theorem Sound.goes (hk : Sound h) {flow : Flow} (hrequeueing : flow ≠ .requeueing)
    (hsealing : ∀ claimId envelope artifactPath now,
      flow ≠ .sealing claimId envelope artifactPath now)
    (hrecording : ∀ payload reported now, flow ≠ .recording payload reported now) :
    Sound { h with flow } where
  loaded := hk.loaded
  requeueing hflow := absurd hflow hrequeueing
  sealing claimId envelope artifactPath now hflow :=
    absurd hflow (hsealing claimId envelope artifactPath now)
  recording payload reported now hflow := absurd hflow (hrecording payload reported now)

section

variable (hsound : ∀ i h, s.handlers i = some h → Sound h)

include hsound

/-- The handlers after one of them has gone on, or ended. -/
theorem sound_update {k : Option Handler}
    (hk : ∀ h, k = some h → Sound h) :
    ∀ j h, Function.update s.handlers i k j = some h → Sound h := by
  intro j h hh
  rcases update_eq_some_iff.1 hh with ⟨-, hnew⟩ | ⟨-, hold⟩
  · exact hk h hnew
  · exact hsound j h hold

theorem sound_end :
    ∀ j h, Function.update s.handlers i none j = some h → Sound h :=
  sound_update hsound fun _ hnone ↦ nomatch hnone

theorem sound_put (hk : Sound h) :
    ∀ j h', Function.update s.handlers i (some h) j = some h' → Sound h' :=
  sound_update hsound fun _ hsome ↦ some.inj hsome ▸ hk

theorem decideClaim_sound (hk : Sound h) :
    ∀ j h', (decideClaim s i h claimId prepared).handlers j = some h' → Sound h' := by
  simp only [decideClaim]
  split
  next owner howner =>
    split
    · exact sound_end hsound
    split
    · refine sound_put hsound ⟨hk.loaded, fun _ ↦ ?_, by simp, by simp⟩
      simp [howner]
    split
    · exact sound_end hsound
    · exact sound_put hsound (hk.goes (by simp) (by simp) (by simp))
  · split
    · exact sound_end hsound
    · refine sound_put hsound ⟨hk.loaded, by simp, ?_, by simp⟩
      rintro _ _ _ _ hflow
      obtain ⟨rfl, rfl, -, -⟩ := Flow.sealing.inj hflow
      rfl

end

theorem checkStatus_eq_ok (hcheck : checkStatus loaded payload now = .ok reported) :
    reported ∈ allowed loaded.state := by
  simp only [checkStatus] at hcheck
  split at hcheck
  · exact nomatch hcheck
  split at hcheck
  · exact nomatch hcheck
  split at hcheck
  · exact nomatch hcheck
  split at hcheck
  · exact nomatch hcheck
  next hmem =>
    split at hcheck
    · exact nomatch hcheck
    split at hcheck
    · exact nomatch hcheck
    split at hcheck
    · exact nomatch hcheck
    · exact Except.ok.inj hcheck ▸ not_not.1 hmem

theorem advance_sound (hsound : ∀ i h, s.handlers i = some h → Sound h)
    (hh : s.handlers i = some h) :
    ∀ j h', (advance s i h).handlers j = some h' → Sound h' := by
  have hk := hsound i h hh
  simp only [advance]
  split
  · exact decideClaim_sound hsound hk
  · exact sound_end hsound
  · exact sound_put hsound (hk.goes (by simp) (by simp) (by simp))
  · simp only [answerReplay]
    split
    · exact sound_end hsound
    · exact sound_end hsound
  · simp only [commitClaim]
    split
    · exact sound_end hsound
    · exact sound_put hsound (hk.goes (by simp) (by simp) (by simp))
  · simp only [answerConflict]
    split
    · exact sound_end hsound
    · exact sound_end hsound
  · split
    · exact sound_end hsound
    next reported hcheck =>
      refine sound_put hsound ⟨hk.loaded, by simp, by simp, ?_⟩
      rintro _ _ _ hflow
      obtain ⟨-, rfl, -⟩ := Flow.recording.inj hflow
      exact checkStatus_eq_ok hcheck
  · exact sound_end hsound

theorem arrive_sound (hsound : ∀ i h, s.handlers i = some h → Sound h)
    (ht : ∀ i h, t.handlers i = some h → Sound h) :
    ∀ j h, (s.arrive i t).handlers j = some h → Sound h := by
  simp only [Server.arrive]
  split
  · exact ht
  · exact hsound

section

variable (hrows : ∀ d row, s.dispatches d = some row → Consistent row)

include hrows

theorem beginClaim_sound
    (hsound : ∀ i h, s.handlers i = some h → Sound h) :
    ∀ j h, (beginClaim s i d agent claimId prepared).handlers j = some h → Sound h := by
  simp only [beginClaim]
  split
  · exact hsound
  split
  · exact hsound
  split
  next row job hrow _ =>
    split
    · exact hsound
    · exact sound_put hsound ⟨hrows d row hrow, by simp, by simp, by simp⟩
  · exact hsound

theorem beginStatus_sound
    (hsound : ∀ i h, s.handlers i = some h → Sound h) :
    ∀ j h, (beginStatus s i d agent payload).handlers j = some h → Sound h := by
  simp only [beginStatus]
  split
  · exact hsound
  split
  next row job hrow _ =>
    exact sound_put hsound
      ⟨hrows d row (filter_eq_some_iff.1 hrow).1, by simp, by simp, by simp⟩
  · exact hsound

theorem serverStep_sound
    (hsound : ∀ i h, s.handlers i = some h → Sound h) (e : Event) :
    ∀ j h, (serverStep s e).handlers j = some h → Sound h := by
  cases e with
  | tick microseconds => exact hsound
  | enrol agent hostId =>
    simp only [serverStep]
    split
    · exact hsound
    · exact hsound
  | queue p hostId =>
    simp only [serverStep]
    split
    · exact hsound
    · exact hsound
  | offers agent manifest =>
    simp only [serverStep, offers]
    split
    · exact hsound
    split
    · exact hsound
    · exact hsound
  | claim j p agent claimId prepared => exact arrive_sound hsound (beginClaim_sound hrows hsound)
  | status j p agent payload => exact arrive_sound hsound (beginStatus_sound hrows hsound)
  | lifecycle hostId action =>
    simp only [serverStep, lifecycle]
    split
    · exact hsound
    · exact hsound
  | next j =>
    simp only [serverStep]
    split
    · exact hsound
    next h hh => exact advance_sound hsound hh
  | lost j => exact sound_end hsound

theorem serverStep_consistent (hsound : ∀ i h, s.handlers i = some h → Sound h) (e : Event)
    (d : ℕ) (row' : BackupAgentDispatch) (hrow' : (serverStep s e).dispatches d = some row') :
    Consistent row' := by
  cases hrow : s.dispatches d with
  | none => exact serverStep_created e hrow hrow' ▸ consistent_new
  | some row =>
    obtain ⟨row'', hrow'', hchange⟩ := serverStep_changes e hrow
    obtain rfl := some.inj (hrow''.symm.trans hrow')
    exact hchange.consistent hsound (hrows d row hrow)

end

/-- **A dispatch says what its state says** in every run, also where stale instances are written
back: one that is on offer has no agent, and one that is claimed has an agent, the id of its claim
and the envelope of its grant. -/
theorem dispatch_consistent (hs : serverMachine.Reachable s) (hrow : s.dispatches d = some row) :
    Consistent row := by
  have hinvariant : (∀ d row, s.dispatches d = some row → Consistent row) ∧
      ∀ i h, s.handlers i = some h → Sound h := by
    refine Machine.Reachable.invariant (P := fun s ↦
      (∀ d row, s.dispatches d = some row → Consistent row) ∧
        ∀ i h, s.handlers i = some h → Sound h) (fun s hinit ↦ ⟨fun d row hrow ↦ ?_,
          fun i h hh ↦ ?_⟩) (fun s e hs ↦ ⟨serverStep_consistent hs.1 hs.2 e,
            serverStep_sound hs.1 hs.2 e⟩) hs
    · exact absurd ((hinit.dispatches d).symm.trans hrow) (by simp)
    · exact absurd ((hinit.handlers i).symm.trans hh) (by simp)
  exact hinvariant.1 d row hrow

/-! ### Envelopes that are sent -/

/-- An envelope that a claim has received. -/
structure Receipt where
  dispatch : ℕ
  claimId : String
  envelope : Envelope
  sentAt : DateTime

/-- The envelope in a reply. -/
def Reply.receipt : Reply → Option Receipt
  | .envelope dispatch claimId sent sentAt => some ⟨dispatch, claimId, sent, sentAt⟩
  | _ => none

/-- The envelopes that have been sent, newest first. -/
def Server.receipts (s : Server) : List Receipt := s.replies.filterMap Reply.receipt

/-- The dispatch still holds the claim and the envelope that were sent. -/
def Stored (s : Server) (r : Receipt) : Prop :=
  ∃ row, s.dispatches r.dispatch = some row ∧ row.claimId = some r.claimId ∧
    row.envelope = some r.envelope

/-- Two claims of one dispatch: one claim id and one envelope, or the earlier grant has expired. -/
def Separated (later earlier : Receipt) : Prop :=
  later.dispatch = earlier.dispatch →
    later.claimId = earlier.claimId ∧ later.envelope = earlier.envelope ∨
      earlier.envelope.expiresAt < later.sentAt

/-- What is sent in a step: no envelope, or the one that its dispatch holds now. -/
def Sends (s t : Server) : Prop :=
  t.receipts = s.receipts ∨ ∃ r, t.receipts = r :: s.receipts ∧ r.sentAt = t.clock ∧ Stored t r

theorem Sends.none (ht : t.replies = s.replies) : Sends s t :=
  .inl (congrArg (List.filterMap Reply.receipt) ht)

theorem Sends.other {r : Reply} (hr : r.receipt = Option.none)
    (ht : t.replies = r :: s.replies) : Sends s t := by
  refine .inl ?_
  rw [Server.receipts, ht, List.filterMap_cons_none hr]
  rfl

theorem Sends.envelope {t : Server} {claimId : String} {envelope : Envelope}
    (ht : t.replies = .envelope d claimId envelope t.clock :: s.replies)
    (hrow : t.dispatches d = some row) (hclaim : row.claimId = some claimId)
    (henv : row.envelope = some envelope) : Sends s t := by
  refine .inr ⟨⟨d, claimId, envelope, t.clock⟩, ?_, rfl, row, hrow, hclaim, henv⟩
  rw [Server.receipts, ht]
  rfl

theorem answerReplay_sends (hflow : h.flow = .rereading claimId)
    (hsuits : ∀ row, s.dispatches h.dispatch = some row → h.suits row s.clock = true) :
    Sends s (answerReplay s i h claimId) := by
  simp only [answerReplay]
  split
  next envelope hfound =>
    obtain ⟨row, hrow, henv⟩ := bind_eq_some_iff.1 hfound
    have hkept := hsuits row hrow
    simp only [Handler.suits, hflow, decide_eq_true_eq, henv] at hkept
    exact .envelope rfl hrow (hkept.resolve_left (by simp)) henv
  · exact .other rfl rfl

theorem answerConflict_sends : Sends s (answerConflict s i h claimId) := by
  simp only [answerConflict]
  split
  next envelope hfound =>
    obtain ⟨row, hfiltered, henv⟩ := bind_eq_some_iff.1 hfound
    obtain ⟨hrow, hsame⟩ := filter_eq_some_iff.1 hfiltered
    exact .envelope rfl hrow (of_decide_eq_true hsame).2 henv
  · exact .other rfl rfl

theorem commitClaim_sends {envelope : Envelope} {artifactPath : Option String}
    (hclaim : envelope.claimId = claimId) :
    Sends s (commitClaim s i h claimId envelope artifactPath now) := by
  simp only [commitClaim]
  split
  next hopen =>
    obtain ⟨row, hrow, -⟩ := (any_eq_true _ _).1 hopen
    have hwritten := write_dispatches (f := .claimedWith envelope now) (t := s.write h.dispatch
      (.claimedWith envelope now)) rfl hrow
    rw [if_pos rfl] at hwritten
    exact .envelope rfl hwritten (congrArg some hclaim) rfl
  · exact .none rfl

theorem decideClaim_sends : Sends s (decideClaim s i h claimId prepared) := by
  simp only [decideClaim]
  split
  · split
    · exact .other rfl rfl
    split
    · exact .none rfl
    split
    · exact .other rfl rfl
    · exact .none rfl
  · split
    · exact .other rfl rfl
    · exact .none rfl

theorem advance_sends (hk : Sound h)
    (hsuits : ∀ row, s.dispatches h.dispatch = some row → h.suits row s.clock = true) :
    Sends s (advance s i h) := by
  simp only [advance]
  split
  · exact decideClaim_sends
  · exact .other rfl rfl
  · exact .none rfl
  next claimId hflow => exact answerReplay_sends hflow hsuits
  next claimId envelope artifactPath now hflow =>
    exact commitClaim_sends (hk.sealing claimId envelope artifactPath now hflow)
  · exact answerConflict_sends
  · split
    · exact .other rfl rfl
    · exact .none rfl
  · exact .other rfl rfl

theorem beginClaim_sends : Sends s (beginClaim s i d agent claimId prepared) := by
  simp only [beginClaim]
  split
  · exact .other rfl rfl
  split
  · exact .other rfl rfl
  split
  · split
    · exact .other rfl rfl
    · exact .none rfl
  · exact .other rfl rfl

theorem beginStatus_sends : Sends s (beginStatus s i d agent payload) := by
  simp only [beginStatus]
  split
  · exact .other rfl rfl
  split
  · exact .none rfl
  · exact .other rfl rfl

theorem arrive_sends (ht : Sends s t) : Sends s (s.arrive i t) := by
  simp only [Server.arrive]
  split
  · exact ht
  · exact .none rfl

theorem serverStep_sends (hsound : ∀ i h, s.handlers i = some h → Sound h)
    (hok : orderly s e = true) : Sends s (serverStep s e) := by
  cases e with
  | tick microseconds => exact .none rfl
  | enrol agent hostId =>
    simp only [serverStep]
    split
    · exact .none rfl
    · exact .none rfl
  | queue p hostId =>
    simp only [serverStep]
    split
    · exact .none rfl
    · exact .none rfl
  | offers agent manifest =>
    simp only [serverStep, offers]
    split
    · exact .other rfl rfl
    split
    · exact .other rfl rfl
    · exact .other rfl rfl
  | claim j p agent claimId prepared => exact arrive_sends beginClaim_sends
  | status j p agent payload => exact arrive_sends beginStatus_sends
  | lifecycle hostId action =>
    simp only [serverStep, lifecycle]
    split
    · exact .other rfl rfl
    · exact .other rfl rfl
  | next j =>
    simp only [serverStep]
    split
    · exact .none rfl
    next h hh => exact advance_sends (hsound j h hh) fun row hrow ↦ orderly_suits hok hh hrow
  | lost j => exact .none rfl

theorem advance_clock : (advance s i h).clock = s.clock := by
  simp only [advance, decideClaim, answerReplay, commitClaim, answerConflict]
  repeat' split
  all_goals rfl

theorem clock_le_step (e : Event) : s.clock ≤ (serverStep s e).clock := by
  cases e with
  | tick microseconds => exact Int.le_add_of_nonneg_right (Int.natCast_nonneg _)
  | next j =>
    simp only [serverStep]
    split
    · exact le_rfl
    · exact advance_clock.ge
  | _ =>
    simp only [serverStep, offers, lifecycle, Server.arrive, beginClaim, beginStatus]
    repeat' split
    all_goals exact le_rfl

/-! ### The invariant -/

/-- The grant that was sent has expired, or the dispatch still holds what was sent. -/
def Live (s : Server) (r : Receipt) : Prop := r.envelope.expiresAt < s.clock ∨ Stored s r

/-- What holds in every state of an orderly run. -/
structure DispatchInvariant (s : Server) : Prop where
  rows : ∀ d row, s.dispatches d = some row → Consistent row
  handlers : ∀ i h, s.handlers i = some h → Sound h
  live : ∀ r ∈ s.receipts, Live s r
  separated : s.receipts.Pairwise Separated

theorem ServerInitial.dispatches_invariant (hs : ServerInitial s) : DispatchInvariant s where
  rows d _ hrow := absurd ((hs.dispatches d).symm.trans hrow) (by simp)
  handlers i _ hh := absurd ((hs.handlers i).symm.trans hh) (by simp)
  live r hr := by simp [Server.receipts, hs.replies] at hr
  separated := by simp [Server.receipts, hs.replies]

/-- Nothing but the end of a grant takes away what was sent under it. -/
theorem Live.step (hs : DispatchInvariant s) (hok : orderly s e = true)
    (hlive : Live s r) : Live (serverStep s e) r := by
  rcases hlive with hexpired | ⟨row, hrow, hclaim, henv⟩
  · exact .inl (hexpired.trans_le (clock_le_step e))
  obtain ⟨row', hrow', hchange⟩ := serverStep_changes e hrow
  have hcons := hs.rows _ row hrow
  have hbound : row.identityId ≠ none := fun hnone ↦
    absurd ((hcons.unbound hnone).1.symm.trans hclaim) (by simp)
  cases hchange with
  | kept => exact .inr ⟨row, hrow', hclaim, henv⟩
  | taken _ _ _ hfree => exact absurd hfree hbound
  | requeued _ hh hd hflow =>
    have hsuits := orderly_suits hok hh (hd ▸ hrow)
    simp only [Handler.suits, hflow, decide_eq_true_eq] at hsuits
    rcases hsuits with hoffer | ⟨hclaimed, hexpired⟩
    · exact absurd (hcons.offered hoffer) hbound
    · left
      have hgrant := (hcons.claimed hclaimed).2 r.envelope henv
      rw [BackupAgentDispatch.grantExpired, hgrant, any_some, decide_eq_true_eq] at hexpired
      exact hexpired.trans_le (clock_le_step _)
  | @recorded j k payload reported now _ hh hd hflow =>
    obtain ⟨-, hclaim', henv'⟩ := recordedBy_claim row k.loaded reported now
    exact .inr ⟨_, hrow', hclaim'.trans hclaim, henv'.trans henv⟩
  | revoked hostId action identity =>
    obtain ⟨-, hclaim', henv'⟩ := revokedFor_claim row identity
    exact .inr ⟨_, hrow', hclaim'.trans hclaim, henv'.trans henv⟩

theorem Stored.eq {r' : Receipt} (hr : Stored t r) (hr' : Stored t r')
    (hd : r.dispatch = r'.dispatch) : r.claimId = r'.claimId ∧ r.envelope = r'.envelope := by
  obtain ⟨row, hrow, hclaim, henv⟩ := hr
  obtain ⟨row', hrow', hclaim', henv'⟩ := hr'
  obtain rfl := some.inj (hrow.symm.trans (hd ▸ hrow'))
  exact ⟨some.inj (hclaim.symm.trans hclaim'), some.inj (henv.symm.trans henv')⟩

theorem DispatchInvariant.step (hs : DispatchInvariant s)
    (hok : orderly s e = true) : DispatchInvariant (serverStep s e) := by
  have hold : ∀ r ∈ s.receipts, Live (serverStep s e) r := fun r hr ↦ (hs.live r hr).step hs hok
  refine ⟨serverStep_consistent hs.rows hs.handlers e, serverStep_sound hs.rows hs.handlers e,
    ?_, ?_⟩
  · rcases serverStep_sends hs.handlers hok with hsame | ⟨r, hnew, -, hsto⟩
    · rw [hsame]
      exact hold
    · rw [hnew]
      exact List.forall_mem_cons.2 ⟨.inr hsto, hold⟩
  · rcases serverStep_sends hs.handlers hok with hsame | ⟨r, hnew, hsent, hsto⟩
    · rw [hsame]
      exact hs.separated
    · rw [hnew]
      refine List.pairwise_cons.2 ⟨fun earlier hearlier hd ↦ ?_, hs.separated⟩
      -- what is sent now is what the dispatch holds; the earlier envelope is that one, or over
      rcases hold earlier hearlier with hexpired | hkept
      · exact .inr (hsent.symm ▸ hexpired)
      · exact .inl (hsto.eq hkept hd)

theorem dispatchInvariant (hs : serverMachine.ReachableBy (orderly · · = true) s) :
    DispatchInvariant s :=
  hs.invariant (fun _ hinit ↦ ServerInitial.dispatches_invariant hinit)
    fun _ _ hinv hok ↦ hinv.step hok

/-! ### Expired claims -/

/-- A claim, made under the identifier of a free handler. -/
structure FreshClaim where
  handler : ℕ
  dispatch : ℕ
  agent : String
  claimId : String
  prepared : Prepared

/-- The handler of the claim, from its arrival to its end. -/
def FreshClaim.events (ask : FreshClaim) : List Event :=
  [.claim ask.handler ask.dispatch ask.agent ask.claimId (.ok ask.prepared), .next ask.handler,
    .next ask.handler, .next ask.handler]

/-- The active agent of the host asks, under a fresh id, for a dispatch that is claimed under a
grant that has expired. -/
structure Stranded (s : Server) (ask : FreshClaim) (row : BackupAgentDispatch) : Prop where
  free : s.handlers ask.handler = none
  dispatch : s.dispatches ask.dispatch = some row
  claimed : row.state = .claimed
  expired : row.grantExpired s.clock = true
  agent : ∃ job identity, s.jobs ask.dispatch = some job ∧
    s.identities.find? (·.id = ask.agent) = some identity ∧ identity.state = .active ∧
      identity.hostId = job.hostId
  uuid : isUuid4 ask.claimId = true
  fresh : row.claimId ≠ some ask.claimId

/-- The dispatch can be claimed, or the claim has it. -/
def Reclaimed (s : Server) (ask : FreshClaim) : Prop :=
  ∃ row, s.dispatches ask.dispatch = some row ∧
    (row.state = .offered ∧ row.identityId = none ∨ row.claimId = some ask.claimId)

/-- A claim under a fresh id frees a dispatch whose grant has expired. -/
def ReclaimsExpired (s : Server) : Prop :=
  ∀ ask row, Stranded s ask row → Reclaimed (serverMachine.run s ask.events) ask

theorem serverStep_idle (hfree : s.handlers i = none) : serverStep s (.next i) = s := by
  simp only [serverStep, hfree]

theorem serverStep_put :
    serverStep (s.put i (some h)) (.next i) = advance (s.put i (some h)) i h := by
  have hself : (s.put i (some h)).handlers i = some h := update_self ..
  simp only [serverStep, hself]

/-- A retry under another id is refused, whatever its grant. -/
theorem decideClaim_of_other (hbound : h.loaded.identityId ≠ none)
    (hother : h.loaded.claimId ≠ some claimId) :
    decideClaim s i h claimId prepared = s.answer i (.error ⟨409, "Dispatch already claimed"⟩) := by
  obtain ⟨owner, howner⟩ := ne_none_iff_exists'.1 hbound
  simp only [decideClaim, howner]
  exact if_pos (.inr hother)

/-- The claim is refused, and the dispatch is what it was. -/
theorem Stranded.refused (hs : DispatchInvariant s) (h : Stranded s ask row) :
    (serverMachine.run s ask.events).dispatches = s.dispatches := by
  obtain ⟨job, identity, hjob, hfound, hactive, hhost⟩ := h.agent
  have hauth : authenticateRequest s ask.agent = .ok identity := by
    simp only [authenticateRequest, hfound, hactive, true_or, if_true]
  have hbegun : serverStep s
      (.claim ask.handler ask.dispatch ask.agent ask.claimId (.ok ask.prepared)) =
      s.put ask.handler (some ⟨ask.dispatch, identity.id, row, job,
        .claiming ask.claimId (.ok ask.prepared)⟩) := by
    simp [serverStep, Server.arrive, h.free, beginClaim, hauth, h.uuid, h.dispatch, hjob, hhost]
  have hrefused : ∀ {k : Handler} {prepared : Except HTTPException Prepared}, k.loaded = row →
      k.flow = .claiming ask.claimId prepared →
        serverStep (s.put ask.handler (some k)) (.next ask.handler) =
          (s.put ask.handler (some k)).answer ask.handler
            (.error ⟨409, "Dispatch already claimed"⟩) := by
    intro k prepared hloaded hflow
    have hbound := ((hs.rows _ row h.dispatch).claimed h.claimed).1
    rw [serverStep_put]
    simp only [advance, hflow]
    exact decideClaim_of_other (hloaded ▸ hbound) (hloaded ▸ h.fresh)
  have hended : ∀ {t : Server} {r : Reply},
      (t.answer ask.handler r).handlers ask.handler = none := update_self ..
  have hrun : serverMachine.run s ask.events = serverStep (serverStep (serverStep (serverStep s
        (.claim ask.handler ask.dispatch ask.agent ask.claimId (.ok ask.prepared)))
          (.next ask.handler)) (.next ask.handler)) (.next ask.handler) := rfl
  rw [hrun, hbegun, hrefused rfl rfl, serverStep_idle hended, serverStep_idle hended]
  rfl

theorem Stranded.not_reclaimed (hs : DispatchInvariant s)
    (h : Stranded s ask row) : ¬ Reclaimed (serverMachine.run s ask.events) ask := by
  rintro ⟨row', hrow', hfreed⟩
  rw [h.refused hs] at hrow'
  obtain rfl := some.inj (h.dispatch.symm.trans hrow')
  rcases hfreed with ⟨hoffer, -⟩ | htaken
  · exact absurd (hoffer.symm.trans h.claimed) (by simp)
  · exact h.fresh htaken

theorem reclaimsExpired_iff (hs : DispatchInvariant s) :
    ReclaimsExpired s ↔ ∀ ask row, ¬ Stranded s ask row :=
  ⟨fun hall ask row h ↦ h.not_reclaimed hs (hall ask row h),
    fun hnone ask row h ↦ absurd h (hnone ask row)⟩

/-! ### The rules -/

/-- Dispatches that are over stay as they are, dispatches that run are not offered again, and what
two claims receive is one envelope or lies on both sides of the end of a grant. -/
structure DispatchRules (ok : Server → Event → Prop) (s : Server) : Prop where
  final : ∀ es, serverMachine.Admissible ok s es → ∀ d row, s.dispatches d = some row →
    row.state.isFinal = true → ∃ row', (serverMachine.run s es).dispatches d = some row' ∧
      row'.state = row.state
  running : ∀ es, serverMachine.Admissible ok s es → ∀ d row, s.dispatches d = some row →
    row.state = .running → ∃ row', (serverMachine.run s es).dispatches d = some row' ∧
      (row'.state = .running ∨ row'.state.isFinal = true)
  separated : s.receipts.Pairwise Separated

/-- **Backup dispatches along orderly runs.** A claim under a fresh id frees no dispatch. -/
theorem dispatch_rules (hs : serverMachine.ReachableBy (orderly · · = true) s) :
    DispatchRules (orderly · · = true) s ∧
      (ReclaimsExpired s ↔ ∀ ask row, ¬ Stranded s ask row) := by
  have hinv := dispatchInvariant hs
  refine ⟨⟨fun es hes d row hrow hover ↦ ?_, fun es hes d row hrow hruns ↦ ?_, hinv.separated⟩,
    reclaimsExpired_iff hinv⟩
  · obtain ⟨row', hrow', hkeeps⟩ := run_keepsOn es hrow hes
    exact ⟨row', hrow', hkeeps.final hover⟩
  · obtain ⟨row', hrow', hkeeps⟩ := run_keepsOn es hrow hes
    exact ⟨row', hrow', hkeeps.running hruns⟩

/-! ### One dispatch -/

section Sample

/-- The id of the first claim. -/
def firstId : String := "5cc125d3-1a8f-4530-8584-c256c49f772b"

/-- The id of another claim. -/
def secondId : String := "0d9a2f6e-77b1-4c52-9e0d-3f5b8a1c6d24"

/-- What the preparation of a claim gives. -/
def samplePrepared : Prepared := ⟨"sealed", none⟩

/-- An agent enrols, a job is queued and offered, and the agent claims it. -/
def claimedRun : List Event :=
  [.enrol "agent" 1, .queue 7 1, .offers "agent" fun _ ↦ true,
    .claim 0 7 "agent" firstId (.ok samplePrepared), .next 0, .next 0]

/-- The agent has not been heard of while its grant expired. -/
def expiredRun : List Event := claimedRun ++ [.tick 901000000]

/-- It repeats its claim, and claims again under another id. -/
def reclaimedRun : List Event :=
  expiredRun ++ [.claim 0 7 "agent" firstId (.ok samplePrepared), .next 0, .next 0,
    .claim 1 7 "agent" secondId (.ok samplePrepared), .next 1, .next 1]

/-- The agent has reported that it runs the job. -/
def runningRun : List Event :=
  claimedRun ++ [.status 1 7 "agent" { state := some .running, dispatchGrant := some 0 }, .next 1,
    .next 1]

/-- The grant expires meanwhile, and the agent repeats its claim. -/
def repeatedClaim : List Event :=
  [.tick 901000000, .claim 2 7 "agent" firstId (.ok samplePrepared), .next 2, .next 2]

/-- The dispatch under the expired claim. -/
def expiredRow : BackupAgentDispatch where
  identityId := some "agent"
  claimId := some firstId
  state := .claimed
  grant := some 0
  grantExpiresAt := some (seconds 900)
  envelope := some ⟨"agent", firstId, 7, 0, seconds 900, "sealed"⟩
  claimedAt := some 0

theorem dispatch_consistent_expired : Consistent expiredRow :=
  dispatch_consistent (d := 7) (.run expiredRun (.start emptyServer_initial)) (by decide)

/-- The agent has lost the id of its claim, and draws another. -/
def secondClaim : FreshClaim := ⟨1, 7, "agent", secondId, samplePrepared⟩

theorem expiredRun_orderly :
    serverMachine.Admissible (orderly · · = true) emptyServer expiredRun := by
  decide +kernel

theorem dispatch_rules_reclaimed :
    DispatchRules (orderly · · = true) (serverMachine.run emptyServer reclaimedRun) ∧
      (ReclaimsExpired (serverMachine.run emptyServer reclaimedRun) ↔
        ∀ ask row, ¬ Stranded (serverMachine.run emptyServer reclaimedRun) ask row) :=
  dispatch_rules (.run (.start emptyServer_initial) (by decide +kernel))

theorem secondClaim_stranded :
    Stranded (serverMachine.run emptyServer expiredRun) secondClaim expiredRow where
  free := by decide
  dispatch := by decide
  claimed := rfl
  expired := by decide +kernel
  agent := ⟨{ hostId := 1, status := .dispatched, dispatchedAt := some 0 },
    ⟨"agent", 1, .active, "", some 0, none⟩, by decide, by decide, rfl, rfl⟩
  uuid := by decide +kernel
  fresh := by decide

/-- **A running dispatch is offered again, and an expired claim is never given back.** -/
theorem running_offered_again :
    (¬ ∀ s, serverMachine.Reachable s → DispatchRules (fun _ _ ↦ True) s) ∧
      ¬ ∀ s, serverMachine.Reachable s → ReclaimsExpired s := by
  constructor
  · intro hall
    have hruns : ((serverMachine.run emptyServer runningRun).dispatches 7).map (·.state) =
        some .running := by decide +kernel
    have hagain : ((serverMachine.run (serverMachine.run emptyServer runningRun)
        repeatedClaim).dispatches 7).map (·.state) = some .offered := by decide +kernel
    obtain ⟨row, hrow, hst⟩ := map_eq_some_iff.1 hruns
    obtain ⟨row', hrow', hgoes⟩ := (hall _ (.run runningRun (.start emptyServer_initial))).running
      repeatedClaim (by decide +kernel) 7 row hrow hst
    rw [hrow', map_some, some_inj] at hagain
    rw [hagain] at hgoes
    exact hgoes.elim (by decide) (by decide)
  · intro hall
    refine secondClaim_stranded.not_reclaimed (dispatchInvariant
      (.run (.start emptyServer_initial) expiredRun_orderly)) ?_
    exact hall _ (.run expiredRun (.start emptyServer_initial)) secondClaim expiredRow
      secondClaim_stranded

end Sample

end Kaya.Backup
