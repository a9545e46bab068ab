import Kaya.Flow.Usage

/-!
# One notion of bucket

Four copies of the bucket arithmetic. `endpoint_traffic.bucket_start` subtracts the epoch; the flow
collector, the SNMP poller and `persist_device_traffic` go through `datetime.timestamp()`, which
takes a naive `datetime` for local time. On a host `offset` seconds ahead of UTC these read the
timestamp `offset` seconds early, so that they find the bucket of another moment.

Both readings are doubles cut towards zero. `correction` is what that adds to the whole second:
nothing, except before the host's own epoch and, five centuries on, where the doubles are more than
a microsecond apart.

To find the offset `timestamp()` asks for the local time that belongs to the value taken for UTC. On a
host ahead of UTC that is a time of the year 10000 for the last hours of the calendar, and the three
copies raise.
-/

namespace Kaya.Flow

/-! ### The copies -/

/-- The seconds from the start of 1970 to the first second of the calendar, and to the one after its
last. -/
def firstSecond : ℤ := -62135596800

def lastSecond : ℤ := 253402300800

/-- The last timestamp a `datetime` has is before this one. -/
def endOfTime : DateTime := lastSecond * second

/-- A second of the calendar; another one has no year. -/
def calendarSecond (n : ℤ) : Except String ℤ :=
  if n < firstSecond then .error "year 0 is out of range"
  else if lastSecond ≤ n then .error "year 10000 is out of range"
  else .ok n

/-- The local time of a host `offset` seconds ahead of UTC. -/
def localSecond (offset n : ℤ) : Except String ℤ := calendarSecond (n + offset)

/-- `value.timestamp()` of a naive `datetime` on such a host: what to take off is read from the local
time of the value, and whether that is ambiguous from a day earlier. -/
def naiveTimestamp (offset : ℤ) (value : DateTime) : Except String ℚ := do
  let ahead ← localSecond offset (value / second)
  let reading := value / second - (ahead - value / second)
  let _ ← localSecond offset (reading - 86400)
  return Double.toDouble (reading + Double.toDouble ((value % second : ℤ) / second))

/-- `int(value.timestamp())`. -/
def offsetClock (offset : ℤ) (value : DateTime) : Except String ℤ := do
  let timestamp ← naiveTimestamp offset value
  return Double.trunc timestamp

/-- `datetime.utcfromtimestamp` of a whole number. -/
def utcfromtimestampInt (n : ℤ) : Except String DateTime := do
  let n ← calendarSecond n
  return n * second

/-- `_bucket` of `app/services/flow_collector.py`. -/
def collectorBucket (offset : ℤ) (value : DateTime) (seconds : ℕ) : Except String DateTime := do
  let epoch ← offsetClock offset value
  utcfromtimestampInt (epoch - epoch % seconds)

/-- `_bucket` of `app/services/network_traffic_poller.py`. -/
def pollerBucket (offset : ℤ) (value : DateTime) (seconds : ℕ) : Except String DateTime := do
  let epoch ← offsetClock offset value
  utcfromtimestampInt (epoch - epoch % seconds)

/-- The `bucket_start` of the rows of `persist_device_traffic`. -/
def deviceBucket (offset : ℤ) (value : DateTime) (seconds : ℕ) : Except String DateTime := do
  utcfromtimestampInt ((← offsetClock offset value) - (← offsetClock offset value) % seconds)

/-- The copies return the start of the bucket that contains the timestamp. -/
structure BucketsAgree (offset : ℤ) (value : DateTime) (seconds : ℕ) : Prop where
  contains : bucketStart value seconds ≤ value ∧
    value < bucketStart value seconds + seconds * second
  collector : collectorBucket offset value seconds = .ok (bucketStart value seconds)
  poller : pollerBucket offset value seconds = .ok (bucketStart value seconds)
  device : deviceBucket offset value seconds = .ok (bucketStart value seconds)

/-! ### Outside of the calendar -/

/-- The local times that `timestamp()` asks for have a year. -/
def Readable (offset : ℤ) (value : DateTime) : Prop :=
  firstSecond + 86400 ≤ value / second ∧ firstSecond ≤ value / second + offset ∧
    value / second + offset < lastSecond

section Calendar

variable {n offset value : ℤ} {seconds : ℕ}

theorem calendarSecond_eq_ok (hlow : firstSecond ≤ n) (hhigh : n < lastSecond) :
    calendarSecond n = .ok n := by
  rw [calendarSecond, if_neg (not_lt.2 hlow), if_neg (not_le.2 hhigh)]

theorem calendarSecond_eq_error (h : n < firstSecond ∨ lastSecond ≤ n) :
    ∃ text, calendarSecond n = .error text := by
  rw [calendarSecond]
  obtain h | h := h
  · exact ⟨_, if_pos h⟩
  · split_ifs
    · exact ⟨_, rfl⟩
    · exact ⟨_, rfl⟩

/-- **A readable value** is read `offset` seconds early. -/
theorem naiveTimestamp_of_readable (hvalue : value / second < lastSecond)
    (h : Readable offset value) :
    naiveTimestamp offset value = .ok (Double.toDouble ((value / second - offset : ℤ) +
      Double.toDouble ((value % second : ℤ) / second))) := by
  obtain ⟨hday, hlow, hhigh⟩ := h
  have hreading : value / second - (value / second + offset - value / second) =
      value / second - offset := by omega
  have hdayBefore : value / second - offset - 86400 + offset = value / second - 86400 := by omega
  have hbef : calendarSecond (value / second - 86400) = .ok (value / second - 86400) :=
    calendarSecond_eq_ok (by omega) (by omega)
  simp only [naiveTimestamp, localSecond, calendarSecond_eq_ok hlow hhigh, bind, Except.bind,
    hreading, hdayBefore, hbef]
  rfl

/-- Any other value makes `timestamp()` raise. -/
theorem naiveTimestamp_of_not_readable (h : ¬ Readable offset value) :
    ∃ text, naiveTimestamp offset value = .error text := by
  by_cases hahead : value / second + offset < firstSecond ∨ lastSecond ≤ value / second + offset
  · obtain ⟨text, htext⟩ := calendarSecond_eq_error hahead
    refine ⟨text, ?_⟩
    rw [naiveTimestamp, localSecond, htext]
    rfl
  · obtain ⟨hlow, hhigh⟩ := by simpa only [not_or, not_lt, not_le] using hahead
    have hday : value / second - 86400 < firstSecond := by
      by_contra hday
      exact h ⟨by omega, hlow, hhigh⟩
    obtain ⟨text, htext⟩ := calendarSecond_eq_error (.inl hday)
    have hreading : value / second - (value / second + offset - value / second) - 86400 + offset =
        value / second - 86400 := by omega
    refine ⟨text, ?_⟩
    simp only [naiveTimestamp, localSecond, calendarSecond_eq_ok hlow hhigh, bind, Except.bind,
      hreading, htext]

/-- The copies raise what `timestamp()` raises. -/
theorem pollerBucket_of_not_readable (h : ¬ Readable offset value) (seconds : ℕ) :
    ∃ text, pollerBucket offset value seconds = .error text := by
  obtain ⟨text, htext⟩ := naiveTimestamp_of_not_readable h
  refine ⟨text, ?_⟩
  rw [pollerBucket, offsetClock, htext]
  rfl

theorem pollerBucket_of_offsetClock (h : offsetClock offset value = .ok n) (seconds : ℕ) :
    pollerBucket offset value seconds = utcfromtimestampInt (n - n % seconds) := by
  rw [pollerBucket, h]
  rfl

theorem deviceBucket_eq (offset value : ℤ) (seconds : ℕ) :
    deviceBucket offset value seconds = pollerBucket offset value seconds := by
  rw [deviceBucket, pollerBucket]
  cases offsetClock offset value with
  | error text => rfl
  | ok n => rfl

theorem utcfromtimestampInt_of_calendar (hlow : firstSecond ≤ n) (hhigh : n < lastSecond) :
    utcfromtimestampInt n = .ok (n * second) := by
  rw [utcfromtimestampInt, calendarSecond_eq_ok hlow hhigh]
  rfl

/-- What it returns are the seconds of the calendar, in microseconds. -/
theorem of_utcfromtimestampInt {start : ℤ} (h : utcfromtimestampInt n = .ok start) :
    firstSecond ≤ n ∧ n < lastSecond ∧ start = n * second := by
  rw [utcfromtimestampInt, calendarSecond] at h
  split_ifs at h with hlow hhigh
  · exact absurd h (by simp [bind, Except.bind])
  · exact absurd h (by simp [bind, Except.bind])
  · exact ⟨not_lt.1 hlow, not_le.1 hhigh, (Except.ok.inj h).symm⟩

end Calendar

/-! ### Whole seconds -/

/-- What cutting a double towards zero adds to the whole second of `n` seconds and `us`
microseconds. -/
def correction (n : ℤ) (us : ℕ) : ℤ :=
  if n < 0 then if us = 0 then 0 else 1
  else if Double.Carries n.toNat us then 1 else 0

theorem correction_cases (n : ℤ) (us : ℕ) : correction n us = 0 ∨ correction n us = 1 := by
  rw [correction]
  split_ifs <;> simp

section Readings

variable {n offset value : ℤ} {us : ℕ}

/-- From a day and a half before 1970 on, the fraction of a negative number is dropped. -/
theorem correction_eq (hlow : -131072 ≤ n) (hus : us < 1000000) :
    correction n us = if 0 ≤ n then if Double.Carries n.toNat us then 1 else 0
      else if us = 0 ∨ Double.Carries (-n - 1).toNat (1000000 - us) then 0 else 1 := by
  rw [correction]
  by_cases hneg : n < 0
  · rw [if_pos hneg, if_neg (not_le.2 hneg)]
    by_cases hzero : us = 0
    · rw [if_pos hzero, if_pos (.inl hzero)]
    · have hcarry : ¬ Double.Carries (-n - 1).toNat (1000000 - us) :=
        Double.not_carries_of_lt (by omega) (by omega)
      rw [if_neg hzero, if_neg (not_or.2 ⟨hzero, hcarry⟩)]
  · rw [if_neg hneg, if_pos (not_lt.1 hneg)]

/-- The microseconds of a timestamp. -/
def micros (value : DateTime) : ℕ := (value % second).toNat

theorem micros_lt (value : ℤ) : micros value < 1000000 := by
  rw [micros, second]
  omega

theorem cast_micros (value : ℤ) : ((value % second : ℤ) : ℚ) = micros value := by
  have hcast : (micros value : ℤ) = value % second := by
    rw [micros, second]
    omega
  rw [← hcast, Int.cast_natCast]

/-- **The host's reading.** -/
theorem offsetClock_eq (hlow : -131072 ≤ value / second - offset)
    (hhigh : value / second - offset < 2 ^ 38) (hvalue : value / second < lastSecond)
    (hread : Readable offset value) : offsetClock offset value =
      .ok (value / second - offset + correction (value / second - offset) (micros value)) := by
  have hus := micros_lt value
  have hsecond : ((second : ℤ) : ℚ) = 1000000 := by norm_num [second]
  rw [offsetClock, naiveTimestamp_of_readable hvalue hread, cast_micros, hsecond]
  rw [correction_eq hlow hus]
  refine congrArg Except.ok ?_
  refine Double.trunc_toDouble_seconds (by omega) hhigh hus
    (Double.abs_toDouble_micros_sub_le hus) ?_ ?_
  · exact Double.toDouble_nonneg (by positivity)
  · intro hzero
    rw [hzero, Nat.cast_zero, zero_div, Double.toDouble_zero]

/-- A timestamp in seconds. -/
theorem cast_div_second (value : ℤ) :
    (value : ℚ) / second = ((value / second : ℤ) : ℚ) + micros value / 1000000 := by
  have hvalue : (value : ℚ) = (second * (value / second) + value % second : ℤ) := by
    rw [Int.mul_ediv_add_emod]
  rw [hvalue, Int.cast_add, Int.cast_mul, cast_micros]
  norm_num [second]
  ring

/-- **The UTC reading.** -/
theorem utcClock_eq (hlow : 0 ≤ value) (hhigh : value / second < 2 ^ 38) :
    utcClock value = value / second + correction (value / second) (micros value) := by
  have hnonneg : 0 ≤ value / second := Int.ediv_nonneg hlow (by norm_num [second])
  rw [utcClock, cast_div_second, correction_eq (by omega) (micros_lt value)]
  refine Double.trunc_toDouble_seconds (by omega) hhigh (micros_lt value) ?_ (by positivity) ?_
  · rw [sub_self, abs_zero]
    positivity
  · intro hzero
    rw [hzero, Nat.cast_zero, zero_div]

end Readings

/-! ### Agreement -/

/-- Where the reading of a host falls, from the start of the bucket that contains the timestamp. -/
def readingPosition (offset : ℤ) (value : DateTime) (seconds : ℕ) : ℤ :=
  value / second % seconds - offset + correction (value / second - offset) (micros value)

/-- The local time of the value has a year, and both readings stay within the bucket. -/
def ReadInBucket (offset : ℤ) (value : DateTime) (seconds : ℕ) : Prop :=
  value / second + offset < lastSecond ∧
    0 ≤ readingPosition offset value seconds ∧ readingPosition offset value seconds < seconds ∧
    readingPosition 0 value seconds < seconds

instance (offset : ℤ) (value : DateTime) (seconds : ℕ) :
    Decidable (ReadInBucket offset value seconds) :=
  inferInstanceAs (Decidable (_ ∧ _))

/-- No correction is made to a second before the year 2514. -/
theorem correction_eq_zero {n : ℤ} {us : ℕ} (hlow : 0 ≤ n) (hhigh : n < 2 ^ 34)
    (hus : us < 1000000) : correction n us = 0 := by
  have hsmall : n.toNat < 2 ^ 34 := by omega
  rw [correction, if_neg (by omega), if_neg (Double.not_carries_of_lt hsmall hus)]

section Agreement

variable {seconds : ℕ}

/-- Adding seconds stays in the bucket as long as its position does. -/
theorem start_add_eq_iff (hsecs : seconds ∈ resolutions) (s x : ℤ) :
    s + x - (s + x) % seconds = s - s % seconds ↔
      0 ≤ s % seconds + x ∧ s % seconds + x < seconds := by
  rw [resolutions, List.mem_cons, List.mem_cons, List.mem_singleton] at hsecs
  rcases hsecs with rfl | rfl | rfl
  · omega
  · omega
  · omega

/-- A second carried over the end of the bucket is after the timestamp. -/
theorem start_contains_iff (hsecs : seconds ∈ resolutions) {s c : ℤ} {us : ℕ}
    (hus : us < 1000000) (hc : c = 0 ∨ c = 1) :
    (s + c - (s + c) % seconds) * 1000000 ≤ s * 1000000 + us ∧
      s * 1000000 + us < (s + c - (s + c) % seconds) * 1000000 + seconds * 1000000 ↔
        s % seconds + c < seconds := by
  rw [resolutions, List.mem_cons, List.mem_cons, List.mem_singleton] at hsecs
  rcases hsecs with rfl | rfl | rfl
  · omega
  · omega
  · omega

theorem emod_resolution_nonneg (hsecs : seconds ∈ resolutions) (n : ℤ) : 0 ≤ n % seconds := by
  refine Int.emod_nonneg n fun hzero ↦ ?_
  obtain rfl : seconds = 0 := by exact_mod_cast hzero
  exact absurd hsecs (by decide)

/-- The poller finds the canonical bucket exactly when the host's reading stays in it. -/
theorem poller_agrees_iff {offset value : ℤ} (hoffset : |offset| < 86400)
    (hsecs : seconds ∈ resolutions) (hnonneg : 0 ≤ value / second)
    (hlt : value / second < lastSecond) (hread : value / second + offset < lastSecond)
    (hstart : bucketStart value seconds = (value / second - value / second % seconds) * second) :
    pollerBucket offset value seconds = .ok (bucketStart value seconds) ↔
      0 ≤ readingPosition offset value seconds ∧
        readingPosition offset value seconds < seconds := by
  obtain ⟨hwest, heast⟩ := abs_lt.mp hoffset
  have hlast : lastSecond = 253402300800 := rfl
  have hfirst : firstSecond = -62135596800 := rfl
  have hreading : ∀ c : ℤ, value / second - offset + c = value / second + (c - offset) := by
    intro c
    omega
  have hhost := @offsetClock_eq offset value (by omega) (by omega) hlt
    ⟨by omega, by omega, hread⟩
  have hsame := start_add_eq_iff hsecs (value / second)
    (correction (value / second - offset) (micros value) - offset)
  have hposition : value / second % seconds +
      (correction (value / second - offset) (micros value) - offset) =
        readingPosition offset value seconds := by
    rw [readingPosition]
    omega
  rw [hreading] at hhost
  rw [hposition] at hsame
  rw [pollerBucket_of_offsetClock hhost, hstart, ← hsame]
  constructor
  · intro h
    exact mul_right_cancel₀ (by norm_num [second]) (of_utcfromtimestampInt h).2.2.symm
  · intro h
    have hmod := emod_resolution_nonneg hsecs (value / second)
    have hle : value / second % seconds ≤ value / second := by
      have hsplit := Int.mul_ediv_add_emod (value / second) seconds
      have hmul := mul_nonneg (Int.natCast_nonneg seconds)
        (Int.ediv_nonneg hnonneg (Int.natCast_nonneg seconds))
      omega
    rw [h]
    exact utcfromtimestampInt_of_calendar (by omega) (by omega)

/-- **The copies agree exactly when both readings stay within the bucket.** -/
theorem bucketsAgree_iff {offset value : ℤ} (hstart : 0 ≤ value) (hend : value < endOfTime)
    (hoffset : |offset| < 86400) (hsecs : seconds ∈ resolutions) :
    BucketsAgree offset value seconds ↔ ReadInBucket offset value seconds := by
  have hlast : lastSecond = 253402300800 := rfl
  have hrange : 0 ≤ value / second ∧ value / second < lastSecond := by
    rw [endOfTime, hlast, second] at hend
    rw [hlast, second]
    omega
  have hutc := utcClock_eq hstart (by omega)
  have hvalue : value = value / second * 1000000 + micros value := by
    rw [micros, second]
    omega
  have hcarry := correction_cases (value / second) (micros value)
  -- The UTC start contains the timestamp exactly when its reading is not carried out.
  have hcontains : bucketStart value seconds ≤ value ∧
      value < bucketStart value seconds + seconds * second ↔
        readingPosition 0 value seconds < seconds := by
    rw [readingPosition, sub_zero, sub_zero, bucketStart, bucket, hutc,
      ← start_contains_iff hsecs (micros_lt value) hcarry, ← hvalue]
    rfl
  have hutcStart : readingPosition 0 value seconds < seconds →
      bucketStart value seconds = (value / second - value / second % seconds) * second := by
    intro hin
    rw [readingPosition, sub_zero, sub_zero] at hin
    have hmod := emod_resolution_nonneg hsecs (value / second)
    rw [bucketStart, bucket, hutc, (start_add_eq_iff hsecs _ _).mpr ⟨by omega, hin⟩]
  constructor
  · intro h
    have hin := hcontains.mp h.contains
    have hread : value / second + offset < lastSecond := by
      by_contra hover
      obtain ⟨text, htext⟩ := pollerBucket_of_not_readable
        (show ¬ Readable offset value from fun hread ↦ hover hread.2.2) seconds
      exact absurd (htext.symm.trans h.poller) (by simp)
    obtain ⟨hlow, hhigh⟩ := (poller_agrees_iff hoffset hsecs hrange.1 hrange.2 hread
      (hutcStart hin)).mp h.poller
    exact ⟨hread, hlow, hhigh, hin⟩
  · rintro ⟨hread, hlow, hhigh, hin⟩
    have hpoller := (poller_agrees_iff hoffset hsecs hrange.1 hrange.2 hread
      (hutcStart hin)).mpr ⟨hlow, hhigh⟩
    exact ⟨hcontains.mpr hin, hpoller, hpoller, (deviceBucket_eq ..).trans hpoller⟩

theorem bucketsAgree_utc : BucketsAgree 0 1700000000123456 3600 :=
  (bucketsAgree_iff (by decide) (by decide) (by norm_num)
    (by decide)).mpr (by decide +kernel)

/-- On a host one hour ahead of UTC the copies find the bucket of an hour ago. -/
theorem buckets_disagree_ahead : ¬BucketsAgree 3600 1700000000000000 3600 := by
  intro h
  have hcollector := h.collector
  revert hcollector
  decide +kernel

end Agreement

end Kaya.Flow
