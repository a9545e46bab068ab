import Kaya.Flow.Buckets

/-!
# Splitting an interval over buckets

`_upsert_aggregate` of `app/services/network_traffic_poller.py` spreads the bytes between two polls
over the buckets the interval touches: to each its share in proportion to the overlap, to the last
whatever is left. However the shares are rounded, they are never more than what is left, so nothing
is lost or made up; and after the first step the loop moves from one boundary to the next.

The start of the interval is no boundary. Its bucket is found by cutting a double towards zero, which
is the next bucket for a start in the last second of a bucket that is rounded up: before 1970 every
fraction of a second is, and from 2514 on those near its end (`splits_iff`).

Moments are microseconds from the start of 1970 on.
-/

namespace Kaya.Snmp

open Kaya.Flow List Option

/-! ### The loop -/

/-- The first moment a `datetime` can name. -/
def minDatetime : ℤ := -62135596800 * second

/-- The last one. -/
def maxDatetime : ℤ := endOfTime - 1

/-- A day, in microseconds. -/
def day : ℤ := 86400 * second

/-- `_bucket`, with the end of the bucket, which may not be outside of the calendar. -/
def bucketSpan (value : ℤ) (seconds : ℕ) : Option (ℤ × ℤ) :=
  match pollerBucket 0 value seconds with
  | .error _ => none
  | .ok start =>
    if maxDatetime < start + seconds * second then none else some (start, start + seconds * second)

/-- A float; beyond the largest one the conversion raises, or the rounding of the infinity does. -/
def finite (q : ℚ) : Option ℚ :=
  if |Double.toDouble q| < 2 ^ 1024 then some (Double.toDouble q) else none

/-- `min(remaining_bytes, max(0, int(round(total_bytes * overlap / elapsed_seconds))))`. -/
def pieceBytes (total remaining : ℤ) (overlap elapsed : ℚ) : Option ℤ := do
  let bytes ← finite total
  let product ← finite (bytes * overlap)
  let quotient ← finite (product / elapsed)
  return min remaining (max 0 (Double.roundHalfEven quotient))

/-- One call of `_upsert_aggregate_piece`: its bucket, its part of the interval and its bytes. -/
structure Piece where
  bucketStart : ℤ
  since : ℤ
  upto : ℤ
  bytes : ℤ
  deriving DecidableEq

/-- `(overlap_end - cursor).total_seconds()`. -/
def totalSeconds (since upto : ℤ) : ℚ := Double.toDouble ((upto - since : ℤ) / second)

variable {since upto : ℤ}

theorem lt_of_totalSeconds_pos (h : 0 < totalSeconds since upto) : since < upto := by
  by_contra hle
  have hnonpos : ((upto - since : ℤ) : ℚ) / second ≤ 0 := by
    refine div_nonpos_of_nonpos_of_nonneg ?_ (by norm_num [second])
    exact_mod_cast Int.sub_nonpos_of_le (not_lt.1 hle)
  exact absurd h (not_lt.2 (Double.toDouble_nonpos hnonpos))

theorem totalSeconds_pos (h : since < upto) : 0 < totalSeconds since upto := by
  refine Double.toDouble_pos (div_pos ?_ (by norm_num [second]))
  exact_mod_cast Int.sub_pos_of_lt h

/-- The loop of `_upsert_aggregate` from a cursor on. -/
def splitLoop (total : ℤ) (elapsed : ℚ) (seconds : ℕ) (observedAt cursor : ℤ)
    (remaining : ℤ) : Option (List Piece) :=
  if _ : cursor < observedAt then
    match bucketSpan cursor seconds with
    | none => none
    | some (bucketStart, bucketEnd) =>
      let overlapEnd := min bucketEnd observedAt
      let overlap := totalSeconds cursor overlapEnd
      if _ : max 0 overlap ≤ 0 then some []
      else
        let bytes :=
          if observedAt ≤ overlapEnd then some remaining
          else pieceBytes total remaining overlap elapsed
        bytes.bind fun bytes ↦
          (splitLoop total elapsed seconds observedAt overlapEnd (remaining - bytes)).map
            (⟨bucketStart, cursor, overlapEnd, bytes⟩ :: ·)
  else some []
termination_by (observedAt - cursor).toNat
decreasing_by
  have hpos : 0 < overlap := by
    by_contra hle
    exact ‹¬max 0 overlap ≤ 0› (max_le le_rfl (not_lt.1 hle))
  have hlt : cursor < overlapEnd := lt_of_totalSeconds_pos hpos
  exact (Int.toNat_lt_toNat (Int.sub_pos_of_lt ‹cursor < observedAt›)).2
    (Int.sub_lt_sub_left hlt _)

/-- `observed_at - timedelta(seconds=elapsed_seconds)`, which rounds to the microsecond. -/
def intervalStart (observedAt : ℤ) (elapsed : ℚ) : ℤ :=
  let whole := Double.trunc elapsed
  let fraction := Double.roundHalfEven (Double.toDouble ((elapsed - whole) * second))
  observedAt - (whole * second + fraction)

/-- `max(0, int(round(value_bps * elapsed_seconds / 8)))`. -/
def totalBytes (valueBps : ℤ) (elapsed : ℚ) : Option ℤ := do
  let rate ← finite valueBps
  let product ← finite (rate * elapsed)
  return max 0 (Double.roundHalfEven (Double.toDouble (product / 8)))

/-- `_upsert_aggregate`: the pieces it writes. -/
def upsertAggregate (observedAt : ℤ) (seconds : ℕ) (valueBps : ℤ) (elapsed : ℚ) :
    Option (List Piece) :=
  if elapsed ≤ 0 ∨ valueBps < 0 then some []
  else (totalBytes valueBps elapsed).bind fun total ↦
    splitLoop total elapsed seconds observedAt (intervalStart observedAt elapsed) total

/-! ### What a split should be -/

/-- The parts of the pieces follow each other from the start to the end. -/
def Covers (finish : ℤ) : ℤ → List Piece → Prop
  | start, [] => start = finish
  | start, p :: ps => p.since = start ∧ p.since < p.upto ∧ Covers finish p.upto ps

/-- The bytes of the interval, each in the one bucket that contains its part of it. -/
structure Conserves (total : ℤ) (seconds : ℕ) (start finish : ℤ) (pieces : List Piece) :
    Prop where
  covers : Covers finish start pieces
  nonneg : ∀ p ∈ pieces, 0 ≤ p.bytes
  sum : (pieces.map (·.bytes)).sum = total
  bucket : ∀ p ∈ pieces, p.bucketStart % (seconds * second) = 0
  inside : ∀ p ∈ pieces, p.bucketStart ≤ p.since ∧ p.upto ≤ p.bucketStart + seconds * second
  distinct : (pieces.map (·.bucketStart)).Nodup

/-- The loop writes such a split. -/
def Splits (total : ℤ) (elapsed : ℚ) (seconds : ℕ) (start finish : ℤ) : Prop :=
  ∃ pieces, splitLoop total elapsed seconds finish start total = some pieces ∧
    Conserves total seconds start finish pieces

/-! ### Reading the cursor -/

/-- The start of the bucket that contains a moment. -/
def bucketFloor (seconds : ℕ) (value : ℤ) : ℤ := value - value % (seconds * second)

/-- What cutting the double of `n` seconds and `us` microseconds towards zero adds to `n`. -/
def cut (n : ℤ) (us : ℕ) : ℤ :=
  if 0 ≤ n then if Double.Carries n.toNat us then 1 else 0
  else if us = 0 ∨ Double.Carries (-n - 1).toNat (1000000 - us) then 0
  else 1

theorem cut_cases (n : ℤ) (us : ℕ) : cut n us = 0 ∨ cut n us = 1 := by
  rw [cut]
  split_ifs <;> simp

/-- Nothing is added to a whole second. -/
theorem cut_zero {n : ℤ} (hhigh : n < 2 ^ 52) : cut n 0 = 0 := by
  rw [cut]
  split_ifs with hsign hcarry hfraction
  · exact absurd hcarry (Double.not_carries_zero (by omega))
  · rfl
  · rfl
  · exact absurd (.inl rfl) hfraction

/-- The reading of a moment stays in its bucket: it is not in the last second, or not rounded up. -/
def ReadInOwnBucket (seconds : ℕ) (value : ℤ) : Prop :=
  value / second % seconds + cut (value / second) (micros value) < seconds

instance (seconds : ℕ) (value : ℤ) : Decidable (ReadInOwnBucket seconds value) :=
  inferInstanceAs (Decidable (_ < _))

section Reading

variable {seconds : ℕ} {value b a : ℤ}

/-- A moment of the calendar, in seconds. -/
theorem div_second_lt (h : value ≤ maxDatetime) : value / second < lastSecond := by
  have hlast : value ≤ (253402300800 * 1000000 - 1 : ℤ) := h
  rw [second, lastSecond]
  omega

theorem readable_of_firstDay (hlow : minDatetime + day ≤ value) (hhigh : value ≤ maxDatetime) :
    Readable 0 value := by
  have hfirst : (-62135596800 * 1000000 + 86400 * 1000000 : ℤ) ≤ value := hlow
  have hlt := div_second_lt hhigh
  have hday : -62135596800 + 86400 ≤ value / second := by
    rw [second]
    omega
  exact ⟨hday, (add_zero (value / second)).symm ▸ (by rw [firstSecond]; omega),
    (add_zero (value / second)).symm ▸ hlt⟩

theorem not_readable_of_lt (h : value < minDatetime + day) : ¬ Readable 0 value := by
  have hfirst : value < (-62135596800 * 1000000 + 86400 * 1000000 : ℤ) := h
  rw [Readable, firstSecond, second]
  omega

/-- **The reading of the UTC host**, from the second day of the first year to the last year. -/
theorem offsetClock_zero (hlow : minDatetime + day ≤ value) (hhigh : value ≤ maxDatetime) :
    offsetClock 0 value = .ok (value / second + cut (value / second) (micros value)) := by
  have hus := micros_lt value
  have hsecond : ((second : ℤ) : ℚ) = 1000000 := by norm_num [second]
  have hrange : -2 ^ 38 < value / second ∧ value / second < 2 ^ 38 := by
    have hfirst : (-62135596800 * 1000000 + 86400 * 1000000 : ℤ) ≤ value := hlow
    have hlast : value ≤ (253402300800 * 1000000 - 1 : ℤ) := hhigh
    rw [second]
    omega
  rw [offsetClock, naiveTimestamp_of_readable (div_second_lt hhigh)
    (readable_of_firstDay hlow hhigh), cast_micros, hsecond, sub_zero, cut]
  refine congrArg Except.ok ?_
  refine Double.trunc_toDouble_seconds hrange.1 hrange.2 hus
    (Double.abs_toDouble_micros_sub_le hus) (Double.toDouble_nonneg (by positivity)) fun hzero ↦ ?_
  rw [hzero, Nat.cast_zero, zero_div, Double.toDouble_zero]

theorem bucketFloor_eq (hsecs : 0 < seconds) (value : ℤ) :
    bucketFloor seconds value = (value / second - value / second % seconds) * second := by
  have hmicros : 0 ≤ value % second ∧ value % second < second := by
    rw [second]
    omega
  have hlow := Int.emod_nonneg (value / second) (show (seconds : ℤ) ≠ 0 by omega)
  have hhigh := Int.emod_lt_of_pos (value / second) (show (0 : ℤ) < seconds by omega)
  have hvalue : value = (value / second % seconds * second + value % second) +
      seconds * second * (value / second / seconds) := by
    have hsecond := Int.mul_ediv_add_emod value second
    have hsplit := Int.mul_ediv_add_emod (value / second) seconds
    calc value = second * (value / second) + value % second := hsecond.symm
      _ = second * (seconds * (value / second / seconds) + value / second % seconds) +
          value % second := by rw [hsplit]
      _ = _ := by ring
  have hmod : value % (seconds * second) = value / second % seconds * second + value % second := by
    conv_lhs => rw [hvalue]
    rw [Int.add_mul_emod_self_left]
    refine Int.emod_eq_of_lt (by rw [second] at *; omega) ?_
    have hle : value / second % seconds + 1 ≤ seconds := hhigh
    have hmul := mul_le_mul_of_nonneg_right hle (show (0 : ℤ) ≤ second by rw [second]; omega)
    rw [add_mul, one_mul] at hmul
    omega
  have hvalue' := Int.mul_ediv_add_emod value second
  rw [bucketFloor, hmod, sub_mul]
  linarith

/-- Adding to a number within a period. -/
theorem add_emod_of_lt {n c s : ℤ} (hlow : 0 ≤ n % s + c) (hhigh : n % s + c < s) :
    (n + c) % s = n % s + c := by
  have hsplit := Int.mul_ediv_add_emod n s
  have hsum : n + c = (n % s + c) + s * (n / s) := by linarith
  rw [hsum, Int.add_mul_emod_self_left]
  exact Int.emod_eq_of_lt hlow hhigh

/-- The start of the bucket in which a moment is read: its own one, or the next. -/
def readStart (seconds : ℕ) (value : ℤ) : ℤ :=
  if ReadInOwnBucket seconds value then bucketFloor seconds value
  else bucketFloor seconds value + seconds * second

/-- `_bucket` reads a second of that bucket. -/
theorem readStart_eq (hsecs : 0 < seconds) (value : ℤ) : readStart seconds value =
    (value / second + cut (value / second) (micros value) -
      (value / second + cut (value / second) (micros value)) % seconds) * second := by
  have hnonneg := Int.emod_nonneg (value / second) (show (seconds : ℤ) ≠ 0 by omega)
  have hlt := Int.emod_lt_of_pos (value / second) (show (0 : ℤ) < seconds by omega)
  have hcut := cut_cases (value / second) (micros value)
  rw [readStart, bucketFloor_eq hsecs]
  split_ifs with hread
  · rw [ReadInOwnBucket] at hread
    rw [add_emod_of_lt (by omega) hread]
    ring
  · rw [ReadInOwnBucket] at hread
    have hone : cut (value / second) (micros value) = 1 := by omega
    have hlast : value / second % seconds = seconds - 1 := by omega
    have hnext : value / second + 1 = seconds * (value / second / seconds + 1) := by
      have hsplit := Int.mul_ediv_add_emod (value / second) seconds
      rw [mul_add_one]
      linarith
    rw [hone, hlast, hnext, Int.mul_emod_right, ← hnext]
    ring

/-- `_bucket` finds the bucket in which a moment is read, or raises. -/
theorem pollerBucket_eq (hsecs : 0 < seconds) (hlow : minDatetime + day ≤ value)
    (hhigh : value ≤ maxDatetime) {start : ℤ} (h : pollerBucket 0 value seconds = .ok start) :
    start = readStart seconds value := by
  rw [pollerBucket_of_offsetClock (offsetClock_zero hlow hhigh)] at h
  exact (of_utcfromtimestampInt h).2.2.trans (readStart_eq hsecs value).symm

/-- It does not raise where the bucket starts in the calendar. -/
theorem pollerBucket_of_calendar (hsecs : 0 < seconds) (hlow : minDatetime + day ≤ value)
    (hhigh : value ≤ maxDatetime) (hfirst : minDatetime ≤ readStart seconds value)
    (hlast : readStart seconds value ≤ maxDatetime) :
    pollerBucket 0 value seconds = .ok (readStart seconds value) := by
  have hfirst' : (-62135596800 * 1000000 : ℤ) ≤ readStart seconds value := hfirst
  have hlast' : readStart seconds value ≤ (253402300800 * 1000000 - 1 : ℤ) := hlast
  rw [readStart_eq hsecs, second] at hfirst' hlast'
  rw [pollerBucket_of_offsetClock (offsetClock_zero hlow hhigh), readStart_eq hsecs]
  refine utcfromtimestampInt_of_calendar ?_ ?_
  · rw [firstSecond, second]
    omega
  · rw [lastSecond, second]
    omega

/-! ### Buckets and boundaries -/

theorem size_pos (hsecs : 0 < seconds) : (0 : ℤ) < seconds * second := by
  rw [second]
  omega

theorem bucketFloor_le (hsecs : 0 < seconds) (value : ℤ) :
    bucketFloor seconds value ≤ value := by
  have hmod := Int.emod_nonneg value (size_pos hsecs).ne'
  rw [bucketFloor]
  omega

theorem lt_bucketFloor_add (hsecs : 0 < seconds) (value : ℤ) :
    value < bucketFloor seconds value + seconds * second := by
  have hmod := Int.emod_lt_of_pos value (size_pos hsecs)
  rw [bucketFloor]
  omega

theorem bucketFloor_emod (seconds : ℕ) (value : ℤ) :
    bucketFloor seconds value % (seconds * second) = 0 := by
  rw [bucketFloor, Int.emod_eq_zero_of_dvd]
  exact Int.dvd_self_sub_emod

theorem boundary_emod (seconds : ℕ) (value : ℤ) :
    (bucketFloor seconds value + seconds * second) % (seconds * second) = 0 := by
  rw [Int.add_emod_right, bucketFloor_emod]

/-- A boundary is the start of its own bucket. -/
theorem bucketFloor_of_boundary (hb : b % (seconds * second) = 0) : bucketFloor seconds b = b := by
  rw [bucketFloor, hb, sub_zero]

/-- Boundaries are a bucket apart. -/
theorem add_le_of_boundary (ha : a % (seconds * second) = 0)
    (hb : b % (seconds * second) = 0) (hlt : a < b) : a + seconds * second ≤ b := by
  have hdvd : (seconds * second : ℤ) ∣ b - a :=
    Int.dvd_sub (Int.dvd_of_emod_eq_zero hb) (Int.dvd_of_emod_eq_zero ha)
  have hle := Int.le_of_dvd (Int.sub_pos_of_lt hlt) hdvd
  omega

/-- A moment between two boundaries lies in the bucket between them. -/
theorem bucketFloor_eq_of_mem (hsecs : 0 < seconds) (ha : a % (seconds * second) = 0)
    (hlow : a ≤ value) (hhigh : value < a + seconds * second) : bucketFloor seconds value = a := by
  have hbelow := bucketFloor_le hsecs value
  have habove := lt_bucketFloor_add hsecs value
  have hfloor := bucketFloor_emod seconds value
  rcases lt_trichotomy (bucketFloor seconds value) a with hlt | heq | hlt
  · have hle := add_le_of_boundary hfloor ha hlt
    omega
  · exact heq
  · have hle := add_le_of_boundary ha hfloor hlt
    omega

/-- Induction on a moment: the last bucket before the end, and the step to the next boundary. -/
theorem boundary_induction {finish : ℤ} {motive : (c : ℤ) → c < finish → Prop}
    (hsecs : 0 < seconds)
    (last : ∀ (c : ℤ) (hc : c < finish), finish ≤ bucketFloor seconds c + seconds * second →
      motive c hc)
    (next : ∀ (c : ℤ) (hc : c < finish) (hnext : bucketFloor seconds c + seconds * second < finish),
      motive (bucketFloor seconds c + seconds * second) hnext → motive c hc)
    (c : ℤ) (hc : c < finish) : motive c hc := by
  by_cases h : finish ≤ bucketFloor seconds c + seconds * second
  · exact last c hc h
  · exact next c hc (not_le.1 h) (boundary_induction hsecs last next _ (not_le.1 h))
termination_by (finish - c).toNat
decreasing_by
  have hstep := lt_bucketFloor_add hsecs c
  omega

/-- **A boundary is read as itself.** -/
theorem readInOwnBucket_of_boundary (hsecs : 0 < seconds)
    (hb : b % (seconds * second) = 0) (hhigh : b ≤ maxDatetime) : ReadInOwnBucket seconds b := by
  obtain ⟨k, rfl⟩ := Int.dvd_of_emod_eq_zero hb
  have hlast : (seconds * second * k : ℤ) ≤ 253402300800 * 1000000 - 1 := hhigh
  have hsecond : (seconds * second * k : ℤ) = seconds * k * second := by ring
  have hdiv : (seconds * second * k : ℤ) / second = seconds * k := by
    rw [hsecond, Int.mul_ediv_cancel _ (by decide)]
  have hmicros : micros (seconds * second * k) = 0 := by
    rw [micros, hsecond, Int.mul_emod_left, Int.toNat_zero]
  have hsmall : (seconds * k : ℤ) < 2 ^ 52 := by
    rw [hsecond, second] at hlast
    omega
  rw [ReadInOwnBucket, hdiv, hmicros, cut_zero hsmall, Int.mul_emod_right]
  omega

end Reading

/-! ### Steps of the loop -/

section Steps

variable {total remaining start finish cursor b e : ℤ} {elapsed overlap : ℚ} {seconds : ℕ}

theorem splitLoop_of_span_none (hcursor : cursor < finish)
    (hspan : bucketSpan cursor seconds = none) :
    splitLoop total elapsed seconds finish cursor remaining = none := by
  rw [splitLoop, dif_pos hcursor, hspan]

theorem splitLoop_end (total : ℤ) (elapsed : ℚ) (seconds : ℕ) (finish remaining : ℤ) :
    splitLoop total elapsed seconds finish finish remaining = some [] := by
  rw [splitLoop, dif_neg (lt_irrefl finish)]

/-- The last bucket takes whatever is left. -/
theorem splitLoop_last (hcursor : cursor < finish) (hspan : bucketSpan cursor seconds = some (b, e))
    (he : finish ≤ e) : splitLoop total elapsed seconds finish cursor remaining =
      some [⟨b, cursor, finish, remaining⟩] := by
  have hpos := totalSeconds_pos hcursor
  rw [splitLoop, dif_pos hcursor, hspan]
  simp only [min_eq_right he]
  rw [dif_neg (not_le.2 (lt_max_of_lt_right hpos)), if_pos le_rfl, Option.bind_some, splitLoop_end,
    map_some]

/-- Any other one its share. -/
theorem splitLoop_next (hcursor : cursor < e) (hspan : bucketSpan cursor seconds = some (b, e))
    (he : e < finish) : splitLoop total elapsed seconds finish cursor remaining =
      (pieceBytes total remaining (totalSeconds cursor e) elapsed).bind fun bytes ↦
        (splitLoop total elapsed seconds finish e (remaining - bytes)).map
          (⟨b, cursor, e, bytes⟩ :: ·) := by
  have hpos := totalSeconds_pos hcursor
  rw [splitLoop, dif_pos (hcursor.trans he), hspan]
  simp only [min_eq_left he.le]
  rw [dif_neg (not_le.2 (lt_max_of_lt_right hpos)), if_neg (not_le.2 he)]

/-! ### What the loop needs -/

/-- No intermediate result of a share is beyond the largest float. -/
def FiniteShare (total : ℤ) (overlap elapsed : ℚ) : Prop :=
  let bytes := Double.toDouble total
  let product := Double.toDouble (bytes * overlap)
  |bytes| < 2 ^ 1024 ∧ |product| < 2 ^ 1024 ∧ |Double.toDouble (product / elapsed)| < 2 ^ 1024

instance (total : ℤ) (overlap elapsed : ℚ) : Decidable (FiniteShare total overlap elapsed) :=
  inferInstanceAs (Decidable (_ ∧ _ ∧ _))

/-- The start is read in its own bucket, after the first day of the calendar, and the bucket starts
in the calendar. -/
structure StartReadable (seconds : ℕ) (start : ℤ) : Prop where
  read : ReadInOwnBucket seconds start
  firstDay : minDatetime + day ≤ start
  first : minDatetime ≤ bucketFloor seconds start

/-- The last bucket ends in the calendar, and every share before it is finite. -/
structure Fits (total : ℤ) (elapsed : ℚ) (seconds : ℕ) (start finish : ℤ) : Prop where
  last : bucketFloor seconds (finish - 1) + seconds * second ≤ maxDatetime
  floats : ∀ b : ℤ, b % (seconds * second) = 0 → start < b → b < finish →
    FiniteShare total (totalSeconds (max start (b - seconds * second)) b) elapsed

/-- What a bucket gets of the bytes that are left. -/
def share (total remaining : ℤ) (overlap elapsed : ℚ) : ℤ :=
  min remaining (max 0 (Double.roundHalfEven
    (Double.toDouble (Double.toDouble (Double.toDouble total * overlap) / elapsed))))

theorem pieceBytes_of_finite (h : FiniteShare total overlap elapsed) :
    pieceBytes total remaining overlap elapsed = some (share total remaining overlap elapsed) := by
  obtain ⟨hbytes, hproduct, hquot⟩ := h
  simp only [pieceBytes, finite, if_pos hbytes, if_pos hproduct, if_pos hquot, share,
    Option.bind_eq_bind, Option.bind_some, Option.pure_def]

theorem pieceBytes_of_not_finite (h : ¬ FiniteShare total overlap elapsed) :
    pieceBytes total remaining overlap elapsed = none := by
  rw [pieceBytes, finite]
  split_ifs with hbytes
  · rw [Option.bind_eq_bind, Option.bind_some, finite]
    split_ifs with hproduct
    · rw [Option.bind_some, finite, if_neg fun hquot ↦ h ⟨hbytes, hproduct, hquot⟩]
      rfl
    · rfl
  · rfl

theorem share_le (total remaining : ℤ) (overlap elapsed : ℚ) :
    share total remaining overlap elapsed ≤ remaining := min_le_left _ _

theorem share_nonneg (h : 0 ≤ remaining) :
    0 ≤ share total remaining overlap elapsed := le_min h (le_max_left _ _)

/-- Reading a cursor in its own bucket. -/
theorem bucketSpan_of_readable (hsecs : 0 < seconds) (h : StartReadable seconds cursor)
    (hhigh : cursor ≤ maxDatetime) : bucketSpan cursor seconds =
      if maxDatetime < bucketFloor seconds cursor + seconds * second then none
      else some (bucketFloor seconds cursor, bucketFloor seconds cursor + seconds * second) := by
  have hstart : readStart seconds cursor = bucketFloor seconds cursor := if_pos h.read
  have hlast := (bucketFloor_le hsecs cursor).trans hhigh
  rw [← hstart] at hlast
  rw [bucketSpan, pollerBucket_of_calendar hsecs h.firstDay hhigh
    (hstart.symm ▸ h.first) hlast, hstart]

/-- A span starts where the cursor is read. -/
theorem of_bucketSpan (hsecs : 0 < seconds) (hhigh : cursor ≤ maxDatetime)
    (h : bucketSpan cursor seconds = some (b, e)) : minDatetime + day ≤ cursor ∧
      b = readStart seconds cursor ∧ minDatetime ≤ b ∧ e = b + seconds * second := by
  rw [bucketSpan] at h
  cases hbucket : pollerBucket 0 cursor seconds with
  | error text =>
    rw [hbucket] at h
    exact absurd h (by simp)
  | ok start =>
    have hday : minDatetime + day ≤ cursor := by
      by_contra hday
      obtain ⟨text, htext⟩ := pollerBucket_of_not_readable (not_readable_of_lt (not_le.1 hday)) seconds
      exact absurd (htext.symm.trans hbucket) (by simp)
    have hstart := pollerBucket_eq hsecs hday hhigh hbucket
    have hfirst := hbucket
    rw [pollerBucket_of_offsetClock (offsetClock_zero hday hhigh)] at hfirst
    rw [hbucket] at h
    dsimp only at h
    split_ifs at h
    obtain ⟨rfl, rfl⟩ := Prod.mk.inj (some.inj h)
    obtain ⟨hlow, -, hvalue⟩ := of_utcfromtimestampInt hfirst
    refine ⟨hday, hstart, ?_, rfl⟩
    rw [hvalue]
    exact Int.mul_le_mul_of_nonneg_right hlow (by norm_num [second])

/-- The next boundary is read exactly. -/
theorem StartReadable.next (hsecs : 0 < seconds) (h : StartReadable seconds cursor)
    (hnext : bucketFloor seconds cursor + seconds * second ≤ maxDatetime) :
    StartReadable seconds (bucketFloor seconds cursor + seconds * second) := by
  have hboundary := boundary_emod seconds cursor
  have hlt := lt_bucketFloor_add hsecs cursor
  have hday : (0 : ℤ) ≤ day := by decide
  have hlow := h.firstDay
  refine ⟨readInOwnBucket_of_boundary hsecs hboundary hnext, by omega, ?_⟩
  rw [bucketFloor_of_boundary hboundary]
  omega

/-- In the last bucket there is no boundary left. -/
theorem fits_last_iff (hsecs : 0 < seconds) (hcursor : cursor < finish)
    (hlast : finish ≤ bucketFloor seconds cursor + seconds * second) :
    Fits total elapsed seconds cursor finish ↔
      bucketFloor seconds cursor + seconds * second ≤ maxDatetime := by
  have hbelow := bucketFloor_le hsecs cursor
  have hfloor : bucketFloor seconds (finish - 1) = bucketFloor seconds cursor :=
    bucketFloor_eq_of_mem hsecs (bucketFloor_emod seconds cursor) (by omega) (by omega)
  constructor
  · intro h
    rw [← hfloor]
    exact h.last
  · intro h
    refine ⟨by rwa [hfloor], fun b hb hlow hhigh ↦ ?_⟩
    have hle := add_le_of_boundary (bucketFloor_emod seconds cursor) hb (by omega)
    omega

/-- Before it, the share up to the next boundary, and what the rest needs. -/
theorem fits_next_iff (hsecs : 0 < seconds)
    (hnext : bucketFloor seconds cursor + seconds * second < finish) :
    Fits total elapsed seconds cursor finish ↔ FiniteShare total
          (totalSeconds cursor (bucketFloor seconds cursor + seconds * second)) elapsed ∧
        Fits total elapsed seconds (bucketFloor seconds cursor + seconds * second) finish := by
  have hbelow := bucketFloor_le hsecs cursor
  have habove := lt_bucketFloor_add hsecs cursor
  have hboundary := boundary_emod seconds cursor
  have hfirst : max cursor (bucketFloor seconds cursor + seconds * second - seconds * second) =
      cursor := max_eq_left (by omega)
  have hlater : ∀ b : ℤ, b % (seconds * second) = 0 →
      bucketFloor seconds cursor + seconds * second < b → max cursor (b - seconds * second) =
        max (bucketFloor seconds cursor + seconds * second) (b - seconds * second) := by
    intro b hb hlt
    have hle := add_le_of_boundary hboundary hb hlt
    rw [max_eq_right (by omega), max_eq_right (by omega)]
  constructor
  · intro h
    refine ⟨?_, h.last, fun b hb hlow hhigh ↦ ?_⟩
    · have hshare := h.floats _ hboundary habove hnext
      rwa [hfirst] at hshare
    · rw [← hlater b hb hlow]
      exact h.floats b hb (habove.trans hlow) hhigh
  · rintro ⟨hshare, hrest⟩
    refine ⟨hrest.last, fun b hb hlow hhigh ↦ ?_⟩
    have hle := add_le_of_boundary (bucketFloor_emod seconds cursor) hb (by omega)
    rcases hle.eq_or_lt with heq | hlt
    · rw [← heq, hfirst]
      exact hshare
    · rw [hlater b hb hlt]
      exact hrest.floats b hb hlt hhigh

/-! ### Runs of the loop -/

/-- **The loop returns exactly when the interval fits.** -/
theorem exists_splitLoop_iff (hsecs : 0 < seconds) (hfinish : finish ≤ maxDatetime)
    (hcursor : cursor < finish) : ∀ remaining : ℤ, StartReadable seconds cursor →
      ((∃ pieces, splitLoop total elapsed seconds finish cursor remaining = some pieces) ↔
        Fits total elapsed seconds cursor finish) := by
  induction cursor, hcursor using boundary_induction hsecs with
  | last c hc hlast =>
    intro remaining hread
    have hspan := bucketSpan_of_readable hsecs hread (by omega)
    rw [fits_last_iff hsecs hc hlast]
    split_ifs at hspan with hover
    · rw [splitLoop_of_span_none hc hspan]
      exact iff_of_false (fun ⟨_, h⟩ ↦ absurd h (by simp)) (not_le.2 hover)
    · rw [splitLoop_last hc hspan hlast]
      exact iff_of_true ⟨_, rfl⟩ (not_lt.1 hover)
  | next c hc hnext ih =>
    intro remaining hread
    have hlt := lt_bucketFloor_add hsecs c
    have hspan := bucketSpan_of_readable hsecs hread (by omega)
    rw [if_neg (by omega)] at hspan
    rw [fits_next_iff hsecs hnext, splitLoop_next hlt hspan hnext]
    by_cases hshare : FiniteShare total
        (totalSeconds c (bucketFloor seconds c + seconds * second)) elapsed
    · rw [pieceBytes_of_finite hshare, Option.bind_some,
        ← ih _ (hread.next hsecs (by omega)), and_iff_right hshare]
      simp only [map_eq_some_iff]
      exact ⟨fun ⟨_, pieces, h, _⟩ ↦ ⟨pieces, h⟩, fun ⟨pieces, h⟩ ↦ ⟨_, pieces, h, rfl⟩⟩
    · rw [pieceBytes_of_not_finite hshare]
      exact iff_of_false (fun ⟨_, h⟩ ↦ absurd h (by simp)) fun h ↦ hshare h.1

/-- **What it returns conserves the bytes that were left.** -/
theorem conserves_of_splitLoop (hsecs : 0 < seconds) (hfinish : finish ≤ maxDatetime)
    (hcursor : cursor < finish) : ∀ (remaining : ℤ) (pieces : List Piece),
      StartReadable seconds cursor → 0 ≤ remaining →
      splitLoop total elapsed seconds finish cursor remaining = some pieces →
      Conserves remaining seconds cursor finish pieces ∧
        ∀ p ∈ pieces, bucketFloor seconds cursor ≤ p.bucketStart := by
  induction cursor, hcursor using boundary_induction hsecs with
  | last c hc hlast =>
    intro remaining pieces hread hremaining h
    have hbelow := bucketFloor_le hsecs c
    have hspan := bucketSpan_of_readable hsecs hread (by omega)
    split_ifs at hspan with hover
    · rw [splitLoop_of_span_none hc hspan] at h
      exact absurd h (by simp)
    · rw [splitLoop_last hc hspan hlast] at h
      obtain rfl := some.inj h
      refine ⟨⟨⟨rfl, hc, rfl⟩, ?_, ?_, ?_, ?_, nodup_singleton _⟩, ?_⟩
      · simpa using hremaining
      · simp
      · simpa using bucketFloor_emod seconds c
      · simpa using ⟨hbelow, hlast⟩
      · simp
  | next c hc hnext ih =>
    intro remaining pieces hread hremaining h
    have hbelow := bucketFloor_le hsecs c
    have hlt := lt_bucketFloor_add hsecs c
    have hboundary := boundary_emod seconds c
    have hspan := bucketSpan_of_readable hsecs hread (by omega)
    rw [if_neg (by omega)] at hspan
    rw [splitLoop_next hlt hspan hnext] at h
    obtain ⟨bytes, hbytes, h⟩ := bind_eq_some_iff.1 h
    obtain ⟨rest, hrest, rfl⟩ := map_eq_some_iff.1 h
    have hshare : FiniteShare total
        (totalSeconds c (bucketFloor seconds c + seconds * second)) elapsed := by
      by_contra hnot
      rw [pieceBytes_of_not_finite hnot] at hbytes
      exact absurd hbytes (by simp)
    rw [pieceBytes_of_finite hshare] at hbytes
    obtain rfl := some.inj hbytes
    have hle := share_le total remaining
      (totalSeconds c (bucketFloor seconds c + seconds * second)) elapsed
    obtain ⟨hconserves, hlater⟩ := ih _ rest (hread.next hsecs (by omega)) (by omega) hrest
    rw [bucketFloor_of_boundary hboundary] at hlater
    have hsize := size_pos hsecs
    refine ⟨⟨⟨rfl, hlt, hconserves.covers⟩, ?_, ?_, ?_, ?_, ?_⟩, ?_⟩
    · exact forall_mem_cons.2 ⟨share_nonneg hremaining, hconserves.nonneg⟩
    · rw [map_cons, sum_cons, hconserves.sum]
      ring
    · exact forall_mem_cons.2 ⟨bucketFloor_emod seconds c, hconserves.bucket⟩
    · exact forall_mem_cons.2 ⟨⟨hbelow, le_rfl⟩, hconserves.inside⟩
    · refine nodup_cons.2 ⟨fun hmem ↦ ?_, hconserves.distinct⟩
      obtain ⟨p, hp, hsame⟩ := mem_map.1 hmem
      have hge := hlater p hp
      dsimp only at hsame
      omega
    · refine forall_mem_cons.2 ⟨le_rfl, fun p hp ↦ ?_⟩
      have hge := hlater p hp
      omega

/-- The first piece is of the bucket in which the start is read. -/
theorem exists_head (hcursor : cursor < finish) (hspan : bucketSpan cursor seconds = some (b, e))
    (he : cursor < e) {pieces : List Piece}
    (h : splitLoop total elapsed seconds finish cursor remaining = some pieces) :
    ∃ p ∈ pieces, p.bucketStart = b ∧ p.since = cursor := by
  by_cases hlast : finish ≤ e
  · rw [splitLoop_last hcursor hspan hlast] at h
    obtain rfl := some.inj h
    exact ⟨_, mem_cons_self, rfl, rfl⟩
  · rw [splitLoop_next he hspan (not_le.1 hlast)] at h
    obtain ⟨bytes, -, h⟩ := bind_eq_some_iff.1 h
    obtain ⟨rest, -, rfl⟩ := map_eq_some_iff.1 h
    exact ⟨_, mem_cons_self, rfl, rfl⟩

/-- A start that is read in the next bucket has its bytes counted there. -/
theorem startReadable_of_splits (hsecs : 0 < seconds)
    (hfinish : finish ≤ maxDatetime) (hinterval : start < finish)
    (h : Splits total elapsed seconds start finish) : StartReadable seconds start := by
  obtain ⟨pieces, hpieces, hconserves⟩ := h
  have habove := lt_bucketFloor_add hsecs start
  have hsize := size_pos hsecs
  cases hspan : bucketSpan start seconds with
  | none =>
    rw [splitLoop_of_span_none hinterval hspan] at hpieces
    exact absurd hpieces (by simp)
  | some span =>
    obtain ⟨hday, hb, hfirst, he⟩ := of_bucketSpan hsecs (by omega) hspan
    by_cases hread : ReadInOwnBucket seconds start
    · rw [readStart, if_pos hread] at hb
      exact ⟨hread, hday, hb ▸ hfirst⟩
    · rw [readStart, if_neg hread] at hb
      obtain ⟨p, hp, hstart, hsince⟩ := exists_head hinterval hspan (by omega) hpieces
      have hinside := (hconserves.inside p hp).1
      rw [hstart, hsince] at hinside
      omega

end Steps

/-- **What `_upsert_aggregate` writes of a rate are its bytes**, in the buckets of the interval. -/
theorem upsertAggregate_conserves {observedAt valueBps : ℤ} {elapsed : ℚ} {seconds : ℕ}
    {pieces : List Piece} (hsecs : 0 < seconds) (hlast : observedAt ≤ maxDatetime)
    (helapsed : 0 < elapsed) (hvalue : 0 ≤ valueBps)
    (hinterval : intervalStart observedAt elapsed < observedAt)
    (hread : StartReadable seconds (intervalStart observedAt elapsed))
    (h : upsertAggregate observedAt seconds valueBps elapsed = some pieces) :
    ∃ total, totalBytes valueBps elapsed = some total ∧
      Conserves total seconds (intervalStart observedAt elapsed) observedAt pieces := by
  rw [upsertAggregate, if_neg (by simp [helapsed, hvalue])] at h
  obtain ⟨total, htotal, h⟩ := bind_eq_some_iff.1 h
  have hnonneg : 0 ≤ total := by
    obtain ⟨rate, -, hrate⟩ := bind_eq_some_iff.1 htotal
    obtain ⟨product, -, hproduct⟩ := bind_eq_some_iff.1 hrate
    rw [← some.inj hproduct]
    exact le_max_left _ _
  exact ⟨total, htotal, (conserves_of_splitLoop hsecs hlast hinterval _ _ hread hnonneg h).1⟩

/-- A hundred seconds of 8000 bits per second, forty of them before the end of a bucket. -/
theorem upsertAggregate_conserves_example : ∃ total, totalBytes 8000 100 = some total ∧
    Conserves total 300 (intervalStart 660000000 100) 660000000
      [⟨300000000, 560000000, 600000000, 40000⟩, ⟨600000000, 600000000, 660000000, 60000⟩] :=
  upsertAggregate_conserves (by decide) (by decide) (by norm_num) (by decide) (by decide +kernel)
    ⟨by decide +kernel, by decide +kernel, by decide +kernel⟩ (by decide +kernel)

/-- **An interval is split without loss exactly** when its start is read in its own bucket, and the
calendar and the floats hold the rest. -/
theorem splits_iff (total : ℤ) (elapsed : ℚ) (seconds : ℕ) (start finish : ℤ)
    (htotal : 0 ≤ total) (hsecs : 0 < seconds) (hinterval : start < finish)
    (hlast : finish ≤ maxDatetime) :
    Splits total elapsed seconds start finish ↔
      StartReadable seconds start ∧ Fits total elapsed seconds start finish := by
  constructor
  · intro h
    have hread := startReadable_of_splits hsecs hlast hinterval h
    obtain ⟨pieces, hpieces, -⟩ := h
    exact ⟨hread, (exists_splitLoop_iff hsecs hlast hinterval total hread).1 ⟨pieces, hpieces⟩⟩
  · rintro ⟨hread, hfits⟩
    obtain ⟨pieces, hpieces⟩ :=
      (exists_splitLoop_iff hsecs hlast hinterval total hread).2 hfits
    exact ⟨pieces, hpieces,
      (conserves_of_splitLoop hsecs hlast hinterval total pieces hread htotal hpieces).1⟩

/-- Five minutes over one boundary. -/
theorem splits_over_boundary : Splits 1000 300 300 100500000 400500000 := by
  refine (splits_iff 1000 300 300 100500000 400500000 (by decide) (by decide) (by decide)
    (by decide)).2 ⟨⟨by decide +kernel, by decide, by decide⟩, by decide, fun b hb hlow hhigh ↦ ?_⟩
  have hmultiple : b % 300000000 = 0 := hb
  obtain rfl : b = 300000000 := by omega
  decide +kernel

/-- Half a second before 1970 belongs to the last bucket of 1969, but is read in the first one of
1970. -/
theorem not_splits_before_epoch : ¬ Splits 1000 (3 / 2) 300 (-500000) 1000000 := by
  intro h
  have hread := startReadable_of_splits (by decide) (by decide) (by decide) h
  exact absurd hread.read (by decide +kernel)

end Kaya.Snmp
