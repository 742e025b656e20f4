import NtpExporter.Go.Map
import Mathlib.Algebra.Order.Field.Rat
import Mathlib.Data.Rat.Floor
import Mathlib.Tactic.Linarith
import Mathlib.Tactic.FieldSimp
import Mathlib.Tactic.Ring

/-!
# Rate limiters

`RateLimiter` of the NTP client: a global token bucket, and one bucket per server made on the
server's first wait and kept for good, each a `rate.Limiter` of `golang.org/x/time/rate`, a library
outside the repository modelled after its implementation, with exact rationals for its `float64`
tokens and its waits truncated to whole nanoseconds. Over runs of at most 9223372036 waits whose
readings do not go back and whose contexts are done only by their deadlines or before the wait, the
global bucket's grants, and the waits for one server that let their holders go on, number in any
window of `T` nanoseconds at most the burst plus the refill in `T` and one more nanosecond.
-/

namespace NtpExporter

namespace Rate

/-- `InfDuration`: the largest duration, in nanoseconds. -/
def infDuration : ℚ := 2 ^ 63 - 1

/-- `rate.Limiter`. -/
structure Limiter where
  /-- `limit`: the tokens refilled per second. -/
  limit : ℚ
  /-- `burst`: the bucket's size. -/
  burst : Int
  /-- `tokens`: the level at `last`, below zero by the tokens reserved ahead. -/
  tokens : ℚ
  /-- `last`: the reading of the last update, `none` for the zero time. -/
  last : Option ℚ
  /-- `lastEvent`: the time at which the latest reservation may act. -/
  lastEvent : ℚ

/-- `NewLimiter`: an empty bucket last updated at the zero time, hence full at its first use. -/
def newLimiter (r : ℚ) (b : Int) : Limiter := ⟨r, b, 0, none, 0⟩

/-- `Limit.tokensFromDuration`: the tokens refilled in `d` nanoseconds, none for a limit that is not
positive. -/
def tokensFromDuration (limit d : ℚ) : ℚ := if limit ≤ 0 then 0 else d / 1000000000 * limit

/-- `time.Duration(d)`: a number of nanoseconds truncated toward zero. -/
def truncate (d : ℚ) : ℚ := if 0 ≤ d then ⌊d⌋ else ⌈d⌉

/-- `Limit.durationFromTokens`: the nanoseconds the limit takes to refill `tokens`, truncated to a
whole number and capped at `InfDuration`, and `InfDuration` for a limit that is not positive. -/
def durationFromTokens (limit tokens : ℚ) : ℚ :=
  if limit ≤ 0 then infDuration
  else
    let duration := tokens / limit * 1000000000
    if infDuration < duration then infDuration else truncate duration

/-- `Reservation`: whether it was granted, the tokens it holds, the time at which its holder may
act, and the limit it was made under. -/
structure Reservation where
  /-- `ok`. -/
  ok : Bool
  /-- `tokens`. -/
  tokens : Int
  /-- `timeToAct`. -/
  timeToAct : ℚ
  /-- `limit`. -/
  limit : ℚ

/-- What a wait sees of its context. -/
structure Context where
  /-- The deadline, if any. -/
  deadline : Option ℚ
  /-- The reading at which the context is done, if it is done before the wait ends. -/
  done : Option ℚ
  /-- `ctx.Err()`. -/
  err : String

namespace Limiter

/-- `advance`: the level at `t`, refilled since the last update and capped at the burst; a reading
before the last update refills nothing, and the zero time lies `InfDuration` before every
reading. -/
def advance (lim : Limiter) (t : ℚ) : ℚ :=
  let elapsed := match lim.last with
    | none => infDuration
    | some last => if t < last then 0 else t - last
  min (lim.tokens + tokensFromDuration lim.limit elapsed) lim.burst

/-- `reserveN`: `n` tokens at `t`. A limit of zero spends the burst itself. Otherwise the tokens are
taken from the level at `t`, and the holder may act once the bucket would have held them; granted
when `n` is within the burst and that wait within `maxFutureReserve`. -/
def reserveN (lim : Limiter) (t : ℚ) (n : Int) (maxFutureReserve : ℚ) : Limiter × Reservation :=
  if lim.limit = 0 then
    if n ≤ lim.burst then ({ lim with burst := lim.burst - n }, ⟨true, lim.burst - n, t, lim.limit⟩)
    else (lim, ⟨false, lim.burst, t, lim.limit⟩)
  else
    let tokens := lim.advance t - n
    let waitDuration := if tokens < 0 then durationFromTokens lim.limit (-tokens) else 0
    if n ≤ lim.burst ∧ waitDuration ≤ maxFutureReserve then
      ({ lim with last := some t, tokens := tokens, lastEvent := t + waitDuration },
        ⟨true, n, t + waitDuration, lim.limit⟩)
    else (lim, ⟨false, 0, 0, lim.limit⟩)

/-- `Reservation.CancelAt`: a granted reservation not yet due gives back its tokens, less those
reserved after it, capped at the burst; the latest event moves back when it was the latest. -/
def cancelAt (lim : Limiter) (r : Reservation) (t : ℚ) : Limiter :=
  if !r.ok ∨ r.tokens = 0 ∨ r.timeToAct < t then lim
  else
    let restoreTokens := r.tokens - tokensFromDuration r.limit (lim.lastEvent - r.timeToAct)
    if restoreTokens ≤ 0 then lim
    else
      let restored :=
        { lim with last := some t, tokens := min (lim.advance t + restoreTokens) lim.burst }
      if r.timeToAct = lim.lastEvent then
        let prevEvent := r.timeToAct + durationFromTokens r.limit (-r.tokens)
        if prevEvent < t then restored else { restored with lastEvent := prevEvent }
      else restored

/-- `Wait`, for one token at the reading `t`: refused at once when the burst is below one or the
context is done, or when the token would come after the deadline; otherwise granted at once when
the bucket holds it, or after sleeping until the reservation may act, unless the context is done
first, which cancels the reservation. The time at which the holder goes on. -/
def wait (lim : Limiter) (ctx : Context) (t : ℚ) : Limiter × Except String ℚ :=
  if lim.burst < 1 then
    (lim, .error ("rate: Wait(n=1) exceeds limiter's burst " ++ toString lim.burst))
  else if ctx.done.any (fun done => done ≤ t) then (lim, .error ctx.err)
  else
    let waitLimit := match ctx.deadline with
      | some deadline => deadline - t
      | none => infDuration
    let reserved := lim.reserveN t 1 waitLimit
    if !reserved.2.ok then (reserved.1, .error "rate: Wait(n=1) would exceed context deadline")
    else if reserved.2.timeToAct ≤ t then (reserved.1, .ok t)
    else
      match ctx.done with
      | some done =>
          if done < reserved.2.timeToAct then (reserved.1.cancelAt reserved.2 done, .error ctx.err)
          else (reserved.1, .ok reserved.2.timeToAct)
      | none => (reserved.1, .ok reserved.2.timeToAct)

/-- `Allow`, for one token at the reading `t`: granted only when the bucket holds it at `t`. -/
def allow (lim : Limiter) (t : ℚ) : Limiter × Bool :=
  let reserved := lim.reserveN t 1 0
  (reserved.1, reserved.2.ok)

/-- The refill in tokens per nanosecond. -/
def rate (lim : Limiter) : ℚ := lim.limit / 1000000000

end Limiter

/-! ## The bound of one bucket -/

/-- The times of `admitted` at or after `x`. -/
def since (admitted : List ℚ) (x : ℚ) : Nat := (admitted.filter fun a => x ≤ a).length

/-- The times of `admitted` in the window of `T` nanoseconds from `x`. -/
def within (admitted : List ℚ) (x T : ℚ) : Nat :=
  (admitted.filter fun a => x ≤ a ∧ a ≤ x + T).length

theorem since_append_singleton (admitted : List ℚ) (a x : ℚ) :
    since (admitted ++ [a]) x = since admitted x + if x ≤ a then 1 else 0 := by
  by_cases h : x ≤ a <;> simp [since, List.filter_append, h]

theorem within_append_singleton (admitted : List ℚ) (a x T : ℚ) :
    within (admitted ++ [a]) x T = within admitted x T + if x ≤ a ∧ a ≤ x + T then 1 else 0 := by
  by_cases h : x ≤ a ∧ a ≤ x + T <;> simp [within, List.filter_append, h]

theorem within_le_since (admitted : List ℚ) (x T : ℚ) : within admitted x T ≤ since admitted x :=
  (List.monotone_filter_right _ fun a inside => by simp_all).length_le

theorem since_eq_zero {admitted : List ℚ} {x : ℚ} (before : ∀ a ∈ admitted, a < x) :
    since admitted x = 0 := by
  simpa [since, List.filter_eq_nil_iff] using fun a mem => before a mem

/-- What a bucket and the times its run granted keep: every grant is due by the time the bucket is
back at the level it was updated to, so the grants since any `x` are paid for by the burst and the
refill since `x`; the tokens reserved ahead are no more than the grants; and the grants in every
window of `T` nanoseconds are at most the burst and the refill in `T` and one more nanosecond,
the most a truncated wait falls short. -/
structure Paced (lim : Limiter) (admitted : List ℚ) : Prop where
  /-- Nothing is granted before the first update. -/
  fresh : lim.last = none → admitted = []
  /-- No grant is later than the time at which the level is back to zero, nor than the update. -/
  bounded : ∀ last, lim.last = some last → ∀ a ∈ admitted,
    lim.rate * a ≤ max (lim.rate * last) (lim.rate * last - lim.tokens)
  /-- The grants since `x` are paid for by the burst and the refill since `x`. -/
  recent : ∀ last, lim.last = some last → ∀ x, since admitted x = 0 ∨
    (since admitted x : ℚ) ≤ lim.rate * last - lim.rate * x - lim.tokens + lim.burst
  /-- The tokens reserved ahead are no more than the grants. -/
  deficit : -lim.tokens ≤ admitted.length
  /-- The grants in a window are at most the burst and the refill in the window and a nanosecond. -/
  window : ∀ x T, 0 ≤ T → (within admitted x T : ℚ) ≤ lim.burst + lim.rate * (T + 1)

/-- A bucket of the given limit and burst that no wait has updated after `now`. -/
structure Ready (limit : ℚ) (burst : Int) (now : ℚ) (lim : Limiter) : Prop where
  /-- The bucket's limit. -/
  limit_eq : lim.limit = limit
  /-- The bucket's burst. -/
  burst_eq : lim.burst = burst
  /-- The last update is no later than `now`. -/
  updated : ∀ last, lim.last = some last → last ≤ now

theorem Ready.mono {limit : ℚ} {burst : Int} {now later : ℚ} {lim : Limiter}
    (ready : Ready limit burst now lim) (before : now ≤ later) : Ready limit burst later lim :=
  ⟨ready.limit_eq, ready.burst_eq, fun last updated => (ready.updated last updated).trans before⟩

/-- A wait of a positive limit for tokens it has to refill: a whole number of nanoseconds, at most
the exact wait, and more than the exact wait less a nanosecond unless it is capped. -/
theorem durationFromTokens_bounds {limit tokens : ℚ} (positive : 0 < limit) (nonneg : 0 ≤ tokens) :
    0 ≤ durationFromTokens limit tokens ∧
      durationFromTokens limit tokens ≤ tokens / limit * 1000000000 ∧
      (tokens / limit * 1000000000 ≤ infDuration →
        tokens / limit * 1000000000 < durationFromTokens limit tokens + 1) := by
  have exact : 0 ≤ tokens / limit * 1000000000 := by positivity
  simp only [durationFromTokens, not_le.mpr positive, if_false, truncate, if_pos exact]
  split_ifs with capped
  · exact ⟨by norm_num [infDuration], capped.le, fun room => absurd room (not_le.mpr capped)⟩
  · exact ⟨by exact_mod_cast Int.floor_nonneg.mpr exact, Int.floor_le _,
      fun _ => Int.lt_floor_add_one _⟩

namespace Limiter

variable {lim : Limiter} {t : ℚ}

theorem advance_le_burst (lim : Limiter) (t : ℚ) : lim.advance t ≤ lim.burst := min_le_right _ _

theorem advance_le_refill (positive : 0 < lim.limit) {last : ℚ} (updated : lim.last = some last)
    (after : last ≤ t) : lim.advance t ≤ lim.tokens + (lim.rate * t - lim.rate * last) := by
  have refill : tokensFromDuration lim.limit (t - last) = lim.rate * t - lim.rate * last := by
    simp only [tokensFromDuration, not_le.mpr positive, if_false, rate]; ring
  simp [advance, updated, not_lt.mpr after, refill]

/-- Time never takes tokens away: the level at any reading is at least the level kept, or the burst
when that is below it. -/
theorem min_le_advance (positive : 0 < lim.limit) (t : ℚ) :
    min lim.tokens lim.burst ≤ lim.advance t := by
  have elapsed : 0 ≤ (match lim.last with
      | none => infDuration
      | some last => if t < last then 0 else t - last) := by
    split
    · norm_num [infDuration]
    · split_ifs with before
      · exact le_rfl
      · linarith [not_lt.mp before]
  have refill : 0 ≤ tokensFromDuration lim.limit (match lim.last with
      | none => infDuration
      | some last => if t < last then 0 else t - last) := by
    simp only [tokensFromDuration, not_le.mpr positive, if_false]; positivity
  exact min_le_min_right _ (le_add_of_nonneg_right refill)

/-- The time at which a reservation of one token at `t`, taken from `level`, may act: not before
`t`, not after the level less the token is back to zero, and less than a nanosecond before that
when the wait is below `InfDuration`. -/
theorem timeToAct_bounds (atLeast : 1 ≤ lim.limit) (level : ℚ) :
    let a := t + if level - 1 < 0 then durationFromTokens lim.limit (-(level - 1)) else 0
    t ≤ a ∧ lim.rate * a ≤ max (lim.rate * t) (lim.rate * t - (level - 1)) ∧
      ((1 - level) * 1000000000 ≤ infDuration →
        max (lim.rate * t) (lim.rate * t - (level - 1)) < lim.rate * (a + 1)) := by
  have positive : 0 < lim.limit := zero_lt_one.trans_le atLeast
  have ratePositive : 0 < lim.rate := div_pos positive (by norm_num)
  by_cases short : level - 1 < 0
  · simp only [short, if_true]
    obtain ⟨nonneg, below, above⟩ :=
      durationFromTokens_bounds positive (by linarith : 0 ≤ -(level - 1))
    have paid : lim.rate * (-(level - 1) / lim.limit * 1000000000) = 1 - level := by
      simp only [rate]; field_simp; ring
    have shorter : -(level - 1) / lim.limit * 1000000000 ≤ (1 - level) * 1000000000 := by
      rw [neg_sub]
      exact mul_le_mul_of_nonneg_right (div_le_self (by linarith) atLeast) (by norm_num)
    refine ⟨by linarith, ?_, fun room => ?_⟩
    · rw [max_eq_right (by linarith)]
      nlinarith [mul_le_mul_of_nonneg_left below ratePositive.le]
    · rw [max_eq_right (by linarith)]
      nlinarith [mul_lt_mul_of_pos_left (above (shorter.trans room)) ratePositive]
  · simp only [short, if_false, add_zero]
    refine ⟨le_rfl, le_max_left _ _, fun _ => ?_⟩
    rw [max_eq_left (by linarith)]
    nlinarith

/-- What a wait on a bucket with a limit of at least a token a second does, when its context is
done only by its deadline or before the wait: it leaves the bucket as it is and grants nothing, or
it takes a token from the level at `t` and grants it at a time that `timeToAct_bounds` bounds. -/
theorem wait_cases {ctx : Context} (atLeast : 1 ≤ lim.limit)
    (calm : ∀ done, ctx.done = some done →
      done ≤ t ∨ ∃ deadline, ctx.deadline = some deadline ∧ deadline ≤ done) :
    ((lim.wait ctx t).1 = lim ∧ (lim.wait ctx t).2.toOption = none) ∨
      ∃ a event, 1 ≤ lim.burst ∧
        (lim.wait ctx t).1 = { lim with
          last := some t
          tokens := lim.advance t - 1
          lastEvent := event } ∧
        (lim.wait ctx t).2.toOption = some a ∧
        lim.rate * a ≤ max (lim.rate * t) (lim.rate * t - (lim.advance t - 1)) ∧
        ((1 - lim.advance t) * 1000000000 ≤ infDuration →
          max (lim.rate * t) (lim.rate * t - (lim.advance t - 1)) < lim.rate * (a + 1)) := by
  have positive : 0 < lim.limit := zero_lt_one.trans_le atLeast
  obtain ⟨later, early, late⟩ := timeToAct_bounds (t := t) atLeast (lim.advance t)
  unfold wait
  by_cases small : lim.burst < 1
  · rw [if_pos small]; exact .inl ⟨rfl, rfl⟩
  by_cases done : ctx.done.any (fun done => done ≤ t)
  · rw [if_neg small, if_pos done]; exact .inl ⟨rfl, rfl⟩
  rw [if_neg small, if_neg done]
  generalize waitLimit : (match ctx.deadline with
    | some deadline => deadline - t
    | none => infDuration) = limitOfWait
  simp only [reserveN, positive.ne', if_false, Int.cast_one, not_lt.mp small, true_and]
  generalize (if lim.advance t - 1 < 0 then durationFromTokens lim.limit (-(lim.advance t - 1))
    else 0) = wd at later early late
  by_cases granted : wd ≤ limitOfWait
  · simp only [granted, and_self, if_true, Bool.not_true, Bool.false_eq_true, if_false]
    by_cases immediate : t + wd ≤ t
    · simp only [immediate, if_true]
      obtain rfl : wd = 0 := by linarith
      rw [add_zero] at early late
      exact .inr ⟨t, _, rfl, rfl, early, late⟩
    · simp only [immediate, if_false]
      cases doneAt : ctx.done with
      | none => exact .inr ⟨t + wd, _, rfl, rfl, early, late⟩
      | some doneTime =>
          have notYet : ¬ doneTime < t + wd := by
            rcases calm doneTime doneAt with early | ⟨deadline, bounded, byDeadline⟩
            · simp [doneAt, early] at done
            · simp only [bounded] at waitLimit
              linarith
          simp only [notYet, if_false]
          exact .inr ⟨t + wd, _, rfl, rfl, early, late⟩
  · left
    simp only [granted, and_false, if_false, Bool.not_false, if_true]
    exact ⟨trivial, rfl⟩

/-- The level at `t` of a bucket that has just taken a token at `t` is one below what it was. -/
theorem advance_take (lim : Limiter) (t event : ℚ) :
    ({ lim with last := some t, tokens := lim.advance t - 1, lastEvent := event } : Limiter).advance
      t = lim.advance t - 1 := by
  have below := lim.advance_le_burst t
  show min (lim.advance t - 1 + tokensFromDuration lim.limit (if t < t then 0 else t - t))
    lim.burst = _
  simp only [lt_irrefl, if_false, sub_self, tokensFromDuration, zero_div, zero_mul, ite_self,
    add_zero]
  exact min_eq_left (by linarith)

/-- A granted reservation of one token at `t` takes it from the level at `t`. -/
theorem reserveN_granted (positive : 0 < lim.limit) {maxFutureReserve : ℚ}
    (granted : (lim.reserveN t 1 maxFutureReserve).2.ok = true) :
    ∃ event, (lim.reserveN t 1 maxFutureReserve).1 =
      { lim with last := some t, tokens := lim.advance t - 1, lastEvent := event } := by
  unfold reserveN at granted ⊢
  simp only [positive.ne', if_false, Int.cast_one] at granted ⊢
  split_ifs at granted ⊢ <;> exact ⟨_, rfl⟩

/-- A wait that grants has taken a token from the level at `t`. -/
theorem wait_granted {ctx : Context} (positive : 0 < lim.limit)
    (granted : (lim.wait ctx t).2.isOk = true) :
    ∃ event, (lim.wait ctx t).1 =
      { lim with last := some t, tokens := lim.advance t - 1, lastEvent := event } := by
  unfold wait at granted ⊢
  generalize (match ctx.deadline with
    | some deadline => deadline - t
    | none => infDuration) = waitLimit at granted ⊢
  by_cases small : lim.burst < 1
  · rw [if_pos small] at granted; cases granted
  by_cases done : ctx.done.any (fun done => done ≤ t)
  · rw [if_neg small, if_pos done] at granted; cases granted
  rw [if_neg small, if_neg done] at granted ⊢
  cases reserved : (lim.reserveN t 1 waitLimit).2.ok
  · simp only [reserved, Bool.not_false, if_true] at granted; cases granted
  have taken := reserveN_granted positive reserved
  simp only [reserved, Bool.not_true, Bool.false_eq_true, if_false] at granted ⊢
  by_cases immediate : (lim.reserveN t 1 waitLimit).2.timeToAct ≤ t
  · rwa [if_pos immediate]
  rw [if_neg immediate] at granted ⊢
  cases doneAt : ctx.done with
  | none => exact taken
  | some done =>
      simp only [doneAt] at granted ⊢
      by_cases cancelled : done < (lim.reserveN t 1 waitLimit).2.timeToAct
      · rw [if_pos cancelled] at granted; cases granted
      · rwa [if_neg cancelled]

end Limiter

/-- A wait at `t`, no earlier than the bucket's last update, keeps its limit and burst and leaves
it updated no later than `t`. -/
theorem Ready.wait {limit : ℚ} {burst : Int} {now t : ℚ} {lim : Limiter} {ctx : Context}
    (ready : Ready limit burst now lim) (atLeast : 1 ≤ limit) (after : now ≤ t)
    (calm : ∀ done, ctx.done = some done →
      done ≤ t ∨ ∃ deadline, ctx.deadline = some deadline ∧ deadline ≤ done) :
    Ready limit burst t (lim.wait ctx t).1 := by
  rcases Limiter.wait_cases (ready.limit_eq ▸ atLeast) calm with ⟨same, -⟩ |
    ⟨a, event, -, granted, -⟩
  · rw [same]; exact ready.mono after
  · rw [granted]
    exact ⟨ready.limit_eq, ready.burst_eq, fun _ updated => (Option.some.inj updated).ge⟩

namespace Paced

variable {lim : Limiter} {admitted : List ℚ}

/-- A grant of a token taken at `t` from `level`, acting at `a`, keeps the invariant: `a` is no
later than the time the level is back to zero, and less than a nanosecond before it. -/
theorem grant (paced : Paced lim admitted) (positive : 0 < lim.limit) (atLeastOne : 1 ≤ lim.burst)
    {t level a event : ℚ} (levelLe : level ≤ lim.burst) (levelGe : -(admitted.length : ℚ) ≤ level)
    (refill : ∀ last, lim.last = some last →
      last ≤ t ∧ level ≤ lim.tokens + (lim.rate * t - lim.rate * last))
    (early : lim.rate * a ≤ max (lim.rate * t) (lim.rate * t - (level - 1)))
    (late : max (lim.rate * t) (lim.rate * t - (level - 1)) < lim.rate * (a + 1)) :
    Paced { lim with last := some t, tokens := level - 1, lastEvent := event }
      (admitted ++ [a]) := by
  have ratePositive : 0 < lim.rate := div_pos positive (by norm_num)
  have burstOne : (1 : ℚ) ≤ lim.burst := by exact_mod_cast atLeastOne
  have older : ∀ b ∈ admitted, lim.rate * b ≤ max (lim.rate * t) (lim.rate * t - (level - 1)) := by
    intro b mem
    cases updated : lim.last with
    | none => simp [paced.fresh updated] at mem
    | some last =>
        obtain ⟨after, refilled⟩ := refill last updated
        have moved : lim.rate * last ≤ lim.rate * t :=
          mul_le_mul_of_nonneg_left after ratePositive.le
        exact (paced.bounded last updated b mem).trans (max_le_max moved (by linarith))
  have paid : ∀ x, x ≤ a →
      (since admitted x : ℚ) + 1 ≤ lim.rate * t - lim.rate * x - (level - 1) + lim.burst := by
    intro x before
    have reach := le_max_iff.mp ((mul_le_mul_of_nonneg_left before ratePositive.le).trans early)
    cases updated : lim.last with
    | none =>
        simp only [paced.fresh updated, since, List.filter_nil, List.length_nil, Nat.cast_zero]
        rcases reach with reach | reach <;> linarith
    | some last =>
        obtain ⟨after, refilled⟩ := refill last updated
        rcases paced.recent last updated x with zero | bound
        · rw [zero, Nat.cast_zero]
          rcases reach with reach | reach <;> linarith
        · linarith
  refine ⟨fun fresh => by simp at fresh, ?_, ?_, ?_, ?_⟩
  · rintro last ⟨⟩ b mem
    rcases List.mem_append.mp mem with mem | mem
    · exact older b mem
    · rwa [List.mem_singleton.mp mem]
  · rintro last ⟨⟩ x
    show _ ∨ _ ≤ lim.rate * t - lim.rate * x - (level - 1) + lim.burst
    rw [since_append_singleton]
    by_cases before : x ≤ a
    · exact .inr (by simpa [before] using paid x before)
    simp only [before, if_false, add_zero]
    cases updated : lim.last with
    | none => exact .inl (by simp [paced.fresh updated, since])
    | some last =>
        obtain ⟨-, refilled⟩ := refill last updated
        exact (paced.recent last updated x).imp_right fun bound => by linarith
  · show -(level - 1) ≤ ((admitted ++ [a]).length : ℚ)
    rw [List.length_append, List.length_singleton, Nat.cast_add, Nat.cast_one]
    linarith
  · intro x T nonneg
    show _ ≤ (lim.burst : ℚ) + lim.rate * (T + 1)
    rw [within_append_singleton]
    by_cases inside : x ≤ a ∧ a ≤ x + T
    · have counted : (within admitted x T : ℚ) ≤ since admitted x := by
        exact_mod_cast within_le_since admitted x T
      have due : lim.rate * (a + 1) ≤ lim.rate * x + lim.rate * (T + 1) := by
        rw [← mul_add]; exact mul_le_mul_of_nonneg_left (by linarith [inside.2]) ratePositive.le
      have reached := (le_max_right (lim.rate * t) (lim.rate * t - (level - 1))).trans_lt late
      simp only [inside, and_self, if_true, Nat.cast_add, Nat.cast_one]
      linarith [paid x inside.1]
    · simpa [inside] using paced.window x T nonneg

/-- The window bound in the settings of a bucket whose limit and burst are known. -/
theorem within_le {limit : ℚ} {burst : Int} {now : ℚ} (paced : Paced lim admitted)
    (ready : Ready limit burst now lim) (x T : ℚ) (nonneg : 0 ≤ T) :
    (within admitted x T : ℚ) ≤ burst + limit / 1000000000 * (T + 1) := by
  simpa only [ready.burst_eq, Limiter.rate, ready.limit_eq] using paced.window x T nonneg

theorem newLimiter (limit : ℚ) (burst : Int) (positive : 0 < limit) (atLeastOne : 1 ≤ burst) :
    Paced (Rate.newLimiter limit burst) [] where
  fresh _ := rfl
  bounded _ updated := by simp [Rate.newLimiter] at updated
  recent _ updated := by simp [Rate.newLimiter] at updated
  deficit := by simp [Rate.newLimiter]
  window x T nonneg := by
    have : (1 : ℚ) ≤ burst := by exact_mod_cast atLeastOne
    have : 0 ≤ limit / 1000000000 * (T + 1) :=
      mul_nonneg (div_pos positive (by norm_num)).le (by linarith)
    simp only [within, List.filter_nil, List.length_nil, Nat.cast_zero, Rate.newLimiter,
      Limiter.rate]
    exact add_nonneg (by linarith) this

/-- A wait keeps the invariant, with its grant, if any, added, on a bucket of a limit of at least a
token a second that has granted fewer than 9223372036 waits. -/
theorem wait (paced : Paced lim admitted) (atLeast : 1 ≤ lim.limit) {ctx : Context} {t : ℚ}
    (after : ∀ last, lim.last = some last → last ≤ t)
    (calm : ∀ done, ctx.done = some done →
      done ≤ t ∨ ∃ deadline, ctx.deadline = some deadline ∧ deadline ≤ done)
    (room : (admitted.length : ℚ) + 1 ≤ 9223372036) :
    Paced (lim.wait ctx t).1 (admitted ++ (lim.wait ctx t).2.toOption.toList) := by
  have positive : 0 < lim.limit := zero_lt_one.trans_le atLeast
  rcases Limiter.wait_cases atLeast calm with ⟨same, refused⟩ |
    ⟨a, event, atLeastOne, granted, some, early, late⟩
  · simpa [same, refused] using paced
  · have floor : -(admitted.length : ℚ) ≤ lim.advance t := by
      have burstOne : (1 : ℚ) ≤ lim.burst := by exact_mod_cast atLeastOne
      refine le_trans ?_ (Limiter.min_le_advance positive t)
      exact le_min (by linarith [paced.deficit])
        (by linarith [(admitted.length).cast_nonneg (α := ℚ)])
    rw [granted, some]
    exact paced.grant positive atLeastOne (lim.advance_le_burst t) floor
      (fun last updated => ⟨after last updated,
        Limiter.advance_le_refill positive updated (after last updated)⟩) early
      (late (by norm_num [infDuration]; linarith))

end Paced

/-- A bucket made by `NewLimiter` with a limit of at least a token a second and a burst of at least
one grants a first wait at once, whatever its reading, when its context has no deadline and is not
done. -/
theorem wait_newLimiter (limit : ℚ) (burst : Int) (atLeast : 1 ≤ limit) (atLeastOne : 1 ≤ burst)
    (err : String) (t : ℚ) : ((newLimiter limit burst).wait ⟨none, none, err⟩ t).2 = .ok t := by
  have burstIs : (newLimiter limit burst).burst = burst := rfl
  have limitIs : (newLimiter limit burst).limit = limit := rfl
  have full : ¬ (newLimiter limit burst).advance t < 1 := by
    have refilled : 1 ≤ tokensFromDuration limit infDuration := by
      simp only [tokensFromDuration, not_le.mpr (zero_lt_one.trans_le atLeast), if_false,
        infDuration]
      nlinarith
    have burstOne : (1 : ℚ) ≤ burst := by exact_mod_cast atLeastOne
    simpa [Limiter.advance, newLimiter] using ⟨refilled, burstOne⟩
  simp [Limiter.wait, Limiter.reserveN, burstIs, limitIs, atLeastOne, not_lt.mpr atLeastOne,
    (zero_lt_one.trans_le atLeast).ne', full, infDuration, show (1 : ℚ) ≤ 2 ^ 63 by norm_num]

end Rate

/-- `RateLimiter`. -/
structure RateLimiter where
  /-- `global`. -/
  global : Rate.Limiter
  /-- `perServer`. -/
  perServer : GoMap String Rate.Limiter
  /-- `perServerRate`. -/
  perServerRate : Int
  /-- `burstSize`. -/
  burstSize : Int

namespace RateLimiter

/-- `NewRateLimiter`. -/
def newRateLimiter (globalRate perServerRate burstSize : Int) : RateLimiter :=
  ⟨Rate.newLimiter globalRate burstSize, ∅, perServerRate, burstSize⟩

/-- `getLimiterForServer`: the server's bucket, or a new one. -/
def getLimiterForServer (rl : RateLimiter) (server : String) : Rate.Limiter :=
  (rl.perServer.lookup server).getD (Rate.newLimiter rl.perServerRate rl.burstSize)

/-- `Wait`: the global bucket's wait at the reading `first`, then the server's bucket's at the
reading `second`, each error wrapped with the bucket's name. The server's bucket is kept even when
its wait fails. -/
def wait (rl : RateLimiter) (ctx : Rate.Context) (server : String) (first second : ℚ) :
    RateLimiter × Except String ℚ :=
  let global := rl.global.wait ctx first
  match global.2 with
  | .error err => ({ rl with global := global.1 }, .error ("global rate limit: " ++ err))
  | .ok _ =>
      let perServer := (rl.getLimiterForServer server).wait ctx second
      ({ rl with global := global.1, perServer := rl.perServer.insert server perServer.1 },
        perServer.2.mapError fun err => "per-server rate limit for " ++ server ++ ": " ++ err)

/-- `Allow`: the global bucket's `Allow` at the reading `first`, then, when it grants, the server's
bucket's at the reading `second`. The server's bucket is kept. -/
def allow (rl : RateLimiter) (server : String) (first second : ℚ) : RateLimiter × Bool :=
  let global := rl.global.allow first
  if !global.2 then ({ rl with global := global.1 }, false)
  else
    let perServer := (rl.getLimiterForServer server).allow second
    ({ rl with global := global.1, perServer := rl.perServer.insert server perServer.1 },
      perServer.2)

/-- A rate limiter made by `NewRateLimiter` with rates of at least a query a second and a burst of
at least one grants a first wait for any server at once. -/
theorem wait_newRateLimiter (globalRate perServerRate burstSize : Int)
    (globalAtLeast : 1 ≤ globalRate) (perServerAtLeast : 1 ≤ perServerRate)
    (atLeastOne : 1 ≤ burstSize) (err server : String)
    (first second : ℚ) :
    ((newRateLimiter globalRate perServerRate burstSize).wait ⟨none, none, err⟩ server first
      second).2 = .ok second := by
  have global := Rate.wait_newLimiter globalRate burstSize (by exact_mod_cast globalAtLeast)
    atLeastOne err first
  have perServer := Rate.wait_newLimiter perServerRate burstSize
    (by exact_mod_cast perServerAtLeast) atLeastOne err second
  simp [wait, newRateLimiter, global, getLimiterForServer, perServer, Except.mapError]

/-- One wait of a run on a rate limiter: its context, its server, and the readings at which its
two waits begin. -/
structure Call where
  /-- The context. -/
  ctx : Rate.Context
  /-- The server. -/
  server : String
  /-- The reading at which the global bucket's wait begins. -/
  first : ℚ
  /-- The reading at which the server's bucket's wait begins. -/
  second : ℚ

/-- What one wait of a run did: its server, the time at which the global bucket granted it a token,
if it did, and the time at which the wait let its holder go on, if it did. -/
structure Grant where
  /-- The server. -/
  server : String
  /-- The global bucket's grant. -/
  global : Option ℚ
  /-- The time at which the holder went on. -/
  granted : Option ℚ

/-- Waits on a rate limiter, one after another: the rate limiter after them and what each did. -/
def waitAll (rl : RateLimiter) : List Call → RateLimiter × List Grant
  | [] => (rl, [])
  | c :: rest =>
      let waited := rl.wait c.ctx c.server c.first c.second
      let next := waitAll waited.1 rest
      (next.1, ⟨c.server, (rl.global.wait c.ctx c.first).2.toOption, waited.2.toOption⟩ :: next.2)

/-- The times at which the global bucket granted a run's waits their tokens. -/
def globalGrants (grants : List Grant) : List ℚ := grants.filterMap Grant.global

/-- The times at which a run's waits for `server` let their holders go on. -/
def serverGrants (grants : List Grant) (server : String) : List ℚ :=
  (grants.filter fun g => g.server = server).filterMap Grant.granted

/-- What a rate limiter and the grants of its run keep: each bucket is paced, with its limit and
burst, and none was updated after `now`. -/
structure Paced (globalRate perServerRate : ℚ) (burstSize : Int) (now : ℚ) (rl : RateLimiter)
    (grants : List Grant) : Prop where
  /-- The global bucket is paced by the global grants. -/
  global : Rate.Paced rl.global (globalGrants grants)
  /-- The global bucket's settings. -/
  globalReady : Rate.Ready globalRate burstSize now rl.global
  /-- Each server's bucket is paced by the server's grants. -/
  perServer : ∀ server, Rate.Paced (rl.getLimiterForServer server) (serverGrants grants server)
  /-- Each server's bucket's settings. -/
  perServerReady : ∀ server, Rate.Ready perServerRate burstSize now (rl.getLimiterForServer server)

@[simp] theorem getLimiterForServer_newRateLimiter (globalRate perServerRate burstSize : Int)
    (server : String) :
    (newRateLimiter globalRate perServerRate burstSize).getLimiterForServer server =
      Rate.newLimiter perServerRate burstSize := rfl

@[simp] theorem getLimiterForServer_global (rl : RateLimiter) (global : Rate.Limiter)
    (server : String) :
    ({ rl with global := global } : RateLimiter).getLimiterForServer server =
      rl.getLimiterForServer server := rfl

theorem globalGrants_append (grants : List Grant) (g : Grant) :
    globalGrants (grants ++ [g]) = globalGrants grants ++ g.global.toList := by
  cases h : g.global <;> simp [globalGrants, h]

theorem serverGrants_append (grants : List Grant) (g : Grant) (server : String) :
    serverGrants (grants ++ [g]) server =
      serverGrants grants server ++ if g.server = server then g.granted.toList else [] := by
  by_cases same : g.server = server <;> cases h : g.granted <;> simp [serverGrants, same, h]

theorem getLimiterForServer_insert (rl : RateLimiter) (global limiter : Rate.Limiter)
    (server other : String) :
    ({ rl with global := global, perServer := rl.perServer.insert server limiter } :
      RateLimiter).getLimiterForServer other =
      if server = other then limiter else rl.getLimiterForServer other := by
  by_cases same : server = other
  · subst same; simp [getLimiterForServer]
  · simp [getLimiterForServer, same, AList.lookup_insert_ne (Ne.symm same)]

theorem toOption_mapError {α : Type} (x : Except String α) (f : String → String) :
    (x.mapError f).toOption = x.toOption := by
  cases x <;> rfl

/-- A rate limiter made by `NewRateLimiter`, with no grant yet, is paced at any reading. -/
theorem Paced.newRateLimiter (globalRate perServerRate burstSize : Int)
    (positiveGlobal : 0 < globalRate) (positivePerServer : 0 < perServerRate)
    (atLeastOne : 1 ≤ burstSize) (now : ℚ) :
    Paced globalRate perServerRate burstSize now
      (newRateLimiter globalRate perServerRate burstSize) [] where
  global := Rate.Paced.newLimiter _ _ (by exact_mod_cast positiveGlobal) atLeastOne
  globalReady := ⟨rfl, rfl, fun _ updated => by cases updated⟩
  perServer _ := by
    simpa [serverGrants] using
      Rate.Paced.newLimiter _ _ (by exact_mod_cast positivePerServer) atLeastOne
  perServerReady _ := ⟨rfl, rfl, fun _ updated => by cases updated⟩

theorem length_globalGrants_le (grants : List Grant) :
    (globalGrants grants).length ≤ grants.length :=
  List.length_filterMap_le _ _

theorem length_serverGrants_le (grants : List Grant) (server : String) :
    (serverGrants grants server).length ≤ grants.length :=
  (List.length_filterMap_le _ _).trans (List.length_filter_le _ _)

/-- A wait keeps a rate limiter paced, with what it did added: the global bucket's wait at `first`,
then, when that grants, the server's bucket's at `second`. -/
theorem Paced.wait {globalRate perServerRate : ℚ} {burstSize : Int} {now : ℚ} {rl : RateLimiter}
    {grants : List Grant} (paced : Paced globalRate perServerRate burstSize now rl grants)
    (atLeastGlobal : 1 ≤ globalRate) (atLeastPerServer : 1 ≤ perServerRate) {c : Call}
    (after : now ≤ c.first) (ordered : c.first ≤ c.second)
    (calm : ∀ done, c.ctx.done = some done →
      done ≤ c.first ∨ ∃ deadline, c.ctx.deadline = some deadline ∧ deadline ≤ done)
    (room : grants.length + 1 ≤ 9223372036) :
    Paced globalRate perServerRate burstSize c.second (rl.wait c.ctx c.server c.first c.second).1
      (grants ++ [⟨c.server, (rl.global.wait c.ctx c.first).2.toOption,
        (rl.wait c.ctx c.server c.first c.second).2.toOption⟩]) := by
  have calmLater : ∀ done, c.ctx.done = some done →
      done ≤ c.second ∨ ∃ deadline, c.ctx.deadline = some deadline ∧ deadline ≤ done :=
    fun done doneAt => (calm done doneAt).imp_left (·.trans ordered)
  have roomFor (admitted : List ℚ) (fewer : admitted.length ≤ grants.length) :
      (admitted.length : ℚ) + 1 ≤ 9223372036 := by
    exact_mod_cast (Nat.add_le_add_right fewer 1).trans room
  have global := paced.global.wait (paced.globalReady.limit_eq ▸ atLeastGlobal)
    (fun last updated => (paced.globalReady.updated last updated).trans after) calm
    (roomFor _ (length_globalGrants_le grants))
  have globalReady := (paced.globalReady.wait atLeastGlobal after calm).mono ordered
  have perServerReady (server : String) := (paced.perServerReady server).mono (after.trans ordered)
  cases result : (rl.global.wait c.ctx c.first).2 with
  | error err =>
      have waited : rl.wait c.ctx c.server c.first c.second =
          ({ rl with global := (rl.global.wait c.ctx c.first).1 },
            .error ("global rate limit: " ++ err)) := by
        simp [RateLimiter.wait, result]
      rw [result] at global
      rw [waited]
      exact ⟨by simpa [globalGrants_append] using global, globalReady,
        fun server => by simpa [serverGrants_append, Except.toOption] using paced.perServer server,
        perServerReady⟩
  | ok granted =>
      have perServer := (paced.perServer c.server).wait
        ((paced.perServerReady c.server).limit_eq ▸ atLeastPerServer)
        (fun last updated => (perServerReady c.server).updated last updated) calmLater
        (roomFor _ (length_serverGrants_le grants c.server))
      have limiterReady := (paced.perServerReady c.server).wait atLeastPerServer
        (after.trans ordered) calmLater
      have waited : rl.wait c.ctx c.server c.first c.second =
          ({ rl with
              global := (rl.global.wait c.ctx c.first).1
              perServer := rl.perServer.insert c.server
                ((rl.getLimiterForServer c.server).wait c.ctx c.second).1 },
            ((rl.getLimiterForServer c.server).wait c.ctx c.second).2.mapError
              fun err => "per-server rate limit for " ++ c.server ++ ": " ++ err) := by
        simp [RateLimiter.wait, result]
      rw [result] at global
      rw [waited]
      refine ⟨by simpa [globalGrants_append] using global, globalReady, fun server => ?_,
        fun server => ?_⟩
      · by_cases same : c.server = server
        · subst same
          simpa [serverGrants_append, getLimiterForServer_insert, toOption_mapError] using perServer
        · simpa [serverGrants_append, getLimiterForServer_insert, same] using paced.perServer server
      · by_cases same : c.server = server
        · subst same
          simpa [getLimiterForServer_insert] using limiterReady
        · simpa [getLimiterForServer_insert, same] using perServerReady server

/-- A run of waits keeps a rate limiter paced, with what they did added. -/
theorem Paced.waitAll {globalRate perServerRate : ℚ} {burstSize : Int} {now : ℚ} {rl : RateLimiter}
    {grants : List Grant} (paced : Paced globalRate perServerRate burstSize now rl grants)
    (atLeastGlobal : 1 ≤ globalRate) (atLeastPerServer : 1 ≤ perServerRate) (calls : List Call)
    (after : ∀ reading ∈ calls.flatMap (fun c => [c.first, c.second]), now ≤ reading)
    (sorted : (calls.flatMap fun c => [c.first, c.second]).Pairwise (· ≤ ·))
    (calm : ∀ c ∈ calls, ∀ done, c.ctx.done = some done →
      done ≤ c.first ∨ ∃ deadline, c.ctx.deadline = some deadline ∧ deadline ≤ done)
    (room : grants.length + calls.length ≤ 9223372036) :
    ∃ later, Paced globalRate perServerRate burstSize later (rl.waitAll calls).1
      (grants ++ (rl.waitAll calls).2) := by
  induction calls generalizing now rl grants with
  | nil => exact ⟨now, by simpa [RateLimiter.waitAll] using paced⟩
  | cons c rest ih =>
      simp only [List.flatMap_cons, List.cons_append, List.nil_append, List.pairwise_cons,
        List.mem_cons, List.mem_append, forall_eq_or_imp] at after sorted
      simp only [List.length_cons] at room
      have first := paced.wait atLeastGlobal atLeastPerServer after.1 (sorted.1.1)
        (calm c (List.mem_cons_self _ _)) (by omega)
      obtain ⟨later, next⟩ := ih first (fun reading mem => sorted.2.1 reading mem) sorted.2.2
        (fun c' mem => calm c' (List.mem_cons_of_mem _ mem))
        (by simp only [List.length_append, List.length_singleton]; omega)
      exact ⟨later, by simpa [RateLimiter.waitAll, List.append_assoc] using next⟩

/-- Neither `Wait` nor `Allow` gives the global token back when the server's bucket refuses: the
call fails, yet the global bucket's level at the call is one below what it was, as after a call
that was admitted. -/
theorem refused_call_spends_global_token (rl : RateLimiter) (positive : 0 < rl.global.limit)
    (ctx : Rate.Context) (server : String) (first second : ℚ) :
    ((rl.global.wait ctx first).2.isOk = true →
      ((rl.getLimiterForServer server).wait ctx second).2.isOk = false →
      (rl.wait ctx server first second).2.isOk = false ∧
        (rl.wait ctx server first second).1.global.advance first = rl.global.advance first - 1) ∧
    ((rl.global.allow first).2 = true → ((rl.getLimiterForServer server).allow second).2 = false →
      (rl.allow server first second).2 = false ∧
        (rl.allow server first second).1.global.advance first = rl.global.advance first - 1) := by
  refine ⟨fun granted refused => ?_, fun granted refused => ?_⟩
  · obtain ⟨event, taken⟩ := Rate.Limiter.wait_granted positive granted
    obtain ⟨a, ok⟩ : ∃ a, (rl.global.wait ctx first).2 = .ok a := by
      cases answer : (rl.global.wait ctx first).2 <;> simp_all [Except.isOk, Except.toBool]
    obtain ⟨err, failed⟩ :
        ∃ err, ((rl.getLimiterForServer server).wait ctx second).2 = .error err := by
      cases answer : ((rl.getLimiterForServer server).wait ctx second).2 <;>
        simp_all [Except.isOk, Except.toBool]
    simp only [wait, ok, failed, Except.mapError]
    exact ⟨rfl, by rw [taken, Rate.Limiter.advance_take]⟩
  · obtain ⟨event, taken⟩ := Rate.Limiter.reserveN_granted positive granted
    simp only [allow, granted, refused, Bool.not_true, Bool.false_eq_true, if_false]
    exact ⟨trivial, by rw [Rate.Limiter.allow, taken, Rate.Limiter.advance_take]⟩

theorem refused_call_spends_global_token_empty_server_bucket :
    let rl : RateLimiter :=
      ⟨Rate.newLimiter 10 1, AList.singleton "192.0.2.1" ⟨1, 1, 0, some 0, 0⟩, 1, 1⟩
    let ctx : Rate.Context := ⟨some 0, none, "context deadline exceeded"⟩
    0 < rl.global.limit ∧
      ((rl.global.wait ctx 0).2.isOk = true ∧
        ((rl.getLimiterForServer "192.0.2.1").wait ctx 0).2.isOk = false ∧
        (rl.wait ctx "192.0.2.1" 0 0).2.isOk = false ∧
        (rl.wait ctx "192.0.2.1" 0 0).1.global.advance 0 = rl.global.advance 0 - 1) ∧
      ((rl.global.allow 0).2 = true ∧ ((rl.getLimiterForServer "192.0.2.1").allow 0).2 = false ∧
        (rl.allow "192.0.2.1" 0 0).2 = false ∧
        (rl.allow "192.0.2.1" 0 0).1.global.advance 0 = rl.global.advance 0 - 1) := by
  intro rl ctx
  have bucket : rl.getLimiterForServer "192.0.2.1" = ⟨1, 1, 0, some 0, 0⟩ := rfl
  have positive : 0 < rl.global.limit := by norm_num [rl, Rate.newLimiter]
  have globalWait : (rl.global.wait ctx 0).2.isOk = true := by
    simp only [rl, ctx, Rate.newLimiter, Rate.Limiter.wait, Rate.Limiter.reserveN,
      Rate.Limiter.advance, Rate.tokensFromDuration, Rate.infDuration]
    norm_num [Except.isOk, Except.toBool]
  have serverWait : ((rl.getLimiterForServer "192.0.2.1").wait ctx 0).2.isOk = false := by
    simp only [bucket, ctx, Rate.Limiter.wait, Rate.Limiter.reserveN, Rate.Limiter.advance,
      Rate.tokensFromDuration, Rate.durationFromTokens, Rate.truncate, Rate.infDuration]
    norm_num [Except.isOk, Except.toBool]
  have globalAllow : (rl.global.allow 0).2 = true := by
    simp only [rl, Rate.newLimiter, Rate.Limiter.allow, Rate.Limiter.reserveN, Rate.Limiter.advance,
      Rate.tokensFromDuration, Rate.infDuration]
    norm_num
  have serverAllow : ((rl.getLimiterForServer "192.0.2.1").allow 0).2 = false := by
    simp only [bucket, Rate.Limiter.allow, Rate.Limiter.reserveN, Rate.Limiter.advance,
      Rate.tokensFromDuration, Rate.durationFromTokens, Rate.truncate, Rate.infDuration]
    norm_num
  obtain ⟨waited, allowed⟩ := refused_call_spends_global_token rl positive ctx "192.0.2.1" 0 0
  exact ⟨positive, ⟨globalWait, serverWait, waited globalWait serverWait⟩,
    ⟨globalAllow, serverAllow, allowed globalAllow serverAllow⟩⟩

end RateLimiter

end NtpExporter
