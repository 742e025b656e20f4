import NtpExporter.Ntp.Validator
import NtpExporter.Ntp.Adaptive
import NtpExporter.Ntp.Pool

/-!
# Magnitudes of offsets

Every check of an offset's size goes through `mathutil.AbsDuration`, which negates a negative
duration in `int64` arithmetic. That is the mathematical absolute value of every duration but
`math.MinInt64`, the only one whose negation wraps: it is its own negation, so its magnitude comes
out as the most negative duration and every check takes it for the smallest offset there is.
-/

namespace NtpExporter

/-- `math.MinInt64` as a duration. -/
def minDuration : Duration := Duration.ofInt (-2 ^ 63)

/-- Away from `math.MinInt64`, `AbsDuration` is the absolute value. -/
theorem absDuration_ns {d : Duration} (notMin : d.ns ≠ -2 ^ 63) : (absDuration d).ns = |d.ns| := by
  have := d.ge_min
  have := d.lt_max
  unfold absDuration
  split_ifs with negative
  · simp only [Duration.lt_iff, Duration.ns_zero] at negative
    rw [Duration.ns_neg, wrap64_of_mem (by omega) (by omega), abs_of_neg negative]
  · simp only [Duration.lt_iff, Duration.ns_zero, not_lt] at negative
    rw [abs_of_nonneg negative]

/-- `math.MinInt64` is its own absolute value. -/
theorem absDuration_minDuration : absDuration minDuration = minDuration := by
  decide

/-- The only duration whose magnitude is `math.MinInt64` is `math.MinInt64`. -/
theorem eq_minDuration_of_absDuration {d : Duration} (smallest : (absDuration d).ns = -2 ^ 63) :
    d = minDuration := by
  by_cases notMin : d.ns = -2 ^ 63
  · exact Duration.ext notMin
  · rw [absDuration_ns notMin] at smallest
    have := abs_nonneg d.ns
    omega

/-- Among responses that include one with offset `math.MinInt64`, that offset is the best. -/
theorem findBestOffset_of_minDuration {responses : List Response} {r : Response}
    (mem : r ∈ responses) (wrapped : r.offset = minDuration) :
    findBestOffset responses = minDuration := by
  obtain ⟨-, le⟩ := findBestOffset_spec (List.ne_nil_of_mem mem)
  have least := le r.offset (List.mem_map_of_mem _ mem)
  rw [wrapped, absDuration_minDuration] at least
  exact eq_minDuration_of_absDuration (le_antisymm least (absDuration _).ge_min)

/-- `AbsDuration` is the absolute value exactly away from `math.MinInt64`, where it stays
negative. So a response whose offset is `math.MinInt64` passes every magnitude check as if its
offset were zero: `Validate` neither warns nor takes the penalty, `IsSuspicious` and
`GetSuspicionReason` see no time mismatch, no drift test fires, and `findBestOffset` picks it as
the best offset of any list it is in. -/
theorem absDuration_wraps_at_min_int64 :
    (∀ d : Duration, (absDuration d).ns = |d.ns| ↔ d.ns ≠ -2 ^ 63) ∧
    (absDuration minDuration).ns = -2 ^ 63 ∧
    ∀ (r : Response) (durationString : Duration → String) (config : AdaptiveSamplingConfig)
      (reductions : Reductions) (responses : List Response) (elapsed : Duration),
      let wrapped := { r with offset := minDuration }
      let zero := { r with offset := 0 }
      Validator.newValidator.validate durationString wrapped =
          Validator.newValidator.validate durationString zero ∧
        wrapped.isSuspicious = zero.isSuspicious ∧
        Validator.newValidator.getSuspicionReason wrapped =
          Validator.newValidator.getSuspicionReason zero ∧
        AdaptiveSampler.getOptimalSampleCount config wrapped.offset = config.defaultSamples ∧
        ((calculateStatistics reductions responses config.defaultSamples).medianOffset =
            wrapped.offset → ¬ AdaptiveSampler.drifting reductions config responses elapsed) ∧
        (wrapped ∈ responses → findBestOffset responses = wrapped.offset) := by
  have below : ∀ threshold : Duration, ¬ threshold < absDuration minDuration := fun threshold => by
    rw [absDuration_minDuration, Duration.lt_iff, not_lt]
    exact threshold.ge_min
  have skew : ¬ Validator.newValidator.maxClockSkew < absDuration 0 := by decide
  have suspicious : ¬ Response.suspiciousOffsetThreshold < absDuration 0 := by decide
  refine ⟨fun d => ⟨fun magnitude notMin => ?_, absDuration_ns⟩, by decide,
    fun r durationString config reductions responses elapsed => ⟨?_, ?_, ?_, ?_, ?_, ?_⟩⟩
  · obtain rfl : d = minDuration := Duration.ext (notMin.trans (by decide))
    rw [absDuration_minDuration] at magnitude
    revert magnitude
    decide
  · simp only [Validator.validate, Response.isKissOfDeath, below, skew, if_false]
  · simp only [Response.isSuspicious, Response.isKissOfDeath, Response.isValid, below, suspicious,
      if_false]
  · simp only [Validator.getSuspicionReason, Response.isKissOfDeath, Response.isValid, below, skew,
      if_false]
  · simp [AdaptiveSampler.getOptimalSampleCount, below]
  · intro median drifting
    exact below _ (median ▸ drifting.1)
  · exact fun mem => findBestOffset_of_minDuration mem rfl

end NtpExporter
