import NtpExporter.Ntp.Client
import NtpExporter.Ntp.Statistics

/-!
# Adaptive sampling

`AdaptiveSampler.Sample`: a first batch of `DefaultSamples` samples, then, when its median offset
drifts beyond `DriftThreshold` and time remains, a second batch of
`HighDriftSamples - DefaultSamples` samples appended to the first. The querier is an input: its
answer to each `QueryMultiple` call as a function of the count requested, and the time elapsed
after the first batch. `GetOptimalSampleCount` makes the same drift test on one offset. The
confidence score is computed only for a log line and is left out.
-/

namespace NtpExporter

/-- An `NTPQuerier`'s answer to one `QueryMultiple` call for a server, by requested count. -/
abbrev QueryMultipleAnswer := Int → List Response × Option String

/-- The contract of `QueryMultiple` that `Sample` relies on: at most `count` responses, and an
error exactly when there is none. -/
structure QueryMultipleAnswer.Honours (answer : QueryMultipleAnswer) : Prop where
  /-- No more responses than requested. -/
  bounded : ∀ count, (answer count).1.length ≤ count.toNat
  /-- An error exactly when nothing succeeded. -/
  failed_iff : ∀ count, (answer count).2.isSome ↔ (answer count).1 = []

/-- The client's `QueryMultiple` keeps the contract when no pass sees its context done. -/
theorem queryMultiple_honours (server : String) (attempts : Nat → Attempt)
    (uncancelled : ∀ pass, (attempts pass).isCancelled = false) :
    QueryMultipleAnswer.Honours fun count => queryMultiple server count attempts := by
  have answer := fun count => queryMultiple_uncancelled server count attempts
    (fun outcome mem => by
      obtain ⟨pass, -, rfl⟩ := List.mem_map.mp mem
      exact uncancelled pass)
  have within : ∀ count, ((passes count attempts).filterMap Attempt.response?).length ≤
      count.toNat := fun count =>
    (List.length_filterMap_le _ _).trans (by simp [passes])
  refine ⟨fun count => ?_, fun count => ?_⟩ <;> rw [answer count] <;> split
  · exact Nat.zero_le _
  · exact within count
  · simp
  · exact iff_of_false (by simp) ‹_›

/-- `AdaptiveSamplingConfig`, without the logged `ConfidenceLevel`. -/
structure AdaptiveSamplingConfig where
  /-- `DefaultSamples`. -/
  defaultSamples : Int
  /-- `HighDriftSamples`. -/
  highDriftSamples : Int
  /-- `DriftThreshold`. -/
  driftThreshold : Duration
  /-- `MaxDuration`. -/
  maxDuration : Duration

namespace AdaptiveSampler

/-- `NewAdaptiveSampler`: zero settings become 3 and 10 samples, 50 ms and 30 s. -/
def newAdaptiveSampler (config : AdaptiveSamplingConfig) : AdaptiveSamplingConfig where
  defaultSamples := if config.defaultSamples = 0 then 3 else config.defaultSamples
  highDriftSamples := if config.highDriftSamples = 0 then 10 else config.highDriftSamples
  driftThreshold := if config.driftThreshold = 0 then 50000000 else config.driftThreshold
  maxDuration := if config.maxDuration = 0 then 30000000000 else config.maxDuration

/-- The first batch drifts: its median offset exceeds the threshold in absolute value, and the
time spent is below the budget. -/
def drifting (reductions : Reductions) (config : AdaptiveSamplingConfig)
    (responses : List Response) (elapsed : Duration) : Prop :=
  config.driftThreshold <
      absDuration (calculateStatistics reductions responses config.defaultSamples).medianOffset ∧
    elapsed < config.maxDuration

instance (reductions : Reductions) (config : AdaptiveSamplingConfig) (responses : List Response)
    (elapsed : Duration) : Decidable (drifting reductions config responses elapsed) :=
  inferInstanceAs (Decidable (_ ∧ _))

/-- `GetOptimalSampleCount`: `HighDriftSamples` for an initial offset beyond the drift threshold
in absolute value, and `DefaultSamples` otherwise. -/
def getOptimalSampleCount (config : AdaptiveSamplingConfig) (initialOffset : Duration) : Int :=
  if config.driftThreshold < absDuration initialOffset then config.highDriftSamples
  else config.defaultSamples

/-- `Sample`: the first batch, with the second batch appended when the first drifts and the
second call succeeds with responses. -/
def sample (reductions : Reductions) (config : AdaptiveSamplingConfig)
    (first second : QueryMultipleAnswer) (elapsed : Duration) : List Response × Option String :=
  match first config.defaultSamples with
  | (_, some err) => ([], some err)
  | (responses, none) =>
      if responses = [] then (responses, none)
      else if drifting reductions config responses elapsed then
        match second (config.highDriftSamples - config.defaultSamples) with
        | (extra, none) => if extra = [] then (responses, none) else (responses ++ extra, none)
        | (_, some _) => (responses, none)
      else (responses, none)

/-- Sampling through the client with no cancelled pass: the answers of the first batch, followed
by those of the second when the first drifts; an error exactly when the first batch has none. -/
theorem sample_uncancelled (reductions : Reductions) (config : AdaptiveSamplingConfig)
    (server : String) (first second : Nat → Attempt) (elapsed : Duration)
    (firstUncancelled :
      ∀ outcome ∈ passes config.defaultSamples first, outcome.isCancelled = false)
    (secondUncancelled : ∀ outcome ∈ passes (config.highDriftSamples - config.defaultSamples)
      second, outcome.isCancelled = false) :
    sample reductions config (fun count => queryMultiple server count first)
        (fun count => queryMultiple server count second) elapsed =
      if (passes config.defaultSamples first).filterMap Attempt.response? = [] then
        ([], some ("all " ++ toString config.defaultSamples ++ " NTP queries failed for server " ++
          server))
      else ((passes config.defaultSamples first).filterMap Attempt.response? ++
        if drifting reductions config
            ((passes config.defaultSamples first).filterMap Attempt.response?) elapsed then
          (passes (config.highDriftSamples - config.defaultSamples) second).filterMap
            Attempt.response?
        else [], none) := by
  simp only [sample, queryMultiple_uncancelled _ _ _ firstUncancelled,
    queryMultiple_uncancelled _ _ _ secondUncancelled]
  generalize (passes config.defaultSamples first).filterMap Attempt.response? = batch
  generalize (passes _ second).filterMap Attempt.response? = extra
  by_cases noBatch : batch = [] <;> by_cases drift : drifting reductions config batch elapsed <;>
    by_cases noExtra : extra = [] <;> simp [noBatch, drift, noExtra]

/-- A successful `Sample` against queriers that keep the `QueryMultiple` contract returns the first
batch, followed by the second only when the first drifts within the time budget and the second call
succeeds: the first batch is a prefix of the result, which holds at most
`max(DefaultSamples, HighDriftSamples)` responses. -/
theorem sample_extends_first_batch (reductions : Reductions) (config : AdaptiveSamplingConfig)
    (first second : QueryMultipleAnswer) (elapsed : Duration) (firstHonours : first.Honours)
    (secondHonours : second.Honours) {result : List Response}
    (sampled : sample reductions config first second elapsed = (result, none)) :
    result = (first config.defaultSamples).1 ++
        (if drifting reductions config (first config.defaultSamples).1 elapsed ∧
            (second (config.highDriftSamples - config.defaultSamples)).2 = none then
          (second (config.highDriftSamples - config.defaultSamples)).1 else []) ∧
      (first config.defaultSamples).1 <+: result ∧
      (result.length : Int) ≤ max config.defaultSamples config.highDriftSamples := by
  have firstBound := firstHonours.bounded config.defaultSamples
  have firstFailed := firstHonours.failed_iff config.defaultSamples
  have secondBound := secondHonours.bounded (config.highDriftSamples - config.defaultSamples)
  have equation : (first config.defaultSamples).1 ≠ [] ∧
      result = (first config.defaultSamples).1 ++
      (if drifting reductions config (first config.defaultSamples).1 elapsed ∧
          (second (config.highDriftSamples - config.defaultSamples)).2 = none then
        (second (config.highDriftSamples - config.defaultSamples)).1 else []) := by
    revert sampled firstFailed
    unfold sample
    generalize first config.defaultSamples = answer
    generalize second (config.highDriftSamples - config.defaultSamples) = extraAnswer
    obtain ⟨batch, _ | err⟩ := answer
    · obtain ⟨extra, _ | extraErr⟩ := extraAnswer <;> intro sampled firstFailed <;>
        by_cases drift : drifting reductions config batch elapsed <;>
        by_cases noExtra : extra = [] <;> simp_all
    · simp
  obtain ⟨answered, equation⟩ := equation
  have atLeastOne : 1 ≤ (first config.defaultSamples).1.length := List.length_pos.mpr answered
  refine ⟨equation, equation ▸ List.prefix_append _ _, ?_⟩
  rw [equation, List.length_append]
  split_ifs <;> simp only [List.length_nil, Nat.cast_add] <;> omega

theorem sample_extends_first_batch_drifting :
    let r : Response := ⟨"192.0.2.1", 80000000, 20000000, 2, ⟨0, 0⟩, 0, 0, 0, 0, 0, none, ""⟩
    let answer : QueryMultipleAnswer := fun count => queryMultiple "192.0.2.1" count fun _ => .answered r
    let reductions : Reductions := ⟨fun _ => 80000000, fun _ => 0, fun _ => 0, fun _ => 0⟩
    let config : AdaptiveSamplingConfig := ⟨3, 10, 50000000, 30000000000⟩
    sample reductions config answer answer 0 = (List.replicate 10 r, none) ∧
      (answer 3).1 <+: List.replicate 10 r ∧ ((List.replicate 10 r).length : Int) ≤ max 3 10 := by
  intro r answer reductions config
  have sampled : sample reductions config answer answer 0 = (List.replicate 10 r, none) := by
    decide
  obtain ⟨-, leading, bound⟩ := sample_extends_first_batch reductions config answer answer 0
    (queryMultiple_honours _ _ fun _ => rfl) (queryMultiple_honours _ _ fun _ => rfl) sampled
  exact ⟨sampled, leading, bound⟩

end AdaptiveSampler

end NtpExporter
