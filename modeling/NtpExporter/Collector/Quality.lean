import NtpExporter.Collector.Common

/-!
# The quality collector

`QualityCollector.collectFromServer`: one batch of samples for a server, through the adaptive
sampler or through one `QueryMultiple` of `SamplesPerServer`, and the five quality gauges written
from its statistics. A failed batch is an error, which `IterateServers` logs before moving on with
the metrics as they were. The adaptive path computes the statistics against the number of
responses it got, so its loss ratio is always zero; the fixed path computes them against the
number it asked for.
-/

namespace NtpExporter

namespace QualityCollector

/-- The five quality gauges of `server`, written from `stats`. -/
def setQualityGauges (m : NTPMetrics) (server : String) (stats : Statistics) : NTPMetrics :=
  { m with
    jitterSeconds := m.jitterSeconds.set server stats.jitter.seconds
    stabilitySeconds := m.stabilitySeconds.set server stats.stdDevOffset.seconds
    asymmetrySeconds := m.asymmetrySeconds.set server stats.asymmetry.seconds
    samplesCount := m.samplesCount.set server stats.samplesCount
    packetLossRatio := m.packetLossRatio.set server stats.packetLossRatio }

/-- `collectFromServer`. `first` and `second` are the querier's answers to the first and second
`QueryMultiple` calls for `server`, and `elapsed` the time the first batch took. -/
def collectFromServer (reductions : Reductions) (cfg : NTPConfig) (m : NTPMetrics)
    (server : String) (first second : QueryMultipleAnswer) (elapsed : Duration) :
    Except String NTPMetrics :=
  if cfg.adaptiveSampling.enabled then
    match AdaptiveSampler.sample reductions
        (AdaptiveSampler.newAdaptiveSampler cfg.adaptiveSampling.sampler) first second elapsed with
    | (_, some err) => .error ("failed to adaptively sample server " ++ server ++ ": " ++ err)
    | (responses, none) =>
        .ok (setQualityGauges m server (calculateStatistics reductions responses responses.length))
  else
    match first cfg.samplesPerServer with
    | (_, some err) =>
        .error ("failed to query multiple samples from server " ++ server ++ ": " ++ err)
    | (responses, none) =>
        .ok (setQualityGauges m server
          (calculateStatistics reductions responses cfg.samplesPerServer))

/-- `Collect`: `collectFromServer` for every configured server, with the querier's answers to its
two `QueryMultiple` calls and the time its first batch took. -/
def collect (reductions : Reductions) (cfg : NTPConfig) (m : NTPMetrics)
    (first second : String → QueryMultipleAnswer) (elapsed : String → Duration) : NTPMetrics :=
  CommonCollector.iterateServers
    (fun server m => collectFromServer reductions cfg m server (first server) (second server)
      (elapsed server))
    cfg.servers m

/-- The count and loss ratio a batch of responses leaves for its server. -/
theorem setQualityGauges_counts (m : NTPMetrics) (server : String) (reductions : Reductions)
    (responses : List Response) (total : Int) (nonempty : responses ≠ []) :
    (setQualityGauges m server (calculateStatistics reductions responses total)).samplesCount
        server = some (responses.length : ℚ) ∧
      (setQualityGauges m server (calculateStatistics reductions responses total)).packetLossRatio
        server = some (calculatePacketLoss responses.length total) := by
  simp [setQualityGauges, calculateStatistics_packetLossRatio _ _ _ nonempty]

/-- A batch counted against its own length loses nothing. -/
theorem setQualityGauges_complete (m : NTPMetrics) (server : String) (reductions : Reductions)
    (responses : List Response) (nonempty : responses ≠ []) :
    (setQualityGauges m server
        (calculateStatistics reductions responses responses.length)).samplesCount server =
      some (responses.length : ℚ) ∧
    (setQualityGauges m server
        (calculateStatistics reductions responses responses.length)).packetLossRatio server =
      some 0 := by
  refine (setQualityGauges_counts m server reductions _ _ nonempty).imp id fun loss => ?_
  rw [loss, calculatePacketLoss_of_le le_rfl (by simpa using List.length_pos.mpr nonempty)]
  simp

/-- One collection for `server` through the client, with no pass seeing the context done. With
adaptive sampling off it requests `k = SamplesPerServer` exchanges: when `j ≥ 1` answer,
`samples_count` becomes `j` and `packet_loss_ratio` becomes `(k - j) / k`; when none answers the
collection fails and the caller keeps the gauges as they were. With adaptive sampling on, a first
batch without an answer fails the collection in the same way; otherwise `samples_count` becomes the
number of answers in the batches taken and `packet_loss_ratio` becomes `0`. -/
theorem collectFromServer_counts (reductions : Reductions) (cfg : NTPConfig) (m : NTPMetrics)
    (server : String) (first second : Nat → Attempt) (elapsed : Duration) :
    let collect := collectFromServer reductions cfg m server
      (fun count => queryMultiple server count first)
      (fun count => queryMultiple server count second) elapsed
    (cfg.adaptiveSampling.enabled = false → 1 ≤ cfg.samplesPerServer →
      (∀ outcome ∈ passes cfg.samplesPerServer first, outcome.isCancelled = false) →
      let answered := ((passes cfg.samplesPerServer first).filterMap Attempt.response?).length
      (answered = 0 → ∃ err, collect = .error err) ∧
      (0 < answered → ∃ after, collect = .ok after ∧
        after.samplesCount server = some (answered : ℚ) ∧
        after.packetLossRatio server =
          some (((cfg.samplesPerServer - answered : Int) : ℚ) / cfg.samplesPerServer))) ∧
    (cfg.adaptiveSampling.enabled = true →
      let sampler := AdaptiveSampler.newAdaptiveSampler cfg.adaptiveSampling.sampler
      (∀ outcome ∈ passes sampler.defaultSamples first, outcome.isCancelled = false) →
      (∀ outcome ∈ passes (sampler.highDriftSamples - sampler.defaultSamples) second,
        outcome.isCancelled = false) →
      let batch := (passes sampler.defaultSamples first).filterMap Attempt.response?
      let extra :=
        (passes (sampler.highDriftSamples - sampler.defaultSamples) second).filterMap
          Attempt.response?
      (batch = [] → ∃ err, collect = .error err) ∧
      (batch ≠ [] → ∃ after, collect = .ok after ∧
        after.samplesCount server = some ((batch.length +
          if AdaptiveSampler.drifting reductions sampler batch elapsed then extra.length else 0 :
            Nat) : ℚ) ∧
        after.packetLossRatio server = some 0)) := by
  intro collect
  constructor
  · intro fixed requested uncancelled answered
    have answer := queryMultiple_uncancelled server _ first uncancelled
    have bounded : answered ≤ cfg.samplesPerServer.toNat :=
      (List.length_filterMap_le _ _).trans (by simp [passes])
    simp only [collect, collectFromServer, fixed, Bool.false_eq_true, ↓reduceIte, answer]
    constructor
    · intro none_answered
      simp [List.eq_nil_of_length_eq_zero none_answered]
    · intro some_answered
      have nonempty := List.ne_nil_of_length_pos some_answered
      simp only [nonempty, ↓reduceIte, Except.ok.injEq, exists_eq_left']
      refine (setQualityGauges_counts m server reductions _ _ nonempty).imp id ?_
      intro loss
      rw [loss, calculatePacketLoss_of_le (by omega) (by omega)]
  · intro adaptive sampler firstUncancelled secondUncancelled
    have answer := AdaptiveSampler.sample_uncancelled reductions sampler server first second elapsed
      firstUncancelled secondUncancelled
    simp only [collect, collectFromServer, adaptive, ↓reduceIte, answer]
    generalize (passes sampler.defaultSamples first).filterMap Attempt.response? = batch
    generalize (passes _ second).filterMap Attempt.response? = extra
    constructor
    · intro noBatch
      simp only [noBatch, ↓reduceIte]
      exact ⟨_, rfl⟩
    · intro nonempty
      simp only [nonempty, ↓reduceIte, Except.ok.injEq, exists_eq_left']
      by_cases drift : AdaptiveSampler.drifting reductions sampler batch elapsed
      · simpa [drift] using setQualityGauges_complete m server reductions (batch ++ extra)
          (by simp [nonempty])
      · simpa [drift] using setQualityGauges_complete m server reductions batch nonempty

/-- The fixed path at two answers of three: a count of two and a loss ratio of one third. -/
theorem collectFromServer_counts_two_of_three :
    let response : Response := ⟨"192.0.2.1", 0, 0, 2, ⟨0, 0⟩, 0, 0, 0, 0, 0, none, ""⟩
    let cfg : NTPConfig := ⟨["192.0.2.1"], [], 4, 3, 100000000, false, ⟨false, 1000, 60, 10⟩,
      ⟨true, 3, 60000000000, 30000000000, 3 / 5⟩, ⟨false, ⟨3, 10, 50000000, 30000000000⟩⟩,
      ⟨false, 5⟩⟩
    let first : Nat → Attempt := fun pass =>
      if pass = 1 then .failed "i/o timeout" else .answered response
    ∃ after, collectFromServer ⟨fun _ => 0, fun _ => 0, fun _ => 0, fun _ => 0⟩ cfg
        NTPMetrics.empty "192.0.2.1" (fun count => queryMultiple "192.0.2.1" count first)
        (fun count => queryMultiple "192.0.2.1" count first) 0 = .ok after ∧
      after.samplesCount "192.0.2.1" = some 2 ∧ after.packetLossRatio "192.0.2.1" = some (1 / 3) := by
  intro response cfg first
  have answered : ((passes 3 first).filterMap Attempt.response?).length = 2 := rfl
  obtain ⟨after, collected, count, loss⟩ := ((collectFromServer_counts _ cfg NTPMetrics.empty
    "192.0.2.1" first first 0).1 rfl (by decide) (by decide)).2 (by rw [answered]; decide)
  refine ⟨after, collected, count.trans ?_, loss.trans ?_⟩ <;> rw [answered] <;> norm_num

/-- Two collections where the gauges do not follow the requested total. With adaptive sampling
off and none of three exchanges answered, the server's count and loss ratio keep the three samples
and no loss an earlier collection left; with adaptive sampling on and two of three exchanges
answered, the loss ratio is `0`. -/
theorem collect_ignores_lost_exchanges :
    let server := "192.0.2.1"
    let reductions : Reductions := ⟨fun _ => 0, fun _ => 0, fun _ => 0, fun _ => 0⟩
    let cfg : NTPConfig := ⟨[server], [], 4, 3, 100000000, false, ⟨false, 1, 1, 1⟩,
      ⟨true, 3, 60000000000, 30000000000, 3 / 5⟩, ⟨false, ⟨3, 10, 50000000, 30000000000⟩⟩,
      ⟨false, 5⟩⟩
    let response : Response := ⟨server, 1000000, 20000000, 2, ⟨0, 0⟩, 0, 0, 0, 0, 0, none, ""⟩
    let earlier : NTPMetrics := { NTPMetrics.empty with
      samplesCount := NTPMetrics.empty.samplesCount.set server 3
      packetLossRatio := NTPMetrics.empty.packetLossRatio.set server 0 }
    let unused : String → QueryMultipleAnswer := fun _ _ => ([], some "context canceled")
    let timedOut : Nat → Attempt := fun _ => .failed "i/o timeout"
    let twoOfThree : Nat → Attempt := fun pass =>
      if pass < 2 then .answered response else .failed "i/o timeout"
    let fixed := collect reductions cfg earlier
      (fun _ count => queryMultiple server count timedOut) unused (fun _ => 0)
    let adaptive := collect reductions
      { cfg with adaptiveSampling := ⟨true, ⟨3, 10, 50000000, 30000000000⟩⟩ } earlier
      (fun _ count => queryMultiple server count twoOfThree) unused (fun _ => 30000000000)
    fixed.samplesCount server = some 3 ∧ fixed.packetLossRatio server = some 0 ∧
      adaptive.samplesCount server = some 2 ∧ adaptive.packetLossRatio server = some 0 := by
  intro server reductions cfg response earlier unused timedOut twoOfThree fixed adaptive
  simp [fixed, adaptive, collect, CommonCollector.iterateServers, collectFromServer,
    AdaptiveSampler.sample, AdaptiveSampler.newAdaptiveSampler, queryMultiple, passes, queryLoop,
    timedOut, twoOfThree, List.range_succ, AdaptiveSampler.drifting, setQualityGauges,
    calculateStatistics, calculatePacketLoss, cfg, earlier, server]

end QualityCollector

end NtpExporter
