import NtpExporter.Ntp.WorkerPool.Querier
import NtpExporter.Ntp.Statistics

/-!
# The statistics of every server

`WorkerPool.QueryAll`: one `Execute` call, whose error is passed on, and otherwise the statistics of
each result of the map it returned, under the same key. A result with an error gets the
`Statistics` value with `SamplesCount` zero and every other field at its zero value, a loss ratio
of zero included; the others get what `CalculateStatistics` derives from their responses against
the requested sample count.
-/

namespace NtpExporter

namespace WorkerPool

open Execution

/-- `&Statistics{SamplesCount: 0}`: every field at its zero value. -/
def emptyStatistics : Statistics :=
  { medianOffset := 0, meanOffset := 0, stdDevOffset := 0, jitter := 0, asymmetry := 0,
    samplesCount := 0, packetLossRatio := 0 }

/-- The statistics `QueryAll` records for one result. -/
def resultStatistics (reductions : Reductions) (samples : Int) (result : JobResult) : Statistics :=
  if result.error.isSome then emptyStatistics
  else calculateStatistics reductions result.responses samples

/-- `QueryAll`, from the outcome of its `Execute` call. -/
def queryAll (reductions : Reductions) (samples : Int)
    (executed : Except String (GoMap String JobResult)) : Except String (GoMap String Statistics) :=
  match executed with
  | .error err => .error err
  | .ok results => .ok (results.mapValues (resultStatistics reductions samples))

/-- Every loss ratio `QueryAll` records lies between `0` and `1`. -/
theorem resultStatistics_packetLossRatio_mem (reductions : Reductions) (samples : Int)
    (result : JobResult) :
    0 ≤ (resultStatistics reductions samples result).packetLossRatio ∧
      (resultStatistics reductions samples result).packetLossRatio ≤ 1 := by
  unfold resultStatistics
  split
  · exact ⟨le_rfl, zero_le_one⟩
  · exact calculateStatistics_packetLossRatio_mem _ _ _

/-- A value `QueryAll` records without samples is the empty one, of loss ratio zero, for a result
with an error, and otherwise the value of a result without responses, of loss ratio one. -/
theorem resultStatistics_samplesCount_eq_zero (reductions : Reductions) (samples : Int)
    (result : JobResult) (none : (resultStatistics reductions samples result).samplesCount = 0) :
    resultStatistics reductions samples result = emptyStatistics ∨
      (resultStatistics reductions samples result).packetLossRatio = 1 := by
  unfold resultStatistics at none ⊢
  split
  · exact .inl rfl
  · rw [if_neg ‹_›, calculateStatistics_samplesCount, List.length_eq_zero] at none
    exact .inr (by simp [calculateStatistics, none])

/-- Whatever `Execute` returned, every value `QueryAll` records has a loss ratio between `0` and
`1`, and one without samples is the empty value or has a loss ratio of `1`. -/
theorem queryAll_values (reductions : Reductions) (samples : Int)
    (outcome : Except String (GoMap String JobResult)) (stats : GoMap String Statistics)
    (queried : queryAll reductions samples outcome = .ok stats) (server : String)
    (statistics : Statistics) (found : stats.lookup server = some statistics) :
    0 ≤ statistics.packetLossRatio ∧ statistics.packetLossRatio ≤ 1 ∧
      (statistics.samplesCount = 0 →
        statistics = emptyStatistics ∨ statistics.packetLossRatio = 1) := by
  cases outcome with
  | error err => cases queried
  | ok results =>
      cases queried
      obtain ⟨result, -, rfl⟩ :=
        Option.map_eq_some'.mp ((GoMap.lookup_mapValues _ _ _).symm.trans found)
      exact ⟨(resultStatistics_packetLossRatio_mem reductions samples result).1,
        (resultStatistics_packetLossRatio_mem reductions samples result).2,
        resultStatistics_samplesCount_eq_zero reductions samples result⟩

/-- `QueryAll` on a nonempty list with a live context: some interleaving of `Execute` returns, and
on every interleaving that returns, `QueryAll` returns one statistics value per server, the empty
value for a server whose `QueryMultiple` failed and otherwise `CalculateStatistics` of its
responses, each with a loss ratio between `0` and `1`. Whatever `Execute` returned, on any
interleaving and with the context cancelled at any point, every value has a loss ratio between `0`
and `1`, and one without samples is the empty value or has a loss ratio of `1`. -/
theorem queryAll_statistics (reductions : Reductions) (querier : Querier) (size : Int)
    (servers : List String) (samples : Int) (nonempty : servers ≠ []) :
    (∃ pool e outcome, Answered querier (called size servers samples) pool ∧
      pool.executions = [e] ∧ e.pc = .returned outcome) ∧
    (∀ pool e outcome, Answered querier (called size servers samples) pool →
      pool.executions = [e] → e.pc = .returned outcome →
      ∃ stats, queryAll reductions samples outcome = .ok stats ∧
        (∀ server, server ∈ stats ↔ server ∈ servers) ∧
        ∀ server statistics, stats.lookup server = some statistics →
          statistics = (if (querier server).2.isSome then emptyStatistics
            else calculateStatistics reductions (querier server).1 samples) ∧
          0 ≤ statistics.packetLossRatio ∧ statistics.packetLossRatio ≤ 1) ∧
    ∀ outcome stats, queryAll reductions samples outcome = .ok stats →
      ∀ server statistics, stats.lookup server = some statistics →
        0 ≤ statistics.packetLossRatio ∧ statistics.packetLossRatio ≤ 1 ∧
          (statistics.samplesCount = 0 →
            statistics = emptyStatistics ∨ statistics.packetLossRatio = 1) := by
  refine ⟨(solo_called size servers samples).returns nonempty,
    fun pool e outcome run single returned => ?_, queryAll_values reductions samples⟩
  have solo := (solo_called size servers samples).runs nonempty run.runs
  obtain ⟨e', single', named, -⟩ := solo.single
  obtain rfl : e = e' := by simpa [single] using single'
  obtain ⟨results, rfl, complete⟩ := solo.complete nonempty single returned
  have honest := run.honest (honest_called size samples servers) e (by simp [single])
  refine ⟨_, rfl, fun server => by simp [complete.keys, named], fun server statistics found => ?_⟩
  obtain ⟨result, stored, rfl⟩ :=
    Option.map_eq_some'.mp ((GoMap.lookup_mapValues _ _ _).symm.trans found)
  obtain ⟨job, -, rfl, answered⟩ := complete.values _ result stored
  have answer : (result.responses, result.error) = querier job.server := honest _ answered
  exact ⟨by rw [← answer]; rfl, resultStatistics_packetLossRatio_mem reductions samples result⟩

theorem queryAll_statistics_all_failed :
    let querier : Querier := fun server =>
      ([], some ("all 3 NTP queries failed for server " ++ server))
    let reductions : Reductions := ⟨fun _ => 0, fun _ => 0, fun _ => 0, fun _ => 0⟩
    ["192.0.2.1"] ≠ [] ∧
      (∃ pool e outcome, Answered querier (called 2 ["192.0.2.1"] 3) pool ∧
        pool.executions = [e] ∧ e.pc = .returned outcome) ∧
      ∀ pool e outcome, Answered querier (called 2 ["192.0.2.1"] 3) pool →
        pool.executions = [e] → e.pc = .returned outcome →
        ∃ stats, queryAll reductions 3 outcome = .ok stats ∧
          stats.lookup "192.0.2.1" = some emptyStatistics ∧
          emptyStatistics.samplesCount = 0 ∧ emptyStatistics.packetLossRatio = 0 := by
  intro querier reductions
  obtain ⟨returns, every, -⟩ :=
    queryAll_statistics reductions querier 2 ["192.0.2.1"] 3 (by simp)
  refine ⟨by simp, returns, fun pool e outcome run single returned => ?_⟩
  obtain ⟨stats, queried, keys, values⟩ := every pool e outcome run single returned
  obtain ⟨statistics, found⟩ :=
    Option.isSome_iff_exists.mp (AList.lookup_isSome.mpr ((keys "192.0.2.1").mpr (by simp)))
  exact ⟨stats, queried, found.trans (by rw [(values _ _ found).1]; rfl), rfl, rfl⟩

end WorkerPool

end NtpExporter
