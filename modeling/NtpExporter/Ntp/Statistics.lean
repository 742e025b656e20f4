import NtpExporter.Ntp.Response
import Mathlib.Algebra.Order.Field.Basic
import Mathlib.Tactic.NormNum.Basic

/-!
# Sample statistics

`CalculateStatistics` of the NTP package: the statistics of a batch of responses for one server,
against the number of samples requested. The median, mean, standard deviation and RTT spread are
float64 reductions of the offsets and RTTs in seconds, converted back to durations; the model
keeps their guards (nothing for an empty batch, no deviation or spread below two samples) and
leaves the float arithmetic itself as the parameter `Reductions`. The count and the packet-loss
ratio are exact.
-/

namespace NtpExporter

/-- `Statistics`: what `CalculateStatistics` derives from a batch. -/
structure Statistics where
  /-- `MedianOffset`. -/
  medianOffset : Duration
  /-- `MeanOffset`. -/
  meanOffset : Duration
  /-- `StdDevOffset`: the stability. -/
  stdDevOffset : Duration
  /-- `Jitter`: the standard deviation of the RTTs. -/
  jitter : Duration
  /-- `Asymmetry`: the spread of the RTTs. -/
  asymmetry : Duration
  /-- `SamplesCount`. -/
  samplesCount : Nat
  /-- `PacketLossRatio`. -/
  packetLossRatio : ℚ
  deriving DecidableEq

/-- The float64 reductions of `CalculateStatistics`, from values in seconds back to durations:
`median`, `mean`, the sample standard deviation `stdDev` of two or more values, and `max - min`
of two or more values. -/
structure Reductions where
  /-- `median`. -/
  median : List Duration → Duration
  /-- `mean`. -/
  mean : List Duration → Duration
  /-- `stdDev` of two or more values. -/
  stdDev : List Duration → Duration
  /-- `max(values) - min(values)` of two or more values. -/
  spread : List Duration → Duration

/-- `calculatePacketLoss`: the lost fraction of the requested samples, none lost when nothing was
requested and received samples beyond the request ignored. -/
def calculatePacketLoss (received total : Int) : ℚ :=
  if total = 0 then 0 else (max (total - received) 0 : Int) / (total : ℚ)

/-- `stdDev`, zero below two values. -/
def Reductions.stdDevOf (reductions : Reductions) (values : List Duration) : Duration :=
  if values.length ≤ 1 then 0 else reductions.stdDev values

/-- `CalculateStatistics`: zero statistics with a loss of `1` for an empty batch. -/
def calculateStatistics (reductions : Reductions) (responses : List Response)
    (totalSamples : Int) : Statistics :=
  if responses = [] then
    { medianOffset := 0, meanOffset := 0, stdDevOffset := 0, jitter := 0, asymmetry := 0,
      samplesCount := 0, packetLossRatio := 1 }
  else
    { medianOffset := reductions.median (responses.map Response.offset)
      meanOffset := reductions.mean (responses.map Response.offset)
      stdDevOffset := reductions.stdDevOf (responses.map Response.offset)
      jitter := reductions.stdDevOf (responses.map Response.rtt)
      asymmetry := if 2 ≤ responses.length then reductions.spread (responses.map Response.rtt)
        else 0
      samplesCount := responses.length
      packetLossRatio := calculatePacketLoss responses.length totalSamples }

section Laws

variable (reductions : Reductions) (responses : List Response) (totalSamples : Int)

/-- The count is the batch's length. -/
@[simp]
theorem calculateStatistics_samplesCount :
    (calculateStatistics reductions responses totalSamples).samplesCount = responses.length := by
  unfold calculateStatistics
  split <;> simp_all

/-- The loss ratio of a non-empty batch counts the missing samples of the request. -/
theorem calculateStatistics_packetLossRatio (nonempty : responses ≠ []) :
    (calculateStatistics reductions responses totalSamples).packetLossRatio =
      calculatePacketLoss responses.length totalSamples := by
  simp [calculateStatistics, nonempty]

/-- The loss ratio of a request that got at most what it asked for. -/
theorem calculatePacketLoss_of_le {received total : Int} (le : received ≤ total)
    (requested : 0 < total) :
    calculatePacketLoss received total = ((total - received : Int) : ℚ) / total := by
  simp [calculatePacketLoss, requested.ne', max_eq_left (sub_nonneg.mpr le)]

/-- A loss ratio always lies between `0` and `1`. -/
theorem calculatePacketLoss_mem (received total : Int) (nonneg : 0 ≤ received) :
    0 ≤ calculatePacketLoss received total ∧ calculatePacketLoss received total ≤ 1 := by
  unfold calculatePacketLoss
  split
  · norm_num
  · rcases lt_or_gt_of_ne ‹total ≠ 0› with negative | positive
    · have nothing_lost : max (total - received) 0 = 0 := max_eq_right (by omega)
      simp [nothing_lost]
    · have lost_nonneg : (0 : ℚ) ≤ (max (total - received) 0 : Int) :=
        Int.cast_nonneg.mpr (le_max_right _ _)
      have lost_le : ((max (total - received) 0 : Int) : ℚ) ≤ total :=
        Int.cast_le.mpr (max_le (by omega) positive.le)
      have requested : (0 : ℚ) < total := Int.cast_pos.mpr positive
      exact ⟨div_nonneg lost_nonneg requested.le, (div_le_one requested).mpr lost_le⟩

/-- Every batch's loss ratio lies between `0` and `1`. -/
theorem calculateStatistics_packetLossRatio_mem :
    0 ≤ (calculateStatistics reductions responses totalSamples).packetLossRatio ∧
      (calculateStatistics reductions responses totalSamples).packetLossRatio ≤ 1 := by
  by_cases empty : responses = []
  · simp [calculateStatistics, empty]
  · rw [calculateStatistics_packetLossRatio _ _ _ empty]
    exact calculatePacketLoss_mem _ _ (Int.natCast_nonneg _)

end Laws

end NtpExporter
