import NtpExporter.Collector.Common
import NtpExporter.Ntp.Kernel

/-!
# The hybrid collector

`HybridCollector.Collect`: when kernel monitoring is enabled and the kernel's state can be read,
the kernel gauges of the node, then for every configured server the divergence between the server's
offset and the kernel's and a coherence score. The sync status series is labelled by the status
label as well as the node. `math.Exp` of the coherence score's decay is a parameter, and the
kernel's answer and the client's answers are inputs. The divergence and the score are computed in
exact rationals, where the code rounds each `float64` step.
-/

namespace NtpExporter

namespace HybridCollector

/-- `updateKernelMetrics`: the kernel gauges of `node`, the sync status under the status label. -/
def updateKernelMetrics (node : String) (m : NTPMetrics) (k : KernelTimex) : NTPMetrics :=
  { m with
    kernelOffsetSeconds := m.kernelOffsetSeconds.set node k.getOffsetSeconds
    kernelFrequencyPPM := m.kernelFrequencyPPM.set node k.getFrequencyPPM
    kernelMaxErrorSeconds := m.kernelMaxErrorSeconds.set node k.getMaxErrorSeconds
    kernelEstErrorSeconds := m.kernelEstErrorSeconds.set node k.getEstErrorSeconds
    kernelPrecisionSeconds := m.kernelPrecisionSeconds.set node k.getPrecisionSeconds
    kernelStatusCode := m.kernelStatusCode.set node k.statusCode.toInt
    kernelSyncStatus := m.kernelSyncStatus.set (node, k.syncStatus)
      (if k.isSynchronized then 1 else 0) }

/-- `calculateCoherence`: one below a millisecond of divergence, then linear down to `0.5` at
fifty milliseconds, then `0.5 · exp(-5d)`, never below zero. -/
def calculateCoherence (exp : ℚ → ℚ) (ntpOffset kernelOffset : ℚ) : ℚ :=
  let divergence := |ntpOffset - kernelOffset|
  if divergence < 1 / 1000 then 1
  else if divergence < 5 / 1000 then 1 - (divergence - 1 / 1000) / (5 / 1000 - 1 / 1000) * (1 / 10)
  else if divergence < 10 / 1000 then
    9 / 10 - (divergence - 5 / 1000) / (10 / 1000 - 5 / 1000) * (2 / 10)
  else if divergence < 50 / 1000 then
    7 / 10 - (divergence - 10 / 1000) / (50 / 1000 - 10 / 1000) * (2 / 10)
  else
    let score := 1 / 2 * exp (-divergence * 5)
    if score < 0 then 0 else score

/-- `collectAndCorrelate`: the client's answer to `Query(server)`, its error as it is, or the
divergence and coherence of its offset against the kernel's. -/
def collectAndCorrelate (exp : ℚ → ℚ) (node : String) (k : KernelTimex) (m : NTPMetrics)
    (server : String) (answer : Except String Response) : Except String NTPMetrics :=
  match answer with
  | .error err => .error err
  | .ok resp =>
      let ntpOffset := resp.offset.seconds
      let kernelOffset := k.getOffsetSeconds
      .ok { m with
        ntpKernelDivergence := m.ntpKernelDivergence.set (node, server) |ntpOffset - kernelOffset|
        ntpKernelCoherence := m.ntpKernelCoherence.set (node, server)
          (calculateCoherence exp ntpOffset kernelOffset) }

/-- `Collect`: nothing when kernel monitoring is off or the kernel's state cannot be read, and
otherwise the kernel gauges and then every configured server's correlation. `syscall` is the
answer of `adjtimex`, and `query` the client's answer to each server's `Query`. -/
def collect (exp : ℚ → ℚ) (cfg : NTPConfig) (node : String) (syscall : Except String Timex)
    (query : String → Except String Response) (m : NTPMetrics) : NTPMetrics :=
  if !cfg.enableKernel then m
  else
    match KernelReader.read cfg.enableKernel syscall with
    | .error _ => m
    | .ok k =>
        CommonCollector.iterateServers
          (fun server m => collectAndCorrelate exp node k m server (query server))
          cfg.servers (updateKernelMetrics node m k)

/-- `KernelReader.Read` takes the raw offset as microseconds whatever the status word says, so a
kernel in nanosecond mode (`STA_NANO` set), whose raw offset is in nanoseconds, has a nonzero offset
stored a thousand times too large; and each server's divergence is computed against that stored
offset. -/
theorem collectAndCorrelate_read_offset (tx : Timex) :
    ∃ k, KernelReader.read true (.ok tx) = .ok k ∧ k.status = tx.status ∧
      k.offset.ns = wrap64 (tx.offset * 1000) ∧
      (k.status &&& KernelTimex.staNano ≠ 0 → tx.offset ≠ 0 → |tx.offset| * 1000 < 2 ^ 63 →
        k.offset.ns = 1000 * tx.offset ∧ k.offset.ns ≠ tx.offset) ∧
      ∀ exp node m server resp, ∃ after,
        collectAndCorrelate exp node k m server (.ok resp) = .ok after ∧
        after.ntpKernelDivergence (node, server) =
          some |resp.offset.seconds - (wrap64 (tx.offset * 1000) : ℚ) / 1000000000| := by
  refine ⟨_, rfl, rfl, rfl, fun _ nonzero bounded => ?_, fun exp node m server resp => ⟨_, rfl, ?_⟩⟩
  · have wide : |tx.offset * 1000| < 2 ^ 63 := by rw [abs_mul]; simpa using bounded
    obtain ⟨lower, upper⟩ := abs_lt.mp wide
    simp only [microseconds, Duration.ns_ofInt]
    rw [wrap64_of_mem lower.le upper]
    omega
  · simp [KernelTimex.getOffsetSeconds, Duration.seconds, microseconds]

theorem collectAndCorrelate_read_offset_nano :
    let tx : Timex := ⟨500, 0, 0, 0, KernelTimex.staNano, 0⟩
    ∃ k, KernelReader.read true (.ok tx) = .ok k ∧
      (k.status &&& KernelTimex.staNano ≠ 0 ∧ tx.offset ≠ 0 ∧ |tx.offset| * 1000 < 2 ^ 63) ∧
      k.offset.ns = 1000 * tx.offset ∧ k.offset.ns ≠ tx.offset := by
  intro tx
  obtain ⟨k, read, status, -, nano, -⟩ := collectAndCorrelate_read_offset tx
  have nanoMode : k.status &&& KernelTimex.staNano ≠ 0 := by rw [status]; decide
  have bounded : |tx.offset| * 1000 < 2 ^ 63 := by norm_num [tx]
  exact ⟨k, read, ⟨nanoMode, by decide, bounded⟩, nano nanoMode (by decide) bounded⟩

end HybridCollector

end NtpExporter
