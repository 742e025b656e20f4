import Mathlib.Logic.Function.Basic
import Mathlib.Algebra.Order.Field.Rat

/-!
# The metric sink

`NTPMetrics` of `pkg/metrics`: the gauge and counter vectors the collectors write. A vector is the
value of each live series by its label values; a series becomes live at its first write and is
never removed, since no collector deletes a series. Gauge values are float64 in the source and the
exact rationals those floats round here. Histograms and summaries of wall-clock durations and the
process gauges set by `main` are left out.
-/

namespace NtpExporter

/-- A `prometheus.GaugeVec`: the value of each live series, by its label values. -/
def GaugeVec (labels : Type) := labels → Option ℚ

/-- A `prometheus.CounterVec`: the count of each series, by its label values. -/
def CounterVec (labels : Type) := labels → Nat

namespace GaugeVec

variable {labels : Type}

/-- A vector with no live series. -/
def empty : GaugeVec labels := fun _ => none

@[simp] theorem empty_apply (key : labels) : (empty : GaugeVec labels) key = none := rfl

variable [DecidableEq labels]

/-- `WithLabelValues(key...).Set(value)`. -/
def set (gauge : GaugeVec labels) (key : labels) (value : ℚ) : GaugeVec labels :=
  Function.update gauge key (some value)

@[simp] theorem set_same (gauge : GaugeVec labels) (key : labels) (value : ℚ) :
    gauge.set key value key = some value :=
  Function.update_same key _ gauge

@[simp] theorem set_ne (gauge : GaugeVec labels) {key other : labels} (value : ℚ)
    (different : other ≠ key) : gauge.set key value other = gauge other :=
  Function.update_noteq different _ gauge

/-- A sequence of `Set` calls, each with its labels and value, in order. -/
def setAll (gauge : GaugeVec labels) (writes : List (labels × ℚ)) : GaugeVec labels :=
  writes.foldl (fun gauge write => gauge.set write.1 write.2) gauge

@[simp] theorem setAll_nil (gauge : GaugeVec labels) : gauge.setAll [] = gauge := rfl

theorem setAll_append (gauge : GaugeVec labels) (first second : List (labels × ℚ)) :
    gauge.setAll (first ++ second) = (gauge.setAll first).setAll second :=
  List.foldl_append _ _ _ _

/-- After a sequence of `Set` calls a series holds the value of the last call on its labels, and
is otherwise as it was: no series is ever removed. -/
theorem setAll_apply (gauge : GaugeVec labels) (writes : List (labels × ℚ)) (key : labels) :
    gauge.setAll writes key =
      ((writes.filter fun write => write.1 = key).getLast?.map Prod.snd).or (gauge key) := by
  induction writes generalizing gauge with
  | nil => simp
  | cons write rest ih =>
      obtain ⟨label, value⟩ := write
      rw [setAll, List.foldl_cons, ← setAll, ih]
      by_cases same : label = key
      · subst same
        cases last : (rest.filter fun write => write.1 = label).getLast? <;>
          simp [List.filter_cons, last, List.getLast?_cons]
      · simp [List.filter_cons, same, Ne.symm same]

/-- After one `Set` of each of some keys to a value of the key, a key among them holds its value
and any other is as it was. -/
theorem setAll_map_apply (gauge : GaugeVec labels) (keys : List labels) (value : labels → ℚ)
    (key : labels) :
    gauge.setAll (keys.map fun k => (k, value k)) key =
      if key ∈ keys then some (value key) else gauge key := by
  induction keys generalizing gauge with
  | nil => simp
  | cons first rest ih =>
      rw [List.map_cons, setAll, List.foldl_cons, ← setAll, ih]
      by_cases same : first = key
      · subst same; simp
      · simp [same, Ne.symm same]

end GaugeVec

namespace CounterVec

variable {labels : Type} [DecidableEq labels]

/-- `WithLabelValues(key...).Inc()`. -/
def inc (counter : CounterVec labels) (key : labels) : CounterVec labels :=
  Function.update counter key (counter key + 1)

@[simp] theorem inc_apply (counter : CounterVec labels) (key other : labels) :
    counter.inc key other = counter other + if other = key then 1 else 0 := by
  by_cases same : other = key
  · subst same; simp [inc]
  · simp [inc, same]

end CounterVec

/-- `NTPMetrics`: the vectors the collectors write. -/
structure NTPMetrics where
  /-- `offset_seconds{server, stratum, version}`. -/
  offsetSeconds : GaugeVec (String × String × String)
  /-- `clock_offset_exceeded{server}`. -/
  clockOffsetExceeded : GaugeVec String
  /-- `rtt_seconds{server}`. -/
  rttSeconds : GaugeVec String
  /-- `server_reachable{server}`. -/
  serverReachable : GaugeVec String
  /-- `stratum{server}`. -/
  stratum : GaugeVec String
  /-- `reference_timestamp_seconds{server}`. -/
  referenceTimestamp : GaugeVec String
  /-- `root_delay_seconds{server}`. -/
  rootDelay : GaugeVec String
  /-- `root_dispersion_seconds{server}`. -/
  rootDispersion : GaugeVec String
  /-- `root_distance_seconds{server}`. -/
  rootDistance : GaugeVec String
  /-- `precision_seconds{server}`. -/
  precision : GaugeVec String
  /-- `leap_indicator{server}`. -/
  leapIndicator : GaugeVec String
  /-- `jitter_seconds{server}`. -/
  jitterSeconds : GaugeVec String
  /-- `stability_seconds{server}`. -/
  stabilitySeconds : GaugeVec String
  /-- `asymmetry_seconds{server}`. -/
  asymmetrySeconds : GaugeVec String
  /-- `samples_count{server}`. -/
  samplesCount : GaugeVec String
  /-- `packet_loss_ratio{server}`. -/
  packetLossRatio : GaugeVec String
  /-- `server_suspicious_total{server, reason}`. -/
  serverSuspiciousTotal : CounterVec (String × String)
  /-- `kiss_of_death_total{server, code}`. -/
  kissOfDeathTotal : CounterVec (String × String)
  /-- `malformed_responses_total{server}`. -/
  malformedResponsesTotal : CounterVec String
  /-- `server_trust_score{server}`. -/
  serverTrustScore : GaugeVec String
  /-- `pool_servers_active{pool}`. -/
  poolServersActive : GaugeVec String
  /-- `pool_servers_total{pool}`. -/
  poolServersTotal : GaugeVec String
  /-- `pool_dns_resolution_seconds{pool}`. -/
  poolDNSResolutionSeconds : GaugeVec String
  /-- `pool_best_offset_seconds{pool}`. -/
  poolBestOffsetSeconds : GaugeVec String
  /-- `scrapes_total{status}`. -/
  exporterScrapesTotal : CounterVec String
  /-- `kernel_offset_seconds{node}`. -/
  kernelOffsetSeconds : GaugeVec String
  /-- `kernel_frequency_ppm{node}`. -/
  kernelFrequencyPPM : GaugeVec String
  /-- `kernel_max_error_seconds{node}`. -/
  kernelMaxErrorSeconds : GaugeVec String
  /-- `kernel_est_error_seconds{node}`. -/
  kernelEstErrorSeconds : GaugeVec String
  /-- `kernel_precision_seconds{node}`. -/
  kernelPrecisionSeconds : GaugeVec String
  /-- `kernel_sync_status{node, status}`. -/
  kernelSyncStatus : GaugeVec (String × String)
  /-- `kernel_status_code{node}`. -/
  kernelStatusCode : GaugeVec String
  /-- `kernel_divergence_seconds{node, server}`. -/
  ntpKernelDivergence : GaugeVec (String × String)
  /-- `kernel_coherence_score{node, server}`. -/
  ntpKernelCoherence : GaugeVec (String × String)

/-- The vectors of a freshly registered `NTPMetrics`: no live series, every count zero. -/
def NTPMetrics.empty : NTPMetrics where
  offsetSeconds := .empty
  clockOffsetExceeded := .empty
  rttSeconds := .empty
  serverReachable := .empty
  stratum := .empty
  referenceTimestamp := .empty
  rootDelay := .empty
  rootDispersion := .empty
  rootDistance := .empty
  precision := .empty
  leapIndicator := .empty
  jitterSeconds := .empty
  stabilitySeconds := .empty
  asymmetrySeconds := .empty
  samplesCount := .empty
  packetLossRatio := .empty
  serverSuspiciousTotal := fun _ => 0
  kissOfDeathTotal := fun _ => 0
  malformedResponsesTotal := fun _ => 0
  serverTrustScore := .empty
  poolServersActive := .empty
  poolServersTotal := .empty
  poolDNSResolutionSeconds := .empty
  poolBestOffsetSeconds := .empty
  exporterScrapesTotal := fun _ => 0
  kernelOffsetSeconds := .empty
  kernelFrequencyPPM := .empty
  kernelMaxErrorSeconds := .empty
  kernelEstErrorSeconds := .empty
  kernelPrecisionSeconds := .empty
  kernelSyncStatus := .empty
  kernelStatusCode := .empty
  ntpKernelDivergence := .empty
  ntpKernelCoherence := .empty

end NtpExporter
