import Mathlib.Data.List.Nodup
import Mathlib.Data.List.Infix
import NtpExporter.Metrics
import NtpExporter.Config.Loader

/-!
# The names of the exporter's metrics

`NewNTPMetricsWithConfig(namespace, subsystem)` gives each metric a namespace, a subsystem and a
name, which `prometheus.NewDesc` joins with `BuildFQName`; `Describe` reports the metrics in the
order of `getAllMetrics`. The base, quality, security and kernel metrics and the query durations
take the configured subsystem, the pool metrics `pool`, and the exporter's own metrics `exporter`.
`Register` refuses two descriptors of one fully-qualified name whose label names differ. The help
texts are left out: they matter only between metrics of one name, and the one such pair differs in
its label names already.
-/

namespace NtpExporter

/-- `prometheus.BuildFQName`: the parts that are not empty, joined with underscores, and nothing for
an empty name. -/
def buildFQName (metricsNamespace subsystem name : String) : String :=
  if name = "" then ""
  else if metricsNamespace ≠ "" ∧ subsystem ≠ "" then
    metricsNamespace ++ "_" ++ subsystem ++ "_" ++ name
  else if metricsNamespace ≠ "" then metricsNamespace ++ "_" ++ name
  else if subsystem ≠ "" then subsystem ++ "_" ++ name
  else name

/-- Where a metric's `Subsystem` option comes from. -/
inductive SubsystemOf
  /-- The `subsystem` argument of `NewNTPMetricsWithConfig`. -/
  | configured
  /-- `"pool"`. -/
  | pool
  /-- `"exporter"`. -/
  | exporter
  deriving DecidableEq

/-- The subsystem a metric gets when `subsystem` is configured. -/
def SubsystemOf.resolve (subsystem : String) : SubsystemOf → String
  | .configured => subsystem
  | .pool => "pool"
  | .exporter => "exporter"

/-- The options of a metric: where its subsystem comes from, its `Name`, and the label names of a
vector, none for a single metric. -/
structure MetricOpts where
  /-- The `Subsystem` option. -/
  subsystemOf : SubsystemOf
  /-- The `Name` option. -/
  name : String
  /-- The label names. -/
  labels : List String
  deriving DecidableEq

namespace NTPMetrics

/-- The metrics of `NewNTPMetricsWithConfig`, in the order of `getAllMetrics`. -/
def metricOpts : List MetricOpts := [
  ⟨.configured, "offset_seconds", ["server", "stratum", "version"]⟩,
  ⟨.configured, "clock_offset_exceeded", ["server"]⟩,
  ⟨.configured, "rtt_seconds", ["server"]⟩,
  ⟨.configured, "server_reachable", ["server"]⟩,
  ⟨.configured, "stratum", ["server"]⟩,
  ⟨.configured, "reference_timestamp_seconds", ["server"]⟩,
  ⟨.configured, "root_delay_seconds", ["server"]⟩,
  ⟨.configured, "root_dispersion_seconds", ["server"]⟩,
  ⟨.configured, "root_distance_seconds", ["server"]⟩,
  ⟨.configured, "precision_seconds", ["server"]⟩,
  ⟨.configured, "leap_indicator", ["server"]⟩,
  ⟨.configured, "jitter_seconds", ["server"]⟩,
  ⟨.configured, "stability_seconds", ["server"]⟩,
  ⟨.configured, "asymmetry_seconds", ["server"]⟩,
  ⟨.configured, "samples_count", ["server"]⟩,
  ⟨.configured, "packet_loss_ratio", ["server"]⟩,
  ⟨.configured, "server_suspicious_total", ["server", "reason"]⟩,
  ⟨.configured, "kiss_of_death_total", ["server", "code"]⟩,
  ⟨.configured, "malformed_responses_total", ["server"]⟩,
  ⟨.configured, "server_trust_score", ["server"]⟩,
  ⟨.pool, "servers_active", ["pool"]⟩,
  ⟨.pool, "servers_total", ["pool"]⟩,
  ⟨.pool, "dns_resolution_seconds", ["pool"]⟩,
  ⟨.pool, "best_offset_seconds", ["pool"]⟩,
  ⟨.exporter, "build_info", ["version", "commit", "go_version"]⟩,
  ⟨.exporter, "scrape_duration_seconds", []⟩,
  ⟨.exporter, "scrapes_total", ["status"]⟩,
  ⟨.exporter, "servers_configured", []⟩,
  ⟨.exporter, "dns_resolution_duration_seconds", ["server"]⟩,
  ⟨.exporter, "memory_usage_bytes", []⟩,
  ⟨.exporter, "goroutines_count", []⟩,
  ⟨.configured, "query_duration_seconds", ["server", "status"]⟩,
  ⟨.exporter, "collector_duration_seconds", ["collector"]⟩,
  ⟨.exporter, "gc_duration_seconds", []⟩,
  ⟨.exporter, "memory_allocated_bytes", []⟩,
  ⟨.exporter, "memory_heap_bytes", []⟩,
  ⟨.exporter, "memory_stack_bytes", []⟩,
  ⟨.exporter, "gc_count_total", []⟩,
  ⟨.configured, "kernel_offset_seconds", ["node"]⟩,
  ⟨.configured, "kernel_frequency_ppm", ["node"]⟩,
  ⟨.configured, "kernel_max_error_seconds", ["node"]⟩,
  ⟨.configured, "kernel_est_error_seconds", ["node"]⟩,
  ⟨.configured, "kernel_precision_seconds", ["node"]⟩,
  ⟨.configured, "kernel_sync_status", ["node", "status"]⟩,
  ⟨.configured, "kernel_status_code", ["node"]⟩,
  ⟨.configured, "kernel_divergence_seconds", ["node", "server"]⟩,
  ⟨.configured, "kernel_coherence_score", ["node", "server"]⟩]

/-- A metric's fully-qualified name under the namespace and the configured subsystem. -/
def fqName (metricsNamespace subsystem : String) (opts : MetricOpts) : String :=
  buildFQName metricsNamespace (opts.subsystemOf.resolve subsystem) opts.name

/-- The fully-qualified names `Describe` reports for
`NewNTPMetricsWithConfig(namespace, subsystem)`, in order. -/
def describe (metricsNamespace subsystem : String) : List String :=
  metricOpts.map (fqName metricsNamespace subsystem)

/-! ## The table -/

/-- Without a namespace and a subsystem, the metrics have names of their own. -/
theorem describe_empty_nodup : (describe "" "").Nodup := by decide

theorem name_ne_empty : ∀ opts ∈ metricOpts, opts.name ≠ "" := by decide

/-- The only name of a `pool` or `exporter` metric that ends in an underscore and the name of a
metric of the configured subsystem is the pool's best offset, which ends in `_offset_seconds`. -/
theorem suffix_of_fixed :
    ∀ x ∈ metricOpts, ∀ y ∈ metricOpts, x.subsystemOf = .configured → y.subsystemOf ≠ .configured →
      ('_' :: x.name.data).isSuffixOf (fqName "" "" y).data →
        x.name = "offset_seconds" ∧ fqName "" "" y = "pool_best_offset_seconds" := by
  decide

theorem fqName_empty_injOn {x y : MetricOpts} (xMem : x ∈ metricOpts) (yMem : y ∈ metricOpts)
    (same : fqName "" "" x = fqName "" "" y) : x = y :=
  List.inj_on_of_nodup_map describe_empty_nodup xMem yMem same

/-! ## Names under a namespace and a subsystem -/

/-- A name that is not empty gets the namespace, when there is one, in front of what the subsystem
alone gives it. -/
theorem buildFQName_eq (metricsNamespace subsystem : String) {name : String} (named : name ≠ "") :
    buildFQName metricsNamespace subsystem name =
      (if metricsNamespace = "" then "" else metricsNamespace ++ "_") ++
        buildFQName "" subsystem name := by
  unfold buildFQName
  by_cases spaced : metricsNamespace = "" <;> by_cases sub : subsystem = "" <;>
    simp [spaced, sub, named, String.append_assoc]

theorem append_left_cancel {head left right : String} (same : head ++ left = head ++ right) :
    left = right := by
  have joined := String.ext_iff.mp same
  rw [String.data_append, String.data_append] at joined
  exact String.ext_iff.mpr (List.append_cancel_left joined)

/-- A metric of the configured subsystem gets the subsystem, when there is one, in front of its
name. -/
theorem fqName_configured (subsystem : String) {opts : MetricOpts} (mem : opts ∈ metricOpts)
    (configured : opts.subsystemOf = .configured) :
    fqName "" subsystem opts = (if subsystem = "" then "" else subsystem ++ "_") ++ opts.name := by
  by_cases sub : subsystem = "" <;>
    simp [fqName, buildFQName, SubsystemOf.resolve, configured, sub, name_ne_empty opts mem]

theorem fqName_fixed (subsystem : String) {opts : MetricOpts}
    (fixed : opts.subsystemOf ≠ .configured) : fqName "" subsystem opts = fqName "" "" opts := by
  unfold fqName
  cases tag : opts.subsystemOf
  · exact absurd tag fixed
  all_goals rfl

/-- A metric of the configured subsystem has the name of a `pool` or `exporter` metric only under
the subsystem `pool_best`, and then it is `offset_seconds{server, stratum, version}` and the other
is the pool's `best_offset_seconds{pool}`. -/
theorem fqName_configured_eq_fixed {subsystem : String} {x y : MetricOpts} (xMem : x ∈ metricOpts)
    (yMem : y ∈ metricOpts) (configured : x.subsystemOf = .configured)
    (fixed : y.subsystemOf ≠ .configured) (same : fqName "" subsystem x = fqName "" subsystem y) :
    subsystem = "pool_best" ∧ x.labels = ["server", "stratum", "version"] ∧
      y.labels = ["pool"] := by
  by_cases sub : subsystem = ""
  · subst sub
    exact absurd (fqName_empty_injOn xMem yMem same ▸ configured) fixed
  rw [fqName_configured subsystem xMem configured, if_neg sub, fqName_fixed subsystem fixed] at same
  have joined := String.ext_iff.mp same
  simp only [String.data_append, List.append_assoc] at joined
  obtain ⟨offset, poolBest⟩ := suffix_of_fixed x xMem y yMem configured fixed
    (List.isSuffixOf_iff_suffix.mpr (joined ▸ List.suffix_append _ _))
  have split : "pool_best_offset_seconds".data =
      "pool_best".data ++ (['_'] ++ "offset_seconds".data) := by decide
  rw [offset, poolBest, split] at joined
  have isOffset : x = ⟨.configured, "offset_seconds", ["server", "stratum", "version"]⟩ :=
    fqName_empty_injOn xMem (by decide) (by rw [fqName_configured "" xMem configured, offset]; rfl)
  have isPoolBest : y = ⟨.pool, "best_offset_seconds", ["pool"]⟩ :=
    fqName_empty_injOn yMem (by decide) (by rw [poolBest]; rfl)
  exact ⟨String.ext_iff.mpr (List.append_cancel_right joined), by rw [isOffset],
    by rw [isPoolBest]⟩

/-- Two metrics of one name are one metric, or the subsystem is `pool_best` and they have different
label names. -/
theorem fqName_eq_cases {metricsNamespace subsystem : String} {x y : MetricOpts}
    (xMem : x ∈ metricOpts) (yMem : y ∈ metricOpts)
    (same : fqName metricsNamespace subsystem x = fqName metricsNamespace subsystem y) :
    x = y ∨ subsystem = "pool_best" ∧ x.labels ≠ y.labels := by
  rw [fqName, buildFQName_eq _ _ (name_ne_empty x xMem), fqName,
    buildFQName_eq _ _ (name_ne_empty y yMem)] at same
  replace same : fqName "" subsystem x = fqName "" subsystem y := append_left_cancel same
  by_cases xTag : x.subsystemOf = .configured <;> by_cases yTag : y.subsystemOf = .configured
  · rw [fqName_configured subsystem xMem xTag, fqName_configured subsystem yMem yTag] at same
    refine .inl (fqName_empty_injOn xMem yMem ?_)
    rw [fqName_configured "" xMem xTag, fqName_configured "" yMem yTag, append_left_cancel same]
  · obtain ⟨poolBest, xLabels, yLabels⟩ := fqName_configured_eq_fixed xMem yMem xTag yTag same
    exact .inr ⟨poolBest, by rw [xLabels, yLabels]; decide⟩
  · obtain ⟨poolBest, yLabels, xLabels⟩ :=
      fqName_configured_eq_fixed yMem xMem yTag xTag same.symm
    exact .inr ⟨poolBest, by rw [xLabels, yLabels]; decide⟩
  · rw [fqName_fixed subsystem xTag, fqName_fixed subsystem yTag] at same
    exact .inl (fqName_empty_injOn xMem yMem same)

/-- Under the subsystem `pool_best`, `offset_seconds` has the name of the pool's
`best_offset_seconds`. -/
theorem fqName_pool_best (metricsNamespace : String) :
    fqName metricsNamespace "pool_best"
        ⟨.configured, "offset_seconds", ["server", "stratum", "version"]⟩ =
      fqName metricsNamespace "pool_best" ⟨.pool, "best_offset_seconds", ["pool"]⟩ := by
  have tails : buildFQName "" "pool_best" "offset_seconds" =
      buildFQName "" "pool" "best_offset_seconds" := by decide
  show buildFQName metricsNamespace "pool_best" "offset_seconds" =
    buildFQName metricsNamespace "pool" "best_offset_seconds"
  rw [buildFQName_eq metricsNamespace "pool_best" (by decide : "offset_seconds" ≠ ""),
    buildFQName_eq metricsNamespace "pool" (by decide : "best_offset_seconds" ≠ ""), tails]

/-- For every namespace, the names `Describe` reports are pairwise distinct exactly when the
subsystem is not `pool_best`. Two metrics of one name are one metric, or the subsystem is
`pool_best` and their label names differ, which `Register` refuses; under `pool_best`,
`offset_seconds` gets the name of the pool's `best_offset_seconds`. `Validate` never reads the
subsystem, so a configuration is valid under `pool_best` exactly when it is valid under any other
subsystem, and the defaults under `pool_best` are valid. -/
theorem describe_nodup_iff (metricsNamespace subsystem : String) :
    ((describe metricsNamespace subsystem).Nodup ↔ subsystem ≠ "pool_best") ∧
      (∀ x ∈ metricOpts, ∀ y ∈ metricOpts,
        fqName metricsNamespace subsystem x = fqName metricsNamespace subsystem y →
          x = y ∨ subsystem = "pool_best" ∧ x.labels ≠ y.labels) ∧
      (subsystem = "pool_best" →
        ⟨.configured, "offset_seconds", ["server", "stratum", "version"]⟩ ∈ metricOpts ∧
        ⟨.pool, "best_offset_seconds", ["pool"]⟩ ∈ metricOpts ∧
        fqName metricsNamespace subsystem
            ⟨.configured, "offset_seconds", ["server", "stratum", "version"]⟩ =
          fqName metricsNamespace subsystem ⟨.pool, "best_offset_seconds", ["pool"]⟩) ∧
      (∀ cfg : Config,
        Config.validate { cfg with metrics := { cfg.metrics with subsystem := subsystem } } =
          Config.validate cfg) ∧
      Config.validate { Config.applyDefaults Config.zero with
        metrics := { (Config.applyDefaults Config.zero).metrics with subsystem := "pool_best" } } =
          none := by
  refine ⟨⟨?_, fun notPoolBest => ?_⟩, fun x xMem y yMem same => fqName_eq_cases xMem yMem same,
    ?_, fun _ => rfl, Config.validate_defaults⟩
  · rintro nodup rfl
    exact absurd (List.inj_on_of_nodup_map nodup (by decide) (by decide)
      (fqName_pool_best metricsNamespace)) (by decide)
  · refine (List.Nodup.of_map _ describe_empty_nodup).map_on fun x xMem y yMem same => ?_
    exact (fqName_eq_cases xMem yMem same).resolve_right fun collide => notPoolBest collide.1
  · rintro rfl
    exact ⟨by decide, by decide, fqName_pool_best metricsNamespace⟩

end NTPMetrics

end NtpExporter
