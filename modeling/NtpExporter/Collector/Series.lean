import NtpExporter.Collector.Base
import NtpExporter.Collector.Hybrid

/-!
# Series across collections

The base and the hybrid collectors write one metrics sink, collection after collection. No
collector removes a series. A server's offset series is labelled by the stratum of the response
written as well as by the server, and a node's sync status series by the status label as well as by
the node; so a server whose stratum changes, or a node whose status changes, keeps the series of its
earlier labels with their last values. What holds over every run is that each of these series
carries the value of the last write under its labels, or the value it had before the run.
-/

namespace NtpExporter

namespace Series

open BaseCollector HybridCollector

/-- The offset series a sequence of responses writes, with their values. -/
def offsetWrites (cfg : NTPConfig) (resps : List Response) :
    List ((String × String × String) × ℚ) :=
  resps.map fun resp => (offsetLabels cfg resp, resp.offset.seconds)

/-- The sync status series a sequence of kernel states writes for `node`, with their values. -/
def syncWrites (node : String) (states : List KernelTimex) : List ((String × String) × ℚ) :=
  states.map fun k => ((node, k.syncStatus), if k.isSynchronized then 1 else 0)

/-- `after` differs from `m` in the offset and sync status series by the writes of `resps` and of
`states`, in order. -/
def Written (cfg : NTPConfig) (node : String) (resps : List Response) (states : List KernelTimex)
    (m after : NTPMetrics) : Prop :=
  after.offsetSeconds = m.offsetSeconds.setAll (offsetWrites cfg resps) ∧
    after.kernelSyncStatus = m.kernelSyncStatus.setAll (syncWrites node states)

/-! ## What each collection writes -/

/-- One collection of the base or of the hybrid collector, with the inputs it gets. -/
inductive Collection
  /-- `BaseCollector.Collect`. -/
  | base (query : String → Except String Response) (env : String → PoolEnv)
  /-- `HybridCollector.Collect`. -/
  | hybrid (syscall : Except String Timex) (query : String → Except String Response)

/-- The responses of the pools whose query succeeds, in the order of the pools. -/
def poolResponses (cfg : NTPConfig) (env : String → PoolEnv) : List PoolConfig → List Response
  | [] => []
  | poolCfg :: rest =>
      match (buildPool cfg poolCfg).query (env poolCfg.name) cfg.samplesPerServer with
      | some (_, some resp, none) => resp.responses ++ poolResponses cfg env rest
      | _ => poolResponses cfg env rest

/-- The responses a collection writes with `updateMetrics`: a base collection's server answers and
then its pools' responses; a hybrid collection none. -/
def Collection.responses (cfg : NTPConfig) : Collection → List Response
  | .base query env =>
      cfg.servers.filterMap (fun server => (query server).toOption) ++
        poolResponses cfg env cfg.pools
  | .hybrid .. => []

/-- The kernel states a collection writes with `updateKernelMetrics`: a hybrid collection's, when
kernel monitoring is on and the kernel's state could be read; a base collection none. -/
def Collection.states (cfg : NTPConfig) : Collection → List KernelTimex
  | .base .. => []
  | .hybrid syscall _ =>
      if !cfg.enableKernel then []
      else match KernelReader.read cfg.enableKernel syscall with
        | .error _ => []
        | .ok k => [k]

section Written

variable {cfg : NTPConfig} {node : String} {resps resps' : List Response}
  {states states' : List KernelTimex} {m middle after : NTPMetrics}

theorem Written.refl (m : NTPMetrics) : Written cfg node [] [] m m := ⟨rfl, rfl⟩

theorem Written.trans (first : Written cfg node resps states m middle)
    (second : Written cfg node resps' states' middle after) :
    Written cfg node (resps ++ resps') (states ++ states') m after := by
  obtain ⟨offsets, sync⟩ := first
  obtain ⟨offsets', sync'⟩ := second
  exact ⟨by rw [offsets', offsets, offsetWrites, offsetWrites, offsetWrites, List.map_append,
      GaugeVec.setAll_append],
    by rw [sync', sync, syncWrites, syncWrites, syncWrites, List.map_append,
      GaugeVec.setAll_append]⟩

/-- Writes to neither vector after the writes of `resps` and `states`. -/
theorem Written.frame (written : Written cfg node resps states m middle)
    (offsets : after.offsetSeconds = middle.offsetSeconds)
    (sync : after.kernelSyncStatus = middle.kernelSyncStatus) :
    Written cfg node resps states m after :=
  ⟨offsets.trans written.1, sync.trans written.2⟩

theorem written_updateMetrics (resp : Response) :
    Written cfg node [resp] [] m (updateMetrics cfg m resp) := ⟨rfl, rfl⟩

theorem written_updateKernelMetrics (k : KernelTimex) :
    Written cfg node [] [k] m (updateKernelMetrics node m k) := ⟨rfl, rfl⟩

theorem written_foldl_updateMetrics (resps : List Response) :
    Written cfg node resps [] m (resps.foldl (updateMetrics cfg) m) := by
  induction resps generalizing m with
  | nil => exact Written.refl m
  | cons first rest ih => exact (written_updateMetrics first).trans ih

theorem written_updatePoolMetrics (resp : PoolResponse) :
    Written cfg node resp.responses [] m (updatePoolMetrics cfg m resp) :=
  (Written.refl m).trans (written_foldl_updateMetrics resp.responses)

end Written

/-! ## Each collection -/

variable {cfg : NTPConfig} {node : String}

/-- The loop over the servers writes the offset series of each answer in turn. -/
theorem written_collectServers (query : String → Except String Response) (servers : List String)
    (state : NTPMetrics × Nat) :
    Written cfg node (servers.filterMap fun server => (query server).toOption) [] state.1
      (collectServers cfg query servers state).1 := by
  induction servers generalizing state with
  | nil => exact Written.refl _
  | cons server rest ih =>
      obtain ⟨m, successes⟩ := state
      cases answer : query server with
      | error err =>
          simp only [collectServers, collectFromServer, answer, List.filterMap_cons,
            Except.toOption]
          exact (Written.refl m).trans (ih _)
      | ok resp =>
          simp only [collectServers, collectFromServer, answer, List.filterMap_cons,
            Except.toOption]
          exact (written_updateMetrics resp).trans ((Written.refl _).trans (ih _))

/-- The loop over the pools writes the responses of each pool whose query succeeds. -/
theorem written_collectPools (env : String → PoolEnv) (pools : List PoolConfig)
    (state result : NTPMetrics × Nat) (collected : collectPools cfg env pools state = some result) :
    Written cfg node (poolResponses cfg env pools) [] state.1 result.1 := by
  induction pools generalizing state with
  | nil => cases collected; exact Written.refl _
  | cons poolCfg rest ih =>
      obtain ⟨m, successes⟩ := state
      simp only [collectPools, collectFromPool] at collected
      simp only [poolResponses]
      rcases answer : (buildPool cfg poolCfg).query (env poolCfg.name) cfg.samplesPerServer with
        _ | ⟨pool, _ | resp, _ | err⟩ <;> simp only [answer] at collected ⊢
      · cases collected
      · cases collected
      · exact ih _ collected
      · exact (written_updatePoolMetrics resp).trans (ih _ collected)
      · exact ih _ collected

/-- The base collector writes the offset series of its servers' answers and then of its pools'
responses, and no sync status series. -/
theorem written_base {query : String → Except String Response} {env : String → PoolEnv}
    {m after : NTPMetrics} (h : BaseCollector.collect cfg query env m = some after) :
    Written cfg node ((Collection.base query env).responses cfg) [] m after := by
  simp only [BaseCollector.collect, Option.bind_eq_bind, Option.bind_eq_some,
    Option.some.injEq] at h
  obtain ⟨result, pooled, rfl⟩ := h
  exact ((written_collectServers query cfg.servers (m, 0)).trans
    (written_collectPools env cfg.pools _ _ pooled)).frame rfl rfl

/-- The hybrid collector writes the sync status series of the kernel state it reads, and no offset
series. -/
theorem written_hybrid (exp : ℚ → ℚ) (syscall : Except String Timex)
    (query : String → Except String Response) (m : NTPMetrics) :
    Written cfg node [] ((Collection.hybrid syscall query).states cfg) m
      (HybridCollector.collect exp cfg node syscall query m) := by
  unfold HybridCollector.collect Collection.states
  cases kernel : cfg.enableKernel
  · exact Written.refl m
  simp only [Bool.not_true, Bool.false_eq_true, if_false]
  cases KernelReader.read true syscall with
  | error err => exact Written.refl m
  | ok k =>
      refine (written_updateKernelMetrics k).trans (CommonCollector.iterateServers_rel Written.refl
        (fun first second => first.trans second) (fun server m after h => ?_) _ _)
      simp only [collectAndCorrelate] at h
      split at h <;> cases h
      exact (Written.refl m).frame rfl rfl

/-! ## Runs -/

/-- A run of collections on one sink; `none` once a collection has panicked. -/
def runCollections (exp : ℚ → ℚ) (cfg : NTPConfig) (node : String) :
    NTPMetrics → List Collection → Option NTPMetrics
  | m, [] => some m
  | m, .base query env :: rest =>
      (BaseCollector.collect cfg query env m).bind fun m => runCollections exp cfg node m rest
  | m, .hybrid syscall query :: rest =>
      runCollections exp cfg node (HybridCollector.collect exp cfg node syscall query m) rest

theorem written_run (exp : ℚ → ℚ) (steps : List Collection) {m after : NTPMetrics}
    (run : runCollections exp cfg node m steps = some after) :
    Written cfg node (steps.flatMap (Collection.responses cfg))
      (steps.flatMap (Collection.states cfg)) m after := by
  induction steps generalizing m with
  | nil => cases run; exact Written.refl _
  | cons step rest ih =>
      rw [List.flatMap_cons, List.flatMap_cons]
      cases step with
      | base query env =>
          simp only [runCollections, Option.bind_eq_some] at run
          obtain ⟨middle, collected, run⟩ := run
          exact (written_base collected).trans (ih run)
      | hybrid syscall query => exact (written_hybrid exp syscall query m).trans (ih run)

/-- After every run of base and hybrid collections, each offset series holds the offset of the last
response the run wrote under its labels, and each sync status series the sync value of the last
kernel state the run wrote under its labels, or either holds the value it had before the run when
the run wrote none under its labels. The run writes each base collection's server answers and pool
responses and each hybrid collection's kernel state, and a series is never removed, so a server or
a node keeps a live series for every label it was ever written under. -/
theorem runCollections_series (exp : ℚ → ℚ) (cfg : NTPConfig) (node : String) (m : NTPMetrics)
    (steps : List Collection) (after : NTPMetrics)
    (run : runCollections exp cfg node m steps = some after) :
    (∀ labels, after.offsetSeconds labels =
      (((offsetWrites cfg (steps.flatMap (Collection.responses cfg))).filter
        fun write => write.1 = labels).getLast?.map Prod.snd).or (m.offsetSeconds labels)) ∧
      ∀ labels, after.kernelSyncStatus labels =
        (((syncWrites node (steps.flatMap (Collection.states cfg))).filter
          fun write => write.1 = labels).getLast?.map Prod.snd).or (m.kernelSyncStatus labels) := by
  obtain ⟨offsets, sync⟩ := written_run exp steps run
  exact ⟨fun labels => by rw [offsets, GaugeVec.setAll_apply],
    fun labels => by rw [sync, GaugeVec.setAll_apply]⟩

theorem runCollections_series_unsynchronized :
    let cfg : NTPConfig := ⟨["192.0.2.1"], [], 4, 3, 100000000, true, ⟨false, 1000, 60, 10⟩,
      ⟨true, 3, 60000000000, 30000000000, 3 / 5⟩, ⟨false, ⟨3, 10, 50000000, 30000000000⟩⟩,
      ⟨false, 5⟩⟩
    let first : Response := ⟨"192.0.2.1", 1000000, 0, 2, ⟨0, 0⟩, 0, 0, 0, 0, 0, none, ""⟩
    let steps : List Collection := [.base (fun _ => .ok first) fun _ => ⟨fun _ => false, 0,
        .error "no such host", 0, 0, 0, fun _ _ => .failed "i/o timeout",
        fun _ _ => .error "no servers to query", ⟨GoMap.values, fun _ => List.Perm.refl _⟩⟩,
      .hybrid (.ok ⟨0, 0, 0, 0, 0x40, 0⟩) fun _ => .error "i/o timeout"]
    ∃ after, runCollections (fun _ => 0) cfg "node-1" NTPMetrics.empty steps = some after ∧
      ((∀ labels, after.offsetSeconds labels =
        (((offsetWrites cfg (steps.flatMap (Collection.responses cfg))).filter
          fun write => write.1 = labels).getLast?.map Prod.snd).or
            (NTPMetrics.empty.offsetSeconds labels)) ∧
        ∀ labels, after.kernelSyncStatus labels =
          (((syncWrites "node-1" (steps.flatMap (Collection.states cfg))).filter
            fun write => write.1 = labels).getLast?.map Prod.snd).or
              (NTPMetrics.empty.kernelSyncStatus labels)) := by
  intro cfg first steps
  exact ⟨_, rfl, runCollections_series (fun _ => 0) cfg "node-1" NTPMetrics.empty steps _ rfl⟩

/-- A server that answers at stratum 2 and then at stratum 3 has two live offset series, the first
still holding the first offset; a node whose kernel goes from unsynchronized to synchronized has a
sync status series of zero under the first label beside the series of one under the second. -/
theorem runCollections_keeps_stale_series :
    let server := "192.0.2.1"
    let exp : ℚ → ℚ := fun _ => 0
    let cfg : NTPConfig := ⟨[server], [], 4, 3, 100000000, true, ⟨false, 1, 1, 1⟩,
      ⟨true, 3, 60000000000, 30000000000, 3 / 5⟩, ⟨false, ⟨3, 10, 50000000, 30000000000⟩⟩,
      ⟨false, 5⟩⟩
    let env : String → PoolEnv := fun _ => ⟨fun _ => false, 0, .error "no such host", 0, 0, 0,
      fun _ _ => .failed "i/o timeout", fun _ _ => .error "no servers to query",
      ⟨GoMap.values, fun _ => List.Perm.refl _⟩⟩
    let first : Response := ⟨server, 1000000, 0, 2, ⟨0, 0⟩, 0, 0, 0, 0, 0, none, ""⟩
    let second := { first with stratum := 3, offset := 2000000 }
    let unsynchronized : Timex := ⟨0, 0, 0, 0, 0x40, 0⟩
    let synchronized : Timex := { unsynchronized with status := 0 }
    ∃ after, runCollections exp cfg "node-1" NTPMetrics.empty
        [.base (fun _ => .ok first) env, .base (fun _ => .ok second) env,
         .hybrid (.ok unsynchronized) (fun _ => .error "i/o timeout"),
         .hybrid (.ok synchronized) (fun _ => .error "i/o timeout")] = some after ∧
      after.offsetSeconds (server, "2", "4") = some first.offset.seconds ∧
      after.offsetSeconds (server, "3", "4") = some second.offset.seconds ∧
      after.kernelSyncStatus ("node-1", "unsynchronized") = some 0 ∧
      after.kernelSyncStatus ("node-1", "synchronized") = some 1 := by
  intro server exp cfg env first second unsynchronized synchronized
  refine ⟨_, rfl, ?_⟩
  simp [runCollections, BaseCollector.collect, collectServers, collectPools, collectFromServer,
    updateMetrics, offsetLabels, HybridCollector.collect, KernelReader.read, updateKernelMetrics,
    KernelTimex.getStatusString, KernelTimex.isSynchronized, CommonCollector.iterateServers,
    collectAndCorrelate, cfg, first, second, server, unsynchronized, synchronized,
    KernelTimex.staUnsync, KernelTimex.staClockErr, UInt8.size,
    show toString (2 : Nat) = "2" from rfl, show toString (3 : Nat) = "3" from rfl,
    show toString (4 : Int) = "4" from rfl]

end Series

end NtpExporter
