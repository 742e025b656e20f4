import NtpExporter.Collector.Base
import NtpExporter.Collector.Quality
import NtpExporter.Collector.Security
import NtpExporter.Collector.Hybrid

/-!
# The collector registry and the collection loop

`collector.Registry` keeps its collectors in registration order, and `CollectAll` runs every
enabled one in turn on the metrics the one before left, returning the first error prefixed with
its collector's name. `main` registers the base, quality and security collectors, and the hybrid
one when kernel monitoring is on. `runCollectionLoop` collects once, makes its ticker, which panics
on an interval that is not positive, and collects at every tick, only logging a failure. What a
collection reads from outside is a round, an input, and the ticks before the context is done are
a list of rounds; a panic is `none` and ends the run.
-/

namespace NtpExporter

/-- A `Collector` as the registry sees it: its name, whether it is enabled, and its `Collect` on
the metrics for the inputs of a round, with the error it returns; `none` is a panic. -/
structure Collector (Input : Type) where
  /-- `Name()`. -/
  name : String
  /-- `Enabled()`. -/
  enabled : Bool
  /-- `Collect(ctx)`. -/
  collect : Input → NTPMetrics → Option (NTPMetrics × Option String)

/-- One collector's turn in `CollectAll`: nothing when it is disabled, and otherwise its
collection, its error prefixed with its name. -/
def Collector.turn {Input : Type} (c : Collector Input) (input : Input) (m : NTPMetrics) :
    Option (NTPMetrics × Option String) :=
  if !c.enabled then some (m, none)
  else (c.collect input m).map fun result => (result.1, result.2.map (c.name ++ ": " ++ ·))

/-- A `collector.Registry`: its collectors, in the order they were registered. -/
structure Registry (Input : Type) where
  /-- `collectors`. -/
  collectors : List (Collector Input)

namespace Registry

variable {Input : Type}

/-- `NewRegistry`. -/
def newRegistry : Registry Input := ⟨[]⟩

/-- `Register`: the collector appended. -/
def register (r : Registry Input) (c : Collector Input) : Registry Input :=
  ⟨r.collectors ++ [c]⟩

/-- `Count`. -/
def count (r : Registry Input) : Nat := r.collectors.length

/-- `EnabledCount`. -/
def enabledCount (r : Registry Input) : Nat := r.collectors.countP (·.enabled)

/-- The loop of `CollectAll` over the collectors, with the metrics and the errors so far: a
disabled collector is skipped, and a failed one's error is kept, prefixed with its name. -/
def collectEach (input : Input) :
    List (Collector Input) → NTPMetrics × List String → Option (NTPMetrics × List String)
  | [], state => some state
  | c :: rest, (m, errs) =>
      if !c.enabled then collectEach input rest (m, errs)
      else match c.collect input m with
        | none => none
        | some (after, none) => collectEach input rest (after, errs)
        | some (after, some err) =>
            collectEach input rest (after, errs ++ [c.name ++ ": " ++ err])

/-- `CollectAll`: the metrics every enabled collector leaves, and the first error. -/
def collectAll (r : Registry Input) (input : Input) (m : NTPMetrics) :
    Option (NTPMetrics × Option String) :=
  (collectEach input r.collectors (m, [])).map fun result => (result.1, result.2.head?)

/-- The collections of the loop, one per round, each on the metrics the one before left; the
error of a collection is only logged. -/
def collectRounds (r : Registry Input) : List Input → NTPMetrics → Option NTPMetrics
  | [], m => some m
  | input :: rest, m => (r.collectAll input m).bind fun result => collectRounds r rest result.1

/-- `runCollectionLoop` with the interval `cfg.NTP.ScrapeInterval`: the initial collection, then
`time.NewTicker`, which panics unless the interval is positive, then one collection at each tick
until the context is done. The loop returns `nil`. -/
def runCollectionLoop (r : Registry Input) (scrapeInterval : Duration) (initial : Input)
    (ticks : List Input) (m : NTPMetrics) : Option NTPMetrics :=
  (r.collectAll initial m).bind fun result =>
    if scrapeInterval ≤ 0 then none else collectRounds r ticks result.1

/-! ## How registering composes -/

theorem collectEach_append (input : Input) (first second : List (Collector Input))
    (state : NTPMetrics × List String) :
    collectEach input (first ++ second) state =
      (collectEach input first state).bind (collectEach input second) := by
  induction first generalizing state with
  | nil => rfl
  | cons c rest ih =>
      obtain ⟨m, errs⟩ := state
      simp only [List.cons_append, collectEach]
      split
      · exact ih _
      · split
        · rfl
        all_goals exact ih _

theorem collectEach_single (input : Input) (c : Collector Input) (m : NTPMetrics)
    (errs : List String) :
    collectEach input [c] (m, errs) =
      (c.turn input m).map fun result => (result.1, errs ++ result.2.toList) := by
  simp only [collectEach, Collector.turn]
  split
  · simp
  · split <;> simp_all

@[simp] theorem collectAll_newRegistry (input : Input) (m : NTPMetrics) :
    (newRegistry : Registry Input).collectAll input m = some (m, none) := rfl

/-- Registering a collector appends its turn to `CollectAll`: it runs after every collector
registered before, on the metrics they leave, whatever errors they returned, and its error is
returned only when none of theirs is. -/
theorem collectAll_register (r : Registry Input) (c : Collector Input) (input : Input)
    (m : NTPMetrics) :
    (r.register c).collectAll input m = (r.collectAll input m).bind fun first =>
      (c.turn input first.1).map fun second => (second.1, first.2.or second.2) := by
  simp only [collectAll, register, collectEach_append]
  cases collectEach input r.collectors (m, []) with
  | none => rfl
  | some state =>
      obtain ⟨after, errs⟩ := state
      simp only [Option.some_bind, Option.map_some', collectEach_single, Option.map_map]
      cases c.turn input after with
      | none => rfl
      | some result => obtain ⟨after, err⟩ := result; cases errs <;> cases err <;> rfl

end Registry

/-! ## The exporter's collectors -/

/-- What the collectors take from the platform: the float reductions of the statistics,
`time.Duration.String`, `math.Exp`, and the node's name, `NODE_NAME` or else the hostname. -/
structure Platform where
  /-- The reductions of `calculateStatistics`. -/
  reductions : Reductions
  /-- `time.Duration.String`. -/
  durationString : Duration → String
  /-- `math.Exp`. -/
  exp : ℚ → ℚ
  /-- The hybrid collector's `nodeName`. -/
  node : String

/-- What one collection of the exporter reads from outside, collector by collector: each collector
queries through a client of its own. -/
structure Round where
  /-- The base collector's client's answer to each server's `Query`. -/
  baseQuery : String → Except String Response
  /-- The environment of each pool's query, by the pool's name. -/
  poolEnv : String → PoolEnv
  /-- The quality collector's answers to each server's first `QueryMultiple`. -/
  qualityFirst : String → QueryMultipleAnswer
  /-- The quality collector's answers to each server's second `QueryMultiple`. -/
  qualitySecond : String → QueryMultipleAnswer
  /-- The time each server's first batch took. -/
  qualityElapsed : String → Duration
  /-- The security collector's client's answer to each server's `Query`. -/
  securityQuery : String → Except String Response
  /-- The answer of `adjtimex`. -/
  syscall : Except String Timex
  /-- The hybrid collector's client's answer to each server's `Query`. -/
  hybridQuery : String → Except String Response

/-- `NewBaseCollector`: enabled, as `NewCommonCollector` makes every collector; its `Collect`
returns `nil`. -/
def baseCollector (cfg : NTPConfig) : Collector Round where
  name := "base"
  enabled := true
  collect round m := (BaseCollector.collect cfg round.baseQuery round.poolEnv m).map (·, none)

/-- `NewQualityCollector`: its `Collect` returns what `IterateServers` returns, `nil`. -/
def qualityCollector (p : Platform) (cfg : NTPConfig) : Collector Round where
  name := "quality"
  enabled := true
  collect round m := some (QualityCollector.collect p.reductions cfg m round.qualityFirst
    round.qualitySecond round.qualityElapsed, none)

/-- `NewSecurityCollector`: its `Collect` returns what `IterateServers` returns, `nil`. -/
def securityCollector (p : Platform) (cfg : NTPConfig) : Collector Round where
  name := "security"
  enabled := true
  collect round m :=
    some (SecurityCollector.collect p.durationString cfg round.securityQuery m, none)

/-- `NewHybridCollector`: its `Collect` returns `nil`. -/
def hybridCollector (p : Platform) (cfg : NTPConfig) : Collector Round where
  name := "hybrid"
  enabled := true
  collect round m := some (HybridCollector.collect p.exp cfg p.node round.syscall round.hybridQuery
    m, none)

/-- The collector registry of `main`: base, quality and security, and hybrid when kernel
monitoring is enabled. -/
def exporterRegistry (p : Platform) (cfg : NTPConfig) : Registry Round :=
  let registry := Registry.newRegistry.register (baseCollector cfg)
    |>.register (qualityCollector p cfg) |>.register (securityCollector p cfg)
  if cfg.enableKernel then registry.register (hybridCollector p cfg) else registry

/-! ## What each collector writes of the counters and of reachability -/

/-- The counter vectors of the metrics. -/
def NTPMetrics.counters (m : NTPMetrics) : CounterVec String × CounterVec (String × String) ×
    CounterVec (String × String) × CounterVec String :=
  (m.exporterScrapesTotal, m.serverSuspiciousTotal, m.kissOfDeathTotal, m.malformedResponsesTotal)

/-- No counter series of `after` is below its value in `m`. -/
structure CountersGrow (m after : NTPMetrics) : Prop where
  /-- `scrapes_total`. -/
  scrapes : ∀ status, m.exporterScrapesTotal status ≤ after.exporterScrapesTotal status
  /-- `server_suspicious_total`. -/
  suspicious : ∀ labels, m.serverSuspiciousTotal labels ≤ after.serverSuspiciousTotal labels
  /-- `kiss_of_death_total`. -/
  kissOfDeath : ∀ labels, m.kissOfDeathTotal labels ≤ after.kissOfDeathTotal labels
  /-- `malformed_responses_total`. -/
  malformed : ∀ labels, m.malformedResponsesTotal labels ≤ after.malformedResponsesTotal labels

namespace CountersGrow

variable {m middle after : NTPMetrics}

theorem refl (m : NTPMetrics) : CountersGrow m m :=
  ⟨fun _ => le_rfl, fun _ => le_rfl, fun _ => le_rfl, fun _ => le_rfl⟩

theorem trans (first : CountersGrow m middle) (second : CountersGrow middle after) :
    CountersGrow m after :=
  ⟨fun l => (first.scrapes l).trans (second.scrapes l),
    fun l => (first.suspicious l).trans (second.suspicious l),
    fun l => (first.kissOfDeath l).trans (second.kissOfDeath l),
    fun l => (first.malformed l).trans (second.malformed l)⟩

theorem of_eq (same : after.counters = m.counters) : CountersGrow m after := by
  simp only [NTPMetrics.counters, Prod.mk.injEq] at same
  obtain ⟨scrapes, suspicious, kissOfDeath, malformed⟩ := same
  exact ⟨fun l => (congrFun scrapes l).ge, fun l => (congrFun suspicious l).ge,
    fun l => (congrFun kissOfDeath l).ge, fun l => (congrFun malformed l).ge⟩

/-- One more count under one status of `scrapes_total` and the other counters as they were. -/
theorem of_inc {status : String}
    (same : after.counters = (m.exporterScrapesTotal.inc status, m.counters.2)) :
    CountersGrow m after := by
  simp only [NTPMetrics.counters, Prod.mk.injEq] at same
  obtain ⟨scrapes, suspicious, kissOfDeath, malformed⟩ := same
  refine ⟨fun l => ?_, fun l => (congrFun suspicious l).ge, fun l => (congrFun kissOfDeath l).ge,
    fun l => (congrFun malformed l).ge⟩
  rw [scrapes, CounterVec.inc_apply]
  exact Nat.le_add_right _ _

end CountersGrow

/-- What the quality, security and hybrid collectors do to the series the base collector writes
for every round, `scrapes_total` and `server_reachable`: they leave them as they were, and they
lower no counter. -/
structure Keeps (m after : NTPMetrics) : Prop where
  /-- `scrapes_total` as it was. -/
  scrapes : after.exporterScrapesTotal = m.exporterScrapesTotal
  /-- `server_reachable` as it was. -/
  reachable : after.serverReachable = m.serverReachable
  /-- No counter lowered. -/
  grows : CountersGrow m after

namespace Keeps

variable {m middle after : NTPMetrics}

theorem refl (m : NTPMetrics) : Keeps m m := ⟨rfl, rfl, .refl m⟩

theorem trans (first : Keeps m middle) (second : Keeps middle after) : Keeps m after :=
  ⟨second.scrapes.trans first.scrapes, second.reachable.trans first.reachable,
    first.grows.trans second.grows⟩

theorem of_eq (same : after.counters = m.counters)
    (reachable : after.serverReachable = m.serverReachable) : Keeps m after :=
  ⟨congrArg Prod.fst same, reachable, .of_eq same⟩

end Keeps

theorem keeps_quality (reductions : Reductions) (cfg : NTPConfig) (m : NTPMetrics)
    (first second : String → QueryMultipleAnswer) (elapsed : String → Duration) :
    Keeps m (QualityCollector.collect reductions cfg m first second elapsed) := by
  refine CommonCollector.iterateServers_rel Keeps.refl Keeps.trans (fun server m after h => ?_) _ _
  unfold QualityCollector.collectFromServer at h
  split at h <;> split at h <;> cases h <;> exact Keeps.of_eq rfl rfl

/-- What one answer does to the series the base collector writes: the three counters of the
security collector each counted once or left as they were. -/
theorem counters_collectFromServer (durationString : Duration → String) (v : Validator)
    (m : NTPMetrics) (server : String) (resp : Response) :
    ∃ after, SecurityCollector.collectFromServer durationString v m server (.ok resp) = .ok after ∧
      after.serverReachable = m.serverReachable ∧
      after.counters = (m.exporterScrapesTotal,
        (if resp.isSuspicious then m.serverSuspiciousTotal.inc (server, v.getSuspicionReason resp)
          else m.serverSuspiciousTotal),
        (if resp.isKissOfDeath then m.kissOfDeathTotal.inc (server, resp.kissCode)
          else m.kissOfDeathTotal),
        (if !resp.isValid then m.malformedResponsesTotal.inc server
          else m.malformedResponsesTotal)) := by
  refine ⟨_, rfl, ?_⟩
  split_ifs <;> exact ⟨rfl, rfl⟩

theorem le_ite_inc {labels : Type} [DecidableEq labels] (p : Prop) [Decidable p]
    (counter : CounterVec labels) (key l : labels) :
    counter l ≤ (if p then counter.inc key else counter) l := by
  split <;> simp

theorem keeps_security (durationString : Duration → String) (cfg : NTPConfig)
    (query : String → Except String Response) (m : NTPMetrics) :
    Keeps m (SecurityCollector.collect durationString cfg query m) := by
  refine CommonCollector.iterateServers_rel Keeps.refl Keeps.trans (fun server m after h => ?_) _ _
  cases answer : query server with
  | error err => simp [answer, SecurityCollector.collectFromServer] at h
  | ok resp =>
      obtain ⟨after', collected, reachable, counters⟩ :=
        counters_collectFromServer durationString Validator.newValidator m server resp
      rw [answer, collected, Except.ok.injEq] at h
      subst h
      simp only [NTPMetrics.counters, Prod.mk.injEq] at counters
      obtain ⟨scrapes, suspicious, kissOfDeath, malformed⟩ := counters
      exact ⟨scrapes, reachable, fun l => scrapes ▸ le_rfl,
        fun l => suspicious ▸ le_ite_inc _ _ _ l, fun l => kissOfDeath ▸ le_ite_inc _ _ _ l,
        fun l => malformed ▸ le_ite_inc _ _ _ l⟩

theorem keeps_hybrid (exp : ℚ → ℚ) (cfg : NTPConfig) (node : String)
    (syscall : Except String Timex) (query : String → Except String Response) (m : NTPMetrics) :
    Keeps m (HybridCollector.collect exp cfg node syscall query m) := by
  unfold HybridCollector.collect
  split
  · exact Keeps.refl m
  split
  · exact Keeps.refl m
  rename_i k _
  refine Keeps.trans (Keeps.of_eq rfl rfl : Keeps m (HybridCollector.updateKernelMetrics node m k))
    (CommonCollector.iterateServers_rel Keeps.refl Keeps.trans (fun server m after h => ?_) _ _)
  simp only [HybridCollector.collectAndCorrelate] at h
  split at h <;> cases h
  exact Keeps.of_eq rfl rfl

namespace BaseCollector

/-- Whether a pool's query gave a response and no error, which `Collect` counts as a success. -/
def poolAnswered (cfg : NTPConfig) (poolCfg : PoolConfig) (env : PoolEnv) : Bool :=
  match (buildPool cfg poolCfg).query env cfg.samplesPerServer with
  | some (_, some _, none) => true
  | _ => false

/-- Whether `Collect` counts a collection as a success: some configured server answered its query,
or some configured pool's query gave a response and no error. -/
def answered (cfg : NTPConfig) (query : String → Except String Response)
    (env : String → PoolEnv) : Bool :=
  cfg.servers.any (fun server => (query server).isOk) ||
    cfg.pools.any fun poolCfg => poolAnswered cfg poolCfg (env poolCfg.name)

variable {cfg : NTPConfig}

@[simp] theorem counters_updateMetrics (m : NTPMetrics) (resp : Response) :
    (updateMetrics cfg m resp).counters = m.counters := rfl

theorem counters_updatePoolMetrics (m : NTPMetrics) (resp : PoolResponse) :
    (updatePoolMetrics cfg m resp).counters = m.counters := by
  suffices ∀ (resps : List Response) (m' : NTPMetrics),
      (resps.foldl (updateMetrics cfg) m').counters = m'.counters from this _ _
  intro resps
  induction resps with
  | nil => exact fun _ => rfl
  | cons resp rest ih => exact fun m' => (ih _).trans (counters_updateMetrics m' resp)

/-- The loop over the servers writes no counter, and counts the servers that answered. -/
theorem collectServers_counts (query : String → Except String Response) (servers : List String)
    (state : NTPMetrics × Nat) :
    (collectServers cfg query servers state).1.counters = state.1.counters ∧
      (collectServers cfg query servers state).2 =
        state.2 + servers.countP fun server => (query server).isOk := by
  induction servers generalizing state with
  | nil => simp [collectServers]
  | cons server rest ih =>
      obtain ⟨m, successes⟩ := state
      have isOk_error (err : String) : (Except.error err : Except String Response).isOk = false :=
        rfl
      have isOk_ok (resp : Response) : (Except.ok resp : Except String Response).isOk = true := rfl
      cases answer : query server with
      | error err =>
          simpa [collectServers, collectFromServer, answer, List.countP_cons, isOk_error] using ih _
      | ok resp =>
          simp only [collectServers, collectFromServer, answer, List.countP_cons, isOk_ok, if_true]
          exact ⟨(ih _).1, by rw [(ih _).2]; omega⟩

theorem poolAnswered_of_ok {m after : NTPMetrics} {poolCfg : PoolConfig} {env : PoolEnv}
    (collected : collectFromPool cfg m poolCfg env = some (.ok after)) :
    poolAnswered cfg poolCfg env = true ∧ after.counters = m.counters := by
  unfold collectFromPool at collected
  unfold poolAnswered
  split at collected <;> simp_all
  subst collected
  exact counters_updatePoolMetrics m _

theorem poolAnswered_of_error {m : NTPMetrics} {poolCfg : PoolConfig} {env : PoolEnv}
    {err : String} (collected : collectFromPool cfg m poolCfg env = some (.error err)) :
    poolAnswered cfg poolCfg env = false := by
  unfold collectFromPool at collected
  unfold poolAnswered
  split at collected <;> simp_all

/-- The loop over the pools writes no counter, and counts the pools whose query answered. -/
theorem collectPools_counts {env : String → PoolEnv} {pools : List PoolConfig}
    {state after : NTPMetrics × Nat} (collected : collectPools cfg env pools state = some after) :
    after.1.counters = state.1.counters ∧
      after.2 = state.2 +
        pools.countP fun poolCfg => poolAnswered cfg poolCfg (env poolCfg.name) := by
  induction pools generalizing state with
  | nil =>
      obtain rfl := Option.some.inj collected
      simp
  | cons poolCfg rest ih =>
      obtain ⟨m, successes⟩ := state
      simp only [collectPools] at collected
      split at collected
      · cases collected
      · rename_i failed
        simp only [List.countP_cons, poolAnswered_of_error failed]
        simpa using ih collected
      · rename_i pooled
        obtain ⟨answered, same⟩ := poolAnswered_of_ok pooled
        obtain ⟨counters, count⟩ := ih collected
        refine ⟨counters.trans same, ?_⟩
        simp only [List.countP_cons, answered, count, if_true]
        omega

/-- `Collect` counts the collection under `success` when some server or pool answered and under
`failure` otherwise, writes `server_reachable` of each configured server, and no other counter. -/
theorem collect_tally {query : String → Except String Response} {env : String → PoolEnv}
    {m after : NTPMetrics} (collected : collect cfg query env m = some after) :
    after.counters =
        (m.exporterScrapesTotal.inc (if answered cfg query env then "success" else "failure"),
          m.counters.2) ∧
      after.serverReachable = m.serverReachable.setAll (cfg.servers.map fun server =>
        (server, if (query server).isOk then 1 else 0)) := by
  simp only [collect, Option.bind_eq_bind, Option.bind_eq_some, Option.some.injEq] at collected
  obtain ⟨result, pooled, rfl⟩ := collected
  obtain ⟨serversCounters, serversCount⟩ := collectServers_counts query cfg.servers (m, 0)
  obtain ⟨poolsCounters, poolsCount⟩ := collectPools_counts pooled
  have success : 0 < result.2 ↔ answered cfg query env = true := by
    rw [poolsCount, serversCount]
    simp [answered, List.countP_pos_iff, List.any_eq_true, Nat.add_pos_iff_pos_or_pos]
  have counters := poolsCounters.trans serversCounters
  simp only [NTPMetrics.counters, Prod.mk.injEq] at counters ⊢
  refine ⟨⟨by simp only [success, counters.1], counters.2⟩, ?_⟩
  exact ((collectPools_untouched cfg env cfg.pools _ _ pooled).reachable).trans
    (collectServers_spec cfg query cfg.servers m 0).2

end BaseCollector

/-! ## One collection of the exporter -/

/-- One collection of `main`'s registry returns no error and leaves what the base collector
leaves, but for what the other collectors write, which keeps `scrapes_total` and
`server_reachable` and lowers no counter. -/
theorem collectAll_exporterRegistry {p : Platform} {cfg : NTPConfig} {round : Round}
    {m : NTPMetrics} {result : NTPMetrics × Option String}
    (collected : (exporterRegistry p cfg).collectAll round m = some result) :
    result.2 = none ∧ ∃ based, BaseCollector.collect cfg round.baseQuery round.poolEnv m =
      some based ∧ Keeps based result.1 := by
  unfold exporterRegistry at collected
  cases base : BaseCollector.collect cfg round.baseQuery round.poolEnv m with
  | none =>
      split_ifs at collected <;>
        simp [Registry.collectAll_register, Collector.turn, baseCollector, base] at collected
  | some based =>
      have keeps := (keeps_quality p.reductions cfg based round.qualityFirst round.qualitySecond
        round.qualityElapsed).trans (keeps_security p.durationString cfg round.securityQuery _)
      split_ifs at collected <;>
        simp [Registry.collectAll_register, Collector.turn, baseCollector, qualityCollector,
          securityCollector, hybridCollector, base] at collected <;> subst collected
      · exact ⟨rfl, based, rfl, keeps.trans (keeps_hybrid p.exp cfg p.node _ _ _)⟩
      · exact ⟨rfl, based, rfl, keeps⟩

/-- Whether the base collector counts a round's collection as a success. -/
def Round.answered (cfg : NTPConfig) (round : Round) : Bool :=
  BaseCollector.answered cfg round.baseQuery round.poolEnv

section Exporter

variable {p : Platform} {cfg : NTPConfig} {round : Round} {m : NTPMetrics}
  {result : NTPMetrics × Option String}

theorem scrapesTotal_collectAll
    (collected : (exporterRegistry p cfg).collectAll round m = some result) (status : String) :
    result.1.exporterScrapesTotal status = m.exporterScrapesTotal status +
      if status = (if round.answered cfg then "success" else "failure") then 1 else 0 := by
  obtain ⟨-, based, base, keeps⟩ := collectAll_exporterRegistry collected
  have scrapes : based.exporterScrapesTotal =
      m.exporterScrapesTotal.inc (if round.answered cfg then "success" else "failure") :=
    congrArg Prod.fst (BaseCollector.collect_tally base).1
  rw [keeps.scrapes, scrapes, CounterVec.inc_apply]

theorem serverReachable_collectAll
    (collected : (exporterRegistry p cfg).collectAll round m = some result) (server : String) :
    result.1.serverReachable server = if server ∈ cfg.servers then
      some (if (round.baseQuery server).isOk then 1 else 0) else m.serverReachable server := by
  obtain ⟨-, based, base, keeps⟩ := collectAll_exporterRegistry collected
  rw [keeps.reachable, (BaseCollector.collect_tally base).2]
  exact GaugeVec.setAll_map_apply _ _ (fun server => if (round.baseQuery server).isOk then 1 else 0)
    server

theorem countersGrow_collectAll
    (collected : (exporterRegistry p cfg).collectAll round m = some result) :
    CountersGrow m result.1 := by
  obtain ⟨-, based, base, keeps⟩ := collectAll_exporterRegistry collected
  exact (CountersGrow.of_inc (BaseCollector.collect_tally base).1).trans keeps.grows

end Exporter

/-! ## Runs of the collection loop -/

/-- A run of the loop that does not panic has a positive interval and is the initial collection
and one collection at each tick. -/
theorem collectRounds_of_runCollectionLoop {Input : Type} {r : Registry Input}
    {scrapeInterval : Duration} {initial : Input} {ticks : List Input} {m after : NTPMetrics}
    (run : r.runCollectionLoop scrapeInterval initial ticks m = some after) :
    0 < scrapeInterval ∧ r.collectRounds (initial :: ticks) m = some after := by
  simp only [Registry.runCollectionLoop, Option.bind_eq_some] at run
  obtain ⟨result, collected, rest⟩ := run
  split_ifs at rest with nonpositive
  refine ⟨?_, by simp [Registry.collectRounds, collected, rest]⟩
  simp only [Duration.le_iff, Duration.lt_iff, Duration.ns_zero] at nonpositive ⊢
  omega

section Exporter

variable {p : Platform} {cfg : NTPConfig}

theorem collectRounds_scrapesTotal {rounds : List Round} {m after : NTPMetrics}
    (run : (exporterRegistry p cfg).collectRounds rounds m = some after) (status : String) :
    after.exporterScrapesTotal status = m.exporterScrapesTotal status +
      rounds.countP fun round => status = if round.answered cfg then "success" else "failure" := by
  induction rounds generalizing m with
  | nil => cases run; simp
  | cons round rest ih =>
      rw [Registry.collectRounds, Option.bind_eq_some] at run
      obtain ⟨result, collected, run⟩ := run
      rw [ih run, scrapesTotal_collectAll collected, List.countP_cons]
      simp only [decide_eq_true_eq]
      omega

theorem collectRounds_serverReachable {round : Round} {rest : List Round} {m after : NTPMetrics}
    (run : (exporterRegistry p cfg).collectRounds (round :: rest) m = some after)
    (server : String) :
    after.serverReachable server = if server ∈ cfg.servers then
      some (if ((rest.getLast?.getD round).baseQuery server).isOk then 1 else 0)
      else m.serverReachable server := by
  induction rest generalizing round m with
  | nil =>
      rw [Registry.collectRounds, Option.bind_eq_some] at run
      obtain ⟨result, collected, ⟨⟩⟩ := run
      exact serverReachable_collectAll collected server
  | cons next rest ih =>
      rw [Registry.collectRounds, Option.bind_eq_some] at run
      obtain ⟨result, collected, run⟩ := run
      have last : (next :: rest).getLast?.getD round = rest.getLast?.getD next := by
        simp [List.getLast?_cons]
      rw [ih run, serverReachable_collectAll collected, last]
      split_ifs <;> rfl

theorem countersGrow_collectRounds {rounds : List Round} {m after : NTPMetrics}
    (run : (exporterRegistry p cfg).collectRounds rounds m = some after) :
    CountersGrow m after := by
  induction rounds generalizing m with
  | nil => cases run; exact .refl _
  | cons round rest ih =>
      rw [Registry.collectRounds, Option.bind_eq_some] at run
      obtain ⟨result, collected, run⟩ := run
      exact (countersGrow_collectAll collected).trans (ih run)

/-- Over every run of `main`'s collection loop that does not panic, `scrapes_total` counts the
collections, the initial one included, and nothing else: each under `success` exactly when some
configured server answered the base collector's query or some configured pool's query gave a
response, whatever the other collectors got, and under `failure` otherwise. -/
theorem runCollectionLoop_counts_collections (p : Platform) (cfg : NTPConfig)
    (scrapeInterval : Duration) (initial : Round) (ticks : List Round) (m after : NTPMetrics)
    (run : (exporterRegistry p cfg).runCollectionLoop scrapeInterval initial ticks m = some after) :
    after.exporterScrapesTotal "success" =
        m.exporterScrapesTotal "success" +
          (initial :: ticks).countP (fun round => round.answered cfg) ∧
      after.exporterScrapesTotal "failure" =
        m.exporterScrapesTotal "failure" +
          (initial :: ticks).countP (fun round => !round.answered cfg) ∧
      ∀ status, status ≠ "success" → status ≠ "failure" →
        after.exporterScrapesTotal status = m.exporterScrapesTotal status := by
  have counted := collectRounds_scrapesTotal (collectRounds_of_runCollectionLoop run).2
  have labels : "success" ≠ "failure" := by decide
  refine ⟨?_, ?_, fun status success failure => ?_⟩
  · rw [counted]
    congr 1
    exact List.countP_congr fun round _ => by split <;> simp [*, labels.symm]
  · rw [counted]
    congr 1
    exact List.countP_congr fun round _ => by split <;> simp [*, labels.symm]
  · rw [counted, List.countP_eq_zero.mpr fun round _ => by split <;> simp [*]]
    rfl

theorem runCollectionLoop_counts_collections_two_rounds :
    let p : Platform := ⟨⟨fun _ => 0, fun _ => 0, fun _ => 0, fun _ => 0⟩, fun _ => "",
      fun _ => 0, "node-1"⟩
    let cfg : NTPConfig := ⟨["192.0.2.1"], [], 4, 3, 100000000, false, ⟨false, 1000, 60, 10⟩,
      ⟨true, 3, 60000000000, 30000000000, 3 / 5⟩,
      ⟨false, ⟨3, 10, 50000000, 30000000000⟩⟩, ⟨false, 5⟩⟩
    let env : String → PoolEnv := fun _ => ⟨fun _ => false, 0, .error "no such host", 0, 0, 0,
      fun _ _ => .failed "i/o timeout", fun _ _ => .error "no servers to query",
      ⟨GoMap.values, fun _ => List.Perm.refl _⟩⟩
    let failing : Round := ⟨fun _ => .error "i/o timeout", env,
      fun _ _ => ([], some "i/o timeout"), fun _ _ => ([], some "i/o timeout"), fun _ => 0,
      fun _ => .error "i/o timeout", .error "operation not permitted",
      fun _ => .error "i/o timeout"⟩
    let answering : Round := { failing with
      baseQuery := fun _ =>
        .ok ⟨"192.0.2.1", 1000000, 20000000, 2, ⟨0, 0⟩, 0, 0, 0, 0, 0, none, ""⟩ }
    ∃ after, (exporterRegistry p cfg).runCollectionLoop 30000000000 answering [failing]
        NTPMetrics.empty = some after ∧
      after.exporterScrapesTotal "success" = NTPMetrics.empty.exporterScrapesTotal "success" +
        [answering, failing].countP (fun round => round.answered cfg) ∧
      after.exporterScrapesTotal "failure" = NTPMetrics.empty.exporterScrapesTotal "failure" +
        [answering, failing].countP (fun round => !round.answered cfg) ∧
      ∀ status, status ≠ "success" → status ≠ "failure" →
        after.exporterScrapesTotal status = NTPMetrics.empty.exporterScrapesTotal status := by
  intro p cfg env failing answering
  exact ⟨_, rfl,
    runCollectionLoop_counts_collections p cfg 30000000000 answering [failing] _ _ rfl⟩

/-- Over every run of `main`'s collection loop that does not panic, `server_reachable` of each
configured server is one when its query answered in the last collection and zero when it failed,
whatever it answered before, and the series of any other name is as it was before the run. -/
theorem runCollectionLoop_reachable_last_round (p : Platform) (cfg : NTPConfig)
    (scrapeInterval : Duration) (initial : Round) (ticks : List Round) (m after : NTPMetrics)
    (run : (exporterRegistry p cfg).runCollectionLoop scrapeInterval initial ticks m = some after)
    (server : String) :
    after.serverReachable server = if server ∈ cfg.servers then
      some (if ((ticks.getLast?.getD initial).baseQuery server).isOk then 1 else 0)
      else m.serverReachable server :=
  collectRounds_serverReachable (collectRounds_of_runCollectionLoop run).2 server

/-- A server that answered the initial collection and failed at the tick after is unreachable. -/
theorem runCollectionLoop_reachable_last_round_failed :
    let p : Platform := ⟨⟨fun _ => 0, fun _ => 0, fun _ => 0, fun _ => 0⟩, fun _ => "",
      fun _ => 0, "node-1"⟩
    let cfg : NTPConfig := ⟨["192.0.2.1"], [], 4, 3, 100000000, false, ⟨false, 1000, 60, 10⟩,
      ⟨true, 3, 60000000000, 30000000000, 3 / 5⟩,
      ⟨false, ⟨3, 10, 50000000, 30000000000⟩⟩, ⟨false, 5⟩⟩
    let env : String → PoolEnv := fun _ => ⟨fun _ => false, 0, .error "no such host", 0, 0, 0,
      fun _ _ => .failed "i/o timeout", fun _ _ => .error "no servers to query",
      ⟨GoMap.values, fun _ => List.Perm.refl _⟩⟩
    let failing : Round := ⟨fun _ => .error "i/o timeout", env,
      fun _ _ => ([], some "i/o timeout"), fun _ _ => ([], some "i/o timeout"), fun _ => 0,
      fun _ => .error "i/o timeout", .error "operation not permitted",
      fun _ => .error "i/o timeout"⟩
    let answering : Round := { failing with
      baseQuery := fun _ =>
        .ok ⟨"192.0.2.1", 1000000, 20000000, 2, ⟨0, 0⟩, 0, 0, 0, 0, 0, none, ""⟩ }
    ∃ after, (exporterRegistry p cfg).runCollectionLoop 30000000000 answering [failing]
        NTPMetrics.empty = some after ∧
      after.serverReachable "192.0.2.1" = if "192.0.2.1" ∈ cfg.servers then
        some (if (([failing].getLast?.getD answering).baseQuery "192.0.2.1").isOk then 1 else 0)
        else NTPMetrics.empty.serverReachable "192.0.2.1" := by
  intro p cfg env failing answering
  exact ⟨_, rfl, runCollectionLoop_reachable_last_round p cfg 30000000000 answering [failing] _ _
    rfl "192.0.2.1"⟩

/-- Over every run of `main`'s collection loop that does not panic, no counter series is lowered. -/
theorem runCollectionLoop_counters_grow (p : Platform) (cfg : NTPConfig)
    (scrapeInterval : Duration) (initial : Round) (ticks : List Round) (m after : NTPMetrics)
    (run : (exporterRegistry p cfg).runCollectionLoop scrapeInterval initial ticks m = some after) :
    CountersGrow m after :=
  countersGrow_collectRounds (collectRounds_of_runCollectionLoop run).2

theorem runCollectionLoop_counters_grow_two_rounds :
    let p : Platform := ⟨⟨fun _ => 0, fun _ => 0, fun _ => 0, fun _ => 0⟩, fun _ => "",
      fun _ => 0, "node-1"⟩
    let cfg : NTPConfig := ⟨["192.0.2.1"], [], 4, 3, 100000000, false, ⟨false, 1000, 60, 10⟩,
      ⟨true, 3, 60000000000, 30000000000, 3 / 5⟩,
      ⟨false, ⟨3, 10, 50000000, 30000000000⟩⟩, ⟨false, 5⟩⟩
    let env : String → PoolEnv := fun _ => ⟨fun _ => false, 0, .error "no such host", 0, 0, 0,
      fun _ _ => .failed "i/o timeout", fun _ _ => .error "no servers to query",
      ⟨GoMap.values, fun _ => List.Perm.refl _⟩⟩
    let failing : Round := ⟨fun _ => .error "i/o timeout", env,
      fun _ _ => ([], some "i/o timeout"), fun _ _ => ([], some "i/o timeout"), fun _ => 0,
      fun _ => .error "i/o timeout", .error "operation not permitted",
      fun _ => .error "i/o timeout"⟩
    let answering : Round := { failing with
      baseQuery := fun _ =>
        .ok ⟨"192.0.2.1", 1000000, 20000000, 2, ⟨0, 0⟩, 0, 0, 0, 0, 0, none, ""⟩ }
    ∃ after, (exporterRegistry p cfg).runCollectionLoop 30000000000 answering [failing]
        NTPMetrics.empty = some after ∧ CountersGrow NTPMetrics.empty after := by
  intro p cfg env failing answering
  exact ⟨_, rfl, runCollectionLoop_counters_grow p cfg 30000000000 answering [failing] _ _ rfl⟩

end Exporter

end NtpExporter
