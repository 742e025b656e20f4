import NtpExporter.Collector.Common
import NtpExporter.Ntp.Pool

/-!
# The base collector

`BaseCollector.Collect`: one `Query` per configured server, whose response is written to the base
gauges under the server's name (the offset also under the response's stratum and the configured
protocol version), and one `Pool.Query` per configured pool, whose responses are written the same
way. Each pool is built anew by `NewPool` at every collection, with an empty DNS cache. The client's
answers and the environment of each pool's query are inputs. A panic inside a pool's query is
`none`.
-/

namespace NtpExporter

namespace BaseCollector

/-- The labels of the offset series a response is written to: its server, its stratum and the
configured protocol version, the numbers in decimal. -/
def offsetLabels (cfg : NTPConfig) (resp : Response) : String × String × String :=
  (resp.server, toString resp.stratum.toNat, toString cfg.version)

/-- `updateMetrics`: the base gauges of the response's server. -/
def updateMetrics (cfg : NTPConfig) (m : NTPMetrics) (resp : Response) : NTPMetrics :=
  { m with
    offsetSeconds := m.offsetSeconds.set (offsetLabels cfg resp) resp.offset.seconds
    rttSeconds := m.rttSeconds.set resp.server resp.rtt.seconds
    stratum := m.stratum.set resp.server resp.stratum.toNat
    referenceTimestamp := m.referenceTimestamp.set resp.server resp.referenceTime.unix
    rootDelay := m.rootDelay.set resp.server resp.rootDelay.seconds
    rootDispersion := m.rootDispersion.set resp.server resp.rootDispersion.seconds
    rootDistance := m.rootDistance.set resp.server resp.rootDistance.seconds
    precision := m.precision.set resp.server resp.precision.seconds
    leapIndicator := m.leapIndicator.set resp.server resp.leapIndicator.toNat }

/-- `collectFromServer`: the client's answer to `Query(server)` written to the gauges, or the
error it failed with. -/
def collectFromServer (cfg : NTPConfig) (m : NTPMetrics) (server : String)
    (answer : Except String Response) : Except String NTPMetrics :=
  match answer with
  | .error err => .error ("failed to query NTP server " ++ server ++ ": " ++ err)
  | .ok resp => .ok (updateMetrics cfg m resp)

/-- The gauges of a pool's response, then the base gauges of each of its responses. -/
def updatePoolMetrics (cfg : NTPConfig) (m : NTPMetrics) (resp : PoolResponse) : NTPMetrics :=
  resp.responses.foldl (updateMetrics cfg)
    { m with
      poolServersActive := m.poolServersActive.set resp.poolName resp.activeServers
      poolServersTotal := m.poolServersTotal.set resp.poolName resp.totalServers
      poolDNSResolutionSeconds := m.poolDNSResolutionSeconds.set resp.poolName
        resp.dnsResolution.seconds
      poolBestOffsetSeconds := m.poolBestOffsetSeconds.set resp.poolName resp.bestOffset.seconds }

/-- The pool `collectFromPool` builds: a new pool, with the worker pool enabled when the
configuration enables it and the strategy is `all`. -/
def buildPool (cfg : NTPConfig) (poolCfg : PoolConfig) : Pool :=
  let pool := Pool.newPool poolCfg.name poolCfg.strategy poolCfg.maxServers poolCfg.fallback
  if cfg.workerPool.enabled ∧ poolCfg.strategy = "all" then pool.enableWorkerPool cfg.workerPool.size
  else pool

@[simp] theorem buildPool_name (cfg : NTPConfig) (poolCfg : PoolConfig) :
    (buildPool cfg poolCfg).name = poolCfg.name := by
  unfold buildPool; split <;> rfl

@[simp] theorem buildPool_fallback (cfg : NTPConfig) (poolCfg : PoolConfig) :
    (buildPool cfg poolCfg).fallback = poolCfg.fallback := by
  unfold buildPool; split <;> rfl

@[simp] theorem buildPool_dnsCache (cfg : NTPConfig) (poolCfg : PoolConfig) :
    (buildPool cfg poolCfg).dnsCache = DNSCache.newDNSCache ⟨0, 0⟩ := by
  unfold buildPool; split <;> rfl

/-- `collectFromPool`: the pool's query with `SamplesPerServer` samples, its error wrapped, or its
response written to the gauges. The pool is dropped afterwards. A response that is `nil` without
an error would be dereferenced, a panic. -/
def collectFromPool (cfg : NTPConfig) (m : NTPMetrics) (poolCfg : PoolConfig) (env : PoolEnv) :
    Option (Except String NTPMetrics) :=
  match (buildPool cfg poolCfg).query env cfg.samplesPerServer with
  | none => none
  | some (_, _, some err) => some (.error ("failed to query NTP pool " ++ poolCfg.name ++ ": " ++ err))
  | some (_, some resp, none) => some (.ok (updatePoolMetrics cfg m resp))
  | some (_, none, none) => none

/-- The loop of `Collect` over the configured servers, with the successes so far:
`server_reachable` is one for a server that answered and zero for one that did not. -/
def collectServers (cfg : NTPConfig) (query : String → Except String Response) :
    List String → NTPMetrics × Nat → NTPMetrics × Nat
  | [], state => state
  | server :: rest, (m, successes) =>
      match collectFromServer cfg m server (query server) with
      | .error _ =>
          collectServers cfg query rest ({ m with serverReachable := m.serverReachable.set server 0 },
            successes)
      | .ok after =>
          collectServers cfg query rest
            ({ after with serverReachable := after.serverReachable.set server 1 }, successes + 1)

/-- The loop of `Collect` over the configured pools, with the successes so far. -/
def collectPools (cfg : NTPConfig) (env : String → PoolEnv) :
    List PoolConfig → NTPMetrics × Nat → Option (NTPMetrics × Nat)
  | [], state => some state
  | poolCfg :: rest, (m, successes) =>
      match collectFromPool cfg m poolCfg (env poolCfg.name) with
      | none => none
      | some (.error _) => collectPools cfg env rest (m, successes)
      | some (.ok after) => collectPools cfg env rest (after, successes + 1)

/-- `Collect`: the servers, then the pools, then `scrapes_total{success}` counted when anything
succeeded and `scrapes_total{failure}` otherwise. It always returns `nil`. `query` is the client's
answer to each server's `Query`, and `env` the environment of each pool's query, by its name. -/
def collect (cfg : NTPConfig) (query : String → Except String Response)
    (env : String → PoolEnv) (m : NTPMetrics) : Option NTPMetrics := do
  let (m, successes) ← collectPools cfg env cfg.pools (collectServers cfg query cfg.servers (m, 0))
  some { m with exporterScrapesTotal :=
    m.exporterScrapesTotal.inc (if 0 < successes then "success" else "failure") }

/-- Every collection builds its pools anew, each with an empty DNS cache, so whatever earlier
collections resolved, a pool's name is looked up again at every collection; and when the lookup
fails, the pool is queried at its fallback server alone, or, without one, its collection fails with
`failed to resolve pool`. -/
theorem collectFromPool_resolves_afresh (cfg : NTPConfig) (m : NTPMetrics) (poolCfg : PoolConfig)
    (env : PoolEnv) (notIP : env.isIP poolCfg.name = false) :
    ((buildPool cfg poolCfg).dnsCache.resolve env.isIP poolCfg.name env.now env.answer
      env.storedAt).lookedUp = true ∧
    ∀ err, env.answer = .error err →
      ((buildPool cfg poolCfg).resolve env).map Prod.snd =
        some (if poolCfg.fallback ≠ "" then .ok ([poolCfg.fallback], env.elapsed)
          else .error "failed to resolve pool") ∧
      (poolCfg.fallback = "" → collectFromPool cfg m poolCfg env =
        some (.error ("failed to query NTP pool " ++ poolCfg.name ++ ": failed to resolve pool"))) := by
  have fresh : (DNSCache.newDNSCache ⟨0, 0⟩).cache.lookup poolCfg.name = none := rfl
  refine ⟨by simp [DNSCache.resolve_lookedUp _ _ _ _ _ _ notIP, fresh], fun err failed => ?_⟩
  have resolved : ((buildPool cfg poolCfg).dnsCache.resolve env.isIP poolCfg.name env.now
      env.answer env.storedAt).result = .error err := by
    simp [DNSCache.resolve, DNSCache.refresh, notIP, fresh, failed]
  have answer : ((buildPool cfg poolCfg).resolve env).map Prod.snd =
      some (if poolCfg.fallback ≠ "" then .ok ([poolCfg.fallback], env.elapsed)
        else .error "failed to resolve pool") := by
    simp only [Pool.resolve, resolved, buildPool_name, buildPool_fallback]
    split_ifs <;> rfl
  refine ⟨answer, fun noFallback => ?_⟩
  obtain ⟨pool, resolve⟩ : ∃ pool, (buildPool cfg poolCfg).resolve env =
      some (pool, .error "failed to resolve pool") := by
    simp only [noFallback, ne_eq, not_true_eq_false, if_false, Option.map_eq_some'] at answer
    obtain ⟨⟨pool, _⟩, found, rfl⟩ := answer
    exact ⟨pool, found⟩
  simp only [collectFromPool, Pool.query, resolve, Option.bind_eq_bind, Option.some_bind,
    String.append_assoc]
  rfl

theorem collectFromPool_resolves_afresh_pool_ntp_org :
    let cfg : NTPConfig := ⟨[], [⟨"pool.ntp.org", "best_n", 4, ""⟩], 4, 3, 100000000, false,
      ⟨false, 1000, 60, 10⟩, ⟨true, 3, 60000000000, 30000000000, 3 / 5⟩,
      ⟨false, ⟨3, 10, 50000000, 30000000000⟩⟩, ⟨false, 5⟩⟩
    let env : PoolEnv := ⟨fun _ => false, 60000000000, .error "no such host", 60000000000, 0, 60,
      fun _ _ => .failed "i/o timeout", fun _ _ => .error "no servers to query",
      ⟨GoMap.values, fun _ => List.Perm.refl _⟩⟩
    env.isIP "pool.ntp.org" = false ∧
      collectFromPool cfg NTPMetrics.empty ⟨"pool.ntp.org", "best_n", 4, ""⟩ env =
        some (.error "failed to query NTP pool pool.ntp.org: failed to resolve pool") := by
  intro cfg env
  exact ⟨rfl, ((collectFromPool_resolves_afresh cfg NTPMetrics.empty ⟨"pool.ntp.org", "best_n", 4, ""⟩
    env rfl).2 "no such host" rfl).2 rfl⟩

/-! ## What a collection writes of reachability and the offset threshold -/

/-- The two gauges the base writes of a response leave alone: `clock_offset_exceeded`, which
nothing writes, and `server_reachable`, which only the loop over the servers writes. -/
structure Untouched (m after : NTPMetrics) : Prop where
  /-- `clock_offset_exceeded` as it was. -/
  exceeded : after.clockOffsetExceeded = m.clockOffsetExceeded
  /-- `server_reachable` as it was. -/
  reachable : after.serverReachable = m.serverReachable

theorem untouched_updatePoolMetrics (cfg : NTPConfig) (m : NTPMetrics) (resp : PoolResponse) :
    Untouched m (updatePoolMetrics cfg m resp) := by
  suffices ∀ (responses : List Response) (m' : NTPMetrics), Untouched m m' →
      Untouched m (responses.foldl (updateMetrics cfg) m') from this _ _ ⟨rfl, rfl⟩
  intro responses
  induction responses with
  | nil => exact fun _ untouched => untouched
  | cons resp rest ih => exact fun m' untouched => ih _ ⟨untouched.exceeded, untouched.reachable⟩

theorem untouched_collectFromPool {cfg : NTPConfig} {m : NTPMetrics} {poolCfg : PoolConfig}
    {env : PoolEnv} {after : NTPMetrics} (pooled : collectFromPool cfg m poolCfg env = some (.ok after)) :
    Untouched m after := by
  unfold collectFromPool at pooled
  split at pooled
  all_goals first
    | exact (Except.ok.inj (Option.some.inj pooled)) ▸ untouched_updatePoolMetrics cfg m _
    | cases pooled

/-- The loop over the servers writes `server_reachable` of each server in turn, one for an answer
and zero for an error, and leaves `clock_offset_exceeded` alone. -/
theorem collectServers_spec (cfg : NTPConfig) (query : String → Except String Response)
    (servers : List String) (m : NTPMetrics) (successes : Nat) :
    (collectServers cfg query servers (m, successes)).1.clockOffsetExceeded = m.clockOffsetExceeded ∧
      (collectServers cfg query servers (m, successes)).1.serverReachable =
        m.serverReachable.setAll (servers.map fun server =>
          (server, if (query server).isOk then 1 else 0)) := by
  induction servers generalizing m successes with
  | nil => exact ⟨rfl, rfl⟩
  | cons server rest ih =>
      cases answer : query server with
      | error err => simpa [collectServers, collectFromServer, answer, GaugeVec.setAll] using ih _ _
      | ok resp => simpa [collectServers, collectFromServer, answer, GaugeVec.setAll] using ih _ _

/-- The loop over the pools writes neither `server_reachable` nor `clock_offset_exceeded`. -/
theorem collectPools_untouched (cfg : NTPConfig) (env : String → PoolEnv) (pools : List PoolConfig)
    (m : NTPMetrics) (successes : Nat) {after : NTPMetrics × Nat}
    (collected : collectPools cfg env pools (m, successes) = some after) : Untouched m after.1 := by
  induction pools generalizing m successes with
  | nil =>
      obtain rfl := Option.some.inj collected
      exact ⟨rfl, rfl⟩
  | cons poolCfg rest ih =>
      simp only [collectPools] at collected
      split at collected
      · cases collected
      · exact ih m successes collected
      · have untouched := untouched_collectFromPool ‹_›
        have next := ih _ _ collected
        exact ⟨next.exceeded.trans untouched.exceeded, next.reachable.trans untouched.reachable⟩

/-- `Collect` never writes `clock_offset_exceeded`, whatever the offsets and the configured bound:
each series of it stays as it was. It writes `server_reachable` of each configured server, one when
its query answered and zero when it failed. -/
theorem collect_never_writes_clockOffsetExceeded (cfg : NTPConfig)
    (query : String → Except String Response) (env : String → PoolEnv) (m after : NTPMetrics)
    (collected : collect cfg query env m = some after) :
    after.clockOffsetExceeded = m.clockOffsetExceeded ∧
      after.serverReachable = m.serverReachable.setAll (cfg.servers.map fun server =>
        (server, if (query server).isOk then 1 else 0)) := by
  obtain ⟨exceeded, reachable⟩ := collectServers_spec cfg query cfg.servers m 0
  simp only [collect, Option.bind_eq_bind] at collected
  cases pooled : collectPools cfg env cfg.pools (collectServers cfg query cfg.servers (m, 0)) with
  | none => simp [pooled] at collected
  | some result =>
      simp only [pooled, Option.some_bind, Option.some.injEq] at collected
      subst collected
      have untouched := collectPools_untouched cfg env cfg.pools _ _ pooled
      exact ⟨untouched.exceeded.trans exceeded, untouched.reachable.trans reachable⟩

theorem collect_never_writes_clockOffsetExceeded_one_second :
    let cfg : NTPConfig := ⟨["192.0.2.1"], [], 4, 3, 100000000, false,
      ⟨false, 1000, 60, 10⟩, ⟨true, 3, 60000000000, 30000000000, 3 / 5⟩,
      ⟨false, ⟨3, 10, 50000000, 30000000000⟩⟩, ⟨false, 5⟩⟩
    let resp : Response := ⟨"192.0.2.1", 1000000000, 20000000, 2, ⟨0, 0⟩, 0, 0, 0, 0, 0, none, ""⟩
    let env : String → PoolEnv := fun _ => ⟨fun _ => false, 60000000000, .error "no such host",
      60000000000, 0, 60, fun _ _ => .failed "i/o timeout", fun _ _ => .error "no servers to query",
      ⟨GoMap.values, fun _ => List.Perm.refl _⟩⟩
    cfg.maxClockOffset < absDuration resp.offset ∧
      ∃ after, collect cfg (fun _ => .ok resp) env NTPMetrics.empty = some after ∧
        after.clockOffsetExceeded = NTPMetrics.empty.clockOffsetExceeded ∧
        after.serverReachable = NTPMetrics.empty.serverReachable.setAll [("192.0.2.1", 1)] := by
  intro cfg resp env
  exact ⟨by decide, _, rfl, collect_never_writes_clockOffsetExceeded cfg (fun _ => .ok resp) env _ _ rfl⟩

end BaseCollector

end NtpExporter
