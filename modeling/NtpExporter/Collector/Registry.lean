import NtpExporter.Config
import NtpExporter.Ntp.CircuitBreaker
import NtpExporter.Ntp.RateLimiter

/-!
# The collectors' clients

`main` registers the base, quality and security collectors, and the hybrid collector when kernel
monitoring is enabled. Each is made by `NewCommonCollector`, which calls `createNTPClient`, so
each collector queries through a client of its own: its own rate limiter, with its own global
bucket and per-server buckets, and its own circuit breakers. A query through a collector's client
passes its breakers, then its rate limiter, then the exchange, whose outcome is an input.
-/

namespace NtpExporter

/-- What `createNTPClient` builds: a `Client`, with a rate limiter of its own when rate limiting is
enabled with a positive global rate, wrapped in a `CircuitBreakerClient` of its own when circuit
breaking is enabled. The timeout and version only reach the exchange. -/
structure NTPClient where
  /-- `Client.rateLimiter`. -/
  rateLimiter : Option RateLimiter
  /-- The wrapping `CircuitBreakerClient`, if any. -/
  breakers : Option CircuitBreakerClient

/-- `createNTPClient`, with `NewClientWithRateLimit`'s test of the global rate. -/
def createNTPClient (cfg : NTPConfig) : NTPClient where
  rateLimiter :=
    if cfg.rateLimit.enabled ∧ 0 < cfg.rateLimit.globalRate then
      some (RateLimiter.newRateLimiter cfg.rateLimit.globalRate cfg.rateLimit.perServerRate
        cfg.rateLimit.burstSize)
    else none
  breakers :=
    if cfg.circuitBreaker.enabled then
      some (CircuitBreakerClient.newCircuitBreakerClient
        (newCircuitBreakerConfigWithThreshold cfg.circuitBreaker.maxRequests
          cfg.circuitBreaker.interval cfg.circuitBreaker.timeout cfg.circuitBreaker.failureThreshold))
    else none

/-- One `Query` of a collector: the server, the readings of the breaker's calls and of the rate
limiter's two waits, the context of the waits, and the outcome of the exchange as `Query` reports
it. -/
structure Exchange where
  /-- The queried server. -/
  server : String
  /-- The reading at which the server's breaker would be made. -/
  created : Int
  /-- The reading of the breaker's `beforeRequest`. -/
  start : Int
  /-- The reading of the breaker's `afterRequest`. -/
  finish : Int
  /-- The reading at which the global bucket's wait begins. -/
  first : ℚ
  /-- The reading at which the server's bucket's wait begins. -/
  second : ℚ
  /-- The context of the waits. -/
  ctx : Rate.Context
  /-- The exchange's outcome. -/
  outcome : Except String Response

/-- `Client.Query`: the rate limiter's wait, when the client has one, and then the exchange. -/
def clientQuery (rateLimiter : Option RateLimiter) (x : Exchange) :
    Option RateLimiter × Except String Response :=
  match rateLimiter with
  | none => (none, x.outcome)
  | some rl =>
      let waited := rl.wait x.ctx x.server x.first x.second
      match waited.2 with
      | .error err => (some waited.1, .error ("rate limit exceeded: " ++ err))
      | .ok _ => (some waited.1, x.outcome)

namespace NTPClient

/-- `Query` through the client: through its breakers when it has them, and its `Client` below. -/
def query (client : NTPClient) (x : Exchange) : NTPClient × Except String Response :=
  match client.breakers with
  | none =>
      let queried := clientQuery client.rateLimiter x
      ({ client with rateLimiter := queried.1 }, queried.2)
  | some breakers =>
      let queried := breakers.query x.server x.created x.start x.finish client.rateLimiter
        fun rateLimiter => clientQuery rateLimiter x
      (⟨queried.2.1, some queried.1⟩, queried.2.2)

end NTPClient

/-- The collectors `main` registers, in order. -/
def collectorNames (cfg : NTPConfig) : List String :=
  ["base", "quality", "security"] ++ if cfg.enableKernel then ["hybrid"] else []

/-- The collectors' clients: `NewCommonCollector` makes one with `createNTPClient` for each. -/
def registryClients (cfg : NTPConfig) : List NTPClient :=
  (collectorNames cfg).map fun _ => createNTPClient cfg

/-- Queries of the collectors, each through the client of the collector at its index, one after
another: the clients after them and the results. -/
def exchangeAll (clients : List NTPClient) : List (Nat × Exchange) → List NTPClient × List (Except String Response)
  | [] => (clients, [])
  | (index, x) :: rest =>
      match clients[index]? with
      | none => exchangeAll clients rest
      | some client =>
          let queried := client.query x
          let next := exchangeAll (clients.set index queried.1) rest
          (next.1, queried.2 :: next.2)

/-- With circuit breaking disabled and rate limiting enabled at rates of at least a query a second
and a burst of at least one, a collector's new client lets a first query to any server through at
once, to the exchange. -/
theorem query_createNTPClient (cfg : NTPConfig) (unbroken : cfg.circuitBreaker.enabled = false)
    (limited : cfg.rateLimit.enabled = true) (globalAtLeast : 1 ≤ cfg.rateLimit.globalRate)
    (perServerAtLeast : 1 ≤ cfg.rateLimit.perServerRate) (atLeastOne : 1 ≤ cfg.rateLimit.burstSize)
    (x : Exchange) (err : String) (calm : x.ctx = ⟨none, none, err⟩) :
    ((createNTPClient cfg).query x).2 = x.outcome := by
  have granted := RateLimiter.wait_newRateLimiter _ _ _ globalAtLeast perServerAtLeast atLeastOne err
    x.server x.first x.second
  simp [NTPClient.query, createNTPClient, unbroken, limited, clientQuery, calm, granted,
    show 0 < cfg.rateLimit.globalRate by omega]

/-- The registry's collectors do not share breakers: the base, quality and security collectors
each fail once against a server within a second of each other, and the base collector's next
query, ten seconds later, is not rejected but reaches the exchange. -/
theorem exchangeAll_keeps_breakers_apart :
    let cfg : NTPConfig := ⟨["bad.example"], [], 4, 1, 100000000, false, ⟨false, 1, 1, 1⟩,
      ⟨true, 3, 60000000000, 30000000000, 3 / 5⟩, ⟨false, ⟨3, 10, 50000000, 30000000000⟩⟩,
      ⟨false, 5⟩⟩
    let resp : Response := ⟨"bad.example", 0, 0, 2, ⟨0, 0⟩, 0, 0, 0, 0, 0, none, ""⟩
    let failing (reading : Int) : Exchange := ⟨"bad.example", reading, reading,
      reading + 1000000000, 0, 0, ⟨none, none, "context canceled"⟩,
      .error "ntp query to bad.example failed: i/o timeout"⟩
    let answered : Exchange := ⟨"bad.example", 10000000000, 10000000000, 11000000000, 0, 0,
      ⟨none, none, "context canceled"⟩, .ok resp⟩
    (exchangeAll (registryClients cfg) [(0, failing 0), (1, failing 2000000000),
      (2, failing 4000000000), (0, answered)]).2 =
      [.error "ntp query to bad.example failed: i/o timeout",
       .error "ntp query to bad.example failed: i/o timeout",
       .error "ntp query to bad.example failed: i/o timeout", .ok resp] := by
  intro cfg resp failing answered
  rfl

end NtpExporter
