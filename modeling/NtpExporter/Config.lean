import NtpExporter.Ntp.Adaptive

/-!
# The configuration the collectors read

The `ntp` section of `config.Config` as the collectors consume it. Only the fields some modelled
function reads are kept: the query timeout goes to the wire exchange, the DNS-cache section is
read by nothing but the loader, and the server, logging and metrics sections belong to the
process around the collectors.
-/

namespace NtpExporter

/-- `PoolConfig`. -/
structure PoolConfig where
  /-- `Name`: the pool's DNS name. -/
  name : String
  /-- `Strategy`: `best_n`, `round_robin` or `all`. -/
  strategy : String
  /-- `MaxServers`. -/
  maxServers : Int
  /-- `Fallback`: a server used when the name does not resolve, empty for none. -/
  fallback : String

/-- `RateLimitConfig`, without the unused `BackoffDuration`. -/
structure RateLimitConfig where
  /-- `Enabled`. -/
  enabled : Bool
  /-- `GlobalRate`: queries per second over all servers. -/
  globalRate : Int
  /-- `PerServerRate`: queries per second to one server. -/
  perServerRate : Int
  /-- `BurstSize`. -/
  burstSize : Int

/-- `CircuitBreakerConfig` of the configuration. -/
structure CircuitBreakerConfig where
  /-- `Enabled`. -/
  enabled : Bool
  /-- `MaxRequests`: the probes let through when half-open. -/
  maxRequests : UInt32
  /-- `Interval`: the period after which the closed state's counts are cleared. -/
  interval : Duration
  /-- `Timeout`: the time the breaker stays open. -/
  timeout : Duration
  /-- `FailureThreshold`: the failure ratio that opens the breaker. -/
  failureThreshold : ℚ

/-- `AdaptiveSamplingConfig` of the configuration. -/
structure AdaptiveSamplingSettings where
  /-- `Enabled`. -/
  enabled : Bool
  /-- The sampler's settings. -/
  sampler : AdaptiveSamplingConfig

/-- `WorkerPoolConfig`. -/
structure WorkerPoolConfig where
  /-- `Enabled`. -/
  enabled : Bool
  /-- `Size`. -/
  size : Int

/-- `NTPConfig`: the `ntp` section. -/
structure NTPConfig where
  /-- `Servers`. -/
  servers : List String
  /-- `Pools`. -/
  pools : List PoolConfig
  /-- `Version`: the protocol version, also a label of the offset series. -/
  version : Int
  /-- `SamplesPerServer`. -/
  samplesPerServer : Int
  /-- `MaxClockOffset`. -/
  maxClockOffset : Duration
  /-- `EnableKernel`. -/
  enableKernel : Bool
  /-- `RateLimit`. -/
  rateLimit : RateLimitConfig
  /-- `CircuitBreaker`. -/
  circuitBreaker : CircuitBreakerConfig
  /-- `AdaptiveSampling`. -/
  adaptiveSampling : AdaptiveSamplingSettings
  /-- `WorkerPool`. -/
  workerPool : WorkerPoolConfig

end NtpExporter
