import NtpExporter.Config
import NtpExporter.Config.CommaSeparated

/-!
# Loading the configuration

`LoadFromYamlFile`, `LoadFromYamlWithEnvOverrides` and `LoadFromEnvVarsOnly` of package `config`,
with `ApplyDefaults`, `Validate` and `applyEnvOverrides`. Reading the file and decoding the YAML
into a zero `Config` are the inputs `readFile` and `unmarshal`, and the environment maps each name
to its value, `""` when unset, as `os.Getenv` reports it. `strconv.ParseBool` follows the standard
library; the other parsers of `strconv` and `time` are inputs. A list variable is split by
`parseCommaSeparated`, each entry kept as the text its runes spell. Against the documented
precedence Env > YAML > Defaults, `ApplyDefaults` forces two switches on, and a document that
fails `Validate` on its own is replaced by the defaults.
-/

namespace NtpExporter

/-- `ServerConfig`. -/
structure ServerConfig where
  /-- `Address`. -/
  address : String
  /-- `Port`. -/
  port : Int
  /-- `ReadTimeout`. -/
  readTimeout : Duration
  /-- `WriteTimeout`. -/
  writeTimeout : Duration
  /-- `EnableCORS`. -/
  enableCORS : Bool
  /-- `AllowedOrigins`. -/
  allowedOrigins : List String
  /-- `TLSEnabled`. -/
  tlsEnabled : Bool
  /-- `TLSCertFile`. -/
  tlsCertFile : String
  /-- `TLSKeyFile`. -/
  tlsKeyFile : String

/-- `DNSCacheConfig` of the configuration. -/
structure DNSCacheSettings where
  /-- `Enabled`. -/
  enabled : Bool
  /-- `MinTTL`. -/
  minTTL : Duration
  /-- `MaxTTL`. -/
  maxTTL : Duration
  /-- `CleanupWorkers`. -/
  cleanupWorkers : Int

/-- `NTPConfig` as the loader fills it: the collectors' fields, the query timeout, the bound on
concurrent queries and the DNS cache settings. -/
structure NTPSection extends NTPConfig where
  /-- `Timeout`. -/
  timeout : Duration
  /-- `MaxConcurrency`. -/
  maxConcurrency : Int
  /-- `DNSCache`. -/
  dnsCache : DNSCacheSettings

/-- `LoggingConfig`. -/
structure LoggingConfig where
  /-- `Level`. -/
  level : String
  /-- `Format`. -/
  format : String
  /-- `Output`. -/
  output : String
  /-- `EnableFile`. -/
  enableFile : Bool
  /-- `FilePath`. -/
  filePath : String

/-- `MetricsConfig`, without `Labels`. -/
structure MetricsConfig where
  /-- `Namespace`. -/
  metricsNamespace : String
  /-- `Subsystem`. -/
  subsystem : String

/-- `Config`. -/
structure Config where
  /-- `Server`. -/
  server : ServerConfig
  /-- `NTP`. -/
  ntp : NTPSection
  /-- `Logging`. -/
  logging : LoggingConfig
  /-- `Metrics`. -/
  metrics : MetricsConfig

namespace Config

/-- `&Config{}`: every field at its zero value. -/
def zero : Config where
  server := ⟨"", 0, 0, 0, false, [], false, "", ""⟩
  ntp :=
    { servers := [], pools := [], version := 0, samplesPerServer := 0, maxClockOffset := 0,
      enableKernel := false, rateLimit := ⟨false, 0, 0, 0⟩,
      circuitBreaker := ⟨false, 0, 0, 0, 0⟩, adaptiveSampling := ⟨false, ⟨0, 0, 0, 0⟩⟩,
      workerPool := ⟨false, 0⟩, timeout := 0, maxConcurrency := 0,
      dnsCache := ⟨false, 0, 0, 0⟩ }
  logging := ⟨"", "", "", false, ""⟩
  metrics := ⟨"", ""⟩

/-! ## Defaults -/

/-- `ApplyDefaults`: each zero field takes its default, and the circuit breaker and the DNS cache
are switched on whatever they held. Durations are in nanoseconds. -/
def applyDefaults (cfg : Config) : Config :=
  let s := cfg.server
  let n := cfg.ntp
  { server :=
      { address := if s.address = "" then "0.0.0.0" else s.address
        port := if s.port = 0 then 9559 else s.port
        readTimeout := if s.readTimeout = 0 then 10000000000 else s.readTimeout
        writeTimeout := if s.writeTimeout = 0 then 10000000000 else s.writeTimeout
        enableCORS := s.enableCORS
        allowedOrigins := s.allowedOrigins
        tlsEnabled := s.tlsEnabled
        tlsCertFile := s.tlsCertFile
        tlsKeyFile := s.tlsKeyFile }
    ntp :=
      { servers :=
          if n.servers.length = 0 ∧ n.pools.length = 0 then ["pool.ntp.org", "time.google.com"]
          else n.servers
        pools := n.pools
        timeout := if n.timeout = 0 then 5000000000 else n.timeout
        version := if n.version = 0 then 4 else n.version
        samplesPerServer := if n.samplesPerServer = 0 then 3 else n.samplesPerServer
        maxConcurrency := if n.maxConcurrency = 0 then 10 else n.maxConcurrency
        maxClockOffset := if n.maxClockOffset = 0 then 100000000 else n.maxClockOffset
        enableKernel := n.enableKernel
        rateLimit :=
          { enabled := n.rateLimit.enabled
            globalRate := if n.rateLimit.globalRate = 0 then 1000 else n.rateLimit.globalRate
            perServerRate := if n.rateLimit.perServerRate = 0 then 60 else n.rateLimit.perServerRate
            burstSize := if n.rateLimit.burstSize = 0 then 10 else n.rateLimit.burstSize }
        circuitBreaker :=
          let c := n.circuitBreaker
          { enabled := true
            maxRequests := if c.maxRequests = 0 then 3 else c.maxRequests
            interval := if c.interval = 0 then 60000000000 else c.interval
            timeout := if c.timeout = 0 then 30000000000 else c.timeout
            failureThreshold := if c.failureThreshold = 0 then 3 / 5 else c.failureThreshold }
        adaptiveSampling :=
          { enabled := n.adaptiveSampling.enabled
            sampler :=
              let a := n.adaptiveSampling.sampler
              { defaultSamples := if a.defaultSamples = 0 then 3 else a.defaultSamples
                highDriftSamples := if a.highDriftSamples = 0 then 10 else a.highDriftSamples
                driftThreshold := if a.driftThreshold = 0 then 50000000 else a.driftThreshold
                maxDuration := if a.maxDuration = 0 then 30000000000 else a.maxDuration } }
        workerPool :=
          { enabled := n.workerPool.enabled
            size := if n.workerPool.size = 0 then 5 else n.workerPool.size }
        dnsCache :=
          let d := n.dnsCache
          { enabled := true
            minTTL := if d.minTTL = 0 then 300000000000 else d.minTTL
            maxTTL := if d.maxTTL = 0 then 3600000000000 else d.maxTTL
            cleanupWorkers := if d.cleanupWorkers = 0 then 1 else d.cleanupWorkers } }
    logging :=
      { level := if cfg.logging.level = "" then "info" else cfg.logging.level
        format := if cfg.logging.format = "" then "json" else cfg.logging.format
        output := if cfg.logging.output = "" then "stdout" else cfg.logging.output
        enableFile := cfg.logging.enableFile
        filePath := cfg.logging.filePath }
    metrics :=
      { metricsNamespace := if cfg.metrics.metricsNamespace = "" then "ntp"
          else cfg.metrics.metricsNamespace
        subsystem := cfg.metrics.subsystem } }

/-! ## Validation -/

/-- `validateServer`. -/
def validateServer (s : ServerConfig) : Option String :=
  if s.port < 1 ∨ s.port > 65535 then
    some ("port must be between 1 and 65535, got " ++ toString s.port)
  else if s.readTimeout < 1000000000 ∨ s.readTimeout > 60000000000 then
    some "read_timeout must be between 1s and 60s"
  else if s.writeTimeout < 1000000000 ∨ s.writeTimeout > 60000000000 then
    some "write_timeout must be between 1s and 60s"
  else if s.tlsEnabled then
    if s.tlsCertFile = "" then some "tls_cert_file is required when tls_enabled is true"
    else if s.tlsKeyFile = "" then some "tls_key_file is required when tls_enabled is true"
    else none
  else none

/-- The loop of `validateNTP` over the pools, the first one at index `i`. -/
def validatePools (i : Nat) : List PoolConfig → Option String
  | [] => none
  | pool :: rest =>
      if pool.name = "" then some ("pool[" ++ toString i ++ "]: name is required")
      else if pool.strategy ≠ "" ∧ pool.strategy ≠ "best_n" ∧
          pool.strategy ≠ "round_robin" ∧ pool.strategy ≠ "all" then
        some ("pool[" ++ toString i ++ "]: invalid strategy (must be best_n, round_robin, or all)")
      else if pool.maxServers < 1 ∨ pool.maxServers > 20 then
        some ("pool[" ++ toString i ++ "]: max_servers must be between 1 and 20, got " ++
          toString pool.maxServers)
      else validatePools (i + 1) rest

/-- `validateNTP`. -/
def validateNTP (n : NTPSection) : Option String :=
  if n.servers.length = 0 ∧ n.pools.length = 0 then
    some "at least one NTP server or pool must be configured"
  else if n.timeout < 1000000000 ∨ n.timeout > 60000000000 then
    some "timeout must be between 1s and 60s"
  else if n.version < 2 ∨ n.version > 4 then
    some ("ntp version must be 2, 3, or 4, got " ++ toString n.version)
  else if n.samplesPerServer < 1 ∨ n.samplesPerServer > 20 then
    some ("samples_per_server must be between 1 and 20, got " ++ toString n.samplesPerServer)
  else if n.maxConcurrency < 1 ∨ n.maxConcurrency > 100 then
    some ("max_concurrency must be between 1 and 100, got " ++ toString n.maxConcurrency)
  else
    validatePools 0 n.pools <|>
      if n.rateLimit.enabled then
        if n.rateLimit.globalRate < 1 then some "rate_limit.global_rate must be at least 1"
        else if n.rateLimit.perServerRate < 1 then
          some "rate_limit.per_server_rate must be at least 1"
        else if n.rateLimit.burstSize < 1 then some "rate_limit.burst_size must be at least 1"
        else none
      else none

/-- `validateLogging`. -/
def validateLogging (l : LoggingConfig) : Option String :=
  if l.level ∉ ["trace", "debug", "info", "warn", "error", "fatal", "panic"] then
    some "invalid log level (must be trace, debug, info, warn, error, fatal, or panic)"
  else if l.format ∉ ["json", "console"] then some "invalid log format (must be json or console)"
  else if l.enableFile ∧ l.filePath = "" then
    some "file_path is required when enable_file is true"
  else none

/-- `validateMetrics`. -/
def validateMetrics (m : MetricsConfig) : Option String :=
  if m.metricsNamespace = "" then some "namespace is required" else none

/-- `Validate`: the first section's error, `none` when every section is valid. -/
def validate (cfg : Config) : Option String :=
  validateServer cfg.server <|> validateNTP cfg.ntp <|> validateLogging cfg.logging <|>
    validateMetrics cfg.metrics

/-- `DefaultConfig` passes `Validate`. -/
theorem validate_defaults : validate (applyDefaults zero) = none := by
  decide

/-! ## The environment -/

/-- `strconv.ParseBool`. -/
def parseBool (str : String) : Option Bool :=
  if str ∈ ["1", "t", "T", "TRUE", "true", "True"] then some true
  else if str ∈ ["0", "f", "F", "FALSE", "false", "False"] then some false
  else none

/-- The parsers of `strconv` and `time` other than `ParseBool`, `none` where Go returns an
error. -/
structure Parsers where
  /-- `strconv.Atoi`. -/
  atoi : String → Option Int
  /-- `time.ParseDuration`. -/
  parseDuration : String → Option Duration
  /-- `strconv.ParseUint(s, 10, 32)`, converted by `uint32`. -/
  parseUint32 : String → Option UInt32
  /-- `strconv.ParseFloat(s, 64)`, as the rational the float stands for. -/
  parseFloat : String → Option ℚ

/-- One block of `applyEnvOverrides`: a set variable whose value parses replaces the field. -/
def envOverride {α : Type} (value : String) (parse : String → Option α) (field : α) : α :=
  if value ≠ "" then (parse value).getD field else field

/-- A list variable: `parseCommaSeparated` of the value, each entry kept as the text it spells. -/
def parseList (value : String) : Option (List String) :=
  some ((parseCommaSeparated (Utf8.bytesOf value)).map Utf8.textOf)

/-- `applyEnvOverrides`. `RATE_LIMIT_BACKOFF_DURATION` sets a field left out of the model. -/
def applyEnvOverrides (parsers : Parsers) (env : String → String) (cfg : Config) : Config :=
  let s := cfg.server
  let n := cfg.ntp
  { server :=
      { address := envOverride (env "NTP_EXPORTER_ADDRESS") some s.address
        port := envOverride (env "NTP_EXPORTER_PORT") parsers.atoi s.port
        readTimeout := envOverride (env "SERVER_READ_TIMEOUT") parsers.parseDuration s.readTimeout
        writeTimeout :=
          envOverride (env "SERVER_WRITE_TIMEOUT") parsers.parseDuration s.writeTimeout
        tlsEnabled := envOverride (env "TLS_ENABLED") parseBool s.tlsEnabled
        tlsCertFile := envOverride (env "TLS_CERT_FILE") some s.tlsCertFile
        tlsKeyFile := envOverride (env "TLS_KEY_FILE") some s.tlsKeyFile
        enableCORS := envOverride (env "ENABLE_CORS") parseBool s.enableCORS
        allowedOrigins := envOverride (env "ALLOWED_ORIGINS") parseList s.allowedOrigins }
    ntp :=
      { servers := envOverride (env "NTP_SERVERS") parseList n.servers
        pools := n.pools
        enableKernel := envOverride (env "NTP_ENABLE_KERNEL") parseBool n.enableKernel
        timeout := envOverride (env "NTP_TIMEOUT") parsers.parseDuration n.timeout
        version := envOverride (env "NTP_VERSION") parsers.atoi n.version
        samplesPerServer := envOverride (env "NTP_SAMPLES") parsers.atoi n.samplesPerServer
        maxConcurrency := envOverride (env "NTP_MAX_CONCURRENCY") parsers.atoi n.maxConcurrency
        maxClockOffset := n.maxClockOffset
        rateLimit :=
          { enabled := envOverride (env "RATE_LIMIT_ENABLED") parseBool n.rateLimit.enabled
            globalRate := envOverride (env "RATE_LIMIT_GLOBAL") parsers.atoi n.rateLimit.globalRate
            perServerRate :=
              envOverride (env "RATE_LIMIT_PER_SERVER") parsers.atoi n.rateLimit.perServerRate
            burstSize :=
              envOverride (env "RATE_LIMIT_BURST_SIZE") parsers.atoi n.rateLimit.burstSize }
        circuitBreaker :=
          let c := n.circuitBreaker
          { enabled := envOverride (env "CIRCUIT_BREAKER_ENABLED") parseBool c.enabled
            maxRequests :=
              envOverride (env "CIRCUIT_BREAKER_MAX_REQUESTS") parsers.parseUint32 c.maxRequests
            interval :=
              envOverride (env "CIRCUIT_BREAKER_INTERVAL") parsers.parseDuration c.interval
            timeout := envOverride (env "CIRCUIT_BREAKER_TIMEOUT") parsers.parseDuration c.timeout
            failureThreshold := envOverride (env "CIRCUIT_BREAKER_FAILURE_THRESHOLD")
              parsers.parseFloat c.failureThreshold }
        adaptiveSampling :=
          let a := n.adaptiveSampling.sampler
          { enabled := envOverride (env "ADAPTIVE_SAMPLING_ENABLED") parseBool
              n.adaptiveSampling.enabled
            sampler :=
              { defaultSamples := envOverride (env "ADAPTIVE_SAMPLING_DEFAULT_SAMPLES")
                  parsers.atoi a.defaultSamples
                highDriftSamples := envOverride (env "ADAPTIVE_SAMPLING_HIGH_DRIFT_SAMPLES")
                  parsers.atoi a.highDriftSamples
                driftThreshold := envOverride (env "ADAPTIVE_SAMPLING_DRIFT_THRESHOLD")
                  parsers.parseDuration a.driftThreshold
                maxDuration := envOverride (env "ADAPTIVE_SAMPLING_MAX_DURATION")
                  parsers.parseDuration a.maxDuration } }
        workerPool :=
          { enabled := envOverride (env "WORKER_POOL_ENABLED") parseBool n.workerPool.enabled
            size := envOverride (env "WORKER_POOL_SIZE") parsers.atoi n.workerPool.size }
        dnsCache :=
          { enabled := envOverride (env "DNS_CACHE_ENABLED") parseBool n.dnsCache.enabled
            minTTL := envOverride (env "DNS_CACHE_MIN_TTL") parsers.parseDuration n.dnsCache.minTTL
            maxTTL := envOverride (env "DNS_CACHE_MAX_TTL") parsers.parseDuration n.dnsCache.maxTTL
            cleanupWorkers := envOverride (env "DNS_CACHE_CLEANUP_WORKERS") parsers.atoi
              n.dnsCache.cleanupWorkers } }
    logging :=
      { cfg.logging with
        level := envOverride (env "LOG_LEVEL") some cfg.logging.level
        enableFile := envOverride (env "LOG_ENABLE_FILE") parseBool cfg.logging.enableFile
        filePath := envOverride (env "LOG_FILE_PATH") some cfg.logging.filePath }
    metrics :=
      { metricsNamespace := envOverride (env "METRICS_NAMESPACE") some cfg.metrics.metricsNamespace
        subsystem := envOverride (env "METRICS_SUBSYSTEM") some cfg.metrics.subsystem } }

@[simp]
theorem envOverride_unset {α : Type} (parse : String → Option α) (field : α) :
    envOverride "" parse field = field :=
  if_neg (not_not.mpr rfl)

/-- With no variable set, `applyEnvOverrides` changes nothing. -/
theorem applyEnvOverrides_unset (parsers : Parsers) (cfg : Config) :
    applyEnvOverrides parsers (fun _ => "") cfg = cfg := by
  simp [applyEnvOverrides]

/-! ## Loading -/

/-- `LoadFromYamlFile`: the document decoded into a zero `Config`, with the defaults applied,
when it passes `Validate`. -/
def loadFromYamlFile (readFile : String → Except String (List UInt8))
    (unmarshal : List UInt8 → Except String Config) (path : String) : Except String Config :=
  match readFile path with
  | .error err => .error ("failed to read config file " ++ path ++ ": " ++ err)
  | .ok data =>
      match unmarshal data with
      | .error err => .error ("failed to parse YAML config file " ++ path ++ ": " ++ err)
      | .ok cfg =>
          match validate (applyDefaults cfg) with
          | some err => .error ("configuration validation failed for " ++ path ++ ": " ++ err)
          | none => .ok (applyDefaults cfg)

/-- The first step of `LoadFromYamlWithEnvOverrides`: the file's configuration, or the defaults
when it does not load. -/
def startingConfig (readFile : String → Except String (List UInt8))
    (unmarshal : List UInt8 → Except String Config) (path : String) : Config :=
  match loadFromYamlFile readFile unmarshal path with
  | .ok cfg => cfg
  | .error _ => applyDefaults zero

/-- `LoadFromYamlWithEnvOverrides`. -/
def loadFromYamlWithEnvOverrides (parsers : Parsers) (env : String → String)
    (readFile : String → Except String (List UInt8))
    (unmarshal : List UInt8 → Except String Config) (path : String) : Except String Config :=
  let cfg := applyEnvOverrides parsers env (startingConfig readFile unmarshal path)
  match validate cfg with
  | some err => .error ("configuration validation failed: " ++ err)
  | none => .ok cfg

/-- `LoadFromEnvVarsOnly`. -/
def loadFromEnvVarsOnly (parsers : Parsers) (env : String → String) : Except String Config :=
  let cfg := applyEnvOverrides parsers env (applyDefaults zero)
  match validate cfg with
  | some err => .error ("environment configuration validation failed: " ++ err)
  | none => .ok cfg

/-- A document that reads, decodes and validates is the starting point; anything else leaves
the defaults. -/
theorem startingConfig_eq (readFile : String → Except String (List UInt8))
    (unmarshal : List UInt8 → Except String Config) (path : String) :
    (∃ data doc, readFile path = .ok data ∧ unmarshal data = .ok doc ∧
        validate (applyDefaults doc) = none ∧
        startingConfig readFile unmarshal path = applyDefaults doc) ∨
      ((∀ data doc, readFile path = .ok data → unmarshal data = .ok doc →
          validate (applyDefaults doc) ≠ none) ∧
        startingConfig readFile unmarshal path = applyDefaults zero) := by
  unfold startingConfig loadFromYamlFile
  rcases reading : readFile path with err | data
  · exact .inr ⟨fun _ _ read => (nomatch read), rfl⟩
  dsimp only
  rcases decoding : unmarshal data with err | doc
  · refine .inr ⟨fun _ _ read decoded => ?_, rfl⟩
    cases read
    rw [decoding] at decoded
    cases decoded
  dsimp only
  rcases checking : validate (applyDefaults doc) with _ | err
  · exact .inl ⟨data, doc, rfl, decoding, checking, rfl⟩
  · refine .inr ⟨fun _ _ read decoded => ?_, rfl⟩
    cases read
    rw [decoding] at decoded
    cases decoded
    rw [checking]
    exact Option.some_ne_none err

/-- What `LoadFromYamlWithEnvOverrides` returns is the starting configuration overridden by the
environment, and it passes `Validate`. -/
theorem loadFromYamlWithEnvOverrides_ok {parsers : Parsers} {env : String → String}
    {readFile : String → Except String (List UInt8)}
    {unmarshal : List UInt8 → Except String Config} {path : String} {cfg : Config}
    (loaded : loadFromYamlWithEnvOverrides parsers env readFile unmarshal path = .ok cfg) :
    cfg = applyEnvOverrides parsers env (startingConfig readFile unmarshal path) ∧
      validate cfg = none := by
  dsimp only [loadFromYamlWithEnvOverrides] at loaded
  split at loaded
  · cases loaded
  · cases loaded
    exact ⟨rfl, ‹_›⟩

/-! ## The switches -/

/-- The six boolean switches of the `ntp` section. -/
structure Switches where
  /-- `ntp.enable_kernel`. -/
  enableKernel : Bool
  /-- `ntp.rate_limit.enabled`. -/
  rateLimit : Bool
  /-- `ntp.circuit_breaker.enabled`. -/
  circuitBreaker : Bool
  /-- `ntp.adaptive_sampling.enabled`. -/
  adaptiveSampling : Bool
  /-- `ntp.worker_pool.enabled`. -/
  workerPool : Bool
  /-- `ntp.dns_cache.enabled`. -/
  dnsCache : Bool
  deriving DecidableEq

/-- The switches of a configuration. -/
def switches (cfg : Config) : Switches :=
  ⟨cfg.ntp.enableKernel, cfg.ntp.rateLimit.enabled, cfg.ntp.circuitBreaker.enabled,
    cfg.ntp.adaptiveSampling.enabled, cfg.ntp.workerPool.enabled, cfg.ntp.dnsCache.enabled⟩

/-- The switches after `applyEnvOverrides`: each one's variable, when set to a boolean. -/
def Switches.overriddenBy (sw : Switches) (env : String → String) : Switches :=
  ⟨envOverride (env "NTP_ENABLE_KERNEL") parseBool sw.enableKernel,
    envOverride (env "RATE_LIMIT_ENABLED") parseBool sw.rateLimit,
    envOverride (env "CIRCUIT_BREAKER_ENABLED") parseBool sw.circuitBreaker,
    envOverride (env "ADAPTIVE_SAMPLING_ENABLED") parseBool sw.adaptiveSampling,
    envOverride (env "WORKER_POOL_ENABLED") parseBool sw.workerPool,
    envOverride (env "DNS_CACHE_ENABLED") parseBool sw.dnsCache⟩

/-- The precedence the package documents for one switch: the variable's value when it is set and
a boolean, else the document's value when it has the key, else the default. -/
def documentedPrecedence (envValue : String) (yamlValue : Option Bool) (default : Bool) : Bool :=
  (parseBool envValue).getD (yamlValue.getD default)

@[simp]
theorem switches_applyEnvOverrides (parsers : Parsers) (env : String → String) (cfg : Config) :
    (applyEnvOverrides parsers env cfg).switches = cfg.switches.overriddenBy env :=
  rfl

@[simp]
theorem switches_applyDefaults (cfg : Config) :
    (applyDefaults cfg).switches = { cfg.switches with circuitBreaker := true, dnsCache := true } :=
  rfl

/-- For every document and environment, the switches `LoadFromYamlWithEnvOverrides` returns
are the variables' booleans over the switches of the document when it loads and validates on
its own, and over the defaults otherwise; `ApplyDefaults` sets the circuit breaker and the DNS
cache to `true` whatever the document holds. A document with both set to `false`, and one with
`enable_kernel: true` and an invalid log level repaired by `LOG_LEVEL`, lose their values. -/
theorem loadFromYamlWithEnvOverrides_switches :
    (∀ parsers env readFile unmarshal path cfg,
      loadFromYamlWithEnvOverrides parsers env readFile unmarshal path = .ok cfg →
        cfg.switches = (startingConfig readFile unmarshal path).switches.overriddenBy env) ∧
    (∀ readFile unmarshal path,
      (∃ data doc, readFile path = .ok data ∧ unmarshal data = .ok doc ∧
          validate (applyDefaults doc) = none ∧
          (startingConfig readFile unmarshal path).switches =
            { doc.switches with circuitBreaker := true, dnsCache := true }) ∨
        ((∀ data doc, readFile path = .ok data → unmarshal data = .ok doc →
            validate (applyDefaults doc) ≠ none) ∧
          (startingConfig readFile unmarshal path).switches =
            ⟨false, false, true, false, false, true⟩)) ∧
    (∀ parsers (data : List UInt8),
      (loadFromYamlWithEnvOverrides parsers (fun _ => "") (fun _ => .ok data) (fun _ => .ok zero)
          "config.yaml").map switches = .ok ⟨false, false, true, false, false, true⟩ ∧
        documentedPrecedence "" (some false) true = false) ∧
    (∀ parsers (data : List UInt8),
      (loadFromYamlWithEnvOverrides parsers (fun name => if name = "LOG_LEVEL" then "info" else "")
          (fun _ => .ok data)
          (fun _ => .ok { zero with
            ntp := { zero.ntp with enableKernel := true }
            logging := { zero.logging with level := "verbose" } })
          "config.yaml").map switches = .ok ⟨false, false, true, false, false, true⟩ ∧
        documentedPrecedence "" (some true) false = true) := by
  refine ⟨fun _ _ _ _ _ _ loaded => ?_, fun readFile unmarshal path => ?_, fun parsers _ => ?_,
    fun parsers _ => ?_⟩
  · rw [(loadFromYamlWithEnvOverrides_ok loaded).1, switches_applyEnvOverrides]
  · rcases startingConfig_eq readFile unmarshal path with
      ⟨data, doc, read, decoded, valid, start⟩ | ⟨invalid, start⟩
    · exact .inl ⟨data, doc, read, decoded, valid, by rw [start, switches_applyDefaults]⟩
    · exact .inr ⟨invalid, by rw [start]; rfl⟩
  · refine ⟨?_, rfl⟩
    simp only [loadFromYamlWithEnvOverrides, startingConfig, loadFromYamlFile, validate_defaults,
      applyEnvOverrides_unset]
    rfl
  · refine ⟨?_, rfl⟩
    rfl

end Config

end NtpExporter
