import NtpExporter.Server.Mux

/-!
# The HTTP middleware

`Middleware.Apply`: the handler wrapped, from the inside out, by the recovery, the metrics and the
logging middleware, and outermost, when `EnableCORS` is set, by the CORS middleware, which answers
every `OPTIONS` request itself. Over a run of requests through `Start`'s server, each request that
neither the server nor the CORS middleware answers alone is logged once, panic or not, when the
logger's level admits `Info`, and has the GC pause at its arrival observed once; and an answer
carries the CORS origin header exactly when CORS is enabled and the origin is allowed.
-/

namespace NtpExporter

namespace Server

open Exchange

/-- The fields of `runtime.MemStats` that the metrics middleware reads. -/
structure MemStats where
  /-- `Alloc`. -/
  alloc : Nat
  /-- `TotalAlloc`. -/
  totalAlloc : Nat
  /-- `HeapInuse`. -/
  heapInuse : Nat
  /-- `StackInuse`. -/
  stackInuse : Nat
  /-- `NumGC`: the collections so far. -/
  numGC : UInt32
  /-- `PauseNs`: the pauses of the latest collections, in a circular buffer. -/
  pauseNs : Fin 256 → Nat

/-- What the metrics middleware reads of the runtime at a request. -/
structure Readings where
  /-- `runtime.ReadMemStats`. -/
  stats : MemStats
  /-- `runtime.NumGoroutine()`. -/
  goroutines : Nat

/-- The pause of the latest collection, `PauseNs[(NumGC+255)%256]`, in seconds. -/
def MemStats.latestPause (stats : MemStats) : ℚ :=
  (stats.pauseNs (Fin.ofNat ((stats.numGC + 255) % 256).toNat) : ℚ) / 1000000000

/-- `isAllowedOrigin`: some entry equals the origin, or is `*.domain` with the origin ending in a
dot and the domain, or equal to `https://domain`; never when the list is empty. -/
def isAllowedOrigin (allowedOrigins : List String) (origin : String) : Bool :=
  if allowedOrigins.length = 0 then false
  else allowedOrigins.any fun allowed =>
    allowed == origin ||
      ("*.".toList.isPrefixOf allowed.toList &&
        (('.' :: allowed.toList.drop 2).isSuffixOf origin.toList ||
          origin.toList == "https://".toList ++ allowed.toList.drop 2))

/-- The headers and the warning of `corsMiddleware`: the CORS headers for an allowed origin, and a
warning for any other non-empty one, under the logger's level `level`. -/
def corsHeaders (level : Int) (allowedOrigins : List String) (r : Request) (x : Exchange) :
    Exchange :=
  if isAllowedOrigin allowedOrigins r.origin then
    x.setHeader "Access-Control-Allow-Origin" r.origin
      |>.setHeader "Access-Control-Allow-Methods" "GET, OPTIONS"
      |>.setHeader "Access-Control-Allow-Headers" "Content-Type"
      |>.setHeader "Access-Control-Max-Age" "3600"
  else if r.origin ≠ "" then x.logAt level warnLevel (.corsBlocked r.origin r.path)
  else x

/-- `corsMiddleware`: the CORS headers and warning, and then an `OPTIONS` request answered with
status 200, any other passed on. -/
def corsMiddleware (level : Int) (allowedOrigins : List String) (next : Handler) : Handler :=
  fun r x =>
    let x := corsHeaders level allowedOrigins r x
    if r.method = "OPTIONS" then (x.writeHeader statusOK, none) else next r x

/-- `loggingMiddleware`: the next handler run through a fresh wrapper of the writer, and the
access-log line, an `Info` event, with the wrapper's status: the last code passed to `WriteHeader`
through it, 200 when there was none. A panic goes up unlogged. -/
def loggingMiddleware (level : Int) (next : Handler) : Handler := fun r x =>
  match next r { x with codes := [] } with
  | (y, some panic) => ({ y with codes := x.codes ++ y.codes }, some panic)
  | (y, none) =>
      (({ y with codes := x.codes ++ y.codes } : Exchange).logAt level infoLevel
        (.http r.method r.path (y.codes.getLast?.getD 200) r.remoteAddr), none)

/-- The runtime metrics after the metrics middleware's writes: the process gauges set from the
readings, and the pause of the latest collection observed once there has been one. -/
def Readings.record (readings : Readings) (m : RuntimeMetrics) : RuntimeMetrics :=
  let stats := readings.stats
  let m := { m with
    exporterMemoryUsageBytes := stats.alloc
    exporterGoroutinesCount := readings.goroutines
    memoryAllocatedBytes := stats.totalAlloc
    memoryHeapBytes := stats.heapInuse
    memoryStackBytes := stats.stackInuse }
  if 0 < stats.numGC then { m with gcDurationSeconds := m.gcDurationSeconds ++ [stats.latestPause] }
  else m

/-- `metricsMiddleware`: the runtime metrics written, and the next handler run. -/
def metricsMiddleware (readings : Readings) (next : Handler) : Handler := fun r x =>
  next r { x with runtime := readings.record x.runtime }

/-- The body `recoveryMiddleware` writes after a panic. -/
def internalServerError : String := "\x7b\"error\":\"internal server error\"\x7d"

/-- `recoveryMiddleware`: the next handler run, and a panic of it logged as an `Error` event and
answered with status 500 and a JSON error. -/
def recoveryMiddleware (level : Int) (next : Handler) : Handler := fun r x =>
  match next r x with
  | (y, none) => (y, none)
  | (y, some panic) =>
      let y := y.logAt level errorLevel (.panicRecovered panic r.method r.path)
      ((y.writeHeader statusInternalServerError).write internalServerError, none)

/-- `Apply`: recovery, metrics and logging around the handler, and CORS outermost when enabled;
`level` is the logger's level, which `InitLogger` sets before the server starts. -/
def apply (level : Int) (server : ServerConfig) (readings : Readings) (next : Handler) : Handler :=
  let handler :=
    loggingMiddleware level (metricsMiddleware readings (recoveryMiddleware level next))
  if server.enableCORS then corsMiddleware level server.allowedOrigins handler else handler

/-- Requests served one after another by `Start`'s server, each with a writer of its own and the
runtime's readings at its arrival, the logger at the level `parseLevel` gives for
`logging.level`: the log and the runtime metrics after them. -/
def serveAll (cfg : Config) (durationString : Duration → String) (metricsHandler : Handler) :
    List LogEntry × RuntimeMetrics → List (Readings × Request) →
      List LogEntry × RuntimeMetrics
  | state, [] => state
  | (log, runtime), (readings, r) :: rest =>
      let y := (serverHandler (apply (parseLevel cfg.logging.level) cfg.server readings
        (mux cfg durationString metricsHandler)) r (Exchange.fresh log runtime)).1
      serveAll cfg durationString metricsHandler (y.log, y.runtime) rest

/-- The request is a CORS preflight, which the CORS middleware answers itself. -/
def Preflight (server : ServerConfig) (r : Request) : Prop :=
  server.enableCORS = true ∧ r.method = "OPTIONS"

instance (server : ServerConfig) (r : Request) : Decidable (Preflight server r) :=
  inferInstanceAs (Decidable (_ ∧ _))

/-! ## What each middleware does -/

variable {level : Int} {server : ServerConfig} {readings : Readings} {next : Handler} {r : Request}
  {x : Exchange}

@[simp] theorem codes_corsHeaders (allowedOrigins : List String) :
    (corsHeaders level allowedOrigins r x).codes = x.codes := by
  unfold corsHeaders; split_ifs <;> simp

@[simp] theorem runtime_corsHeaders (allowedOrigins : List String) :
    (corsHeaders level allowedOrigins r x).runtime = x.runtime := by
  unfold corsHeaders; split_ifs <;> simp

@[simp] theorem written_status_corsHeaders (allowedOrigins : List String) :
    (corsHeaders level allowedOrigins r x).written.status = x.written.status := by
  unfold corsHeaders; split_ifs <;> simp

@[simp] theorem written_body_corsHeaders (allowedOrigins : List String) :
    (corsHeaders level allowedOrigins r x).written.body = x.written.body := by
  unfold corsHeaders; split_ifs <;> simp

/-- The CORS middleware adds no access-log line. -/
@[simp] theorem log_filter_corsHeaders (allowedOrigins : List String) :
    (corsHeaders level allowedOrigins r x).log.filter LogEntry.isHttp =
      x.log.filter LogEntry.isHttp := by
  unfold corsHeaders; split_ifs <;> simp [LogEntry.isHttp]

/-- The logging middleware around a handler that does not panic: the handler run with a fresh
status wrapper, and the access-log line last, with the last code passed to `WriteHeader` inside. -/
theorem loggingMiddleware_of_none (calm : (next r { x with codes := [] }).2 = none) :
    let y := (next r { x with codes := [] }).1
    loggingMiddleware level next r x =
      (({ y with codes := x.codes ++ y.codes } : Exchange).logAt level infoLevel
        (.http r.method r.path (y.codes.getLast?.getD 200) r.remoteAddr), none) := by
  simp only [loggingMiddleware]
  rcases answer : next r { x with codes := [] } with ⟨y, _ | panic⟩
  · rfl
  · simp [answer] at calm

/-- The recovery middleware never panics. -/
@[simp] theorem recoveryMiddleware_snd : (recoveryMiddleware level next r x).2 = none := by
  simp only [recoveryMiddleware]
  split <;> rfl

/-- `Apply`'s chain inside the CORS middleware: `next` run under recovery with the runtime metrics
written and a fresh status wrapper, and the request logged last. -/
theorem chain_eq (level : Int) (readings : Readings) (next : Handler) (r : Request) (x : Exchange) :
    let y := (recoveryMiddleware level next r
      { x with codes := [], runtime := readings.record x.runtime }).1
    loggingMiddleware level (metricsMiddleware readings (recoveryMiddleware level next)) r x =
      (({ y with codes := x.codes ++ y.codes } : Exchange).logAt level infoLevel
        (.http r.method r.path (y.codes.getLast?.getD 200) r.remoteAddr), none) :=
  loggingMiddleware_of_none recoveryMiddleware_snd

theorem apply_of_preflight (preflight : Preflight server r) :
    apply level server readings next r x =
      ((corsHeaders level server.allowedOrigins r x).writeHeader statusOK, none) := by
  obtain ⟨enabled, options⟩ := preflight
  simp only [apply, enabled, if_true, corsMiddleware, options]

theorem apply_of_not_preflight (served : ¬Preflight server r) :
    apply level server readings next r x =
      loggingMiddleware level (metricsMiddleware readings (recoveryMiddleware level next)) r
        (if server.enableCORS then corsHeaders level server.allowedOrigins r x else x) := by
  unfold apply
  by_cases enabled : server.enableCORS = true
  · have options : r.method ≠ "OPTIONS" := fun options => served ⟨enabled, options⟩
    simp only [enabled, if_true, corsMiddleware, options, if_false]
  · simp only [Bool.not_eq_true] at enabled
    simp only [enabled, Bool.false_eq_true, if_false]

/-- What the CORS middleware leaves of an exchange before passing it on. -/
theorem prepared_eq (level : Int) (server : ServerConfig) (r : Request) (x x' : Exchange)
    (prepared : x' = if server.enableCORS then
      corsHeaders level server.allowedOrigins r x else x) :
    x'.codes = x.codes ∧ x'.runtime = x.runtime ∧ x'.written.status = x.written.status ∧
      x'.written.body = x.written.body ∧
      x'.log.filter LogEntry.isHttp = x.log.filter LogEntry.isHttp := by
  subst prepared
  split <;> simp

/-! ## Preflights and access-log lines -/

/-- At a level that admits `Info` events, every request that is not a CORS preflight comes out of
`Apply`'s chain without a panic, whatever its handler does, and with the request's access-log line
last in the log, carrying the last code passed to `WriteHeader` during the request, or 200 when
there was none. -/
theorem apply_logs_request (served : ¬Preflight server r) (verbose : level ≤ infoLevel) :
    (apply level server readings next r x).2 = none ∧
      (apply level server readings next r x).1.log.getLast? = some (.http r.method r.path
        (((apply level server readings next r x).1.codes.drop x.codes.length).getLast?.getD 200)
        r.remoteAddr) := by
  rw [apply_of_not_preflight served, chain_eq]
  obtain ⟨codes, -⟩ := prepared_eq level server r x _ rfl
  exact ⟨rfl, by simp only [logAt, if_pos verbose, codes, List.drop_left, List.getLast?_append,
    List.getLast?_singleton, Option.or_some]⟩

theorem apply_logs_request_panicking :
    let server := Config.zero.server
    let readings : Readings := ⟨⟨0, 0, 0, 0, 0, fun _ => 0⟩, 8⟩
    let next : Handler := fun _ y => (y, some "runtime error")
    let r : Request := ⟨"GET", "/health", "", "192.0.2.7:51000"⟩
    let x := Exchange.fresh [] ⟨0, 0, 0, 0, 0, []⟩
    (¬Preflight server r ∧ debugLevel ≤ infoLevel) ∧
      ((apply debugLevel server readings next r x).2 = none ∧
        (apply debugLevel server readings next r x).1.log.getLast? = some (.http r.method r.path
          (((apply debugLevel server readings next r x).1.codes.drop x.codes.length).getLast?.getD
            200) r.remoteAddr)) :=
  ⟨⟨by decide, by decide⟩, apply_logs_request (by decide) (by decide)⟩

section Routes

variable {cfg : Config} {durationString : Duration → String} {metricsHandler : Handler}

theorem recoveryMiddleware_of_none (calm : (next r x).2 = none) :
    recoveryMiddleware level next r x = next r x := by
  simp only [recoveryMiddleware]
  rcases answer : next r x with ⟨y, _ | panic⟩
  · rfl
  · simp [answer] at calm

/-- At a level that admits `Info` events, away from `/metrics`, every request that is not a CORS
preflight has the status the client receives in its access-log line, which is the last line of the
log. -/
theorem apply_mux_logs_sent_status (served : ¬Preflight cfg.server r) (verbose : level ≤ infoLevel)
    (notMetrics : r.path ≠ "/metrics") (log : List LogEntry) (runtime : RuntimeMetrics) :
    let y := (apply level cfg.server readings (mux cfg durationString metricsHandler) r
      (Exchange.fresh log runtime)).1
    y.log.getLast? =
      y.written.status.map fun status => .http r.method r.path status r.remoteAddr := by
  rw [apply_of_not_preflight served, chain_eq]
  obtain ⟨-, -, status, -⟩ := prepared_eq level cfg.server r (Exchange.fresh log runtime) _ rfl
  generalize (if cfg.server.enableCORS then corsHeaders level cfg.server.allowedOrigins r
    (Exchange.fresh log runtime) else Exchange.fresh log runtime) = x' at *
  obtain ⟨calm, codes, sent⟩ := mux_answers cfg durationString metricsHandler notMetrics
    (show ({ x' with codes := [], runtime := readings.record x'.runtime } : Exchange).written.status
      = none from status)
  simp [recoveryMiddleware_of_none calm, codes, sent, logAt, verbose]

theorem apply_mux_logs_sent_status_not_found :
    let cfg := Config.zero
    let readings : Readings := ⟨⟨0, 0, 0, 0, 0, fun _ => 0⟩, 8⟩
    let r : Request := ⟨"GET", "/favicon.ico", "", "192.0.2.7:51000"⟩
    let metricsHandler : Handler := fun _ y => (y.write "# HELP", none)
    (¬Preflight cfg.server r ∧ infoLevel ≤ infoLevel ∧ r.path ≠ "/metrics") ∧
      let y := (apply infoLevel cfg.server readings (mux cfg (fun _ => "5s") metricsHandler) r
        (Exchange.fresh [] ⟨0, 0, 0, 0, 0, []⟩)).1
      y.log.getLast? = y.written.status.map fun status =>
        .http r.method r.path status r.remoteAddr :=
  ⟨⟨by decide, le_rfl, by decide⟩, apply_mux_logs_sent_status (by decide) le_rfl (by decide) _ _⟩

@[simp] theorem gcDurationSeconds_record (readings : Readings) (m : RuntimeMetrics) :
    (readings.record m).gcDurationSeconds = m.gcDurationSeconds ++
      if 0 < readings.stats.numGC then [readings.stats.latestPause] else [] := by
  by_cases gc : 0 < readings.stats.numGC <;> simp [Readings.record, gc]

theorem runtime_recoveryMiddleware (frame : ∀ x, (next r x).1.runtime = x.runtime) :
    (recoveryMiddleware level next r x).1.runtime = x.runtime := by
  simp only [recoveryMiddleware]
  rcases answer : next r x with ⟨y, _ | panic⟩ <;> simp [← frame x, answer]

/-- The recovery middleware adds no access-log line: its own line is an error. -/
theorem log_filter_recoveryMiddleware
    (frame : (next r x).1.log.filter LogEntry.isHttp = x.log.filter LogEntry.isHttp) :
    (recoveryMiddleware level next r x).1.log.filter LogEntry.isHttp =
      x.log.filter LogEntry.isHttp := by
  simp only [recoveryMiddleware]
  rcases answer : next r x with ⟨y, _ | panic⟩ <;> simp [← frame, answer, LogEntry.isHttp]

/-- The runtime metrics after one request through `Start`'s handler: untouched by a preflight, and
otherwise written by the metrics middleware alone, when the Prometheus handler leaves them be. -/
theorem runtime_apply_mux (frame : ∀ r x, (metricsHandler r x).1.runtime = x.runtime) :
    (apply level cfg.server readings (mux cfg durationString metricsHandler) r x).1.runtime =
      if Preflight cfg.server r then x.runtime else readings.record x.runtime := by
  by_cases preflight : Preflight cfg.server r
  · simp [apply_of_preflight preflight, preflight]
  · rw [apply_of_not_preflight preflight, chain_eq, if_neg preflight]
    obtain ⟨-, runtime, -⟩ := prepared_eq level cfg.server r x _ rfl
    simp [runtime_recoveryMiddleware fun x => runtime_mux frame, runtime]

/-- One request through `Start`'s handler, when the Prometheus handler writes no access-log line:
no line for a preflight or at a level above `Info`, and otherwise one line, with the request's
method, path and remote address, and away from `/metrics` the status of its route. -/
theorem access_apply_mux (quiet : ∀ r x,
      (metricsHandler r x).1.log.filter LogEntry.isHttp = x.log.filter LogEntry.isHttp)
    (level : Int) (readings : Readings) (r : Request) (log : List LogEntry)
    (runtime : RuntimeMetrics) :
    ∃ status, (apply level cfg.server readings (mux cfg durationString metricsHandler) r
        (Exchange.fresh log runtime)).1.log.filter LogEntry.isHttp =
        log.filter LogEntry.isHttp ++ (if ¬Preflight cfg.server r ∧ level ≤ infoLevel then
          [.http r.method r.path status r.remoteAddr] else []) ∧
      (r.path ≠ "/metrics" → status = routeStatus r) := by
  by_cases preflight : Preflight cfg.server r
  · exact ⟨_, by simp [apply_of_preflight preflight, preflight, Exchange.fresh], fun _ => rfl⟩
  simp only [apply_of_not_preflight preflight, chain_eq, preflight, not_false_eq_true, true_and]
  obtain ⟨-, -, status, -, logged⟩ :=
    prepared_eq level cfg.server r (Exchange.fresh log runtime) _ rfl
  generalize (if cfg.server.enableCORS then corsHeaders level cfg.server.allowedOrigins r
    (Exchange.fresh log runtime) else Exchange.fresh log runtime) = x' at *
  let z : Exchange := { x' with codes := [], runtime := readings.record x'.runtime }
  let y := (recoveryMiddleware level (mux cfg durationString metricsHandler) r z).1
  refine ⟨y.codes.getLast?.getD 200, ?_, fun notMetrics => ?_⟩
  · by_cases verbose : level ≤ infoLevel <;>
      simp [y, z, log_filter_recoveryMiddleware (log_filter_mux quiet), logged, LogEntry.isHttp,
        Exchange.fresh, verbose]
  · obtain ⟨calm, codes, -⟩ := mux_answers cfg durationString metricsHandler notMetrics
      (show z.written.status = none from status)
    simp [y, recoveryMiddleware_of_none calm, codes]

/-! ## The CORS origin header -/

theorem allowsOrigin_recoveryMiddleware {value : Option String}
    (frame : AllowsOrigin value (next r x).1) :
    AllowsOrigin value (recoveryMiddleware level next r x).1 := by
  simp only [recoveryMiddleware]
  rcases answer : next r x with ⟨y, _ | panic⟩ <;> rw [answer] at frame <;> dsimp only at frame ⊢
  · exact frame
  · refine (AllowsOrigin.writeHeader ?_ _).write _
    exact frame.of_written (by simp)

/-- The chain inside the CORS middleware neither sets the CORS origin header nor sends another
header map, when the Prometheus handler does neither. -/
theorem allowsOrigin_chain {value : Option String}
    (quiet : ∀ r x, AllowsOrigin value x → AllowsOrigin value (metricsHandler r x).1)
    (origin : AllowsOrigin value x) :
    AllowsOrigin value (loggingMiddleware level (metricsMiddleware readings
      (recoveryMiddleware level (mux cfg durationString metricsHandler))) r x).1 := by
  rw [chain_eq]
  have inner : AllowsOrigin value { x with codes := [], runtime := readings.record x.runtime } :=
    origin.of_written rfl
  exact (allowsOrigin_recoveryMiddleware (allowsOrigin_mux quiet inner)).of_written
    (Exchange.written_logAt _ _ _ _)

/-- The CORS middleware's headers on a new request: the origin itself when it is allowed. -/
theorem allowsOrigin_corsHeaders (allowedOrigins : List String) (log : List LogEntry)
    (runtime : RuntimeMetrics) :
    AllowsOrigin (if isAllowedOrigin allowedOrigins r.origin then some r.origin else none)
      (corsHeaders level allowedOrigins r (Exchange.fresh log runtime)) := by
  have fresh : AllowsOrigin none (Exchange.fresh log runtime) := ⟨rfl, fun sent => absurd rfl sent⟩
  unfold corsHeaders
  split_ifs
  · have echoed : AllowsOrigin (some r.origin)
        ((Exchange.fresh log runtime).setHeader "Access-Control-Allow-Origin" r.origin) :=
      ⟨AList.lookup_insert _, fun sent => absurd rfl sent⟩
    exact ((echoed.setHeader (by decide) _).setHeader (by decide) _).setHeader (by decide) _
  · exact fresh.of_written (by simp)
  · exact fresh

/-- For every request through `Start`'s handler, at any level of the logger, when the Prometheus
handler neither sets the CORS origin header nor sends another header map, the answer carries
`Access-Control-Allow-Origin`, in the header map and in the header sent with the status, exactly
when CORS is enabled and the origin is allowed, and it then names the request's own origin, never a
wildcard: a blocked origin, a preflight included, gets no such header. -/
theorem apply_mux_allows_origin (level : Int) (cfg : Config) (durationString : Duration → String)
    (metricsHandler : Handler) (quiet : ∀ value r x,
      AllowsOrigin value x → AllowsOrigin value (metricsHandler r x).1)
    (readings : Readings) (r : Request) (log : List LogEntry) (runtime : RuntimeMetrics) :
    AllowsOrigin
      (if cfg.server.enableCORS && isAllowedOrigin cfg.server.allowedOrigins r.origin then
        some r.origin else none)
      (apply level cfg.server readings (mux cfg durationString metricsHandler) r
        (Exchange.fresh log runtime)).1 := by
  unfold apply
  cases enabled : cfg.server.enableCORS
  · exact allowsOrigin_chain (quiet _) ⟨rfl, fun sent => absurd rfl sent⟩
  · simp only [Bool.true_and, if_true, corsMiddleware]
    by_cases options : r.method = "OPTIONS"
    · rw [if_pos options]
      exact (allowsOrigin_corsHeaders _ log runtime).writeHeader _
    · rw [if_neg options]
      exact allowsOrigin_chain (quiet _) (allowsOrigin_corsHeaders _ log runtime)

theorem apply_mux_allows_origin_subdomain :
    let cfg : Config := { Config.zero with
      server := { Config.zero.server with
        enableCORS := true, allowedOrigins := ["*.example.com"] } }
    let metricsHandler : Handler := fun _ y => (y.write "# HELP", none)
    let readings : Readings := ⟨⟨0, 0, 0, 0, 0, fun _ => 0⟩, 8⟩
    let r : Request := ⟨"GET", "/metrics", "https://app.example.com", "192.0.2.7:51000"⟩
    (∀ value r x, AllowsOrigin value x → AllowsOrigin value (metricsHandler r x).1) ∧
      AllowsOrigin
        (if cfg.server.enableCORS && isAllowedOrigin cfg.server.allowedOrigins r.origin then
          some r.origin else none)
        (apply infoLevel cfg.server readings (mux cfg (fun _ => "5s") metricsHandler) r
          (Exchange.fresh [] ⟨0, 0, 0, 0, 0, []⟩)).1 :=
  ⟨fun _ _ _ origin => origin.write _,
    apply_mux_allows_origin _ _ (fun _ => "5s") _ (fun _ _ _ origin => origin.write _) _ _ _ _⟩

end Routes

/-! ## Runs of requests -/

/-- One step of `serveAll`: `OPTIONS *` leaves the log and the runtime metrics as they were, and
every other request goes through `Apply`'s chain around the mux. -/
theorem serveAll_cons (cfg : Config) (durationString : Duration → String) (metricsHandler : Handler)
    (log : List LogEntry) (runtime : RuntimeMetrics) (readings : Readings) (r : Request)
    (rest : List (Readings × Request)) :
    serveAll cfg durationString metricsHandler (log, runtime) ((readings, r) :: rest) =
      if GeneralOptions r then serveAll cfg durationString metricsHandler (log, runtime) rest
      else
        let y := (apply (parseLevel cfg.logging.level) cfg.server readings
          (mux cfg durationString metricsHandler) r (Exchange.fresh log runtime)).1
        serveAll cfg durationString metricsHandler (y.log, y.runtime) rest := by
  by_cases general : GeneralOptions r <;> simp [serveAll, serverHandler, general, Exchange.fresh]

end Server

end NtpExporter
