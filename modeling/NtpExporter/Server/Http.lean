import NtpExporter.Config.Loader
import NtpExporter.Go.Map

/-!
# Requests, response writers and the logger

What a handler of `internal/server` sees of a request and does to its `http.ResponseWriter`, with
`net/http`'s rules for the writer: the header map is sent with the first `WriteHeader`, or with
status 200 at the first `Write` before any; a later `WriteHeader` changes nothing sent, and later
changes to the header map are not sent. Every code passed to `WriteHeader` is kept in order, since
the logging middleware records the last one it sees. The exporter's log and runtime metrics
outlive the request, and `pkg/logger` writes an event to the log only at or above the level
`InitLogger` set. A handler may panic, with the text of the value it panics with.
-/

namespace NtpExporter

namespace Server

/-- An HTTP request, with the parts the middleware and the handlers read. -/
structure Request where
  /-- `r.Method`. -/
  method : String
  /-- `r.URL.Path`, which is `*` exactly for the request target `*`. Paths are taken as sent
  without escapes, so that `r.URL.EscapedPath()` is the same text. -/
  path : String
  /-- `r.Header.Get("Origin")`: empty when there is none. -/
  origin : String
  /-- `r.RemoteAddr`. -/
  remoteAddr : String
  deriving DecidableEq

/-- What a request's `http.ResponseWriter` has been given. -/
structure Written where
  /-- `w.Header()`, the header map. -/
  header : GoMap String String
  /-- The status sent, once the header has been written. -/
  status : Option Nat
  /-- The header map as it was sent with the status. -/
  sentHeader : GoMap String String
  /-- The body written. -/
  body : String

/-- A writer nothing has been given yet. -/
def Written.fresh : Written := ⟨∅, none, ∅, ""⟩

/-- A line of the exporter's log that the HTTP layer writes. -/
inductive LogEntry
  /-- `logger.HTTP(method, path, status, duration, remoteAddr)`, without the duration. Its
  `sanitizeString` rewrites only text after a `://`, which a `host:port` address never holds. -/
  | http (method path : String) (status : Nat) (remoteAddr : String)
  /-- The warning `CORS request blocked`, with the origin and the path. -/
  | corsBlocked (origin path : String)
  /-- The error `Panic recovered`, with the panic's value, the method and the path. -/
  | panicRecovered (panic method path : String)
  deriving DecidableEq

/-- Whether a log line is an access-log line. -/
def LogEntry.isHttp : LogEntry → Bool
  | .http .. => true
  | _ => false

/-! ## The logger's level -/

/-- `zerolog.DebugLevel`. -/
def debugLevel : Int := 0

/-- `zerolog.InfoLevel`, the level of `logger.HTTP`. -/
def infoLevel : Int := 1

/-- `zerolog.WarnLevel`, the level of `logger.SafeWarn`. -/
def warnLevel : Int := 2

/-- `zerolog.ErrorLevel`, the level of `logger.SafeError`. -/
def errorLevel : Int := 3

/-- `zerolog.FatalLevel`. -/
def fatalLevel : Int := 4

/-- `zerolog.PanicLevel`. -/
def panicLevel : Int := 5

/-- `unicode.ToLower` on the letters whose lower case is ASCII: `A` to `Z`, `İ` (U+0130) and the
Kelvin sign (U+212A). Every other letter has a lower case outside ASCII, and `parseLevel` only
compares the result with ASCII names. -/
def lowerRune (c : Char) : Char :=
  if c = '\u0130' then 'i' else if c = '\u212A' then 'k' else c.toLower

/-- `parseLevel` of `pkg/logger`: the level named by `strings.ToLower(level)`, and `InfoLevel` for
every other name, `trace` among them. -/
def parseLevel (level : String) : Int :=
  match String.mk (level.toList.map lowerRune) with
  | "debug" => debugLevel
  | "info" => infoLevel
  | "warn" | "warning" => warnLevel
  | "error" => errorLevel
  | "fatal" => fatalLevel
  | "panic" => panicLevel
  | _ => infoLevel

example : parseLevel "WARNING" = warnLevel := by decide
example : parseLevel "trace" = infoLevel := by decide

/-- A final status code, from 200 to 999, which `WriteHeader` sends with the header map. Every code
the exporter passes to `WriteHeader` is one of the constants below; `net/http` panics on a code
outside 100 to 999 and sends an informational code ahead of the final one, which is left out. -/
structure StatusCode where
  /-- The code. -/
  code : Nat
  /-- It is a final code. -/
  final : 200 ≤ code ∧ code ≤ 999

/-- `http.StatusOK`. -/
def statusOK : StatusCode := ⟨200, by decide⟩

/-- `http.StatusMovedPermanently`. -/
def statusMovedPermanently : StatusCode := ⟨301, by decide⟩

/-- `http.StatusBadRequest`. -/
def statusBadRequest : StatusCode := ⟨400, by decide⟩

/-- `http.StatusNotFound`. -/
def statusNotFound : StatusCode := ⟨404, by decide⟩

/-- `http.StatusInternalServerError`. -/
def statusInternalServerError : StatusCode := ⟨500, by decide⟩

/-- The process gauges and the GC summary that the metrics middleware writes. -/
structure RuntimeMetrics where
  /-- `ExporterMemoryUsageBytes`. -/
  exporterMemoryUsageBytes : ℚ
  /-- `ExporterGoroutinesCount`. -/
  exporterGoroutinesCount : ℚ
  /-- `MemoryAllocatedBytes`. -/
  memoryAllocatedBytes : ℚ
  /-- `MemoryHeapBytes`. -/
  memoryHeapBytes : ℚ
  /-- `MemoryStackBytes`. -/
  memoryStackBytes : ℚ
  /-- The observations of the `GCDurationSeconds` summary, in order. -/
  gcDurationSeconds : List ℚ

/-- One request in flight: its writer and the codes passed to `WriteHeader` so far, with the
exporter's log and runtime metrics. -/
structure Exchange where
  /-- What the writer has been given. -/
  written : Written
  /-- The codes passed to `WriteHeader`, in order. -/
  codes : List Nat
  /-- The exporter's log. -/
  log : List LogEntry
  /-- The runtime metrics. -/
  runtime : RuntimeMetrics

/-- A handler: what it does to the exchange, and the panic it ends in, if any. -/
abbrev Handler := Request → Exchange → Exchange × Option String

namespace Exchange

/-- A new request's exchange, with the log and the runtime metrics so far. -/
def fresh (log : List LogEntry) (runtime : RuntimeMetrics) : Exchange :=
  ⟨Written.fresh, [], log, runtime⟩

/-- `w.Header().Set(name, value)`. -/
def setHeader (x : Exchange) (name value : String) : Exchange :=
  { x with written := { x.written with header := x.written.header.insert name value } }

/-- `w.WriteHeader(code)`: the code kept, and sent with the header map unless a status was sent
already, which `net/http` reports as superfluous and ignores. -/
def writeHeader (x : Exchange) (code : StatusCode) : Exchange :=
  { x with
    codes := x.codes ++ [code.code]
    written := match x.written.status with
      | some _ => x.written
      | none => { x.written with status := some code.code, sentHeader := x.written.header } }

/-- `w.Write(text)`: the header sent first with status 200 when it has not been; the implicit
status is not a `WriteHeader` call of the handler's writer. -/
def write (x : Exchange) (text : String) : Exchange :=
  let written := match x.written.status with
    | some _ => x.written
    | none => { x.written with status := some 200, sentHeader := x.written.header }
  { x with written := { written with body := written.body ++ text } }

/-- `http.Error(w, error, code)`: a plain-text error with its status. -/
def httpError (x : Exchange) (error : String) (code : StatusCode) : Exchange :=
  let x :=
    { x with written := { x.written with header := x.written.header.erase "Content-Length" } }
  (x.setHeader "Content-Type" "text/plain; charset=utf-8"
    |>.setHeader "X-Content-Type-Options" "nosniff" |>.writeHeader code).write (error ++ "\n")

/-- `http.NotFound(w, r)`. -/
def notFound (x : Exchange) : Exchange := x.httpError "404 page not found" statusNotFound

/-- An event of the logger at level `event`: written to the log when it is at or above the global
level `level`, and dropped otherwise, as `zerolog` does. -/
def logAt (x : Exchange) (level event : Int) (entry : LogEntry) : Exchange :=
  if level ≤ event then { x with log := x.log ++ [entry] } else x

@[simp] theorem codes_setHeader (x : Exchange) (name value : String) :
    (x.setHeader name value).codes = x.codes := rfl

@[simp] theorem codes_writeHeader (x : Exchange) (code : StatusCode) :
    (x.writeHeader code).codes = x.codes ++ [code.code] := rfl

@[simp] theorem codes_write (x : Exchange) (text : String) : (x.write text).codes = x.codes := rfl

@[simp] theorem log_setHeader (x : Exchange) (name value : String) :
    (x.setHeader name value).log = x.log := rfl

@[simp] theorem log_writeHeader (x : Exchange) (code : StatusCode) :
    (x.writeHeader code).log = x.log := rfl

@[simp] theorem log_write (x : Exchange) (text : String) : (x.write text).log = x.log := rfl

@[simp] theorem runtime_setHeader (x : Exchange) (name value : String) :
    (x.setHeader name value).runtime = x.runtime := rfl

@[simp] theorem runtime_writeHeader (x : Exchange) (code : StatusCode) :
    (x.writeHeader code).runtime = x.runtime := rfl

@[simp] theorem runtime_write (x : Exchange) (text : String) :
    (x.write text).runtime = x.runtime := rfl

@[simp] theorem status_setHeader (x : Exchange) (name value : String) :
    (x.setHeader name value).written.status = x.written.status := rfl

/-- The status sent is the first one: a later `WriteHeader` or `Write` does not change it. -/
@[simp] theorem status_writeHeader (x : Exchange) (code : StatusCode) :
    (x.writeHeader code).written.status = x.written.status.orElse fun _ => some code.code := by
  unfold writeHeader
  split <;> simp_all [Option.orElse]

@[simp] theorem status_write (x : Exchange) (text : String) :
    (x.write text).written.status = x.written.status.orElse fun _ => some 200 := by
  unfold write
  split <;> simp_all [Option.orElse]

@[simp] theorem header_writeHeader (x : Exchange) (code : StatusCode) :
    (x.writeHeader code).written.header = x.written.header := by
  unfold writeHeader
  split <;> rfl

@[simp] theorem header_write (x : Exchange) (text : String) :
    (x.write text).written.header = x.written.header := by
  unfold write
  split <;> rfl

@[simp] theorem body_setHeader (x : Exchange) (name value : String) :
    (x.setHeader name value).written.body = x.written.body := rfl

@[simp] theorem body_writeHeader (x : Exchange) (code : StatusCode) :
    (x.writeHeader code).written.body = x.written.body := by
  unfold writeHeader
  split <;> rfl

@[simp] theorem body_write (x : Exchange) (text : String) :
    (x.write text).written.body = x.written.body ++ text := by
  unfold write
  split <;> simp_all [Option.orElse]

@[simp] theorem orElse_some_orElse {α : Type} (o : Option α) (a : α) (f : Unit → Option α) :
    (o.orElse fun _ => some a).orElse f = o.orElse fun _ => some a := by
  cases o <;> rfl

@[simp] theorem written_logAt (x : Exchange) (level event : Int) (entry : LogEntry) :
    (x.logAt level event entry).written = x.written := by
  unfold logAt; split <;> rfl

@[simp] theorem codes_logAt (x : Exchange) (level event : Int) (entry : LogEntry) :
    (x.logAt level event entry).codes = x.codes := by
  unfold logAt; split <;> rfl

@[simp] theorem runtime_logAt (x : Exchange) (level event : Int) (entry : LogEntry) :
    (x.logAt level event entry).runtime = x.runtime := by
  unfold logAt; split <;> rfl

@[simp] theorem log_logAt (x : Exchange) (level event : Int) (entry : LogEntry) :
    (x.logAt level event entry).log = x.log ++ if level ≤ event then [entry] else [] := by
  unfold logAt; split <;> simp [*]

end Exchange

/-- The CORS origin header of an exchange is `value`: in the header map, and in the header map
sent, once a status has been sent. -/
structure AllowsOrigin (value : Option String) (x : Exchange) : Prop where
  /-- In `w.Header()`. -/
  header : x.written.header.lookup "Access-Control-Allow-Origin" = value
  /-- In the header sent with the status. -/
  sent : x.written.status ≠ none →
    x.written.sentHeader.lookup "Access-Control-Allow-Origin" = value

namespace AllowsOrigin

variable {value : Option String} {x : Exchange}

theorem of_written {y : Exchange} (origin : AllowsOrigin value x) (same : y.written = x.written) :
    AllowsOrigin value y :=
  ⟨same ▸ origin.header, same ▸ origin.sent⟩

theorem setHeader (origin : AllowsOrigin value x) {name : String} (other : name ≠
    "Access-Control-Allow-Origin") (text : String) : AllowsOrigin value (x.setHeader name text) :=
  ⟨(AList.lookup_insert_ne other.symm).trans origin.header, origin.sent⟩

/-- The header map sent is the one the exchange had at the first status. -/
theorem writeHeader (origin : AllowsOrigin value x) (code : StatusCode) :
    AllowsOrigin value (x.writeHeader code) := by
  refine ⟨(congrArg _ (Exchange.header_writeHeader x code)).trans origin.header, fun _ => ?_⟩
  unfold Exchange.writeHeader
  split
  · exact origin.sent (by simp [*])
  · exact origin.header

theorem write (origin : AllowsOrigin value x) (text : String) :
    AllowsOrigin value (x.write text) := by
  refine ⟨(congrArg _ (Exchange.header_write x text)).trans origin.header, fun _ => ?_⟩
  unfold Exchange.write
  split
  · exact origin.sent (by simp [*])
  · exact origin.header

theorem httpError (origin : AllowsOrigin value x) (error : String) (code : StatusCode) :
    AllowsOrigin value (x.httpError error code) := by
  have erased : AllowsOrigin value
      { x with written := { x.written with header := x.written.header.erase "Content-Length" } } :=
    ⟨(AList.lookup_erase_ne (by decide)).trans origin.header, origin.sent⟩
  exact ((((erased.setHeader (by decide) _).setHeader (by decide) _).writeHeader code).write _)

end AllowsOrigin

end Server

end NtpExporter
