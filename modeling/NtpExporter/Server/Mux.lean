import NtpExporter.Server.Http

/-!
# The exporter's routes

What meets a request around the middleware: `net/http`'s server answers `OPTIONS *` itself, and
inside the middleware the `ServeMux` of `Server.Start` refuses the target `*` with 400, redirects
with 301 any request but `CONNECT` whose path `cleanPath` changes, and otherwise sends `/metrics` to
the Prometheus handler, a parameter here, `/health` to the health handler, and every other path to
the index page, which answers all but `/` with `http.NotFound`. Away from `/metrics` the mux never
panics and passes one code to `WriteHeader` before anything else, the status sent.
-/

namespace NtpExporter

namespace Server

open Exchange

/-! ## Clean paths -/

/-- The backtracking of `path.Clean` at a `..` element, on the path kept so far written backwards:
its last byte goes, and then the bytes before it up to and including a slash, never below `dotdot`
bytes. -/
def backtrack (dotdot : Nat) : List Char → List Char
  | [] => []
  | c :: out => if dotdot < out.length ∧ c ≠ '/' then backtrack dotdot out else out

/-- A `..` element of `path.Clean`: back to the previous element when one is kept above `dotdot`;
dropped at the root; and otherwise kept in a relative path, raising `dotdot` past it. -/
def dotDot (rooted : Bool) (out : List Char) (dotdot : Nat) : List Char × Nat :=
  if dotdot < out.length then (backtrack dotdot out, dotdot)
  else if rooted then (out, dotdot)
  else
    let out := if 0 < out.length then '/' :: out else out
    ('.' :: '.' :: out, out.length + 2)

/-- The slash `path.Clean` adds before a real element unless it is the first. -/
def addSlash (rooted : Bool) (out : List Char) : List Char :=
  if rooted && out.length != 1 || !rooted && out.length != 0 then '/' :: out else out

/-- The loop of `path.Clean` over the bytes left, with the path kept so far written backwards;
`copying` while inside a real element. At the start of an element, a slash is an empty element and
`.` before a slash or the end is the current directory, both skipped; `..` likewise is the parent;
anything else starts a real element, copied up to the next slash. -/
def cleanLoop (rooted : Bool) : Bool → List Char → List Char → Nat → List Char
  | _, [], out, _ => out
  | true, c :: rest, out, dotdot =>
      if c = '/' then cleanLoop rooted false rest out dotdot
      else cleanLoop rooted true rest (c :: out) dotdot
  | false, [c], out, _ =>
      if c = '/' ∨ c = '.' then out else c :: addSlash rooted out
  | false, c :: d :: rest, out, dotdot =>
      if c = '/' ∨ c = '.' ∧ d = '/' then cleanLoop rooted false (d :: rest) out dotdot
      else if c = '.' ∧ d = '.' ∧ rest.head?.all (· = '/') then
        cleanLoop rooted false rest (dotDot rooted out dotdot).1 (dotDot rooted out dotdot).2
      else cleanLoop rooted true (d :: rest) (c :: addSlash rooted out) dotdot

/-- `path.Clean`: the shortest path lexically equivalent to `path`, `.` for an empty result. -/
def pathClean : List Char → List Char
  | [] => ['.']
  | c :: rest =>
      let out := if c = '/' then cleanLoop true false rest ['/'] 1
        else cleanLoop false false (c :: rest) [] 0
      if out = [] then ['.'] else out.reverse

example : pathClean "abc/./..//def/".toList = "def".toList := by decide
example : pathClean "a/b/../../..".toList = "..".toList := by decide

/-- `cleanPath` of `net/http`: the path made rooted and cleaned, with its trailing slash kept. -/
def cleanPath (path : String) : String :=
  if path = "" then "/"
  else
    let p := if path.toList.head? ≠ some '/' then '/' :: path.toList else path.toList
    let np := pathClean p
    if p.getLast? = some '/' ∧ np ≠ ['/'] then
      if p.length = np.length + 1 ∧ np.isPrefixOf p then String.mk p else String.mk (np ++ ['/'])
    else String.mk np

example : cleanPath "//health" = "/health" := by decide
example : cleanPath "/a/b/../c/./d/" = "/a/c/d/" := by decide

/-! ## Handlers -/

/-- The escaping of `htmlEscape` in `net/http`: `&`, `<`, `>`, the double quote and the
apostrophe. -/
def htmlEscape (s : String) : String :=
  String.join (s.toList.map fun c =>
    if c = '&' then "&amp;" else if c = '<' then "&lt;" else if c = '>' then "&gt;"
    else if c = '\x22' then "&#34;" else if c = '\x27' then "&#39;" else c.toString)

/-- `http.Redirect(w, r, url, StatusMovedPermanently)`, as `RedirectHandler` runs it for a clean
rooted `url`, which it keeps as it is: the `Location` header, `Content-Type: text/html` for `GET`
and `HEAD` when the header map has none, the status, and for `GET` a short HTML body. -/
def redirect (r : Request) (url : String) (x : Exchange) : Exchange :=
  let hadCT := (x.written.header.lookup "Content-Type").isSome
  let x := x.setHeader "Location" url
  let x := if !hadCT && (r.method == "GET" || r.method == "HEAD") then
      x.setHeader "Content-Type" "text/html; charset=utf-8" else x
  let x := x.writeHeader statusMovedPermanently
  if !hadCT && r.method == "GET" then
    x.write ("<a href=\x22" ++ htmlEscape url ++ "\x22>Moved Permanently</a>.\n\n")
  else x

/-- `HealthHandler`: status 200 with a JSON body. -/
def healthHandler : Handler := fun _ x =>
  ((x.setHeader "Content-Type" "application/json" |>.writeHeader statusOK).write
    "\x7b\"status\":\"healthy\",\"service\":\"ntp-exporter\"\x7d", none)

/-- The index page, with the figures of the configuration; `durationString` is
`time.Duration.String`. -/
def indexPage (cfg : Config) (durationString : Duration → String) : String :=
  "\n".intercalate [
    "<!DOCTYPE html>",
    "<html>",
    "<head>",
    "    <title>NTP Exporter</title>",
    "    <style>",
    "        body \x7b font-family: Arial, sans-serif; margin: 40px; \x7d",
    "        h1 \x7b color: #333; \x7d",
    "        ul \x7b list-style-type: none; padding: 0; \x7d",
    "        li \x7b margin: 10px 0; \x7d",
    "        a \x7b color: #0066cc; text-decoration: none; \x7d",
    "        a:hover \x7b text-decoration: underline; \x7d",
    "        .info \x7b background-color: #f0f0f0; padding: 15px; border-radius: 5px; \x7d",
    "    </style>",
    "</head>",
    "<body>",
    "    <h1>NTP Prometheus Exporter</h1>",
    "    <div class=\"info\">",
    "        <h2>Available Endpoints:</h2>",
    "        <ul>",
    "            <li><a href=\"/metrics\">/metrics</a> - Prometheus metrics</li>",
    "            <li><a href=\"/health\">/health</a> - Health check</li>",
    "        </ul>",
    "        <h2>Configuration:</h2>",
    "        <ul>",
    "            <li>NTP Servers: " ++ toString cfg.ntp.servers.length ++ " configured</li>",
    "            <li>NTP Pools: " ++ toString cfg.ntp.pools.length ++ " configured</li>",
    "            <li>Samples per server: " ++ toString cfg.ntp.samplesPerServer ++ "</li>",
    "            <li>Timeout: " ++ durationString cfg.ntp.timeout ++ "</li>",
    "            <li>NTP Version: " ++ toString cfg.ntp.version ++ "</li>",
    "        </ul>",
    "    </div>",
    "</body>",
    "</html>"]

/-- `IndexHandler`: the index page at `/`, and `404 page not found` at every other path. -/
def indexHandler (cfg : Config) (durationString : Duration → String) : Handler := fun r x =>
  if r.path ≠ "/" then (x.notFound, none)
  else ((x.setHeader "Content-Type" "text/html" |>.writeHeader statusOK).write
    (indexPage cfg durationString), none)

/-- The `ServeMux` of `Start` with `/metrics`, `/health` and `/` registered: the target `*` refused
with 400 and `Connection: close`; any other request but `CONNECT` whose path is not clean redirected
to the clean path; and then `/metrics` and `/health` matched exactly, and `/` matching every other
path. -/
def mux (cfg : Config) (durationString : Duration → String) (metricsHandler : Handler) :
    Handler := fun r x =>
  if r.path = "*" then ((x.setHeader "Connection" "close").writeHeader statusBadRequest, none)
  else if r.method ≠ "CONNECT" ∧ cleanPath r.path ≠ r.path then
    (redirect r (cleanPath r.path) x, none)
  else if r.path = "/metrics" then metricsHandler r x
  else if r.path = "/health" then healthHandler r x
  else indexHandler cfg durationString r x

/-- `OPTIONS *`, which `net/http`'s server answers itself, since `Start` leaves
`DisableGeneralOptionsHandler` false. -/
def GeneralOptions (r : Request) : Prop := r.path = "*" ∧ r.method = "OPTIONS"

instance (r : Request) : Decidable (GeneralOptions r) := inferInstanceAs (Decidable (_ ∧ _))

/-- `serverHandler.ServeHTTP`: `OPTIONS *` answered by `globalOptionsHandler`, which only sets
`Content-Length: 0`, and every other request by the server's handler. -/
def serverHandler (handler : Handler) : Handler := fun r x =>
  if GeneralOptions r then (x.setHeader "Content-Length" "0", none) else handler r x

/-- The status the mux answers a request with, away from `/metrics`. -/
def routeStatus (r : Request) : Nat :=
  if r.path = "*" then 400
  else if r.method ≠ "CONNECT" ∧ cleanPath r.path ≠ r.path then 301
  else if r.path = "/health" ∨ r.path = "/" then 200
  else 404

/-! ## What the routes do -/

variable {r : Request} {x : Exchange}

theorem redirect_eq (r : Request) (url : String) (x : Exchange) :
    (redirect r url x).codes = x.codes ++ [301] ∧ (redirect r url x).log = x.log ∧
      (redirect r url x).runtime = x.runtime ∧
      (redirect r url x).written.status = x.written.status.orElse fun _ => some 301 := by
  simp only [redirect]
  split_ifs <;> simp [statusMovedPermanently]

theorem AllowsOrigin.redirect {value : Option String} (origin : AllowsOrigin value x)
    (url : String) : AllowsOrigin value (redirect r url x) := by
  have located : AllowsOrigin value (x.setHeader "Location" url) := origin.setHeader (by decide) url
  have typed (typeless : Bool) : AllowsOrigin value (if typeless then
      (x.setHeader "Location" url).setHeader "Content-Type" "text/html; charset=utf-8"
      else x.setHeader "Location" url) := by
    cases typeless
    · exact located
    · exact located.setHeader (by decide) _
  have answered := fun typeless => (typed typeless).writeHeader statusMovedPermanently
  simp only [Server.redirect]
  split
  · exact (answered _).write _
  · exact answered _

section Routes

variable {cfg : Config} {durationString : Duration → String} {metricsHandler : Handler}

/-- Away from `/metrics`, the mux never panics and passes one code to `WriteHeader` before anything
else, which is the status sent. -/
theorem mux_answers (cfg : Config) (durationString : Duration → String) (metricsHandler : Handler)
    (notMetrics : r.path ≠ "/metrics") (fresh : x.written.status = none) :
    (mux cfg durationString metricsHandler r x).2 = none ∧
      (mux cfg durationString metricsHandler r x).1.codes = x.codes ++ [routeStatus r] ∧
      (mux cfg durationString metricsHandler r x).1.written.status = some (routeStatus r) := by
  obtain ⟨codes, -, -, status⟩ := redirect_eq r (cleanPath r.path) x
  unfold mux routeStatus healthHandler indexHandler notFound httpError
  by_cases star : r.path = "*"
  · simp [star, fresh, statusBadRequest, Option.orElse]
  by_cases moved : r.method ≠ "CONNECT" ∧ cleanPath r.path ≠ r.path
  · simp [star, moved, codes, status, fresh, Option.orElse]
  simp only [if_neg star, if_neg moved, if_neg notMetrics]
  by_cases health : r.path = "/health"
  · simp [health, fresh, statusOK, Option.orElse]
  by_cases index : r.path = "/"
  · simp [health, index, fresh, statusOK, Option.orElse]
  · simp [health, index, fresh, statusNotFound, Option.orElse]

theorem runtime_mux (frame : ∀ r x, (metricsHandler r x).1.runtime = x.runtime) :
    (mux cfg durationString metricsHandler r x).1.runtime = x.runtime := by
  unfold mux healthHandler indexHandler notFound httpError
  split_ifs <;> simp [frame, (redirect_eq _ _ _).2.2.1]

theorem log_filter_mux (quiet : ∀ r x,
      (metricsHandler r x).1.log.filter LogEntry.isHttp = x.log.filter LogEntry.isHttp) :
    (mux cfg durationString metricsHandler r x).1.log.filter LogEntry.isHttp =
      x.log.filter LogEntry.isHttp := by
  unfold mux healthHandler indexHandler notFound httpError
  split_ifs <;> simp [quiet, (redirect_eq _ _ _).2.1]

/-- The exporter's own handlers set no CORS header, and send the header map they have. -/
theorem allowsOrigin_mux {value : Option String}
    (quiet : ∀ r x, AllowsOrigin value x → AllowsOrigin value (metricsHandler r x).1)
    (origin : AllowsOrigin value x) :
    AllowsOrigin value (mux cfg durationString metricsHandler r x).1 := by
  unfold mux healthHandler indexHandler notFound
  split_ifs
  · exact (origin.setHeader (by decide) _).writeHeader _
  · exact origin.redirect _
  · exact quiet r x origin
  · exact ((origin.setHeader (by decide) _).writeHeader _).write _
  · exact origin.httpError _ _
  · exact ((origin.setHeader (by decide) _).writeHeader _).write _

end Routes

end Server

end NtpExporter
