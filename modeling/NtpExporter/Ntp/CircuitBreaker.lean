import NtpExporter.Go.Map
import NtpExporter.Ntp.Response
import Mathlib.Tactic.NormNum.Ineq

/-!
# Circuit breakers

`CircuitBreakerClient` of `internal/ntp/circuitbreaker.go`: one `gobreaker.CircuitBreaker` per
server around the wrapped querier, made on the server's first call. The breaker is the state
machine of `sony/gobreaker`, outside the repository and modelled after its implementation: closed,
it counts a period's requests and opens when `ReadyToTrip` accepts the counts of a failure; open,
it rejects requests until `Timeout` has passed, then lets `MaxRequests` probes through. Times are
monotonic readings in nanoseconds, the wrapped call is a function of the state of the layers
below, and the failure ratio is a rational where the code divides in `float64`.
-/

namespace NtpExporter

namespace Gobreaker

/-- `gobreaker.State`. -/
inductive State
  /-- `StateClosed`. -/
  | stateClosed
  /-- `StateHalfOpen`. -/
  | stateHalfOpen
  /-- `StateOpen`. -/
  | stateOpen
  deriving DecidableEq, Repr

/-- `gobreaker.Counts`: the requests of the current generation and their outcomes. -/
structure Counts where
  /-- `Requests`. -/
  requests : UInt32
  /-- `TotalSuccesses`. -/
  totalSuccesses : UInt32
  /-- `TotalFailures`. -/
  totalFailures : UInt32
  /-- `ConsecutiveSuccesses`. -/
  consecutiveSuccesses : UInt32
  /-- `ConsecutiveFailures`. -/
  consecutiveFailures : UInt32
  deriving DecidableEq, Repr

namespace Counts

/-- `onRequest`. -/
def onRequest (c : Counts) : Counts := { c with requests := c.requests + 1 }

/-- `onSuccess`. -/
def onSuccess (c : Counts) : Counts :=
  { c with
    totalSuccesses := c.totalSuccesses + 1
    consecutiveSuccesses := c.consecutiveSuccesses + 1
    consecutiveFailures := 0 }

/-- `onFailure`. -/
def onFailure (c : Counts) : Counts :=
  { c with
    totalFailures := c.totalFailures + 1
    consecutiveFailures := c.consecutiveFailures + 1
    consecutiveSuccesses := 0 }

/-- `clear`: the counts of a new generation. -/
def clear : Counts := ⟨0, 0, 0, 0, 0⟩

/-- The counts of a generation whose `k` requests all failed. -/
def failures (k : UInt32) : Counts := ⟨k, 0, k, 0, k⟩

@[simp] theorem failures_zero : failures 0 = clear := rfl

@[simp] theorem onFailure_onRequest_failures (k : UInt32) :
    (failures k).onRequest.onFailure = failures (k + 1) := rfl

end Counts

/-- `gobreaker.Settings`, without the name and the state-change callback, which only logs. -/
structure Settings where
  /-- `MaxRequests`: the probes let through when half-open. -/
  maxRequests : UInt32
  /-- `Interval`: the length of a closed period. -/
  interval : Duration
  /-- `Timeout`: the time the breaker stays open. -/
  timeout : Duration
  /-- `ReadyToTrip`: whether the counts of a failure open a closed breaker. -/
  readyToTrip : Counts → Bool

/-- The errors of `Execute`: its own two, or the request's. -/
inductive ExecuteError
  /-- `ErrOpenState`. -/
  | errOpenState
  /-- `ErrTooManyRequests`. -/
  | errTooManyRequests
  /-- The request's own error. -/
  | request (err : String)
  deriving DecidableEq, Repr

/-- The text of an error of `Execute`. -/
def ExecuteError.text : ExecuteError → String
  | .errOpenState => "circuit breaker is open"
  | .errTooManyRequests => "too many requests"
  | .request err => err

/-- `gobreaker.CircuitBreaker`. -/
structure CircuitBreaker where
  /-- `maxRequests`. -/
  maxRequests : UInt32
  /-- `interval`. -/
  interval : Duration
  /-- `timeout`. -/
  timeout : Duration
  /-- `readyToTrip`. -/
  readyToTrip : Counts → Bool
  /-- `state`. -/
  state : State
  /-- `generation`: the number of the current generation. -/
  generation : UInt64
  /-- `counts`: the counts of the current generation. -/
  counts : Counts
  /-- `expiry`: the end of the current generation, `none` for the zero time. -/
  expiry : Option Int

namespace CircuitBreaker

/-- `toNewGeneration`: the next generation, with cleared counts and the end of its period: the
interval after `now` when closed (never, for a zero interval), the timeout after `now` when open,
never when half-open. -/
def toNewGeneration (cb : CircuitBreaker) (now : Int) : CircuitBreaker :=
  { cb with
    generation := cb.generation + 1
    counts := Counts.clear
    expiry := match cb.state with
      | .stateClosed => if cb.interval = 0 then none else some (now + cb.interval.ns)
      | .stateOpen => some (now + cb.timeout.ns)
      | .stateHalfOpen => none }

/-- `setState`: nothing when the breaker is in the state already, and otherwise the state in a new
generation. -/
def setState (cb : CircuitBreaker) (state : State) (now : Int) : CircuitBreaker :=
  if cb.state = state then cb else toNewGeneration { cb with state } now

/-- `currentState`: a closed period that has ended gives way to a new generation, and an open
breaker whose timeout has passed turns half-open. -/
def currentState (cb : CircuitBreaker) (now : Int) : CircuitBreaker :=
  match cb.state with
  | .stateClosed => if cb.expiry.any (fun expiry => expiry < now) then cb.toNewGeneration now else cb
  | .stateOpen => if cb.expiry.all (fun expiry => expiry < now) then cb.setState .stateHalfOpen now
      else cb
  | .stateHalfOpen => cb

/-- `beforeRequest`: refused when open, or when half-open with `MaxRequests` requests made, and
otherwise the request counted, with its generation. -/
def beforeRequest (cb : CircuitBreaker) (now : Int) : CircuitBreaker × Except ExecuteError UInt64 :=
  let cb := cb.currentState now
  if cb.state = .stateOpen then (cb, .error .errOpenState)
  else if cb.state = .stateHalfOpen ∧ cb.maxRequests ≤ cb.counts.requests then
    (cb, .error .errTooManyRequests)
  else ({ cb with counts := cb.counts.onRequest }, .ok cb.generation)

/-- `onSuccess`: counted when closed; when half-open, counted, and the breaker closed once
`MaxRequests` probes in a row succeeded. -/
def onSuccess (cb : CircuitBreaker) (state : State) (now : Int) : CircuitBreaker :=
  match state with
  | .stateClosed => { cb with counts := cb.counts.onSuccess }
  | .stateHalfOpen =>
      let cb := { cb with counts := cb.counts.onSuccess }
      if cb.maxRequests ≤ cb.counts.consecutiveSuccesses then cb.setState .stateClosed now else cb
  | .stateOpen => cb

/-- `onFailure`: when closed, counted, and the breaker opened when `ReadyToTrip` accepts the
counts; when half-open, the breaker opened. -/
def onFailure (cb : CircuitBreaker) (state : State) (now : Int) : CircuitBreaker :=
  match state with
  | .stateClosed =>
      let cb := { cb with counts := cb.counts.onFailure }
      if cb.readyToTrip cb.counts then cb.setState .stateOpen now else cb
  | .stateHalfOpen => cb.setState .stateOpen now
  | .stateOpen => cb

/-- `afterRequest`: the outcome counted, unless the request's generation has ended. -/
def afterRequest (cb : CircuitBreaker) (before : UInt64) (success : Bool) (now : Int) :
    CircuitBreaker :=
  let cb := cb.currentState now
  if cb.generation ≠ before then cb
  else if success then cb.onSuccess cb.state now else cb.onFailure cb.state now

/-- `Execute`: the request runs only when `beforeRequest` admits it at `start`, and its outcome is
recorded at `finish`. -/
def execute {σ α : Type} (cb : CircuitBreaker) (start finish : Int) (inner : σ)
    (req : σ → σ × Except String α) : CircuitBreaker × σ × Except ExecuteError α :=
  match cb.beforeRequest start with
  | (cb, .error err) => (cb, inner, .error err)
  | (cb, .ok generation) =>
      match req inner with
      | (inner, .error err) => (cb.afterRequest generation false finish, inner, .error (.request err))
      | (inner, .ok value) => (cb.afterRequest generation true finish, inner, .ok value)

/-- `NewCircuitBreaker`: the settings with their defaults (one probe for zero, no period for an
interval that is not positive, sixty seconds for a timeout that is not positive), closed, in its
first generation from `now`. -/
def newCircuitBreaker (st : Settings) (now : Int) : CircuitBreaker :=
  toNewGeneration
    { maxRequests := if st.maxRequests = 0 then 1 else st.maxRequests
      interval := if st.interval ≤ 0 then 0 else st.interval
      timeout := if st.timeout ≤ 0 then 60000000000 else st.timeout
      readyToTrip := st.readyToTrip
      state := .stateClosed
      generation := 0
      counts := Counts.clear
      expiry := none } now

/-- The breaker's current period has not ended by `now`. -/
def Live (cb : CircuitBreaker) (now : Int) : Prop := cb.expiry.all (fun expiry => now ≤ expiry) = true

instance (cb : CircuitBreaker) (now : Int) : Decidable (cb.Live now) :=
  inferInstanceAs (Decidable (_ = true))

theorem Live.mono {cb : CircuitBreaker} {earlier now : Int} (live : cb.Live now)
    (before : earlier ≤ now) : cb.Live earlier := by
  unfold Live at *
  cases expires : cb.expiry with
  | none => rfl
  | some expiry =>
      simp only [expires, Option.all_some, decide_eq_true_eq] at live ⊢
      omega

variable {cb : CircuitBreaker} {now start finish expiry : Int}

theorem currentState_of_open (opened : cb.state = .stateOpen) (expires : cb.expiry = some expiry)
    (early : now ≤ expiry) : cb.currentState now = cb := by
  simp [currentState, opened, expires, not_lt.mpr early]

theorem currentState_of_closed (closed : cb.state = .stateClosed) (live : cb.Live now) :
    cb.currentState now = cb := by
  unfold Live at live
  cases expires : cb.expiry <;>
    simp_all [currentState]

/-- An open breaker whose timeout has not passed rejects the request and stays as it is. -/
theorem execute_of_open {σ α : Type} (opened : cb.state = .stateOpen) (expires : cb.expiry = some expiry)
    (early : start ≤ expiry) (inner : σ) (req : σ → σ × Except String α) :
    cb.execute start finish inner req = (cb, inner, .error .errOpenState) := by
  simp [execute, beforeRequest, currentState_of_open opened expires early, opened]

/-- A failed request in a closed period that lasts past its end is counted at once, and the
breaker opens when `ReadyToTrip` accepts the counts. -/
theorem execute_of_closed_failure {σ α : Type} (closed : cb.state = .stateClosed)
    (live : cb.Live finish) (started : start ≤ finish) {inner inner' : σ}
    {req : σ → σ × Except String α} {err : String} (failed : req inner = (inner', .error err)) :
    cb.execute start finish inner req =
      (({ cb with counts := cb.counts.onRequest }).onFailure .stateClosed finish, inner',
        .error (.request err)) := by
  have admitted : cb.beforeRequest start =
      ({ cb with counts := cb.counts.onRequest }, .ok cb.generation) := by
    simp [beforeRequest, currentState_of_closed closed (live.mono started), closed]
  have recorded : ({ cb with counts := cb.counts.onRequest } : CircuitBreaker).afterRequest
      cb.generation false finish =
      ({ cb with counts := cb.counts.onRequest }).onFailure .stateClosed finish := by
    rw [afterRequest, currentState_of_closed
      (show ({ cb with counts := cb.counts.onRequest } : CircuitBreaker).state = _ from closed) live]
    simp [closed]
  simp [execute, admitted, failed, recorded]

/-- A failed request in a closed period whose requests all failed: counted, or, when the counts
make it trip, the breaker open until the timeout after the request's end. -/
theorem execute_of_failures {σ α : Type} {k : UInt32} (closed : cb.state = .stateClosed)
    (counts : cb.counts = Counts.failures k) (live : cb.Live finish) (started : start ≤ finish)
    {inner inner' : σ} {req : σ → σ × Except String α} {err : String}
    (failed : req inner = (inner', .error err)) :
    cb.execute start finish inner req =
      (if cb.readyToTrip (Counts.failures (k + 1)) then
        { cb with state := .stateOpen, generation := cb.generation + 1, counts := Counts.clear,
                  expiry := some (finish + cb.timeout.ns) }
       else { cb with counts := Counts.failures (k + 1) }, inner', .error (.request err)) := by
  rw [execute_of_closed_failure closed live started failed]
  by_cases trips : cb.readyToTrip (Counts.failures (k + 1)) <;>
    simp [onFailure, counts, trips, setState, toNewGeneration, closed]

end CircuitBreaker

end Gobreaker

/-- The `ReadyToTrip` of `NewCircuitBreakerConfigWithThreshold`: at least three requests, of which
at least the fraction `failureThreshold` failed. -/
def thresholdTrip (failureThreshold : ℚ) (counts : Gobreaker.Counts) : Bool :=
  decide (3 ≤ counts.requests) &&
    decide (failureThreshold ≤ (counts.totalFailures.toNat : ℚ) / counts.requests.toNat)

/-- `DefaultCircuitBreakerConfig`: three probes, a period of a minute, thirty seconds open, and a
failure ratio of `0.6`. -/
def defaultCircuitBreakerConfig : Gobreaker.Settings :=
  ⟨3, 60000000000, 30000000000, thresholdTrip (3 / 5)⟩

/-- `NewCircuitBreakerConfigWithThreshold`. The client's `CircuitBreakerConfig` has the fields of
the breakers' settings it fills, so it is modelled by them. -/
def newCircuitBreakerConfigWithThreshold (maxRequests : UInt32) (interval timeout : Duration)
    (failureThreshold : ℚ) : Gobreaker.Settings :=
  ⟨maxRequests, interval, timeout, thresholdTrip failureThreshold⟩

/-- `CircuitBreakerClient`: the breakers by server, and the configuration new ones are made with. -/
structure CircuitBreakerClient where
  /-- `breakers`. -/
  breakers : GoMap String Gobreaker.CircuitBreaker
  /-- `config`. -/
  config : Gobreaker.Settings

namespace CircuitBreakerClient

/-- `NewCircuitBreakerClient`: no breaker yet, and the default configuration in place of one with
`MaxRequests` zero. -/
def newCircuitBreakerClient (config : Gobreaker.Settings) : CircuitBreakerClient :=
  ⟨∅, if config.maxRequests = 0 then defaultCircuitBreakerConfig else config⟩

/-- `getBreakerForServer`: the server's breaker, or a new one made at `now` from the client's
configuration. -/
def getBreakerForServer (client : CircuitBreakerClient) (server : String) (now : Int) :
    Gobreaker.CircuitBreaker :=
  (client.breakers.lookup server).getD (Gobreaker.CircuitBreaker.newCircuitBreaker client.config now)

/-- The error of a call: the open state reported with the server's name, any other as it is. -/
def wrapError (server : String) : Gobreaker.ExecuteError → String
  | .errOpenState => "circuit breaker open for " ++ server ++ ": " ++ Gobreaker.ExecuteError.errOpenState.text
  | err => err.text

/-- A call through the server's breaker, which `Query` and `QueryMultiple` both are: the breaker,
made at `created` on first use and kept in the map, executes the wrapped call. -/
def call {σ α : Type} (client : CircuitBreakerClient) (server : String) (created start finish : Int)
    (inner : σ) (req : σ → σ × Except String α) : CircuitBreakerClient × σ × Except String α :=
  match (client.getBreakerForServer server created).execute start finish inner req with
  | (breaker, inner, result) =>
      ({ client with breakers := client.breakers.insert server breaker }, inner,
        result.mapError (wrapError server))

/-- `Query`: a call whose request is the wrapped querier's `Query`. -/
def query {σ : Type} (client : CircuitBreakerClient) (server : String) (created start finish : Int)
    (inner : σ) (req : σ → σ × Except String Response) :
    CircuitBreakerClient × σ × Except String Response :=
  client.call server created start finish inner req

/-- `QueryMultiple`: a call whose request is the wrapped querier's `QueryMultiple`, failing when it
returns an error, whatever responses it returns with it. -/
def queryMultiple {σ : Type} (client : CircuitBreakerClient) (server : String)
    (created start finish : Int) (inner : σ) (req : σ → σ × (List Response × Option String)) :
    CircuitBreakerClient × σ × Except String (List Response) :=
  client.call server created start finish inner fun inner =>
    match req inner with
    | (inner, (_, some err)) => (inner, .error err)
    | (inner, (responses, none)) => (inner, .ok responses)

/-- One call of a run through a client: its three readings and its request. -/
structure Call (σ α : Type) where
  /-- The reading at which the server's breaker would be made. -/
  created : Int
  /-- The reading of `beforeRequest`. -/
  start : Int
  /-- The reading of `afterRequest`. -/
  finish : Int
  /-- The wrapped call. -/
  req : σ → σ × Except String α

/-- Calls to one server through the client, one after another: the client, the wrapped layers'
state and the results after them. -/
def callAll {σ α : Type} (client : CircuitBreakerClient) (server : String) (inner : σ) :
    List (Call σ α) → CircuitBreakerClient × σ × List (Except String α)
  | [] => (client, inner, [])
  | c :: rest =>
      let first := client.call server c.created c.start c.finish inner c.req
      let next := callAll first.1 server first.2.1 rest
      (next.1, next.2.1, first.2.2 :: next.2.2)

variable {σ α : Type} {client : CircuitBreakerClient} {server : String}
  {breaker : Gobreaker.CircuitBreaker}

@[simp] theorem getBreakerForServer_insert (breakers : GoMap String Gobreaker.CircuitBreaker)
    (config : Gobreaker.Settings) (server : String) (breaker : Gobreaker.CircuitBreaker) (now : Int) :
    (⟨breakers.insert server breaker, config⟩ : CircuitBreakerClient).getBreakerForServer server now =
      breaker := by
  simp [getBreakerForServer]

theorem callAll_append (client : CircuitBreakerClient) (server : String) (inner : σ)
    (calls more : List (Call σ α)) :
    client.callAll server inner (calls ++ more) =
      let done := client.callAll server inner calls
      let next := done.1.callAll server done.2.1 more
      (next.1, next.2.1, done.2.2 ++ next.2.2) := by
  induction calls generalizing client inner with
  | nil => rfl
  | cons c rest ih => simp [callAll, ih]

/-- A call the server's breaker rejects as open: the client keeps the breaker, and the wrapped call
does not run. -/
theorem call_of_open {expiry start : Int} (current : ∀ now, client.getBreakerForServer server now = breaker)
    (opened : breaker.state = .stateOpen) (expires : breaker.expiry = some expiry)
    (early : start ≤ expiry) (created finish : Int) (inner : σ) (req : σ → σ × Except String α) :
    client.call server created start finish inner req =
      ({ client with breakers := client.breakers.insert server breaker }, inner,
        .error ("circuit breaker open for " ++ server ++ ": circuit breaker is open")) := by
  simp [call, current, Gobreaker.CircuitBreaker.execute_of_open opened expires early, wrapError,
    Except.mapError, Gobreaker.ExecuteError.text, String.append_assoc]

/-- While the server's breaker is open, every call to the server before its timeout has passed is
rejected as open, and none of their wrapped calls runs. -/
theorem callAll_of_open {expiry : Int} (current : ∀ now, client.getBreakerForServer server now = breaker)
    (opened : breaker.state = .stateOpen) (expires : breaker.expiry = some expiry)
    (calls : List (Call σ α)) (early : ∀ c ∈ calls, c.start ≤ expiry) (inner : σ) :
    (client.callAll server inner calls).2 =
      (inner, calls.map fun _ => .error ("circuit breaker open for " ++ server ++
        ": circuit breaker is open")) := by
  induction calls generalizing client with
  | nil => rfl
  | cons c rest ih =>
      have rejected := call_of_open current opened expires (early c (List.mem_cons_self _ _))
        c.created c.finish inner c.req
      simp only [callAll, rejected, List.map_cons]
      rw [ih (fun _ => getBreakerForServer_insert _ _ _ _ _)
        (fun c' mem => early c' (List.mem_cons_of_mem _ mem))]

/-- A failed call in a closed period of the server's breaker whose requests all failed. -/
theorem call_of_failures {k : UInt32} {created start finish : Int}
    (current : client.getBreakerForServer server created = breaker)
    (closed : breaker.state = .stateClosed) (counts : breaker.counts = Gobreaker.Counts.failures k)
    (live : breaker.Live finish) (started : start ≤ finish) {inner inner' : σ}
    {req : σ → σ × Except String α} {err : String} (failed : req inner = (inner', .error err)) :
    client.call server created start finish inner req =
      ({ client with
          breakers := (client.breakers.insert server
            (if breaker.readyToTrip (Gobreaker.Counts.failures (k + 1)) then
              { breaker with state := .stateOpen, generation := breaker.generation + 1,
                             counts := Gobreaker.Counts.clear,
                             expiry := some (finish + breaker.timeout.ns) }
             else { breaker with counts := Gobreaker.Counts.failures (k + 1) })) },
        inner', .error err) := by
  simp [call, current, Gobreaker.CircuitBreaker.execute_of_failures closed counts live started failed,
    wrapError, Except.mapError, Gobreaker.ExecuteError.text]

theorem req_eq_error {req : σ → σ × Except String α} {inner : σ} (failed : (req inner).2.isOk = false) :
    ∃ err, req inner = ((req inner).1, .error err) := by
  cases answer : (req inner).2 with
  | error err => exact ⟨err, Prod.ext rfl answer⟩
  | ok value => simp [answer, Except.isOk, Except.toBool] at failed

/-- Three failed calls that open a period of the server's breaker, the third ending before the
period does, open the breaker until the timeout after the third. -/
theorem callAll_three_failures (inner : σ) (threshold : ℚ) (first second third : Call σ α)
    (current : client.getBreakerForServer server first.created = breaker)
    (periodStart : breaker.state = .stateClosed ∧ breaker.counts = Gobreaker.Counts.clear)
    (trips : breaker.readyToTrip = thresholdTrip threshold) (atMostOne : threshold ≤ 1)
    (ordered : first.start ≤ first.finish ∧ first.finish ≤ second.start ∧
      second.start ≤ second.finish ∧ second.finish ≤ third.start ∧ third.start ≤ third.finish)
    (live : breaker.Live third.finish)
    (failing : ∀ c ∈ [first, second, third], ∀ state, (c.req state).2.isOk = false) :
    ∃ tripped : Gobreaker.CircuitBreaker,
      (∀ now, (client.callAll server inner [first, second, third]).1.getBreakerForServer server now =
        tripped) ∧
      tripped.state = .stateOpen ∧ tripped.expiry = some (third.finish + breaker.timeout.ns) := by
  obtain ⟨closed, cleared⟩ := periodStart
  obtain ⟨s1, s2, s3, s4, s5⟩ := ordered
  have once : breaker.readyToTrip (Gobreaker.Counts.failures (0 + 1)) = false := by rw [trips]; rfl
  have twice : breaker.readyToTrip (Gobreaker.Counts.failures (0 + 1 + 1)) = false := by rw [trips]; rfl
  have thrice : breaker.readyToTrip (Gobreaker.Counts.failures (0 + 1 + 1 + 1)) = true := by
    simpa [trips, thresholdTrip, Gobreaker.Counts.failures] using atMostOne
  obtain ⟨e1, failed1⟩ := req_eq_error (failing first (by simp) inner)
  obtain ⟨e2, failed2⟩ := req_eq_error (failing second (by simp) (first.req inner).1)
  obtain ⟨e3, failed3⟩ := req_eq_error (failing third (by simp) (second.req (first.req inner).1).1)
  refine ⟨{ breaker with
      state := .stateOpen
      generation := breaker.generation + 1
      counts := Gobreaker.Counts.clear
      expiry := some (third.finish + breaker.timeout.ns) }, fun now => ?_, rfl, rfl⟩
  simp only [callAll]
  rw [call_of_failures current closed (cleared.trans Gobreaker.Counts.failures_zero.symm)
    (live.mono (by omega)) s1 failed1]
  simp only [once, Bool.false_eq_true, if_false]
  rw [call_of_failures
    (getBreakerForServer_insert _ _ _ { breaker with counts := Gobreaker.Counts.failures (0 + 1) } _)
    closed rfl (live.mono (by omega)) s3 failed2]
  simp only [twice, Bool.false_eq_true, if_false]
  rw [call_of_failures
    (getBreakerForServer_insert _ _ _ { breaker with counts := Gobreaker.Counts.failures (0 + 1 + 1) } _)
    closed rfl live s5 failed3]
  simp only [thrice, if_true, getBreakerForServer_insert]

/-- Three failed calls through one client to a server, in a closed period of its breaker that they
open and outlast, trip the breaker when its failure threshold is at most one: until its timeout has
passed after the third, every further call of the client to the server is rejected as open, and
none of their wrapped calls runs, so the layers below keep the state the three calls left. -/
theorem callAll_rejects_after_three_failures (client : CircuitBreakerClient) (server : String)
    (breaker : Gobreaker.CircuitBreaker) (threshold : ℚ) (inner : σ) (first second third : Call σ α)
    (later : List (Call σ α)) (current : client.getBreakerForServer server first.created = breaker)
    (periodStart : breaker.state = .stateClosed ∧ breaker.counts = Gobreaker.Counts.clear)
    (trips : breaker.readyToTrip = thresholdTrip threshold) (atMostOne : threshold ≤ 1)
    (ordered : first.start ≤ first.finish ∧ first.finish ≤ second.start ∧
      second.start ≤ second.finish ∧ second.finish ≤ third.start ∧ third.start ≤ third.finish)
    (live : breaker.Live third.finish)
    (failing : ∀ c ∈ [first, second, third], ∀ state, (c.req state).2.isOk = false)
    (early : ∀ c ∈ later, c.start ≤ third.finish + breaker.timeout.ns) :
    (client.callAll server inner ([first, second, third] ++ later)).2 =
      ((client.callAll server inner [first, second, third]).2.1,
        (client.callAll server inner [first, second, third]).2.2 ++
          later.map fun _ => .error ("circuit breaker open for " ++ server ++
            ": circuit breaker is open")) := by
  obtain ⟨tripped, found, opened, expires⟩ := callAll_three_failures inner threshold first second
    third current periodStart trips atMostOne ordered live failing
  rw [callAll_append]
  simp only [callAll_of_open found opened expires later early]

theorem callAll_rejects_after_three_failures_bad_example :
    let client := newCircuitBreakerClient
      (newCircuitBreakerConfigWithThreshold 3 60000000000 30000000000 (3 / 5))
    let timedOut : Nat → Nat × Except String Response :=
      fun exchanges => (exchanges + 1, .error "i/o timeout")
    let answered : Nat → Nat × Except String Response :=
      fun exchanges => (exchanges + 1, .ok ⟨"bad.example", 0, 0, 2, ⟨0, 0⟩, 0, 0, 0, 0, 0, none, ""⟩)
    let failures : List (Call Nat Response) := [⟨0, 0, 1000000000, timedOut⟩,
      ⟨2000000000, 2000000000, 3000000000, timedOut⟩, ⟨4000000000, 4000000000, 5000000000, timedOut⟩]
    (client.callAll "bad.example" 0 (failures ++ [⟨20000000000, 20000000000, 21000000000, answered⟩])).2 =
      ((client.callAll "bad.example" 0 failures).2.1, (client.callAll "bad.example" 0 failures).2.2 ++
        [.error "circuit breaker open for bad.example: circuit breaker is open"]) := by
  intro client timedOut answered failures
  exact callAll_rejects_after_three_failures client "bad.example" _ (3 / 5) 0 _ _ _ _ rfl ⟨rfl, rfl⟩
    rfl (by norm_num) (by decide) (by decide)
    (by simp [failures, timedOut, Except.isOk, Except.toBool]) (by decide)

end CircuitBreakerClient

end NtpExporter
