import NtpExporter.Ntp.Response
import NtpExporter.Go.Map

/-!
# The worker pool as a transition system

`WorkerPool.Execute` runs one job per server on `min(size, len(servers))` workers fed through a
buffered jobs channel and gathers their results from a buffered results channel into a map, while
a closer goroutine closes that channel once every worker is done. Every goroutine of every call has
a program counter and each channel, of capacity `len(servers)`, a buffer and a closed flag; one
step is one atomic action: a channel operation, a `select`'s branch, or a region under the pool's
mutex. `QueryMultiple` starts at one step and returns at a later one with the environment's answer;
ghost logs record the calls, answers and results received, and a send on the closed results
channel is recorded as `panicked`.
-/

namespace NtpExporter

namespace WorkerPool

/-- `ctx.Err()` of a done context. -/
inductive CtxErr
  /-- `context.Canceled`. -/
  | canceled
  /-- `context.DeadlineExceeded`. -/
  | deadlineExceeded
  deriving DecidableEq

/-- The text of a done context's error. -/
def CtxErr.text : CtxErr → String
  | .canceled => "context canceled"
  | .deadlineExceeded => "context deadline exceeded"

/-- A `Job`. Its `Ctx`, `Samples` and `ResultCh` are those of the `Execute` call that sent it. -/
structure Job where
  /-- The position of the job's server in the list (ghost). -/
  index : Nat
  /-- `Server`. -/
  server : String
  deriving DecidableEq

/-- `JobResult`. -/
structure JobResult where
  /-- `Server`. -/
  server : String
  /-- `Responses`. -/
  responses : List Response
  /-- `Error`: its text, if any. -/
  error : Option String
  /-- `Duration`: the time `processJob` measured. -/
  duration : Duration
  deriving DecidableEq

/-- Where a worker goroutine is. -/
inductive WorkerPc
  /-- At the head of `for job := range jobs`. -/
  | receiving
  /-- Holding `job`, at the `select` on `ctx.Done()` with a `default`. -/
  | selecting (job : Job)
  /-- In `processJob`: the `QueryMultiple` call for `job` is in progress. -/
  | querying (job : Job)
  /-- Holding `result`, at the `select` between sending it and `ctx.Done()`. -/
  | delivering (result : JobResult)
  /-- Having seen the context done with `job` in hand: sending the context's error. -/
  | reporting (job : Job)
  /-- Returned, after `wg.Done()`. -/
  | exited
  deriving DecidableEq

/-- Where the goroutine of an `Execute` call is. -/
inductive ExecutePc
  /-- Called, before its checks. -/
  | start
  /-- In the loop sending the jobs. -/
  | submitting
  /-- The context seen done while sending: the jobs channel closed, in `wg.Wait()`. -/
  | draining
  /-- Ranging over the results channel. -/
  | collecting
  /-- At a `return` that set `running`, with the deferred reset still to run. -/
  | returning (outcome : Except String (GoMap String JobResult))
  /-- Returned. -/
  | returned (outcome : Except String (GoMap String JobResult))

/-- Where the goroutine that closes the results channel is. -/
inductive CloserPc
  /-- Not started yet. -/
  | unstarted
  /-- In `wg.Wait()`. -/
  | waiting
  /-- Done: the results channel is closed. -/
  | finished
  deriving DecidableEq

/-- One `Execute` call with the goroutines it started. -/
structure Execution where
  /-- The `servers` argument. -/
  servers : List String
  /-- The `samples` argument. -/
  samples : Int
  /-- `ctx.Err()`: `none` while the caller's context is live. -/
  done : Option CtxErr
  /-- The `Execute` goroutine. -/
  pc : ExecutePc
  /-- The submission loop's position: the jobs sent so far. -/
  sent : Nat
  /-- The worker goroutines. -/
  workers : List WorkerPc
  /-- The buffer of `jobsCh`. -/
  jobs : List Job
  /-- `jobsCh` is closed. -/
  jobsClosed : Bool
  /-- The buffer of `resultsCh`. -/
  results : List JobResult
  /-- `resultsCh` is closed. -/
  resultsClosed : Bool
  /-- The goroutine that closes `resultsCh`. -/
  closer : CloserPc
  /-- The `results` map. -/
  collected : GoMap String JobResult
  /-- The `QueryMultiple` calls made, oldest first (ghost). -/
  calls : List Job
  /-- Each call's answer as `processJob` wrapped it, oldest first (ghost). -/
  answers : List (Job × JobResult)
  /-- The results the collector received, oldest first (ghost). -/
  received : List JobResult
  /-- A goroutine panicked on a send to the closed results channel. -/
  panicked : Bool

namespace Execution

/-- A call to `Execute(ctx, servers, samples)`, before it runs. -/
def begin (servers : List String) (samples : Int) : Execution where
  servers := servers
  samples := samples
  done := none
  pc := .start
  sent := 0
  workers := []
  jobs := []
  jobsClosed := false
  results := []
  resultsClosed := false
  closer := .unstarted
  collected := ∅
  calls := []
  answers := []
  received := []
  panicked := false

/-- The call past its checks: `workerCount = min(size, len(servers))` workers started. -/
def spawn (e : Execution) (size : Nat) : Execution :=
  { e with pc := .submitting, workers := List.replicate (min size e.servers.length) .receiving }

/-- Every worker has returned: what `wg.Wait()` waits for. -/
def workersDone (e : Execution) : Bool := e.workers.all (· == .exited)

/-- Worker `worker` sends `result` on `resultsCh` and moves to `next`: a panic once the channel
is closed, blocked while it is full. -/
def sendResult (e : Execution) (worker : Nat) (result : JobResult) (next : WorkerPc) :
    Option Execution :=
  if e.resultsClosed then some { e with panicked := true }
  else if e.results.length < e.servers.length then
    some { e with results := e.results ++ [result], workers := e.workers.set worker next }
  else none

/-! ## The moves of one call's goroutines -/

/-- The caller's context becomes done. -/
def cancel (e : Execution) (err : CtxErr) : Option Execution :=
  match e.done with
  | none => some { e with done := some err }
  | some _ => none

/-- One turn of the submission loop: the next job sent on `jobsCh`. -/
def submit (e : Execution) : Option Execution :=
  match e.pc, e.servers[e.sent]? with
  | .submitting, some server =>
      if e.jobs.length < e.servers.length then
        some { e with jobs := e.jobs ++ [⟨e.sent, server⟩], sent := e.sent + 1 }
      else none
  | _, _ => none

/-- The submission loop's `select` takes `<-ctx.Done()`: `jobsCh` closed, then `wg.Wait()`. -/
def abandon (e : Execution) : Option Execution :=
  match e.pc, e.done with
  | .submitting, some _ =>
      if e.sent < e.servers.length then some { e with jobsClosed := true, pc := .draining }
      else none
  | _, _ => none

/-- The submission loop over: `jobsCh` closed and the closer started. -/
def closeJobs (e : Execution) : Option Execution :=
  match e.pc with
  | .submitting =>
      if e.sent = e.servers.length then
        some { e with jobsClosed := true, closer := .waiting, pc := .collecting }
      else none
  | _ => none

/-- `wg.Wait()` after abandoning returns: `return nil, ctx.Err()`. -/
def wait (e : Execution) : Option Execution :=
  match e.pc, e.done with
  | .draining, some err =>
      if e.workersDone then some { e with pc := .returning (.error err.text) } else none
  | _, _ => none

/-- One turn of `for result := range resultsCh`, and the checks after the loop. -/
def receive (e : Execution) : Option Execution :=
  match e.pc, e.results with
  | .collecting, result :: rest =>
      some { e with results := rest, collected := e.collected.insert result.server result,
                    received := e.received ++ [result] }
  | .collecting, [] =>
      if e.resultsClosed then
        some { e with pc := .returning (if e.collected.entries.length = 0
          then .error "no results collected" else .ok e.collected) }
      else none
  | _, _ => none

/-- The closer: `wg.Wait()` returns, then `close(resultsCh)`. -/
def closeResults (e : Execution) : Option Execution :=
  match e.closer with
  | .waiting =>
      if e.workersDone then some { e with resultsClosed := true, closer := .finished } else none
  | _ => none

/-- One turn of a worker's `for job := range jobs`: a job received, or the loop over once
`jobsCh` is closed and drained. -/
def take (e : Execution) (worker : Nat) : Option Execution :=
  match e.workers[worker]?, e.jobs with
  | some .receiving, job :: rest =>
      some { e with jobs := rest, workers := e.workers.set worker (.selecting job) }
  | some .receiving, [] =>
      if e.jobsClosed then some { e with workers := e.workers.set worker .exited } else none
  | _, _ => none

/-- A worker's `select` on `ctx.Done()` with a `default`: the error branch once the context is
done, and otherwise `processJob`, which calls `QueryMultiple`. -/
def check (e : Execution) (worker : Nat) : Option Execution :=
  match e.workers[worker]?, e.done with
  | some (.selecting job), some _ =>
      some { e with workers := e.workers.set worker (.reporting job) }
  | some (.selecting job), none =>
      some { e with workers := e.workers.set worker (.querying job), calls := e.calls ++ [job] }
  | _, _ => none

/-- A worker's `QueryMultiple` call returns `responses` and `error` after `duration`. -/
def complete (e : Execution) (worker : Nat) (responses : List Response) (error : Option String)
    (duration : Duration) : Option Execution :=
  match e.workers[worker]? with
  | some (.querying job) =>
      let result : JobResult := ⟨job.server, responses, error, duration⟩
      some { e with workers := e.workers.set worker (.delivering result),
                    answers := e.answers ++ [(job, result)] }
  | _ => none

/-- A worker's `select` sends its result, and the worker goes back to its loop. -/
def deliver (e : Execution) (worker : Nat) : Option Execution :=
  match e.workers[worker]? with
  | some (.delivering result) => e.sendResult worker result .receiving
  | _ => none

/-- A worker's `select` takes `<-ctx.Done()` instead of sending its result: it returns. -/
def drop (e : Execution) (worker : Nat) : Option Execution :=
  match e.workers[worker]?, e.done with
  | some (.delivering _), some _ => some { e with workers := e.workers.set worker .exited }
  | _, _ => none

/-- A worker that saw the context done sends the context's error for its job, and returns. -/
def report (e : Execution) (worker : Nat) : Option Execution :=
  match e.workers[worker]?, e.done with
  | some (.reporting job), some err =>
      e.sendResult worker ⟨job.server, [], some err.text, 0⟩ .exited
  | _, _ => none

/-- An atomic action of one of the call's goroutines, or of its caller's context. -/
inductive Move
  /-- `cancel`. -/
  | cancel (err : CtxErr)
  /-- `submit`. -/
  | submit
  /-- `abandon`. -/
  | abandon
  /-- `closeJobs`. -/
  | closeJobs
  /-- `wait`. -/
  | wait
  /-- `receive`. -/
  | receive
  /-- `closeResults`. -/
  | closeResults
  /-- `take`. -/
  | take (worker : Nat)
  /-- `check`. -/
  | check (worker : Nat)
  /-- `complete`. -/
  | complete (worker : Nat) (responses : List Response) (error : Option String)
      (duration : Duration)
  /-- `deliver`. -/
  | deliver (worker : Nat)
  /-- `drop`. -/
  | drop (worker : Nat)
  /-- `report`. -/
  | report (worker : Nat)

/-- The call after `move`, if `move` can be taken. -/
def step (e : Execution) : Move → Option Execution
  | .cancel err => e.cancel err
  | .submit => e.submit
  | .abandon => e.abandon
  | .closeJobs => e.closeJobs
  | .wait => e.wait
  | .receive => e.receive
  | .closeResults => e.closeResults
  | .take worker => e.take worker
  | .check worker => e.check worker
  | .complete worker responses error duration => e.complete worker responses error duration
  | .deliver worker => e.deliver worker
  | .drop worker => e.drop worker
  | .report worker => e.report worker

end Execution

end WorkerPool

/-- A `WorkerPool` with the `Execute` calls made on it; `querier` is the environment. -/
structure WorkerPool where
  /-- `size`. -/
  size : Nat
  /-- `NewWorkerPool` never leaves the size below one. -/
  size_pos : 0 < size
  /-- `running`, guarded by `mu`. -/
  running : Bool
  /-- The `Execute` calls made on the pool, in the order they were made. -/
  executions : List WorkerPool.Execution

namespace WorkerPool

open Execution

/-- `NewWorkerPool`: a size of zero or less becomes one. -/
def newWorkerPool (size : Int) : WorkerPool where
  size := if size ≤ 0 then 1 else size.toNat
  size_pos := by split <;> omega
  running := false
  executions := []

/-- The pool with call `index` replaced by `e`. -/
def update (pool : WorkerPool) (index : Nat) (e : Execution) : WorkerPool :=
  { pool with executions := pool.executions.set index e }

/-- The checks of call `index`, the second one under `mu`: an empty list or a running pool ends
the call, and otherwise it sets `running` and starts its workers. -/
def start (pool : WorkerPool) (index : Nat) : Option WorkerPool :=
  match pool.executions[index]? with
  | some e =>
      match e.pc with
      | .start =>
          if e.servers = [] then
            some (pool.update index { e with pc := .returned (.error "no servers to query") })
          else if pool.running then
            some (pool.update index
              { e with pc := .returned (.error "worker pool already running") })
          else some { pool.update index (e.spawn pool.size) with running := true }
      | _ => none
  | none => none

/-- The deferred function of call `index`: `running` reset under `mu`, and the call returns. -/
def unlock (pool : WorkerPool) (index : Nat) : Option WorkerPool :=
  match pool.executions[index]? with
  | some e =>
      match e.pc with
      | .returning outcome =>
          some { pool.update index { e with pc := .returned outcome } with running := false }
      | _ => none
  | none => none

/-- An atomic action of the system: a new `Execute` call, one of a call's mutex regions, or a move
of one of its goroutines. -/
inductive Action
  /-- A caller calls `Execute(ctx, servers, samples)`. -/
  | call (servers : List String) (samples : Int)
  /-- `start`. -/
  | start (execution : Nat)
  /-- `unlock`. -/
  | unlock (execution : Nat)
  /-- A move of call `execution`. -/
  | move (execution : Nat) (move : Move)

/-- The pool after `action`, if `action` can be taken. -/
def step (pool : WorkerPool) : Action → Option WorkerPool
  | .call servers samples =>
      some { pool with executions := pool.executions ++ [begin servers samples] }
  | .start index => pool.start index
  | .unlock index => pool.unlock index
  | .move index move =>
      match pool.executions[index]? with
      | some e => (e.step move).map (pool.update index)
      | none => none

/-- The runs whose every action satisfies `allowed`. -/
def Runs (allowed : Action → Prop) : WorkerPool → WorkerPool → Prop :=
  Relation.ReflTransGen fun pool next => ∃ action, allowed action ∧ pool.step action = some next

/-- An action of the goroutines of the calls already made, other than a context becoming done. -/
def Action.Internal : Action → Prop
  | .call _ _ => False
  | .move _ (.cancel _) => False
  | _ => True

end WorkerPool

end NtpExporter
