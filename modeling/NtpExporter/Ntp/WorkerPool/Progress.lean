import NtpExporter.Ntp.WorkerPool.Concurrency

/-!
# One `Execute` call runs to completion

Every action of the goroutines of the calls made lowers a potential: a weight for each
goroutine's program counter, for each job not yet sent or still queued, and for each result still
in the channel. So no run of them is infinite. For a single call on an idle pool with a nonempty
server list and a context that stays live, some action is always enabled until the call has
returned; the call therefore returns on every interleaving, and it returns the map whose keys are
the servers, after exactly one `QueryMultiple` call per position of the list.
-/

namespace NtpExporter

namespace WorkerPool

open Execution

/-- The weight of a worker's program counter: the moves it still has to make. -/
def WorkerPc.weight : WorkerPc → Nat
  | .receiving => 1
  | .selecting _ => 5
  | .querying _ => 4
  | .delivering _ => 3
  | .reporting _ => 2
  | .exited => 0

/-- The weight of a call's own program counter; before the checks it covers the workers the
checks may start, one per server at most. -/
def ExecutePc.weight (servers : Nat) : ExecutePc → Nat
  | .start => servers + 5
  | .submitting => 4
  | .draining | .collecting => 2
  | .returning _ => 1
  | .returned _ => 0

/-- The weight of the closer's program counter. -/
def CloserPc.weight : CloserPc → Nat
  | .waiting => 1
  | _ => 0

/-- What is left to do for a call. -/
def Execution.potential (e : Execution) : Nat :=
  e.pc.weight e.servers.length + 8 * (e.servers.length - e.sent) + 7 * e.jobs.length +
    (e.workers.map WorkerPc.weight).sum + e.results.length + e.closer.weight

/-- What is left to do for all calls. -/
def potential (pool : WorkerPool) : Nat := (pool.executions.map Execution.potential).sum

namespace Execution

variable {size : Nat} {e e' : Execution} {move : Move}

/-- A worker that has not returned moves to `next`: the weight of the workers changes by the
difference of the two weights. -/
theorem weight_set {worker : Nat} {pc : WorkerPc} (found : e.workers[worker]? = some pc)
    (next : WorkerPc) :
    ((e.workers.set worker next).map WorkerPc.weight).sum + pc.weight =
      (e.workers.map WorkerPc.weight).sum + next.weight :=
  sum_map_set found next WorkerPc.weight

/-- Every move other than a context becoming done lowers the potential of a call. -/
theorem Invariant.potential_lt (inv : e.Invariant size) (h : e.step move = some e')
    (internal : ∀ err, move ≠ .cancel err) : e'.potential < e.potential := by
  cases move with
  | cancel err => exact absurd rfl (internal err)
  | submit =>
      obtain ⟨_, submitting, found, -, rfl⟩ := submit_eq h
      have bound := (List.getElem?_eq_some_iff.mp found).1
      simp only [potential, List.length_append, List.length_singleton]
      omega
  | abandon =>
      obtain ⟨submitting, -, -, rfl⟩ := abandon_eq h
      simp [potential, submitting, ExecutePc.weight]
  | closeJobs =>
      obtain ⟨submitting, -, rfl⟩ := closeJobs_eq h
      simp only [potential, submitting, ExecutePc.weight, CloserPc.weight,
        (inv.submitting (.inr submitting)).2]
      omega
  | wait =>
      obtain ⟨_, draining, -, -, rfl⟩ := wait_eq h
      simp [potential, draining, ExecutePc.weight]
  | receive =>
      obtain ⟨collecting, ⟨_, _, results, rfl⟩ | ⟨-, -, rfl⟩⟩ := receive_eq h
      · simp [potential, results]
      · simp [potential, collecting, ExecutePc.weight]
  | closeResults =>
      obtain ⟨waiting, -, rfl⟩ := closeResults_eq h
      simp [potential, waiting, CloserPc.weight]
  | take worker =>
      obtain ⟨found, ⟨job, _, jobs, rfl⟩ | ⟨-, -, rfl⟩⟩ := take_eq h
      · have := weight_set found (.selecting job)
        simp only [potential, jobs, List.length_cons, WorkerPc.weight] at this ⊢
        omega
      · have := weight_set found .exited
        simp only [potential, WorkerPc.weight] at this ⊢
        omega
  | check worker =>
      obtain ⟨job, found, ⟨-, rfl⟩ | ⟨-, rfl⟩⟩ := check_eq h
      · have := weight_set found (.reporting job)
        simp only [potential, WorkerPc.weight] at this ⊢
        omega
      · have := weight_set found (.querying job)
        simp only [potential, WorkerPc.weight] at this ⊢
        omega
  | complete worker responses error duration =>
      obtain ⟨job, found, rfl⟩ := complete_eq h
      have := weight_set found (.delivering ⟨job.server, responses, error, duration⟩)
      simp only [potential, WorkerPc.weight] at this ⊢
      omega
  | deliver worker =>
      obtain ⟨result, found, sent⟩ := deliver_eq h
      rcases sendResult_eq sent with ⟨closed, -⟩ | ⟨-, -, rfl⟩
      · simp [(inv.live found (by simp)).2.2.1] at closed
      · have := weight_set found .receiving
        simp only [potential, List.length_append, List.length_singleton, WorkerPc.weight] at this ⊢
        omega
  | drop worker =>
      obtain ⟨result, found, -, rfl⟩ := drop_eq h
      have := weight_set found .exited
      simp only [potential, WorkerPc.weight] at this ⊢
      omega
  | report worker =>
      obtain ⟨job, err, found, -, sent⟩ := report_eq h
      rcases sendResult_eq sent with ⟨closed, -⟩ | ⟨-, -, rfl⟩
      · simp [(inv.live found (by simp)).2.2.1] at closed
      · have := weight_set found .exited
        simp only [potential, List.length_append, List.length_singleton, WorkerPc.weight] at this ⊢
        omega

end Execution

variable {pool next : WorkerPool}

/-- Every action of the goroutines of the calls made lowers the potential. -/
theorem potential_lt {action : Action} (inv : pool.Invariant) (internal : action.Internal)
    (h : pool.step action = some next) : next.potential < pool.potential := by
  cases action with
  | call servers samples => exact internal.elim
  | start index =>
      obtain ⟨e, found, start, cases⟩ := start_eq h
      have lower : ∀ e', e'.potential < e.potential →
          (pool.update index e').potential < pool.potential := fun e' lower => by
        have := sum_map_set found e' Execution.potential
        simp only [potential, update_executions]
        omega
      have none := (inv.executions e (List.getElem?_mem found)).unstarted start
      rcases cases with ⟨-, rfl⟩ | ⟨-, -, rfl⟩ | ⟨-, -, rfl⟩
      · exact lower _ (by simp only [Execution.potential, start, ExecutePc.weight]; omega)
      · exact lower _ (by simp only [Execution.potential, start, ExecutePc.weight]; omega)
      · refine lower _ ?_
        have count := min_le_right pool.size e.servers.length
        simp only [Execution.potential, Execution.spawn, start, none, ExecutePc.weight,
          List.map_nil, List.sum_nil, List.map_replicate, List.sum_replicate, Nat.nsmul_eq_mul,
          WorkerPc.weight, mul_one]
        omega
  | unlock index =>
      obtain ⟨e, outcome, found, returning, rfl⟩ := unlock_eq h
      have := sum_map_set found { e with pc := .returned outcome } Execution.potential
      simp only [Execution.potential, returning, ExecutePc.weight] at this
      simp only [potential, update_executions]
      omega
  | move index move =>
      obtain ⟨e, e', found, stepped, rfl⟩ := move_eq h
      have lower := (inv.executions e (List.getElem?_mem found)).potential_lt stepped
        (fun err same => by simp [Action.Internal, same] at internal)
      have := sum_map_set found e' Execution.potential
      simp only [potential, update_executions]
      omega

/-- The actions of the goroutines of the calls made, without new calls or contexts becoming
done, as a relation from a state to the next. -/
def Internal (next pool : WorkerPool) : Prop :=
  ∃ action, Action.Internal action ∧ pool.step action = some next

/-- No run of the goroutines' actions from a reachable state is infinite. -/
theorem terminates (inv : pool.Invariant) : Acc Internal pool := by
  generalize bound : pool.potential = measure
  induction measure using Nat.strong_induction_on generalizing pool with
  | _ measure smaller =>
      subst bound
      exact .intro _ fun next ⟨_, internal, stepped⟩ =>
        smaller _ (potential_lt inv internal stepped) (inv.step stepped) rfl

/-! ## A single call -/

/-- The pool made by `NewWorkerPool(size)` with one call `Execute(ctx, servers, samples)` made. -/
def called (size : Int) (servers : List String) (samples : Int) : WorkerPool :=
  { newWorkerPool size with executions := [begin servers samples] }

theorem step_call (size : Int) (servers : List String) (samples : Int) :
    (newWorkerPool size).step (.call servers samples) = some (called size servers samples) := rfl

/-- The states of a run of one call on `servers`: the call alone on the pool, with its context
live, and with its workers started once it is past its checks. -/
structure Solo (servers : List String) (pool : WorkerPool) : Prop where
  /-- The pool's invariant. -/
  invariant : pool.Invariant
  /-- The one call. -/
  single : ∃ e, pool.executions = [e] ∧ e.servers = servers ∧ e.done = none ∧
    (e.pc = .start ∨ e.workers ≠ [])

theorem solo_called (size : Int) (servers : List String) (samples : Int) :
    (called size servers samples).Solo servers :=
  ⟨(Invariant.initial size).call servers samples, begin servers samples, rfl, rfl, rfl, .inl rfl⟩

/-- The goroutines' actions keep a call on a nonempty list alone, live and with its workers. -/
theorem Solo.step {servers : List String} {action : Action} (solo : pool.Solo servers)
    (internal : action.Internal) (nonempty : servers ≠ []) (h : pool.step action = some next) :
    next.Solo servers := by
  obtain ⟨e, single, named, live, started⟩ := solo.single
  have mem : e ∈ pool.executions := by simp [single]
  refine ⟨solo.invariant.step h, ?_⟩
  cases action with
  | call servers samples => exact internal.elim
  | start index =>
      obtain ⟨e', found, start, cases⟩ := start_eq h
      obtain ⟨rfl, same⟩ : index = 0 ∧ e' = e := by
        rw [single] at found
        cases index <;> simp_all
      subst e'
      have idle : pool.running = false := by
        have held := solo.invariant.holders
        simp only [holders, single, start, List.map_cons, List.map_nil, List.sum_cons,
          List.sum_nil, ExecutePc.owns] at held
        cases running : pool.running <;> simp_all
      rcases cases with ⟨empty, -⟩ | ⟨-, running, -⟩ | ⟨-, -, rfl⟩
      · exact absurd (named ▸ empty) nonempty
      · simp [idle] at running
      · refine ⟨e.spawn pool.size, by simp [single], named, live, .inr ?_⟩
        have := (solo.invariant.executions e mem).spawn start (named ▸ nonempty) pool.size_pos
        exact this.spawned (by simp [Execution.spawn, ExecutePc.owns])
  | unlock index =>
      obtain ⟨e', outcome, found, returning, rfl⟩ := unlock_eq h
      obtain ⟨rfl, same⟩ : index = 0 ∧ e' = e := by
        rw [single] at found
        cases index <;> simp_all
      subst e'
      exact ⟨{ e with pc := .returned outcome }, by simp [single], named, live,
        .inr (started.resolve_left (by simp [returning]))⟩
  | move index move =>
      obtain ⟨e', e'', found, stepped, rfl⟩ := move_eq h
      obtain ⟨rfl, same⟩ : index = 0 ∧ e' = e := by
        rw [single] at found
        cases index <;> simp_all
      subst e'
      obtain ⟨context, pc, -, servers, workers⟩ := step_frame stepped
      refine ⟨e'', by simp [single], servers.trans named, ?_, ?_⟩
      · rcases context with same | ⟨err, rfl, -⟩
        · exact same.trans live
        · exact internal.elim
      · rcases started with start | nonempty
        · left
          rcases pc with same | ⟨submitting, -⟩ | ⟨draining | collecting, -⟩ <;> simp_all
        · exact .inr fun none => nonempty (List.length_eq_zero.mp (workers ▸ by simp [none]))

/-- Every run of the goroutines' actions keeps a call on a nonempty list alone, live and with its
workers. -/
theorem Solo.runs {servers : List String} (solo : pool.Solo servers) (nonempty : servers ≠ [])
    (run : Runs Action.Internal pool next) : next.Solo servers := by
  induction run with
  | refl => exact solo
  | tail _ step holds =>
      obtain ⟨_, internal, stepped⟩ := step
      exact holds.step internal nonempty stepped

/-- An action on the one call of a pool is the call's move. -/
theorem step_move_single {e : Execution} (single : pool.executions = [e]) (move : Move) :
    (pool.step (.move 0 move)).isSome = (e.step move).isSome := by
  simp [WorkerPool.step, single]

/-- Until the call has returned, some action of its goroutines is enabled. -/
theorem Solo.enabled {servers : List String} {e : Execution} (solo : pool.Solo servers)
    (single : pool.executions = [e]) (pending : ∀ outcome, e.pc ≠ .returned outcome) :
    ∃ action, action.Internal ∧ (pool.step action).isSome := by
  obtain ⟨e', single', -, live, started⟩ := solo.single
  obtain rfl : e = e' := by simpa [single] using single'
  have inv := solo.invariant.executions e (by simp [single])
  have flow := solo.invariant.flows e (by simp [single]) live
  have moving : ∀ move, Action.Internal (.move 0 move) → (e.step move).isSome →
      ∃ action, action.Internal ∧ (pool.step action).isSome :=
    fun move internal enabled =>
      ⟨.move 0 move, internal, by rw [step_move_single single]; exact enabled⟩
  cases pc : e.pc with
  | start =>
      refine ⟨.start 0, trivial, ?_⟩
      simp only [WorkerPool.step, WorkerPool.start, single, List.getElem?_cons_zero, pc]
      split_ifs <;> rfl
  | submitting =>
      by_cases more : e.sent < e.servers.length
      · refine moving .submit trivial ?_
        have room := lt_of_le_of_lt inv.jobs_le more
        simp [Execution.step, Execution.submit, pc, List.getElem?_eq_getElem more, room]
      · refine moving .closeJobs trivial ?_
        simp [Execution.step, Execution.closeJobs, pc, le_antisymm inv.sent_le (not_lt.mp more)]
  | draining => exact absurd pc flow.not_draining
  | collecting =>
      obtain ⟨closedJobs, -, closer⟩ := inv.collecting pc
      cases results : e.results with
      | cons result rest =>
          exact moving .receive trivial (by simp [Execution.step, Execution.receive, pc, results])
      | nil =>
      cases closed : e.resultsClosed
      case true =>
        exact moving .receive trivial
          (by simp [Execution.step, Execution.receive, pc, results, closed])
      have waiting : e.closer = .waiting := by
        cases closing : e.closer
        · exact absurd closing closer
        · rfl
        · simp [inv.closed_iff.mpr closing] at closed
      by_cases done : e.workersDone
      · exact moving .closeResults trivial
          (by simp [Execution.step, Execution.closeResults, waiting, done])
      obtain ⟨worker, busy, running⟩ : ∃ worker ∈ e.workers, worker ≠ .exited := by
        simpa [workersDone_iff, Idle] using done
      obtain ⟨index, found⟩ := List.mem_iff_getElem?.mp busy
      cases worker with
      | receiving =>
          refine moving (.take index) trivial ?_
          cases jobs : e.jobs <;>
            simp [Execution.step, Execution.take, found, jobs, closedJobs]
      | selecting job =>
          exact moving (.check index) trivial
            (by simp [Execution.step, Execution.check, found, live])
      | querying job =>
          exact moving (.complete index [] none 0) trivial
            (by simp [Execution.step, Execution.complete, found])
      | delivering result =>
          have servers : 0 < e.servers.length :=
            lt_of_lt_of_le (List.length_pos.mpr (List.ne_nil_of_mem busy)) inv.workers_le_servers
          exact moving (.deliver index) trivial (by
            simp [Execution.step, Execution.deliver, Execution.sendResult, found, closed,
              results, servers])
      | reporting job => exact absurd busy (flow.not_reporting job)
      | exited => exact absurd rfl running
  | returning outcome =>
      exact ⟨.unlock 0, trivial, by simp [WorkerPool.step, WorkerPool.unlock, single, pc]⟩
  | returned outcome => exact absurd pc (pending outcome)

/-- What a call returns when it has run on its own: one `QueryMultiple` call per position of the
list, and the map with the servers as keys, each holding the answer to a call for it. -/
structure Execution.Complete (e : Execution) (results : GoMap String JobResult) : Prop where
  /-- Each position of the list was called exactly once. -/
  once : ((e.calls.map Job.index : List Nat) : Multiset Nat) =
    ((List.range e.servers.length : List Nat) : Multiset Nat)
  /-- Each call was for the server at its position. -/
  positions : ∀ job ∈ e.calls, e.servers[job.index]? = some job.server
  /-- The map's keys are the servers. -/
  keys : ∀ server, server ∈ results ↔ server ∈ e.servers
  /-- Each value is what a call for its key answered. -/
  values : ∀ server result, results.lookup server = some result →
    ∃ job ∈ e.calls, job.server = server ∧ (job, result) ∈ e.answers

/-- A sum over idle workers of something a returned worker does not hold. -/
theorem sum_idle {M : Type} [AddCommMonoid M] {e : Execution} (idle : e.Idle)
    (f : WorkerPc → M) (exited : f .exited = 0) : (e.workers.map f).sum = 0 :=
  List.sum_eq_zero fun value mem => by
    obtain ⟨worker, member, rfl⟩ := List.mem_map.mp mem
    rw [idle worker member, exited]

/-- A call that has returned after running on its own returns the map of one answer per server. -/
theorem Solo.complete {servers : List String} {e : Execution} {outcome}
    (solo : pool.Solo servers) (nonempty : servers ≠ []) (single : pool.executions = [e])
    (returned : e.pc = .returned outcome) :
    ∃ results, outcome = .ok results ∧ e.Complete results := by
  obtain ⟨e', single', named, live, started⟩ := solo.single
  obtain rfl : e = e' := by simpa [single] using single'
  have inv := solo.invariant.executions e (by simp [single])
  have flow := solo.invariant.flows e (by simp [single]) live
  have workers := started.resolve_left (by simp [returned])
  have idle := inv.settled_idle (by simp [returned, ExecutePc.settled])
  obtain ⟨results, jobs, sent, -, outcome⟩ := flow.returned outcome (.inr returned) workers
  have indices := flow.indices
  have servers := flow.servers
  rw [sum_idle idle _ rfl, jobs, sent] at indices
  rw [sum_idle idle _ rfl, jobs, results, sent, List.take_length] at servers
  simp only [List.map_nil, Multiset.coe_nil, zero_add] at indices servers
  have keys : ∀ server, server ∈ e.collected ↔ server ∈ e.servers := fun server => by
    rw [inv.collected_mem, ← Multiset.mem_coe, ← servers, Multiset.mem_coe, List.mem_map]
  have filled : e.collected.entries.length ≠ 0 := by
    obtain ⟨server, mem⟩ := List.exists_mem_of_ne_nil _ (named ▸ nonempty)
    obtain ⟨result, found⟩ :=
      AList.lookup_isSome.mpr ((keys server).mpr mem) |> Option.isSome_iff_exists.mp
    exact List.length_pos.mpr (List.ne_nil_of_mem (AList.mem_lookup_iff.mp found)) |>.ne'
  refine ⟨e.collected, by simp [outcome, filled], indices, fun job mem => inv.positions job
    (by simp [mem]), keys, fun server result found => ?_⟩
  obtain ⟨received, server⟩ := inv.collected_lookup server result found
  obtain ⟨job, answer⟩ := flow.sourced result (by simp [received])
  obtain ⟨called, same⟩ := inv.answered job result answer
  exact ⟨job, called, same ▸ server, answer⟩

/-- What one `Execute(ctx, servers, samples)` call on a pool made by `NewWorkerPool(size)` does
when its context stays live: every interleaving of its goroutines is finite; until the call has
returned some goroutine can move; and the call returns the map of one answer per server, after one
`QueryMultiple` call per position of the list. -/
structure Completes (size : Int) (servers : List String) (samples : Int) : Prop where
  /-- No interleaving is infinite. -/
  finite : Acc Internal (called size servers samples)
  /-- The call stays alone on the pool, on its list. -/
  single : ∀ pool, Runs Action.Internal (called size servers samples) pool →
    ∃ e, pool.executions = [e] ∧ e.servers = servers
  /-- Until the call has returned, some goroutine can move. -/
  progress : ∀ pool e, Runs Action.Internal (called size servers samples) pool →
    pool.executions = [e] → (∀ outcome, e.pc ≠ .returned outcome) →
    ∃ action next, action.Internal ∧ pool.step action = some next
  /-- The call returns the map of one answer per server. -/
  returns : ∀ pool e outcome, Runs Action.Internal (called size servers samples) pool →
    pool.executions = [e] → e.pc = .returned outcome →
    ∃ results, outcome = .ok results ∧ e.Complete results

/-- An `Execute` call on a nonempty list, alone on an idle pool and with its context live, returns
on every interleaving the map of one answer per server, after one `QueryMultiple` call per
position of the list. -/
theorem execute_completes (size : Int) (servers : List String) (samples : Int)
    (nonempty : servers ≠ []) : Completes size servers samples where
  finite := terminates (solo_called size servers samples).invariant
  single pool run := by
    obtain ⟨e, single, named, -⟩ := ((solo_called size servers samples).runs nonempty run).single
    exact ⟨e, single, named⟩
  progress pool e run single pending := by
    obtain ⟨action, internal, enabled⟩ :=
      ((solo_called size servers samples).runs nonempty run).enabled single pending
    obtain ⟨next, stepped⟩ := Option.isSome_iff_exists.mp enabled
    exact ⟨action, next, internal, stepped⟩
  returns pool e outcome run single returned :=
    ((solo_called size servers samples).runs nonempty run).complete nonempty single returned

theorem execute_completes_three :
    ["192.0.2.1", "192.0.2.2", "192.0.2.3"] ≠ [] ∧
      Completes 2 ["192.0.2.1", "192.0.2.2", "192.0.2.3"] 3 :=
  ⟨by simp, execute_completes 2 _ 3 (by simp)⟩

end WorkerPool

end NtpExporter
