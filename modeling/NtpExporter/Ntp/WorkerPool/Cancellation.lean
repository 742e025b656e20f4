import NtpExporter.Ntp.WorkerPool.Progress

/-!
# A context cancelled after dispatch

`Execute` returns the context's error only from the submission loop. Once every job has been sent,
a worker that takes a job and then sees the context done sends the context's error for that job
and returns, the jobs still buffered are never read, and when every worker has returned `Execute`
returns the map of the reports it received, with no error. The interleaving is built here for
every list and pool size: each of the `min(size, len(servers))` workers reports one job, no
`QueryMultiple` call is made, and the other jobs stay in the channel.
-/

namespace NtpExporter

namespace WorkerPool

namespace Execution

/-! ## Sequences of moves -/

/-- The call after `moves`, taken in turn, if each can be taken. -/
def runMoves (e : Execution) : List Move → Option Execution
  | [] => some e
  | move :: moves => (e.step move).bind fun next => next.runMoves moves

theorem runMoves_append (e : Execution) (first second : List Move) :
    e.runMoves (first ++ second) = (e.runMoves first).bind fun next => next.runMoves second := by
  induction first generalizing e with
  | nil => rfl
  | cons move moves ih =>
      simp only [List.cons_append, runMoves]
      cases e.step move <;> simp [ih]

/-! ## The phases of the interleaving -/

/-- The jobs the submission loop sends for `servers`, in order. -/
def jobsOf (servers : List String) : List Job :=
  List.zipWith Job.mk (List.range servers.length) servers

theorem getElem?_jobsOf (servers : List String) (k : Nat) :
    (jobsOf servers)[k]? = servers[k]?.map (Job.mk k) := by
  by_cases lt : k < servers.length
  · simp [jobsOf, List.getElem?_zipWith, lt, List.getElem?_eq_getElem lt]
  · simp [jobsOf, List.getElem?_zipWith, List.getElem?_eq_none (not_lt.mp lt)]

theorem length_jobsOf (servers : List String) : (jobsOf servers).length = servers.length := by
  simp [jobsOf]

/-- The submission loop sends the jobs of the positions not sent yet. -/
theorem runMoves_submit {e : Execution} (submitting : e.pc = .submitting) (k m : Nat)
    (count : k + m = e.servers.length) :
    ({ e with sent := k, jobs := (jobsOf e.servers).take k }).runMoves (List.replicate m .submit) =
      some { e with sent := e.servers.length, jobs := jobsOf e.servers } := by
  induction m generalizing k with
  | zero =>
      obtain rfl : k = e.servers.length := count
      rw [List.take_of_length_le (length_jobsOf _).le]
      rfl
  | succ m ih =>
      have lt : k < e.servers.length := by omega
      have next : ({ e with sent := k, jobs := (jobsOf e.servers).take k }).step .submit =
          some { e with sent := k + 1, jobs := (jobsOf e.servers).take (k + 1) } := by
        simp only [step, submit, submitting, List.getElem?_eq_getElem lt, List.length_take,
          length_jobsOf, min_eq_left lt.le, lt, if_true, List.take_succ, getElem?_jobsOf]
        rfl
      rw [List.replicate_succ, runMoves, next, Option.some_bind]
      exact ih (k + 1) (by omega)

/-- The result a worker sends for `job` when it sees the context done with `err`. -/
def reported (err : CtxErr) (job : Job) : JobResult := ⟨job.server, [], some err.text, 0⟩

/-- A worker at the head of its loop with the context done takes the next job, sees the context
done, sends the context's error for the job and returns. -/
theorem runMoves_take_check_report {e : Execution} {worker : Nat} {err : CtxErr} {job : Job}
    {rest : List Job} (receiving : e.workers[worker]? = some .receiving)
    (jobs : e.jobs = job :: rest) (done : e.done = some err) (opened : e.resultsClosed = false)
    (room : e.results.length < e.servers.length) :
    e.runMoves [.take worker, .check worker, .report worker] =
      some { e with jobs := rest, workers := e.workers.set worker .exited,
                    results := e.results ++ [reported err job] } := by
  have lt : worker < e.workers.length := (List.getElem?_eq_some_iff.mp receiving).1
  simp [runMoves, step, take, check, report, sendResult, receiving, jobs, done, opened, room, lt,
    reported]

/-- Workers `first` onwards, each at the head of its loop with the context done, take the jobs
`pending` in turn: each sends the context's error for its job and returns. -/
theorem runMoves_reports {err : CtxErr} (rest : List Job) (pending : List Job) :
    ∀ {e : Execution} (first : Nat), e.jobs = pending ++ rest →
      e.workers = List.replicate first .exited ++ List.replicate pending.length .receiving →
      e.done = some err → e.resultsClosed = false →
      e.results.length + pending.length ≤ e.servers.length →
      e.runMoves ((List.range' first pending.length).flatMap fun worker =>
          [.take worker, .check worker, .report worker]) =
        some { e with jobs := rest, workers := List.replicate (first + pending.length) .exited,
                      results := e.results ++ pending.map (reported err) } := by
  induction pending with
  | nil =>
      intro e first jobs workers _ _ _
      simp only [List.nil_append, List.length_nil, List.replicate_zero, List.append_nil,
        List.map_nil, Nat.add_zero] at jobs workers ⊢
      rw [← jobs, ← workers]
      rfl
  | cons job pending ih =>
      intro e first jobs workers done opened room
      have receiving : e.workers[first]? = some .receiving := by
        rw [workers, List.getElem?_append_right (by simp)]
        simp
      rw [List.length_cons, List.range'_succ, List.flatMap_cons, runMoves_append,
        runMoves_take_check_report receiving jobs done opened (by simp at room; omega), Option.some_bind,
        ih (first + 1)]
      · simp [Nat.add_right_comm, Nat.add_assoc]
      · rfl
      · rw [workers, List.length_cons, List.replicate_succ, List.set_append]
        simp [List.replicate_succ']
      · exact done
      · exact opened
      · simp at room ⊢; omega

/-- The collector receives the buffered results in turn, each into the map. -/
theorem runMoves_receive (received : List JobResult) :
    ∀ {e : Execution}, e.pc = .collecting → e.results = received →
      e.runMoves (List.replicate received.length .receive) =
        some { e with results := [], received := e.received ++ received,
                      collected := received.foldl (fun m result => m.insert result.server result)
                        e.collected } := by
  induction received with
  | nil =>
      intro e _ results
      simp only [List.length_nil, List.replicate_zero, List.foldl_nil, List.append_nil, runMoves]
      rw [← results]
  | cons result rest ih =>
      intro e collecting results
      rw [List.length_cons, List.replicate_succ]
      simp only [runMoves, step, receive, collecting, results, Option.some_bind]
      rw [ih rfl rfl]
      simp

theorem map_server_jobsOf (servers : List String) : (jobsOf servers).map Job.server = servers := by
  refine List.ext_getElem? fun k => ?_
  rw [List.getElem?_map, getElem?_jobsOf]
  cases servers[k]? <;> rfl

/-- The interleaving in which the context is cancelled right after dispatch: every job sent and the
jobs channel closed, the context cancelled, then workers `0` to `workers - 1` in turn each take a
job, see the context done and report it, the closer closes the results channel, and the collector
receives the reports and leaves its loop. -/
def cancelAfterDispatch (jobs workers : Nat) : List Move :=
  List.replicate jobs .submit ++ [.closeJobs, .cancel .canceled] ++
    ((List.range' 0 workers).flatMap fun worker => [.take worker, .check worker, .report worker]) ++
    .closeResults :: List.replicate workers .receive ++ [.receive]

/-- The interleaving reaches the collector's `return` with the reports of the first `size` jobs
received and the others left in the jobs channel. -/
theorem runMoves_cancelAfterDispatch (servers : List String) (samples : Int) (size : Nat) :
    ∃ e, ((begin servers samples).spawn size).runMoves
        (cancelAfterDispatch servers.length (min size servers.length)) = some e ∧
      e.done = some .canceled ∧ e.calls = [] ∧
      e.received = ((jobsOf servers).take size).map (reported .canceled) ∧
      e.jobs = (jobsOf servers).drop size ∧
      e.pc = .returning (if e.collected.entries.length = 0 then .error "no results collected"
        else .ok e.collected) := by
  have submitted : ((begin servers samples).spawn size).runMoves
      (List.replicate servers.length .submit) =
        some { (begin servers samples).spawn size with sent := servers.length, jobs := jobsOf servers } :=
    @runMoves_submit ((begin servers samples).spawn size) rfl 0 servers.length (by simp [begin, spawn])
  simp only [cancelAfterDispatch, runMoves_append, submitted, Option.some_bind]
  simp only [runMoves, step, closeJobs, cancel, begin, spawn, Option.some_bind, if_pos]
  set pending := (jobsOf servers).take size with pending_def
  have taken : pending.length = min size servers.length := by simp [pending_def, length_jobsOf]
  rw [← taken, @runMoves_reports .canceled ((jobsOf servers).drop size) pending _ 0]
  · simp only [Option.some_bind, closeResults, workersDone, List.all_replicate, beq_self_eq_true,
      ite_self, if_true, List.nil_append]
    rw [← List.length_map pending (reported .canceled), runMoves_receive]
    · simp only [Option.some_bind, receive, if_true, List.nil_append]
      exact ⟨_, rfl, rfl, rfl, rfl, rfl, rfl⟩
    · rfl
    · rfl
  · exact (List.take_append_drop size _).symm
  · simp
  · rfl
  · rfl
  · simp [taken]

end Execution

open Execution

/-! ## The run of the pool -/

/-- An action of the goroutines of the calls made, or a context becoming done. -/
def Action.InternalOrCancel (action : Action) : Prop :=
  action.Internal ∨ ∃ index err, action = .move index (.cancel err)

theorem internalOrCancel_move (index : Nat) (move : Move) : (Action.move index move).InternalOrCancel := by
  cases move <;> first | exact .inl trivial | exact .inr ⟨_, _, rfl⟩

/-- The moves of the one call of a pool, taken in turn, are a run of the pool. -/
theorem runs_of_runMoves {pool : WorkerPool} {e e' : Execution} {moves : List Move}
    (single : pool.executions = [e]) (moved : e.runMoves moves = some e') :
    Runs Action.InternalOrCancel pool { pool with executions := [e'] } := by
  induction moves generalizing pool e with
  | nil =>
      obtain rfl := Option.some.inj moved
      rw [← single]
      exact .refl
  | cons move moves ih =>
      cases stepped : e.step move with
      | none => simp [runMoves, stepped] at moved
      | some next =>
          rw [runMoves, stepped, Option.some_bind] at moved
          have first : pool.step (.move 0 move) = some { pool with executions := [next] } := by
            simp [WorkerPool.step, single, stepped, update]
          exact .head ⟨_, internalOrCancel_move 0 move, first⟩ (ih rfl moved)

/-- Whatever the list and the pool size, `Execute` has an interleaving in which its context is
cancelled once every job has been sent and it returns no error: each worker reports one job with
the context's error and returns, no `QueryMultiple` call is made, and the returned map holds
exactly the servers of the first `size` jobs, while the jobs of the other servers stay unread in
the jobs channel. -/
theorem execute_drops_unstarted_jobs_on_cancel (size : Int) (servers : List String) (samples : Int)
    (nonempty : servers ≠ []) :
    ∃ pool e results, Runs Action.InternalOrCancel (called size servers samples) pool ∧
      pool.executions = [e] ∧ e.done = some .canceled ∧ e.pc = .returned (.ok results) ∧
      e.calls = [] ∧
      (∀ server, server ∈ results ↔ server ∈ servers.take (newWorkerPool size).size) ∧
      (∀ server result, results.lookup server = some result →
        result.error = some CtxErr.canceled.text) ∧
      e.jobs.map Job.server = servers.drop (newWorkerPool size).size := by
  obtain ⟨e, moved, done, calls, received, jobs, returning⟩ :=
    runMoves_cancelAfterDispatch servers samples (newWorkerPool size).size
  have started : (called size servers samples).step (.start 0) =
      some { called size servers samples with
        executions := [(begin servers samples).spawn (newWorkerPool size).size], running := true } := by
    simp [WorkerPool.step, start, called, begin, nonempty, update, newWorkerPool]
  have unlocked : ∀ pool : WorkerPool, pool.executions = [e] → pool.step (.unlock 0) =
      some { pool with executions := [{ e with pc := .returned (if e.collected.entries.length = 0
        then .error "no results collected" else .ok e.collected) }], running := false } := by
    intro pool single
    simp [WorkerPool.step, unlock, single, returning, update]
  have run := (Relation.ReflTransGen.single ⟨.start 0, .inl trivial, started⟩).trans
    ((runs_of_runMoves rfl moved).tail ⟨.unlock 0, .inl trivial, unlocked _ rfl⟩)
  have inv := ((solo_called size servers samples).invariant.runs run).executions _
    (List.mem_singleton_self _)
  have keys : ∀ server, server ∈ e.collected ↔ server ∈ servers.take (newWorkerPool size).size := by
    have servers_taken : ((jobsOf servers).take (newWorkerPool size).size).map Job.server =
        servers.take (newWorkerPool size).size := by
      rw [List.map_take, map_server_jobsOf]
    intro server
    rw [inv.collected_mem, ← servers_taken, List.mem_map]
    simp only [received, List.mem_map, exists_exists_and_eq_and, reported]
  have filled : e.collected.entries.length ≠ 0 := by
    obtain ⟨first, rest, rfl⟩ := List.exists_cons_of_ne_nil nonempty
    obtain ⟨k, positive⟩ := Nat.exists_eq_succ_of_ne_zero (newWorkerPool size).size_pos.ne'
    have mem : first ∈ e.collected := (keys first).mpr (by simp [positive])
    intro empty
    rw [AList.mem_keys, AList.keys, List.length_eq_zero.mp empty] at mem
    simp at mem
  refine ⟨_, _, e.collected, run, rfl, done, by simp [filled], calls, keys, ?_, ?_⟩
  · intro server result found
    obtain ⟨mem, -⟩ := inv.collected_lookup server result found
    obtain ⟨job, -, rfl⟩ := List.mem_map.mp (received ▸ mem)
    rfl
  · rw [jobs, List.map_drop, map_server_jobsOf]

theorem execute_drops_unstarted_jobs_on_cancel_two_servers :
    ["192.0.2.1", "192.0.2.2"] ≠ [] ∧
      ∃ pool e results, Runs Action.InternalOrCancel (called 1 ["192.0.2.1", "192.0.2.2"] 3) pool ∧
        pool.executions = [e] ∧ e.done = some .canceled ∧ e.pc = .returned (.ok results) ∧
        e.calls = [] ∧ "192.0.2.1" ∈ results ∧ "192.0.2.2" ∉ results ∧
        e.jobs.map Job.server = ["192.0.2.2"] := by
  obtain ⟨pool, e, results, run, single, done, returned, calls, keys, -, jobs⟩ :=
    execute_drops_unstarted_jobs_on_cancel 1 ["192.0.2.1", "192.0.2.2"] 3 (by simp)
  exact ⟨by simp, pool, e, results, run, single, done, returned, calls, (keys _).mpr (by decide),
    fun mem => absurd ((keys _).mp mem) (by decide), jobs.trans (by decide)⟩

end WorkerPool

end NtpExporter
