import NtpExporter.Ntp.WorkerPool.Model
import Mathlib.Algebra.BigOperators.Group.List
import Mathlib.Tactic.Abel

/-!
# What each move does

One lemma per move of an `Execute` call and per action of the pool, stating everything the move
requires and everything it changes. The invariant proofs consume these and never unfold a move.
-/

namespace NtpExporter

namespace WorkerPool

/-- Replacing the element at one position of a list changes a sum over it by the difference. -/
theorem sum_map_set {α M : Type} [AddCommMonoid M] {l : List α} {position : Nat} {old : α}
    (found : l[position]? = some old) (new : α) (f : α → M) :
    ((l.set position new).map f).sum + f old = (l.map f).sum + f new := by
  obtain ⟨lt, rfl⟩ := List.getElem?_eq_some_iff.mp found
  have split : (l.map f).sum =
      ((l.map f).take position).sum + f l[position] + ((l.map f).drop (position + 1)).sum := by
    rw [← List.sum_take_add_sum_drop _ position, List.drop_eq_getElem_cons (by simpa using lt)]
    simp [add_assoc]
  rw [List.map_set, List.sum_set, split]
  simp only [List.length_map, lt, ↓reduceIte]
  abel

namespace Execution

variable {e e' : Execution} {worker : Nat}

theorem cancel_eq {err : CtxErr} (h : e.cancel err = some e') :
    e.done = none ∧ e' = { e with done := some err } := by
  unfold cancel at h
  split at h
  · exact ⟨‹_›, (Option.some.inj h).symm⟩
  · cases h

theorem submit_eq (h : e.submit = some e') :
    ∃ server, e.pc = .submitting ∧ e.servers[e.sent]? = some server ∧
      e.jobs.length < e.servers.length ∧
      e' = { e with jobs := e.jobs ++ [⟨e.sent, server⟩], sent := e.sent + 1 } := by
  unfold submit at h
  split at h
  · rename_i server submitting found
    split at h
    · exact ⟨server, submitting, found, ‹_›, (Option.some.inj h).symm⟩
    · cases h
  · cases h

theorem abandon_eq (h : e.abandon = some e') :
    e.pc = .submitting ∧ e.done ≠ none ∧ e.sent < e.servers.length ∧
      e' = { e with jobsClosed := true, pc := .draining } := by
  unfold abandon at h
  split at h
  · rename_i submitting done
    split at h
    · exact ⟨submitting, by simp [done], ‹_›, (Option.some.inj h).symm⟩
    · cases h
  · cases h

theorem closeJobs_eq (h : e.closeJobs = some e') :
    e.pc = .submitting ∧ e.sent = e.servers.length ∧
      e' = { e with jobsClosed := true, closer := .waiting, pc := .collecting } := by
  unfold closeJobs at h
  split at h
  · split at h
    · exact ⟨‹_›, ‹_›, (Option.some.inj h).symm⟩
    · cases h
  · cases h

theorem wait_eq (h : e.wait = some e') :
    ∃ err, e.pc = .draining ∧ e.done = some err ∧ e.workersDone = true ∧
      e' = { e with pc := .returning (.error err.text) } := by
  unfold wait at h
  split at h
  · rename_i err draining done
    split at h
    · exact ⟨err, draining, done, ‹_›, (Option.some.inj h).symm⟩
    · cases h
  · cases h

theorem receive_eq (h : e.receive = some e') :
    e.pc = .collecting ∧
      ((∃ result rest, e.results = result :: rest ∧
        e' = { e with results := rest, collected := e.collected.insert result.server result,
                      received := e.received ++ [result] }) ∨
      (e.results = [] ∧ e.resultsClosed = true ∧
        e' = { e with pc := .returning (if e.collected.entries.length = 0
          then .error "no results collected" else .ok e.collected) })) := by
  unfold receive at h
  split at h
  · rename_i result rest collecting results
    exact ⟨collecting, .inl ⟨result, rest, results, (Option.some.inj h).symm⟩⟩
  · rename_i collecting results
    split at h
    · exact ⟨collecting, .inr ⟨results, ‹_›, (Option.some.inj h).symm⟩⟩
    · cases h
  · cases h

theorem closeResults_eq (h : e.closeResults = some e') :
    e.closer = .waiting ∧ e.workersDone = true ∧
      e' = { e with resultsClosed := true, closer := .finished } := by
  unfold closeResults at h
  split at h
  · split at h
    · exact ⟨‹_›, ‹_›, (Option.some.inj h).symm⟩
    · cases h
  · cases h

theorem take_eq (h : e.take worker = some e') :
    e.workers[worker]? = some .receiving ∧
      ((∃ job rest, e.jobs = job :: rest ∧
        e' = { e with jobs := rest, workers := e.workers.set worker (.selecting job) }) ∨
      (e.jobs = [] ∧ e.jobsClosed = true ∧
        e' = { e with workers := e.workers.set worker .exited })) := by
  unfold take at h
  split at h
  · rename_i job rest found jobs
    exact ⟨found, .inl ⟨job, rest, jobs, (Option.some.inj h).symm⟩⟩
  · rename_i found jobs
    split at h
    · exact ⟨found, .inr ⟨jobs, ‹_›, (Option.some.inj h).symm⟩⟩
    · cases h
  · cases h

theorem check_eq (h : e.check worker = some e') :
    ∃ job, e.workers[worker]? = some (.selecting job) ∧
      ((e.done ≠ none ∧ e' = { e with workers := e.workers.set worker (.reporting job) }) ∨
      (e.done = none ∧
        e' = { e with workers := e.workers.set worker (.querying job), calls := e.calls ++ [job] })) := by
  unfold check at h
  split at h
  · rename_i job _ found done
    exact ⟨job, found, .inl ⟨by simp [done], (Option.some.inj h).symm⟩⟩
  · rename_i job found done
    exact ⟨job, found, .inr ⟨done, (Option.some.inj h).symm⟩⟩
  · cases h

theorem complete_eq {responses : List Response} {error : Option String} {duration : Duration}
    (h : e.complete worker responses error duration = some e') :
    ∃ job, e.workers[worker]? = some (.querying job) ∧
      e' = { e with
        workers := e.workers.set worker (.delivering ⟨job.server, responses, error, duration⟩),
        answers := e.answers ++ [(job, ⟨job.server, responses, error, duration⟩)] } := by
  unfold complete at h
  split at h
  · rename_i job found
    exact ⟨job, found, (Option.some.inj h).symm⟩
  · cases h

theorem sendResult_eq {result : JobResult} {next : WorkerPc}
    (h : e.sendResult worker result next = some e') :
    (e.resultsClosed = true ∧ e' = { e with panicked := true }) ∨
      (e.resultsClosed = false ∧ e.results.length < e.servers.length ∧
        e' = { e with results := e.results ++ [result],
                      workers := e.workers.set worker next }) := by
  unfold sendResult at h
  split at h
  · exact .inl ⟨‹_›, (Option.some.inj h).symm⟩
  · split at h
    · exact .inr ⟨Bool.eq_false_iff.mpr ‹_›, ‹_›, (Option.some.inj h).symm⟩
    · cases h

theorem deliver_eq (h : e.deliver worker = some e') :
    ∃ result, e.workers[worker]? = some (.delivering result) ∧
      e.sendResult worker result .receiving = some e' := by
  unfold deliver at h
  split at h
  · exact ⟨_, ‹_›, h⟩
  · cases h

theorem drop_eq (h : e.drop worker = some e') :
    ∃ result, e.workers[worker]? = some (.delivering result) ∧ e.done ≠ none ∧
      e' = { e with workers := e.workers.set worker .exited } := by
  unfold drop at h
  split at h
  · rename_i result _ found done
    exact ⟨result, found, by simp [done], (Option.some.inj h).symm⟩
  · cases h

theorem report_eq (h : e.report worker = some e') :
    ∃ job err, e.workers[worker]? = some (.reporting job) ∧ e.done = some err ∧
      e.sendResult worker ⟨job.server, [], some err.text, 0⟩ .exited = some e' := by
  unfold report at h
  split at h
  · rename_i job err found done
    exact ⟨job, err, found, done, h⟩
  · cases h

/-- What a move can do to the context, to the call's own program counter, to its call log and to
its arguments and workers: only `cancel` changes the context, from live to done; the program
counter moves only from one phase that holds `running` to another; a call is made only while the
context is live; and no move changes the server list or the number of workers. -/
theorem step_frame {move : Move} (h : e.step move = some e') :
    (e'.done = e.done ∨ ∃ err, move = .cancel err ∧ e.done = none ∧ e'.done = some err) ∧
      (e'.pc = e.pc ∨
        (e.pc = .submitting ∧ (e'.pc = .draining ∨ e'.pc = .collecting)) ∨
        ((e.pc = .draining ∨ e.pc = .collecting) ∧ ∃ outcome, e'.pc = .returning outcome)) ∧
      (e'.calls = e.calls ∨ (e.done = none ∧ ∃ job, e'.calls = e.calls ++ [job])) ∧
      e'.servers = e.servers ∧ e'.workers.length = e.workers.length := by
  cases move with
  | cancel err => obtain ⟨live, rfl⟩ := cancel_eq h; simp [live]
  | submit => obtain ⟨_, -, -, -, rfl⟩ := submit_eq h; simp
  | abandon => obtain ⟨submitting, -, -, rfl⟩ := abandon_eq h; simp [submitting]
  | closeJobs => obtain ⟨submitting, -, rfl⟩ := closeJobs_eq h; simp [submitting]
  | wait => obtain ⟨_, draining, -, -, rfl⟩ := wait_eq h; simp [draining]
  | receive =>
      obtain ⟨collecting, ⟨_, _, -, rfl⟩ | ⟨-, -, rfl⟩⟩ := receive_eq h <;> simp [collecting]
  | closeResults => obtain ⟨-, -, rfl⟩ := closeResults_eq h; simp
  | take worker => obtain ⟨-, ⟨_, _, -, rfl⟩ | ⟨-, -, rfl⟩⟩ := take_eq h <;> simp
  | check worker =>
      obtain ⟨_, -, ⟨-, rfl⟩ | ⟨live, rfl⟩⟩ := check_eq h
      · simp
      · simp [live]
  | complete worker responses error duration => obtain ⟨_, -, rfl⟩ := complete_eq h; simp
  | deliver worker =>
      obtain ⟨_, -, sent⟩ := deliver_eq h
      rcases sendResult_eq sent with ⟨-, rfl⟩ | ⟨-, -, rfl⟩ <;> simp
  | drop worker => obtain ⟨_, -, -, rfl⟩ := drop_eq h; simp
  | report worker =>
      obtain ⟨_, _, -, -, sent⟩ := report_eq h
      rcases sendResult_eq sent with ⟨-, rfl⟩ | ⟨-, -, rfl⟩ <;> simp

/-- Only `complete` writes the answer log, and it logs its answer for the job of the worker it
names. -/
theorem answers_step {move : Move} (h : e.step move = some e') :
    e'.answers = e.answers ∨
      ∃ worker responses error duration job, move = .complete worker responses error duration ∧
        e.workers[worker]? = some (.querying job) ∧
        e'.answers = e.answers ++ [(job, ⟨job.server, responses, error, duration⟩)] := by
  cases move with
  | complete worker responses error duration =>
      obtain ⟨job, found, rfl⟩ := complete_eq h
      exact .inr ⟨worker, responses, error, duration, job, rfl, found, rfl⟩
  | cancel err => obtain ⟨-, rfl⟩ := cancel_eq h; simp
  | submit => obtain ⟨_, -, -, -, rfl⟩ := submit_eq h; simp
  | abandon => obtain ⟨-, -, -, rfl⟩ := abandon_eq h; simp
  | closeJobs => obtain ⟨-, -, rfl⟩ := closeJobs_eq h; simp
  | wait => obtain ⟨_, -, -, -, rfl⟩ := wait_eq h; simp
  | receive => obtain ⟨-, ⟨_, _, -, rfl⟩ | ⟨-, -, rfl⟩⟩ := receive_eq h <;> simp
  | closeResults => obtain ⟨-, -, rfl⟩ := closeResults_eq h; simp
  | take worker => obtain ⟨-, ⟨_, _, -, rfl⟩ | ⟨-, -, rfl⟩⟩ := take_eq h <;> simp
  | check worker => obtain ⟨_, -, ⟨-, rfl⟩ | ⟨-, rfl⟩⟩ := check_eq h <;> simp
  | deliver worker =>
      obtain ⟨_, -, sent⟩ := deliver_eq h
      rcases sendResult_eq sent with ⟨-, rfl⟩ | ⟨-, -, rfl⟩ <;> simp
  | drop worker => obtain ⟨_, -, -, rfl⟩ := drop_eq h; simp
  | report worker =>
      obtain ⟨_, _, -, -, sent⟩ := report_eq h
      rcases sendResult_eq sent with ⟨-, rfl⟩ | ⟨-, -, rfl⟩ <;> simp

end Execution

variable {pool next : WorkerPool} {index : Nat}

theorem start_eq (h : pool.start index = some next) :
    ∃ e, pool.executions[index]? = some e ∧ e.pc = .start ∧
      ((e.servers = [] ∧
          next = pool.update index { e with pc := .returned (.error "no servers to query") }) ∨
        (e.servers ≠ [] ∧ pool.running = true ∧
          next = pool.update index
            { e with pc := .returned (.error "worker pool already running") }) ∨
        (e.servers ≠ [] ∧ pool.running = false ∧
          next = { pool.update index (e.spawn pool.size) with running := true })) := by
  unfold start at h
  split at h
  · rename_i e found
    split at h
    · rename_i starting
      split at h
      · exact ⟨e, found, starting, .inl ⟨‹_›, (Option.some.inj h).symm⟩⟩
      · split at h
        · exact ⟨e, found, starting, .inr (.inl ⟨‹_›, ‹_›, (Option.some.inj h).symm⟩)⟩
        · exact ⟨e, found, starting,
            .inr (.inr ⟨‹_›, Bool.eq_false_iff.mpr ‹_›, (Option.some.inj h).symm⟩)⟩
    · cases h
  · cases h

theorem unlock_eq (h : pool.unlock index = some next) :
    ∃ e outcome, pool.executions[index]? = some e ∧ e.pc = .returning outcome ∧
      next = { pool.update index { e with pc := .returned outcome } with running := false } := by
  unfold unlock at h
  split at h
  · rename_i e found
    split at h
    · exact ⟨e, _, found, ‹_›, (Option.some.inj h).symm⟩
    · cases h
  · cases h

theorem move_eq {move : Execution.Move} (h : pool.step (.move index move) = some next) :
    ∃ e e', pool.executions[index]? = some e ∧ e.step move = some e' ∧
      next = pool.update index e' := by
  simp only [step] at h
  split at h
  · obtain ⟨e', stepped, rfl⟩ := Option.map_eq_some'.mp h
    exact ⟨_, e', ‹_›, stepped, rfl⟩
  · cases h

@[simp] theorem update_size (e : Execution) : (pool.update index e).size = pool.size := rfl

@[simp] theorem update_running (e : Execution) : (pool.update index e).running = pool.running :=
  rfl

@[simp] theorem update_executions (e : Execution) :
    (pool.update index e).executions = pool.executions.set index e := rfl

end WorkerPool

end NtpExporter
