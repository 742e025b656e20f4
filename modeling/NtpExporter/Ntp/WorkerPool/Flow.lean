import NtpExporter.Ntp.WorkerPool.Invariant
import Mathlib.Data.Multiset.Basic

/-!
# Where the jobs are while the context is live

`Execution.Flow`: the accounting of one `Execute` call for as long as its context is live. Every
position sent so far is in exactly one place: the jobs channel, a worker about to call, or the
call log; and every server sent so far is in exactly one place on the way from the jobs channel
through a worker and the results channel to the collector. Every result on that way is the answer
to a call. Without a done context nothing is dropped, so a call that returns has every result.
-/

namespace NtpExporter

namespace WorkerPool

/-- The position a worker holds before calling `QueryMultiple` for it. -/
def WorkerPc.heldIndex : WorkerPc → Multiset Nat
  | .selecting job => {job.index}
  | _ => 0

/-- The server of the job or result a worker holds. -/
def WorkerPc.heldServer : WorkerPc → Multiset String
  | .selecting job | .querying job | .reporting job => {job.server}
  | .delivering result => {result.server}
  | _ => 0

namespace Execution

/-- The accounting of a call whose context is live. -/
structure Flow (e : Execution) : Prop where
  /-- Each position sent is queued, held before its call, or called, exactly once. -/
  indices : ((e.jobs.map Job.index : List Nat) : Multiset Nat) +
      (e.workers.map WorkerPc.heldIndex).sum + ((e.calls.map Job.index : List Nat) : Multiset Nat) =
    ((List.range e.sent : List Nat) : Multiset Nat)
  /-- Each server sent is queued, held by a worker, in the results channel, or received. -/
  servers : ((e.jobs.map Job.server : List String) : Multiset String) +
      (e.workers.map WorkerPc.heldServer).sum +
      ((e.results.map JobResult.server : List String) : Multiset String) +
      ((e.received.map JobResult.server : List String) : Multiset String) =
    ((e.servers.take e.sent : List String) : Multiset String)
  /-- Every result on its way is the answer to a call. -/
  sourced : ∀ result ∈ e.workers.filterMap WorkerPc.result? ++ e.results ++ e.received,
    ∃ job, (job, result) ∈ e.answers
  /-- No worker is on the error path. -/
  not_reporting : ∀ job, WorkerPc.reporting job ∉ e.workers
  /-- The call is not on the error path. -/
  not_draining : e.pc ≠ .draining
  /-- A worker returns only once the jobs channel is closed and empty. -/
  drained : WorkerPc.exited ∈ e.workers → e.jobsClosed = true ∧ e.jobs = []
  /-- A call that set `running` returns only after collecting everything, with the map. -/
  returned : ∀ outcome, (e.pc = .returning outcome ∨ e.pc = .returned outcome) →
    e.workers ≠ [] →
    e.results = [] ∧ e.jobs = [] ∧ e.sent = e.servers.length ∧ e.resultsClosed = true ∧
      outcome = if e.collected.entries.length = 0 then .error "no results collected"
        else .ok e.collected

namespace Flow

variable {size : Nat} {e e' : Execution} {worker : Nat} {next : WorkerPc}

theorem settled_of {outcome} (at_return : e.pc = .returning outcome ∨ e.pc = .returned outcome) :
    e.pc.settled = true := by
  rcases at_return with at_return | at_return <;> simp [at_return, ExecutePc.settled]

/-- A worker moving off the error path keeps every worker off it. -/
theorem not_reporting_set (flow : e.Flow) (next_ok : ∀ job, next ≠ .reporting job) (job : Job) :
    WorkerPc.reporting job ∉ e.workers.set worker next := fun mem => by
  rcases List.mem_or_eq_of_mem_set mem with mem | same
  · exact flow.not_reporting job mem
  · exact next_ok job same.symm

/-- A move to a worker state that holds no result keeps every result on its way sourced. -/
theorem sourced_set (flow : e.Flow) (empty : next.result? = none) :
    ∀ result ∈ (e.workers.set worker next).filterMap WorkerPc.result? ++ e.results ++ e.received,
      ∃ job, (job, result) ∈ e.answers := fun result mem => flow.sourced result (by
  simp only [List.mem_append] at mem ⊢
  rcases mem with (mem | mem) | mem
  · rcases mem_filterMap_set mem with mem | held
    · exact .inl (.inl mem)
    · simp [empty] at held
  · exact .inl (.inr mem)
  · exact .inr mem)

/-- A returned worker after a move that returns no worker was there before. -/
theorem exited_mem_set (alive : next ≠ .exited) (mem : WorkerPc.exited ∈ e.workers.set worker next) :
    WorkerPc.exited ∈ e.workers :=
  (List.mem_or_eq_of_mem_set mem).resolve_right (Ne.symm alive)

theorem submit (flow : e.Flow) (inv : e.Invariant size) (h : e.submit = some e') : e'.Flow := by
  obtain ⟨server, submitting, found, -, rfl⟩ := submit_eq h
  have opened := (inv.submitting (.inr submitting)).1
  refine { flow with
    indices := ?_
    servers := ?_
    drained := fun mem => absurd (flow.drained mem).1 (by simp [opened])
    returned := by simp [submitting] }
  · simp only [List.range_succ, List.map_append, ← Multiset.coe_add, ← flow.indices]
    simp
    abel
  · simp only [List.take_succ, found, List.map_append, ← Multiset.coe_add, ← flow.servers]
    simp
    abel

theorem closeJobs (flow : e.Flow) (inv : e.Invariant size) (h : e.closeJobs = some e') :
    e'.Flow := by
  obtain ⟨submitting, -, rfl⟩ := closeJobs_eq h
  have opened := (inv.submitting (.inr submitting)).1
  exact { flow with
    not_draining := by simp
    drained := fun mem => absurd (flow.drained mem).1 (by simp [opened])
    returned := by simp }

theorem receive (flow : e.Flow) (inv : e.Invariant size) (h : e.receive = some e') :
    e'.Flow := by
  obtain ⟨collecting, ⟨result, rest, results, rfl⟩ | ⟨results, closed, rfl⟩⟩ := receive_eq h
  · refine { flow with
      servers := ?_
      sourced := fun other mem => flow.sourced other ?_
      returned := by simp [collecting] }
    · simp only [← flow.servers, results, List.map_cons, List.map_append, ← Multiset.coe_add,
        ← Multiset.cons_coe, ← Multiset.singleton_add]
      abel
    · simp only [List.mem_append, List.mem_singleton, results, List.mem_cons] at mem ⊢
      tauto
  · obtain ⟨-, sent, -⟩ := inv.collecting collecting
    refine { flow with
      not_draining := by simp
      returned := fun outcome settled nonempty => ⟨results, ?_, sent, closed, ?_⟩ }
    · obtain ⟨worker, mem⟩ := List.exists_mem_of_ne_nil _ nonempty
      have exited := inv.finished_idle (inv.closed_iff.mp closed) worker mem
      exact (flow.drained (exited ▸ mem)).2
    · simp only [ExecutePc.returning.injEq, reduceCtorEq, or_false] at settled
      exact settled.symm

theorem closeResults (flow : e.Flow) (h : e.closeResults = some e') : e'.Flow := by
  obtain ⟨-, -, rfl⟩ := closeResults_eq h
  exact { flow with
    returned := fun outcome settled nonempty => by
      obtain ⟨results, jobs, sent, -, outcome⟩ := flow.returned outcome settled nonempty
      exact ⟨results, jobs, sent, rfl, outcome⟩ }

theorem take (flow : e.Flow) (inv : e.Invariant size) (h : e.take worker = some e') :
    e'.Flow := by
  have found := (take_eq h).1
  have running := (inv.live found (by simp)).1
  obtain ⟨job, rest, jobs, rfl⟩ | ⟨empty, closed, rfl⟩ := take_eq h |>.2
  · have indices := sum_map_set found (.selecting job) WorkerPc.heldIndex
    have servers := sum_map_set found (.selecting job) WorkerPc.heldServer
    simp only [WorkerPc.heldIndex, WorkerPc.heldServer, add_zero] at indices servers
    refine { flow with
      indices := ?_
      servers := ?_
      sourced := flow.sourced_set rfl
      not_reporting := flow.not_reporting_set (by simp)
      drained := fun mem => absurd (flow.drained (exited_mem_set (by simp) mem)).2 (by simp [jobs])
      returned := fun _ at_return => absurd (settled_of at_return) (by simp [running]) }
    · rw [indices, ← flow.indices, jobs, List.map_cons, ← Multiset.cons_coe,
        ← Multiset.singleton_add]
      abel
    · rw [servers, ← flow.servers, jobs, List.map_cons, ← Multiset.cons_coe,
        ← Multiset.singleton_add]
      abel
  · have indices := sum_map_set found .exited WorkerPc.heldIndex
    have servers := sum_map_set found .exited WorkerPc.heldServer
    simp only [WorkerPc.heldIndex, WorkerPc.heldServer, add_zero] at indices servers
    exact { flow with
      indices := by rw [indices]; exact flow.indices
      servers := by rw [servers]; exact flow.servers
      sourced := flow.sourced_set rfl
      not_reporting := flow.not_reporting_set (by simp)
      drained := fun _ => ⟨closed, empty⟩
      returned := fun _ at_return => absurd (settled_of at_return) (by simp [running]) }

theorem check (flow : e.Flow) (inv : e.Invariant size) (live : e'.done = none)
    (h : e.check worker = some e') : e'.Flow := by
  obtain ⟨job, found, ⟨done, rfl⟩ | ⟨-, rfl⟩⟩ := check_eq h
  · exact absurd live done
  have running := (inv.live found (by simp)).1
  have indices := sum_map_set found (.querying job) WorkerPc.heldIndex
  have servers := sum_map_set found (.querying job) WorkerPc.heldServer
  simp only [WorkerPc.heldIndex, WorkerPc.heldServer, add_zero] at indices servers
  refine { flow with
    indices := ?_
    servers := by rw [add_right_cancel servers]; exact flow.servers
    sourced := flow.sourced_set rfl
    not_reporting := flow.not_reporting_set (by simp)
    drained := fun mem => flow.drained (exited_mem_set (by simp) mem)
    returned := fun _ at_return => absurd (settled_of at_return) (by simp [running]) }
  rw [← flow.indices, ← indices, List.map_append, ← Multiset.coe_add]
  simp only [List.map_cons, List.map_nil, Multiset.coe_singleton]
  abel

theorem complete {responses : List Response} {error : Option String} {duration : Duration}
    (flow : e.Flow) (inv : e.Invariant size)
    (h : e.complete worker responses error duration = some e') : e'.Flow := by
  obtain ⟨job, found, rfl⟩ := complete_eq h
  have running := (inv.live found (by simp)).1
  have indices := sum_map_set found (.delivering ⟨job.server, responses, error, duration⟩)
    WorkerPc.heldIndex
  have servers := sum_map_set found (.delivering ⟨job.server, responses, error, duration⟩)
    WorkerPc.heldServer
  simp only [WorkerPc.heldIndex, WorkerPc.heldServer, add_zero] at indices servers
  refine { flow with
    indices := by rw [indices]; exact flow.indices
    servers := by rw [add_right_cancel servers]; exact flow.servers
    sourced := fun result mem => ?_
    not_reporting := flow.not_reporting_set (by simp)
    drained := fun mem => flow.drained (exited_mem_set (by simp) mem)
    returned := fun _ at_return => absurd (settled_of at_return) (by simp [running]) }
  simp only [List.mem_append] at mem
  rcases mem with (mem | mem) | mem
  · rcases mem_filterMap_set mem with mem | held
    · obtain ⟨other, answer⟩ := flow.sourced result (by simp [mem])
      exact ⟨other, List.mem_append_left _ answer⟩
    · simp only [WorkerPc.result?, Option.some.injEq] at held
      exact ⟨job, by simp [held]⟩
  all_goals
    obtain ⟨other, answer⟩ := flow.sourced result (by simp [mem])
    exact ⟨other, List.mem_append_left _ answer⟩

theorem deliver (flow : e.Flow) (inv : e.Invariant size) (h : e.deliver worker = some e') :
    e'.Flow := by
  obtain ⟨result, found, sent⟩ := deliver_eq h
  obtain ⟨running, -, opened, -⟩ := inv.live found (by simp)
  rcases sendResult_eq sent with ⟨closed, -⟩ | ⟨-, -, rfl⟩
  · simp [opened] at closed
  have indices := sum_map_set found .receiving WorkerPc.heldIndex
  have servers := sum_map_set found .receiving WorkerPc.heldServer
  simp only [WorkerPc.heldIndex, WorkerPc.heldServer, add_zero] at indices servers
  have held : result ∈ e.workers.filterMap WorkerPc.result? :=
    List.mem_filterMap.mpr ⟨_, List.getElem?_mem found, rfl⟩
  refine { flow with
    indices := by rw [indices]; exact flow.indices
    servers := ?_
    sourced := fun other mem => flow.sourced other ?_
    not_reporting := flow.not_reporting_set (by simp)
    drained := fun mem => flow.drained (exited_mem_set (by simp) mem)
    returned := fun _ at_return => absurd (settled_of at_return) (by simp [running]) }
  · rw [← flow.servers, ← servers, List.map_append, ← Multiset.coe_add]
    simp only [List.map_cons, List.map_nil, Multiset.coe_singleton]
    abel
  · simp only [List.mem_append, List.mem_singleton] at mem ⊢
    rcases mem with (mem | mem | rfl) | mem
    · rcases mem_filterMap_set mem with mem | held
      · exact .inl (.inl mem)
      · simp [WorkerPc.result?] at held
    · exact .inl (.inr mem)
    · exact .inl (.inl held)
    · exact .inr mem

/-- Every move that leaves the context live keeps the accounting. -/
theorem step {move : Move} (flow : e.Flow) (inv : e.Invariant size) (live : e'.done = none)
    (h : e.step move = some e') : e'.Flow := by
  cases move with
  | cancel err =>
      obtain ⟨-, rfl⟩ := cancel_eq h
      simp at live
  | submit => exact flow.submit inv h
  | abandon =>
      obtain ⟨-, done, -, rfl⟩ := abandon_eq h
      exact absurd live done
  | closeJobs => exact flow.closeJobs inv h
  | wait =>
      obtain ⟨err, -, done, -, rfl⟩ := wait_eq h
      simp [done] at live
  | receive => exact flow.receive inv h
  | closeResults => exact flow.closeResults h
  | take worker => exact flow.take inv h
  | check worker => exact flow.check inv live h
  | complete worker responses error duration => exact flow.complete inv h
  | deliver worker => exact flow.deliver inv h
  | drop worker =>
      obtain ⟨-, -, done, rfl⟩ := drop_eq h
      exact absurd live done
  | report worker =>
      obtain ⟨job, err, -, done, sent⟩ := report_eq h
      rcases sendResult_eq sent with ⟨-, rfl⟩ | ⟨-, -, rfl⟩ <;> simp [done] at live

end Flow

end Execution

end WorkerPool

end NtpExporter
