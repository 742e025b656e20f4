import NtpExporter.Ntp.WorkerPool.Progress

/-!
# Runs in which the querier answers by server

`Execute` hands each job to the `QueryMultiple` of the pool's querier. For a querier whose answer
depends only on the server asked, the runs of a call are those in which every `complete` move
carries that answer for the job of the worker it names. Such runs log no other answer; from every
state of a call on a nonempty list one of them leads to the call's return; and a call on an empty
list can only return the error of its first check.
-/

namespace NtpExporter

namespace WorkerPool

open Execution

/-- A querier, as what its `QueryMultiple` answers for each server: the responses and the error. -/
abbrev Querier := String → List Response × Option String

/-- Every answer the call logged is the querier's answer for its job's server. -/
def Execution.Honest (querier : Querier) (e : Execution) : Prop :=
  ∀ entry ∈ e.answers, (entry.2.responses, entry.2.error) = querier entry.1.server

/-- Every call on the pool logged only the querier's answers. -/
def Honest (querier : Querier) (pool : WorkerPool) : Prop :=
  ∀ e ∈ pool.executions, e.Honest querier

/-- An action completes a `QueryMultiple` call only with the querier's answer for the call's
server. -/
def Action.Answers (querier : Querier) (pool : WorkerPool) : Action → Prop
  | .move index (.complete worker responses error _) =>
      ∀ e job, pool.executions[index]? = some e → e.workers[worker]? = some (.querying job) →
        (responses, error) = querier job.server
  | _ => True

/-- The runs of the goroutines' actions in which the querier answers as `querier`. -/
def Answered (querier : Querier) : WorkerPool → WorkerPool → Prop :=
  Relation.ReflTransGen fun pool next =>
    ∃ action, action.Internal ∧ action.Answers querier pool ∧ pool.step action = some next

variable {querier : Querier} {pool next : WorkerPool}

theorem Answered.runs (run : Answered querier pool next) : Runs Action.Internal pool next :=
  run.mono fun _ _ ⟨action, internal, _, stepped⟩ => ⟨action, internal, stepped⟩

/-- A move that completes calls only with the querier's answers keeps the log honest. -/
theorem Execution.Honest.step {e e' : Execution} {move : Move} (honest : e.Honest querier)
    (h : e.step move = some e')
    (answers : ∀ worker responses error duration job,
      move = .complete worker responses error duration →
      e.workers[worker]? = some (.querying job) → (responses, error) = querier job.server) :
    e'.Honest querier := by
  rcases answers_step h with same | ⟨worker, responses, error, duration, job, rfl, found, logged⟩
  · rwa [Execution.Honest, same]
  · intro entry mem
    rw [logged, List.mem_append, List.mem_singleton] at mem
    rcases mem with mem | rfl
    · exact honest entry mem
    · exact answers worker responses error duration job rfl found

/-- An action that answers as the querier keeps every call's log honest. -/
theorem Honest.step {action : Action} (honest : pool.Honest querier)
    (answers : action.Answers querier pool) (h : pool.step action = some next) :
    next.Honest querier := by
  cases action with
  | call servers samples =>
      cases h
      intro e mem
      rcases List.mem_append.mp mem with mem | mem
      · exact honest e mem
      · simp [List.mem_singleton.mp mem, Execution.Honest, begin]
  | start index =>
      obtain ⟨e, found, -, cases⟩ := start_eq h
      have logged := honest e (List.getElem?_mem found)
      rcases cases with ⟨-, rfl⟩ | ⟨-, -, rfl⟩ | ⟨-, -, rfl⟩ <;>
        exact Invariant.forall_mem_set honest logged
  | unlock index =>
      obtain ⟨e, outcome, found, -, rfl⟩ := unlock_eq h
      exact Invariant.forall_mem_set honest (honest e (List.getElem?_mem found))
  | move index move =>
      obtain ⟨e, e', found, stepped, rfl⟩ := move_eq h
      refine Invariant.forall_mem_set honest ((honest e (List.getElem?_mem found)).step stepped ?_)
      rintro worker responses error duration job rfl querying
      exact answers e job found querying

theorem Answered.honest (run : Answered querier pool next) (honest : pool.Honest querier) :
    next.Honest querier := by
  induction run with
  | refl => exact honest
  | tail _ step holds =>
      obtain ⟨_, -, answers, stepped⟩ := step
      exact holds.step answers stepped

/-- A call that has not run yet has logged no answer. -/
theorem honest_called (size samples : Int) (servers : List String) :
    (called size servers samples).Honest querier := by
  simp [called, WorkerPool.Honest, Execution.Honest, Execution.begin]

/-- Until the call has returned, some action of its goroutines is enabled that answers as the
querier: a `complete` move can carry any answer. -/
theorem Solo.answerable {servers : List String} {e : Execution} (solo : pool.Solo servers)
    (single : pool.executions = [e]) (pending : ∀ outcome, e.pc ≠ .returned outcome) :
    ∃ action next, action.Internal ∧ action.Answers querier pool ∧ pool.step action = some next := by
  obtain ⟨action, internal, enabled⟩ := solo.enabled single pending
  obtain ⟨next, stepped⟩ := Option.isSome_iff_exists.mp enabled
  cases action with
  | move index move =>
      cases move with
      | complete worker responses error duration =>
          obtain ⟨e', _, found, stepped', -⟩ := move_eq stepped
          obtain ⟨job, querying, -⟩ := complete_eq stepped'
          let answer := querier job.server
          obtain ⟨next', stepped''⟩ := Option.isSome_iff_exists.mp (show
            (pool.step (.move index (.complete worker answer.1 answer.2 duration))).isSome by
              simp [WorkerPool.step, found, Execution.step, Execution.complete, querying])
          refine ⟨.move index (.complete worker answer.1 answer.2 duration), next', trivial,
            fun e'' job' found' querying' => ?_, stepped''⟩
          obtain rfl : e'' = e' := by simpa [found] using found'.symm
          obtain rfl : job' = job := by simpa [querying] using querying'.symm
          rfl
      | _ => exact ⟨_, next, internal, trivial, stepped⟩
  | _ => exact ⟨_, next, internal, trivial, stepped⟩

/-- From every state of a run of one call on a nonempty list, a run in which the querier answers
leads to the call's return. -/
theorem Solo.returns {servers : List String} (solo : pool.Solo servers) (nonempty : servers ≠ []) :
    ∃ last e outcome, Answered querier pool last ∧ last.executions = [e] ∧
      e.pc = .returned outcome := by
  induction terminates solo.invariant with
  | intro pool _ reach =>
      obtain ⟨e, single, -⟩ := solo.single
      by_cases pending : ∀ outcome, e.pc ≠ .returned outcome
      · obtain ⟨action, next, internal, answers, stepped⟩ := solo.answerable single pending
        obtain ⟨last, e', outcome, run, single', returned⟩ :=
          reach next ⟨action, internal, stepped⟩ (solo.step internal nonempty stepped)
        exact ⟨last, e', outcome, .head ⟨action, internal, answers, stepped⟩ run, single', returned⟩
      · push_neg at pending
        obtain ⟨outcome, returned⟩ := pending
        exact ⟨pool, e, outcome, .refl, single, returned⟩

/-! ## A call on an empty list -/

/-- The goroutines' actions leave a call on an empty list at its start, or returned with the
error of its first check. -/
theorem runs_nil {size samples : Int} (run : Runs Action.Internal (called size [] samples) pool) :
    ∀ e ∈ pool.executions,
      e.servers = [] ∧ (e.pc = .start ∨ e.pc = .returned (.error "no servers to query")) := by
  induction run with
  | refl => simp [called, newWorkerPool, begin]
  | tail _ step holds =>
      obtain ⟨action, internal, stepped⟩ := step
      cases action with
      | call servers samples => exact internal.elim
      | start index =>
          obtain ⟨e, found, -, cases⟩ := start_eq stepped
          have empty := (holds e (List.getElem?_mem found)).1
          rcases cases with ⟨-, rfl⟩ | ⟨nonempty, -⟩ | ⟨nonempty, -⟩
          · exact Invariant.forall_mem_set holds ⟨empty, .inr rfl⟩
          all_goals exact absurd empty nonempty
      | unlock index =>
          obtain ⟨e, outcome, found, returning, -⟩ := unlock_eq stepped
          have := (holds e (List.getElem?_mem found)).2
          simp [returning] at this
      | move index move =>
          obtain ⟨e, e', found, moved, rfl⟩ := move_eq stepped
          obtain ⟨empty, pc⟩ := holds e (List.getElem?_mem found)
          obtain ⟨-, same | ⟨submitting, -⟩ | ⟨busy, -⟩, -, servers, -⟩ := step_frame moved
          · exact Invariant.forall_mem_set holds ⟨servers.trans empty, same ▸ pc⟩
          · rcases pc with pc | pc <;> simp [pc] at submitting
          · rcases pc with pc | pc <;> rcases busy with busy | busy <;> simp [pc] at busy

/-- A call on an empty list returns, at its first check. -/
theorem returns_nil (size samples : Int) :
    ∃ last e outcome, Answered querier (called size [] samples) last ∧ last.executions = [e] ∧
      e.pc = .returned outcome :=
  ⟨_, _, _, .single ⟨.start 0, trivial, trivial, rfl⟩, rfl, rfl⟩

/-- A call on an empty list returns only the error of its first check. -/
theorem returned_nil {size samples : Int} {e : Execution} {outcome}
    (run : Runs Action.Internal (called size [] samples) pool) (single : pool.executions = [e])
    (returned : e.pc = .returned outcome) : outcome = .error "no servers to query" := by
  simpa [returned] using (runs_nil run e (by simp [single])).2

end WorkerPool

end NtpExporter
