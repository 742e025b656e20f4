import NtpExporter.Ntp.WorkerPool.Pool

/-!
# Concurrent `Execute` calls on one pool

Any number of `Execute` calls on one pool, interleaved in any way, with each caller's context
done at any moment or never. The `running` flag admits one call at a time: the others return
`worker pool already running` having started nothing, and the one admitted keeps the flag until
its deferred reset, which runs only once all its workers have returned. So the pool never has
more `QueryMultiple` calls in progress than its size, none outlives the `Execute` that made it,
and none starts once the caller's context is done.
-/

namespace NtpExporter

namespace WorkerPool

open Execution

/-- A worker inside a `QueryMultiple` call. -/
def WorkerPc.isQuerying : WorkerPc → Bool
  | .querying _ => true
  | _ => false

/-- The `QueryMultiple` calls in progress for one `Execute` call. -/
def Execution.inFlight (e : Execution) : Nat := e.workers.countP WorkerPc.isQuerying

/-- The `QueryMultiple` calls in progress on the pool. -/
def inFlight (pool : WorkerPool) : Nat := (pool.executions.map Execution.inFlight).sum

/-- A sum bounded term by term. -/
theorem sum_le_sum_mul {α : Type} {l : List α} {f g : α → Nat} {bound : Nat}
    (le : ∀ a ∈ l, f a ≤ g a * bound) : (l.map f).sum ≤ (l.map g).sum * bound := by
  induction l with
  | nil => simp
  | cons a l holds =>
      simp only [List.map_cons, List.sum_cons, add_mul]
      exact Nat.add_le_add (le a (by simp)) (holds fun b mem => le b (by simp [mem]))

namespace Execution

variable {size : Nat} {e : Execution}

/-- An idle call has no `QueryMultiple` call in progress. -/
theorem inFlight_eq_zero (idle : e.Idle) : e.inFlight = 0 :=
  List.countP_eq_zero.mpr fun worker mem => by simp [idle worker mem, WorkerPc.isQuerying]

/-- A call has calls in progress only while it holds `running`, and then at most `size`. -/
theorem Invariant.inFlight_le (inv : e.Invariant size) : e.inFlight ≤ e.pc.owns.toNat * size := by
  cases owns : e.pc.owns
  · have idle : e.Idle := by
      cases pc : e.pc <;> simp only [pc, ExecutePc.owns, reduceCtorEq] at owns
      · simp [Idle, inv.unstarted pc]
      · exact inv.settled_idle (by simp [pc, ExecutePc.settled])
    simp [inFlight_eq_zero idle]
  · simpa using (List.countP_le_length _).trans inv.workers_le

end Execution

variable {pool next : WorkerPool}

/-- One position of a list after replacing the element at another, or the same, position. -/
theorem getElem?_set_of {α : Type} {l : List α} {index target : Nat} {a b : α}
    (found : l[target]? = some a) :
    (l.set index b)[target]? = if index = target then some b else some a := by
  have bound := (List.getElem?_eq_some_iff.mp found).1
  by_cases same : index = target
  · subst same
    simp [bound]
  · simp [List.getElem?_set_ne same, found, same]

/-- A call that an action leaves as it was is not refused by it, nor stops holding `running`. -/
theorem running_step_unchanged (e : Execution) {before after : Bool} {lost : Prop} :
    (e.pc = .start → e.pc = .returned (.error "worker pool already running") → after = before) ∧
      (e.pc.owns → e.pc.owns = false → lost) :=
  ⟨fun start returned => by simp [start] at returned, fun owns stopped => by simp [owns] at stopped⟩

/-- One action, seen from one call: a call refused at its checks leaves `running` alone, and a
call stops holding `running` only by its deferred reset, which clears the flag as the call
returns. -/
theorem running_step {action : Action} {index : Nat} {e e' : Execution}
    (h : pool.step action = some next) (before : pool.executions[index]? = some e)
    (after : next.executions[index]? = some e') :
    (e.pc = .start → e'.pc = .returned (.error "worker pool already running") →
        next.running = pool.running) ∧
      (e.pc.owns → e'.pc.owns = false →
        next.running = false ∧
          ∃ outcome, e.pc = .returning outcome ∧ e'.pc = .returned outcome) := by
  cases action with
  | call servers samples =>
      simp only [step, Option.some.injEq] at h
      subst h
      rw [List.getElem?_append_left (List.getElem?_eq_some_iff.mp before).1, before,
        Option.some.injEq] at after
      subst after
      exact running_step_unchanged _
  | start target =>
      obtain ⟨started, found, start, cases⟩ := start_eq h
      by_cases same : target = index
      · subst same
        rw [found, Option.some.injEq] at before
        subst before
        refine ⟨fun _ returned => ?_, fun owns => by simp [start, ExecutePc.owns] at owns⟩
        rcases cases with ⟨-, rfl⟩ | ⟨-, -, rfl⟩ | ⟨-, -, rfl⟩
        all_goals simp only [update_executions, getElem?_set_of found, if_pos,
          Option.some.injEq] at after
        · simp [← after] at returned
        · rfl
        · simp [← after, Execution.spawn] at returned
      · rcases cases with ⟨-, rfl⟩ | ⟨-, -, rfl⟩ | ⟨-, -, rfl⟩
        all_goals
          simp only [update_executions, getElem?_set_of before, if_neg same,
            Option.some.injEq] at after
          subst after
          exact running_step_unchanged _
  | unlock target =>
      obtain ⟨unlocked, outcome, found, returning, rfl⟩ := unlock_eq h
      simp only [update_executions, getElem?_set_of before] at after
      by_cases same : target = index
      · subst same
        rw [found, Option.some.injEq] at before
        subst before
        simp only [if_pos, Option.some.injEq] at after
        subst after
        exact ⟨fun start => by simp [start] at returning, fun _ _ => ⟨rfl, outcome, returning, rfl⟩⟩
      · rw [if_neg same, Option.some.injEq] at after
        subst after
        exact running_step_unchanged _
  | move target move =>
      obtain ⟨moved, moved', found, stepped, rfl⟩ := move_eq h
      simp only [update_executions, getElem?_set_of before] at after
      by_cases same : target = index
      · subst same
        rw [found, Option.some.injEq] at before
        subst before
        simp only [if_pos, Option.some.injEq] at after
        subst after
        refine ⟨fun start returned => ?_, fun owns lost => by simp_all [owns_step stepped]⟩
        rcases (step_frame stepped).2.1 with same | ⟨before, -⟩ | ⟨before | before, -⟩
        all_goals simp_all
      · rw [if_neg same, Option.some.injEq] at after
        subst after
        exact running_step_unchanged _

/-- Once a call's context is done, an action leaves it in place, its context done and its call
log as it was. -/
theorem frozen_step {action : Action} {index : Nat} {e : Execution}
    (h : pool.step action = some next) (found : pool.executions[index]? = some e)
    (done : e.done ≠ none) :
    ∃ e', next.executions[index]? = some e' ∧ e'.done ≠ none ∧ e'.calls = e.calls := by
  cases action with
  | call servers samples =>
      simp only [step, Option.some.injEq] at h
      subst h
      exact ⟨e, by rw [List.getElem?_append_left (List.getElem?_eq_some_iff.mp found).1, found],
        done, rfl⟩
  | start target =>
      obtain ⟨started, found', -, cases⟩ := start_eq h
      by_cases same : target = index
      · subst same
        rw [found', Option.some.injEq] at found
        subst found
        rcases cases with ⟨-, rfl⟩ | ⟨-, -, rfl⟩ | ⟨-, -, rfl⟩ <;>
          exact ⟨_, by simp only [update_executions, getElem?_set_of found', if_pos]; rfl,
            by exact done, by rfl⟩
      · rcases cases with ⟨-, rfl⟩ | ⟨-, -, rfl⟩ | ⟨-, -, rfl⟩ <;>
          exact ⟨e, by simp only [update_executions, getElem?_set_of found, if_neg same], done,
            rfl⟩
  | unlock target =>
      obtain ⟨unlocked, outcome, found', -, rfl⟩ := unlock_eq h
      by_cases same : target = index
      · subst same
        rw [found', Option.some.injEq] at found
        subst found
        exact ⟨_, by simp only [update_executions, getElem?_set_of found', if_pos]; rfl,
          by exact done, by rfl⟩
      · exact ⟨e, by simp only [update_executions, getElem?_set_of found, if_neg same], done, rfl⟩
  | move target move =>
      obtain ⟨moved, moved', found', stepped, rfl⟩ := move_eq h
      by_cases same : target = index
      · subst same
        rw [found', Option.some.injEq] at found
        subst found
        obtain ⟨context, -, calls, -⟩ := step_frame stepped
        refine ⟨moved', by simp only [update_executions, getElem?_set_of found', if_pos], ?_, ?_⟩
        · rcases context with same | ⟨_, -, live, -⟩
          exacts [same ▸ done, absurd live done]
        · rcases calls with same | ⟨live, -⟩
          exacts [same, absurd live done]
      · exact ⟨e, by simp only [update_executions, getElem?_set_of found, if_neg same], done, rfl⟩

/-- Once a call's context is done, no run makes another `QueryMultiple` call for it. -/
theorem frozen_runs {allowed : Action → Prop} {index : Nat} {e : Execution}
    (run : Runs allowed pool next) (found : pool.executions[index]? = some e)
    (done : e.done ≠ none) :
    ∃ e', next.executions[index]? = some e' ∧ e'.done ≠ none ∧ e'.calls = e.calls := by
  induction run with
  | refl => exact ⟨e, found, done, rfl⟩
  | tail _ step holds =>
      obtain ⟨e', found', done', calls⟩ := holds
      obtain ⟨_, -, stepped⟩ := step
      obtain ⟨e'', found'', done'', calls'⟩ := frozen_step stepped found' done'
      exact ⟨e'', found'', done'', calls'.trans calls⟩

/-- What concurrent `Execute` calls on a pool made by `NewWorkerPool(size)` guarantee. -/
structure Safe (size : Int) (pool : WorkerPool) : Prop where
  /-- At most `size` `QueryMultiple` calls are in progress. -/
  bounded : inFlight pool ≤ (newWorkerPool size).size
  /-- `running` is set exactly when one call holds it. -/
  held : pool.holders = pool.running.toNat
  /-- A call refused as already running started no worker and made no `QueryMultiple` call. -/
  refused : ∀ e ∈ pool.executions, e.pc = .returned (.error "worker pool already running") →
    e.workers = [] ∧ e.calls = []
  /-- No `QueryMultiple` call is in progress once its `Execute` is returning. -/
  quiescent : ∀ e ∈ pool.executions, e.pc.settled → e.inFlight = 0
  /-- The refusal leaves `running` alone, and a call stops holding `running` only by its deferred
  reset, which clears the flag as the call returns. -/
  released : ∀ (action : Action) (next : WorkerPool) (index : Nat) (e e' : Execution),
    pool.step action = some next →
    pool.executions[index]? = some e → next.executions[index]? = some e' →
    (e.pc = .start → e'.pc = .returned (.error "worker pool already running") →
        next.running = pool.running) ∧
      (e.pc.owns → e'.pc.owns = false →
        next.running = false ∧ ∃ outcome, e.pc = .returning outcome ∧ e'.pc = .returned outcome)
  /-- Once a call's context is done, no run makes another `QueryMultiple` call for it. -/
  frozen : ∀ (next : WorkerPool) (index : Nat) (e : Execution), Runs (fun _ => True) pool next →
    pool.executions[index]? = some e → e.done ≠ none →
    ∃ e', next.executions[index]? = some e' ∧ e'.calls = e.calls

/-- Every interleaving of any number of `Execute` calls on one pool, each caller's context done
at any time or never, is safe. -/
theorem concurrent_execute_safe (size : Int) (pool : WorkerPool)
    (reachable : Runs (fun _ => True) (newWorkerPool size) pool) : Safe size pool := by
  have inv := reachable_invariant reachable
  refine ⟨?_, inv.holders, fun e mem rejected => ?_, fun e mem settled => ?_,
    fun _ _ _ _ _ h before after => running_step h before after,
    fun _ _ _ run found done => ?_⟩
  · have bound := sum_le_sum_mul fun e mem => (inv.executions e mem).inFlight_le
    rw [← size_runs reachable]
    calc inFlight pool ≤ pool.holders * pool.size := bound
      _ = pool.running.toNat * pool.size := by rw [inv.holders]
      _ ≤ pool.size := by cases pool.running <;> simp
  · have idle := (inv.executions e mem).rejected rejected
    exact ⟨idle, (inv.executions e mem).calls_nil idle⟩
  · exact inFlight_eq_zero ((inv.executions e mem).settled_idle settled)
  · obtain ⟨e', found', -, calls⟩ := frozen_runs run found done
    exact ⟨e', found', calls⟩

theorem concurrent_execute_safe_refused :
    ∃ pool, Runs (fun _ => True) (newWorkerPool 2) pool ∧ pool.running = true ∧
      pool.executions.map Execution.pc =
        [.submitting, .returned (.error "worker pool already running")] ∧ Safe 2 pool := by
  have run : Runs (fun _ => True) (newWorkerPool 2) _ :=
    .tail (.tail (.tail (.single ⟨.call ["192.0.2.1", "192.0.2.2"] 3, trivial, rfl⟩)
      ⟨.call ["192.0.2.3"] 3, trivial, rfl⟩) ⟨.start 0, trivial, rfl⟩) ⟨.start 1, trivial, rfl⟩
  exact ⟨_, run, rfl, rfl, concurrent_execute_safe 2 _ run⟩

end WorkerPool

end NtpExporter
