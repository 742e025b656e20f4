import NtpExporter.Ntp.WorkerPool.Flow

/-!
# The pool's invariant over every run

`WorkerPool.Invariant`: every call keeps its invariant, and its accounting while its context is
live, and `running` is set exactly when one call holds it. Every action keeps this, whatever the
calls, interleavings and cancellations, so it holds in every state that a run from
`NewWorkerPool` reaches.
-/

namespace NtpExporter

namespace WorkerPool

open Execution

/-- The number of calls that hold `running`. -/
def holders (pool : WorkerPool) : Nat := (pool.executions.map fun e => e.pc.owns.toNat).sum

/-- What holds of every reachable pool. -/
structure Invariant (pool : WorkerPool) : Prop where
  /-- Every call keeps its invariant. -/
  executions : ∀ e ∈ pool.executions, e.Invariant pool.size
  /-- Every call whose context is live keeps its accounting. -/
  flows : ∀ e ∈ pool.executions, e.done = none → e.Flow
  /-- `running` is set exactly when one call holds it. -/
  holders : pool.holders = pool.running.toNat

namespace Execution

variable {size : Nat} {e : Execution}

theorem invariant_begin (servers : List String) (samples : Int) :
    (begin servers samples).Invariant size where
  unstarted _ := rfl
  workers_le := Nat.zero_le _
  workers_le_servers := Nat.zero_le _
  spawned := by simp [begin, ExecutePc.owns]
  calls_nil _ := rfl
  submitting _ := ⟨rfl, rfl⟩
  collecting := by simp [begin]
  closed_iff := by simp [begin]
  finished_idle := by simp [begin]
  settled_idle := by simp [begin, ExecutePc.settled]
  rejected := by simp [begin]
  returning_ne := by simp [begin]
  sent_le := Nat.zero_le _
  jobs_le := le_rfl
  querying := by simp [begin]
  positions := by simp [begin]
  answered := by simp [begin]
  collected_mem := by simp [begin]
  collected_lookup := by simp [begin]
  not_panicked := rfl

theorem flow_begin (servers : List String) (samples : Int) : (begin servers samples).Flow where
  indices := by simp [begin]
  servers := by simp [begin]
  sourced := by simp [begin]
  not_reporting := by simp [begin]
  not_draining := by simp [begin]
  drained := by simp [begin]
  returned := by simp [begin]

/-- A call that passed its checks, with its workers started. -/
theorem Invariant.spawn (inv : e.Invariant size) (start : e.pc = .start)
    (nonempty : e.servers ≠ []) (positive : 0 < size) : (e.spawn size).Invariant size := by
  have count : 0 < min size e.servers.length :=
    Nat.lt_min.mpr ⟨positive, List.length_pos.mpr nonempty⟩
  have before := inv.submitting (.inl start)
  exact { inv with
    unstarted := by simp [Execution.spawn]
    workers_le := by simp [Execution.spawn]
    workers_le_servers := by simp [Execution.spawn]
    spawned := fun _ => by simpa [Execution.spawn] using count.ne'
    calls_nil := fun none => absurd none (by simpa [Execution.spawn] using count.ne')
    submitting := fun _ => before
    collecting := by simp [Execution.spawn]
    finished_idle := by simp [Execution.spawn, before.2]
    settled_idle := by simp [Execution.spawn, ExecutePc.settled]
    rejected := by simp [Execution.spawn]
    returning_ne := by simp [Execution.spawn]
    querying := by simp [Execution.spawn, List.mem_replicate]
    positions := fun job mem => inv.positions job (by
      simpa [Execution.spawn, inv.unstarted start, List.filterMap_replicate, WorkerPc.job?]
        using mem) }

theorem Flow.spawn (flow : e.Flow) (inv : e.Invariant size) (start : e.pc = .start) :
    (e.spawn size).Flow := by
  have none := inv.unstarted start
  exact { flow with
    indices := by
      simpa [Execution.spawn, List.map_replicate, WorkerPc.heldIndex, none, nsmul_zero] using flow.indices
    servers := by
      simpa [Execution.spawn, List.map_replicate, WorkerPc.heldServer, none, nsmul_zero] using flow.servers
    sourced := by
      simpa [Execution.spawn, List.filterMap_replicate, WorkerPc.result?, none] using flow.sourced
    not_reporting := by simp [Execution.spawn, List.mem_replicate]
    not_draining := by simp [Execution.spawn]
    drained := by simp [Execution.spawn, List.mem_replicate]
    returned := by simp [Execution.spawn] }

/-- A call that fails its checks returns `text` without having started a worker. -/
theorem Invariant.refuse (inv : e.Invariant size) (start : e.pc = .start) (text : String) :
    Invariant size { e with pc := .returned (.error text) } := by
  have none := inv.unstarted start
  exact { inv with
    unstarted := by simp
    spawned := by simp [ExecutePc.owns]
    submitting := by simp
    collecting := by simp
    settled_idle := fun _ => by simp [Idle, none]
    rejected := fun _ => none
    returning_ne := by simp }

theorem Flow.refuse (flow : e.Flow) (inv : e.Invariant size) (start : e.pc = .start)
    (text : String) : Flow { e with pc := .returned (.error text) } :=
  { flow with
    not_draining := by simp
    returned := fun _ _ nonempty => absurd (inv.unstarted start) nonempty }

/-- The deferred reset: the call returns what it was returning. -/
theorem Invariant.unlock {outcome} (inv : e.Invariant size)
    (returning : e.pc = .returning outcome) :
    Invariant size { e with pc := .returned outcome } := by
  have idle := inv.settled_idle (by simp [returning, ExecutePc.settled])
  exact { inv with
    unstarted := by simp
    spawned := by simp [ExecutePc.owns]
    submitting := by simp
    collecting := by simp
    settled_idle := fun _ => idle
    rejected := fun rejected => by
      simp only [ExecutePc.returned.injEq] at rejected
      exact absurd (rejected ▸ returning) inv.returning_ne
    returning_ne := by simp }

theorem Flow.unlock {outcome} (flow : e.Flow) (returning : e.pc = .returning outcome) :
    Flow { e with pc := .returned outcome } :=
  { flow with
    not_draining := by simp
    returned := fun other at_return nonempty => flow.returned other
      (by simp only [ExecutePc.returned.injEq, reduceCtorEq, false_or] at at_return
          exact .inl (at_return ▸ returning)) nonempty }

/-- A move keeps whether the call holds `running`. -/
theorem owns_step {move : Move} {e' : Execution} (h : e.step move = some e') :
    e'.pc.owns = e.pc.owns := by
  rcases (step_frame h).2.1 with same | ⟨before, after | after⟩ | ⟨before | before, _, after⟩
  · rw [same]
  all_goals simp [before, after, ExecutePc.owns]

/-- A move that leaves the context live found it live. -/
theorem live_of_step {move : Move} {e' : Execution} (h : e.step move = some e')
    (live : e'.done = none) : e.done = none := by
  rcases (step_frame h).1 with same | ⟨_, -, before, -⟩
  · exact same ▸ live
  · exact before

end Execution

namespace Invariant

variable {pool next : WorkerPool}

/-- A property of every call survives replacing one call by another that has it. -/
theorem forall_mem_set {P : Execution → Prop} {calls : List Execution} (all : ∀ e ∈ calls, P e)
    {index : Nat} {e' : Execution} (new : P e') : ∀ e ∈ calls.set index e', P e :=
  fun e mem => (List.mem_or_eq_of_mem_set mem).elim (all e) (fun same => same ▸ new)

/-- How replacing call `index` changes the number of calls that hold `running`. -/
theorem holders_update {index : Nat} {e : Execution} (found : pool.executions[index]? = some e)
    (e' : Execution) :
    (pool.update index e').holders + e.pc.owns.toNat = pool.holders + e'.pc.owns.toNat :=
  sum_map_set found e' _

theorem initial (size : Int) : (newWorkerPool size).Invariant where
  executions := by simp [newWorkerPool]
  flows := by simp [newWorkerPool]
  holders := by simp [newWorkerPool, WorkerPool.holders]

theorem call (inv : pool.Invariant) (servers : List String) (samples : Int) :
    Invariant { pool with executions := pool.executions ++ [begin servers samples] } where
  executions e mem := by
    rcases List.mem_append.mp mem with mem | mem
    · exact inv.executions e mem
    · exact List.mem_singleton.mp mem ▸ invariant_begin servers samples
  flows e mem := by
    rcases List.mem_append.mp mem with mem | mem
    · exact inv.flows e mem
    · exact fun _ => List.mem_singleton.mp mem ▸ flow_begin servers samples
  holders := by simpa [WorkerPool.holders, begin, ExecutePc.owns] using inv.holders

theorem start {index : Nat} (inv : pool.Invariant) (h : pool.start index = some next) :
    next.Invariant := by
  obtain ⟨e, found, start, cases⟩ := start_eq h
  have mem := List.getElem?_mem found
  have inv_e := inv.executions e mem
  have refused : ∀ text, (pool.update index { e with pc := .returned (.error text) }).Invariant :=
    fun text =>
      { executions := forall_mem_set inv.executions (inv_e.refuse start text)
        flows := forall_mem_set inv.flows fun live => (inv.flows e mem live).refuse inv_e start text
        holders := by
          have change := holders_update found { e with pc := .returned (.error text) }
          simp only [start, ExecutePc.owns, add_zero] at change
          simpa [← inv.holders] using change }
  rcases cases with ⟨-, rfl⟩ | ⟨-, -, rfl⟩ | ⟨nonempty, idle, rfl⟩
  · exact refused _
  · exact refused _
  · exact { executions := forall_mem_set inv.executions (inv_e.spawn start nonempty pool.size_pos)
            flows := forall_mem_set inv.flows fun live => (inv.flows e mem live).spawn inv_e start
            holders := by
              have change := holders_update found (e.spawn pool.size)
              simp only [start, Execution.spawn, ExecutePc.owns, inv.holders, idle] at change
              simpa using change }

theorem unlock {index : Nat} (inv : pool.Invariant) (h : pool.unlock index = some next) :
    next.Invariant := by
  obtain ⟨e, outcome, found, returning, rfl⟩ := unlock_eq h
  have mem := List.getElem?_mem found
  have change := holders_update found { e with pc := .returned outcome }
  exact { executions := forall_mem_set inv.executions ((inv.executions e mem).unlock returning)
          flows := forall_mem_set inv.flows fun live => (inv.flows e mem live).unlock returning
          holders := by
            rw [inv.holders] at change
            simp only [returning, ExecutePc.owns] at change
            cases running : pool.running
            · simp [running] at change
            · simpa [running] using change }

theorem move {index : Nat} {move : Move} (inv : pool.Invariant)
    (h : pool.step (.move index move) = some next) : next.Invariant := by
  obtain ⟨e, e', found, stepped, rfl⟩ := move_eq h
  have mem := List.getElem?_mem found
  have inv_e := inv.executions e mem
  exact { executions := forall_mem_set inv.executions (inv_e.step stepped)
          flows := forall_mem_set inv.flows fun live =>
            (inv.flows e mem (live_of_step stepped live)).step inv_e live stepped
          holders := by
            have := holders_update found e'
            rw [owns_step stepped, add_right_cancel_iff] at this
            simpa [inv.holders] using this }

/-- Every action keeps the pool's invariant. -/
theorem step {action : Action} (inv : pool.Invariant) (h : pool.step action = some next) :
    next.Invariant := by
  cases action with
  | call servers samples =>
      simp only [WorkerPool.step, Option.some.injEq] at h
      exact h ▸ inv.call servers samples
  | start index => exact inv.start h
  | unlock index => exact inv.unlock h
  | move index move => exact inv.move h

/-- Every run keeps the pool's invariant. -/
theorem runs {allowed : Action → Prop} (inv : pool.Invariant) (run : Runs allowed pool next) :
    next.Invariant := by
  induction run with
  | refl => exact inv
  | tail _ step holds =>
      obtain ⟨_, -, stepped⟩ := step
      exact holds.step stepped

end Invariant

/-- Every state of every run from `NewWorkerPool` satisfies the invariant. -/
theorem reachable_invariant {allowed : Action → Prop} {size : Int} {pool : WorkerPool}
    (run : Runs allowed (newWorkerPool size) pool) : pool.Invariant :=
  (Invariant.initial size).runs run

theorem size_step {pool next : WorkerPool} {action : Action} (h : pool.step action = some next) :
    next.size = pool.size := by
  cases action with
  | call servers samples =>
      simp only [step, Option.some.injEq] at h
      rw [← h]
  | start index =>
      obtain ⟨_, -, -, ⟨-, rfl⟩ | ⟨-, -, rfl⟩ | ⟨-, -, rfl⟩⟩ := start_eq h <;> rfl
  | unlock index =>
      obtain ⟨_, _, -, -, rfl⟩ := unlock_eq h
      rfl
  | move index move =>
      obtain ⟨_, _, -, -, rfl⟩ := move_eq h
      rfl

/-- The size never changes. -/
theorem size_runs {allowed : Action → Prop} {pool next : WorkerPool}
    (run : Runs allowed pool next) : next.size = pool.size := by
  induction run with
  | refl => rfl
  | tail _ step same =>
      obtain ⟨_, -, stepped⟩ := step
      exact (size_step stepped).trans same

end WorkerPool

end NtpExporter
