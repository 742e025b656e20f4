import NtpExporter.Ntp.WorkerPool.Moves

/-!
# The invariant of one `Execute` call

`Execution.Invariant size`: what holds of every call on a pool of size `size` in every reachable
state, whatever the interleaving and whether or not its context is ever done. It ties the
channels' closed flags to the goroutines' program counters, keeps the workers of a call that has
returned, or never set `running`, all returned, and records where every job, call, answer and
result came from. Every move of the call keeps it.
-/

namespace NtpExporter

namespace WorkerPool

/-- The job a worker holds, before or during its `QueryMultiple` call. -/
def WorkerPc.job? : WorkerPc → Option Job
  | .selecting job | .querying job | .reporting job => some job
  | _ => none

/-- The result a worker holds, ready to send. -/
def WorkerPc.result? : WorkerPc → Option JobResult
  | .delivering result => some result
  | _ => none

/-- The call set `running` and has not reset it yet. -/
def ExecutePc.owns : ExecutePc → Bool
  | .submitting | .draining | .collecting | .returning _ => true
  | _ => false

/-- The call has reached a `return` that set `running`, or returned. -/
def ExecutePc.settled : ExecutePc → Bool
  | .returning _ | .returned _ => true
  | _ => false

namespace Execution

/-- Every worker of the call has returned. -/
def Idle (e : Execution) : Prop := ∀ worker ∈ e.workers, worker = .exited

theorem workersDone_iff {e : Execution} : e.workersDone = true ↔ e.Idle := by
  simp [workersDone, Idle]

/-- A worker that has not returned. -/
theorem not_idle {e : Execution} {worker : Nat} {pc : WorkerPc} (found : e.workers[worker]? = some pc)
    (live : pc ≠ .exited) : ¬ e.Idle :=
  fun idle => live (idle pc (List.getElem?_mem found))

/-- What one position of a list can contribute after it is replaced. -/
theorem mem_filterMap_set {α β : Type} {f : α → Option β} {l : List α} {position : Nat}
    {new : α} {b : β} (mem : b ∈ (l.set position new).filterMap f) :
    b ∈ l.filterMap f ∨ f new = some b := by
  obtain ⟨a, mem, found⟩ := List.mem_filterMap.mp mem
  rcases List.mem_or_eq_of_mem_set mem with mem | rfl
  · exact .inl (List.mem_filterMap.mpr ⟨a, mem, found⟩)
  · exact .inr found

/-- What holds of every call on a pool of size `size`. -/
structure Invariant (size : Nat) (e : Execution) : Prop where
  /-- Before its checks the call has no workers. -/
  unstarted : e.pc = .start → e.workers = []
  /-- At most `size` workers. -/
  workers_le : e.workers.length ≤ size
  /-- At most one worker per server. -/
  workers_le_servers : e.workers.length ≤ e.servers.length
  /-- A call that set `running` has workers. -/
  spawned : e.pc.owns → e.workers ≠ []
  /-- Without workers there are no calls. -/
  calls_nil : e.workers = [] → e.calls = []
  /-- Until the submission loop ends, the jobs channel is open and the closer not started. -/
  submitting : e.pc = .start ∨ e.pc = .submitting → e.jobsClosed = false ∧ e.closer = .unstarted
  /-- While collecting, every job was sent, the jobs channel is closed and the closer started. -/
  collecting : e.pc = .collecting →
    e.jobsClosed = true ∧ e.sent = e.servers.length ∧ e.closer ≠ .unstarted
  /-- The results channel is closed exactly when the closer has finished. -/
  closed_iff : e.resultsClosed = true ↔ e.closer = .finished
  /-- The closer finishes only once every worker has returned. -/
  finished_idle : e.closer = .finished → e.Idle
  /-- The call returns only once every worker has returned. -/
  settled_idle : e.pc.settled → e.Idle
  /-- A rejected call started no worker. -/
  rejected : e.pc = .returned (.error "worker pool already running") → e.workers = []
  /-- A call that set `running` never returns the rejection. -/
  returning_ne : e.pc ≠ .returning (.error "worker pool already running")
  /-- The loop sends each server once. -/
  sent_le : e.sent ≤ e.servers.length
  /-- The jobs channel holds only jobs sent. -/
  jobs_le : e.jobs.length ≤ e.sent
  /-- A call in progress is a call made. -/
  querying : ∀ job, WorkerPc.querying job ∈ e.workers → job ∈ e.calls
  /-- Every job is for the server at its position. -/
  positions : ∀ job ∈ e.jobs ++ e.workers.filterMap WorkerPc.job? ++ e.calls,
    e.servers[job.index]? = some job.server
  /-- Every answer is to a call made, for its job's server. -/
  answered : ∀ job result, (job, result) ∈ e.answers → job ∈ e.calls ∧ result.server = job.server
  /-- The map's keys are the servers of the results received. -/
  collected_mem : ∀ key, key ∈ e.collected ↔ ∃ result ∈ e.received, result.server = key
  /-- The map's values are results received. -/
  collected_lookup : ∀ key result, e.collected.lookup key = some result →
    result ∈ e.received ∧ result.server = key
  /-- No goroutine has panicked. -/
  not_panicked : e.panicked = false

namespace Invariant

variable {size : Nat} {e e' : Execution} {worker : Nat} {pc : WorkerPc}

/-- A call with a worker that has not returned has set `running` and is still running, and its
closer has not finished. -/
theorem live (inv : e.Invariant size) (found : e.workers[worker]? = some pc)
    (running : pc ≠ .exited) :
    e.pc.settled = false ∧ e.closer ≠ .finished ∧ e.resultsClosed = false ∧ e.workers ≠ [] := by
  have busy := not_idle found running
  have nonempty : e.workers ≠ [] := List.ne_nil_of_mem (List.getElem?_mem found)
  refine ⟨?_, fun finished => busy (inv.finished_idle finished), ?_, nonempty⟩
  · cases settled : e.pc.settled
    · rfl
    · exact absurd (inv.settled_idle settled) busy
  · cases closed : e.resultsClosed
    · rfl
    · exact absurd (inv.finished_idle (inv.closed_iff.mp closed)) busy

/-- A worker that has not returned moves to `next`, which holds a job for its position and is in
a call only if the call was made. -/
theorem setWorker (inv : e.Invariant size) (found : e.workers[worker]? = some pc)
    (running : pc ≠ .exited) (next : WorkerPc)
    (position : ∀ job, next.job? = some job → e.servers[job.index]? = some job.server)
    (called : ∀ job, next = .querying job → job ∈ e.calls) :
    Invariant size { e with workers := e.workers.set worker next } := by
  obtain ⟨settled, unfinished, -, nonempty⟩ := inv.live found running
  refine { inv with
    unstarted := fun start => absurd (inv.unstarted start) nonempty
    workers_le := by simpa using inv.workers_le
    workers_le_servers := by simpa using inv.workers_le_servers
    spawned := fun owns => by simpa using inv.spawned owns
    calls_nil := fun none => inv.calls_nil (by simpa using none)
    finished_idle := fun finished => absurd finished unfinished
    settled_idle := fun settled' => absurd settled' (by simp [settled])
    rejected := fun rejected => absurd (inv.rejected rejected) nonempty
    querying := fun job mem => ?_
    positions := fun job mem => ?_ }
  · rcases List.mem_or_eq_of_mem_set mem with mem | same
    · exact inv.querying job mem
    · exact called job same.symm
  · simp only [List.mem_append] at mem
    rcases mem with (mem | mem) | mem
    · exact inv.positions job (by simp [mem])
    · rcases mem_filterMap_set mem with mem | held
      · exact inv.positions job (by simp [mem])
      · exact position job held
    · exact inv.positions job (by simp [mem])

/-! ## Each move keeps the invariant -/

theorem cancel {err : CtxErr} (inv : e.Invariant size) (h : e.cancel err = some e') :
    e'.Invariant size := by
  obtain ⟨-, rfl⟩ := cancel_eq h
  exact { inv with }

theorem submit (inv : e.Invariant size) (h : e.submit = some e') : e'.Invariant size := by
  obtain ⟨server, submitting, found, -, rfl⟩ := submit_eq h
  refine { inv with
    collecting := by simp [submitting]
    sent_le := (List.getElem?_eq_some_iff.mp found).1
    jobs_le := by simpa using inv.jobs_le
    positions := fun job mem => ?_ }
  simp only [List.mem_append, List.mem_singleton] at mem
  rcases mem with ((mem | rfl) | mem) | mem
  · exact inv.positions job (by simp [mem])
  · exact found
  all_goals exact inv.positions job (by simp [mem])

theorem abandon (inv : e.Invariant size) (h : e.abandon = some e') : e'.Invariant size := by
  obtain ⟨submitting, -, -, rfl⟩ := abandon_eq h
  exact { inv with
    unstarted := by simp
    spawned := fun _ => inv.spawned (by simp [submitting, ExecutePc.owns])
    submitting := by simp
    collecting := by simp
    settled_idle := by simp [ExecutePc.settled]
    rejected := by simp
    returning_ne := by simp }

theorem closeJobs (inv : e.Invariant size) (h : e.closeJobs = some e') : e'.Invariant size := by
  obtain ⟨submitting, sent, rfl⟩ := closeJobs_eq h
  have unstarted := (inv.submitting (.inr submitting)).2
  exact { inv with
    unstarted := by simp
    spawned := fun _ => inv.spawned (by simp [submitting, ExecutePc.owns])
    submitting := by simp
    collecting := fun _ => ⟨rfl, sent, by simp⟩
    closed_iff := by simpa [unstarted] using inv.closed_iff
    finished_idle := by simp
    settled_idle := by simp [ExecutePc.settled]
    rejected := by simp
    returning_ne := by simp }

theorem wait (inv : e.Invariant size) (h : e.wait = some e') : e'.Invariant size := by
  obtain ⟨err, draining, -, done, rfl⟩ := wait_eq h
  exact { inv with
    unstarted := by simp
    spawned := fun _ => inv.spawned (by simp [draining, ExecutePc.owns])
    submitting := by simp
    collecting := by simp
    settled_idle := fun _ => workersDone_iff.mp done
    rejected := by simp
    returning_ne := by cases err <;> simp [CtxErr.text] }

theorem receive (inv : e.Invariant size) (h : e.receive = some e') : e'.Invariant size := by
  obtain ⟨collecting, ⟨result, rest, -, rfl⟩ | ⟨-, closed, rfl⟩⟩ := receive_eq h
  · refine { inv with
      collected_mem := fun key => ?_
      collected_lookup := fun key value found => ?_ }
    · rw [AList.mem_insert, inv.collected_mem]
      simp only [List.mem_append, List.mem_singleton]
      constructor
      · rintro (rfl | ⟨other, mem, rfl⟩)
        exacts [⟨result, .inr rfl, rfl⟩, ⟨other, .inl mem, rfl⟩]
      · rintro ⟨other, mem | rfl, rfl⟩
        exacts [.inr ⟨other, mem, rfl⟩, .inl rfl]
    · by_cases same : key = result.server
      · subst same
        rw [AList.lookup_insert, Option.some.injEq] at found
        simp [found]
      · rw [AList.lookup_insert_ne same] at found
        obtain ⟨mem, server⟩ := inv.collected_lookup key value found
        simp [mem, server]
  · exact { inv with
      unstarted := by simp
      spawned := fun _ => inv.spawned (by simp [collecting, ExecutePc.owns])
      submitting := by simp
      collecting := by simp
      settled_idle := fun _ => inv.finished_idle (inv.closed_iff.mp closed)
      rejected := by simp
      returning_ne := by split <;> simp }

theorem closeResults (inv : e.Invariant size) (h : e.closeResults = some e') :
    e'.Invariant size := by
  obtain ⟨waiting, done, rfl⟩ := closeResults_eq h
  exact { inv with
    submitting := fun before => absurd ((inv.submitting before).2.symm.trans waiting) (by simp)
    collecting := fun collecting => ⟨(inv.collecting collecting).1, (inv.collecting collecting).2.1,
      by simp⟩
    closed_iff := by simp
    finished_idle := fun _ => workersDone_iff.mp done }

theorem take (inv : e.Invariant size) (h : e.take worker = some e') : e'.Invariant size := by
  obtain ⟨found, ⟨job, rest, jobs, rfl⟩ | ⟨-, -, rfl⟩⟩ := take_eq h
  · have moved := inv.setWorker found (by simp) (.selecting job)
      (fun held taken => by
        simp only [WorkerPc.job?, Option.some.injEq] at taken
        exact taken ▸ inv.positions _ (by simp [jobs])) (by simp)
    have jobs_le := inv.jobs_le
    simp only [jobs, List.length_cons] at jobs_le
    exact { moved with
      jobs_le := by simp only; omega
      positions := fun other mem => moved.positions other (by
        simp only [List.mem_append, jobs, List.mem_cons] at mem ⊢
        tauto) }
  · exact inv.setWorker found (by simp) .exited (by simp [WorkerPc.job?]) (by simp)

theorem check (inv : e.Invariant size) (h : e.check worker = some e') : e'.Invariant size := by
  obtain ⟨job, found, ⟨-, rfl⟩ | ⟨-, rfl⟩⟩ := check_eq h
  all_goals have held : e.servers[job.index]? = some job.server :=
    inv.positions job (List.mem_append.mpr (.inl (List.mem_append.mpr
      (.inr (List.mem_filterMap.mpr ⟨_, List.getElem?_mem found, rfl⟩)))))
  · exact inv.setWorker found (by simp) (.reporting job)
      (fun _ taken => by simp only [WorkerPc.job?, Option.some.injEq] at taken; exact taken ▸ held)
      (by simp)
  · obtain ⟨-, -, -, nonempty⟩ := inv.live found (by simp)
    have called : Invariant size { e with calls := e.calls ++ [job] } :=
      { inv with
        calls_nil := fun none => absurd none nonempty
        querying := fun other mem => by simp [inv.querying other mem]
        positions := fun other mem => by
          rcases List.mem_append.mp mem with mem | mem
          · exact inv.positions other (List.mem_append.mpr (.inl mem))
          · rcases List.mem_append.mp mem with mem | mem
            · exact inv.positions other (List.mem_append.mpr (.inr mem))
            · exact List.mem_singleton.mp mem ▸ held
        answered := fun other result mem => by
          simp [(inv.answered other result mem).1, (inv.answered other result mem).2] }
    exact called.setWorker found (by simp) (.querying job)
      (fun _ taken => by simp only [WorkerPc.job?, Option.some.injEq] at taken; exact taken ▸ held)
      (fun _ same => by simp only [WorkerPc.querying.injEq] at same; simp [same])

theorem complete {responses : List Response} {error : Option String} {duration : Duration}
    (inv : e.Invariant size) (h : e.complete worker responses error duration = some e') :
    e'.Invariant size := by
  obtain ⟨job, found, rfl⟩ := complete_eq h
  have moved := inv.setWorker found (by simp) (.delivering ⟨job.server, responses, error, duration⟩)
    (by simp [WorkerPc.job?]) (by simp)
  exact { moved with
    answered := fun other result mem => by
      simp only [List.mem_append, List.mem_singleton, Prod.mk.injEq] at mem
      rcases mem with mem | ⟨rfl, rfl⟩
      · exact inv.answered other result mem
      · exact ⟨inv.querying other (List.getElem?_mem found), rfl⟩ }

/-- A worker that has not returned sends a result and moves to `next`. -/
theorem sendResult {result : JobResult} {next : WorkerPc} (inv : e.Invariant size)
    (found : e.workers[worker]? = some pc) (running : pc ≠ .exited)
    (position : ∀ job, next.job? = some job → e.servers[job.index]? = some job.server)
    (called : ∀ job, next = .querying job → job ∈ e.calls)
    (h : e.sendResult worker result next = some e') : e'.Invariant size := by
  rcases sendResult_eq h with ⟨closed, -⟩ | ⟨-, -, rfl⟩
  · simp [(inv.live found running).2.2.1] at closed
  · exact { inv.setWorker found running next position called with }

theorem deliver (inv : e.Invariant size) (h : e.deliver worker = some e') : e'.Invariant size := by
  obtain ⟨result, found, sent⟩ := deliver_eq h
  exact inv.sendResult found (by simp) (by simp [WorkerPc.job?]) (by simp) sent

theorem drop (inv : e.Invariant size) (h : e.drop worker = some e') : e'.Invariant size := by
  obtain ⟨result, found, -, rfl⟩ := drop_eq h
  exact inv.setWorker found (by simp) .exited (by simp [WorkerPc.job?]) (by simp)

theorem report (inv : e.Invariant size) (h : e.report worker = some e') : e'.Invariant size := by
  obtain ⟨job, err, found, -, sent⟩ := report_eq h
  exact inv.sendResult found (by simp) (by simp [WorkerPc.job?]) (by simp) sent

/-- Every move of the call keeps the invariant. -/
theorem step {move : Move} (inv : e.Invariant size) (h : e.step move = some e') :
    e'.Invariant size := by
  cases move with
  | cancel err => exact inv.cancel h
  | submit => exact inv.submit h
  | abandon => exact inv.abandon h
  | closeJobs => exact inv.closeJobs h
  | wait => exact inv.wait h
  | receive => exact inv.receive h
  | closeResults => exact inv.closeResults h
  | take worker => exact inv.take h
  | check worker => exact inv.check h
  | complete worker responses error duration => exact inv.complete h
  | deliver worker => exact inv.deliver h
  | drop worker => exact inv.drop h
  | report worker => exact inv.report h

end Invariant

end Execution

end WorkerPool

end NtpExporter
