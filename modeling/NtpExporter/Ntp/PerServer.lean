import NtpExporter.Ntp.CircuitBreaker
import NtpExporter.Ntp.RateLimiter

/-!
# Per-server instances under a read-write lock

`CircuitBreakerClient.getBreakerForServer` and `RateLimiter.getLimiterForServer` look a server's
entry up under the read lock, and otherwise look it up again under the write lock before making,
storing and returning a new instance. Each locked region is one atomic step of a goroutine's call,
the calls of any number of goroutines interleave in any order, and an instance is a pointer into
the heap of the instances made, whose list is kept as history for the proofs. Over every
interleaving from the empty map each key gets at most one instance, and no entry is ever replaced
or removed.
-/

namespace NtpExporter

namespace PerServer

/-- Where a goroutine's call is. -/
inductive Pc
  /-- Before its read-locked region. -/
  | reading
  /-- It found no entry, and is before its write-locked region. -/
  | writing
  /-- It returned this instance. -/
  | returned (pointer : Nat)
  deriving DecidableEq

/-- One goroutine's call, for the entry of `key`. -/
structure Call (κ : Type) where
  /-- The key looked up. -/
  key : κ
  /-- Where the call is. -/
  pc : Pc
  deriving DecidableEq

/-- The map of instances by key, the instances made, and the calls. -/
structure State (κ α : Type) where
  /-- The map, from keys to pointers. -/
  table : GoMap κ Nat
  /-- The instances made, by pointer. -/
  heap : List α
  /-- Each instance made, with the key it was made for. -/
  made : List (κ × Nat)
  /-- The goroutines' calls. -/
  calls : List (Call κ)

/-- What can happen next: a goroutine calls the lookup for `key`, or call `index` runs its next
locked region, making `fresh` if it has to make an instance. -/
inductive Action (κ α : Type)
  | call (key : κ)
  | run (index : Nat) (fresh : α)

variable {κ α : Type} [DecidableEq κ]

/-- The map before any call. -/
def empty : State κ α := ⟨∅, [], [], []⟩

/-- The instance stored under `key`. -/
def State.instance (s : State κ α) (key : κ) : Option α :=
  (s.table.lookup key).bind fun pointer => s.heap[pointer]?

/-- The read-locked region: the entry's instance, or on to the write-locked region. -/
def readLocked (s : State κ α) (index : Nat) (key : κ) : State κ α :=
  match s.table.lookup key with
  | some pointer => { s with calls := s.calls.set index ⟨key, .returned pointer⟩ }
  | none => { s with calls := s.calls.set index ⟨key, .writing⟩ }

/-- The write-locked region: the entry stored meanwhile, or a new instance `fresh` stored under the
key. -/
def writeLocked (s : State κ α) (index : Nat) (key : κ) (fresh : α) : State κ α :=
  match s.table.lookup key with
  | some pointer => { s with calls := s.calls.set index ⟨key, .returned pointer⟩ }
  | none =>
      { table := s.table.insert key s.heap.length
        heap := s.heap ++ [fresh]
        made := s.made ++ [(key, s.heap.length)]
        calls := s.calls.set index ⟨key, .returned s.heap.length⟩ }

/-- One action, when it can be taken. -/
def step (s : State κ α) : Action κ α → Option (State κ α)
  | .call key => some { s with calls := s.calls ++ [⟨key, .reading⟩] }
  | .run index fresh =>
      match s.calls[index]? with
      | some ⟨key, .reading⟩ => some (readLocked s index key)
      | some ⟨key, .writing⟩ => some (writeLocked s index key fresh)
      | _ => none

/-- The runs whose actions `allowed` admits. -/
def Runs (allowed : Action κ α → Prop) : State κ α → State κ α → Prop :=
  Relation.ReflTransGen fun s next => ∃ action, allowed action ∧ step s action = some next

/-- The actions of calls that make their instances with `make`, at any reading of the clock. -/
def Steps (make : Int → α) : Action κ α → Prop
  | .call _ => True
  | .run _ fresh => ∃ now, fresh = make now

/-! ## What one step can do -/

/-- Every step: a new call, a read-locked region, a write-locked region that finds the entry, or
one that makes an instance for a key without one. -/
theorem step_cases {s s' : State κ α} {action : Action κ α}
    (stepped : step s action = some s') :
    (∃ key, s' = { s with calls := s.calls ++ [⟨key, .reading⟩] }) ∨
      (∃ index key,
        s.calls[index]? = some ⟨key, .reading⟩ ∧ s' = readLocked s index key) ∨
      (∃ index key pointer, s.calls[index]? = some ⟨key, .writing⟩ ∧
        s.table.lookup key = some pointer ∧
        s' = { s with calls := s.calls.set index ⟨key, .returned pointer⟩ }) ∨
      (∃ index key fresh,
        s.calls[index]? = some ⟨key, .writing⟩ ∧ s.table.lookup key = none ∧
        s' = { table := s.table.insert key s.heap.length, heap := s.heap ++ [fresh],
               made := s.made ++ [(key, s.heap.length)],
               calls := s.calls.set index ⟨key, .returned s.heap.length⟩ }) := by
  cases action with
  | call key => exact .inl ⟨key, (Option.some.inj stepped).symm⟩
  | run index fresh =>
      simp only [step] at stepped
      split at stepped
      next key found => exact .inr (.inl ⟨index, key, found, (Option.some.inj stepped).symm⟩)
      next key found =>
          obtain rfl := Option.some.inj stepped
          unfold writeLocked
          cases stored : s.table.lookup key with
          | some pointer => exact .inr (.inr (.inl ⟨index, key, pointer, found, stored, rfl⟩))
          | none => exact .inr (.inr (.inr ⟨index, key, fresh, found, stored, rfl⟩))
      next => cases stepped

/-- No step replaces or removes an entry. -/
theorem step_keeps_entries {s s' : State κ α} {action : Action κ α}
    (stepped : step s action = some s') {key : κ} {pointer : Nat}
    (stored : s.table.lookup key = some pointer) : s'.table.lookup key = some pointer := by
  rcases step_cases stepped with ⟨_, rfl⟩ | ⟨_, other, _, rfl⟩ | ⟨_, _, _, _, _, rfl⟩ |
    ⟨_, other, _, _, missing, rfl⟩
  · exact stored
  · unfold readLocked
    split <;> exact stored
  · exact stored
  · have different : key ≠ other := fun same => by rw [same, missing] at stored; cases stored
    exact (AList.lookup_insert_ne different).trans stored

/-- No run replaces or removes an entry. -/
theorem Runs.keeps_entries {allowed : Action κ α → Prop} {s s' : State κ α}
    (run : Runs allowed s s') {key : κ} {pointer : Nat}
    (stored : s.table.lookup key = some pointer) : s'.table.lookup key = some pointer := by
  induction run with
  | refl => exact stored
  | tail _ stepped kept =>
      obtain ⟨_, -, stepped⟩ := stepped
      exact step_keeps_entries stepped kept

/-! ## The invariant -/

/-- What every interleaving from the empty map keeps: each key has at most one instance made, every
instance made is stored under its key and in the heap, and every call that has returned holds the
instance stored under its key. -/
structure Safe (s : State κ α) : Prop where
  /-- No key has two instances. -/
  made_nodup : (s.made.map Prod.fst).Nodup
  /-- Each instance made is the entry of its key. -/
  made_stored : ∀ key pointer, (key, pointer) ∈ s.made → s.table.lookup key = some pointer
  /-- Each entry points into the heap. -/
  stored_lt : ∀ key pointer, s.table.lookup key = some pointer → pointer < s.heap.length
  /-- Each returned call holds the entry of its key. -/
  returned_stored : ∀ call ∈ s.calls, ∀ pointer, call.pc = .returned pointer →
    s.table.lookup call.key = some pointer

theorem safe_empty : Safe (empty : State κ α) where
  made_nodup := List.nodup_nil
  made_stored _ _ mem := by simp [empty] at mem
  stored_lt _ _ stored := by simp [empty] at stored
  returned_stored _ mem := by simp [empty] at mem

/-- A call set to a state that holds the entry of its key keeps the returned calls holding
theirs. -/
theorem returned_stored_set {s : State κ α} (safe : Safe s) {table : GoMap κ Nat}
    (kept : ∀ key pointer, s.table.lookup key = some pointer → table.lookup key = some pointer)
    {index : Nat} {call : Call κ}
    (holds : ∀ pointer, call.pc = .returned pointer → table.lookup call.key = some pointer) :
    ∀ other ∈ s.calls.set index call, ∀ pointer, other.pc = .returned pointer →
      table.lookup other.key = some pointer := by
  intro other mem pointer returned
  rcases List.mem_or_eq_of_mem_set mem with mem | rfl
  · exact kept _ _ (safe.returned_stored other mem pointer returned)
  · exact holds pointer returned

/-- Every step keeps the invariant. -/
theorem Safe.step {s s' : State κ α} (safe : Safe s) {action : Action κ α}
    (stepped : step s action = some s') : Safe s' := by
  have kept := fun key pointer => @step_keeps_entries κ α _ s s' action stepped key pointer
  rcases step_cases stepped with ⟨key, rfl⟩ | ⟨index, key, -, rfl⟩ |
    ⟨index, key, pointer, -, stored, rfl⟩ | ⟨index, key, fresh, -, missing, rfl⟩
  · refine ⟨safe.made_nodup, safe.made_stored, safe.stored_lt,
      fun call mem pointer returned => ?_⟩
    rcases List.mem_append.mp mem with mem | mem
    · exact safe.returned_stored call mem pointer returned
    · simp [List.mem_singleton.mp mem] at returned
  · unfold readLocked
    split
    next found => exact ⟨safe.made_nodup, safe.made_stored, safe.stored_lt,
      returned_stored_set safe (fun _ _ => id) fun _ same => by cases same; exact found⟩
    next => exact ⟨safe.made_nodup, safe.made_stored, safe.stored_lt,
      returned_stored_set safe (fun _ _ => id) fun _ returned => by cases returned⟩
  · exact ⟨safe.made_nodup, safe.made_stored, safe.stored_lt,
      returned_stored_set safe (fun _ _ => id) fun _ same => by cases same; exact stored⟩
  · have fresh_key : key ∉ s.made.map Prod.fst := fun mem => by
      obtain ⟨⟨_, pointer⟩, made, rfl⟩ := List.mem_map.mp mem
      simp [safe.made_stored _ _ made] at missing
    refine ⟨?_, fun other pointer made => ?_, fun other pointer stored => ?_,
      returned_stored_set safe (kept · ·) fun _ same => by
        cases same
        exact AList.lookup_insert _⟩
    · simpa [List.nodup_append] using And.intro safe.made_nodup fresh_key
    · rcases List.mem_append.mp made with made | made
      · exact kept _ _ (safe.made_stored _ _ made)
      · obtain ⟨rfl, rfl⟩ := Prod.mk.inj (List.mem_singleton.mp made)
        exact AList.lookup_insert _
    · by_cases same : other = key
      · subst same
        rw [AList.lookup_insert] at stored
        obtain rfl := Option.some.inj stored
        simp
      · rw [AList.lookup_insert_ne same] at stored
        simpa using Nat.lt_succ_of_lt (safe.stored_lt _ _ stored)

/-- Every run keeps the invariant. -/
theorem Safe.runs {allowed : Action κ α → Prop} {s s' : State κ α} (safe : Safe s)
    (run : Runs allowed s s') : Safe s' := by
  induction run with
  | refl => exact safe
  | tail _ stepped holds =>
      obtain ⟨_, -, stepped⟩ := stepped
      exact holds.step stepped

/-- In a state that keeps the invariant, two returned calls for one key hold one instance. -/
theorem Safe.same_instance {s : State κ α} (safe : Safe s) {first second : Call κ}
    (firstMem : first ∈ s.calls) (secondMem : second ∈ s.calls)
    (sameKey : first.key = second.key) {p q : Nat} (firstReturned : first.pc = .returned p)
    (secondReturned : second.pc = .returned q) :
    p = q := by
  have found := safe.returned_stored first firstMem p firstReturned
  rw [sameKey, safe.returned_stored second secondMem q secondReturned] at found
  exact (Option.some.inj found).symm

/-- What holds between a state reached from the empty map and any later one: no key with two
instances, every returned call holding the entry of its key and so the same instance as every other
returned call for that key, and every entry of the earlier state still in place. -/
structure SingleInstance (s s' : State κ α) : Prop where
  /-- No key has two instances made. -/
  made_once : (s'.made.map Prod.fst).Nodup
  /-- Each returned call holds the entry of its key. -/
  returned_stored : ∀ call ∈ s'.calls, ∀ pointer, call.pc = .returned pointer →
    s'.table.lookup call.key = some pointer
  /-- Returned calls for one key hold one instance. -/
  same_instance : ∀ first ∈ s'.calls, ∀ second ∈ s'.calls, first.key = second.key →
    ∀ p q, first.pc = .returned p → second.pc = .returned q → p = q
  /-- No entry of the earlier state is replaced or removed. -/
  kept : ∀ key pointer, s.table.lookup key = some pointer → s'.table.lookup key = some pointer

/-- Every interleaving from the empty map, whatever actions it admits. -/
theorem runs_singleInstance {allowed : Action κ α → Prop} {s s' : State κ α}
    (reached : Runs allowed empty s) (later : Runs allowed s s') : SingleInstance s s' := by
  have safe := safe_empty.runs (reached.trans later)
  exact ⟨safe.made_nodup, safe.returned_stored,
    fun _ firstMem _ secondMem sameKey _ _ => safe.same_instance firstMem secondMem sameKey,
    fun _ _ stored => later.keeps_entries stored⟩

end PerServer

open PerServer

/-- The steps of the goroutines' `getBreakerForServer` calls on `client`: a breaker made from the
client's configuration at the reading of its write-locked region. -/
def CircuitBreakerClient.getBreakerForServerSteps (client : CircuitBreakerClient) :
    Action String Gobreaker.CircuitBreaker → Prop :=
  Steps (Gobreaker.CircuitBreaker.newCircuitBreaker client.config)

/-- The steps of the goroutines' `getLimiterForServer` calls on `rl`: a bucket of the per-server
rate and the burst size. -/
def RateLimiter.getLimiterForServerSteps (rl : RateLimiter) : Action String Rate.Limiter → Prop :=
  Steps fun _ => Rate.newLimiter rl.perServerRate rl.burstSize

/-- Over every interleaving of the goroutines' `getBreakerForServer` calls on a client, and of
their `getLimiterForServer` calls on a rate limiter, with each locked region one atomic step, from
the empty map to any state and on to any later one: each server gets at most one instance, every
call that has returned holds the instance stored under its server, so all of them for one server
hold the same one, and no entry is ever replaced or removed. -/
theorem getForServer_single_instance :
    (∀ (client : CircuitBreakerClient) (s s' : State String Gobreaker.CircuitBreaker),
      Runs client.getBreakerForServerSteps empty s → Runs client.getBreakerForServerSteps s s' →
      SingleInstance s s') ∧
    (∀ (rl : RateLimiter) (s s' : State String Rate.Limiter),
      Runs rl.getLimiterForServerSteps empty s → Runs rl.getLimiterForServerSteps s s' →
      SingleInstance s s') :=
  ⟨fun _ _ _ reached later => runs_singleInstance reached later,
    fun _ _ _ reached later => runs_singleInstance reached later⟩

theorem getForServer_single_instance_race :
    ∃ s : State String Rate.Limiter,
      Runs (RateLimiter.newRateLimiter 1000 60 10).getLimiterForServerSteps empty s ∧
      s.calls = [⟨"192.0.2.1", .returned 0⟩, ⟨"192.0.2.1", .returned 0⟩] ∧
      s.made = [("192.0.2.1", 0)] ∧ SingleInstance empty s := by
  let rl := RateLimiter.newRateLimiter 1000 60 10
  let fresh := Rate.newLimiter rl.perServerRate rl.burstSize
  have run : Runs rl.getLimiterForServerSteps empty
      ⟨(∅ : GoMap String Nat).insert "192.0.2.1" 0, [fresh], [("192.0.2.1", 0)],
        [⟨"192.0.2.1", .returned 0⟩, ⟨"192.0.2.1", .returned 0⟩]⟩ :=
    .head ⟨.call "192.0.2.1", trivial, rfl⟩ <| .head ⟨.call "192.0.2.1", trivial, rfl⟩ <|
      .head ⟨.run 0 fresh, ⟨0, rfl⟩, rfl⟩ <| .head ⟨.run 1 fresh, ⟨0, rfl⟩, rfl⟩ <|
      .head ⟨.run 0 fresh, ⟨0, rfl⟩, rfl⟩ <|
      .head ⟨.run 1 fresh, ⟨0, rfl⟩, rfl⟩ .refl
  exact ⟨_, run, rfl, rfl, getForServer_single_instance.2 rl empty _ .refl run⟩

end NtpExporter
