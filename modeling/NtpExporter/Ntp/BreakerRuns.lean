import NtpExporter.Ntp.CircuitBreaker
import Mathlib.Data.UInt

/-!
# The breakers' accounting over whole runs

What `gobreaker` keeps of a breaker from one call to the next when the calls through a
`CircuitBreakerClient` to a server are made one after another: every counted request has its
outcome counted, at most one of the two runs of outcomes is going on, an open breaker has an end,
and a half-open breaker has let fewer than `MaxRequests` probes through, all of which succeeded.
Every breaker the client makes starts so, and every call keeps it, whatever the readings of the
clock and the outcomes of the requests. So such a client never refuses a call with
`ErrTooManyRequests`, and a breaker closes again only when its `MaxRequests`-th probe in a row has
succeeded.
-/

namespace NtpExporter

namespace Gobreaker

/-- A nonzero count is positive. -/
theorem uint32_pos {x : UInt32} (nonzero : x ≠ 0) : 0 < x :=
  Nat.pos_of_ne_zero fun zero => nonzero (UInt32.toNat.inj zero)

/-- A count below another one has a successor that does not wrap. -/
theorem uint32_toNat_succ {c m : UInt32} (lt : c < m) : (c + 1).toNat = c.toNat + 1 := by
  have below : c.toNat < m.toNat := lt
  have size := m.toNat_lt_size
  show (c.toBitVec + 1#32).toNat = _
  rw [BitVec.toNat_add]
  simp only [BitVec.toNat_ofNat, UInt32.toNat, UInt32.size] at *
  omega

namespace CircuitBreaker

/-- What holds of a breaker between two calls made one after another. -/
structure Sound (cb : CircuitBreaker) : Prop where
  /-- At least one probe is let through when half-open. -/
  probes : cb.maxRequests ≠ 0
  /-- Every counted request has its outcome counted. -/
  accounted : cb.counts.totalSuccesses + cb.counts.totalFailures = cb.counts.requests
  /-- At most one of the runs of successes and of failures is going on. -/
  oneRun : cb.counts.consecutiveSuccesses = 0 ∨ cb.counts.consecutiveFailures = 0
  /-- Half-open, every probe so far succeeded, and fewer than `MaxRequests` were let through. -/
  halfOpen : cb.state = .stateHalfOpen → cb.counts.totalFailures = 0 ∧
    cb.counts.consecutiveSuccesses = cb.counts.requests ∧ cb.counts.requests < cb.maxRequests
  /-- Open, the breaker has an end. -/
  timed : cb.state = .stateOpen → cb.expiry.isSome

variable {cb : CircuitBreaker} {now : Int}

/-! ## Each operation keeps the accounting -/

theorem sound_toNewGeneration (probes : cb.maxRequests ≠ 0) : (cb.toNewGeneration now).Sound where
  probes := probes
  accounted := rfl
  oneRun := .inl rfl
  halfOpen _ := ⟨rfl, rfl, uint32_pos probes⟩
  timed opened := by simp [toNewGeneration, show cb.state = .stateOpen from opened]

theorem sound_setState_of_ne (probes : cb.maxRequests ≠ 0) {state : State}
    (other : cb.state ≠ state) : (cb.setState state now).Sound := by
  rw [setState, if_neg other]
  exact sound_toNewGeneration probes

theorem Sound.setState (sound : cb.Sound) (state : State) (now : Int) :
    (cb.setState state now).Sound := by
  by_cases same : cb.state = state
  · rwa [CircuitBreaker.setState, if_pos same]
  · exact sound_setState_of_ne sound.probes same

theorem Sound.currentState (sound : cb.Sound) (now : Int) : (cb.currentState now).Sound := by
  unfold CircuitBreaker.currentState
  split
  · split
    · exact sound_toNewGeneration sound.probes
    · exact sound
  · split
    · exact sound.setState _ _
    · exact sound
  · exact sound

@[simp] theorem maxRequests_currentState : (cb.currentState now).maxRequests = cb.maxRequests := by
  unfold currentState
  split
  · split <;> rfl
  · unfold setState
    split_ifs <;> rfl
  · rfl

theorem sound_newCircuitBreaker (st : Settings) (now : Int) : (newCircuitBreaker st now).Sound :=
  sound_toNewGeneration (by dsimp only; split <;> simp_all)

/-- The success of a request admitted by a sound breaker that is closed or half-open, recorded in
its generation. -/
theorem Sound.onSuccess (sound : cb.Sound) (notOpen : cb.state ≠ .stateOpen) :
    ({ cb with counts := cb.counts.onRequest }.onSuccess cb.state now).Sound := by
  have accounted :
      cb.counts.totalSuccesses + 1 + cb.counts.totalFailures = cb.counts.requests + 1 :=
    calc _ = cb.counts.totalSuccesses + cb.counts.totalFailures + 1 := add_right_comm _ _ _
      _ = _ := by rw [sound.accounted]
  cases state : cb.state with
  | stateClosed =>
      exact ⟨sound.probes, accounted, .inr rfl, (fun half => nomatch half),
        fun opened => nomatch opened⟩
  | stateHalfOpen =>
      obtain ⟨noFailure, run, _⟩ := sound.halfOpen state
      simp only [CircuitBreaker.onSuccess]
      split
      next => exact sound_setState_of_ne (by exact sound.probes) (by simp [state])
      next room =>
        refine ⟨sound.probes, accounted, .inr rfl, fun _ => ⟨noFailure, ?_, ?_⟩,
          (fun opened => nomatch opened)⟩
        · simp [Counts.onSuccess, Counts.onRequest, run]
        · simpa [Counts.onSuccess, Counts.onRequest, run] using UInt32.not_le.mp room
  | stateOpen => exact absurd state notOpen

/-- The failure of a request admitted by a sound breaker that is closed or half-open, recorded in
its generation. -/
theorem Sound.onFailure (sound : cb.Sound) (notOpen : cb.state ≠ .stateOpen) :
    ({ cb with counts := cb.counts.onRequest }.onFailure cb.state now).Sound := by
  cases state : cb.state with
  | stateClosed =>
      simp only [CircuitBreaker.onFailure]
      split
      · exact sound_setState_of_ne (by exact sound.probes) (by simp [state])
      · refine ⟨sound.probes, ?_, .inl rfl, (fun half => nomatch half),
          fun opened => nomatch opened⟩
        calc _ = cb.counts.totalSuccesses + cb.counts.totalFailures + 1 := (add_assoc _ _ _).symm
          _ = _ := by rw [sound.accounted]; rfl
  | stateHalfOpen =>
      simp only [CircuitBreaker.onFailure]
      exact sound_setState_of_ne (by exact sound.probes) (by simp [state])
  | stateOpen => exact absurd state notOpen

/-- A closed or half-open breaker as a request finds it when its outcome comes: the same, or, when
its closed period ended meanwhile, a new generation. -/
theorem currentState_admitted (cb : CircuitBreaker) (now : Int)
    (notOpen : cb.state ≠ .stateOpen) :
    cb.currentState now = cb ∨ cb.currentState now = cb.toNewGeneration now := by
  unfold currentState
  split
  · split
    · exact .inr rfl
    · exact .inl rfl
  · contradiction
  · exact .inl rfl

theorem Sound.afterRequest (sound : cb.Sound) (notOpen : cb.state ≠ .stateOpen) (success : Bool)
    (now : Int) :
    ({ cb with counts := cb.counts.onRequest }.afterRequest cb.generation success now).Sound := by
  unfold CircuitBreaker.afterRequest
  dsimp only
  rcases currentState_admitted { cb with counts := cb.counts.onRequest } now notOpen
    with same | renewed
  · rw [same, if_neg (not_not.mpr rfl)]
    cases success
    · exact sound.onFailure notOpen
    · exact sound.onSuccess notOpen
  · rw [renewed, if_pos (by simp [toNewGeneration])]
    exact sound_toNewGeneration sound.probes

theorem beforeRequest_of_open (opened : (cb.currentState now).state = .stateOpen) :
    cb.beforeRequest now = (cb.currentState now, .error .errOpenState) := by
  simp [CircuitBreaker.beforeRequest, opened]

/-- A sound breaker that is not open admits the request into its current generation: half-open,
it has let fewer than `MaxRequests` probes through. -/
theorem Sound.admits (sound : cb.Sound) (notOpen : (cb.currentState now).state ≠ .stateOpen) :
    cb.beforeRequest now =
      ({ cb.currentState now with counts := (cb.currentState now).counts.onRequest },
        .ok (cb.currentState now).generation) := by
  have room : ¬((cb.currentState now).state = .stateHalfOpen ∧
      (cb.currentState now).maxRequests ≤ (cb.currentState now).counts.requests) :=
    fun ⟨half, full⟩ => UInt32.not_le.mpr ((sound.currentState now).halfOpen half).2.2 full
  simp only [CircuitBreaker.beforeRequest, if_neg notOpen, if_neg room]

/-- One call through a sound breaker leaves it sound, and fails only when the breaker is open or
when the request itself fails. -/
theorem Sound.execute {σ α : Type} (sound : cb.Sound) (start finish : Int) (inner : σ)
    (req : σ → σ × Except String α) :
    (cb.execute start finish inner req).1.Sound ∧
      ∀ err, (cb.execute start finish inner req).2.2 = .error err →
        err = .errOpenState ∨ ∃ msg, err = .request msg ∧ (req inner).2 = .error msg := by
  have current := sound.currentState start
  by_cases opened : (cb.currentState start).state = .stateOpen
  · simp only [CircuitBreaker.execute, beforeRequest_of_open opened]
    exact ⟨current, fun _ failed => .inl (Except.error.inj failed).symm⟩
  · simp only [CircuitBreaker.execute, sound.admits opened]
    rcases req inner with ⟨inner', _ | value⟩
    · exact ⟨current.afterRequest opened false finish, fun _ failed =>
        .inr ⟨_, (Except.error.inj failed).symm, rfl⟩⟩
    · exact ⟨current.afterRequest opened true finish, fun _ failed => nomatch failed⟩

/-! ## How a breaker closes again -/

/-- A breaker that is not closed is not closed either once its period is brought up to date. -/
theorem state_currentState_ne_closed (notClosed : cb.state ≠ .stateClosed) :
    (cb.currentState now).state ≠ .stateClosed := by
  unfold CircuitBreaker.currentState
  split
  · contradiction
  · split
    · unfold CircuitBreaker.setState
      split_ifs <;> simp_all [toNewGeneration]
    · exact notClosed
  · exact notClosed

/-- A sound breaker that is not closed closes during a call only when the call's request ran and
succeeded, in a half-open period all of whose probes had succeeded, as the last of the
`MaxRequests` probes that the period lets through. -/
theorem Sound.execute_closes {σ α : Type} (sound : cb.Sound)
    (notClosed : cb.state ≠ .stateClosed) {start finish : Int} {inner : σ}
    {req : σ → σ × Except String α}
    (closes : (cb.execute start finish inner req).1.state = .stateClosed) :
    (∃ value, (cb.execute start finish inner req).2.2 = .ok value) ∧
      (cb.currentState start).state = .stateHalfOpen ∧
      (cb.currentState start).counts.consecutiveSuccesses =
        (cb.currentState start).counts.requests ∧
      (cb.currentState start).counts.requests + 1 = cb.maxRequests := by
  have opened : (cb.currentState start).state ≠ .stateOpen := fun opened => by
    simp [CircuitBreaker.execute, beforeRequest_of_open opened, opened] at closes
  have half : (cb.currentState start).state = .stateHalfOpen := by
    cases state : (cb.currentState start).state
    · exact absurd state (state_currentState_ne_closed notClosed)
    · rfl
    · exact absurd state opened
  obtain ⟨-, run, room⟩ := (sound.currentState start).halfOpen half
  have same : (cb.currentState start).maxRequests = cb.maxRequests := maxRequests_currentState
  simp only [CircuitBreaker.execute, sound.admits opened, ← same] at closes ⊢
  generalize cb.currentState start = current at half run room closes ⊢
  rcases answer : req inner with ⟨inner', _ | value⟩ <;> simp only [answer] at closes ⊢
  · simp [CircuitBreaker.afterRequest, CircuitBreaker.currentState, half,
      CircuitBreaker.onFailure, CircuitBreaker.setState, toNewGeneration] at closes
  · simp only [CircuitBreaker.afterRequest, CircuitBreaker.currentState, half,
      CircuitBreaker.onSuccess, ne_eq, not_true_eq_false, if_false, if_true] at closes
    split_ifs at closes with full
    refine ⟨⟨value, rfl⟩, half, run, UInt32.toNat.inj ?_⟩
    have last : current.maxRequests ≤ current.counts.requests + 1 := by rw [← run]; exact full
    have last : current.maxRequests.toNat ≤ (current.counts.requests + 1).toNat := last
    have below : current.counts.requests.toNat < current.maxRequests.toNat := room
    rw [uint32_toNat_succ room] at last ⊢
    omega

theorem execute_closes_single_probe :
    let cb : CircuitBreaker :=
      ⟨1, 0, 30000000000, fun _ => false, .stateHalfOpen, 1, Counts.clear, none⟩
    let req : Nat → Nat × Except String Nat := fun n => (n + 1, .ok n)
    (cb.Sound ∧ cb.state ≠ .stateClosed ∧ (cb.execute 0 1 0 req).1.state = .stateClosed) ∧
      (∃ value, (cb.execute 0 1 0 req).2.2 = .ok value) ∧
      (cb.currentState 0).state = .stateHalfOpen ∧
      (cb.currentState 0).counts.consecutiveSuccesses = (cb.currentState 0).counts.requests ∧
      (cb.currentState 0).counts.requests + 1 = cb.maxRequests := by
  intro cb req
  have sound : cb.Sound := ⟨by decide, rfl, .inl rfl, fun _ => ⟨rfl, rfl, by decide⟩,
    fun opened => nomatch opened⟩
  have closes : (cb.execute 0 1 0 req).1.state = .stateClosed := rfl
  exact ⟨⟨sound, by decide, closes⟩, sound.execute_closes (by decide) closes⟩

end CircuitBreaker

end Gobreaker

namespace CircuitBreakerClient

/-- Every breaker the client keeps is sound. -/
def Sound (client : CircuitBreakerClient) : Prop :=
  ∀ server breaker, client.breakers.lookup server = some breaker → breaker.Sound

variable {σ α : Type} {client : CircuitBreakerClient}

theorem sound_newCircuitBreakerClient (config : Gobreaker.Settings) :
    (newCircuitBreakerClient config).Sound :=
  fun _ _ found => nomatch found

theorem Sound.getBreakerForServer (sound : client.Sound) (server : String) (now : Int) :
    (client.getBreakerForServer server now).Sound := by
  unfold CircuitBreakerClient.getBreakerForServer
  cases found : client.breakers.lookup server with
  | none => exact Gobreaker.CircuitBreaker.sound_newCircuitBreaker _ _
  | some breaker => exact sound server breaker found

/-- One call through a client whose breakers are sound leaves them sound, and fails only with the
open state of the server's breaker or with the request's own error. -/
theorem Sound.call (sound : client.Sound) (server : String) (created start finish : Int)
    (inner : σ) (req : σ → σ × Except String α) :
    (client.call server created start finish inner req).1.Sound ∧
      ∀ err, (client.call server created start finish inner req).2.2 = .error err →
        err = wrapError server .errOpenState ∨ (req inner).2 = .error err := by
  obtain ⟨kept, failed⟩ :=
    (sound.getBreakerForServer server created).execute start finish inner req
  unfold CircuitBreakerClient.call
  refine ⟨fun other breaker found => ?_, fun err wrapped => ?_⟩
  · by_cases same : other = server
    · subst same
      rw [AList.lookup_insert] at found
      exact Option.some.inj found ▸ kept
    · rw [AList.lookup_insert_ne same] at found
      exact sound other breaker found
  · cases result :
        ((client.getBreakerForServer server created).execute start finish inner req).2.2 with
    | ok value => simp [result, Except.mapError] at wrapped
    | error cause =>
        simp only [result, Except.mapError, Except.error.injEq] at wrapped
        rcases failed cause result with rfl | ⟨msg, rfl, own⟩
        · exact .inl wrapped.symm
        · exact .inr (wrapped ▸ own)

/-! ## Runs of calls -/

/-- Over every run of calls to a server, one after another, whatever the readings of the clock and
the outcomes of the requests, every breaker of a client whose breakers are sound stays sound: each
counted request has its outcome counted, at most one run of outcomes is going on, an open breaker
has an end, and a half-open one has let fewer than `MaxRequests` probes through, all successful. -/
theorem callAll_sound (sound : client.Sound) (server : String) (inner : σ)
    (calls : List (Call σ α)) : (client.callAll server inner calls).1.Sound := by
  induction calls generalizing client inner with
  | nil => exact sound
  | cons c rest ih => exact ih (sound.call server c.created c.start c.finish inner c.req).1 _

theorem callAll_sound_new :
    (newCircuitBreakerClient defaultCircuitBreakerConfig).Sound ∧
      ((newCircuitBreakerClient defaultCircuitBreakerConfig).callAll "pool.ntp.org" 0
        [(⟨0, 0, 1000000000, fun n => (n + 1, .error "i/o timeout")⟩ :
          Call Nat Response)]).1.Sound :=
  ⟨sound_newCircuitBreakerClient _,
    callAll_sound (sound_newCircuitBreakerClient _) "pool.ntp.org" 0 _⟩

/-- Over every run of calls to a server, one after another, a client whose breakers are sound fails
a call only because the server's breaker is open or because the call's request, run on the inner
state the earlier calls left, failed with that error: the breaker never refuses a call with
`ErrTooManyRequests`. -/
theorem callAll_refusals_open (sound : client.Sound) (server : String) (inner : σ)
    (calls : List (Call σ α)) :
    ∀ (k : Nat) (err : String), (client.callAll server inner calls).2.2[k]? = some (.error err) →
      err = wrapError server .errOpenState ∨ ∃ c, calls[k]? = some c ∧
        (c.req (client.callAll server inner (calls.take k)).2.1).2 = .error err := by
  induction calls generalizing client inner with
  | nil => simp [callAll]
  | cons c rest ih =>
      obtain ⟨kept, failed⟩ := sound.call server c.created c.start c.finish inner c.req
      rintro (_ | k) err result
      · exact (failed err (by simpa [callAll] using result)).imp_right fun own => ⟨c, by simpa⟩
      · simpa [callAll] using ih kept _ k err (by simpa [callAll] using result)

theorem callAll_refusals_open_new :
    let c : Call Nat Response := ⟨0, 0, 1000000000, fun n => (n + 1, .error "i/o timeout")⟩
    (newCircuitBreakerClient defaultCircuitBreakerConfig).Sound ∧
      ∀ (k : Nat) (err : String), ((newCircuitBreakerClient defaultCircuitBreakerConfig).callAll
          "pool.ntp.org" 0 [c]).2.2[k]? = some (.error err) →
        err = wrapError "pool.ntp.org" .errOpenState ∨ ∃ c', [c][k]? = some c' ∧
          (c'.req ((newCircuitBreakerClient defaultCircuitBreakerConfig).callAll "pool.ntp.org" 0
            ([c].take k)).2.1).2 = .error err :=
  ⟨sound_newCircuitBreakerClient _,
    callAll_refusals_open (sound_newCircuitBreakerClient _) "pool.ntp.org" 0 _⟩

end CircuitBreakerClient

end NtpExporter
