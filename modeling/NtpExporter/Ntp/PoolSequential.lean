import NtpExporter.Ntp.Magnitude

/-!
# The sequential path of a pool's query

What `Pool.Query` returns when it takes the sequential loop and reports no error: the resolved
list, cut to `maxServers`, as its servers; the answers of the servers `selectServersByStrategy`
picked, in the order they were picked, as its responses, one active server each; and, when there
is an answer, the offset of the first answer of smallest magnitude as its best offset. Magnitudes
are those of `AbsDuration`, which are absolute values for every offset the wire client produces,
none of which is `math.MinInt64`.
-/

namespace NtpExporter

/-- `best` is the offset of the first of `responses` whose offset has the smallest absolute value. -/
structure FirstSmallest (responses : List Response) (best : Duration) : Prop where
  /-- The response it is the offset of, after responses whose offsets are all larger. -/
  first : ∃ before r after, responses = before ++ r :: after ∧ r.offset = best ∧
    ∀ x ∈ before, |best.ns| < |x.offset.ns|
  /-- No offset is smaller. -/
  smallest : ∀ x ∈ responses, |best.ns| ≤ |x.offset.ns|

/-- Away from `math.MinInt64`, `findBestOffset`'s comparison compares absolute values. -/
theorem absDuration_lt_iff {a b : Duration} (notMinA : a.ns ≠ -2 ^ 63) (notMinB : b.ns ≠ -2 ^ 63) :
    absDuration a < absDuration b ↔ |a.ns| < |b.ns| := by
  rw [Duration.lt_iff, absDuration_ns notMinA, absDuration_ns notMinB]

namespace FirstSmallest

variable {seen : List Response} {best : Duration} {x : Response}

/-- A response strictly smaller than the best so far becomes the first of smallest magnitude. -/
theorem append_smaller (fs : FirstSmallest seen best) (smaller : |x.offset.ns| < |best.ns|) :
    FirstSmallest (seen ++ [x]) x.offset where
  first := ⟨seen, x, [], rfl, rfl, fun y mem => smaller.trans_le (fs.smallest y mem)⟩
  smallest y mem := by
    rcases List.mem_append.mp mem with mem | mem
    · exact smaller.le.trans (fs.smallest y mem)
    · rw [List.mem_singleton.mp mem]

/-- A response no smaller than the best so far leaves it the first of smallest magnitude. -/
theorem append_not_smaller (fs : FirstSmallest seen best) (notSmaller : |best.ns| ≤ |x.offset.ns|) :
    FirstSmallest (seen ++ [x]) best where
  first := by
    obtain ⟨before, r, after, split, named, larger⟩ := fs.first
    exact ⟨before, r, after ++ [x], by simp [split], named, larger⟩
  smallest y mem := by
    rcases List.mem_append.mp mem with mem | mem
    · exact fs.smallest y mem
    · rwa [List.mem_singleton.mp mem]

end FirstSmallest

/-- The loop of `findBestOffset`, carrying the first offset of smallest magnitude among the
responses seen, ends on the first of smallest magnitude among all of them. -/
theorem bestOffsetFrom_firstSmallest (seen rest : List Response) (best : Duration)
    (fs : FirstSmallest seen best) (wire : ∀ r ∈ seen ++ rest, r.offset.ns ≠ -2 ^ 63) :
    FirstSmallest (seen ++ rest) (bestOffsetFrom best rest) := by
  induction rest generalizing seen best with
  | nil => simpa [bestOffsetFrom] using fs
  | cons x rest ih =>
      have wire' : ∀ r ∈ (seen ++ [x]) ++ rest, r.offset.ns ≠ -2 ^ 63 := by simpa using wire
      have notMin : best.ns ≠ -2 ^ 63 := by
        obtain ⟨before, r, after, split, rfl, -⟩ := fs.first
        exact wire r (by simp [split])
      rw [bestOffsetFrom, List.append_cons]
      split_ifs with smaller <;> rw [absDuration_lt_iff (wire x (by simp)) notMin] at smaller
      · exact ih _ _ (fs.append_smaller smaller) wire'
      · exact ih _ _ (fs.append_not_smaller (not_lt.mp smaller)) wire'

/-- The best offset of a nonempty list of responses none of whose offsets is `math.MinInt64` is
the offset of its first response of smallest magnitude. -/
theorem findBestOffset_firstSmallest {responses : List Response} (nonempty : responses ≠ [])
    (wire : ∀ r ∈ responses, r.offset.ns ≠ -2 ^ 63) :
    FirstSmallest responses (findBestOffset responses) := by
  obtain ⟨first, rest, rfl⟩ := List.exists_cons_of_ne_nil nonempty
  exact bestOffsetFrom_firstSmallest [first] rest first.offset
    ⟨⟨[], first, [], rfl, rfl, by simp⟩, by simp⟩ wire

namespace Pool

/-- `Resolve` leaves the pool's configuration as it was and returns at most `maxServers`
addresses when `maxServers` is at least one. -/
theorem resolve_ok {p p' : Pool} {env : PoolEnv} {servers : List String} {dnsTime : Duration}
    (atLeastOne : 1 ≤ p.maxServers) (resolved : p.resolve env = some (p', .ok (servers, dnsTime))) :
    (∃ cache, p' = { p with dnsCache := cache }) ∧ (servers.length : Int) ≤ p.maxServers := by
  unfold resolve at resolved
  dsimp only at resolved
  split at resolved
  · split_ifs at resolved
    · obtain ⟨rfl, rfl, rfl⟩ :
          _ = p' ∧ [p.fallback] = servers ∧ env.elapsed = dnsTime := by
        simpa using resolved
      exact ⟨⟨_, rfl⟩, by simpa using atLeastOne⟩
    · simp at resolved
  · split_ifs at resolved with longer negative
    · obtain ⟨rfl, rfl, rfl⟩ : _ = p' ∧ _ = servers ∧ env.elapsed = dnsTime := by
        simpa using resolved
      refine ⟨⟨_, rfl⟩, ?_⟩
      simp only [List.length_take]
      omega
    · obtain ⟨rfl, rfl, rfl⟩ : _ = p' ∧ _ = servers ∧ env.elapsed = dnsTime := by
        simpa using resolved
      exact ⟨⟨_, rfl⟩, not_lt.mp longer⟩

/-- With room for every answer, the sequential loop returning no error has added the answers of its
servers, in order. -/
theorem querySequential_answers (p : Pool) (attempts : Nat → String → Attempt) :
    ∀ (pass : Nat) (servers : List String) (response out : PoolResponse),
      (p.strategy = "best_n" → response.activeServers + servers.length ≤ p.maxServers) →
      p.querySequential attempts pass servers response = (out, none) →
      out = response.addAll ((servers.enumFrom pass).filterMap fun a => (attempts a.1 a.2).response?) := by
  intro pass servers
  induction servers generalizing pass with
  | nil =>
      intro response out _ ended
      obtain rfl := (Prod.mk.inj ended).1
      simp
  | cons server rest ih =>
      intro response out room ended
      simp only [List.enumFrom_cons, List.filterMap_cons]
      cases attempt : attempts pass server with
      | cancelled err => simp [querySequential, attempt] at ended
      | failed err =>
          simp only [querySequential, attempt] at ended
          simpa [Attempt.response?] using ih (pass + 1) response out
            (fun bestN => by have := room bestN; simp at this; omega) ended
      | answered resp =>
          simp only [querySequential, attempt] at ended
          split_ifs at ended with stop
          · obtain rfl := (Prod.mk.inj ended).1
            have empty : rest = [] := by
              have := room stop.1
              have := stop.2
              simp [PoolResponse.add] at *
              rw [← List.length_eq_zero]
              omega
            subst empty
            simp [Attempt.response?, ← PoolResponse.add_addAll]
          · rw [ih (pass + 1) (response.add resp) out ?_ ended]
            · simp [Attempt.response?, PoolResponse.add_addAll]
            · intro bestN
              have := room bestN
              simp [PoolResponse.add] at this ⊢
              omega

/-- `selectServersByStrategy` picks at most one server for `round_robin`, and every server for the
other strategies. -/
theorem selectServersByStrategy_spec {p : Pool} {unix : Int} {servers selected : List String}
    (selecting : p.selectServersByStrategy unix servers = some selected) :
    (p.strategy = "round_robin" → selected.length ≤ 1) ∧
      (p.strategy ≠ "round_robin" → selected = servers) := by
  unfold selectServersByStrategy at selecting
  split at selecting
  next all =>
    obtain rfl := Option.some.inj selecting
    exact ⟨fun roundRobin => absurd (all.symm.trans roundRobin) (by decide), fun _ => rfl⟩
  next roundRobin =>
    refine ⟨fun _ => ?_, fun notRoundRobin => absurd roundRobin notRoundRobin⟩
    dsimp only at selecting
    split_ifs at selecting
    · obtain rfl := Option.some.inj selecting
      simp
    · obtain ⟨server, -, rfl⟩ := Option.map_eq_some'.mp selecting
      simp
  next notAll notRoundRobin =>
    obtain rfl := Option.some.inj selecting
    exact ⟨fun roundRobin => absurd roundRobin notRoundRobin, fun _ => rfl⟩

/-! ## The round-robin index -/

/-- `int(t)` for an `int64` reading `t` on a target whose `int` has `width` bits: `t` wrapped into
that width, `t` itself when `int` has 64 bits. -/
def goInt (width : Nat) (t : Int) : Int := (t + 2 ^ (width - 1)) % 2 ^ width - 2 ^ (width - 1)

/-- `int(time.Now().Unix()) % len(servers)`, the index `round_robin` reads, on a target whose `int`
has `width` bits. -/
def roundRobinIndex (width : Nat) (unix : Int) (n : Nat) : Int := (goInt width unix).tmod n

/-- On a 64-bit target `int(t)` is the reading itself. -/
theorem goInt_sixtyFour {unix : Int} (lower : -2 ^ 63 ≤ unix) (upper : unix < 2 ^ 63) :
    goInt 64 unix = unix :=
  wrap64_of_mem lower upper

/-- Go's remainder takes the sign of the dividend. -/
theorem tmod_nonpos {a : Int} (b : Int) (negative : a ≤ 0) : a.tmod b ≤ 0 := by
  have flipped := Int.tmod_nonneg b (Int.neg_nonneg_of_nonpos negative)
  rw [Int.tmod_def, Int.neg_tdiv, Int.mul_neg] at flipped
  rw [Int.tmod_def]
  omega

/-- The round-robin index lies in `[0, n)` exactly when `int(t)` is not negative or is a multiple
of `n`. -/
theorem roundRobinIndex_mem_iff (width : Nat) (unix : Int) {n : Nat} (positive : 0 < n) :
    (0 ≤ roundRobinIndex width unix n ∧ roundRobinIndex width unix n < n) ↔
      0 ≤ goInt width unix ∨ (n : Int) ∣ goInt width unix := by
  unfold roundRobinIndex
  have below := Int.tmod_lt_of_pos (goInt width unix) (Int.ofNat_pos.mpr positive)
  constructor
  · rintro ⟨nonneg, -⟩
    by_cases sign : 0 ≤ goInt width unix
    · exact .inl sign
    · exact .inr (Int.dvd_of_tmod_eq_zero
        (le_antisymm (tmod_nonpos _ (le_of_not_le sign)) nonneg))
  · rintro (sign | multiple)
    · exact ⟨Int.tmod_nonneg _ sign, below⟩
    · exact ⟨(Int.tmod_eq_zero_of_dvd multiple).ge, below⟩

/-- For a `round_robin` pool on a nonempty list, the model of the 64-bit target panics exactly when
the index is negative. -/
theorem selectServersByStrategy_round_robin {p : Pool} (roundRobin : p.strategy = "round_robin")
    {unix : Int} (lower : -2 ^ 63 ≤ unix) (upper : unix < 2 ^ 63) {servers : List String}
    (nonempty : servers ≠ []) :
    p.selectServersByStrategy unix servers = none ↔
      roundRobinIndex 64 unix servers.length < 0 := by
  have inRange : (unix.tmod servers.length).toNat < servers.length := by
    have positive := List.length_pos.mpr nonempty
    have := Int.tmod_lt_of_pos unix (Int.ofNat_pos.mpr positive)
    omega
  simp only [selectServersByStrategy, roundRobin, nonempty, if_false, roundRobinIndex,
    goInt_sixtyFour lower upper]
  split_ifs with negative
  · exact iff_of_true rfl negative
  · exact iff_of_false (by simp [List.getElem?_eq_getElem inRange]) negative

/-- The index `round_robin` reads is negative, and the pool's query panics, at any reading before
1970 that is not a multiple of the list's length, on both targets; on a 32-bit target `int(t)`
also wraps to a negative value from January 2038 on. -/
theorem roundRobinIndex_out_of_range :
    (∀ width unix (n : Nat), 0 < n →
      ((0 ≤ roundRobinIndex width unix n ∧ roundRobinIndex width unix n < n) ↔
        0 ≤ goInt width unix ∨ (n : Int) ∣ goInt width unix)) ∧
      (∀ (p : Pool) unix servers, p.strategy = "round_robin" → -2 ^ 63 ≤ unix → unix < 2 ^ 63 →
        servers ≠ [] →
        (p.selectServersByStrategy unix servers = none ↔ roundRobinIndex 64 unix servers.length < 0)) ∧
      roundRobinIndex 64 (-1) 2 = -1 ∧ roundRobinIndex 32 (-1) 2 = -1 ∧
      (newPool "pool.ntp.org" "round_robin" 4 "").selectServersByStrategy (-1)
        ["192.0.2.1", "192.0.2.2"] = none ∧
      roundRobinIndex 64 (2 ^ 31) 3 = 2 ∧ roundRobinIndex 32 (2 ^ 31) 3 = -2 :=
  ⟨fun width unix _ positive => roundRobinIndex_mem_iff width unix positive,
    fun _ _ _ roundRobin lower upper nonempty =>
      selectServersByStrategy_round_robin roundRobin lower upper nonempty,
    by decide, by decide, rfl, by decide, by decide⟩

/-- `Query` on the sequential path, with `maxServers` at least one and answers whose offsets are not
`math.MinInt64`, when it returns a response without an error: one active server per response, at
most `maxServers` servers, the answers of the selected servers in the order selected, a single
server selected for `round_robin`, at most `maxServers` responses for `best_n`, and the best offset
zero without responses and otherwise the offset of the first response of smallest magnitude. -/
theorem query_sequential_response (p : Pool) (env : PoolEnv) (samples : Int)
    (atLeastOne : 1 ≤ p.maxServers)
    (sequential : (p.useWorkerPool && p.workerPool.isSome && p.strategy == "all") = false)
    (wire : ∀ pass server resp, env.attempts pass server = .answered resp → resp.offset.ns ≠ -2 ^ 63)
    {p' : Pool} {response : PoolResponse}
    (answered : p.query env samples = some (p', some response, none)) :
    response.activeServers = response.responses.length ∧
      response.totalServers = response.servers.length ∧
      (response.servers.length : Int) ≤ p.maxServers ∧
      (∃ selected, p.selectServersByStrategy env.unix response.servers = some selected ∧
        response.responses = selected.enum.filterMap (fun a => (env.attempts a.1 a.2).response?) ∧
        (p.strategy = "round_robin" → selected.length ≤ 1)) ∧
      (p.strategy = "best_n" → (response.responses.length : Int) ≤ p.maxServers) ∧
      (response.responses = [] → response.bestOffset = 0) ∧
      (response.responses ≠ [] → FirstSmallest response.responses response.bestOffset) := by
  simp only [query, Option.bind_eq_bind] at answered
  cases resolved : p.resolve env with
  | none => simp [resolved] at answered
  | some result =>
  obtain ⟨p1, outcome⟩ := result
  cases outcome with
  | error err => simp [resolved] at answered
  | ok value =>
  obtain ⟨servers, dnsTime⟩ := value
  obtain ⟨⟨cache, rfl⟩, within⟩ := resolve_ok atLeastOne resolved
  simp only [resolved, Option.some_bind] at answered
  set p1 : Pool := { p with dnsCache := cache }
  have sameSelect : p1.selectServersByStrategy env.unix servers =
      p.selectServersByStrategy env.unix servers := rfl
  cases selecting : p.selectServersByStrategy env.unix servers with
  | none => simp [queryServers, sameSelect, selecting] at answered
  | some selected =>
  have notWorkers : (p1.useWorkerPool && p1.workerPool.isSome && p1.strategy == "all") = false :=
    sequential
  cases looped : p1.querySequential env.attempts 0 selected (p1.emptyResponse servers dnsTime) with
  | mk loopResponse err =>
  cases err with
  | some err => simp [queryServers, sameSelect, selecting, notWorkers, looped] at answered
  | none =>
  simp only [queryServers, sameSelect, selecting, notWorkers, looped, Option.bind_eq_bind,
    Option.some_bind, Bool.false_eq_true, if_false, Option.some.injEq, Prod.mk.injEq] at answered
  obtain ⟨-, rfl, -⟩ := answered
  obtain ⟨roundRobin, others⟩ := selectServersByStrategy_spec selecting
  have room : p1.strategy = "best_n" →
      (p1.emptyResponse servers dnsTime).activeServers + selected.length ≤ p1.maxServers :=
    fun bestN => by
      rw [others (fun roundRobin => absurd (bestN.symm.trans roundRobin) (by decide))]
      simpa [p1, emptyResponse] using within
  obtain rfl := querySequential_answers p1 env.attempts 0 selected _ _ room looped
  have answers : ∀ r ∈ selected.enum.filterMap (fun a => (env.attempts a.1 a.2).response?),
      r.offset.ns ≠ -2 ^ 63 := by
    intro r mem
    obtain ⟨⟨pass, server⟩, -, found⟩ := List.mem_filterMap.mp mem
    cases attempt : env.attempts pass server <;> simp [attempt, Attempt.response?] at found
    exact wire pass server r (found ▸ attempt)
  rw [show selected.enumFrom 0 = selected.enum from rfl]
  simp only [PoolResponse.withBestOffset_activeServers, PoolResponse.withBestOffset_responses,
    PoolResponse.withBestOffset_servers, PoolResponse.withBestOffset_totalServers,
    PoolResponse.withBestOffset_bestOffset, PoolResponse.addAll, emptyResponse, List.nil_append,
    zero_add, true_and]
  refine ⟨within, ⟨selected, selecting, rfl, roundRobin⟩, fun bestN => ?_,
    fun empty => by rw [if_pos empty], fun nonempty => ?_⟩
  · have same := others fun roundRobin => absurd (bestN.symm.trans roundRobin) (by decide)
    have kept := (List.length_filterMap_le
      (fun a : Nat × String => (env.attempts a.1 a.2).response?) selected.enum).trans (show selected.enum.length ≤ servers.length by simp [same])
    exact (Int.ofNat_le.mpr kept).trans within
  · rw [if_neg nonempty]
    exact findBestOffset_firstSmallest nonempty answers

theorem query_sequential_response_two_servers :
    let p := newPool "pool.ntp.org" "best_n" 4 ""
    let answer : Response := ⟨"192.0.2.2", 1000000, 20000000, 2, ⟨0, 0⟩, 0, 0, 0, 0, 0, none, ""⟩
    let env : PoolEnv := ⟨fun _ => false, 0, .ok ["192.0.2.1", "192.0.2.2"], 0, 0, 60,
      fun _ server => if server = "192.0.2.1" then .failed "i/o timeout" else .answered answer,
      fun _ _ => .error "no servers to query", ⟨GoMap.values, fun _ => List.Perm.refl _⟩⟩
    ∃ p' response, (1 ≤ p.maxServers ∧
        (p.useWorkerPool && p.workerPool.isSome && p.strategy == "all") = false ∧
        (∀ pass server resp, env.attempts pass server = .answered resp → resp.offset.ns ≠ -2 ^ 63) ∧
        p.query env 3 = some (p', some response, none)) ∧
      response.activeServers = response.responses.length ∧ response.responses = [answer] ∧
      FirstSmallest response.responses response.bestOffset := by
  intro p answer env
  have wire : ∀ pass server resp, env.attempts pass server = .answered resp →
      resp.offset.ns ≠ -2 ^ 63 := by
    intro pass server resp attempted
    by_cases first : server = "192.0.2.1"
    · simp [env, first] at attempted
    · simp only [env, first, if_false, Attempt.answered.injEq] at attempted
      subst attempted
      decide
  obtain ⟨active, -, -, -, -, -, best⟩ :=
    query_sequential_response p env 3 (by decide) rfl wire rfl
  exact ⟨_, _, ⟨by decide, rfl, wire, rfl⟩, active, rfl, best (by decide)⟩

end Pool

end NtpExporter
