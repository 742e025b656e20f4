import NtpExporter.Ntp.Client
import NtpExporter.Ntp.DnsCache
import NtpExporter.Ntp.WorkerPool.Querier
import Mathlib.Data.List.Dedup

/-!
# NTP pools

`Pool` of `internal/ntp/pool.go`: a DNS name resolved through the pool's own `DNSCache` into at
most `maxServers` addresses, queried one after the other, or through the worker pool when one is
enabled and the strategy is `all`; the offset of smallest magnitude is the best. The querier, the
resolver, the clocks, the outcome of the worker pool's `Execute` (a transition system in
`WorkerPool`) and the order in which `range` visits its map are the environment of a call, and a
runtime panic is `none`. The map holds one result per distinct address, so the worker path finds
the sequential path's responses only on a list without repeated addresses.
-/

namespace NtpExporter

open WorkerPool

/-- `PoolResponse`. -/
structure PoolResponse where
  /-- `PoolName`. -/
  poolName : String
  /-- `Servers`: the resolved addresses. -/
  servers : List String
  /-- `Responses`: one per answering server. -/
  responses : List Response
  /-- `ActiveServers`: the servers that answered. -/
  activeServers : Int
  /-- `TotalServers`. -/
  totalServers : Int
  /-- `BestOffset`. -/
  bestOffset : Duration
  /-- `DNSResolution`: the time the resolution took. -/
  dnsResolution : Duration

namespace PoolResponse

/-- `Responses = append(Responses, resp)` and `ActiveServers++`. -/
def add (response : PoolResponse) (resp : Response) : PoolResponse :=
  { response with responses := response.responses ++ [resp],
                  activeServers := response.activeServers + 1 }

/-- The responses `resps` added in order. -/
def addAll (response : PoolResponse) (resps : List Response) : PoolResponse :=
  { response with responses := response.responses ++ resps,
                  activeServers := response.activeServers + resps.length }

@[simp] theorem addAll_nil (response : PoolResponse) : response.addAll [] = response := by
  simp [addAll]

theorem add_addAll (response : PoolResponse) (resp : Response) (resps : List Response) :
    (response.add resp).addAll resps = response.addAll (resp :: resps) := by
  simp only [add, addAll, List.append_assoc, List.singleton_append, List.length_cons,
    Nat.cast_succ, add_comm (1 : Int), add_assoc]

end PoolResponse

/-- The loop of `findBestOffset` over the remaining responses, from the best offset so far: an
offset replaces it only when its magnitude is strictly smaller. -/
def bestOffsetFrom (best : Duration) : List Response → Duration
  | [] => best
  | resp :: rest =>
      bestOffsetFrom (if absDuration resp.offset < absDuration best then resp.offset else best) rest

/-- `findBestOffset`: the first offset of smallest magnitude, zero without responses. -/
def findBestOffset : List Response → Duration
  | [] => 0
  | first :: rest => bestOffsetFrom first.offset rest

/-- `response.BestOffset = p.findBestOffset(response.Responses)`, when
`len(response.Responses) > 0`. -/
def PoolResponse.withBestOffset (response : PoolResponse) : PoolResponse :=
  if response.responses = [] then response
  else { response with bestOffset := findBestOffset response.responses }

/-- What the worker path takes from one result: `result.Responses[0]` when `result.Error == nil`
and `len(result.Responses) > 0`. -/
def firstResponse (result : JobResult) : Option Response :=
  match result.error, result.responses with
  | none, first :: _ => some first
  | _, _ => none

/-- The loop over the worker pool's results, in the order `range` visits them. -/
def collectResults (response : PoolResponse) : List JobResult → PoolResponse
  | [] => response
  | result :: rest =>
      match firstResponse result with
      | some first => collectResults (response.add first) rest
      | none => collectResults response rest

/-- `Pool`. Its querier is the environment of a call. -/
structure Pool where
  /-- `name`: the DNS name. -/
  name : String
  /-- `strategy`. -/
  strategy : String
  /-- `maxServers`. -/
  maxServers : Int
  /-- `fallback`: the server used when the name does not resolve, empty for none. -/
  fallback : String
  /-- `dnsCache`. -/
  dnsCache : DNSCache
  /-- `workerPool`: `nil` until enabled. -/
  workerPool : Option WorkerPool
  /-- `useWorkerPool`. -/
  useWorkerPool : Bool

/-- What the environment supplies to one `Query` call. -/
structure PoolEnv where
  /-- `net.ParseIP` succeeds. -/
  isIP : String → Bool
  /-- The clock reading `Resolve` compares with an entry's deadline. -/
  now : Int
  /-- What the resolver answers if it is asked. -/
  answer : Answer
  /-- The later clock reading that starts a new entry's lifetime. -/
  storedAt : Int
  /-- `time.Since(start)` at the end of `Resolve`. -/
  elapsed : Duration
  /-- `time.Now().Unix()` in `selectServersByStrategy`. -/
  unix : Int
  /-- What the sequential loop's pass sees for its server: the context done, or `Query`'s
  outcome. -/
  attempts : Nat → String → Attempt
  /-- What `workerPool.Execute(ctx, servers, samples)` returns. -/
  execute : List String → Int → Except String (GoMap String JobResult)
  /-- The order in which `range` visits the values of a map. -/
  order : GoMap.RangeOrder String JobResult

namespace Pool

/-- `NewPool`: an empty strategy becomes `best_n` and a zero `maxServers` four; the DNS cache has
the default bounds, and there is no worker pool. -/
def newPool (name strategy : String) (maxServers : Int) (fallback : String) : Pool where
  name := name
  strategy := if strategy = "" then "best_n" else strategy
  maxServers := if maxServers = 0 then 4 else maxServers
  fallback := fallback
  dnsCache := DNSCache.newDNSCache ⟨0, 0⟩
  workerPool := none
  useWorkerPool := false

/-- `EnableWorkerPool`: a size of zero or less becomes five. -/
def enableWorkerPool (p : Pool) (size : Int) : Pool :=
  { p with workerPool := some (newWorkerPool (if size ≤ 0 then 5 else size)),
           useWorkerPool := true }

/-- `Resolve`: the name through the DNS cache; the fallback server when that fails, if there is
one; and otherwise at most `maxServers` addresses, where a negative bound makes the slice panic. -/
def resolve (p : Pool) (env : PoolEnv) : Option (Pool × Except String (List String × Duration)) :=
  let resolution := p.dnsCache.resolve env.isIP p.name env.now env.answer env.storedAt
  let p := { p with dnsCache := resolution.cache }
  match resolution.result with
  | .error _ =>
      if p.fallback ≠ "" then some (p, .ok ([p.fallback], env.elapsed))
      else some (p, .error "failed to resolve pool")
  | .ok ips =>
      if p.maxServers < ips.length then
        if p.maxServers < 0 then none else some (p, .ok (ips.take p.maxServers.toNat, env.elapsed))
      else some (p, .ok (ips, env.elapsed))

/-- `selectServersByStrategy`: one server picked by the clock for `round_robin`, where Go's
remainder is negative for a clock before 1970 and the index then panics, and every server
otherwise. -/
def selectServersByStrategy (p : Pool) (unix : Int) (servers : List String) :
    Option (List String) :=
  match p.strategy with
  | "all" => some servers
  | "round_robin" =>
      if servers = [] then some []
      else
        let index := unix.tmod servers.length
        if index < 0 then none else servers[index.toNat]?.map fun server => [server]
  | _ => some servers

/-- The sequential loop of `Query` from its `pass`-th server on: the `select` on `ctx.Done()`,
then `Query`, whose answer is kept; `best_n` stops once `maxServers` servers have answered. -/
def querySequential (p : Pool) (attempts : Nat → String → Attempt) :
    Nat → List String → PoolResponse → PoolResponse × Option String
  | _, [], response => (response, none)
  | pass, server :: rest, response =>
      match attempts pass server with
      | .cancelled err => (response, some err)
      | .failed _ => querySequential p attempts (pass + 1) rest response
      | .answered resp =>
          if p.strategy = "best_n" ∧ p.maxServers ≤ (response.add resp).activeServers then
            (response.add resp, none)
          else querySequential p attempts (pass + 1) rest (response.add resp)

/-- The response `Query` starts from. -/
def emptyResponse (p : Pool) (servers : List String) (dnsTime : Duration) : PoolResponse :=
  ⟨p.name, servers, [], 0, servers.length, 0, dnsTime⟩

/-- `Query` after the resolution, on the resolved `servers`: the worker pool's results when it is
enabled and the strategy is `all`, a failed `Execute` leaving the response empty, and the
sequential loop otherwise, which returns the context's error without a best offset. -/
def queryServers (p : Pool) (env : PoolEnv) (samples : Int) (servers : List String)
    (dnsTime : Duration) : Option (PoolResponse × Option String) := do
  let response := p.emptyResponse servers dnsTime
  let selected ← p.selectServersByStrategy env.unix servers
  if p.useWorkerPool && p.workerPool.isSome && p.strategy == "all" then
    match env.execute selected samples with
    | .error _ => some (response.withBestOffset, none)
    | .ok results => some ((collectResults response (env.order.visit results)).withBestOffset, none)
  else
    match p.querySequential env.attempts 0 selected response with
    | (response, some err) => some (response, some err)
    | (response, none) => some (response.withBestOffset, none)

/-- `Query`: the pool with its DNS cache updated, and the resolution's error without a response,
or the response with the sequential loop's error, if any. -/
def query (p : Pool) (env : PoolEnv) (samples : Int) :
    Option (Pool × Option PoolResponse × Option String) := do
  let (p, resolved) ← p.resolve env
  match resolved with
  | .error err => some (p, none, some err)
  | .ok (servers, dnsTime) =>
      let (response, err) ← p.queryServers env samples servers dnsTime
      some (p, some response, err)

end Pool

/-! ## The best offset -/

/-- The loop ends on its start or on one of the offsets it visited. -/
theorem bestOffsetFrom_mem (best : Duration) (rest : List Response) :
    bestOffsetFrom best rest ∈ best :: rest.map Response.offset := by
  induction rest generalizing best with
  | nil => simp [bestOffsetFrom]
  | cons resp rest ih =>
      have := ih (if absDuration resp.offset < absDuration best then resp.offset else best)
      simp only [bestOffsetFrom, List.map_cons, List.mem_cons] at this ⊢
      split_ifs at this ⊢ <;> tauto

/-- The loop ends on an offset no larger in magnitude than its start and every offset it
visited. -/
theorem bestOffsetFrom_le (best : Duration) (rest : List Response) :
    ∀ offset ∈ best :: rest.map Response.offset,
      (absDuration (bestOffsetFrom best rest)).ns ≤ (absDuration offset).ns := by
  induction rest generalizing best with
  | nil => simp [bestOffsetFrom]
  | cons resp rest ih =>
      set start := if absDuration resp.offset < absDuration best then resp.offset else best
      have start_le : (absDuration start).ns ≤ (absDuration best).ns ∧
          (absDuration start).ns ≤ (absDuration resp.offset).ns := by
        simp only [start, Duration.lt_iff]
        split_ifs <;> omega
      have le := ih start
      simp only [bestOffsetFrom, List.map_cons, List.mem_cons, forall_eq_or_imp] at le ⊢
      exact ⟨le.1.trans start_le.1, le.1.trans start_le.2, le.2⟩

/-- The best offset of a nonempty list is one of its offsets, of the smallest magnitude. -/
theorem findBestOffset_spec {responses : List Response} (nonempty : responses ≠ []) :
    findBestOffset responses ∈ responses.map Response.offset ∧
      ∀ offset ∈ responses.map Response.offset,
        (absDuration (findBestOffset responses)).ns ≤ (absDuration offset).ns := by
  obtain ⟨first, rest, rfl⟩ := List.exists_cons_of_ne_nil nonempty
  exact ⟨bestOffsetFrom_mem first.offset rest, bestOffsetFrom_le first.offset rest⟩

/-- Reordering the responses changes the best offset at most into its opposite: every order
finds the smallest magnitude, and only which of two opposite offsets comes first depends on the
order. -/
theorem findBestOffset_perm {responses others : List Response} (perm : responses.Perm others) :
    findBestOffset responses = findBestOffset others ∨
      findBestOffset responses = -findBestOffset others := by
  rcases eq_or_ne responses [] with rfl | nonempty
  · obtain rfl := perm.nil_eq
    exact .inl rfl
  have nonempty' : others ≠ [] := fun empty => nonempty (empty ▸ perm).eq_nil
  obtain ⟨mem, le⟩ := findBestOffset_spec nonempty
  obtain ⟨mem', le'⟩ := findBestOffset_spec nonempty'
  have offsets := perm.map Response.offset
  exact absDuration_inj (Duration.ext (le_antisymm (le _ (offsets.mem_iff.mpr mem'))
    (le' _ (offsets.mem_iff.mp mem))))

example : let plus : Response := ⟨"192.0.2.1", 1, 0, 2, ⟨0, 0⟩, 0, 0, 0, 0, 0, none, ""⟩
    let minus := { plus with server := "192.0.2.2", offset := -1 }
    findBestOffset [plus, minus] = 1 ∧ findBestOffset [minus, plus] = -1 := by
  decide

/-! ## The two paths on a resolved list -/

namespace PoolResponse

@[simp] theorem withBestOffset_responses (response : PoolResponse) :
    response.withBestOffset.responses = response.responses := by
  simp [withBestOffset, apply_ite PoolResponse.responses]

@[simp] theorem withBestOffset_activeServers (response : PoolResponse) :
    response.withBestOffset.activeServers = response.activeServers := by
  simp [withBestOffset, apply_ite PoolResponse.activeServers]

@[simp] theorem withBestOffset_servers (response : PoolResponse) :
    response.withBestOffset.servers = response.servers := by
  simp [withBestOffset, apply_ite PoolResponse.servers]

@[simp] theorem withBestOffset_totalServers (response : PoolResponse) :
    response.withBestOffset.totalServers = response.totalServers := by
  simp [withBestOffset, apply_ite PoolResponse.totalServers]

@[simp] theorem withBestOffset_bestOffset (response : PoolResponse) :
    response.withBestOffset.bestOffset =
      if response.responses = [] then response.bestOffset
      else findBestOffset response.responses := by
  simp [withBestOffset, apply_ite PoolResponse.bestOffset]

/-- What the worker path has to give to agree with the sequential path: as many active servers,
the same responses in some order, and the same best offset up to its sign. -/
structure Agrees (worker sequential : PoolResponse) : Prop where
  /-- `ActiveServers`. -/
  active : worker.activeServers = sequential.activeServers
  /-- `Responses`, as a multiset. -/
  responses : worker.responses.Perm sequential.responses
  /-- `BestOffset`, up to its sign. -/
  best : worker.bestOffset = sequential.bestOffset ∨ worker.bestOffset = -sequential.bestOffset

/-- Adding the same responses in two orders, then the best offset, gives responses that agree. -/
theorem agrees_addAll (response : PoolResponse) {worker sequential : List Response}
    (perm : worker.Perm sequential) :
    Agrees (response.addAll worker).withBestOffset (response.addAll sequential).withBestOffset where
  active := by simp [addAll, perm.length_eq]
  responses := by simpa only [withBestOffset_responses, addAll] using perm.append_left _
  best := by
    have appended := perm.append_left response.responses
    simp only [withBestOffset_bestOffset, addAll]
    by_cases empty : response.responses ++ worker = []
    · rw [if_pos empty, if_pos (empty ▸ appended).nil_eq.symm]
      exact .inl rfl
    · rw [if_neg empty, if_neg fun nil => empty (nil ▸ appended).eq_nil]
      exact findBestOffset_perm appended

end PoolResponse

open PoolResponse

/-- The worker path's loop adds, in the order visited, the first response of each result without
an error. -/
theorem collectResults_eq (response : PoolResponse) (results : List JobResult) :
    collectResults response results = response.addAll (results.filterMap firstResponse) := by
  induction results generalizing response with
  | nil => simp [collectResults]
  | cons result rest ih =>
      cases first : firstResponse result <;>
        simp [collectResults, first, ih, List.filterMap_cons, add_addAll]

/-- A querier whose `Query` of a server always has the same outcome, which its `QueryMultiple`
repeats at every sample. -/
def repeating (samples : Int) (fixed : String → Attempt) : Querier :=
  fun server => queryMultiple server samples fun _ => fixed server

/-- With at least one sample, the repeating querier's answer gives the worker path the response of
the server's outcome. -/
theorem firstResponse_repeating {samples : Int} {fixed : String → Attempt} {server : String}
    (positive : 0 < samples) (uncancelled : (fixed server).isCancelled = false)
    {result : JobResult}
    (answered : (result.responses, result.error) = repeating samples fixed server) :
    firstResponse result = (fixed server).response? := by
  have repeated : passes samples (fun _ => fixed server) =
      List.replicate samples.toNat (fixed server) := by simp [passes]
  rw [repeating, queryMultiple_uncancelled _ _ _ (by simp [repeated, uncancelled]), repeated]
    at answered
  obtain ⟨count, more⟩ : ∃ count, samples.toNat = count + 1 := ⟨samples.toNat - 1, by omega⟩
  cases outcome : fixed server with
  | cancelled err => simp [outcome, Attempt.isCancelled] at uncancelled
  | failed err =>
      simp [outcome, Attempt.response?] at answered
      simp [firstResponse, answered.1, Attempt.response?]
  | answered response =>
      simp [outcome, Attempt.response?, more, List.replicate_succ] at answered
      simp [firstResponse, answered.1, answered.2, Attempt.response?]

/-- A run of the worker pool's call on a nonempty list with the repeating querier returns a map
from which the worker path takes, in whatever order `range` visits it, the responses of the
distinct servers of the list. -/
theorem returned_responses {size samples : Int} {fixed : String → Attempt}
    {servers : List String} (positive : 0 < samples)
    (uncancelled : ∀ server, (fixed server).isCancelled = false) (nonempty : servers ≠ [])
    {last : WorkerPool} {e : Execution} {outcome : Except String (GoMap String JobResult)}
    (run : Answered (repeating samples fixed) (called size servers samples) last)
    (single : last.executions = [e]) (returned : e.pc = .returned outcome) :
    ∃ results, outcome = .ok results ∧ ∀ order : GoMap.RangeOrder String JobResult,
      ((order.visit results).filterMap firstResponse).Perm
        (servers.dedup.filterMap fun server => (fixed server).response?) := by
  have solo := (solo_called size servers samples).runs nonempty run.runs
  obtain ⟨e', single', named, -⟩ := solo.single
  obtain rfl : e = e' := by simpa [single] using single'
  obtain ⟨results, rfl, complete⟩ := solo.complete nonempty single returned
  have honest := (run.honest (honest_called size samples servers)) e (by simp [single])
  refine ⟨results, rfl, fun order => ((order.perm results).filterMap _).trans ?_⟩
  refine GoMap.values_filterMap_perm (List.nodup_dedup servers)
    (fun server => named ▸ (complete.keys server).trans List.mem_dedup.symm)
    fun server result found => ?_
  obtain ⟨job, -, rfl, answered⟩ := complete.values server result found
  exact firstResponse_repeating positive (uncancelled _) (honest _ answered)

namespace Pool

@[simp] theorem newPool_strategy (name strategy : String) (maxServers : Int) (fallback : String) :
    (newPool name strategy maxServers fallback).strategy =
      if strategy = "" then "best_n" else strategy := rfl

@[simp] theorem newPool_useWorkerPool (name strategy : String) (maxServers : Int)
    (fallback : String) : (newPool name strategy maxServers fallback).useWorkerPool = false := rfl

@[simp] theorem enableWorkerPool_strategy (p : Pool) (size : Int) :
    (p.enableWorkerPool size).strategy = p.strategy := rfl

@[simp] theorem enableWorkerPool_useWorkerPool (p : Pool) (size : Int) :
    (p.enableWorkerPool size).useWorkerPool = true := rfl

@[simp] theorem enableWorkerPool_workerPool (p : Pool) (size : Int) :
    (p.enableWorkerPool size).workerPool = some (newWorkerPool (if size ≤ 0 then 5 else size)) :=
  rfl

@[simp] theorem emptyResponse_enableWorkerPool (p : Pool) (size : Int) (servers : List String)
    (dnsTime : Duration) : (p.enableWorkerPool size).emptyResponse servers dnsTime =
      p.emptyResponse servers dnsTime := rfl

theorem selectServersByStrategy_all {p : Pool} (all : p.strategy = "all") (unix : Int)
    (servers : List String) : p.selectServersByStrategy unix servers = some servers := by
  simp [selectServersByStrategy, all]

/-- Without cancellation and outside `best_n`, the sequential loop adds the response of every
server that answers, in the order of the list. -/
theorem querySequential_repeating (p : Pool) {fixed : String → Attempt}
    (notBest : p.strategy ≠ "best_n") (uncancelled : ∀ server, (fixed server).isCancelled = false)
    (pass : Nat) (servers : List String) (response : PoolResponse) :
    p.querySequential (fun _ server => fixed server) pass servers response =
      (response.addAll (servers.filterMap fun server => (fixed server).response?), none) := by
  induction servers generalizing pass response with
  | nil => simp [querySequential]
  | cons server rest ih =>
      cases outcome : fixed server with
      | cancelled err => simpa [outcome, Attempt.isCancelled] using uncancelled server
      | failed err => simp [querySequential, outcome, ih, Attempt.response?]
      | answered resp =>
          simp [querySequential, outcome, ih, notBest, Attempt.response?, add_addAll]

/-- The sequential path of a pool of strategy `all` made by `NewPool`, without cancellation. -/
theorem queryServers_sequential (name fallback : String) (maxServers samples : Int)
    {fixed : String → Attempt} (uncancelled : ∀ server, (fixed server).isCancelled = false)
    (env : PoolEnv) (servers : List String) (dnsTime : Duration) :
    (newPool name "all" maxServers fallback).queryServers
        { env with attempts := fun _ server => fixed server } samples servers dnsTime =
      some ((((newPool name "all" maxServers fallback).emptyResponse servers dnsTime).addAll
        (servers.filterMap fun server => (fixed server).response?)).withBestOffset, none) := by
  have all : (newPool name "all" maxServers fallback).strategy = "all" := by simp
  have notBest : (newPool name "all" maxServers fallback).strategy ≠ "best_n" := by simp
  simp [queryServers, selectServersByStrategy_all all,
    querySequential_repeating _ notBest uncancelled]

/-- The worker path of a pool of strategy `all` made by `NewPool`, on what `Execute` returned. -/
theorem queryServers_workers (name fallback : String) (maxServers size samples : Int)
    (env : PoolEnv) (servers : List String) (dnsTime : Duration) :
    ((newPool name "all" maxServers fallback).enableWorkerPool size).queryServers env samples
        servers dnsTime =
      some ((match env.execute servers samples with
        | .error _ => (newPool name "all" maxServers fallback).emptyResponse servers dnsTime
        | .ok results => collectResults ((newPool name "all" maxServers fallback).emptyResponse
            servers dnsTime) (env.order.visit results)).withBestOffset, none) := by
  have all : ((newPool name "all" maxServers fallback).enableWorkerPool size).strategy = "all" := by
    simp
  simp only [queryServers, selectServersByStrategy_all all]
  rcases executed : env.execute servers samples <;> simp [executed]

/-- What the two paths of `Query` do on the resolved list `servers`, for a pool of strategy `all`
made by `NewPool` and a querier that repeats one outcome per server: no run of the worker pool's
call is infinite and some run returns, and on every run that returns, both paths return a
response without an error, and the two responses agree. -/
structure PathsAgree (name fallback : String) (maxServers size samples : Int)
    (fixed : String → Attempt) (env : PoolEnv) (servers : List String) (dnsTime : Duration) :
    Prop where
  /-- No interleaving of the call's goroutines is infinite. -/
  finite : Acc Internal (called (if size ≤ 0 then 5 else size) servers samples)
  /-- Some run of the call returns. -/
  returns : ∃ last e outcome, Answered (repeating samples fixed)
      (called (if size ≤ 0 then 5 else size) servers samples) last ∧
    last.executions = [e] ∧ e.pc = .returned outcome
  /-- Whichever run returned, the worker path on its outcome agrees with the sequential path. -/
  agree : ∀ last e outcome, Answered (repeating samples fixed)
      (called (if size ≤ 0 then 5 else size) servers samples) last →
    last.executions = [e] → e.pc = .returned outcome →
    ∃ worker sequential,
      ((newPool name "all" maxServers fallback).enableWorkerPool size).queryServers
        { env with execute := fun _ _ => outcome } samples servers dnsTime = some (worker, none) ∧
      (newPool name "all" maxServers fallback).queryServers
        { env with attempts := fun _ server => fixed server } samples servers dnsTime =
          some (sequential, none) ∧
      Agrees worker sequential

/-- On a resolved list without repeated addresses, with at least one sample, no cancellation and
a querier that repeats one outcome per server, the worker path of `Query` agrees with the
sequential path on every run of the worker pool and in every order of its map: as many active
servers, the same responses, and the same best offset up to its sign. -/
theorem queryServers_workers_agree (name fallback : String) (maxServers size samples : Int)
    (fixed : String → Attempt) (env : PoolEnv) (servers : List String) (dnsTime : Duration)
    (distinct : servers.Nodup) (positive : 0 < samples)
    (uncancelled : ∀ server, (fixed server).isCancelled = false) :
    PathsAgree name fallback maxServers size samples fixed env servers dnsTime := by
  have finite := terminates (solo_called (if size ≤ 0 then 5 else size) servers samples).invariant
  rcases eq_or_ne servers [] with rfl | nonempty
  · refine ⟨finite, returns_nil _ samples, fun last e outcome run single returned => ?_⟩
    obtain rfl := returned_nil run.runs single returned
    refine ⟨_, _, queryServers_workers .., queryServers_sequential _ _ _ _ uncancelled .., ?_⟩
    simpa using agrees_addAll (emptyResponse _ [] dnsTime) (List.Perm.refl [])
  · refine ⟨finite, (solo_called _ servers samples).returns nonempty,
      fun last e outcome run single returned => ?_⟩
    obtain ⟨results, rfl, perm⟩ :=
      returned_responses positive uncancelled nonempty run single returned
    refine ⟨_, _, queryServers_workers .., queryServers_sequential _ _ _ _ uncancelled .., ?_⟩
    simpa [collectResults_eq, distinct.dedup] using agrees_addAll _ (perm env.order)

theorem queryServers_workers_agree_two_servers :
    let response : Response := ⟨"192.0.2.1", 1000000, 0, 2, ⟨0, 0⟩, 0, 0, 0, 0, 0, none, ""⟩
    let env : PoolEnv := ⟨fun _ => false, 0, .error "no such host", 0, 0, 0,
      fun _ _ => .failed "i/o timeout", fun _ _ => .error "no servers to query",
      ⟨GoMap.values, fun _ => List.Perm.refl _⟩⟩
    ["192.0.2.1", "192.0.2.2"].Nodup ∧ (0 : Int) < 3 ∧
      PathsAgree "pool.ntp.org" "" 4 2 3 (fun _ => .answered response) env
        ["192.0.2.1", "192.0.2.2"] 0 :=
  ⟨by decide, by decide, queryServers_workers_agree "pool.ntp.org" "" 4 2 3 _ _ _ 0 (by decide)
    (by decide) fun _ => rfl⟩

/-- Two copies of one address that answers: every run of the worker pool's call returns a map
with one entry, so the worker path counts one active server where the sequential path counts two;
and such a run exists. -/
theorem queryServers_duplicates_collapse :
    let response : Response := ⟨"192.0.2.1", 0, 0, 2, ⟨0, 0⟩, 0, 0, 0, 0, 0, none, ""⟩
    let servers := ["192.0.2.1", "192.0.2.1"]
    (∃ last e outcome, Answered (repeating 1 fun _ => .answered response) (called 5 servers 1)
      last ∧ last.executions = [e] ∧ e.pc = .returned outcome) ∧
    ∀ last e outcome, Answered (repeating 1 fun _ => .answered response) (called 5 servers 1)
      last → last.executions = [e] → e.pc = .returned outcome → ∀ env : PoolEnv,
      (((newPool "pool.ntp.org" "all" 4 "").enableWorkerPool 5).queryServers
        { env with execute := fun _ _ => outcome } 1 servers 0).map
          (fun answer => answer.1.activeServers) = some 1 ∧
      ((newPool "pool.ntp.org" "all" 4 "").queryServers
        { env with attempts := fun _ _ => .answered response } 1 servers 0).map
          (fun answer => answer.1.activeServers) = some 2 := by
  intro response servers
  have uncancelled : ∀ _ : String, (Attempt.answered response).isCancelled = false := fun _ => rfl
  refine ⟨(solo_called 5 servers 1).returns (by simp [servers]),
    fun last e outcome run single returned env => ?_⟩
  obtain ⟨results, rfl, perm⟩ :=
    returned_responses (by decide) uncancelled (by simp [servers]) run single returned
  have one := (perm env.order).length_eq
  simp only [servers, show ["192.0.2.1", "192.0.2.1"].dedup = ["192.0.2.1"] by decide] at one
  simp [queryServers_workers, queryServers_sequential _ _ _ _ uncancelled, collectResults_eq,
    addAll, emptyResponse, one, servers, Attempt.response?]

end Pool

end NtpExporter
