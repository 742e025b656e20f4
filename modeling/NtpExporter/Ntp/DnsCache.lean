import NtpExporter.Go.Time
import NtpExporter.Go.Map

/-!
# The DNS cache

`DNSCache` of `internal/ntp/dnscache.go`: an adaptive-TTL map from host names to addresses that
answers from a stale entry when the resolver fails. The resolver (`net.Resolver.LookupHost`) and
the clock are inputs: a `Resolve` call carries the resolver's answer and two clock readings, and
reports whether it asked the resolver; `net.ParseIP` is the parameter `isIP`. A run of calls
yields events (answers, removals, results), and the cache holds for each host the latest
successful answer since its entry was last removed and counts the failed answers since.
-/

namespace NtpExporter

/-- `DNSCacheEntry`: one host resolution. -/
structure DNSCacheEntry where
  /-- `IPs`: the addresses of the last successful resolution. -/
  ips : List String
  /-- `ExpiresAt`: the deadline, on the monotonic clock. -/
  expiresAt : Int
  /-- `TTL`: the time to live chosen when the entry was stored. -/
  ttl : Duration
  /-- `ErrorCount`: the failed refreshes since the entry was stored. -/
  errorCount : Nat
  deriving DecidableEq

/-- `DNSCacheConfig`: the bounds of the adaptive TTL, zero meaning the default. -/
structure DNSCacheConfig where
  /-- `MinTTL`. -/
  minTTL : Duration
  /-- `MaxTTL`. -/
  maxTTL : Duration

/-- `DNSCache`. -/
structure DNSCache where
  /-- `cache`: the entries by host name. -/
  cache : GoMap String DNSCacheEntry
  /-- `minTTL`. -/
  minTTL : Duration
  /-- `maxTTL`. -/
  maxTTL : Duration

/-- The answer of `resolveWithTimeout`: the addresses, or the resolver's error text. -/
abbrev Answer := Except String (List String)

namespace DNSCache

/-- `NewDNSCache`: an empty cache, a zero bound becoming five minutes or one hour. -/
def newDNSCache (config : DNSCacheConfig) : DNSCache where
  cache := ∅
  minTTL := if config.minTTL = 0 then 300000000000 else config.minTTL
  maxTTL := if config.maxTTL = 0 then 3600000000000 else config.maxTTL

/-- `calculateAdaptiveTTL`: the middle of the bounds for a new host, the minimum after a failed
refresh, and the maximum otherwise. -/
def calculateAdaptiveTTL (c : DNSCache) : Option DNSCacheEntry → Duration
  | none => (c.minTTL + c.maxTTL).div 2
  | some entry => if 0 < entry.errorCount then c.minTTL else c.maxTTL

/-- The outcome of one `Resolve` call. -/
structure Resolution where
  /-- The addresses returned, or the error. -/
  result : Except String (List String)
  /-- The cache after the call. -/
  cache : DNSCache
  /-- Whether the call asked the resolver. -/
  lookedUp : Bool

/-- `Resolve` after a miss: ask the resolver, answer from the stale entry on an error, and store a
fresh entry on success. `previous` is the expired entry, if there is one. -/
def refresh (c : DNSCache) (hostname : String) (previous : Option DNSCacheEntry)
    (answer : Answer) (storedAt : Int) : Resolution :=
  match answer, previous with
  | .error _, some entry =>
      { result := .ok entry.ips
        cache := { c with
          cache := c.cache.insert hostname { entry with errorCount := entry.errorCount + 1 } }
        lookedUp := true }
  | .error err, none => { result := .error err, cache := c, lookedUp := true }
  | .ok ips, _ =>
      { result := .ok ips
        cache := { c with
          cache := c.cache.insert hostname
            { ips
              expiresAt := storedAt + (c.calculateAdaptiveTTL previous).ns
              ttl := c.calculateAdaptiveTTL previous
              errorCount := 0 } }
        lookedUp := true }

/-- `Resolve`: an IP literal is returned as it is, a live entry answers from the cache, and
anything else goes to `refresh`. `now` is compared with the deadline; `storedAt`, the later
reading, starts the new entry's lifetime. -/
def resolve (isIP : String → Bool) (c : DNSCache) (hostname : String) (now : Int)
    (answer : Answer) (storedAt : Int) : Resolution :=
  if isIP hostname then { result := .ok [hostname], cache := c, lookedUp := false }
  else
    match c.cache.lookup hostname with
    | some entry =>
        if now < entry.expiresAt then { result := .ok entry.ips, cache := c, lookedUp := false }
        else c.refresh hostname (some entry) answer storedAt
    | none => c.refresh hostname none answer storedAt

/-- `Invalidate`. -/
def invalidate (c : DNSCache) (hostname : String) : DNSCache :=
  { c with cache := c.cache.erase hostname }

/-- `Clear`. -/
def clear (c : DNSCache) : DNSCache := { c with cache := ∅ }

/-- The host names whose deadline has passed at `now`. -/
def expired (c : DNSCache) (now : Int) : List String :=
  (c.cache.entries.filter fun entry => entry.2.expiresAt < now).map Sigma.fst

/-- `CleanupExpired`: drop the entries whose deadline has passed, and count them. -/
def cleanupExpired (c : DNSCache) (now : Int) : DNSCache × Nat :=
  ({ c with cache := c.cache.retain fun _ entry => !decide (entry.expiresAt < now) },
    (c.expired now).length)

/-! ## Runs and their history -/

/-- One call on the cache, with the inputs the environment supplies. -/
inductive Op
  | resolve (hostname : String) (now : Int) (answer : Answer) (storedAt : Int)
  | invalidate (hostname : String)
  | clear
  | cleanupExpired (now : Int)

/-- What a call shows: a resolver answer, a removed entry, or a result. -/
inductive Event
  | answered (hostname : String) (answer : Answer)
  | removed (hostname : String)
  | cleared
  | returned (hostname : String) (result : Except String (List String))

/-- The events of a `Resolve` call: the resolver's answer when it was asked, then the result. -/
def Resolution.events (r : Resolution) (hostname : String) (answer : Answer) : List Event :=
  (if r.lookedUp then [.answered hostname answer] else []) ++ [.returned hostname r.result]

/-- One call: the cache after it, and the events it shows. -/
def step (isIP : String → Bool) (c : DNSCache) : Op → DNSCache × List Event
  | .resolve hostname now answer storedAt =>
      ((c.resolve isIP hostname now answer storedAt).cache,
        (c.resolve isIP hostname now answer storedAt).events hostname answer)
  | .invalidate hostname => (c.invalidate hostname, [.removed hostname])
  | .clear => (c.clear, [.cleared])
  | .cleanupExpired now => ((c.cleanupExpired now).1, (c.expired now).map .removed)

/-- A sequential run from a cache and the events so far. -/
def runFrom (isIP : String → Bool) : DNSCache × List Event → List Op → DNSCache × List Event
  | state, [] => state
  | state, op :: ops =>
      runFrom isIP ((step isIP state.1 op).1, state.2 ++ (step isIP state.1 op).2) ops

/-- A sequential run: the cache after the calls, and the events they showed in order. -/
def run (isIP : String → Bool) (c : DNSCache) (ops : List Op) : DNSCache × List Event :=
  runFrom isIP (c, []) ops

/-- How an event changes the latest answer known for `hostname`. -/
def Event.latest (hostname : String) (known : Option (List String)) : Event → Option (List String)
  | .answered host (.ok ips) => if host = hostname then some ips else known
  | .removed host => if host = hostname then none else known
  | .cleared => none
  | _ => known

/-- The addresses of the latest successful answer for `hostname` since its entry was last
removed by `Invalidate`, `Clear` or `CleanupExpired`. -/
def latest (hostname : String) (events : List Event) : Option (List String) :=
  events.foldl (Event.latest hostname) none

/-- How an event changes the count of failed answers for `hostname`. -/
def Event.failures (hostname : String) (count : Nat) : Event → Nat
  | .answered host (.ok _) => if host = hostname then 0 else count
  | .answered host (.error _) => if host = hostname then count + 1 else count
  | .removed host => if host = hostname then 0 else count
  | .cleared => 0
  | _ => count

/-- The failed answers for `hostname` since its last successful answer or removal. -/
def failures (hostname : String) (events : List Event) : Nat :=
  events.foldl (Event.failures hostname) 0

/-- The cache agrees with its history: an entry holds the latest answer for its host and counts
the failed answers since it was stored, and a host without an entry has no latest answer. -/
structure Consistent (c : DNSCache) (events : List Event) : Prop where
  ips : ∀ hostname, (c.cache.lookup hostname).map DNSCacheEntry.ips = latest hostname events
  errorCount : ∀ hostname entry, c.cache.lookup hostname = some entry →
    entry.errorCount = failures hostname events

theorem latest_append (hostname : String) (xs ys : List Event) :
    latest hostname (xs ++ ys) = ys.foldl (Event.latest hostname) (latest hostname xs) :=
  List.foldl_append ..

theorem failures_append (hostname : String) (xs ys : List Event) :
    failures hostname (xs ++ ys) = ys.foldl (Event.failures hostname) (failures hostname xs) :=
  List.foldl_append ..

/-- Removing a list of hosts forgets `hostname` exactly when it is one of them. -/
theorem foldl_latest_removed (hostname : String) (hosts : List String)
    (known : Option (List String)) :
    (hosts.map Event.removed).foldl (Event.latest hostname) known =
      if hostname ∈ hosts then none else known := by
  induction hosts generalizing known with
  | nil => simp
  | cons host hosts ih =>
      by_cases same : host = hostname
      · subst same
        simp [Event.latest, ih]
      · simp [Event.latest, ih, same, Ne.symm same]

theorem foldl_failures_removed (hostname : String) (hosts : List String) (count : Nat) :
    (hosts.map Event.removed).foldl (Event.failures hostname) count =
      if hostname ∈ hosts then 0 else count := by
  induction hosts generalizing count with
  | nil => simp
  | cons host hosts ih =>
      by_cases same : host = hostname
      · subst same
        simp [Event.failures, ih]
      · simp [Event.failures, ih, same, Ne.symm same]

theorem mem_expired (c : DNSCache) (now : Int) (hostname : String) :
    hostname ∈ c.expired now ↔
      ∃ entry, c.cache.lookup hostname = some entry ∧ entry.expiresAt < now := by
  simp only [expired, List.mem_map, List.mem_filter, decide_eq_true_eq]
  constructor
  · rintro ⟨⟨host, entry⟩, ⟨mem, expiredAt⟩, rfl⟩
    exact ⟨entry, AList.mem_lookup_iff.mpr mem, expiredAt⟩
  · rintro ⟨entry, found, expiredAt⟩
    exact ⟨⟨hostname, entry⟩, ⟨AList.mem_lookup_iff.mp found, expiredAt⟩, rfl⟩

section Steps

variable {c : DNSCache} {events : List Event}

theorem invalidate_consistent (consistent : Consistent c events) (host : String) :
    Consistent (c.invalidate host) (events ++ [.removed host]) := by
  constructor
  · intro hostname
    by_cases same : host = hostname
    · subst same
      simp [invalidate, latest_append, Event.latest, AList.lookup_erase]
    · simp [invalidate, latest_append, Event.latest, same, AList.lookup_erase_ne (Ne.symm same),
        consistent.ips]
  · intro hostname entry found
    by_cases same : host = hostname
    · subst same
      simp [invalidate, AList.lookup_erase] at found
    · rw [invalidate, AList.lookup_erase_ne (Ne.symm same)] at found
      simp [failures_append, Event.failures, same, consistent.errorCount hostname entry found]

theorem clear_consistent : Consistent c.clear (events ++ [.cleared]) := by
  constructor
  · intro hostname
    simp [clear, latest_append, Event.latest]
  · intro hostname entry found
    simp [clear] at found

theorem cleanupExpired_consistent (consistent : Consistent c events) (now : Int) :
    Consistent (c.cleanupExpired now).1 (events ++ (c.expired now).map .removed) := by
  constructor
  · intro hostname
    rw [latest_append, foldl_latest_removed, ← consistent.ips]
    by_cases gone : hostname ∈ c.expired now
    · obtain ⟨entry, found, expiredAt⟩ := (mem_expired c now hostname).mp gone
      simp [cleanupExpired, found, expiredAt, gone]
    · rw [if_neg gone]
      cases found : c.cache.lookup hostname with
      | none => simp [cleanupExpired, found]
      | some entry =>
          have live : ¬entry.expiresAt < now := fun expiredAt =>
            gone ((mem_expired c now hostname).mpr ⟨entry, found, expiredAt⟩)
          simp [cleanupExpired, found, live, Option.filter, Option.map]
  · intro hostname entry found
    simp only [cleanupExpired, GoMap.lookup_retain, Option.filter_eq_some] at found
    have live : ¬entry.expiresAt < now := by simpa using found.2
    have kept : hostname ∉ c.expired now := fun gone => by
      obtain ⟨other, found', expiredAt⟩ := (mem_expired c now hostname).mp gone
      rw [found.1] at found'
      cases found'
      exact live expiredAt
    rw [failures_append, foldl_failures_removed, if_neg kept]
    exact consistent.errorCount hostname entry found.1

theorem returned_consistent (consistent : Consistent c events) (host : String)
    (result : Except String (List String)) :
    Consistent c (events ++ [.returned host result]) := by
  constructor
  · intro hostname
    simp [latest_append, Event.latest, consistent.ips]
  · intro hostname entry found
    simp [failures_append, Event.failures, consistent.errorCount hostname entry found]

theorem refresh_consistent (consistent : Consistent c events) (host : String)
    (previous : Option DNSCacheEntry) (found : c.cache.lookup host = previous) (answer : Answer)
    (storedAt : Int) :
    Consistent (c.refresh host previous answer storedAt).cache
      (events ++ [.answered host answer]) := by
  constructor
  · intro hostname
    by_cases same : host = hostname
    · subst same
      have known := consistent.ips host
      rw [found] at known
      cases answer <;> cases previous <;>
        simp_all [refresh, latest_append, Event.latest, AList.lookup_insert]
    · have known := consistent.ips hostname
      cases answer <;> cases previous <;>
        simp_all [refresh, latest_append, Event.latest, AList.lookup_insert_ne (Ne.symm same)]
  · intro hostname entry stored
    by_cases same : host = hostname
    · subst same
      cases answer with
      | error err =>
          cases previous with
          | none => simp [refresh, found] at stored
          | some old =>
              simp only [refresh, AList.lookup_insert, Option.some.injEq] at stored
              subst stored
              simp [failures_append, Event.failures, consistent.errorCount host old found]
      | ok ips =>
          simp only [refresh, AList.lookup_insert, Option.some.injEq] at stored
          subst stored
          simp [failures_append, Event.failures]
    · have counted := consistent.errorCount hostname entry
      cases answer <;> cases previous <;>
        simp_all [refresh, failures_append, Event.failures, AList.lookup_insert_ne (Ne.symm same)]

theorem refresh_lookedUp (host : String) (previous : Option DNSCacheEntry) (answer : Answer)
    (storedAt : Int) : (c.refresh host previous answer storedAt).lookedUp = true := by
  cases answer <;> cases previous <;> rfl

theorem resolve_consistent (consistent : Consistent c events) (isIP : String → Bool)
    (host : String) (now : Int) (answer : Answer) (storedAt : Int) :
    Consistent (c.resolve isIP host now answer storedAt).cache
      (events ++ (c.resolve isIP host now answer storedAt).events host answer) := by
  have viaRefresh : ∀ previous, c.cache.lookup host = previous →
      Consistent (c.refresh host previous answer storedAt).cache
        (events ++ (c.refresh host previous answer storedAt).events host answer) := by
    intro previous found
    rw [Resolution.events, refresh_lookedUp, if_pos rfl, ← List.append_assoc]
    exact returned_consistent (refresh_consistent consistent host previous found answer storedAt)
      host _
  have fromCache : ∀ result, Consistent c (events ++
      ({ result, cache := c, lookedUp := false } : Resolution).events host answer) :=
    fun result => returned_consistent consistent host result
  unfold resolve
  split
  · exact fromCache _
  · split
    · split
      · exact fromCache _
      · exact viaRefresh _ ‹_›
    · exact viaRefresh _ ‹_›

theorem step_consistent (consistent : Consistent c events) (isIP : String → Bool) (op : Op) :
    Consistent (step isIP c op).1 (events ++ (step isIP c op).2) := by
  cases op with
  | resolve host now answer storedAt =>
      exact resolve_consistent consistent isIP host now answer storedAt
  | invalidate host => exact invalidate_consistent consistent host
  | clear => exact clear_consistent
  | cleanupExpired now => exact cleanupExpired_consistent consistent now

end Steps

theorem runFrom_consistent (isIP : String → Bool) (ops : List Op) (state : DNSCache × List Event)
    (consistent : Consistent state.1 state.2) :
    Consistent (runFrom isIP state ops).1 (runFrom isIP state ops).2 := by
  induction ops generalizing state with
  | nil => exact consistent
  | cons op ops ih => exact ih _ (step_consistent consistent isIP op)

theorem newDNSCache_consistent (config : DNSCacheConfig) : Consistent (newDNSCache config) [] := by
  constructor
  · intro hostname
    simp [newDNSCache, latest]
  · intro hostname entry found
    simp [newDNSCache] at found

/-- Every run from a new cache keeps the cache consistent with the run's history. -/
theorem run_consistent (isIP : String → Bool) (config : DNSCacheConfig) (ops : List Op) :
    Consistent (run isIP (newDNSCache config) ops).1 (run isIP (newDNSCache config) ops).2 :=
  runFrom_consistent isIP ops _ (newDNSCache_consistent config)

/-! ## What one `Resolve` call does -/

section Resolve

variable (isIP : String → Bool) (c : DNSCache) (host : String) (now : Int) (answer : Answer)
  (storedAt : Int)

/-- The resolver is consulted exactly when there is no entry or its deadline has been reached. -/
theorem resolve_lookedUp (notIP : isIP host = false) :
    (c.resolve isIP host now answer storedAt).lookedUp = true ↔
      ∀ entry, c.cache.lookup host = some entry → entry.expiresAt ≤ now := by
  unfold resolve
  rw [if_neg (by simp [notIP])]
  cases found : c.cache.lookup host with
  | none => simp [refresh_lookedUp]
  | some entry =>
      by_cases live : now < entry.expiresAt
      · simp [live]
      · simp only [live, if_false, refresh_lookedUp, Option.some.injEq, forall_eq', true_iff]
        omega

/-- `Resolve` fails exactly when it asked the resolver, the resolver failed, and there was no
entry to fall back on. -/
theorem resolve_error (notIP : isIP host = false) :
    (∃ err, (c.resolve isIP host now answer storedAt).result = .error err) ↔
      (c.resolve isIP host now answer storedAt).lookedUp = true ∧ (∃ err, answer = .error err) ∧
        c.cache.lookup host = none := by
  unfold resolve
  rw [if_neg (by simp [notIP])]
  cases found : c.cache.lookup host with
  | none => cases answer <;> simp [refresh]
  | some entry =>
      by_cases live : now < entry.expiresAt
      · simp [live]
      · cases answer <;> simp [live, refresh]

/-- A successful `Resolve` of a host name returns what the cache holds for it afterwards. -/
theorem resolve_ok_cached (notIP : isIP host = false) (ips : List String)
    (returned : (c.resolve isIP host now answer storedAt).result = .ok ips) :
    ((c.resolve isIP host now answer storedAt).cache.cache.lookup host).map DNSCacheEntry.ips =
      some ips := by
  unfold resolve at returned ⊢
  rw [if_neg (by simp [notIP])] at returned ⊢
  cases found : c.cache.lookup host with
  | none =>
      rw [found] at returned
      cases answer <;> simp_all [refresh, AList.lookup_insert]
  | some entry =>
      by_cases live : now < entry.expiresAt
      · simp_all
      · simp only [found, live, if_false] at returned ⊢
        cases answer <;> simp_all [refresh, AList.lookup_insert]

end Resolve

/-- `Resolve` of a host name that is not an IP literal, after any sequential run of calls on a new
cache: it consults the resolver exactly when the host has no entry or the entry's deadline has been
reached; it fails exactly when it consulted the resolver, the resolver failed, and the host had no
entry; and a successful call returns the addresses of the latest successful resolver answer for
the host since its entry was last removed. -/
theorem resolve_run_contract (isIP : String → Bool) (config : DNSCacheConfig) (ops : List Op)
    (host : String) (now : Int) (answer : Answer) (storedAt : Int) (notIP : isIP host = false) :
    let before := run isIP (newDNSCache config) ops
    let call := before.1.resolve isIP host now answer storedAt
    (call.lookedUp = true ↔
        ∀ entry, before.1.cache.lookup host = some entry → entry.expiresAt ≤ now) ∧
      ((∃ err, call.result = .error err) ↔
        call.lookedUp = true ∧ (∃ err, answer = .error err) ∧
          before.1.cache.lookup host = none) ∧
      ∀ ips, call.result = .ok ips →
        latest host (before.2 ++ call.events host answer) = some ips := by
  intro before call
  refine ⟨resolve_lookedUp isIP before.1 host now answer storedAt notIP,
    resolve_error isIP before.1 host now answer storedAt notIP, fun ips returned => ?_⟩
  have consistent := resolve_consistent (run_consistent isIP config ops) isIP host now answer
    storedAt
  rw [← consistent.ips host]
  exact resolve_ok_cached isIP before.1 host now answer storedAt notIP ips returned

theorem resolve_run_contract_fresh :
    (fun _ => false : String → Bool) "pool.ntp.org" = false ∧
      let before := run (fun _ => false) (newDNSCache ⟨0, 0⟩) []
      let call := before.1.resolve (fun _ => false) "pool.ntp.org" 0 (.ok ["192.0.2.1"]) 0
      (call.lookedUp = true ↔
          ∀ entry, before.1.cache.lookup "pool.ntp.org" = some entry → entry.expiresAt ≤ 0) ∧
        ((∃ err, call.result = .error err) ↔
          call.lookedUp = true ∧ (∃ err, (.ok ["192.0.2.1"] : Answer) = .error err) ∧
            before.1.cache.lookup "pool.ntp.org" = none) ∧
        ∀ ips, call.result = .ok ips →
          latest "pool.ntp.org" (before.2 ++ call.events "pool.ntp.org" (.ok ["192.0.2.1"])) =
            some ips :=
  ⟨rfl, resolve_run_contract (fun _ => false) ⟨0, 0⟩ [] "pool.ntp.org" 0 (.ok ["192.0.2.1"]) 0 rfl⟩

/-! ## The adaptive TTL -/

/-- While `minTTL + maxTTL` stays below `math.MaxInt64`, every TTL the cache chooses lies between
its bounds. -/
theorem calculateAdaptiveTTL_mem (c : DNSCache) (previous : Option DNSCacheEntry)
    (ordered : c.minTTL ≤ c.maxTTL) (noOverflow : c.minTTL.ns + c.maxTTL.ns < 2 ^ 63)
    (nonneg : 0 ≤ c.minTTL.ns) :
    c.minTTL ≤ c.calculateAdaptiveTTL previous ∧ c.calculateAdaptiveTTL previous ≤ c.maxTTL := by
  cases previous with
  | none =>
      simp only [Duration.le_iff] at ordered
      have halved := Int.tdiv_eq_ediv (a := c.minTTL.ns + c.maxTTL.ns) (b := 2) (by omega)
        (by decide)
      simp only [calculateAdaptiveTTL, Duration.le_iff, Duration.ns_div, Duration.ns_add,
        wrap64_of_mem (by have := c.minTTL.ge_min; omega) noOverflow, halved]
      rw [wrap64_of_mem (by omega) (by omega)]
      omega
  | some entry =>
      simp only [calculateAdaptiveTTL]
      split <;> simp_all [Duration.le_iff]

/-- The cache's bounds are `lo` and `hi`, and the TTL of every entry lies between them. -/
structure TTLWithin (lo hi : Duration) (c : DNSCache) : Prop where
  minTTL : c.minTTL = lo
  maxTTL : c.maxTTL = hi
  entries : ∀ hostname entry, c.cache.lookup hostname = some entry →
    lo ≤ entry.ttl ∧ entry.ttl ≤ hi

section TTL

variable {lo hi : Duration} {c : DNSCache}

theorem TTLWithin.insert (within : TTLWithin lo hi c) (host : String) (entry : DNSCacheEntry)
    (bounded : lo ≤ entry.ttl ∧ entry.ttl ≤ hi) :
    TTLWithin lo hi { c with cache := c.cache.insert host entry } := by
  refine ⟨within.minTTL, within.maxTTL, fun hostname stored found => ?_⟩
  by_cases same : host = hostname
  · subst same
    rw [AList.lookup_insert, Option.some.injEq] at found
    exact found ▸ bounded
  · exact within.entries hostname stored (by rwa [AList.lookup_insert_ne (Ne.symm same)] at found)

variable (ordered : lo ≤ hi) (noOverflow : lo.ns + hi.ns < 2 ^ 63) (nonneg : 0 ≤ lo.ns)
include ordered noOverflow nonneg

theorem TTLWithin.refresh (within : TTLWithin lo hi c) (host : String)
    (previous : Option DNSCacheEntry) (found : c.cache.lookup host = previous) (answer : Answer)
    (storedAt : Int) : TTLWithin lo hi (c.refresh host previous answer storedAt).cache := by
  cases answer with
  | error err =>
      cases previous with
      | none => exact within
      | some entry => exact within.insert host _ (within.entries host entry found)
  | ok ips =>
      obtain ⟨low, high⟩ := within.minTTL ▸ within.maxTTL ▸
        calculateAdaptiveTTL_mem c previous (within.minTTL ▸ within.maxTTL ▸ ordered)
          (within.minTTL ▸ within.maxTTL ▸ noOverflow) (within.minTTL ▸ nonneg)
      exact within.insert host _ ⟨low, high⟩

theorem TTLWithin.step (within : TTLWithin lo hi c) (isIP : String → Bool) (op : Op) :
    TTLWithin lo hi (step isIP c op).1 := by
  cases op with
  | resolve host now answer storedAt =>
      have viaRefresh := fun previous (found : c.cache.lookup host = previous) =>
        within.refresh ordered noOverflow nonneg host previous found answer storedAt
      simp only [DNSCache.step, resolve]
      split
      · exact within
      · split
        · split
          · exact within
          · exact viaRefresh _ ‹_›
        · exact viaRefresh _ ‹_›
  | invalidate host =>
      refine ⟨within.minTTL, within.maxTTL, fun hostname entry found => ?_⟩
      by_cases same : host = hostname
      · simp [DNSCache.step, invalidate, same, AList.lookup_erase] at found
      · exact within.entries hostname entry
          (by rwa [DNSCache.step, invalidate, AList.lookup_erase_ne (Ne.symm same)] at found)
  | clear =>
      exact ⟨within.minTTL, within.maxTTL, fun _ _ found => by simp [DNSCache.step, clear] at found⟩
  | cleanupExpired now =>
      refine ⟨within.minTTL, within.maxTTL, fun hostname entry found => ?_⟩
      simp only [DNSCache.step, cleanupExpired, GoMap.lookup_retain, Option.filter_eq_some] at found
      exact within.entries hostname entry found.1

theorem TTLWithin.runFrom (isIP : String → Bool) (ops : List Op) (state : DNSCache × List Event)
    (within : TTLWithin lo hi state.1) : TTLWithin lo hi (runFrom isIP state ops).1 := by
  induction ops generalizing state with
  | nil => exact within
  | cons op ops ih => exact ih _ (within.step ordered noOverflow nonneg isIP op)

end TTL

/-- While the bounds `NewDNSCache` settles on are ordered, the lower one is not negative and their
sum stays below `math.MaxInt64`, every entry of the cache after any run of calls from a new cache
has a TTL between them. -/
theorem run_ttl_within (isIP : String → Bool) (config : DNSCacheConfig) (ops : List Op)
    (ordered : (newDNSCache config).minTTL ≤ (newDNSCache config).maxTTL)
    (noOverflow : (newDNSCache config).minTTL.ns + (newDNSCache config).maxTTL.ns < 2 ^ 63)
    (nonneg : 0 ≤ (newDNSCache config).minTTL.ns) :
    ∀ hostname entry, (run isIP (newDNSCache config) ops).1.cache.lookup hostname = some entry →
      (newDNSCache config).minTTL ≤ entry.ttl ∧ entry.ttl ≤ (newDNSCache config).maxTTL :=
  (TTLWithin.runFrom ordered noOverflow nonneg isIP ops _
    ⟨rfl, rfl, fun _ _ found => by simp [newDNSCache] at found⟩).entries

theorem run_ttl_within_defaults :
    let fresh := newDNSCache ⟨0, 0⟩
    let ops := [Op.resolve "pool.ntp.org" 0 (.ok ["192.0.2.1"]) 0,
      .resolve "pool.ntp.org" 3600000000000 (.error "no such host") 3600000000000,
      .resolve "pool.ntp.org" 3600000000001 (.ok ["192.0.2.2"]) 3600000000001]
    fresh.minTTL ≤ fresh.maxTTL ∧ fresh.minTTL.ns + fresh.maxTTL.ns < 2 ^ 63 ∧
      0 ≤ fresh.minTTL.ns ∧
      ∀ hostname entry, (run (fun _ => false) fresh ops).1.cache.lookup hostname = some entry →
        fresh.minTTL ≤ entry.ttl ∧ entry.ttl ≤ fresh.maxTTL :=
  ⟨by decide, by decide, by decide, run_ttl_within _ _ _ (by decide) (by decide) (by decide)⟩

/-- With both bounds at `2 ^ 62` ns, the first successful `Resolve` of a host name stores the TTL
`-2 ^ 62`, below both bounds: `minTTL + maxTTL` wraps to `math.MinInt64` before the halving, and
the entry is already expired when stored. -/
theorem resolve_stores_wrapped_ttl (isIP : String → Bool) (notIP : isIP "pool.ntp.org" = false) :
    ((newDNSCache ⟨.ofInt (2 ^ 62), .ofInt (2 ^ 62)⟩).resolve isIP "pool.ntp.org" 0
        (.ok ["192.0.2.1"]) 0).cache.cache.lookup "pool.ntp.org" =
      some { ips := ["192.0.2.1"], expiresAt := -2 ^ 62, ttl := Duration.ofInt (-2 ^ 62)
             errorCount := 0 } := by
  simp only [resolve, notIP]
  decide

theorem resolve_stores_wrapped_ttl_parseIP :
    (fun _ => false : String → Bool) "pool.ntp.org" = false ∧
      ((newDNSCache ⟨.ofInt (2 ^ 62), .ofInt (2 ^ 62)⟩).resolve (fun _ => false) "pool.ntp.org" 0
          (.ok ["192.0.2.1"]) 0).cache.cache.lookup "pool.ntp.org" =
        some { ips := ["192.0.2.1"], expiresAt := -2 ^ 62, ttl := Duration.ofInt (-2 ^ 62)
               errorCount := 0 } :=
  ⟨rfl, resolve_stores_wrapped_ttl (fun _ => false) rfl⟩

end DNSCache

end NtpExporter
