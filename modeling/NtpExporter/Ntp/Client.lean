import NtpExporter.Ntp.Response

/-!
# The client's sampling loop

`Client.QueryMultiple`: up to `count` sequential `Query` attempts against one server, keeping the
successful responses. The environment decides each pass of the loop: the context may be done
before the attempt, or `Query` fails, or it answers. The loop stops at the first pass that sees the
context done and returns what it has with the context's error; otherwise it fails only when no
attempt succeeded.
-/

namespace NtpExporter

/-- What the environment does at one pass of the sampling loop. -/
inductive Attempt
  /-- The context is done before the attempt; the text of `ctx.Err()`. -/
  | cancelled (err : String)
  /-- `Query` returned an error. -/
  | failed (err : String)
  /-- `Query` returned a response. -/
  | answered (response : Response)

namespace Attempt

/-- The response of an answered attempt. -/
def response? : Attempt → Option Response
  | .answered response => some response
  | _ => none

/-- The pass saw the context done. -/
def isCancelled : Attempt → Bool
  | .cancelled _ => true
  | _ => false

end Attempt

/-- The loop of `QueryMultiple` over the passes still to make, with the responses so far. -/
def queryLoop : List Attempt → List Response → List Response × Option String
  | [], responses => (responses, none)
  | .cancelled err :: _, responses => (responses, some err)
  | .failed _ :: rest, responses => queryLoop rest responses
  | .answered response :: rest, responses => queryLoop rest (responses ++ [response])

/-- The passes at which the loop calls `Query`, in order: each pass up to the first that sees the
context done, which returns before its call. -/
def queryCalls : List Attempt → List Attempt
  | [] => []
  | .cancelled _ :: _ => []
  | .failed err :: rest => .failed err :: queryCalls rest
  | .answered response :: rest => .answered response :: queryCalls rest

/-- The passes a `QueryMultiple` for `count` samples can make: the first `count` of `attempts`. -/
def passes (count : Int) (attempts : Nat → Attempt) : List Attempt :=
  (List.range count.toNat).map attempts

/-- `Client.QueryMultiple`: the successful responses, with the context's error if a pass saw it
done, and failing with `all <count> NTP queries failed for server <server>` when no attempt
succeeded. -/
def queryMultiple (server : String) (count : Int) (attempts : Nat → Attempt) :
    List Response × Option String :=
  match queryLoop (passes count attempts) [] with
  | (responses, some err) => (responses, some err)
  | (responses, none) =>
      if responses = [] then
        ([], some ("all " ++ toString count ++ " NTP queries failed for server " ++ server))
      else (responses, none)

/-- Without a cancelled pass the loop keeps every answer, in order. -/
theorem queryLoop_uncancelled (outcomes : List Attempt) (responses : List Response)
    (uncancelled : ∀ outcome ∈ outcomes, outcome.isCancelled = false) :
    queryLoop outcomes responses = (responses ++ outcomes.filterMap Attempt.response?, none) := by
  induction outcomes generalizing responses with
  | nil => simp [queryLoop]
  | cons outcome rest ih =>
      have rest_uncancelled := fun other mem => uncancelled other (List.mem_cons_of_mem _ mem)
      cases outcome with
      | cancelled err => simp [Attempt.isCancelled] at uncancelled
      | failed err => simp [queryLoop, Attempt.response?, ih _ rest_uncancelled]
      | answered response => simp [queryLoop, Attempt.response?, ih _ rest_uncancelled]

/-- Without cancellation, `QueryMultiple` returns exactly the answers of its `count` passes, and
fails exactly when there are none. -/
theorem queryMultiple_uncancelled (server : String) (count : Int) (attempts : Nat → Attempt)
    (uncancelled : ∀ outcome ∈ passes count attempts, outcome.isCancelled = false) :
    queryMultiple server count attempts =
      if (passes count attempts).filterMap Attempt.response? = [] then
        ([], some ("all " ++ toString count ++ " NTP queries failed for server " ++ server))
      else ((passes count attempts).filterMap Attempt.response?, none) := by
  simp [queryMultiple, queryLoop_uncancelled _ _ uncancelled]

/-! ## The attempts of one call -/

/-- A list of passes has no cancelled pass, or splits at its first cancelled pass. -/
theorem uncancelled_or_first_cancelled (outcomes : List Attempt) :
    (∀ outcome ∈ outcomes, outcome.isCancelled = false) ∨
      ∃ before err after, outcomes = before ++ .cancelled err :: after ∧
        ∀ outcome ∈ before, outcome.isCancelled = false := by
  induction outcomes with
  | nil => exact .inl (by simp)
  | cons outcome rest ih =>
      cases outcome with
      | cancelled err => exact .inr ⟨[], err, rest, rfl, by simp⟩
      | failed err =>
          rcases ih with clean | ⟨before, cancel, after, rfl, clean⟩
          · exact .inl (by simpa [Attempt.isCancelled] using clean)
          · exact .inr ⟨.failed err :: before, cancel, after, rfl,
              by simpa [Attempt.isCancelled]⟩
      | answered response =>
          rcases ih with clean | ⟨before, cancel, after, rfl, clean⟩
          · exact .inl (by simpa [Attempt.isCancelled] using clean)
          · exact .inr ⟨.answered response :: before, cancel, after, rfl,
              by simpa [Attempt.isCancelled]⟩

/-- Without a cancelled pass the loop calls `Query` at every pass. -/
theorem queryCalls_uncancelled {outcomes : List Attempt}
    (uncancelled : ∀ outcome ∈ outcomes, outcome.isCancelled = false) :
    queryCalls outcomes = outcomes := by
  induction outcomes with
  | nil => rfl
  | cons outcome rest ih =>
      have rest_uncancelled := fun other mem => uncancelled other (List.mem_cons_of_mem _ mem)
      cases outcome with
      | cancelled err => simp [Attempt.isCancelled] at uncancelled
      | failed err => simp [queryCalls, ih rest_uncancelled]
      | answered response => simp [queryCalls, ih rest_uncancelled]

/-- The loop calls `Query` at the passes before the first cancelled one, and no later. -/
theorem queryCalls_first_cancelled {before after : List Attempt} (err : String)
    (uncancelled : ∀ outcome ∈ before, outcome.isCancelled = false) :
    queryCalls (before ++ .cancelled err :: after) = before := by
  induction before with
  | nil => rfl
  | cons outcome rest ih =>
      have rest_uncancelled := fun other mem => uncancelled other (List.mem_cons_of_mem _ mem)
      cases outcome with
      | cancelled err => simp [Attempt.isCancelled] at uncancelled
      | failed err => simp [queryCalls, ih rest_uncancelled]
      | answered response => simp [queryCalls, ih rest_uncancelled]

/-- The loop returns at the first cancelled pass with the answers of the passes before it and the
context's error. -/
theorem queryLoop_first_cancelled {before after : List Attempt} (err : String)
    (uncancelled : ∀ outcome ∈ before, outcome.isCancelled = false)
    (responses : List Response) :
    queryLoop (before ++ .cancelled err :: after) responses =
      (responses ++ before.filterMap Attempt.response?, some err) := by
  induction before generalizing responses with
  | nil => simp [queryLoop]
  | cons outcome rest ih =>
      have rest_uncancelled := fun other mem => uncancelled other (List.mem_cons_of_mem _ mem)
      cases outcome with
      | cancelled err => simp [Attempt.isCancelled] at uncancelled
      | failed err => simp [queryLoop, Attempt.response?, ih rest_uncancelled]
      | answered response => simp [queryLoop, Attempt.response?, ih rest_uncancelled]

/-- `QueryMultiple` over any outcomes of its passes: it calls `Query` at most `max(count, 0)` times,
at the first passes and in their order, and at none from the first pass that sees the context
done; it returns exactly the answers of those calls, in order, and an error exactly when none of
them answered or a pass saw the context done, in which case it still returns the answers
gathered before. -/
theorem queryMultiple_attempts (server : String) (count : Int) (attempts : Nat → Attempt) :
    ((queryCalls (passes count attempts)).length : Int) ≤ max count 0 ∧
      queryCalls (passes count attempts) <+: passes count attempts ∧
      (∀ before err after, passes count attempts = before ++ .cancelled err :: after →
        (∀ outcome ∈ before, outcome.isCancelled = false) →
        queryCalls (passes count attempts) = before ∧
          queryMultiple server count attempts = (before.filterMap Attempt.response?, some err)) ∧
      (queryMultiple server count attempts).1 =
        (queryCalls (passes count attempts)).filterMap Attempt.response? ∧
      ((queryMultiple server count attempts).2.isSome ↔
        (queryCalls (passes count attempts)).filterMap Attempt.response? = [] ∨
          ∃ outcome ∈ passes count attempts, outcome.isCancelled) := by
  have cancelledAt : ∀ before err after,
      passes count attempts = before ++ .cancelled err :: after →
      (∀ outcome ∈ before, outcome.isCancelled = false) →
      queryCalls (passes count attempts) = before ∧
        queryMultiple server count attempts = (before.filterMap Attempt.response?, some err) :=
    fun before err after split clean => by
      simp only [queryMultiple, split, queryCalls_first_cancelled err clean,
        queryLoop_first_cancelled err clean, List.nil_append, and_self]
  rcases uncancelled_or_first_cancelled (passes count attempts) with
    clean | ⟨before, err, after, split, clean⟩
  · have none : ¬ ∃ outcome ∈ passes count attempts, outcome.isCancelled :=
      fun ⟨outcome, mem, cancelled⟩ => by simp [clean outcome mem] at cancelled
    refine ⟨?_, ?_, cancelledAt, ?_, ?_⟩ <;> simp only [queryCalls_uncancelled clean]
    · simp [passes, Int.toNat_eq_max]
    · exact List.prefix_refl _
    all_goals rw [queryMultiple_uncancelled server count attempts clean]; split <;> simp_all
  · obtain ⟨calls, result⟩ := cancelledAt before err after split clean
    have counted : ((passes count attempts).length : Int) = max count 0 := by
      simp [passes, Int.toNat_eq_max]
    refine ⟨?_, ?_, cancelledAt, by rw [calls, result], ?_⟩
    · rw [← counted, calls, split]
      exact_mod_cast (List.prefix_append before _).length_le
    · rw [calls, split]
      exact List.prefix_append before _
    · rw [result]
      exact iff_of_true rfl (.inr ⟨.cancelled err, by simp [split], rfl⟩)

end NtpExporter
