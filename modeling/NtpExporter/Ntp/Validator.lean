import NtpExporter.Ntp.Response
import Mathlib.Tactic.NormNum.Ineq

/-!
# The response validator

`Validator` of `internal/ntp/validator.go`, as `NewValidator` builds it for the security
collector: `Validate` scores a response by a list of checks, each an error that makes it invalid
or a warning, each with a penalty to the trust score, and `GetSuspicionReason` names the first
check a response fails. `time.Duration.String` is the parameter `durationString`, and the trust
score is the exact rational the source's float64 rounds. The file's free-standing checks, which no
collector calls, follow; they disagree on the strata they accept, `ValidateNTPResponse` rejecting
stratum 16 alone above 15.
-/

namespace NtpExporter

/-- `Validator`, without `validateRefID`, which nothing reads. -/
structure Validator where
  /-- `maxClockSkew`. -/
  maxClockSkew : Duration
  /-- `minStratum`. -/
  minStratum : UInt8
  /-- `maxStratum`. -/
  maxStratum : UInt8
  /-- `checkKissOfDeath`. -/
  checkKissOfDeath : Bool

/-- `ValidationResult`. -/
structure ValidationResult where
  /-- `Valid`. -/
  valid : Bool
  /-- `Errors`. -/
  errors : List String
  /-- `Warnings`. -/
  warnings : List String
  /-- `TrustScore`. -/
  trustScore : ℚ
  deriving DecidableEq

namespace ValidationResult

/-- A failed check: its error appended, the response invalid, and its penalty taken. -/
def fail (result : ValidationResult) (error : String) (penalty : ℚ) : ValidationResult :=
  { result with errors := result.errors ++ [error], valid := false,
                trustScore := result.trustScore - penalty }

/-- A check that warns: its warning appended and its penalty taken. -/
def warn (result : ValidationResult) (warning : String) (penalty : ℚ) : ValidationResult :=
  { result with warnings := result.warnings ++ [warning], trustScore := result.trustScore - penalty }

/-- The trust score brought into `[0, 1]`. -/
def clamp (result : ValidationResult) : ValidationResult :=
  let score := if result.trustScore < 0 then 0 else result.trustScore
  { result with trustScore := if 1 < score then 1 else score }

end ValidationResult

namespace Validator

/-- `NewValidator`: an hour of skew, strata from one to fifteen, and kisses of death checked. -/
def newValidator : Validator := ⟨3600000000000, 1, 15, true⟩

/-- `Validate`: the checks in the source's order, then the trust score clamped. -/
def validate (durationString : Duration → String) (v : Validator) (resp : Response) :
    ValidationResult :=
  let result : ValidationResult := ⟨true, [], [], 1⟩
  let result := if resp.stratum < v.minStratum then
      result.fail ("stratum " ++ toString resp.stratum.toNat ++ " below minimum " ++
        toString v.minStratum.toNat) (3 / 10)
    else result
  let result := if v.maxStratum < resp.stratum then
      result.fail ("stratum " ++ toString resp.stratum.toNat ++ " above maximum " ++
        toString v.maxStratum.toNat) (3 / 10)
    else result
  let result := if v.checkKissOfDeath && resp.isKissOfDeath then
      result.fail ("Kiss-of-Death received: " ++ resp.kissCode) (1 / 2)
    else result
  let result := if v.maxClockSkew < absDuration resp.offset then
      result.warn ("large clock offset: " ++ durationString resp.offset) (1 / 5)
    else result
  let result := if (10000000000 : Duration) < resp.rtt then
      result.warn ("high RTT: " ++ durationString resp.rtt) (1 / 10)
    else result
  let result := if resp.rtt < 0 then result.fail "negative RTT" (3 / 10) else result
  let result := if resp.leapIndicator = 3 then
      result.warn "clock not synchronized (leap indicator = 3)" (1 / 5)
    else result
  let result := if resp.rootDelay < 0 then result.fail "negative root delay" (1 / 5) else result
  let result := if resp.rootDispersion < 0 then result.fail "negative root dispersion" (1 / 5)
    else result
  let result := if resp.referenceTime.isZero then result.warn "zero reference time" (1 / 10)
    else result
  result.clamp

/-- `GetSuspicionReason`: the first failed check of its list, `unknown` when none fails. -/
def getSuspicionReason (v : Validator) (resp : Response) : String :=
  if resp.stratum = 0 then "invalid_stratum"
  else if v.maxStratum < resp.stratum then "stratum_too_high"
  else if resp.isKissOfDeath then "kod_received"
  else if v.maxClockSkew < absDuration resp.offset then "time_mismatch"
  else if (10000000000 : Duration) < resp.rtt then "high_rtt"
  else if !resp.isValid then "validation_failed"
  else "unknown"

/-! ## The two classifications of a suspicious response -/

/-- `IsSuspicious` and the validator of `NewValidator` check the same things against the same
bounds: a response is suspicious exactly when the validator names a reason other than
`unknown`. -/
theorem isSuspicious_iff_getSuspicionReason (r : Response) :
    r.isSuspicious = true ↔ newValidator.getSuspicionReason r ≠ "unknown" := by
  dsimp only [Response.isSuspicious, getSuspicionReason, newValidator,
    Response.suspiciousOffsetThreshold, Response.maxAcceptableRTT]
  by_cases zero : r.stratum = 0
  · simp [zero]
  by_cases high : 15 < r.stratum
  · simp [zero, high]
  by_cases kod : r.isKissOfDeath
  · simp [zero, high, kod]
  by_cases skew : 3600000000000 < absDuration r.offset
  · simp [zero, high, kod, skew]
  by_cases slow : 10000000000 < r.rtt <;> simp [zero, high, kod, skew, slow]

/-- The stratum is checked before the kiss code, so a response whose kiss code comes with stratum
zero, as every kiss of death does, is never given the reason `kod_received`. -/
theorem getSuspicionReason_ne_kod (v : Validator) {r : Response}
    (wire : r.kissCode ≠ "" → r.stratum = 0) : v.getSuspicionReason r ≠ "kod_received" := by
  unfold getSuspicionReason
  by_cases zero : r.stratum = 0
  · simp [zero]
  have live : r.isKissOfDeath = false := by simpa [Response.isKissOfDeath] using mt wire zero
  simp only [zero, live, if_false, Bool.false_eq_true]
  split_ifs <;> decide

end Validator

/-! ## The free-standing checks -/

/-- `ValidateNTPResponse`: the error of the first check the response fails; `now` is
`time.Now()`. -/
def validateNTPResponse (now : Time) : Option Response → Except String Unit
  | none => .error "nil response"
  | some resp =>
      if resp.stratum = 0 ∧ resp.kissCode = "" then
        .error "invalid stratum 0 without Kiss-of-Death code"
      else if resp.stratum = 16 then .error "server is unsynchronized (stratum 16)"
      else if (10000000000 : Duration) < absDuration resp.offset then
        .error "excessive time drift detected"
      else if resp.referenceTime.after (now.addSeconds 60) then
        .error "future reference time detected"
      else if resp.rootDelay < 0 then .error "invalid negative root delay"
      else if (5000000000 : Duration) < resp.rootDispersion then .error "excessive root dispersion"
      else .ok ()

/-- `ValidateTimeout`. -/
def validateTimeout (timeout : Duration) : Except String Unit :=
  if timeout ≤ 0 then .error "timeout must be positive"
  else if timeout < 500000000 then .error "timeout too short (minimum 500ms)"
  else if (60000000000 : Duration) < timeout then .error "timeout too long (maximum 60s)"
  else .ok ()

/-- `ValidateStratum`: stratum zero passes with a kiss code, and otherwise the strata from one to
fifteen pass. -/
def validateStratum (stratum : UInt8) (kissCode : String) : Except String Unit :=
  if stratum = 0 ∧ kissCode ≠ "" then .ok ()
  else if stratum = 0 then .error "invalid stratum 0 without Kiss-of-Death"
  else if 15 < stratum then .error "invalid stratum (must be 1-15)"
  else .ok ()

/-- `CalculateTrustScore`: zero for a nil response or an invalid stratum, and otherwise one less
the penalties, clamped to `[0, 1]`. -/
def calculateTrustScore : Option Response → ℚ
  | none => 0
  | some resp =>
      if resp.stratum = 0 ∨ 15 < resp.stratum then 0
      else
        let score : ℚ := 1
        let score := if 5 < resp.stratum then score - 1 / 5 else score
        let offsetAbs := absDuration resp.offset
        let score := if (100000000 : Duration) < offsetAbs then score - 3 / 10
          else if (50000000 : Duration) < offsetAbs then score - 1 / 10 else score
        let score := if resp.kissCode ≠ "" then score - 1 / 2 else score
        let score := if resp.validateError.isSome then score - 3 / 10 else score
        let score := if score < 0 then 0 else score
        if 1 < score then 1 else score

/-- `IsSuspiciousResponse`. -/
def isSuspiciousResponse : Option Response → Bool
  | none => true
  | some resp =>
      if resp.stratum = 0 ∧ resp.kissCode = "" then true
      else if 15 < resp.stratum then true
      else if (10000000000 : Duration) < absDuration resp.offset then true
      else if resp.kissCode ≠ "" then true
      else if resp.validateError.isSome then true
      else false

/-- `DetectTimeAnomaly`: whether the offset is anomalous, and how much. -/
def detectTimeAnomaly : Option Response → Bool × String
  | none => (false, "")
  | some resp =>
      let offsetAbs := absDuration resp.offset
      if (5000000000 : Duration) < offsetAbs then (true, "critical")
      else if (1000000000 : Duration) < offsetAbs then (true, "major")
      else if (500000000 : Duration) < offsetAbs then (true, "moderate")
      else if (100000000 : Duration) < offsetAbs then (true, "minor")
      else (false, "")

/-- A response is not suspicious exactly when its stratum is from one to fifteen, its offset is
within ten seconds, and it has neither a kiss code nor a validation error. -/
theorem isSuspiciousResponse_eq_false_iff (resp : Response) :
    isSuspiciousResponse (some resp) = false ↔
      resp.stratum ≠ 0 ∧ ¬15 < resp.stratum ∧
        ¬(10000000000 : Duration) < absDuration resp.offset ∧ resp.kissCode = "" ∧
        resp.validateError = none := by
  unfold isSuspiciousResponse
  by_cases kiss : resp.kissCode = "" <;> by_cases zero : resp.stratum = 0 <;>
    simp [kiss, zero, Option.isSome_iff_ne_none]

/-- A response that `IsSuspiciousResponse` does not flag has a trust score of at least one half:
of the penalties, only those for a stratum above five and for an offset above 100 ms can apply. -/
theorem calculateTrustScore_of_not_suspicious {r : Option Response}
    (calm : isSuspiciousResponse r = false) : 1 / 2 ≤ calculateTrustScore r := by
  cases r with
  | none => exact absurd calm (by decide)
  | some resp =>
      obtain ⟨zero, high, -, kiss, valid⟩ := (isSuspiciousResponse_eq_false_iff resp).mp calm
      simp only [calculateTrustScore, zero, high, or_self, if_false, kiss, valid, ne_eq,
        not_true_eq_false, Option.isSome_none, Bool.false_eq_true]
      split_ifs <;> norm_num at *

theorem calculateTrustScore_of_not_suspicious_stratum_six :
    let resp : Response :=
      ⟨"pool.ntp.org", 200000000, 0, 6, ⟨0, 0⟩, 0, 0, 0, 0, 0, none, ""⟩
    isSuspiciousResponse (some resp) = false ∧ 1 / 2 ≤ calculateTrustScore (some resp) :=
  ⟨rfl, calculateTrustScore_of_not_suspicious rfl⟩

/-- `ValidateNTPResponse` rejects stratum 16 alone above fifteen: a response at any stratum from 17
on is judged as it would be at stratum one, although `ValidateStratum` rejects its stratum and
`IsSuspiciousResponse` flags it. -/
theorem validateNTPResponse_ignores_high_stratum (now : Time) (resp : Response)
    (high : 16 < resp.stratum) :
    validateNTPResponse now (some resp) =
        validateNTPResponse now (some { resp with stratum := 1 }) ∧
      validateStratum resp.stratum resp.kissCode = .error "invalid stratum (must be 1-15)" ∧
      isSuspiciousResponse (some resp) = true := by
  have big : 16 < resp.stratum.toNat := high
  have above : 15 < resp.stratum := show 15 < resp.stratum.toNat by omega
  have nonzero : resp.stratum ≠ 0 := fun zero => by rw [zero] at big; exact absurd big (by decide)
  have other : resp.stratum ≠ 16 := fun same => by rw [same] at big; exact absurd big (by decide)
  refine ⟨?_, ?_, ?_⟩ <;>
    simp [validateNTPResponse, validateStratum, isSuspiciousResponse, above, nonzero, other]

theorem validateNTPResponse_ignores_high_stratum_twenty :
    let resp : Response := ⟨"pool.ntp.org", 0, 0, 20, ⟨0, 0⟩, 0, 0, 0, 0, 0, none, ""⟩
    16 < resp.stratum ∧
      (validateNTPResponse ⟨63900000000, 0⟩ (some resp) =
          validateNTPResponse ⟨63900000000, 0⟩ (some { resp with stratum := 1 }) ∧
        validateStratum resp.stratum resp.kissCode = .error "invalid stratum (must be 1-15)" ∧
        isSuspiciousResponse (some resp) = true) :=
  ⟨by decide, validateNTPResponse_ignores_high_stratum ⟨63900000000, 0⟩ _ (by decide)⟩

end NtpExporter
