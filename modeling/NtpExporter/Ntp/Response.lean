import NtpExporter.Go.Time

/-!
# NTP responses

`Response` of the NTP client: one completed exchange, normalized from the wire reply. The model
keeps the fields that the collectors, the validator and the pool read; `Poll`, `ReferenceID`,
`Time` and `MinError` are copied from the reply and read by nothing modelled here.
-/

namespace NtpExporter

/-- `Response`: one completed NTP exchange. -/
structure Response where
  /-- `Server`: the target as configured. -/
  server : String
  /-- `Offset`: the clock offset, which may be negative. -/
  offset : Duration
  /-- `RTT`: the round-trip time. -/
  rtt : Duration
  /-- `Stratum`. -/
  stratum : UInt8
  /-- `ReferenceTime`: the server's reference timestamp, zero when unknown. -/
  referenceTime : Time
  /-- `RootDelay`. -/
  rootDelay : Duration
  /-- `RootDispersion`. -/
  rootDispersion : Duration
  /-- `RootDistance`. -/
  rootDistance : Duration
  /-- `Precision`. -/
  precision : Duration
  /-- `LeapIndicator`. -/
  leapIndicator : UInt8
  /-- `ValidateError`: the reply's structural validation error, if any. -/
  validateError : Option String
  /-- `KissCode`: the kiss-of-death code, empty when there is none. -/
  kissCode : String
  deriving DecidableEq

namespace Response

/-- `IsKissOfDeath`. -/
def isKissOfDeath (r : Response) : Bool := r.kissCode != ""

/-- `IsValid`: the reply passed structural validation. -/
def isValid (r : Response) : Bool := r.validateError.isNone

/-- `SuspiciousOffsetThreshold`: an hour. -/
def suspiciousOffsetThreshold : Duration := 3600000000000

/-- `MaxAcceptableRTT`: ten seconds. -/
def maxAcceptableRTT : Duration := 10000000000

/-- `IsSuspicious`: a stratum of zero or above fifteen, a kiss code, a failed validation, an offset
beyond `SuspiciousOffsetThreshold` or a round trip beyond `MaxAcceptableRTT`. -/
def isSuspicious (r : Response) : Bool :=
  if r.stratum = 0 ∨ 15 < r.stratum then true
  else if r.isKissOfDeath then true
  else if !r.isValid then true
  else if suspiciousOffsetThreshold < absDuration r.offset then true
  else if maxAcceptableRTT < r.rtt then true
  else false

end Response

end NtpExporter
