import NtpExporter.Config
import NtpExporter.Metrics

/-!
# What the collectors share

`CommonCollector.IterateServers`: a collector's per-server function run over the configured
servers in order. A server whose collection fails is logged and skipped, and since every
collector returns its error before writing a gauge, the metrics stay as they were.
-/

namespace NtpExporter

namespace CommonCollector

/-- `IterateServers`: each server's collection in turn, a failed one leaving the metrics as they
were. -/
def iterateServers (collectFunc : String → NTPMetrics → Except String NTPMetrics) :
    List String → NTPMetrics → NTPMetrics
  | [], m => m
  | server :: rest, m =>
      match collectFunc server m with
      | .ok after => iterateServers collectFunc rest after
      | .error _ => iterateServers collectFunc rest m

/-- A reflexive and transitive relation that every successful collection establishes holds
between the metrics before and after the loop. -/
theorem iterateServers_rel {R : NTPMetrics → NTPMetrics → Prop} (refl : ∀ m, R m m)
    (trans : ∀ {m middle after}, R m middle → R middle after → R m after)
    {collectFunc : String → NTPMetrics → Except String NTPMetrics}
    (step : ∀ server m after, collectFunc server m = .ok after → R m after) (servers : List String)
    (m : NTPMetrics) : R m (iterateServers collectFunc servers m) := by
  induction servers generalizing m with
  | nil => exact refl m
  | cons server rest ih =>
      rw [iterateServers]
      split
      · exact trans (step server m _ ‹_›) (ih _)
      · exact ih m

end CommonCollector

end NtpExporter
